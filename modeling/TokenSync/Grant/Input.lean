import TokenSync.Grant.Basic

/-!
# Grants as a caller writes them

A caller describes grants by mappings with the keys `id`, `name`, `datacenters` and `datacenter`.
Each kind of grant has one shape that is accepted, all other keys are ignored, and the first thing
that is wrong with a mapping is the reason for its rejection.
-/
namespace TokenSync

/-- Why a caller's description of a grant is rejected. -/
inductive Reason where
  | notLink
  | notServiceIdentity
  | notNodeIdentity
  | notText (key : String)
  | required (key : String)
  | neitherSet
  | datacenterNotText
  | datacentersNotList
deriving DecidableEq, Repr

/-- The wording of a reason. -/
def Reason.message : Reason → String
  | .notLink => "must be a mapping with the keys id and/or name"
  | .notServiceIdentity => "must be a mapping with the keys name and optionally datacenters"
  | .notNodeIdentity => "must be a mapping with the keys name and optionally datacenter"
  | .notText key => "'" ++ key ++ "' must be a string"
  | .required key => "'" ++ key ++ "' is required"
  | .neitherSet => "at least one of id or name must be set"
  | .datacenterNotText => "datacenters must only contain strings"
  | .datacentersNotList => "datacenters must be a list of strings"

namespace Json

/-- The entries of an object, or the reason why a value without entries is rejected. -/
def entriesOr (reason : Reason) : Json → Except Reason Entries
  | .object entries => .ok entries
  | _ => .error reason

/-- The text under a key, which may be missing or null. -/
def Entries.textAt? (entries : Entries) (key : String) : Except Reason (Option String) :=
  match entries.get? key with
  | none | some .null => .ok none
  | some (.string text) => .ok (some text)
  | some _ => .error (.notText key)

/-- The text under a key that has to be there. -/
def Entries.textAt (entries : Entries) (key : String) : Except Reason String := do
  match ← entries.textAt? key with
  | some text => .ok text
  | none => .error (.required key)

/-- A value that is a text. -/
def asDatacenter : Json → Except Reason String
  | .string name => .ok name
  | _ => .error .datacenterNotText

/-- The list of texts under `datacenters`, which may be missing or null. -/
def Entries.datacenters? (entries : Entries) : Except Reason (Option (List String)) :=
  match entries.get? "datacenters" with
  | none | some .null => .ok none
  | some (.array items) => some <$> items.mapM asDatacenter
  | some _ => .error .datacentersNotList

end Json

/-- The link a caller describes: at least one of `id` and `name` is set. -/
def Link.ofInput (input : Json) : Except Reason Link := do
  let entries ← input.entriesOr .notLink
  let id ← entries.textAt? "id"
  let name ← entries.textAt? "name"
  if id.isNone && name.isNone then .error .neitherSet else .ok { id, name }

/-- The service identity a caller describes. -/
def ServiceIdentity.ofInput (input : Json) : Except Reason ServiceIdentity := do
  let entries ← input.entriesOr .notServiceIdentity
  let service ← entries.textAt "name"
  let datacenters ← entries.datacenters?
  return { service, datacenters }

/-- The node identity a caller describes. -/
def NodeIdentity.ofInput (input : Json) : Except Reason NodeIdentity := do
  let entries ← input.entriesOr .notNodeIdentity
  let node ← entries.textAt "name"
  let datacenter ← entries.textAt? "datacenter"
  return { node, datacenter }

end TokenSync
