import TokenSync.Config.Settings

/-!
# The description of a token

What a caller writes about the token that should or should not exist. The elements of its four
lists are kept as they are written; whether they describe grants is checked later.
-/
namespace TokenSync

open Json

/-- Whether a token should exist. -/
inductive Presence where
  | present
  | absent
deriving DecidableEq, Repr

namespace Presence

/-- The name of a state. -/
def name : Presence → String
  | .present => "present"
  | .absent => "absent"

/-- The state with a name. -/
def ofName? (text : String) : Option Presence :=
  if text = "present" then some .present
  else if text = "absent" then some .absent
  else none

/-- The state with a name in which upper and lower case of ASCII letters count the same. -/
def ofNameIgnoringCase? (text : String) : Option Presence :=
  ofName? (String.ofList (text.toList.map Char.toLower))

/-- Reads a state. -/
def read : Json → Except Fault Presence :=
  readVariant ("present", .present) ("absent", .absent)

theorem ofName?_name (state : Presence) : ofName? state.name = some state := by
  cases state <;> rfl

end Presence

/-- The description of a token. -/
structure TokenSpec where
  /-- The identifier the token is created with and found by. -/
  id : String := ""
  description : String := ""
  isLocal : Bool := false
  /-- The secret the token is created with. -/
  secret : Option Secret := none
  state : Presence := .present
  policies : List Json := []
  roles : List Json := []
  serviceIdentities : List Json := []
  nodeIdentities : List Json := []
deriving DecidableEq

instance : Inhabited TokenSpec := ⟨{}⟩

namespace TokenSpec

/-- The description of a token of which only the identifier is known. -/
def ofId (id : String) : TokenSpec where
  id := id
  description := ""
  isLocal := false
  secret := none
  state := .present
  policies := []
  roles := []
  serviceIdentities := []
  nodeIdentities := []

/-- The field of the identifier. -/
def idField : FieldSpec Json String := ⟨"id", readText, some ""⟩

/-- The field of the description. -/
def descriptionField : FieldSpec Json String := ⟨"description", readText, some ""⟩

/-- The field of the restriction to one datacenter. -/
def localField : FieldSpec Json Bool := ⟨"local", readBool, some false⟩

/-- The field of the secret. -/
def secretField : FieldSpec Json (Option Secret) :=
  ⟨"secret", readOptional Secret.read, some none⟩

/-- The field of the state. -/
def stateField : FieldSpec Json Presence := ⟨"state", Presence.read, some .present⟩

/-- A field of a list whose elements are kept as they are. -/
def listField (name : String) : FieldSpec Json (List Json) :=
  ⟨name, readList (readValue depthLimit), some []⟩

/-- The field of the policies. -/
def policiesField : FieldSpec Json (List Json) := listField "policies"

/-- The field of the roles. -/
def rolesField : FieldSpec Json (List Json) := listField "roles"

/-- The field of the service identities. -/
def serviceIdentitiesField : FieldSpec Json (List Json) := listField "service_identities"

/-- The field of the node identities. -/
def nodeIdentitiesField : FieldSpec Json (List Json) := listField "node_identities"

/-- The fields of a description in their order. -/
def checks : List (Check Json) :=
  [idField.check, descriptionField.check, localField.check, secretField.check, stateField.check,
    policiesField.check, rolesField.check, serviceIdentitiesField.check, nodeIdentitiesField.check]

/-- Reads a description. -/
def read (value : Json) : Except Fault TokenSpec := do
  let given ← readStructure "TokenConfig" checks value
  return {
    id := ← given.get idField
    description := ← given.get descriptionField
    isLocal := ← given.get localField
    secret := ← given.get secretField
    state := ← given.get stateField
    policies := ← given.get policiesField
    roles := ← given.get rolesField
    serviceIdentities := ← given.get serviceIdentitiesField
    nodeIdentities := ← given.get nodeIdentitiesField }

end TokenSpec

end TokenSync
