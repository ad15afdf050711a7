import TokenSync.Grant.Basic

/-!
# Stored tokens

A token as the agent reports it. A listing reports part of a token and a single request all of it,
so every attribute may be missing, and null counts as missing. What the attributes below do not
cover is kept as it is and written back. Two records of one token merge into the overlay of their
documents, and six attributes decide whether a token has changed.
-/
namespace TokenSync

open Json

/-- The attributes of a token that a description determines. -/
structure Managed where
  description : Option String
  isLocal : Option Bool
  policies : Option (List Link)
  roles : Option (List Link)
  serviceIdentities : Option (List ServiceIdentity)
  nodeIdentities : Option (List NodeIdentity)
deriving DecidableEq, Repr

/-- What a document tells of a stored token. -/
structure TokenRecord extends Managed where
  accessor : Option String
  secret : Option String
  extra : Entries
deriving DecidableEq

/-- The managed attributes of nothing. -/
def Managed.empty : Managed := ⟨none, none, none, none, none, none⟩

namespace TokenRecord

/-- The record of the empty document. -/
def empty : TokenRecord := { Managed.empty with accessor := none, secret := none, extra := [] }

/-! ## Reading -/

section
variable {α : Type} [Source α]

/-- An attribute that may be missing or null. -/
def optionalField (name : String) (read : α → Except Fault τ) : FieldSpec α (Option τ) :=
  ⟨name, readOptional read, some none⟩

/-- The identifier of the token. -/
def accessorField : FieldSpec α (Option String) := optionalField "AccessorID" readText

/-- The secret the token is used by. -/
def secretField : FieldSpec α (Option String) := optionalField "SecretID" readText

/-- The description of the token. -/
def descriptionField : FieldSpec α (Option String) := optionalField "Description" readText

/-- Whether the token is valid in one datacenter only. -/
def localField : FieldSpec α (Option Bool) := optionalField "Local" readBool

/-- The policies the token links to. -/
def policiesField : FieldSpec α (Option (List Link)) :=
  optionalField "Policies" (readList Link.read)

/-- The roles the token links to. -/
def rolesField : FieldSpec α (Option (List Link)) := optionalField "Roles" (readList Link.read)

/-- The service identities of the token. -/
def serviceIdentitiesField : FieldSpec α (Option (List ServiceIdentity)) :=
  optionalField "ServiceIdentities" (readList ServiceIdentity.read)

/-- The node identities of the token. -/
def nodeIdentitiesField : FieldSpec α (Option (List NodeIdentity)) :=
  optionalField "NodeIdentities" (readList NodeIdentity.read)

/-- The attributes a record has a place for. -/
def checks : List (Check α) :=
  [accessorField.check, secretField.check, descriptionField.check, localField.check,
    policiesField.check, rolesField.check, serviceIdentitiesField.check, nodeIdentitiesField.check]

/-- Reads a record that is nested so deep in a document. -/
def read (depth : Nat) (a : α) : Except Fault TokenRecord := do
  let (given, others) ← readOpenStructure "RemoteToken" checks (depthLimit - (depth + 1)) a
  return {
    accessor := ← given.get accessorField
    secret := ← given.get secretField
    description := ← given.get descriptionField
    isLocal := ← given.get localField
    policies := ← given.get policiesField
    roles := ← given.get rolesField
    serviceIdentities := ← given.get serviceIdentitiesField
    nodeIdentities := ← given.get nodeIdentitiesField
    extra := Keyed.ofList others }

end

/-! ## Writing -/

/-- The attributes of a record that are there, under their names. -/
def attributes (record : TokenRecord) : List (String × Json) :=
  [("AccessorID", record.accessor.map .string),
    ("SecretID", record.secret.map .string),
    ("Description", record.description.map .string),
    ("Local", record.isLocal.map .bool),
    ("Policies", record.policies.map (Json.ofList Link.toJson)),
    ("Roles", record.roles.map (Json.ofList Link.toJson)),
    ("ServiceIdentities", record.serviceIdentities.map (Json.ofList ServiceIdentity.toJson)),
    ("NodeIdentities", record.nodeIdentities.map (Json.ofList NodeIdentity.toJson))].filterMap
    fun (name, value) => value.map (name, ·)

/-- The entries of a record's document. -/
def entries (record : TokenRecord) : Entries := Keyed.overlay record.extra record.attributes

/-- The document of a record: what is missing is left out. -/
def toJson (record : TokenRecord) : Json := .object record.entries

/-! ## Merging and comparing -/

/-- What a listing and the full record tell of one token: the full record counts where it tells
something. -/
def merge (listed full : TokenRecord) : TokenRecord where
  accessor := full.accessor.or listed.accessor
  secret := full.secret.or listed.secret
  description := full.description.or listed.description
  isLocal := full.isLocal.or listed.isLocal
  policies := full.policies.or listed.policies
  roles := full.roles.or listed.roles
  serviceIdentities := full.serviceIdentities.or listed.serviceIdentities
  nodeIdentities := full.nodeIdentities.or listed.nodeIdentities
  extra := Keyed.overlay listed.extra full.extra

/-- Whether a managed attribute has another value in the other record. -/
def differsFrom (record other : TokenRecord) : Bool := record.toManaged ≠ other.toManaged

theorem differsFrom_eq_false_iff {record other : TokenRecord} :
    record.differsFrom other = false ↔ record.toManaged = other.toManaged := by
  simp [differsFrom]

end TokenRecord

end TokenSync
