import TokenSync.Json.Source

/-!
# What a token grants

A token grants the rights of policies and roles, to which it links by identifier or name, and the
identities of services and nodes. Each kind has one written form with all of its keys; in a
document it is also read from an array of its fields, and keys that nobody knows are passed over.
-/
namespace TokenSync

/-- A reference to a policy or a role. -/
structure Link where
  id : Option String
  name : Option String
deriving DecidableEq, Repr

/-- The identity of a service, in some datacenters or, if there is no list of them, in all. -/
structure ServiceIdentity where
  service : String
  datacenters : Option (List String)
deriving DecidableEq, Repr

/-- The identity of a node, in one datacenter or in all. -/
structure NodeIdentity where
  node : String
  datacenter : Option String
deriving DecidableEq, Repr

open Json

/-! ## Links -/

namespace Link

/-- The written form of a link. -/
def toJson (link : Link) : Json :=
  .object [("ID", ofText? link.id), ("Name", ofText? link.name)]

variable {α : Type} [Source α]

/-- The field of the identifier. -/
def idField : FieldSpec α (Option String) := ⟨"ID", readOptional readText, some none⟩

/-- The field of the name. -/
def nameField : FieldSpec α (Option String) := ⟨"Name", readOptional readText, some none⟩

/-- Reads a link; either part may be missing or null. -/
def read (a : α) : Except Fault Link := do
  let given ← readStructure "Link" [idField.check, nameField.check] a
  return { id := ← given.get idField, name := ← given.get nameField }

end Link

/-! ## Service identities -/

namespace ServiceIdentity

/-- The written form of a service identity. -/
def toJson (identity : ServiceIdentity) : Json :=
  .object [("Datacenters", (identity.datacenters.map (Json.ofList .string)).getD .null),
    ("ServiceName", .string identity.service)]

variable {α : Type} [Source α]

/-- The field of the service's name. -/
def serviceField : FieldSpec α String := ⟨"ServiceName", readText, none⟩

/-- The field of the datacenters. -/
def datacentersField : FieldSpec α (Option (List String)) :=
  ⟨"Datacenters", readOptional (readList readText), some none⟩

/-- Reads a service identity; the datacenters may be missing or null. -/
def read (a : α) : Except Fault ServiceIdentity := do
  let given ← readStructure "ServiceIdentity" [serviceField.check, datacentersField.check] a
  return { service := ← given.get serviceField, datacenters := ← given.get datacentersField }

end ServiceIdentity

/-! ## Node identities -/

namespace NodeIdentity

/-- The written form of a node identity. -/
def toJson (identity : NodeIdentity) : Json :=
  .object [("Datacenter", ofText? identity.datacenter), ("NodeName", .string identity.node)]

variable {α : Type} [Source α]

/-- The field of the node's name. -/
def nodeField : FieldSpec α String := ⟨"NodeName", readText, none⟩

/-- The field of the datacenter. -/
def datacenterField : FieldSpec α (Option String) :=
  ⟨"Datacenter", readOptional readText, some none⟩

/-- Reads a node identity; the datacenter may be missing or null. -/
def read (a : α) : Except Fault NodeIdentity := do
  let given ← readStructure "NodeIdentity" [nodeField.check, datacenterField.check] a
  return { node := ← given.get nodeField, datacenter := ← given.get datacenterField }

end NodeIdentity

end TokenSync
