import TokenSync.Agent.WriteBody
import TokenSync.Proofs.Record

/-!
# What written bodies tell

Every value that is written is read back as what it was written for. A document that is overlaid
with the entries of a body can therefore still be read, and tells what the body tells.
-/
namespace TokenSync

open Json

/-! ## Grants -/

theorem readText_string (text : String) : readText (Json.string text) = .ok text := rfl

theorem readOptional_ofText? (text : Option String) :
    readOptional readText (ofText? text) = .ok text := by
  cases text <;> rfl

theorem readList_ofList {α : Type} {read : Json → Except Fault α} {write : α → Json}
    (h : ∀ a, read (write a) = .ok a) (items : List α) :
    readList read (Json.ofList write items) = .ok items := by
  change (items.map write).mapM read = .ok items
  rw [mapM_eq_ok_iff, List.forall₂_map_left_iff]
  exact List.forall₂_same.2 fun a _ => h a

theorem readOptional_ofList {α : Type} {read : Json → Except Fault α} {write : α → Json}
    (h : ∀ a, read (write a) = .ok a) (items : List α) :
    readOptional (readList read) (Json.ofList write items) = .ok (some items) :=
  map_eq_ok_iff.2 ⟨items, readList_ofList h items, rfl⟩

theorem Link.read_toJson (link : Link) : Link.read link.toJson = .ok link := by
  obtain ⟨id, name⟩ := link
  cases id <;> cases name <;> rfl

theorem NodeIdentity.read_toJson (identity : NodeIdentity) :
    NodeIdentity.read identity.toJson = .ok identity := by
  obtain ⟨node, datacenter⟩ := identity
  cases datacenter <;> rfl

theorem readOptional_datacenters (datacenters : Option (List String)) :
    readOptional (readList readText) ((datacenters.map (Json.ofList .string)).getD .null) =
      .ok datacenters := by
  cases datacenters with
  | none => rfl
  | some datacenters => exact readOptional_ofList readText_string datacenters

theorem ServiceIdentity.read_toJson (identity : ServiceIdentity) :
    ServiceIdentity.read identity.toJson = .ok identity := by
  have hread := readOptional_datacenters identity.datacenters
  unfold ServiceIdentity.toJson
  generalize (identity.datacenters.map (Json.ofList .string)).getD .null = value at hread ⊢
  have hcheck : (datacentersField.check : Check Json).run value = .ok () :=
    map_eq_ok_iff.2 ⟨_, hread, rfl⟩
  refine bind_eq_ok_iff.2 ⟨⟨[("Datacenters", value), ("ServiceName", .string identity.service)],
    .missingField⟩, ?_, ?_⟩
  · refine bind_eq_ok_iff.2 ⟨.object [(some "Datacenters", value),
      (some "ServiceName", .string identity.service)], rfl, ?_⟩
    refine bind_eq_ok_iff.2 ⟨_, bind_eq_ok_iff.2 ⟨(), hcheck, rfl⟩, rfl⟩
  · exact bind_eq_ok_iff.2 ⟨_, rfl, bind_eq_ok_iff.2 ⟨_, hread, rfl⟩⟩

/-! ## Entries of bodies -/

/-- The entries of the body that updates a token. -/
def Desired.updateEntries (desired : Desired) (version : Version) : Entries :=
  Keyed.ofList (desired.writeEntries version)

/-- The entries of the body that creates a token. -/
def Desired.createEntries (desired : Desired) (version : Version) : Entries :=
  Keyed.ofList (desired.identityEntries ++ desired.writeEntries version)

theorem Desired.mem_entryIf {known : Bool} {name : String} {value : Json} {entry : String × Json} :
    entry ∈ entryIf known name value ↔ known = true ∧ entry = (name, value) := by
  cases known <;> simp [entryIf]

theorem Desired.mem_writeEntries {desired : Desired} {version : Version} {entry : String × Json} :
    entry ∈ desired.writeEntries version ↔
      entry = ("Description", .string desired.description) ∨
      entry = ("Policies", Json.ofList Link.toJson desired.policies) ∨
      entry = ("Roles", Json.ofList Link.toJson desired.roles) ∨
      entry = ("Local", .bool desired.isLocal) ∨
      version.knowsServiceIdentities = true ∧ entry = ("ServiceIdentities",
        Json.ofList ServiceIdentity.toJson desired.serviceIdentities) ∨
      version.knowsNodeIdentities = true ∧ entry = ("NodeIdentities",
        Json.ofList NodeIdentity.toJson desired.nodeIdentities) := by
  simp only [writeEntries, List.mem_append, List.mem_cons, List.not_mem_nil, or_false,
    mem_entryIf, or_assoc]

/-- Bodies depend on the version by what its agents know. -/
theorem Desired.writeEntries_congr (desired : Desired) {version version' : Version}
    (hservices : version.knowsServiceIdentities = version'.knowsServiceIdentities)
    (hnodes : version.knowsNodeIdentities = version'.knowsNodeIdentities) :
    desired.writeEntries version = desired.writeEntries version' := by
  unfold writeEntries
  rw [hservices, hnodes]

/-- No name stands in a body twice. -/
theorem Desired.nodup_entries (desired : Desired) (version : Version) :
    ((desired.identityEntries ++ desired.writeEntries version).map Prod.fst).Nodup := by
  unfold writeEntries identityEntries entryIf
  cases version.knowsServiceIdentities <;> cases version.knowsNodeIdentities <;> simp

theorem Desired.nodup_writeEntries (desired : Desired) (version : Version) :
    ((desired.writeEntries version).map Prod.fst).Nodup :=
  (desired.nodup_entries version).sublist ((List.sublist_append_right _ _).map _)

theorem Desired.once_entries (desired : Desired) (version : Version) :
    Keyed.Once TokenRecord.names (desired.identityEntries ++ desired.writeEntries version) :=
  (desired.nodup_entries version).filter _

namespace TokenRecord

/-- An entry that is read when it stands in a document. -/
def Fits (entry : String × Json) : Prop :=
  ∀ check ∈ (checks : List (Check Json)), check.name = entry.1 → check.run entry.2 = .ok ()

theorem fits_of_read {τ : Type} {name : String} {read : Json → Except Fault τ} {value : Json}
    {content : Option τ} (hcheck : (optionalField name read).check ∈ (checks : List (Check Json)))
    (hread : readOptional read value = .ok content) : Fits (name, value) := by
  intro check hmem hname
  have hfind : checks.find? (·.name == name) = some check :=
    (find?_name_eq_some_iff nodup_checkNames).2 ⟨hmem, hname⟩
  have hown : checks.find? (·.name == name) = some (optionalField name read).check :=
    (find?_name_eq_some_iff nodup_checkNames).2 ⟨hcheck, rfl⟩
  obtain rfl := Option.some.inj (hfind.symm.trans hown)
  exact map_eq_ok_iff.2 ⟨content, hread, rfl⟩

/-- A document that can be read can still be read with entries over it that fit. -/
theorem Readable.overlay {earlier later : Entries} (h : Readable earlier)
    (hfits : ∀ entry ∈ later, Fits entry) : Readable (Keyed.overlay earlier later) := by
  intro check hcheck value hvalue
  rw [Keyed.get?_overlay] at hvalue
  cases hlater : later.reverse.lookup check.name with
  | none =>
    rw [hlater, Option.none_or] at hvalue
    exact h check hcheck value hvalue
  | some written =>
    rw [hlater, Option.some_or] at hvalue
    obtain rfl := Option.some.inj hvalue
    exact hfits _ (List.mem_reverse.1 (Keyed.mem_of_get?_eq_some hlater)) check hcheck rfl

theorem fits_of_mem_writeEntries {desired : Desired} {version : Version} {entry : String × Json}
    (h : entry ∈ desired.writeEntries version) : Fits entry := by
  rcases Desired.mem_writeEntries.1 h with rfl | rfl | rfl | rfl | ⟨-, rfl⟩ | ⟨-, rfl⟩
  · exact fits_of_read (show descriptionField.check ∈ checks by simp [checks]) rfl
  · exact fits_of_read (show policiesField.check ∈ checks by simp [checks])
      (readOptional_ofList Link.read_toJson _)
  · exact fits_of_read (show rolesField.check ∈ checks by simp [checks])
      (readOptional_ofList Link.read_toJson _)
  · exact fits_of_read (show localField.check ∈ checks by simp [checks]) rfl
  · exact fits_of_read (show serviceIdentitiesField.check ∈ checks by simp [checks])
      (readOptional_ofList ServiceIdentity.read_toJson _)
  · exact fits_of_read (show nodeIdentitiesField.check ∈ checks by simp [checks])
      (readOptional_ofList NodeIdentity.read_toJson _)

theorem fits_of_mem_identityEntries {desired : Desired} {entry : String × Json}
    (h : entry ∈ desired.identityEntries) : Fits entry := by
  simp only [Desired.identityEntries, List.mem_cons, List.not_mem_nil, or_false] at h
  rcases h with rfl | rfl
  · exact fits_of_read (show accessorField.check ∈ checks by simp [checks]) rfl
  · exact fits_of_read (show secretField.check ∈ checks by simp [checks])
      (readOptional_ofText? _)

end TokenRecord

/-! ## Documents under a body -/

namespace Desired

/-- The managed attributes are the desired ones, as far as an agent of a version knows them. -/
structure MetBy (desired : Desired) (version : Version) (managed : Managed) : Prop where
  description : managed.description = some desired.description
  isLocal : managed.isLocal = some desired.isLocal
  policies : managed.policies = some desired.policies
  roles : managed.roles = some desired.roles
  serviceIdentities : version.knowsServiceIdentities = true →
    managed.serviceIdentities = some desired.serviceIdentities
  nodeIdentities : version.knowsNodeIdentities = true →
    managed.nodeIdentities = some desired.nodeIdentities

/-- A document that has all that is written tells what is desired. -/
theorem metBy_of_get? {desired : Desired} {version : Version} {entries : Entries}
    {record : TokenRecord} (hread : TokenRecord.read 0 (Json.object entries) = .ok record)
    (hget : ∀ entry ∈ desired.writeEntries version, entries.get? entry.1 = some entry.2) :
    desired.MetBy version record.toManaged := by
  obtain ⟨-, hholds, -⟩ := TokenRecord.read_object_iff.1 hread
  have hdescription := hget ("Description", .string desired.description)
    (by simp [mem_writeEntries])
  have hlocal := hget ("Local", .bool desired.isLocal) (by simp [mem_writeEntries])
  have hpolicies := hget ("Policies", Json.ofList Link.toJson desired.policies)
    (by simp [mem_writeEntries])
  have hroles := hget ("Roles", Json.ofList Link.toJson desired.roles) (by simp [mem_writeEntries])
  constructor
  · exact TokenRecord.content_eq_of_get? hholds.description hdescription rfl
  · exact TokenRecord.content_eq_of_get? hholds.isLocal hlocal rfl
  · exact TokenRecord.content_eq_of_get? hholds.policies hpolicies
      (readOptional_ofList Link.read_toJson _)
  · exact TokenRecord.content_eq_of_get? hholds.roles hroles
      (readOptional_ofList Link.read_toJson _)
  · intro hknown
    have hservices := hget ("ServiceIdentities",
        Json.ofList ServiceIdentity.toJson desired.serviceIdentities)
      (by simp [mem_writeEntries, hknown])
    exact TokenRecord.content_eq_of_get? hholds.serviceIdentities hservices
      (readOptional_ofList ServiceIdentity.read_toJson _)
  · intro hknown
    have hnodes := hget ("NodeIdentities",
        Json.ofList NodeIdentity.toJson desired.nodeIdentities)
      (by simp [mem_writeEntries, hknown])
    exact TokenRecord.content_eq_of_get? hholds.nodeIdentities hnodes
      (readOptional_ofList NodeIdentity.read_toJson _)

theorem name_mem_of_mem_writeEntries {desired : Desired} {version : Version}
    {entry : String × Json} (h : entry ∈ desired.writeEntries version) :
    entry.1 ∈ TokenRecord.managedNames := by
  rcases mem_writeEntries.1 h with rfl | rfl | rfl | rfl | ⟨-, rfl⟩ | ⟨-, rfl⟩ <;>
    simp [TokenRecord.managedNames]

theorem managedNames_subset : TokenRecord.managedNames ⊆ TokenRecord.names :=
  List.subset_cons_of_subset _ (List.subset_cons_self _ _)

theorem get?_createEntries {desired : Desired} {version : Version} {entry : String × Json}
    (h : entry ∈ desired.identityEntries ++ desired.writeEntries version)
    (hname : entry.1 ∈ TokenRecord.names) :
    (desired.createEntries version).get? entry.1 = some entry.2 :=
  (desired.once_entries version).get?_ofList_of_mem hname h

theorem get?_createEntries_accessor (desired : Desired) (version : Version) :
    (desired.createEntries version).get? "AccessorID" = some (.string desired.id) :=
  (desired.once_entries version).get?_ofList_of_mem (by simp [TokenRecord.names])
    (by simp [identityEntries])

theorem ordered_updateEntries (desired : Desired) (version : Version) :
    (desired.updateEntries version).Ordered := Keyed.ordered_ofList _

theorem ordered_createEntries (desired : Desired) (version : Version) :
    (desired.createEntries version).Ordered := Keyed.ordered_ofList _

/-- An update puts what is written under its name. -/
theorem get?_overlay_of_mem {desired : Desired} {version : Version} {entry : String × Json}
    (h : entry ∈ desired.writeEntries version) (old : Entries) :
    (Keyed.overlay old (desired.updateEntries version)).get? entry.1 = some entry.2 := by
  have hmem : entry ∈ desired.updateEntries version :=
    (Keyed.mem_ofList_iff (desired.nodup_writeEntries version)).2 h
  have hget : (desired.updateEntries version).get? entry.1 = some entry.2 :=
    (desired.ordered_updateEntries version).get?_of_mem hmem
  rw [(desired.ordered_updateEntries version).get?_overlay, hget, Option.some_or]

/-- An update has nothing under other names. -/
theorem get?_updateEntries_of_not_mem {name : String} (hname : name ∉ TokenRecord.managedNames)
    (desired : Desired) (version : Version) :
    (desired.updateEntries version).get? name = none := by
  refine Keyed.get?_eq_none_iff.2 fun entry hentry heq => hname ?_
  exact heq ▸ name_mem_of_mem_writeEntries (Keyed.mem_of_mem_ofList hentry)

/-- An update leaves what stands under other names. -/
theorem get?_overlay_of_not_mem {name : String} (hname : name ∉ TokenRecord.managedNames)
    (desired : Desired) (version : Version) (old : Entries) :
    (Keyed.overlay old (desired.updateEntries version)).get? name = old.get? name := by
  rw [(desired.ordered_updateEntries version).get?_overlay,
    get?_updateEntries_of_not_mem hname, Option.none_or]

end Desired

end TokenSync
