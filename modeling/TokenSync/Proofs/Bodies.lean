import TokenSync.Agent.Client
import TokenSync.Proofs.Rewriting

/-!
# Bodies as documents

The bodies that are written are documents of tokens themselves: they are read as the records of what
is desired, as far as an agent of a version knows it, and hold nothing else.
-/
namespace TokenSync

open Json

namespace Desired

variable {desired : Desired} {version : Version} {key : String} {value : Json}

/-! ## Entries -/

/-- The entries of a body that updates a token, in full. -/
inductive Sends (desired : Desired) (version : Version) : String → Json → Prop
  | description : Sends desired version "Description" (.string desired.description)
  | isLocal : Sends desired version "Local" (.bool desired.isLocal)
  | policies : Sends desired version "Policies" (.array (desired.policies.map fun link =>
      .object [("ID", ofText? link.id), ("Name", ofText? link.name)]))
  | roles : Sends desired version "Roles" (.array (desired.roles.map fun link =>
      .object [("ID", ofText? link.id), ("Name", ofText? link.name)]))
  | serviceIdentities (hknown : version.knowsServiceIdentities = true) :
      Sends desired version "ServiceIdentities"
        (.array (desired.serviceIdentities.map fun identity => .object
          [("Datacenters",
            (identity.datacenters.map fun names => .array (names.map .string)).getD .null),
          ("ServiceName", .string identity.service)]))
  | nodeIdentities (hknown : version.knowsNodeIdentities = true) :
      Sends desired version "NodeIdentities"
        (.array (desired.nodeIdentities.map fun identity => .object
          [("Datacenter", ofText? identity.datacenter), ("NodeName", .string identity.node)]))

theorem Sends.ne_null (h : desired.Sends version key value) : value ≠ .null := by
  rintro rfl
  cases h

theorem sends_iff_mem_writeEntries :
    desired.Sends version key value ↔ (key, value) ∈ desired.writeEntries version := by
  rw [mem_writeEntries]
  constructor
  · rintro (_ | _ | _ | _ | hknown | hknown)
    · exact .inl rfl
    · exact .inr (.inr (.inr (.inl rfl)))
    · exact .inr (.inl rfl)
    · exact .inr (.inr (.inl rfl))
    · exact .inr (.inr (.inr (.inr (.inl ⟨hknown, rfl⟩))))
    · exact .inr (.inr (.inr (.inr (.inr ⟨hknown, rfl⟩))))
  · rintro (h | h | h | h | ⟨hknown, h⟩ | ⟨hknown, h⟩) <;> obtain ⟨rfl, rfl⟩ := Prod.mk.inj h
    · exact .description
    · exact .policies
    · exact .roles
    · exact .isLocal
    · exact .serviceIdentities hknown
    · exact .nodeIdentities hknown

theorem sends_serviceIdentities_iff : desired.Sends version "ServiceIdentities" value ↔
    version.knowsServiceIdentities = true ∧
      value = Json.ofList ServiceIdentity.toJson desired.serviceIdentities := by
  simp [sends_iff_mem_writeEntries, mem_writeEntries]

theorem sends_nodeIdentities_iff : desired.Sends version "NodeIdentities" value ↔
    version.knowsNodeIdentities = true ∧
      value = Json.ofList NodeIdentity.toJson desired.nodeIdentities := by
  simp [sends_iff_mem_writeEntries, mem_writeEntries]

/-- An update has what is sent and nothing else. -/
theorem mem_updateEntries :
    (key, value) ∈ desired.updateEntries version ↔ desired.Sends version key value := by
  rw [updateEntries, Keyed.mem_ofList_iff (desired.nodup_writeEntries version),
    sends_iff_mem_writeEntries]

/-- A token is created with what is sent to update it, its identifier and its secret. -/
theorem mem_createEntries : (key, value) ∈ desired.createEntries version ↔
    (key, value) = ("AccessorID", .string desired.id) ∨
    (key, value) = ("SecretID", ofText? (desired.secret.map Secret.expose)) ∨
    desired.Sends version key value := by
  rw [createEntries, Keyed.mem_ofList_iff (desired.nodup_entries version),
    sends_iff_mem_writeEntries, identityEntries, List.cons_append, List.cons_append,
    List.nil_append, List.mem_cons, List.mem_cons]

/-! ## Records -/

/-- The record of what an update sends. -/
def record (desired : Desired) (version : Version) : TokenRecord :=
  { TokenRecord.empty with
    description := some desired.description
    isLocal := some desired.isLocal
    policies := some desired.policies
    roles := some desired.roles
    serviceIdentities :=
      if version.knowsServiceIdentities then some desired.serviceIdentities else none
    nodeIdentities := if version.knowsNodeIdentities then some desired.nodeIdentities else none }

theorem record_regular (accessor secret : Option String) :
    TokenRecord.Regular { desired.record version with accessor, secret } :=
  ⟨Keyed.ordered_nil, fun _ _ => rfl⟩

theorem get?_createEntries_eq (desired : Desired) (version : Version) (key : String) :
    (desired.createEntries version).get? key =
      if key = "AccessorID" then some (.string desired.id)
      else if key = "SecretID" then some (ofText? (desired.secret.map Secret.expose))
      else (desired.updateEntries version).get? key := by
  have hsplit : (desired.createEntries version).get? key =
      ((desired.updateEntries version).get? key).or
        (Keyed.get? desired.identityEntries.reverse key) := by
    rw [createEntries, updateEntries, Keyed.get?_ofList, Keyed.get?_ofList, List.reverse_append,
      List.lookup_append]
    rfl
  rw [hsplit]
  by_cases haccessor : key = "AccessorID"
  · rw [haccessor, get?_updateEntries_of_not_mem (by decide)]
    rfl
  by_cases hsecret : key = "SecretID"
  · rw [hsecret, get?_updateEntries_of_not_mem (by decide)]
    rfl
  have hnone : Keyed.get? desired.identityEntries.reverse key = none := by
    simp [identityEntries, Keyed.get?_cons, haccessor, hsecret]
  rw [hnone, Option.or_none, if_neg haccessor, if_neg hsecret]

open TokenRecord

theorem present?_of_sends (h : desired.Sends version key value) :
    present? (desired.updateEntries version) key = some value := by
  rw [present?, (desired.ordered_updateEntries version).get?_of_mem (mem_updateEntries.2 h)]
  simp [h.ne_null]

theorem present?_of_not_sends (h : ∀ value, ¬ desired.Sends version key value) :
    present? (desired.updateEntries version) key = none := by
  have hnone : (desired.updateEntries version).get? key = none :=
    Keyed.get?_eq_none_iff.2 fun entry hentry heq => h entry.2 (heq ▸ mem_updateEntries.1 hentry)
  rw [present?, hnone]
  rfl

/-- A list that is sent only to agents that know it is there for these agents only. -/
theorem present?_of_gate {α : Type} {write : α → Json} {known : Bool} {items : List α}
    (h : ∀ value, desired.Sends version key value ↔
      known = true ∧ value = Json.ofList write items) :
    present? (desired.updateEntries version) key =
      (if known then some items else none).map (Json.ofList write) := by
  cases known with
  | true => exact present?_of_sends ((h _).2 ⟨rfl, rfl⟩)
  | false => exact present?_of_not_sends fun value hsends => nomatch ((h value).1 hsends).1

theorem describes_of_managed {entries : Entries} {accessor secret : Option String}
    (hmanaged : ∀ name ∈ managedNames,
      entries.get? name = (desired.updateEntries version).get? name)
    (haccessor : present? entries "AccessorID" = accessor.map .string)
    (hsecret : present? entries "SecretID" = secret.map .string)
    (hrest : ∀ key ∉ names, entries.get? key = none) :
    Describes entries { desired.record version with accessor, secret } := by
  have hpresent : ∀ name ∈ managedNames, present? entries name =
      present? (desired.updateEntries version) name := fun name hname => by
    rw [present?, present?, hmanaged name hname]
  refine ⟨?_, hrest⟩
  simp only [names, List.forall_mem_cons]
  refine ⟨haccessor, hsecret, ?_, ?_, ?_, ?_, ?_, ?_, List.forall_mem_nil _⟩ <;>
    rw [hpresent _ (by decide)]
  · exact present?_of_sends .description
  · exact present?_of_sends .isLocal
  · exact present?_of_sends .policies
  · exact present?_of_sends .roles
  · exact present?_of_gate fun value => sends_serviceIdentities_iff
  · exact present?_of_gate fun value => sends_nodeIdentities_iff

theorem describes_updateEntries (desired : Desired) (version : Version) :
    Describes (desired.updateEntries version) (desired.record version) := by
  have hnone : ∀ name ∉ managedNames, (desired.updateEntries version).get? name = none :=
    fun name hname => get?_updateEntries_of_not_mem hname desired version
  refine describes_of_managed (fun _ _ => rfl) ?_ ?_ fun key hkey => ?_
  · rw [present?, hnone _ (by decide)]
    rfl
  · rw [present?, hnone _ (by decide)]
    rfl
  · exact hnone key fun hmem => hkey (managedNames_subset hmem)

theorem describes_createEntries (desired : Desired) (version : Version) :
    Describes (desired.createEntries version) { desired.record version with
      accessor := some desired.id
      secret := desired.secret.map Secret.expose } := by
  refine describes_of_managed (fun name hname => ?_) ?_ ?_ fun key hkey => ?_
  · have haccessor : name ≠ "AccessorID" := by
      rintro rfl
      exact absurd hname (by decide)
    have hsecret : name ≠ "SecretID" := by
      rintro rfl
      exact absurd hname (by decide)
    rw [get?_createEntries_eq, if_neg haccessor, if_neg hsecret]
  · rw [present?, get?_createEntries_eq]
    rfl
  · rw [present?, get?_createEntries_eq]
    cases desired.secret <;> rfl
  · have haccessor : key ≠ "AccessorID" := by
      rintro rfl
      exact hkey (by decide)
    have hsecret : key ≠ "SecretID" := by
      rintro rfl
      exact hkey (by decide)
    rw [get?_createEntries_eq, if_neg haccessor, if_neg hsecret]
    exact get?_updateEntries_of_not_mem (fun hmem => hkey (managedNames_subset hmem)) _ _

end Desired

/-- Agents that know the identities of nodes know those of services. -/
theorem Version.knowsServiceIdentities_of_node {version : Version}
    (h : version.knowsNodeIdentities = true) : version.knowsServiceIdentities = true := by
  have hkey : 180 ≤ version.key := of_decide_eq_true h
  exact decide_eq_true (Nat.le_trans (by decide) hkey)

/-! ## Bodies -/

/-- **What is written is what is read.** The body of an update has the desired attributes as an
agent of the version knows them, and is read as the record of these; the body that creates a token
has its identifier and its secret besides. Bodies depend on the version only by the identities that
its agents know. -/
theorem bodies_read_as_desired (desired : Desired) (version : Version) (path : String) :
    ∃ update create : Entries,
      (desired.updateBody version = .object update ∧ update.Ordered ∧
        (∀ key value, (key, value) ∈ update ↔ desired.Sends version key value) ∧
        Client.viewToken path (desired.updateBody version) = .ok (desired.record version)) ∧
      (desired.createBody version = .object create ∧ create.Ordered ∧
        (∀ key value, (key, value) ∈ create ↔
          (key, value) = ("AccessorID", .string desired.id) ∨
          (key, value) = ("SecretID", ofText? (desired.secret.map Secret.expose)) ∨
          (key, value) ∈ update) ∧
        Client.viewToken path (desired.createBody version) = .ok { desired.record version with
          accessor := some desired.id
          secret := desired.secret.map Secret.expose }) ∧
      (∀ value, (("NodeIdentities", value) ∈ update ∨ ("NodeIdentities", value) ∈ create) →
        ∃ value, ("ServiceIdentities", value) ∈ update ∧ ("ServiceIdentities", value) ∈ create) ∧
      ∀ version' : Version,
        version.knowsServiceIdentities = version'.knowsServiceIdentities →
        version.knowsNodeIdentities = version'.knowsNodeIdentities →
        desired.updateBody version = desired.updateBody version' ∧
        desired.createBody version = desired.createBody version' := by
  refine ⟨desired.updateEntries version, desired.createEntries version,
    ⟨rfl, desired.ordered_updateEntries version, fun key value => Desired.mem_updateEntries, ?_⟩,
    ⟨rfl, desired.ordered_createEntries version, fun key value => ?_, ?_⟩,
    fun value hsent => ?_, fun version' hservices hnodes => ?_⟩
  · refine mapError_eq_ok_iff.2 ?_
    exact (desired.describes_updateEntries version).read_eq
      (Desired.record_regular none none) (desired.ordered_updateEntries version) 0
  · rw [Desired.mem_createEntries, Desired.mem_updateEntries]
  · refine mapError_eq_ok_iff.2 ?_
    exact (desired.describes_createEntries version).read_eq
      (Desired.record_regular _ _) (desired.ordered_createEntries version) 0
  · have hsends : desired.Sends version "NodeIdentities" value := by
      rw [Desired.mem_updateEntries, Desired.mem_createEntries] at hsent
      simpa using hsent
    have hnodes := (Desired.sends_nodeIdentities_iff.1 hsends).1
    have hservices : desired.Sends version "ServiceIdentities" _ :=
      Desired.sends_serviceIdentities_iff.2 ⟨Version.knowsServiceIdentities_of_node hnodes, rfl⟩
    exact ⟨_, Desired.mem_updateEntries.2 hservices,
      Desired.mem_createEntries.2 (.inr (.inr hservices))⟩
  · have hentries := desired.writeEntries_congr hservices hnodes
    simp only [Desired.updateBody, Desired.createBody, hentries, and_self]

end TokenSync
