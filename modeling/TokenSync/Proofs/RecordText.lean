import TokenSync.Proofs.Exchange
import TokenSync.Proofs.Record
import TokenSync.Proofs.TextReading

/-!
# Texts of tokens

The text of a token that names no field twice is read as the record that its value is read as, in a
listing as well as alone.
-/
namespace TokenSync

open Json

/-! ## Grants -/

theorem Link.readAlike : ReadAlike (Node.NamesOnce ["ID", "Name"]) Link.read Link.read := by
  have hid : FieldAlike anyKind Link.idField Link.idField := ⟨rfl, rfl, (readAlike_text _).optional⟩
  have hname : FieldAlike anyKind Link.nameField Link.nameField :=
    ⟨rfl, rfl, (readAlike_text _).optional⟩
  intro room node value hvalue honce
  refine readStructure_alike (.cons hid.check (.cons hname.check .nil))
    (by decide) _ hvalue honce fun given given' hgiven => ?_
  exact (hgiven.get hid (by decide)).bind fun _ =>
    (hgiven.get hname (by decide)).bind fun _ => Agree.refl _

theorem ServiceIdentity.readAlike :
    ReadAlike (Node.NamesOnce ["ServiceName", "Datacenters"]) ServiceIdentity.read
      ServiceIdentity.read := by
  have hservice : FieldAlike anyKind ServiceIdentity.serviceField ServiceIdentity.serviceField :=
    ⟨rfl, rfl, readAlike_text _⟩
  have hdatacenters : FieldAlike anyKind ServiceIdentity.datacentersField
      ServiceIdentity.datacentersField :=
    ⟨rfl, rfl, fun _ _ _ hvalue _ =>
      (readAlike_text fun _ => True).list.optional hvalue fun _ _ _ _ => trivial⟩
  intro room node value hvalue honce
  refine readStructure_alike (.cons hservice.check (.cons hdatacenters.check .nil))
    (by decide) _ hvalue honce fun given given' hgiven => ?_
  exact (hgiven.get hservice (by decide)).bind
    fun _ => (hgiven.get hdatacenters
      (by decide)).bind fun _ => Agree.refl _

theorem NodeIdentity.readAlike :
    ReadAlike (Node.NamesOnce ["NodeName", "Datacenter"]) NodeIdentity.read NodeIdentity.read := by
  have hnode : FieldAlike anyKind NodeIdentity.nodeField NodeIdentity.nodeField :=
    ⟨rfl, rfl, readAlike_text _⟩
  have hdatacenter : FieldAlike anyKind NodeIdentity.datacenterField NodeIdentity.datacenterField :=
    ⟨rfl, rfl, (readAlike_text _).optional⟩
  intro room node value hvalue honce
  refine readStructure_alike (.cons hnode.check (.cons hdatacenter.check .nil))
    (by decide) _ hvalue honce fun given given' hgiven => ?_
  exact (hgiven.get hnode (by decide)).bind
    fun _ => (hgiven.get hdatacenter
      (by decide)).bind fun _ => Agree.refl _

/-! ## Records -/

/-- The fields of the grants that stand in a list of a token. -/
def grantNames : String → List String
  | "Policies" | "Roles" => ["ID", "Name"]
  | "ServiceIdentities" => ["ServiceName", "Datacenters"]
  | "NodeIdentities" => ["NodeName", "Datacenter"]
  | _ => []

/-- The grants in a list of a token name no field twice. -/
def grantsNameOnce (key : String) : Node → Prop := Node.Each (Node.NamesOnce (grantNames key))

/-- Neither a token nor one of its grants names a field twice. -/
def Json.Node.TokenNamesOnce (node : Node) : Prop :=
  node.NamesOnce TokenRecord.names ∧
    ∀ entries, node = .object entries → ∀ key part, (some key, part) ∈ entries →
      grantsNameOnce key part

instance (key : String) : DecidablePred (grantsNameOnce key) := fun node =>
  inferInstanceAs (Decidable (node.Each (Node.NamesOnce (grantNames key))))

instance (node : Node) : Decidable node.TokenNamesOnce :=
  match node with
  | .object entries =>
    decidable_of_iff (Node.NamesOnce TokenRecord.names (.object entries) ∧
        ∀ entry ∈ entries, ∀ key ∈ entry.1, grantsNameOnce key entry.2)
      (and_congr_right fun _ =>
        ⟨fun h _ heq key part hmem => h (some key, part) (Node.object.inj heq ▸ hmem) key rfl,
        fun h ⟨_, part⟩ hmem key hkey => h entries rfl key part (Option.mem_def.1 hkey ▸ hmem)⟩)
  | .null | .bool _ | .number _ | .string _ | .array _ | .broken => isTrue ⟨trivial, nofun⟩

namespace TokenRecord

theorem fieldAlike_text (name : String) :
    FieldAlike grantsNameOnce (optionalField name readText) (optionalField name readText) :=
  ⟨rfl, rfl, (readAlike_text _).optional⟩

theorem fieldAlike_local : FieldAlike grantsNameOnce localField localField :=
  ⟨rfl, rfl, (readAlike_bool _).optional⟩

theorem fieldAlike_policies : FieldAlike grantsNameOnce policiesField policiesField :=
  ⟨rfl, rfl, Link.readAlike.list.optional⟩

theorem fieldAlike_roles : FieldAlike grantsNameOnce rolesField rolesField :=
  ⟨rfl, rfl, Link.readAlike.list.optional⟩

theorem fieldAlike_serviceIdentities :
    FieldAlike grantsNameOnce serviceIdentitiesField serviceIdentitiesField :=
  ⟨rfl, rfl, ServiceIdentity.readAlike.list.optional⟩

theorem fieldAlike_nodeIdentities :
    FieldAlike grantsNameOnce nodeIdentitiesField nodeIdentitiesField :=
  ⟨rfl, rfl, NodeIdentity.readAlike.list.optional⟩

/-- A token's text and its value are read as the same record. -/
theorem read_alike {depth : Nat} (hdepth : depth < depthLimit) {node : Node} {value : Json}
    (hvalue : node.toJson (depthLimit - depth) = .ok value) (honce : node.TokenNamesOnce)
    (depth' : Nat) : Agree (TokenRecord.read depth node) (TokenRecord.read depth' value) := by
  have hroom : depthLimit - depth = depthLimit - (depth + 1) + 1 := by omega
  rw [hroom] at hvalue
  have hchecks : List.Forall₂ (CheckAlike grantsNameOnce) checks checks :=
    .cons (fieldAlike_text _).check (.cons (fieldAlike_text _).check
      (.cons (fieldAlike_text _).check (.cons fieldAlike_local.check
      (.cons fieldAlike_policies.check (.cons fieldAlike_roles.check
      (.cons fieldAlike_serviceIdentities.check (.cons fieldAlike_nodeIdentities.check .nil)))))))
  refine readOpenStructure_alike hchecks nodup_checkNames "RemoteToken" hvalue honce.1 ?_
    (fun given given' others others' hgiven hothers => ?_) _
  · rintro named rfl entry hentry
    exact honce.2 _ rfl _ _ (List.mem_map_of_mem (f := fun entry => (some entry.1, entry.2)) hentry)
  · rw [checkNames_checks] at hgiven
    refine (hgiven.get (fieldAlike_text _) (by decide)).bind fun _ => ?_
    refine (hgiven.get (fieldAlike_text _) (by decide)).bind fun _ => ?_
    refine (hgiven.get (fieldAlike_text _) (by decide)).bind fun _ => ?_
    refine (hgiven.get fieldAlike_local (by decide)).bind fun _ => ?_
    refine (hgiven.get fieldAlike_policies (by decide)).bind fun _ => ?_
    refine (hgiven.get fieldAlike_roles (by decide)).bind fun _ => ?_
    refine (hgiven.get fieldAlike_serviceIdentities
      (by decide)).bind fun _ => ?_
    refine (hgiven.get fieldAlike_nodeIdentities
      (by decide)).bind fun _ => ?_
    rw [hothers]
    exact Agree.refl _

end TokenRecord

/-! ## Bodies of answers -/

theorem Document.read_eq_ok_iff {α : Type} {read : Node → Except Fault α} {document : Document}
    {a : α} :
    document.read read = .ok a ↔ document.surplus = false ∧ read document.root = .ok a := by
  unfold Document.read
  rw [bind_eq_ok_iff]
  cases h : document.surplus <;> simp

/-- A text of a token's document that names no field of the token twice. -/
structure TextOfToken (body : String) (document : Json) : Prop where
  value : Json.ofText body = .ok document
  once : (Document.ofText body).root.TokenNamesOnce

/-- A text of a listing of documents, none of which names a field of its token twice. -/
structure TextOfListing (body : String) (items : List Json) : Prop where
  value : Json.ofText body = .ok (.array items)
  once : (Document.ofText body).root.Each Node.TokenNamesOnce

namespace Client

theorem decode_eq_ok_iff {α : Type} {path : String} {read : Node → Except Fault α} {body : String}
    {a : α} : decode path read body = .ok a ↔
      (Document.ofText body).surplus = false ∧ read (Document.ofText body).root = .ok a := by
  rw [decode, mapError_eq_ok_iff, Document.read_eq_ok_iff]

theorem accept_eq_ok_iff {client : Client} {reply : Reply} {body : String} :
    client.accept reply = .ok body ↔
      ∃ status, reply = .answer status body ∧ isRefusal status = false := by
  cases reply with
  | unreachable reason => simp [accept]
  | answer status text => cases h : isRefusal status <;> simp [accept, h]

/-- A listing is read item by item. -/
theorem readListing_eq_ok_iff {node : Node} {listing : List TokenRecord} :
    readListing node = .ok listing ↔ ∃ items, node = .array items ∧
      List.Forall₂ (fun item record => TokenRecord.read 1 item = .ok record) items listing := by
  constructor
  · intro h
    rcases node with _ | _ | (_ | _) | (_ | _) | items | _ | _
    case array => exact ⟨items, rfl, mapM_eq_ok_iff.1 h⟩
    all_goals cases h
  · rintro ⟨items, rfl, hitems⟩
    exact mapM_eq_ok_iff.2 hitems

theorem documentOf_of_ofText (client : Client) (path : String) {body : String} {document : Json}
    (h : Json.ofText body = .ok document) :
    client.documentOf path (.answer 200 body) = .ok document :=
  decode_eq_ok_iff.2 (Document.read_eq_ok_iff.1 h)

/-- The record of a token's document is what its text is read as. -/
theorem recordOf_of_text (client : Client) (path : String) {body : String} {document : Json}
    {record : TokenRecord} (h : TextOfToken body document)
    (hread : TokenRecord.read 0 document = .ok record) :
    client.recordOf path (.answer 200 body) = .ok record := by
  obtain ⟨hsurplus, hvalue⟩ := Document.read_eq_ok_iff.1 h.value
  have halike := TokenRecord.read_alike (show 0 < depthLimit by decide) hvalue h.once 0
  exact decode_eq_ok_iff.2 ⟨hsurplus, (halike record).2 hread⟩

/-- The records of the documents of a listing are what its text is read as. -/
theorem listingOf_of_text (client : Client) {body : String} {items : List Json}
    {records : List TokenRecord} (h : TextOfListing body items)
    (hread : items.mapM (TokenRecord.read 0) = .ok records) :
    client.listingOf (.answer 200 body) = .ok records := by
  obtain ⟨hsurplus, hvalue⟩ := Document.read_eq_ok_iff.1 h.value
  refine decode_eq_ok_iff.2 ⟨hsurplus, ?_⟩
  obtain ⟨nodes, hroot, hnodes⟩ : ∃ nodes, (Document.ofText body).root = .array nodes ∧
      List.Forall₂ (fun node value => node.toJson (depthLimit - 1) = .ok value) nodes items := by
    generalize (Document.ofText body).root = root at hvalue
    cases Node.shows_of_toJson hvalue with
    | array hnodes => exact ⟨_, rfl, hnodes⟩
  have honce := h.once nodes hroot
  rw [hroot]
  have halike : List.Forall₂ (fun node value =>
      Agree (TokenRecord.read 1 node) (TokenRecord.read 0 value)) nodes items :=
    ((List.forall₂_and_left _ _).2 ⟨honce, hnodes⟩).imp fun node value hnode =>
      TokenRecord.read_alike (by decide) hnode.2 hnode.1 0
  exact (agree_mapM halike records).2 hread

end Client

end TokenSync
