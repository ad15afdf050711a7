import TokenSync.Proofs.Reading
import TokenSync.TokenRecord

/-!
# Records and the documents they are read from

A document is read as a record if it names each attribute once at most and each attribute can be
read. Every attribute of the record comes from what stands under its name, and what stands under
other names is kept.
-/
namespace TokenSync.TokenRecord

open Json

variable {α : Type} [Source α]

/-- The names of the attributes a record has a place for. -/
def names : List String :=
  ["AccessorID", "SecretID", "Description", "Local", "Policies", "Roles", "ServiceIdentities",
    "NodeIdentities"]

/-- The names of the attributes that a description determines. -/
def managedNames : List String :=
  ["Description", "Local", "Policies", "Roles", "ServiceIdentities", "NodeIdentities"]

theorem checkNames_checks : checkNames (checks : List (Check α)) = names := rfl

theorem nodup_checkNames : (checkNames (checks : List (Check α))).Nodup := by
  rw [checkNames_checks]
  decide

/-- The managed attributes of a record are those in the entries of its document. -/
structure HoldsManaged (entries : List (String × α)) (managed : Managed) : Prop where
  description : contentOf entries descriptionField = .ok managed.description
  isLocal : contentOf entries localField = .ok managed.isLocal
  policies : contentOf entries policiesField = .ok managed.policies
  roles : contentOf entries rolesField = .ok managed.roles
  serviceIdentities :
    contentOf entries serviceIdentitiesField = .ok managed.serviceIdentities
  nodeIdentities : contentOf entries nodeIdentitiesField = .ok managed.nodeIdentities

/-- The attributes of a record are those in the entries of its document. -/
structure Holds (entries : List (String × α)) (record : TokenRecord) : Prop
    extends HoldsManaged entries record.toManaged where
  accessor : contentOf entries accessorField = .ok record.accessor
  secret : contentOf entries secretField = .ok record.secret

/-- What stands under the names of the attributes can be read. -/
def Readable (entries : List (String × α)) : Prop :=
  ∀ check ∈ (checks : List (Check α)), ∀ part,
    Keyed.get? entries check.name = some part → check.run part = .ok ()

theorem Holds.readable {entries : List (String × α)} {record : TokenRecord}
    (h : Holds entries record) : Readable entries := by
  intro check hcheck part hpart
  simp only [checks, List.mem_cons, List.not_mem_nil, or_false] at hcheck
  rcases hcheck with rfl | rfl | rfl | rfl | rfl | rfl | rfl | rfl
  · exact run_of_contentOf h.accessor hpart
  · exact run_of_contentOf h.secret hpart
  · exact run_of_contentOf h.description hpart
  · exact run_of_contentOf h.isLocal hpart
  · exact run_of_contentOf h.policies hpart
  · exact run_of_contentOf h.roles hpart
  · exact run_of_contentOf h.serviceIdentities hpart
  · exact run_of_contentOf h.nodeIdentities hpart

/-- A field whose part can be read has a content. -/
theorem Readable.exists_contentOf {entries : List (String × α)} (h : Readable entries) {τ : Type}
    {name : String} {read : α → Except Fault τ}
    (hcheck : (optionalField name read).check ∈ (checks : List (Check α))) :
    ∃ content, contentOf entries (optionalField name read) = .ok content := by
  cases hget : Keyed.get? entries name with
  | none => exact ⟨none, contentOf_of_none hget rfl⟩
  | some part =>
    obtain ⟨content, hread, -⟩ := map_eq_ok_iff.1 (h _ hcheck part hget)
    exact ⟨content, (contentOf_of_some hget).trans hread⟩

/-- When a document is read as a record, and as which. -/
theorem read_eq_ok_iff {depth : Nat} {a : α} {entries : List (String × α)}
    (ha : Source.layer a = .ok (.object (asLayer entries))) {value : α → Json}
    (hvalue : ∀ entry ∈ entries, entry.1 ∉ names →
      Source.value (depthLimit - (depth + 1)) entry.2 = .ok (value entry.2))
    {record : TokenRecord} :
    read depth a = .ok record ↔
      Keyed.Once names entries ∧ Holds entries record ∧
        record.extra = Keyed.ofList (otherEntries names value entries) := by
  have get {τ : Type} (field : FieldSpec α τ) (hname : field.name ∈ names) :
      Given.get ⟨knownEntries names entries, .missingField⟩ field = contentOf entries field :=
    get_knownEntries entries hname
  have eAccessor := get accessorField (show "AccessorID" ∈ names by decide)
  have eSecret := get secretField (show "SecretID" ∈ names by decide)
  have eDescription := get descriptionField (show "Description" ∈ names by decide)
  have eLocal := get localField (show "Local" ∈ names by decide)
  have ePolicies := get policiesField (show "Policies" ∈ names by decide)
  have eRoles := get rolesField (show "Roles" ∈ names by decide)
  have eServices := get serviceIdentitiesField (show "ServiceIdentities" ∈ names by decide)
  have eNodes := get nodeIdentitiesField (show "NodeIdentities" ∈ names by decide)
  unfold read
  rw [bind_eq_ok_iff]
  simp only [readOpenStructure_eq_ok_iff nodup_checkNames ha hvalue, checkNames_checks]
  constructor
  · rintro ⟨_, ⟨honce, -, rfl⟩, hfields⟩
    simp only [bind_eq_ok_iff, eAccessor, eSecret, eDescription, eLocal, ePolicies, eRoles,
      eServices, eNodes] at hfields
    obtain ⟨accessor, haccessor, secret, hsecret, description, hdescription, isLocal, hlocal,
      policies, hpolicies, roles, hroles, services, hservices, nodes, hnodes, hrecord⟩ := hfields
    obtain rfl := Except.ok.inj hrecord
    exact ⟨honce, ⟨⟨hdescription, hlocal, hpolicies, hroles, hservices, hnodes⟩, haccessor,
      hsecret⟩, rfl⟩
  · rintro ⟨honce, hholds, hextra⟩
    refine ⟨_, ⟨honce, hholds.readable, rfl⟩, ?_⟩
    rw [eAccessor, eSecret, eDescription, eLocal, ePolicies, eRoles, eServices, eNodes,
      hholds.accessor, hholds.secret, hholds.description, hholds.isLocal, hholds.policies,
      hholds.roles, hholds.serviceIdentities, hholds.nodeIdentities, ← hextra]
    rfl

/-- When an object is read as a record, and as which. -/
theorem read_object_iff {depth : Nat} {entries : Entries} {record : TokenRecord} :
    read depth (Json.object entries) = .ok record ↔
      Keyed.Once names entries ∧ Holds entries record ∧
        record.extra = Keyed.ofList (otherEntries names id entries) :=
  read_eq_ok_iff rfl fun _ _ _ => rfl

/-- What a record tells of an attribute is read from what stands under its name. -/
theorem content_eq_of_get? {τ : Type} {entries : Entries} {name : String}
    {read : Json → Except Fault τ} {told content : Option τ} {value : Json}
    (htold : contentOf entries (optionalField name read) = .ok told)
    (hget : entries.get? name = some value) (hread : readOptional read value = .ok content) :
    told = content := by
  have hvalue : contentOf entries (optionalField name read) = readOptional read value :=
    contentOf_of_some hget
  rw [hvalue, hread] at htold
  exact (Except.ok.inj htold).symm

theorem accessor_eq_some_iff {depth : Nat} {entries : Entries} {record : TokenRecord}
    (h : read depth (Json.object entries) = .ok record) {accessor : String} :
    record.accessor = some accessor ↔
      entries.get? "AccessorID" = some (.string accessor) := by
  obtain ⟨-, hholds, -⟩ := read_object_iff.1 h
  constructor
  · intro hnamed
    have hcontent : contentOf entries accessorField = .ok (some accessor) :=
      hnamed ▸ hholds.accessor
    cases hget : entries.get? "AccessorID" with
    | none =>
      have hnone : contentOf entries accessorField = .ok none := contentOf_of_none hget rfl
      exact nomatch hnone.symm.trans hcontent
    | some value =>
      rw [contentOf_of_some hget] at hcontent
      cases value with
      | string text =>
        exact congrArg (some ∘ Json.string) (Option.some.inj (Except.ok.inj hcontent))
      | _ => exact nomatch hcontent
  · exact fun hget => content_eq_of_get? hholds.accessor hget rfl

/-- An object is read as a record if it names each attribute once at most and each one can be
read. -/
theorem exists_read_iff {depth : Nat} {entries : Entries} :
    (∃ record, read depth (Json.object entries) = .ok record) ↔
      Keyed.Once names entries ∧ Readable entries := by
  constructor
  · rintro ⟨record, hread⟩
    obtain ⟨honce, hholds, -⟩ := read_object_iff.1 hread
    exact ⟨honce, hholds.readable⟩
  · rintro ⟨honce, h⟩
    obtain ⟨accessor, haccessor⟩ :=
      h.exists_contentOf (show accessorField.check ∈ checks by simp [checks])
    obtain ⟨secret, hsecret⟩ :=
      h.exists_contentOf (show secretField.check ∈ checks by simp [checks])
    obtain ⟨description, hdescription⟩ :=
      h.exists_contentOf (show descriptionField.check ∈ checks by simp [checks])
    obtain ⟨isLocal, hlocal⟩ :=
      h.exists_contentOf (show localField.check ∈ checks by simp [checks])
    obtain ⟨policies, hpolicies⟩ :=
      h.exists_contentOf (show policiesField.check ∈ checks by simp [checks])
    obtain ⟨roles, hroles⟩ :=
      h.exists_contentOf (show rolesField.check ∈ checks by simp [checks])
    obtain ⟨services, hservices⟩ :=
      h.exists_contentOf (show serviceIdentitiesField.check ∈ checks by simp [checks])
    obtain ⟨nodes, hnodes⟩ :=
      h.exists_contentOf (show nodeIdentitiesField.check ∈ checks by simp [checks])
    exact ⟨⟨⟨description, isLocal, policies, roles, services, nodes⟩, accessor, secret,
      Keyed.ofList (otherEntries names id entries)⟩, read_object_iff.2 ⟨honce, ⟨⟨hdescription,
        hlocal, hpolicies, hroles, hservices, hnodes⟩, haccessor, hsecret⟩, rfl⟩⟩

end TokenSync.TokenRecord
