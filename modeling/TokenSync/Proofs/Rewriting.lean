import Mathlib.Data.List.Nodup
import TokenSync.Proofs.RecordText
import TokenSync.Proofs.Written

/-!
# Records that are written again

A record is written as the document it was read from, but for two things: an attribute that is null
is left out, and each grant is written as an object with all of its fields and no others. What is
written is read as the same record.
-/
namespace TokenSync

open Json

variable {τ : Type}

/-! ## Canonical grants -/

namespace Json

/-- What stands in the place of a field, in a structure that is given as an object or as an array of
its fields. -/
def part? (index : Nat) (name : String) : Json → Option Json
  | .object entries => Keyed.get? entries name
  | .array items => items[index]?
  | _ => none

/-- The object of these fields of a structure, where a field that is missing is null. -/
def canonical (fields : List String) (value : Json) : Json :=
  .object (Keyed.ofList
    (fields.zipIdx.map fun field => (field.1, (value.part? field.2 field.1).getD .null)))

/-- An array with each item changed. -/
def mapItems (f : Json → Json) : Json → Json
  | .array items => .array (items.map f)
  | value => value

theorem lookup_zip {names : List String} (hnodup : names.Nodup) {items : List Json} {index : Nat}
    {name : String} (hname : names[index]? = some name) (hlength : items.length ≤ names.length) :
    (names.zip items).lookup name = items[index]? := by
  induction names generalizing items index with
  | nil => cases hname
  | cons head rest ih =>
    obtain ⟨hhead, hrest⟩ := List.nodup_cons.1 hnodup
    cases items with
    | nil => rfl
    | cons item items =>
      cases index with
      | zero =>
        cases hname
        simp
      | succ index =>
        have hne : name ≠ head := fun heq => hhead (heq ▸ List.mem_of_getElem? hname)
        rw [List.zip_cons_cons, List.lookup_cons, beq_eq_false_iff_ne.2 hne]
        exact ih hrest hname (Nat.le_of_succ_le_succ hlength)

/-- A structure is read from the parts that stand in the places of its fields. -/
theorem lookup_parts {name : String} {checks : List (Check Json)}
    (hnodup : (checkNames checks).Nodup) {value : Json} {given : Given Json}
    (h : readStructure name checks value = .ok given) {index : Nat} {field : String}
    (hfield : (checkNames checks)[index]? = some field) :
    given.parts.lookup field = value.part? index field := by
  cases value with
  | object entries =>
    obtain ⟨-, -, rfl⟩ := (readStructure_eq_ok_iff hnodup rfl fun _ _ _ => rfl).1 h
    exact get?_knownEntries (List.mem_of_getElem? hfield) entries
  | array items =>
    obtain ⟨⟨hlength, -⟩, rfl⟩ := (readStructure_array_eq_ok_iff rfl).1 h
    exact lookup_zip hnodup hfield (by simpa [checkNames] using hlength)
  | _ => cases h

end Json

/-- What is read and written again is the canonical form of what it was read from. -/
def Rewrites (read : Json → Except Fault τ) (write : τ → Json) (canon : Json → Json) : Prop :=
  ∀ ⦃value : Json⦄ ⦃content : τ⦄, read value = .ok content → write content = canon value

theorem rewrites_text : Rewrites readText .string id := by
  intro value content h
  cases value <;> cases h
  rfl

theorem rewrites_bool : Rewrites readBool .bool id := by
  intro value content h
  cases value <;> cases h
  rfl

theorem Rewrites.list {read : Json → Except Fault τ} {write : τ → Json} {canon : Json → Json}
    (h : Rewrites read write canon) :
    Rewrites (readList read) (Json.ofList write) (mapItems canon) := by
  intro value contents hread
  cases value with
  | array items =>
    have hitems : List.Forall₂ (fun item content => read item = .ok content) items contents :=
      mapM_eq_ok_iff.1 hread
    clear hread
    refine congrArg Json.array ?_
    induction hitems with
    | nil => rfl
    | cons hitem _ ih => exact congrArg₂ List.cons (h hitem) ih
  | _ => cases hread

theorem mapItems_id (value : Json) : mapItems id value = value := by
  cases value with
  | array items => exact congrArg Json.array (List.map_id items)
  | _ => rfl

theorem rewrites_texts : Rewrites (readList readText) (Json.ofList .string) id :=
  fun value _ h => (rewrites_text.list h).trans (mapItems_id value)

theorem readOptional_of_ne_null {value : Json} (h : value ≠ .null) (read : Json → Except Fault τ) :
    readOptional read value = some <$> read value := by
  cases value <;> first | rfl | exact absurd rfl h

theorem Rewrites.optional {read : Json → Except Fault τ} {write : τ → Json}
    (h : Rewrites read write id) :
    Rewrites (readOptional read) (fun content => (content.map write).getD .null) id := by
  intro value content hread
  cases value with
  | null =>
    cases hread
    rfl
  | _ =>
    obtain ⟨content, hcontent, rfl⟩ := map_eq_ok_iff.1 hread
    exact h hcontent

theorem ofText?_eq (text : Option String) : ofText? text = (text.map .string).getD .null := by
  cases text <;> rfl

/-- What is read from a field is written as what stands in its place; a field that is left out is
written as null. -/
theorem Rewrites.written {field : FieldSpec Json τ} {write : τ → Json}
    (h : Rewrites field.read write id)
    (hfallback : ∀ content, field.fallback = some content → write content = .null)
    {given : Given Json} {content : τ} (hget : given.get field = .ok content) :
    write content = (given.parts.lookup field.name).getD .null := by
  unfold Given.get at hget
  cases hpart : given.parts.lookup field.name with
  | some part =>
    rw [hpart] at hget
    exact h hget
  | none =>
    rw [hpart] at hget
    cases hfield : field.fallback with
    | some fallback =>
      rw [hfield] at hget
      cases hget
      exact hfallback _ hfield
    | none =>
      rw [hfield] at hget
      cases hget

/-- The canonical form of a structure with two fields, each of which is written as what stands in
its place. -/
theorem canonical_pair {α β : Type} {name : String} {first : FieldSpec Json α}
    {second : FieldSpec Json β} (hne : first.name ≠ second.name) {value : Json} {given : Given Json}
    (h : readStructure name [first.check, second.check] value = .ok given) {a b : Json}
    (ha : a = (given.parts.lookup first.name).getD .null)
    (hb : b = (given.parts.lookup second.name).getD .null) :
    canonical [first.name, second.name] value =
      .object (Keyed.ofList [(first.name, a), (second.name, b)]) := by
  have hnodup : (checkNames [first.check, second.check]).Nodup := by
    simpa [checkNames, FieldSpec.check] using hne
  have hfirst : given.parts.lookup first.name = value.part? 0 first.name :=
    lookup_parts hnodup h rfl
  have hsecond : given.parts.lookup second.name = value.part? 1 second.name :=
    lookup_parts hnodup h rfl
  rw [ha, hb, hfirst, hsecond]
  rfl

theorem Link.rewrites : Rewrites Link.read Link.toJson (canonical ["ID", "Name"]) := by
  intro value link h
  obtain ⟨given, hgiven, h⟩ := bind_eq_ok_iff.1 h
  obtain ⟨linkId, hid, h⟩ := bind_eq_ok_iff.1 h
  obtain ⟨name, hname, h⟩ := bind_eq_ok_iff.1 h
  cases h
  have eid := rewrites_text.optional.written (by rintro _ ⟨⟩; rfl) hid
  have ename := rewrites_text.optional.written (by rintro _ ⟨⟩; rfl) hname
  refine Eq.trans ?_ (canonical_pair (by decide) hgiven eid ename).symm
  rw [toJson, ofText?_eq, ofText?_eq]
  rfl

theorem ServiceIdentity.rewrites : Rewrites ServiceIdentity.read ServiceIdentity.toJson
    (canonical ["ServiceName", "Datacenters"]) := by
  intro value identity h
  obtain ⟨given, hgiven, h⟩ := bind_eq_ok_iff.1 h
  obtain ⟨service, hservice, h⟩ := bind_eq_ok_iff.1 h
  obtain ⟨datacenters, hdatacenters, h⟩ := bind_eq_ok_iff.1 h
  cases h
  have eservice := rewrites_text.written (by rintro _ ⟨⟩) hservice
  have edatacenters := rewrites_texts.optional.written (by rintro _ ⟨⟩; rfl) hdatacenters
  refine Eq.trans ?_ (canonical_pair (by decide) hgiven eservice edatacenters).symm
  rfl

theorem NodeIdentity.rewrites : Rewrites NodeIdentity.read NodeIdentity.toJson
    (canonical ["NodeName", "Datacenter"]) := by
  intro value identity h
  obtain ⟨given, hgiven, h⟩ := bind_eq_ok_iff.1 h
  obtain ⟨node, hnode, h⟩ := bind_eq_ok_iff.1 h
  obtain ⟨datacenter, hdatacenter, h⟩ := bind_eq_ok_iff.1 h
  cases h
  have enode := rewrites_text.written (by rintro _ ⟨⟩) hnode
  have edatacenter := rewrites_text.optional.written (by rintro _ ⟨⟩; rfl) hdatacenter
  refine Eq.trans ?_ (canonical_pair (by decide) hgiven enode edatacenter).symm
  rw [toJson, ofText?_eq]
  rfl

/-! ## Rewritten documents -/

/-- What stands under a name of a token with each grant in its canonical form. -/
def canonicalField (key : String) (value : Json) : Json :=
  if grantNames key = [] then value else mapItems (canonical (grantNames key)) value

namespace TokenRecord

variable {entries : Entries} {record : TokenRecord} {key name : String}

/-- What is written under a key for what stands there: an attribute that is null is left out. -/
def rewritten? (key : String) (value : Json) : Option Json :=
  if key ∈ names ∧ value = .null then none else some (canonicalField key value)

/-- The entries of a document as they are written again. -/
def rewritten (entries : Entries) : Entries :=
  entries.filterMap fun entry => (rewritten? entry.1 entry.2).map (entry.1, ·)

theorem rewritten?_of_not_mem (hkey : key ∉ names) (value : Json) :
    rewritten? key value = some value := by
  have hgrants : grantNames key = [] := by
    unfold grantNames
    split <;> first | rfl | exact absurd (by decide) hkey
  rw [rewritten?, if_neg fun h => hkey h.1, canonicalField, if_pos hgrants]

theorem get?_rewritten (hordered : entries.Ordered) (key : String) :
    (rewritten entries).get? key = (entries.get? key).bind (rewritten? key) :=
  Keyed.get?_filterMap hordered.nodup_keys rewritten? key

theorem ordered_rewritten (hordered : entries.Ordered) : (rewritten entries).Ordered :=
  hordered.filterMap rewritten?

/-! ## Entries of records -/

/-- The places a record has for attributes, under their names. -/
def fields (record : TokenRecord) : Keyed (Option Json) :=
  [("AccessorID", record.accessor.map .string),
    ("SecretID", record.secret.map .string),
    ("Description", record.description.map .string),
    ("Local", record.isLocal.map .bool),
    ("Policies", record.policies.map (Json.ofList Link.toJson)),
    ("Roles", record.roles.map (Json.ofList Link.toJson)),
    ("ServiceIdentities", record.serviceIdentities.map (Json.ofList ServiceIdentity.toJson)),
    ("NodeIdentities", record.nodeIdentities.map (Json.ofList NodeIdentity.toJson))]

theorem map_fst_fields (record : TokenRecord) : record.fields.map Prod.fst = names := rfl

theorem nodup_fields (record : TokenRecord) : (record.fields.map Prod.fst).Nodup := by
  rw [map_fst_fields]
  decide

theorem get?_ofList_otherEntries (hordered : entries.Ordered) (key : String) :
    (Keyed.ofList (otherEntries names id entries)).get? key =
      if key ∈ names then none else entries.get? key := by
  rw [Keyed.get?_ofList, reverse_otherEntries]
  refine (get?_otherEntries _ _ _ _).trans ?_
  rw [(hordered.once [key]).get?_reverse List.mem_cons_self, List.contains_eq_mem, Option.map_id]
  simp only [decide_eq_true_eq, id]

/-- What is kept besides the attributes is not under their names. -/
structure Regular (record : TokenRecord) : Prop where
  ordered : record.extra.Ordered
  foreign : ∀ name ∈ names, record.extra.get? name = none

theorem regular_of_read {depth : Nat} (h : read depth (Json.object entries) = .ok record) :
    record.Regular := by
  obtain ⟨-, -, hextra⟩ := read_object_iff.1 h
  refine ⟨hextra ▸ Keyed.ordered_ofList _, fun name hname => ?_⟩
  rw [hextra, Keyed.get?_ofList, reverse_otherEntries]
  exact (get?_otherEntries _ _ _ _).trans (if_pos (by simpa using hname))

/-- An attribute of a record as it is written. -/
def slot? (record : TokenRecord) (name : String) : Option Json := (record.fields.get? name).bind id

theorem slot?_of_not_mem (h : name ∉ names) : record.slot? name = none := by
  have hnone : record.fields.get? name = none :=
    Keyed.get?_eq_none_iff.2 fun slot hslot heq =>
      h (heq ▸ record.map_fst_fields ▸ List.mem_map_of_mem hslot)
  rw [slot?, hnone]
  rfl

theorem get?_entries (record : TokenRecord) (key : String) :
    record.entries.get? key = (record.slot? key).or (record.extra.get? key) := by
  have hreverse : record.attributes.reverse =
      record.fields.reverse.filterMap fun slot => slot.2.map (slot.1, ·) :=
    List.filterMap_reverse.symm
  have hattributes : Keyed.get? record.attributes.reverse key =
      (Keyed.get? record.fields.reverse key).bind id := by
    have hnodup : (record.fields.reverse.map Prod.fst).Nodup := by
      rw [List.map_reverse]
      exact List.nodup_reverse.2 record.nodup_fields
    rw [hreverse]
    exact Keyed.get?_filterMap hnodup (fun _ slot => slot) key
  have honce : record.fields.Once [key] := record.nodup_fields.filter _
  rw [honce.get?_reverse List.mem_cons_self] at hattributes
  rw [slot?, ← hattributes]
  exact Keyed.get?_overlay _ _ _

/-- An attribute stands under its name if it is there. -/
theorem Regular.get?_attribute (h : record.Regular) (hname : name ∈ names) :
    record.entries.get? name = record.slot? name := by
  rw [get?_entries, h.foreign name hname, Option.or_none]

/-- What is kept besides the attributes stands where it was. -/
theorem get?_entries_of_not_mem (hkey : key ∉ names) :
    record.entries.get? key = record.extra.get? key := by
  rw [get?_entries, slot?_of_not_mem hkey, Option.none_or]

theorem Regular.ordered_entries (h : record.Regular) : record.entries.Ordered :=
  h.ordered.overlay _

/-! ## What was read is written -/

theorem written_eq {τ : Type} {read : Json → Except Fault τ} {write : τ → Json}
    {content : Option τ} (hname : name ∈ names) (h : Rewrites read write (canonicalField name))
    (hcontent : contentOf entries (optionalField name read) = .ok content) :
    content.map write = (entries.get? name).bind (rewritten? name) := by
  cases hget : entries.get? name with
  | none =>
    have hnone := (contentOf_of_none hget rfl).symm.trans hcontent
    cases hnone
    rfl
  | some value =>
    rw [contentOf_of_some hget] at hcontent
    by_cases hnull : value = .null
    · subst hnull
      cases hcontent
      exact (if_pos ⟨hname, rfl⟩).symm
    · obtain ⟨content, hread, rfl⟩ :=
        map_eq_ok_iff.1 ((readOptional_of_ne_null hnull read).symm.trans hcontent)
      exact (congrArg some (h hread)).trans (if_neg fun hboth => hnull hboth.2).symm

theorem Holds.slot?_eq (h : Holds entries record) :
    ∀ name ∈ names, record.slot? name = (entries.get? name).bind (rewritten? name) := by
  simp only [names, List.forall_mem_cons]
  refine ⟨?_, ?_, ?_, ?_, ?_, ?_, ?_, ?_, List.forall_mem_nil _⟩
  · exact written_eq (by decide) rewrites_text h.accessor
  · exact written_eq (by decide) rewrites_text h.secret
  · exact written_eq (by decide) rewrites_text h.description
  · exact written_eq (by decide) rewrites_bool h.isLocal
  · exact written_eq (by decide) Link.rewrites.list h.policies
  · exact written_eq (by decide) Link.rewrites.list h.roles
  · exact written_eq (by decide) ServiceIdentity.rewrites.list h.serviceIdentities
  · exact written_eq (by decide) NodeIdentity.rewrites.list h.nodeIdentities

/-- A record has the entries of its document, rewritten. -/
theorem entries_eq_rewritten {depth : Nat} (hordered : entries.Ordered)
    (h : read depth (Json.object entries) = .ok record) : record.entries = rewritten entries := by
  have hregular := regular_of_read h
  obtain ⟨-, hholds, hextra⟩ := read_object_iff.1 h
  -- Both are in the order of their keys, so it is enough to compare what stands under each key.
  refine hregular.ordered_entries.ext (ordered_rewritten hordered) fun key => ?_
  rw [get?_rewritten hordered]
  by_cases hkey : key ∈ names
  · exact (hregular.get?_attribute hkey).trans (hholds.slot?_eq key hkey)
  · rw [get?_entries_of_not_mem hkey, hextra, get?_ofList_otherEntries hordered, if_neg hkey,
      funext (rewritten?_of_not_mem hkey), Option.bind_fun_some]

/-! ## What was written is read -/

/-- What stands under a name; null counts as missing. -/
def present? (entries : Entries) (name : String) : Option Json :=
  (entries.get? name).filter (· ≠ .null)

/-- A document has each attribute of a record as it is written, and besides these all that the
record keeps. -/
structure Describes (entries : Entries) (record : TokenRecord) : Prop where
  slots : ∀ name ∈ names, present? entries name = record.slot? name
  rest : ∀ key ∉ names, entries.get? key = record.extra.get? key

theorem contentOf_of_present? {τ : Type} {read : Json → Except Fault τ} {write : τ → Json}
    (hread : ∀ a, read (write a) = .ok a) {content : Option τ}
    (h : present? entries name = content.map write) :
    contentOf entries (optionalField name read) = .ok content := by
  unfold present? at h
  cases hget : entries.get? name with
  | none =>
    rw [hget] at h
    cases content with
    | none => exact contentOf_of_none hget rfl
    | some a => cases h
  | some value =>
    rw [hget] at h
    refine (contentOf_of_some hget).trans ?_
    by_cases hnull : value = .null
    · subst hnull
      cases content with
      | none => rfl
      | some a => cases h
    · have hvalue : (some value).filter (· ≠ .null) = some value := by simp [hnull]
      obtain ⟨a, rfl, rfl⟩ := Option.map_eq_some_iff.1 (h.symm.trans hvalue)
      exact (readOptional_of_ne_null hnull read).trans (map_eq_ok_iff.2 ⟨a, hread a, rfl⟩)

theorem Describes.holds (h : Describes entries record) : Holds entries record := by
  have hslots := h.slots
  simp only [names, List.forall_mem_cons] at hslots
  obtain ⟨haccessor, hsecret, hdescription, hlocal, hpolicies, hroles, hservices, hnodes, -⟩ :=
    hslots
  have hbool (value : Bool) : readBool (Json.bool value) = .ok value := rfl
  have hlinks := readList_ofList Link.read_toJson
  exact {
    accessor := contentOf_of_present? readText_string haccessor
    secret := contentOf_of_present? readText_string hsecret
    description := contentOf_of_present? readText_string hdescription
    isLocal := contentOf_of_present? hbool hlocal
    policies := contentOf_of_present? hlinks hpolicies
    roles := contentOf_of_present? hlinks hroles
    serviceIdentities :=
      contentOf_of_present? (readList_ofList ServiceIdentity.read_toJson) hservices
    nodeIdentities := contentOf_of_present? (readList_ofList NodeIdentity.read_toJson) hnodes }

/-- A record is read from each document that describes it. -/
theorem Describes.read_eq (h : Describes entries record) (hregular : record.Regular)
    (hordered : entries.Ordered) (depth : Nat) : read depth (Json.object entries) = .ok record := by
  refine read_object_iff.2 ⟨hordered.once names, h.holds, ?_⟩
  refine hregular.ordered.ext (Keyed.ordered_ofList _) fun key => ?_
  rw [get?_ofList_otherEntries hordered]
  by_cases hkey : key ∈ names
  · rw [if_pos hkey, hregular.foreign key hkey]
  · rw [if_neg hkey, h.rest key hkey]

/-- An attribute that is there is not written as null. -/
theorem filter_slot? (record : TokenRecord) :
    ∀ name ∈ names, (record.slot? name).filter (· ≠ .null) = record.slot? name := by
  have hfilter {τ : Type} {write : τ → Json} (hwrite : ∀ a, write a ≠ .null) (content : Option τ) :
      (content.map write).filter (· ≠ .null) = content.map write := by
    cases content with
    | none => rfl
    | some a => simp [hwrite a]
  simp only [names, List.forall_mem_cons]
  refine ⟨hfilter ?_ _, hfilter ?_ _, hfilter ?_ _, hfilter ?_ _, hfilter ?_ _, hfilter ?_ _,
    hfilter ?_ _, hfilter ?_ _, List.forall_mem_nil _⟩ <;> rintro _ ⟨⟩

theorem Regular.describes (h : record.Regular) : Describes record.entries record := by
  refine ⟨fun name hname => ?_, fun key hkey => get?_entries_of_not_mem hkey⟩
  rw [present?, h.get?_attribute hname, record.filter_slot? name hname]

/-- A record is read from the document it is written as. -/
theorem Regular.read_toJson (h : record.Regular) (depth : Nat) :
    read depth record.toJson = .ok record :=
  h.describes.read_eq h h.ordered_entries depth

end TokenRecord

/-! ## Documents -/

open TokenRecord

/-- **A record keeps its document.** A document that is read as a record is written with its
attributes in their canonical form and those that are null left out; what stands under other keys is
kept as it is. What is written is read as the same record, and nothing in it is left to rewrite. -/
theorem record_keeps_document {entries : Entries} (hordered : entries.Ordered) {depth : Nat}
    {record : TokenRecord} (hread : TokenRecord.read depth (Json.object entries) = .ok record) :
    record.toJson = .object (rewritten entries) ∧
    (∀ key ∉ names, (rewritten entries).get? key = entries.get? key) ∧
    (∀ depth, TokenRecord.read depth record.toJson = .ok record) ∧
    rewritten (rewritten entries) = rewritten entries := by
  have hregular := regular_of_read hread
  have hentries := entries_eq_rewritten hordered hread
  refine ⟨congrArg Json.object hentries, fun key hkey => ?_, hregular.read_toJson, ?_⟩
  · rw [get?_rewritten hordered, funext (rewritten?_of_not_mem hkey), Option.bind_fun_some]
  · have hagain := entries_eq_rewritten hregular.ordered_entries (hregular.read_toJson depth)
    rw [← hentries]
    exact hagain.symm

/-! ## A document with loose grants -/

/-- A document with nulls, an array for a policy and a key too many in another one. -/
def looseEntries : Entries :=
  [("AccessorID", .string "a"), ("Description", .null), ("Hash", .null),
    ("Policies", .array [.array [.string "p"],
      .object [("Name", .string "q"), ("Rank", .number (.int 1))]])]

/-- The record of the document with loose grants. -/
def looseRecord : TokenRecord :=
  { TokenRecord.empty with
    accessor := some "a"
    policies := some [⟨some "p", none⟩, ⟨none, some "q"⟩]
    extra := [("Hash", .null)] }

theorem record_keeps_document_of_loose :
    looseEntries.Ordered ∧ TokenRecord.read 0 (Json.object looseEntries) = .ok looseRecord ∧
      looseRecord.toJson = .object [("AccessorID", .string "a"), ("Hash", .null),
        ("Policies", .array [.object [("ID", .string "p"), ("Name", .null)],
          .object [("ID", .null), ("Name", .string "q")]])] ∧
      looseRecord.toJson = .object (rewritten looseEntries) ∧
      (rewritten looseEntries).get? "Hash" = some .null ∧
      TokenRecord.read 1 looseRecord.toJson = .ok looseRecord ∧
      rewritten (rewritten looseEntries) = rewritten looseEntries := by
  have hordered : looseEntries.Ordered := by decide +kernel
  have hread : TokenRecord.read 0 (Json.object looseEntries) = .ok looseRecord := by
    decide +kernel
  obtain ⟨hwritten, hkeep, hagain, hidempotent⟩ := record_keeps_document hordered hread
  exact ⟨hordered, hread, by decide +kernel, hwritten, hkeep "Hash" (by decide), hagain 1,
    hidempotent⟩

end TokenSync
