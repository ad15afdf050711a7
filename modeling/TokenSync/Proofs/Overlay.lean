import TokenSync.Proofs.UpdateReport

/-!
# Merged tokens

Two records of one token are merged attribute by attribute and key by key. For records that were
read from documents this is one operation on what is written: the document of the later record is
laid over that of the earlier one. A record that was read is determined by the document it is
written as, so the laws of merging are those of this overlay.
-/
namespace TokenSync

open Json

namespace TokenRecord

/-! ## Records that are read from documents -/

/-- A record is read from a document with these entries: from its value, or from a text that shows
this value. -/
inductive ReadFrom (document : Entries) (record : TokenRecord) : Prop where
  | value (depth : Nat) (ordered : document.Ordered)
      (read : TokenRecord.read depth (Json.object document) = .ok record)
  | text (depth : Nat) (node : Node) (shown : node.shown = .object document)
      (read : TokenRecord.read depth node = .ok record)

namespace ReadFrom

variable {document : Entries} {record : TokenRecord}

/-- What is read from a text is read from a value as well. -/
theorem read_object (h : ReadFrom document record) :
    document.Ordered ∧ TokenRecord.read 0 (Json.object document) = .ok record := by
  cases h with
  | value depth ordered read => exact ⟨ordered, read_object_iff.2 (read_object_iff.1 read)⟩
  | text depth node shown read =>
    obtain ⟨entries, hshown, hordered, hread⟩ := exists_read_shown read 0
    cases shown.symm.trans hshown
    exact ⟨hordered, hread⟩

theorem regular (h : ReadFrom document record) : record.Regular := regular_of_read h.read_object.2

/-- What is written is the document, rewritten. -/
theorem entries_eq (h : ReadFrom document record) : record.entries = rewritten document :=
  entries_eq_rewritten h.read_object.1 h.read_object.2

/-- An attribute that is null in the document is left out. -/
theorem get?_entries_of_null (h : ReadFrom document record) {name : String} (hname : name ∈ names)
    (hnull : document.get? name = some .null) : record.entries.get? name = none := by
  rw [h.entries_eq, get?_rewritten h.read_object.1, hnull]
  exact if_pos ⟨hname, rfl⟩

/-- What stands under any other key is kept, null as well. -/
theorem get?_entries_of_not_mem (h : ReadFrom document record) {key : String} (hkey : key ∉ names) :
    record.entries.get? key = document.get? key := by
  rw [h.entries_eq, get?_rewritten h.read_object.1, funext (rewritten?_of_not_mem hkey),
    Option.bind_fun_some]

end ReadFrom

/-! ## Merging -/

section

variable {record listed full other : TokenRecord}

theorem Regular.merge (hlisted : listed.Regular) (hfull : full.Regular) :
    (merge listed full).Regular where
  ordered := hlisted.ordered.overlay _
  foreign name hname := by
    refine (hfull.ordered.get?_overlay listed.extra name).trans ?_
    rw [hfull.foreign name hname, hlisted.foreign name hname, Option.or_none]

/-- Under each key a merged record is written with what the full record has there, if it has
anything. -/
theorem get?_entries_merge (hlisted : listed.Regular) (hfull : full.Regular) (key : String) :
    (merge listed full).entries.get? key =
      (full.entries.get? key).or (listed.entries.get? key) := by
  by_cases hkey : key ∈ names
  · rw [(hlisted.merge hfull).get?_attribute hkey, hfull.get?_attribute hkey,
      hlisted.get?_attribute hkey, slot?_merge listed full key hkey]
  · rw [get?_entries_of_not_mem hkey, get?_entries_of_not_mem hkey, get?_entries_of_not_mem hkey]
    exact hfull.ordered.get?_overlay listed.extra key

/-- **Merging is overlaying what is written.** -/
theorem entries_merge (hlisted : listed.Regular) (hfull : full.Regular) :
    (merge listed full).entries = listed.entries.overlay full.entries := by
  refine (hlisted.merge hfull).ordered_entries.ext (hlisted.ordered_entries.overlay _) fun key => ?_
  rw [get?_entries_merge hlisted hfull, hfull.ordered_entries.get?_overlay]

/-- A record is determined by what is written under each key. -/
theorem Regular.ext (h : record.Regular) (ho : other.Regular)
    (hget : ∀ key, record.entries.get? key = other.entries.get? key) : record = other := by
  have hentries : record.entries = other.entries := h.ordered_entries.ext ho.ordered_entries hget
  have hread := h.read_toJson 0
  rw [toJson, hentries] at hread
  exact Except.ok.inj (hread.symm.trans (ho.read_toJson 0))

/-! ## Laws of merging -/

theorem regular_empty : TokenRecord.empty.Regular := ⟨Keyed.ordered_nil, fun _ _ => rfl⟩

theorem merge_assoc (hlisted : listed.Regular) (hfull : full.Regular) (hother : other.Regular) :
    merge (merge listed full) other = merge listed (merge full other) := by
  refine ((hlisted.merge hfull).merge hother).ext (hlisted.merge (hfull.merge hother)) fun key => ?_
  rw [get?_entries_merge (hlisted.merge hfull) hother, get?_entries_merge hlisted hfull,
    get?_entries_merge hlisted (hfull.merge hother), get?_entries_merge hfull hother,
    Option.or_assoc]

theorem merge_self (h : record.Regular) : merge record record = record := by
  refine (h.merge h).ext h fun key => ?_
  rw [get?_entries_merge h h, Option.or_self]

theorem empty_merge (h : record.Regular) : merge .empty record = record := by
  refine (regular_empty.merge h).ext h fun key => ?_
  rw [get?_entries_merge regular_empty h]
  exact Option.or_none

theorem merge_empty (h : record.Regular) : merge record .empty = record := by
  refine (h.merge regular_empty).ext h fun key => ?_
  rw [get?_entries_merge h regular_empty]
  exact Option.none_or

end

end TokenRecord

/-! ## Documents -/

open TokenRecord

/-- **The merge of two records is written as one document laid over the other.** Under every key
stands what the later document has there, and otherwise what the earlier one has. An attribute that
was read as null is in neither of them, but null under another key is, and it counts. What is kept
besides the attributes is not under their names, so what is written is read as the merge. Merging
is associative and idempotent, and the empty record adds nothing on either side. -/
theorem merge_overlays_documents {document document' : Entries} {listed full : TokenRecord}
    (hlisted : ReadFrom document listed) (hfull : ReadFrom document' full) :
    (∃ earlier later : Entries, listed.toJson = .object earlier ∧ full.toJson = .object later ∧
      (merge listed full).toJson = .object (earlier.overlay later) ∧
      (∀ key, (earlier.overlay later).get? key = (later.get? key).or (earlier.get? key)) ∧
      (∀ name ∈ names, document'.get? name = some .null → later.get? name = none) ∧
      ∀ key ∉ names, document'.get? key = some .null →
        (earlier.overlay later).get? key = some .null) ∧
    (∀ name ∈ names, (merge listed full).extra.get? name = none) ∧
    (∀ depth, TokenRecord.read depth (merge listed full).toJson = .ok (merge listed full)) ∧
    (∀ document'' other, ReadFrom document'' other →
      merge (merge listed full) other = merge listed (merge full other)) ∧
    merge full full = full ∧ merge .empty full = full ∧ merge full .empty = full := by
  have hmerge := hlisted.regular.merge hfull.regular
  have hget (key : String) : (listed.entries.overlay full.entries).get? key =
      (full.entries.get? key).or (listed.entries.get? key) :=
    hfull.regular.ordered_entries.get?_overlay listed.entries key
  refine ⟨⟨listed.entries, full.entries, rfl, rfl, ?_, hget, ?_, ?_⟩, hmerge.foreign,
    hmerge.read_toJson, ?_, merge_self hfull.regular, empty_merge hfull.regular,
    merge_empty hfull.regular⟩
  · exact congrArg Json.object (entries_merge hlisted.regular hfull.regular)
  · exact fun name => hfull.get?_entries_of_null
  · intro key hkey hnull
    rw [hget, hfull.get?_entries_of_not_mem hkey, hnull, Option.some_or]
  · exact fun _ _ hother => merge_assoc hlisted.regular hfull.regular hother.regular

/-! ## A token that is read from a text and a value -/

/-- The text of an entry of a listing. -/
def entryText : String :=
  "\x7b\"Policies\":[[\"p\"]],\"AccessorID\":\"a\",\"Description\":\"d\",\"Hash\":1\x7d"

/-- The record of this entry. -/
def entryRecord : TokenRecord :=
  { TokenRecord.empty with
    accessor := some "a"
    description := some "d"
    policies := some [⟨some "p", none⟩]
    extra := [("Hash", .number (.int 1))] }

/-- A document with null for an attribute and under another key. -/
def nullDocument : Entries := [("Description", .null), ("Hash", .null), ("Local", .bool true)]

/-- The record of the document with null. -/
def nullRecord : TokenRecord :=
  { TokenRecord.empty with isLocal := some true, extra := [("Hash", .null)] }

theorem merge_overlays_documents_of_text :
    let document : Entries := [("AccessorID", .string "a"), ("Description", .string "d"),
      ("Hash", .number (.int 1)), ("Policies", .array [.array [.string "p"]])]
    ReadFrom document entryRecord ∧ ReadFrom nullDocument nullRecord ∧
      (merge entryRecord nullRecord).toJson = .object [("AccessorID", .string "a"),
        ("Description", .string "d"), ("Hash", .null), ("Local", .bool true),
        ("Policies", .array [.object [("ID", .string "p"), ("Name", .null)]])] ∧
      (∃ earlier later : Entries, entryRecord.toJson = .object earlier ∧
        nullRecord.toJson = .object later ∧
        (merge entryRecord nullRecord).toJson = .object (earlier.overlay later) ∧
        later.get? "Description" = none ∧ (earlier.overlay later).get? "Hash" = some .null) ∧
      TokenRecord.read 1 (merge entryRecord nullRecord).toJson =
        .ok (merge entryRecord nullRecord) ∧
      merge (merge entryRecord nullRecord) entryRecord =
        merge entryRecord (merge nullRecord entryRecord) := by
  intro document
  have hentry : ReadFrom document entryRecord :=
    .text 1 (Document.ofText entryText).root (by decide +kernel) (by decide +kernel)
  have hnull : ReadFrom nullDocument nullRecord :=
    .value 0 (by decide +kernel) (by decide +kernel)
  obtain ⟨⟨earlier, later, hearlier, hlater, hmerge, -, hnulls, hkeeps⟩, -, hread, hassoc, -⟩ :=
    merge_overlays_documents hentry hnull
  refine ⟨hentry, hnull, by decide +kernel, ⟨earlier, later, hearlier, hlater, hmerge,
    hnulls "Description" (by decide) rfl, hkeeps "Hash" (by decide) ?_⟩, hread 1,
    hassoc document entryRecord hentry⟩
  decide +kernel

end TokenSync
