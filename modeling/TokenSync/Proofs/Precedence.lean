import TokenSync.Proofs.Overlay

/-!
# Which document a merge prefers

By precedence a merge has what the full record reports under a key, and otherwise what the listing
reports there, where null is no report. Attributes follow this rule. Under any other key null in the
full record counts as well, so the rule fails just where the merge is written with null.
-/
namespace TokenSync

open Json

namespace TokenRecord

variable {document document' : Entries} {record listed full : TokenRecord} {key : String}

/-- What a document reports under a key, as it is written; null is no report. -/
def reported? (document : Entries) (key : String) : Option Json :=
  (present? document key).map (canonicalField key)

/-- What is preferred under a key: the report of the later document, or else of the earlier one. -/
def preferred? (earlier later : Entries) (key : String) : Option Json :=
  (reported? later key).or (reported? earlier key)

theorem canonicalField_of_not_mem (hkey : key ∉ names) (value : Json) :
    canonicalField key value = value := by
  have hrewritten := rewritten?_of_not_mem hkey value
  rw [rewritten?, if_neg fun h => hkey h.1] at hrewritten
  exact Option.some.inj hrewritten

theorem reported?_of_not_mem (hkey : key ∉ names) (document : Entries) :
    reported? document key = present? document key := by
  rw [reported?, funext (canonicalField_of_not_mem hkey)]
  exact Option.map_id_apply

/-- An attribute is written as it is reported. -/
theorem ReadFrom.get?_attribute (h : ReadFrom document record) (hkey : key ∈ names) :
    record.entries.get? key = reported? document key := by
  rw [h.entries_eq, get?_rewritten h.read_object.1, reported?, present?]
  cases document.get? key with
  | none => rfl
  | some value => by_cases hnull : value = .null <;> simp [rewritten?, hkey, hnull, Option.filter]

/-- The later document counts only if it has more than null. -/
theorem or_eq_or_filter_iff (earlier later : Option Json) :
    later.or earlier = (later.filter (· ≠ .null)).or (earlier.filter (· ≠ .null)) ↔
      later.or earlier ≠ some .null := by
  have hfilter (other : Option Json) : some .null ≠ other.filter (· ≠ .null) := by
    intro h
    obtain ⟨-, hnot⟩ := Option.filter_eq_some_iff.1 h.symm
    simp at hnot
  cases later with
  | none =>
    cases earlier with
    | none => simp
    | some value => by_cases hnull : value = .null <;> simp [Option.filter, hnull]
  | some value =>
    by_cases hnull : value = .null
    · subst hnull
      simpa [Option.filter] using hfilter earlier
    · simp [Option.filter, hnull]

/-- **Where a merge follows the precedence of documents.** An attribute of a merge is the preferred
one. Under any other key a merge has what the full record has there, null as well, and otherwise
what the listing has. So precedence is followed under a key if and only if it is the name of an
attribute or null does not come to stand there. -/
theorem merge_prefers_iff_not_null (hlisted : ReadFrom document listed)
    (hfull : ReadFrom document' full) :
    (∀ name ∈ names,
      (merge listed full).entries.get? name = preferred? document document' name) ∧
    (∀ key ∉ names,
      (merge listed full).entries.get? key = (document'.get? key).or (document.get? key)) ∧
    ∀ key, (merge listed full).entries.get? key = preferred? document document' key ↔
      key ∈ names ∨ (document'.get? key).or (document.get? key) ≠ some .null := by
  have hmerge := get?_entries_merge hlisted.regular hfull.regular
  have hattribute (name : String) (hname : name ∈ names) :
      (merge listed full).entries.get? name = preferred? document document' name := by
    rw [hmerge, hfull.get?_attribute hname, hlisted.get?_attribute hname, preferred?]
  have hforeign (key : String) (hkey : key ∉ names) :
      (merge listed full).entries.get? key = (document'.get? key).or (document.get? key) := by
    rw [hmerge, hfull.get?_entries_of_not_mem hkey, hlisted.get?_entries_of_not_mem hkey]
  refine ⟨hattribute, hforeign, ?_⟩
  intro key
  by_cases hkey : key ∈ names
  · exact iff_of_true (hattribute key hkey) (.inl hkey)
  · rw [hforeign key hkey, preferred?, reported?_of_not_mem hkey, reported?_of_not_mem hkey]
    simp only [hkey, false_or]
    exact or_eq_or_filter_iff (document.get? key) (document'.get? key)

theorem merge_prefers_iff_not_null_of_null :
    let document : Entries := [("Description", .string "d"), ("Hash", .string "h")]
    let document' : Entries := [("CreateIndex", .number (.int 1)), ("Description", .null)]
    let listed : TokenRecord :=
      { TokenRecord.empty with description := some "d", extra := [("Hash", .string "h")] }
    let full : TokenRecord :=
      { TokenRecord.empty with extra := [("CreateIndex", .number (.int 1))] }
    ReadFrom document listed ∧ ReadFrom document' full ∧
      (merge listed full).entries.get? "Description" =
        preferred? document document' "Description" ∧
      (merge listed full).entries.get? "Hash" = preferred? document document' "Hash" ∧
      preferred? document document' "Description" = some (.string "d") := by
  intro document document' listed full
  have hlisted : ReadFrom document listed := .value 0 (by decide +kernel) (by decide +kernel)
  have hfull : ReadFrom document' full := .value 0 (by decide +kernel) (by decide +kernel)
  obtain ⟨hattributes, -, hiff⟩ := merge_prefers_iff_not_null hlisted hfull
  exact ⟨hlisted, hfull, hattributes "Description" (by decide),
    (hiff "Hash").2 (.inr (by decide +kernel)), by decide +kernel⟩

/-- Null under a key that is no attribute's hides what the listing reports there. -/
theorem null_hides_reported :
    ¬∀ (document document' : Entries) (listed full : TokenRecord), ReadFrom document listed →
      ReadFrom document' full → ∀ key,
        (merge listed full).entries.get? key = preferred? document document' key := by
  intro h
  have hlisted : ReadFrom [("Hash", .string "h")]
      { TokenRecord.empty with extra := [("Hash", .string "h")] } :=
    .value 0 (by decide +kernel) (by decide +kernel)
  have hfull : ReadFrom [("Hash", .null)]
      { TokenRecord.empty with extra := [("Hash", .null)] } :=
    .value 0 (by decide +kernel) (by decide +kernel)
  exact absurd (h _ _ _ _ hlisted hfull "Hash") (by decide +kernel)

end TokenRecord

end TokenSync
