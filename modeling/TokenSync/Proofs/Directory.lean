import TokenSync.Agent.Client

/-!
# The directory of a listing

The directory of a listing has under an identifier the last entry that carries this identifier, and
nothing else.
-/
namespace TokenSync

/-- The last entry of a listing that names a token. -/
def lastNamed (listing : List TokenRecord) (id : String) : Option TokenRecord :=
  listing.reverse.find? fun record => record.accessor == some id

theorem lastNamed_eq_none_iff {listing : List TokenRecord} {id : String} :
    lastNamed listing id = none ↔ ∀ record ∈ listing, record.accessor ≠ some id := by
  simp [lastNamed]

theorem accessor_of_lastNamed {listing : List TokenRecord} {id : String} {record : TokenRecord}
    (h : lastNamed listing id = some record) : record.accessor = some id := by
  simpa using List.find?_some h

theorem mem_of_lastNamed {listing : List TokenRecord} {id : String} {record : TokenRecord}
    (h : lastNamed listing id = some record) : record ∈ listing := by
  simpa using List.mem_of_find?_eq_some h

namespace Directory

/-- Among entries with identifiers the first one under a key is the first one that has it. -/
theorem lookup_filterMap_accessor (listing : List TokenRecord) (id : String) :
    (listing.filterMap fun record => record.accessor.map (·, record)).lookup id =
      listing.find? fun record => record.accessor == some id := by
  induction listing with
  | nil => rfl
  | cons record rest ih =>
    cases h : record.accessor with
    | none => simp [h, ih]
    | some accessor =>
      by_cases heq : id = accessor
      · simp [h, heq]
      · have hne : accessor ≠ id := Ne.symm heq
        simp [h, hne, ih, List.lookup_cons, beq_eq_false_iff_ne.2 heq]

theorem get?_ofListing (listing : List TokenRecord) (id : String) :
    (ofListing listing).get? id = lastNamed listing id := by
  rw [ofListing, Keyed.ofList, Keyed.get?_overlay, ← List.filterMap_reverse,
    lookup_filterMap_accessor, Keyed.get?_nil, Option.or_none, lastNamed]

end Directory

end TokenSync
