/-!
# Lists with keys

Entries with texts as keys, in increasing order of the keys and each key once. Putting a value under
a key keeps the order, and a later value replaces an earlier one.
-/
namespace TokenSync

/-- Entries under keys. -/
abbrev Keyed (α : Type) := List (String × α)

namespace Keyed

variable {α : Type}

/-- The value under a key. -/
def get? (entries : Keyed α) (key : String) : Option α := entries.lookup key

/-- The entries with a value put under a key, in the place its key has in the order; a value that
was there before is replaced. -/
def insert (key : String) (value : α) : Keyed α → Keyed α
  | [] => [(key, value)]
  | (k, v) :: rest =>
    if key = k then (key, value) :: rest
    else if key < k then (key, value) :: (k, v) :: rest
    else (k, v) :: insert key value rest

/-- All entries of the second list put into the first one after another, so the last entry of a
key counts. -/
def overlay (earlier later : Keyed α) : Keyed α :=
  later.foldl (fun entries (key, value) => entries.insert key value) earlier

/-- The entries of a list in the order of their keys; of several with one key the last. -/
def ofList (entries : List (String × α)) : Keyed α := overlay [] entries

@[simp] theorem get?_nil (key : String) : get? ([] : Keyed α) key = none := rfl

theorem get?_cons (k : String) (v : α) (rest : Keyed α) (key : String) :
    get? ((k, v) :: rest) key = if key = k then some v else get? rest key := by
  by_cases h : key = k
  · simp [get?, h]
  · simp [get?, List.lookup_cons, h, beq_eq_false_iff_ne.2 h]

theorem get?_insert (entries : Keyed α) (key other : String) (value : α) :
    (entries.insert key value).get? other =
      if other = key then some value else entries.get? other := by
  induction entries with
  | nil => simp [insert, get?_cons]
  | cons entry rest ih =>
    obtain ⟨k, v⟩ := entry
    unfold insert
    by_cases hk : key = k
    · subst hk
      by_cases h : other = key <;> simp [get?_cons, h]
    · by_cases hlt : key < k
      · simp [hk, hlt, get?_cons]
      · simp only [hk, hlt, if_false, get?_cons, ih]
        by_cases h : other = k
        · simp [h, Ne.symm hk]
        · simp [h]

/-- The value of the second list counts where it has one, and of several the last. -/
theorem get?_overlay (earlier later : Keyed α) (key : String) :
    (earlier.overlay later).get? key = (later.reverse.lookup key).or (earlier.get? key) := by
  unfold overlay
  induction later generalizing earlier with
  | nil => simp [get?]
  | cons entry rest ih =>
    obtain ⟨k, v⟩ := entry
    rw [List.foldl_cons, ih, get?_insert, List.reverse_cons, List.lookup_append]
    by_cases h : key = k
    · simp [h]
    · simp [h, List.lookup_cons, beq_eq_false_iff_ne.2 h]

end Keyed

end TokenSync
