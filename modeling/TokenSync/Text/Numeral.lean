/-!
# Natural numbers in texts

Digits of a base up to sixteen, and the value of a text that consists of them. A decimal text may
have one plus sign in front.
-/
namespace TokenSync.Text

/-- The value of a digit in a base. -/
def digit? (base : Nat) (c : Char) : Option Nat :=
  let n :=
    if c.isDigit then c.toNat - '0'.toNat
    else if 'a' ≤ c ∧ c ≤ 'f' then c.toNat - 'a'.toNat + 10
    else if 'A' ≤ c ∧ c ≤ 'F' then c.toNat - 'A'.toNat + 10
    else base
  if n < base then some n else none

/-- The value of digits that follow a number. -/
def digitsAfter? (base : Nat) (start : Nat) : List Char → Option Nat
  | [] => some start
  | c :: rest => do digitsAfter? base (start * base + (← digit? base c)) rest

/-- The value of a text of one or more digits. -/
def natural? (base : Nat) : List Char → Option Nat
  | [] => none
  | cs => digitsAfter? base 0 cs

/-- The text without one plus sign in front of it. -/
def dropPlus : List Char → List Char
  | '+' :: rest => rest
  | cs => cs

/-- Splits a text at a character; there is always at least one part. -/
def splitAt (separator : Char) : List Char → List (List Char)
  | [] => [[]]
  | c :: rest =>
    if c = separator then [] :: splitAt separator rest
    else
      match splitAt separator rest with
      | [] => [[c]]
      | part :: parts => (c :: part) :: parts

theorem splitAt_ne_nil (separator : Char) (cs : List Char) : splitAt separator cs ≠ [] := by
  cases cs with
  | nil => simp [splitAt]
  | cons c rest =>
    unfold splitAt
    split
    · simp
    · split <;> simp

/-- There is one part more than there are separators. -/
theorem length_splitAt (separator : Char) (cs : List Char) :
    (splitAt separator cs).length = cs.count separator + 1 := by
  induction cs with
  | nil => rfl
  | cons c rest ih =>
    unfold splitAt
    by_cases h : c = separator
    · simp [h, ih]
    · rw [if_neg h, List.count_cons_of_ne h, ← ih]
      split
      · next hn => exact absurd hn (splitAt_ne_nil separator rest)
      · next hs => simp [hs]

end TokenSync.Text
