import Mathlib.Algebra.Group.Nat.Defs
import Mathlib.Data.List.TakeWhile
import TokenSync.Text.Blank
import TokenSync.Text.Numeral

/-!
# Decimal numerals and the texts around them

A text is a decimal numeral exactly if it has digits and nothing else, and then stands for the usual
number. Numerals that are written one after another without anything between them are again a
numeral. A text is split at points, and loses the white space at its ends, part by part.
-/
namespace TokenSync.Text

/-! ## Values -/

theorem toNat_bounds_of_isDigit {c : Char} (h : c.isDigit = true) :
    48 ≤ c.toNat ∧ c.toNat ≤ 57 := by
  simpa [Char.isDigit, UInt32.le_iff_toNat_le] using h

theorem digit?_of_isDigit {c : Char} (h : c.isDigit = true) :
    digit? 10 c = some (c.toNat - '0'.toNat) := by
  have hbounds := toNat_bounds_of_isDigit h
  have hlt : c.toNat - '0'.toNat < 10 := by
    change c.toNat - 48 < 10
    omega
  simp only [digit?, h, if_true, hlt]

theorem digit?_of_not_isDigit {c : Char} (h : ¬ c.isDigit = true) : digit? 10 c = none := by
  simp only [digit?, h]
  refine if_neg ?_
  -- A letter stands for ten or more, and everything else for the base itself.
  split
  · contradiction
  · split
    · omega
    · split <;> omega

theorem digitsAfter?_eq_some_iff {cs : List Char} {start n : Nat} :
    digitsAfter? 10 start cs = some n ↔
      (∀ c ∈ cs, c.isDigit = true) ∧ n = Nat.ofDigitChars 10 cs start := by
  induction cs generalizing start with
  | nil =>
    simp only [digitsAfter?, Option.some.injEq, List.not_mem_nil, false_implies, implies_true,
      true_and, Nat.ofDigitChars_nil]
    exact eq_comm
  | cons c rest ih =>
    by_cases hc : c.isDigit = true
    · have hstep : digitsAfter? 10 start (c :: rest) =
          digitsAfter? 10 (10 * start + (c.toNat - '0'.toNat)) rest := by
        rw [digitsAfter?, digit?_of_isDigit hc, Nat.mul_comm]
        rfl
      rw [hstep, ih, List.forall_mem_cons, Nat.ofDigitChars_cons]
      simp only [hc, true_and]
    · rw [digitsAfter?, digit?_of_not_isDigit hc, List.forall_mem_cons]
      simp [hc]

/-- A text is a natural number if it consists of one or more digits. -/
theorem natural?_eq_some_iff {cs : List Char} {n : Nat} :
    natural? 10 cs = some n ↔
      cs ≠ [] ∧ (∀ c ∈ cs, c.isDigit = true) ∧ n = Nat.ofDigitChars 10 cs 0 := by
  cases cs with
  | nil => simp [natural?]
  | cons c rest =>
    rw [natural?, digitsAfter?_eq_some_iff]
    · simp
    · rintro ⟨⟩

/-- A numeral after another one counts in units and the other one in powers of ten. -/
theorem ofDigitChars_append_eq (xs ys : List Char) :
    Nat.ofDigitChars 10 (xs ++ ys) 0 =
      10 ^ ys.length * Nat.ofDigitChars 10 xs 0 + Nat.ofDigitChars 10 ys 0 := by
  rw [Nat.ofDigitChars_append]
  exact Nat.ofDigitChars_eq_ofDigitChars_zero

/-- So many digits stand for a number below the power of ten of so many. -/
theorem ofDigitChars_lt_pow {cs : List Char} (h : ∀ c ∈ cs, c.isDigit = true) :
    Nat.ofDigitChars 10 cs 0 < 10 ^ cs.length := by
  induction cs with
  | nil => exact Nat.one_pos
  | cons c rest ih =>
    obtain ⟨hc, hrest⟩ := List.forall_mem_cons.1 h
    have hbounds := toNat_bounds_of_isDigit hc
    have hdigit : c.toNat - '0'.toNat ≤ 9 := by
      change c.toNat - 48 ≤ 9
      omega
    have hlt := ih hrest
    rw [Nat.ofDigitChars_cons, Nat.ofDigitChars_eq_ofDigitChars_zero, List.length_cons,
      Nat.mul_zero, Nat.zero_add, Nat.pow_succ]
    calc 10 ^ rest.length * (c.toNat - '0'.toNat) + Nat.ofDigitChars 10 rest 0
        < 10 ^ rest.length * (c.toNat - '0'.toNat) + 10 ^ rest.length :=
          Nat.add_lt_add_left hlt _
      _ = 10 ^ rest.length * (c.toNat - '0'.toNat + 1) := (Nat.mul_succ _ _).symm
      _ ≤ 10 ^ rest.length * 10 := Nat.mul_le_mul_left _ (Nat.succ_le_succ hdigit)

/-- A decimal numeral of a number: one or more digits, and one plus sign before them at most. -/
def IsNumeral (cs : List Char) (n : Nat) : Prop :=
  ∃ sign digits, cs = sign ++ digits ∧ (sign = [] ∨ sign = ['+']) ∧ digits ≠ [] ∧
    (∀ c ∈ digits, c.isDigit = true) ∧ n = Nat.ofDigitChars 10 digits 0

/-! ## Digits, points and white space -/

theorem isDigit_of_mem_toDigits {n : Nat} : ∀ c ∈ Nat.toDigits 10 n, c.isDigit = true :=
  fun _ => Nat.isDigit_of_mem_toDigits (by decide) (by decide)

theorem isBlank_of_isDigit {c : Char} (h : c.isDigit = true) : isBlank c = false := by
  have hbounds := toNat_bounds_of_isDigit h
  simp only [isBlank, Bool.or_eq_false_iff, Bool.and_eq_false_iff, decide_eq_false_iff_not,
    beq_eq_false_iff_ne]
  omega

/-- A plus sign is left out only in front. -/
theorem dropPlus_of_isDigit {c : Char} (h : c.isDigit = true) (rest : List Char) :
    dropPlus (c :: rest) = c :: rest := by
  unfold dropPlus
  split
  · next heq =>
    obtain ⟨rfl, -⟩ := List.cons.inj heq
    exact absurd h (by decide)
  · rfl

theorem natural?_dropPlus_eq_some_iff {cs : List Char} {n : Nat} :
    natural? 10 (dropPlus cs) = some n ↔ IsNumeral cs n := by
  rw [natural?_eq_some_iff]
  constructor
  · intro h
    by_cases hsign : ∃ rest, cs = '+' :: rest
    · obtain ⟨rest, rfl⟩ := hsign
      exact ⟨['+'], rest, rfl, .inr rfl, h⟩
    · have hbare : dropPlus cs = cs := by
        unfold dropPlus
        split
        · next rest => exact absurd ⟨rest, rfl⟩ hsign
        · rfl
      rw [hbare] at h
      exact ⟨[], cs, rfl, .inl rfl, h⟩
  · rintro ⟨sign, digits, rfl, rfl | rfl, hne, hdigits, hvalue⟩
    · obtain ⟨c, rest, rfl⟩ := List.exists_cons_of_ne_nil hne
      rw [List.nil_append, dropPlus_of_isDigit (hdigits c List.mem_cons_self)]
      exact ⟨hne, hdigits, hvalue⟩
    · exact ⟨hne, hdigits, hvalue⟩

/-- No white space is in a numeral. -/
theorem IsNumeral.isBlank {cs : List Char} {n : Nat} (h : IsNumeral cs n) :
    ∀ c ∈ cs, isBlank c = false := by
  obtain ⟨sign, digits, rfl, hsign, -, hdigits, -⟩ := h
  refine List.forall_mem_append.2 ⟨?_, fun c hc => isBlank_of_isDigit (hdigits c hc)⟩
  obtain rfl | rfl := hsign
  · exact List.forall_mem_nil _
  · exact List.forall_mem_singleton.2 (by decide)

/-- A numeral without a sign is all digits. -/
theorem IsNumeral.eq_of_isDigit {cs : List Char} {n : Nat} (h : IsNumeral cs n)
    (hdigits : ∀ c ∈ cs, c.isDigit = true) : n = Nat.ofDigitChars 10 cs 0 := by
  obtain ⟨sign, digits, rfl, rfl | rfl, -, -, rfl⟩ := h
  · rfl
  · exact absurd (hdigits '+' List.mem_cons_self) (by decide)

theorem splitAt_of_not_mem {separator : Char} {part : List Char} (h : separator ∉ part) :
    splitAt separator part = [part] := by
  induction part with
  | nil => rfl
  | cons c rest ih =>
    obtain ⟨hc, hrest⟩ := not_or.1 (mt List.mem_cons.2 h)
    rw [splitAt, if_neg (Ne.symm hc), ih hrest]

/-- The first part of a text reaches up to the first separator. -/
theorem splitAt_append_cons {separator : Char} {part : List Char} (h : separator ∉ part)
    (rest : List Char) :
    splitAt separator (part ++ separator :: rest) = part :: splitAt separator rest := by
  induction part with
  | nil => simp [splitAt]
  | cons c part ih =>
    obtain ⟨hc, hpart⟩ := not_or.1 (mt List.mem_cons.2 h)
    rw [List.cons_append, splitAt, if_neg (Ne.symm hc), ih hpart]

/-- The first part of a text, and what the other parts are split from. -/
theorem splitAt_eq_cons_iff {separator : Char} {cs part : List Char} {parts : List (List Char)} :
    splitAt separator cs = part :: parts ↔
      separator ∉ part ∧ (cs = part ∧ parts = [] ∨
        ∃ rest, cs = part ++ separator :: rest ∧ splitAt separator rest = parts) := by
  constructor
  · intro h
    by_cases hmem : separator ∈ cs
    · obtain ⟨first, rest, rfl, hfirst⟩ := List.eq_append_cons_of_mem hmem
      rw [splitAt_append_cons hfirst] at h
      obtain ⟨rfl, rfl⟩ := List.cons.inj h
      exact ⟨hfirst, .inr ⟨rest, rfl, rfl⟩⟩
    · rw [splitAt_of_not_mem hmem] at h
      obtain ⟨rfl, rfl⟩ := List.cons.inj h
      exact ⟨hmem, .inl ⟨rfl, rfl⟩⟩
  · rintro ⟨hpart, ⟨rfl, rfl⟩ | ⟨rest, rfl, rfl⟩⟩
    · exact splitAt_of_not_mem hpart
    · exact splitAt_append_cons hpart rest

/-- What is left of a text when the white space at both of its ends is taken away. -/
structure Trimmed (cs core : List Char) : Prop where
  around : ∃ before after, cs = before ++ (core ++ after) ∧
    (∀ c ∈ before, isBlank c = true) ∧ ∀ c ∈ after, isBlank c = true
  head : ∀ c ∈ core.head?, isBlank c = false
  last : ∀ c ∈ core.getLast?, isBlank c = false

/-- The text without the white space at its end. -/
def trimEnd (cs : List Char) : List Char := (cs.reverse.dropWhile isBlank).reverse

theorem trimEnd_prefix (cs : List Char) : trimEnd cs <+: cs := by
  rw [← List.reverse_suffix, trimEnd, List.reverse_reverse]
  exact List.dropWhile_suffix _

theorem trimEnd_eq_nil {cs : List Char} (h : ∀ c ∈ cs, isBlank c = true) : trimEnd cs = [] := by
  have hall : cs.reverse.dropWhile isBlank = [] :=
    List.dropWhile_eq_nil_iff.2 fun c hc => h c (List.mem_reverse.1 hc)
  rw [trimEnd, hall, List.reverse_nil]

theorem dropWhile_append_of_head {p : Char → Bool} {core : List Char} (hne : core ≠ [])
    (hhead : ∀ c ∈ core.head?, p c = false) (rest : List Char) :
    (core ++ rest).dropWhile p = core ++ rest := by
  obtain ⟨c, core, rfl⟩ := List.exists_cons_of_ne_nil hne
  rw [List.cons_append, List.dropWhile_cons_of_neg]
  simp [hhead c rfl]

theorem isBlank_of_mem_head?_dropWhile {cs : List Char} :
    ∀ c ∈ (cs.dropWhile isBlank).head?, isBlank c = false := by
  intro c hc
  have hnot := List.head?_dropWhile_not isBlank cs
  rw [hc] at hnot
  simpa using hnot

theorem trimmed_trim (cs : List Char) : Trimmed cs (trim cs) := by
  let rest := cs.dropWhile isBlank
  have hrest : rest = trimEnd rest ++ (rest.reverse.takeWhile isBlank).reverse := by
    rw [trimEnd, ← List.reverse_append, List.takeWhile_append_dropWhile, List.reverse_reverse]
  refine ⟨⟨cs.takeWhile isBlank, (rest.reverse.takeWhile isBlank).reverse, ?_,
    fun c hc => List.mem_takeWhile_imp hc,
    fun c hc => List.mem_takeWhile_imp (List.mem_reverse.1 hc)⟩, ?_, ?_⟩
  · change cs = _ ++ (trimEnd rest ++ _)
    rw [← hrest, List.takeWhile_append_dropWhile]
  · -- What is left begins where the white space before it ends.
    intro c hc
    have hfront : c ∈ rest.head? := by
      change (trimEnd rest).head? = some c at hc
      rw [hrest, List.head?_append, hc, Option.some_or]
      rfl
    exact isBlank_of_mem_head?_dropWhile c hfront
  · intro c hc
    rw [trim, List.getLast?_reverse] at hc
    exact isBlank_of_mem_head?_dropWhile c hc

/-- There is one way to take the white space at the ends away. -/
theorem trimmed_iff {cs core : List Char} : Trimmed cs core ↔ trim cs = core := by
  refine ⟨fun ⟨⟨before, after, hcs, hbefore, hafter⟩, hhead, hlast⟩ => ?_,
    fun h => h ▸ trimmed_trim cs⟩
  rw [hcs, trim, List.dropWhile_append_of_pos hbefore]
  by_cases hne : core = []
  · rw [hne, List.nil_append, List.dropWhile_eq_nil_iff.2 hafter]
    rfl
  · have hback : ∀ c ∈ core.reverse.head?, isBlank c = false := by
      rw [List.head?_reverse]
      exact hlast
    have hreverse := dropWhile_append_of_head (mt List.reverse_eq_nil_iff.1 hne) hback []
    rw [List.append_nil] at hreverse
    rw [dropWhile_append_of_head hne hhead, List.reverse_append,
      List.dropWhile_append_of_pos fun c hc => hafter c (List.mem_reverse.1 hc), hreverse,
      List.reverse_reverse]

/-- Only what is behind the last character that is not white space can lose anything. -/
theorem trim_append {before core : List Char} (hbefore : ∀ c ∈ before, isBlank c = true)
    (hcore : ∀ c ∈ core, isBlank c = false) (hne : core ≠ []) (rest : List Char) :
    trim (before ++ (core ++ rest)) = core ++ trimEnd rest := by
  have hhead : ∀ c ∈ core.head?, isBlank c = false := fun c hc => hcore c (List.mem_of_mem_head? hc)
  have hlast : ∀ c ∈ core.reverse.head?, isBlank c = false := fun c hc =>
    hcore c (List.mem_reverse.1 (List.mem_of_mem_head? hc))
  have hback := dropWhile_append_of_head (mt List.reverse_eq_nil_iff.1 hne) hlast []
  rw [List.append_nil] at hback
  rw [trim, List.dropWhile_append_of_pos hbefore, dropWhile_append_of_head hne hhead,
    List.reverse_append, List.dropWhile_append, hback, trimEnd]
  split
  · next h =>
    rw [List.isEmpty_iff.1 h]
    simp
  · simp

end TokenSync.Text
