import TokenSync.Proofs.VersionOrder

/-!
# Versions of the same widths

The number that three components form together is one of a positional system whose lower places are
as wide as the second component and the third. Between versions for which these widths are the same
it is therefore the first difference of the components that counts, and nothing else.
-/
namespace TokenSync.Version

open Text

/-! ## Places -/

/-- A difference in the higher place outweighs the lower one. -/
theorem place_lt_of_lt {base a b a' b' : Nat} (hb : b < base) (h : a < a') :
    base * a + b < base * a' + b' :=
  calc base * a + b < base * a + base := Nat.add_lt_add_left hb _
    _ = base * (a + 1) := (Nat.mul_succ base a).symm
    _ ≤ base * a' := Nat.mul_le_mul_left base h
    _ ≤ base * a' + b' := Nat.le_add_right _ _

/-- Of two numbers with two places the higher one decides, and the lower one if these are equal. -/
theorem place_le_iff {base b b' : Nat} (hb : b < base) (hb' : b' < base) (a a' : Nat) :
    base * a + b ≤ base * a' + b' ↔ a < a' ∨ a = a' ∧ b ≤ b' := by
  obtain hlt | rfl | hgt := Nat.lt_trichotomy a a'
  · have hle : base * a + b ≤ base * a' + b' := Nat.le_of_lt (place_lt_of_lt hb hlt)
    exact iff_of_true hle (.inl hlt)
  · simp
  · have hnot : ¬ base * a + b ≤ base * a' + b' := Nat.not_le.2 (place_lt_of_lt hb' hgt)
    refine iff_of_false hnot ?_
    omega

/-! ## Versions of digits -/

/-- A component that has digits and nothing else. -/
def IsDigits (component : String) : Prop :=
  component ≠ "" ∧ ∀ c ∈ component.toList, c.isDigit = true

instance (component : String) : Decidable (IsDigits component) :=
  decidable_of_iff (component ≠ "" ∧ component.toList.all Char.isDigit = true)
    (and_congr_right fun _ => List.all_eq_true)

/-- A version all of whose components have digits and nothing else. -/
structure Plain (v : Version) : Prop where
  major : IsDigits v.major
  minor : IsDigits v.minor
  patch : IsDigits v.patch

/-- The number of a component; zeros in front of it do not count. -/
def number (component : String) : Nat := Nat.ofDigitChars 10 component.toList 0

/-- The numbers of the components in the order in which the first difference counts. -/
def numbers (v : Version) : Nat ×ₗ Nat ×ₗ Nat :=
  triple (number v.major) (number v.minor) (number v.patch)

theorem number_lt {component : String} (h : IsDigits component) :
    number component < 10 ^ component.length := by
  rw [← String.length_toList]
  exact ofDigitChars_lt_pow h.2

variable {text text' : String} {v v' : Version}

/-- The number by which a version is compared, place by place. -/
theorem key_of_plain (hparse : parse text = .ok v) (hplain : v.Plain) :
    v.key = 10 ^ v.patch.length * (10 ^ v.minor.length * number v.major + number v.minor) +
      number v.patch := by
  obtain ⟨-, hnumeral, -⟩ := parse_eq_ok_iff_hasComponents.1 hparse
  rw [String.toList_append, String.toList_append] at hnumeral
  have hdigits : ∀ c ∈ v.major.toList ++ v.minor.toList ++ v.patch.toList, c.isDigit = true := by
    simp only [List.forall_mem_append]
    exact ⟨⟨hplain.major.2, hplain.minor.2⟩, hplain.patch.2⟩
  rw [hnumeral.eq_of_isDigit hdigits, ofDigitChars_append_eq, ofDigitChars_append_eq,
    String.length_toList, String.length_toList]
  rfl

/-- Where the widths are the same, the numbers that versions are compared by are in the order of
their components. -/
theorem key_le_key_iff (hparse : parse text = .ok v) (hparse' : parse text' = .ok v')
    (hplain : v.Plain) (hplain' : v'.Plain) (hminor : v.minor.length = v'.minor.length)
    (hpatch : v.patch.length = v'.patch.length) : v.key ≤ v'.key ↔ v.numbers ≤ v'.numbers := by
  have hb := number_lt hplain.minor
  have hb' := number_lt hplain'.minor
  have hc := number_lt hplain.patch
  have hc' := number_lt hplain'.patch
  rw [hminor] at hb
  rw [hpatch] at hc
  rw [key_of_plain hparse hplain, key_of_plain hparse' hplain', hminor, hpatch,
    place_le_iff hc hc', numbers, numbers, triple_le_triple]
  -- The higher place holds the first two components, and these are compared place by place too.
  have hle := place_le_iff hb hb' (number v.major) (number v'.major)
  have hge := place_le_iff hb' hb (number v'.major) (number v.major)
  omega

/-! ## Comparing -/

/-- **Concatenation compares soundly between equal widths.** Two versions of digits whose second
components have as many digits, and whose third ones have too, are compared as their numbers are,
the first difference counting. The first components may be of any width, and zeros may stand in
front of all of them. Versions that are compared by the same number then have the same numbers. -/
theorem comparison_of_equal_widths (hparse : parse text = .ok v) (hparse' : parse text' = .ok v')
    (hplain : v.Plain) (hplain' : v'.Plain) (hminor : v.minor.length = v'.minor.length)
    (hpatch : v.patch.length = v'.patch.length) :
    (v.isAtLeast v' = true ↔ v'.numbers ≤ v.numbers) ∧
    (v.isAtMost v' = true ↔ v.numbers ≤ v'.numbers) ∧
    (v.key = v'.key → v.numbers = v'.numbers) := by
  have hle := key_le_key_iff hparse hparse' hplain hplain' hminor hpatch
  have hge := key_le_key_iff hparse' hparse hplain' hplain hminor.symm hpatch.symm
  refine ⟨?_, ?_, fun hkey => ?_⟩
  · rw [isAtLeast, decide_eq_true_eq, hge]
  · rw [isAtMost, decide_eq_true_eq, hle]
  · exact le_antisymm (hle.1 hkey.le) (hge.1 hkey.ge)

theorem comparison_of_equal_widths_of_texts :
    let v : Version := ⟨"010", "07", "12", 100712⟩
    let v' : Version := ⟨"9", "12", "08", 91208⟩
    parse " 010.07.12.1" = .ok v ∧ parse "9.12.08" = .ok v' ∧ v.Plain ∧ v'.Plain ∧
      v'.numbers = triple 9 12 8 ∧ v.numbers = triple 10 7 12 ∧
      v.isAtLeast v' = true ∧ ¬ v.isAtMost v' = true ∧
      (v.key = v'.key → v.numbers = v'.numbers) := by
  intro v v'
  have hparse : parse " 010.07.12.1" = .ok v := by decide
  have hparse' : parse "9.12.08" = .ok v' := by decide
  have hplain : v.Plain := ⟨by decide, by decide, by decide⟩
  have hplain' : v'.Plain := ⟨by decide, by decide, by decide⟩
  obtain ⟨hleast, hmost, hsame⟩ :=
    comparison_of_equal_widths hparse hparse' hplain hplain' (by decide) (by decide)
  have hnumbers : v'.numbers ≤ v.numbers := by decide
  have hnot : ¬ v.numbers ≤ v'.numbers := by decide
  exact ⟨hparse, hparse', hplain, hplain', by decide, by decide, hleast.2 hnumbers,
    mt hmost.1 hnot, hsame⟩

end TokenSync.Version
