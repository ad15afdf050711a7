import TokenSync.Proofs.Numerals
import TokenSync.Version

/-!
# The texts that are versions

What makes a text a version is said without a reader: white space at its ends aside it begins with
three components, and these form a numeral of a number below 2^128 when they are written one after
another. All other texts are refused, for one of two reasons, and a version is read again from its
own text.
-/
namespace TokenSync.Version

open Text

/-! ## Components -/

/-- A text begins with three components. Points stand behind the first two, and the third one
reaches up to the next point or to the end. -/
structure Opens (core major minor patch : List Char) : Prop where
  major_free : '.' ∉ major
  minor_free : '.' ∉ minor
  patch_free : '.' ∉ patch
  parts : ∃ rest, core = major ++ '.' :: (minor ++ '.' :: (patch ++ rest)) ∧
    ∀ c ∈ rest.head?, c = '.'

/-- White space at its ends aside, a text begins with these three components. -/
def HasComponents (text major minor patch : String) : Prop :=
  ∃ core, Trimmed text.toList core ∧ Opens core major.toList minor.toList patch.toList

theorem opens_iff {core major minor patch : List Char} :
    Opens core major minor patch ↔
      ∃ more, splitAt '.' core = major :: minor :: patch :: more := by
  simp only [splitAt_eq_cons_iff, List.cons_ne_nil, and_false, false_or]
  constructor
  · rintro ⟨hmajor, hminor, hpatch, rest, rfl, hrest⟩
    cases rest with
    | nil =>
      rw [List.append_nil]
      exact ⟨[], hmajor, _, rfl, hminor, _, rfl, hpatch, .inl ⟨rfl, rfl⟩⟩
    | cons c rest =>
      obtain rfl : c = '.' := hrest c rfl
      exact ⟨_, hmajor, _, rfl, hminor, _, rfl, hpatch, .inr ⟨rest, rfl, rfl⟩⟩
  · rintro ⟨more, hmajor, _, rfl, hminor, _, rfl, hpatch, ⟨rfl, -⟩ | ⟨rest, rfl, -⟩⟩
    · exact ⟨hmajor, hminor, hpatch, [], by rw [List.append_nil], nofun⟩
    · exact ⟨hmajor, hminor, hpatch, '.' :: rest, rfl, by simp⟩

theorem hasComponents_iff {text major minor patch : String} :
    HasComponents text major minor patch ↔ ∃ more, splitAt '.' (trim text.toList) =
      major.toList :: minor.toList :: patch.toList :: more := by
  simp only [HasComponents, opens_iff, trimmed_iff, exists_eq_left']

/-- A text has three components if it has two points. -/
theorem exists_hasComponents_iff {text : String} :
    (∃ major minor patch, HasComponents text major minor patch) ↔
      2 ≤ (trim text.toList).count '.' := by
  have hlength := length_splitAt '.' (trim text.toList)
  constructor
  · rintro ⟨major, minor, patch, h⟩
    obtain ⟨more, hparts⟩ := hasComponents_iff.1 h
    simp only [hparts, List.length_cons] at hlength
    omega
  · intro h
    match hparts : splitAt '.' (trim text.toList) with
    | major :: minor :: patch :: more =>
      refine ⟨.ofList major, .ofList minor, .ofList patch, hasComponents_iff.2 ⟨more, ?_⟩⟩
      simp only [String.toList_ofList, hparts]
    | [] | [_] | [_, _] =>
      simp only [hparts, List.length_cons, List.length_nil] at hlength
      omega

/-! ## Reading -/

theorem key?_eq_some_iff {cs : List Char} {key : Nat} :
    key? cs = some key ↔ IsNumeral cs key ∧ key < 2 ^ 128 := by
  rw [← natural?_dropPlus_eq_some_iff, key?]
  cases natural? 10 (dropPlus cs) with
  | none => simp
  | some n =>
    change (if n < Nat.pow 2 128 then some n else none) = some key ↔ _
    rw [Nat.pow_eq, Option.some.injEq]
    split
    · next hlt =>
      rw [Option.some.injEq]
      exact ⟨fun h => ⟨h, h ▸ hlt⟩, And.left⟩
    · next hge => exact ⟨nofun, fun ⟨h, hlt⟩ => absurd (h ▸ hlt) hge⟩

theorem parse_of_few {text : String} (h : (trim text.toList).count '.' < 2) :
    parse text = .error (.tooFewComponents text) := by
  unfold parse
  split
  · next hparts =>
    have hlength := length_splitAt '.' (trim text.toList)
    simp only [hparts, List.length_cons] at hlength
    omega
  · rfl

theorem parse_of_hasComponents {text major minor patch : String}
    (h : HasComponents text major minor patch) :
    parse text = (key? (major ++ minor ++ patch).toList).elim (.error (.notNumeric text))
      fun key => .ok ⟨major, minor, patch, key⟩ := by
  obtain ⟨more, hparts⟩ := hasComponents_iff.1 h
  have hjoined : (major ++ minor ++ patch).toList =
      major.toList ++ minor.toList ++ patch.toList := by
    simp only [String.toList_append]
  unfold parse
  rw [hparts, hjoined]
  simp only [String.ofList_toList]
  cases key? (major.toList ++ minor.toList ++ patch.toList) <;> rfl

/-- A text has too few components, or has three. -/
theorem few_or_hasComponents (text : String) :
    (trim text.toList).count '.' < 2 ∨ ∃ major minor patch, HasComponents text major minor patch :=
  (Nat.lt_or_ge _ _).imp_right exists_hasComponents_iff.2

theorem parse_eq_ok_iff_hasComponents {text : String} {v : Version} :
    parse text = .ok v ↔ HasComponents text v.major v.minor v.patch ∧
      IsNumeral (v.major ++ v.minor ++ v.patch).toList v.key ∧ v.key < 2 ^ 128 := by
  rw [← key?_eq_some_iff]
  constructor
  · intro hparse
    obtain hfew | ⟨major, minor, patch, h⟩ := few_or_hasComponents text
    · cases (parse_of_few hfew).symm.trans hparse
    · rw [parse_of_hasComponents h] at hparse
      cases hkey : key? (major ++ minor ++ patch).toList with
      | none =>
        rw [hkey] at hparse
        cases hparse
      | some key =>
        rw [hkey] at hparse
        cases hparse
        exact ⟨h, hkey⟩
  · rintro ⟨h, hkey⟩
    rw [parse_of_hasComponents h, hkey]
    rfl

theorem parse_eq_tooFewComponents_iff {text quoted : String} :
    parse text = .error (.tooFewComponents quoted) ↔
      quoted = text ∧ (trim text.toList).count '.' < 2 := by
  constructor
  · intro hparse
    obtain hfew | ⟨major, minor, patch, h⟩ := few_or_hasComponents text
    · cases (parse_of_few hfew).symm.trans hparse
      exact ⟨rfl, hfew⟩
    · rw [parse_of_hasComponents h] at hparse
      cases hkey : key? (major ++ minor ++ patch).toList <;> rw [hkey] at hparse <;> cases hparse
  · rintro ⟨rfl, hfew⟩
    exact parse_of_few hfew

theorem parse_eq_notNumeric_iff {text quoted : String} :
    parse text = .error (.notNumeric quoted) ↔
      quoted = text ∧ ∃ major minor patch, HasComponents text major minor patch ∧
        key? (major ++ minor ++ patch).toList = none := by
  constructor
  · intro hparse
    obtain hfew | ⟨major, minor, patch, h⟩ := few_or_hasComponents text
    · cases (parse_of_few hfew).symm.trans hparse
    · rw [parse_of_hasComponents h] at hparse
      cases hkey : key? (major ++ minor ++ patch).toList with
      | none =>
        rw [hkey] at hparse
        cases hparse
        exact ⟨rfl, major, minor, patch, h, hkey⟩
      | some key =>
        rw [hkey] at hparse
        cases hparse
  · rintro ⟨rfl, major, minor, patch, h, hkey⟩
    rw [parse_of_hasComponents h, hkey]
    rfl

/-! ## Printing -/

/-- The text of components between which no white space stands has these components. -/
theorem hasComponents_text {v : Version} (hmajor : '.' ∉ v.major.toList)
    (hminor : '.' ∉ v.minor.toList) (hpatch : '.' ∉ v.patch.toList)
    (hplain : ∀ c ∈ (v.major ++ v.minor ++ v.patch).toList, isBlank c = false) :
    HasComponents v.text v.major v.minor v.patch := by
  have htext : v.text.toList =
      v.major.toList ++ '.' :: (v.minor.toList ++ '.' :: (v.patch.toList ++ [])) := by
    simp [text, String.toList_append]
  have hblank : ∀ c ∈ v.text.toList, isBlank c = false := by
    simp only [String.toList_append, List.forall_mem_append] at hplain
    obtain ⟨⟨hblankMajor, hblankMinor⟩, hblankPatch⟩ := hplain
    simp only [htext, List.forall_mem_append, List.forall_mem_cons]
    exact ⟨hblankMajor, by decide, hblankMinor, by decide, hblankPatch, nofun⟩
  refine ⟨v.text.toList, ⟨⟨[], [], by simp, nofun, nofun⟩, ?_, ?_⟩, ?_⟩
  · exact fun c hc => hblank c (List.mem_of_mem_head? hc)
  · exact fun c hc => hblank c (List.mem_of_mem_getLast? hc)
  · exact ⟨hmajor, hminor, hpatch, [], htext, nofun⟩

/-- A version is read from its own text. -/
theorem parse_text {text : String} {v : Version} (h : parse text = .ok v) :
    parse v.text = .ok v := by
  obtain ⟨⟨core, -, hopens⟩, hnumeral, hlt⟩ := parse_eq_ok_iff_hasComponents.1 h
  refine parse_eq_ok_iff_hasComponents.2 ⟨?_, hnumeral, hlt⟩
  exact hasComponents_text hopens.major_free hopens.minor_free hopens.patch_free hnumeral.isBlank

/-! ## Versions and other texts -/

/-- **A text is a version if it has three components that form a numeral.** With fewer than two
points between the white space at its ends it has too few components. Otherwise the first three,
written one after another, have to be a numeral of a number below 2^128, which then is what the
version is compared by; if they are not, the text is not numeric. Both errors quote the text as it
was given. The text of a version names the same version again, so it compares as before. -/
theorem parse_accepts_numerals (text : String) :
    (∃ core, ∀ other, Trimmed text.toList other ↔ other = core) ∧
    (∀ quoted, parse text = .error (.tooFewComponents quoted) ↔
      quoted = text ∧ ∃ core, Trimmed text.toList core ∧ core.count '.' < 2) ∧
    (∀ v, parse text = .ok v ↔ HasComponents text v.major v.minor v.patch ∧
      IsNumeral (v.major ++ v.minor ++ v.patch).toList v.key ∧ v.key < 2 ^ 128) ∧
    (∀ quoted, parse text = .error (.notNumeric quoted) ↔
      quoted = text ∧ ∃ major minor patch, HasComponents text major minor patch ∧
        ∀ key, IsNumeral (major ++ minor ++ patch).toList key → 2 ^ 128 ≤ key) ∧
    ∀ v, parse text = .ok v → parse v.text = .ok v := by
  refine ⟨⟨trim text.toList, fun other => trimmed_iff.trans eq_comm⟩, fun quoted => ?_,
    fun v => parse_eq_ok_iff_hasComponents, fun quoted => ?_, fun v => parse_text⟩
  · simp only [trimmed_iff, exists_eq_left']
    exact parse_eq_tooFewComponents_iff
  · have hnone (cs : List Char) :
        key? cs = none ↔ ∀ key, IsNumeral cs key → 2 ^ 128 ≤ key := by
      simp only [Option.eq_none_iff_forall_ne_some, ne_eq, key?_eq_some_iff, not_and, Nat.not_lt]
    simp only [← hnone]
    exact parse_eq_notNumeric_iff

/-- A sign may stand in any component before which there are no digits. -/
theorem parse_accepts_numerals_of_text :
    let v : Version := ⟨"", "+007", "10", 710⟩
    parse "\u2003.+007.10.x\n" = .ok v ∧ v.text = ".+007.10" ∧ parse v.text = .ok v := by
  intro v
  have hparse : parse "\u2003.+007.10.x\n" = .ok v := by decide
  obtain ⟨-, -, -, -, hagain⟩ := parse_accepts_numerals "\u2003.+007.10.x\n"
  exact ⟨hparse, by decide, hagain v hparse⟩

end TokenSync.Version
