import Mathlib.Data.Prod.Lex
import TokenSync.Proofs.VersionText

/-!
# The order of versions and the gates

Versions are compared by the numeral that their three components form together. Against a
threshold whose last two components have one digit this order can err on one side only: it never
puts a version below the threshold that is not below it component by component. So no agent is
denied what it knows, and one that is sent too much has a component of two digits.
-/
namespace TokenSync.Version

open Text

/-! ## Versions by their numbers -/

/-- A text names a version by the numerals of three numbers. White space around it and further
components do not matter. -/
def Spells (text : String) (a b c : Nat) : Prop :=
  ∃ (before after : List Char) (more : List (List Char)),
    (∀ x ∈ before, isBlank x = true) ∧ (∀ x ∈ after, isBlank x = true) ∧
    text.toList = before ++ (Nat.toDigits 10 a ++ '.' :: (Nat.toDigits 10 b ++
      '.' :: (Nat.toDigits 10 c ++ (more.flatMap ('.' :: ·) ++ after))))

/-- Three numbers in the order in which the first difference counts. -/
def triple (a b c : Nat) : Nat ×ₗ Nat ×ₗ Nat := toLex (a, toLex (b, c))

theorem triple_le_triple {p m q a b c : Nat} :
    triple p m q ≤ triple a b c ↔ p < a ∨ p = a ∧ (m < b ∨ m = b ∧ q ≤ c) := by
  simp [triple, Prod.Lex.toLex_le_toLex]

/-- The number of three numerals that are written one after another. -/
def joined (a b c : Nat) : Nat :=
  Nat.ofDigitChars 10 (Nat.toDigits 10 a ++ Nat.toDigits 10 b ++ Nat.toDigits 10 c) 0

theorem joined_eq (a b c : Nat) :
    joined a b c = 10 ^ (Nat.toDigits 10 c).length *
      (10 ^ (Nat.toDigits 10 b).length * a + b) + c := by
  simp only [joined, ofDigitChars_append_eq, Nat.ofDigitChars_ten_toDigits]

theorem ten_le_pow_length_toDigits (n : Nat) : 10 ≤ 10 ^ (Nat.toDigits 10 n).length := by
  have hpos : 0 < (Nat.toDigits 10 n).length := Nat.length_toDigits_pos
  calc 10 = 10 ^ 1 := rfl
    _ ≤ 10 ^ (Nat.toDigits 10 n).length := Nat.pow_le_pow_right (by decide) hpos

/-- A component of more than one digit only moves those before it up. -/
theorem le_joined (a b c : Nat) : 10 * (10 * a + b) + c ≤ joined a b c := by
  have hb : 10 * a ≤ 10 ^ (Nat.toDigits 10 b).length * a :=
    Nat.mul_le_mul_right a (ten_le_pow_length_toDigits b)
  have hc := Nat.mul_le_mul (ten_le_pow_length_toDigits c) (Nat.add_le_add_right hb b)
  rw [joined_eq]
  exact Nat.add_le_add_right hc c

theorem length_toDigits_of_lt {n : Nat} (h : n < 10) : (Nat.toDigits 10 n).length = 1 := by
  rw [Nat.toDigits_of_lt_base h]
  rfl

theorem joined_of_lt {b c : Nat} (hb : b < 10) (hc : c < 10) (a : Nat) :
    joined a b c = 10 * (10 * a + b) + c := by
  rw [joined_eq, length_toDigits_of_lt hb, length_toDigits_of_lt hc, Nat.pow_one]

theorem two_le_length_toDigits {n : Nat} : 2 ≤ (Nat.toDigits 10 n).length ↔ 10 ≤ n := by
  have h := Nat.length_toDigits_le_iff (b := 10) (n := n) (k := 1) (by decide) (by decide)
  rw [Nat.pow_one] at h
  omega

/-! ## Reading a version -/

theorem splitAt_trim_of_spells {text : String} {a b c : Nat} (h : Spells text a b c) :
    ∃ more, splitAt '.' (trim text.toList) =
      Nat.toDigits 10 a :: Nat.toDigits 10 b :: Nat.toDigits 10 c :: more := by
  obtain ⟨before, after, more, hbefore, hafter, htext⟩ := h
  have hpoint (n : Nat) : '.' ∉ Nat.toDigits 10 n := fun hmem =>
    absurd (isDigit_of_mem_toDigits _ hmem) (by decide)
  have hdigits (n : Nat) : ∀ x ∈ Nat.toDigits 10 n, isBlank x = false := fun x hx =>
    isBlank_of_isDigit (isDigit_of_mem_toDigits x hx)
  -- The white space at the end may be preceded by components that end in white space themselves.
  let core := Nat.toDigits 10 a ++ '.' :: (Nat.toDigits 10 b ++ '.' :: Nat.toDigits 10 c)
  let rest := more.flatMap ('.' :: ·) ++ after
  have hcore : ∀ x ∈ core, isBlank x = false := by
    simp only [core, List.forall_mem_append, List.forall_mem_cons]
    exact ⟨hdigits a, by decide, hdigits b, by decide, hdigits c⟩
  have hne : core ≠ [] := List.append_ne_nil_of_left_ne_nil Nat.toDigits_ne_nil _
  have htrim : trim text.toList = core ++ trimEnd rest := by
    rw [← trim_append hbefore hcore hne, htext]
    simp [core, rest]
  have hrest : trimEnd rest = [] ∨ ∃ cs, trimEnd rest = '.' :: cs := by
    cases more with
    | nil => exact .inl (trimEnd_eq_nil hafter)
    | cons part parts =>
      have hprefix := trimEnd_prefix rest
      cases hend : trimEnd rest with
      | nil => exact .inl rfl
      | cons x cs =>
        rw [hend] at hprefix
        obtain ⟨rfl, -⟩ := List.cons_prefix_cons.1 hprefix
        exact .inr ⟨cs, rfl⟩
  obtain hnil | ⟨cs, hcs⟩ := hrest
  · refine ⟨[], ?_⟩
    rw [htrim, hnil, List.append_nil, splitAt_append_cons (hpoint a),
      splitAt_append_cons (hpoint b), splitAt_of_not_mem (hpoint c)]
  · refine ⟨splitAt '.' cs, ?_⟩
    rw [htrim, hcs]
    simp only [core, List.append_assoc, List.cons_append]
    rw [splitAt_append_cons (hpoint a), splitAt_append_cons (hpoint b),
      splitAt_append_cons (hpoint c)]

/-- A version is compared by the numerals it is named by. -/
theorem key_of_spells {text : String} {a b c : Nat} {v : Version} (h : Spells text a b c)
    (hparse : parse text = .ok v) : v.key = joined a b c := by
  obtain ⟨hcomponents, hnumeral, -⟩ := parse_eq_ok_iff_hasComponents.1 hparse
  obtain ⟨more, hparts⟩ := splitAt_trim_of_spells h
  obtain ⟨more', hparts'⟩ := hasComponents_iff.1 hcomponents
  obtain ⟨hmajor, hparts''⟩ := List.cons.inj (hparts'.symm.trans hparts)
  obtain ⟨hminor, hparts'''⟩ := List.cons.inj hparts''
  obtain ⟨hpatch, -⟩ := List.cons.inj hparts'''
  have hjoined : (v.major ++ v.minor ++ v.patch).toList =
      Nat.toDigits 10 a ++ Nat.toDigits 10 b ++ Nat.toDigits 10 c := by
    simp only [String.toList_append, hmajor, hminor, hpatch]
  rw [hjoined] at hnumeral
  refine hnumeral.eq_of_isDigit ?_
  simp only [List.forall_mem_append]
  exact ⟨⟨isDigit_of_mem_toDigits, isDigit_of_mem_toDigits⟩, isDigit_of_mem_toDigits⟩

/-! ## Thresholds -/

/-- A version whose last two components have one digit, by its three numbers. -/
structure Threshold (since : Version) (p m q : Nat) : Prop where
  key_eq : since.key = joined p m q
  minor_lt : m < 10
  patch_lt : q < 10

theorem threshold_serviceIdentities : Threshold serviceIdentitiesSince 1 5 0 :=
  ⟨rfl, by decide, by decide⟩

theorem threshold_nodeIdentities : Threshold nodeIdentitiesSince 1 8 0 :=
  ⟨rfl, by decide, by decide⟩

variable {since v : Version} {p m q a b c : Nat}

/-- A threshold keeps out no version that is not below it. -/
theorem Threshold.isAtLeast_of_le (h : Threshold since p m q) (hv : v.key = joined a b c)
    (hle : triple p m q ≤ triple a b c) : v.isAtLeast since = true := by
  rw [isAtLeast, decide_eq_true_eq, hv, h.key_eq, joined_of_lt h.minor_lt h.patch_lt]
  refine Nat.le_trans ?_ (le_joined a b c)
  have hm := h.minor_lt
  have hq := h.patch_lt
  obtain hmajor | ⟨rfl, hminor | ⟨rfl, hpatch⟩⟩ := triple_le_triple.1 hle
  · omega
  · omega
  · omega

/-- A threshold lets in no version below it whose last two components have one digit. -/
theorem Threshold.le_of_isAtLeast (h : Threshold since p m q) (hv : v.key = joined a b c)
    (hb : b < 10) (hc : c < 10) (hopen : v.isAtLeast since = true) :
    triple p m q ≤ triple a b c := by
  rw [isAtLeast, decide_eq_true_eq, hv, h.key_eq, joined_of_lt h.minor_lt h.patch_lt,
    joined_of_lt hb hc] at hopen
  have hm := h.minor_lt
  have hq := h.patch_lt
  rw [triple_le_triple]
  omega

/-- A version below a threshold that is let in has a component of two digits. -/
theorem Threshold.wide_of_isAtLeast (h : Threshold since p m q) (hv : v.key = joined a b c)
    (hopen : v.isAtLeast since = true) (hlt : triple a b c < triple p m q) :
    2 ≤ (Nat.toDigits 10 b).length ∨ 2 ≤ (Nat.toDigits 10 c).length := by
  rw [two_le_length_toDigits, two_le_length_toDigits]
  by_contra hnarrow
  obtain ⟨hb, hc⟩ := not_or.1 hnarrow
  exact absurd (h.le_of_isAtLeast hv (Nat.not_le.1 hb) (Nat.not_le.1 hc) hopen) (not_le.2 hlt)

/-! ## Gates -/

/-- **The gates err by being open.** An agent whose version is not below a threshold is sent what it
knows since then. A gate that is open to a version below its threshold is so because of a component
with two digits; for versions without such a component both gates follow the order of the numbers.
And no agent is sent node identities but not service identities. -/
theorem gates_err_by_opening :
    (∀ (text : String) (a b c : Nat) (v : Version), Spells text a b c → parse text = .ok v →
      (triple 1 5 0 ≤ triple a b c → v.knowsServiceIdentities = true) ∧
      (triple 1 8 0 ≤ triple a b c → v.knowsNodeIdentities = true) ∧
      ((v.knowsServiceIdentities = true ∧ triple a b c < triple 1 5 0 ∨
          v.knowsNodeIdentities = true ∧ triple a b c < triple 1 8 0) →
        2 ≤ (Nat.toDigits 10 b).length ∨ 2 ≤ (Nat.toDigits 10 c).length) ∧
      (b < 10 → c < 10 →
        (v.knowsServiceIdentities = true ↔ triple 1 5 0 ≤ triple a b c) ∧
        (v.knowsNodeIdentities = true ↔ triple 1 8 0 ≤ triple a b c))) ∧
    ∀ (text : String) (v : Version), parse text = .ok v →
      v.knowsNodeIdentities = true → v.knowsServiceIdentities = true := by
  refine ⟨fun text a b c v hspells hparse => ?_, fun text v _ hnode => ?_⟩
  · have hv := key_of_spells hspells hparse
    have hservices := threshold_serviceIdentities
    have hnodes := threshold_nodeIdentities
    refine ⟨hservices.isAtLeast_of_le hv, hnodes.isAtLeast_of_le hv, ?_, fun hb hc => ?_⟩
    · rintro (⟨hopen, hlt⟩ | ⟨hopen, hlt⟩)
      · exact hservices.wide_of_isAtLeast hv hopen hlt
      · exact hnodes.wide_of_isAtLeast hv hopen hlt
    · exact ⟨⟨hservices.le_of_isAtLeast hv hb hc, hservices.isAtLeast_of_le hv⟩,
        ⟨hnodes.le_of_isAtLeast hv hb hc, hnodes.isAtLeast_of_le hv⟩⟩
  · rw [knowsNodeIdentities, isAtLeast, decide_eq_true_eq] at hnode
    rw [knowsServiceIdentities, isAtLeast, decide_eq_true_eq]
    exact Nat.le_trans (by decide) hnode

theorem gates_err_by_opening_of_texts :
    let wide : Version := ⟨"1", "4", "10", 1410⟩
    let high : Version := ⟨"2", "0", "0", 200⟩
    Spells " 1.4.10.7-rc\n" 1 4 10 ∧ parse " 1.4.10.7-rc\n" = .ok wide ∧
      triple 1 4 10 < triple 1 5 0 ∧ wide.knowsNodeIdentities = true ∧
      2 ≤ (Nat.toDigits 10 10).length ∧
      Spells "2.0.0" 2 0 0 ∧ parse "2.0.0" = .ok high ∧ high.knowsNodeIdentities = true ∧
      (wide.knowsServiceIdentities = true ∧ high.knowsServiceIdentities = true) := by
  intro wide high
  obtain ⟨hnumbers, hgates⟩ := gates_err_by_opening
  have hwide : Spells " 1.4.10.7-rc\n" 1 4 10 :=
    ⟨[' '], ['\n'], ["7-rc".toList], List.forall_mem_singleton.2 (by decide),
      List.forall_mem_singleton.2 (by decide), by decide⟩
  have hhigh : Spells "2.0.0" 2 0 0 := ⟨[], [], [], nofun, nofun, by decide⟩
  have hparseWide : parse " 1.4.10.7-rc\n" = .ok wide := by decide
  have hparseHigh : parse "2.0.0" = .ok high := by decide
  have hlt : triple 1 4 10 < triple 1 5 0 := by decide
  have hle : triple 1 8 0 ≤ triple 2 0 0 := by decide
  have hopen : wide.knowsNodeIdentities = true := by decide
  obtain ⟨-, hnode, -, -⟩ := hnumbers _ _ _ _ _ hhigh hparseHigh
  obtain ⟨-, -, hwidth, -⟩ := hnumbers _ _ _ _ _ hwide hparseWide
  have hdigits := hwidth (.inr ⟨hopen, lt_of_lt_of_le hlt (by decide)⟩)
  exact ⟨hwide, hparseWide, hlt, hopen, hdigits.resolve_left (by decide), hhigh, hparseHigh,
    hnode hle, hgates _ _ hparseWide hopen, hgates _ _ hparseHigh (hnode hle)⟩

end TokenSync.Version
