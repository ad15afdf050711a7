import Mathlib.Data.List.Forall2
import Mathlib.Data.List.Infix
import Mathlib.Data.List.TakeWhile
import TokenSync.Config.Template

/-!
# The one segmentation of a text

A text has one segmentation into literal pieces and placeholders in which no placeholder starts
inside a literal piece, so that each placeholder is the leftmost one behind the one before it. It
depends on nothing but the text. A text is expanded segment by segment, and what is put in the place
of a placeholder is never cut again.
-/
namespace TokenSync.Template

/-! ## Placeholders -/

/-- A segment is a placeholder as it may be written: its name consists of word characters, its
default has no closing brace, and neither is empty. -/
def IsPlaceholder : Segment → Prop
  | .literal _ => False
  | .placeholder name fallback =>
    (name ≠ [] ∧ ∀ c ∈ name, Text.isWord c = true) ∧ ∀ text ∈ fallback, text ≠ [] ∧ '\x7d' ∉ text

/-- Some placeholder starts where a text starts. -/
def Starts (text : List Char) : Prop := ∃ segment, IsPlaceholder segment ∧ segment.source <+: text

/-- What follows the name in a placeholder. -/
def closing : Option (List Char) → List Char
  | none => ['\x7d']
  | some fallback => ':' :: fallback ++ ['\x7d']

theorem source_placeholder (name : List Char) (fallback : Option (List Char)) :
    (Segment.placeholder name fallback).source = '$' :: '\x7b' :: (name ++ closing fallback) := by
  cases fallback <;> simp [Segment.source, closing]

theorem takeWhile_append_of_neg {p : Char → Bool} {part : List Char}
    (hpart : ∀ c ∈ part, p c = true) {c : Char} (hc : p c = false) (rest : List Char) :
    (part ++ c :: rest).takeWhile p = part ∧ (part ++ c :: rest).dropWhile p = c :: rest := by
  rw [List.takeWhile_append_of_pos hpart, List.dropWhile_append_of_pos hpart,
    List.takeWhile_cons_of_neg (by simp [hc]), List.dropWhile_cons_of_neg (by simp [hc])]
  exact ⟨List.append_nil _, rfl⟩

theorem forall_inFallback_iff {text : List Char} :
    (∀ c ∈ text, inFallback c = true) ↔ '\x7d' ∉ text := by
  simp only [inFallback, bne_iff_ne]
  exact ⟨fun h hmem => h _ hmem rfl, fun h c hc heq => h (heq ▸ hc)⟩

/-- A default reaches up to the first closing brace. -/
theorem closing?_colon {fallback : List Char} (hne : fallback ≠ []) (hbrace : '\x7d' ∉ fallback)
    (rest : List Char) :
    closing? (':' :: (fallback ++ '\x7d' :: rest)) = some (some fallback) := by
  obtain ⟨htake, hdrop⟩ := takeWhile_append_of_neg (forall_inFallback_iff.2 hbrace)
    (show inFallback '\x7d' = false by decide) rest
  obtain ⟨c, cs, rfl⟩ := List.exists_cons_of_ne_nil hne
  simp only [closing?, htake, hdrop]

theorem closing?_eq_some_iff {cs : List Char} {fallback : Option (List Char)} :
    closing? cs = some fallback ↔
      (∀ text ∈ fallback, text ≠ [] ∧ '\x7d' ∉ text) ∧ closing fallback <+: cs := by
  constructor
  · intro h
    unfold closing? at h
    split at h
    · cases h
      exact ⟨nofun, List.prefix_append ['\x7d'] _⟩
    · next rest =>
      have hsplit := List.takeWhile_append_dropWhile (p := inFallback) (l := rest)
      have hall := fun c (hc : c ∈ rest.takeWhile inFallback) => List.mem_takeWhile_imp hc
      split at h
      · cases h
      · cases h
      · next c more hdrop hne =>
        -- The first character that may not stand in a default is a closing brace.
        have hbrace : c = '\x7d' := by
          have hhead := List.head?_dropWhile_not inFallback rest
          rw [hdrop] at hhead
          simpa [inFallback] using hhead
        cases h
        refine ⟨?_, ?_⟩
        · rintro _ ⟨⟩
          exact ⟨hne, forall_inFallback_iff.1 hall⟩
        · rw [hdrop, hbrace] at hsplit
          exact ⟨more, by rw [closing]; simp [hsplit]⟩
    · cases h
  · rintro ⟨hfallback, rest, rfl⟩
    cases fallback with
    | none => rfl
    | some text =>
      obtain ⟨hne, hbrace⟩ := hfallback text rfl
      simp only [closing, List.cons_append, List.append_assoc, List.nil_append]
      exact closing?_colon hne hbrace rest

/-- What is found at the start of a text is the placeholder that starts there, and there is no other
one. -/
theorem placeholder?_eq_some_iff {text : List Char} {segment : Segment} :
    placeholder? text = some segment ↔ IsPlaceholder segment ∧ segment.source <+: text := by
  constructor
  · intro h
    unfold placeholder? at h
    split at h
    · next rest =>
      have hsplit := List.takeWhile_append_dropWhile (p := Text.isWord) (l := rest)
      have hword := fun c (hc : c ∈ rest.takeWhile Text.isWord) => List.mem_takeWhile_imp hc
      split at h
      · cases h
      · next hne =>
        obtain ⟨fallback, hclosing, rfl⟩ := Option.map_eq_some_iff.1 h
        obtain ⟨hfallback, more, hmore⟩ := closing?_eq_some_iff.1 hclosing
        refine ⟨⟨⟨hne, hword⟩, hfallback⟩, more, ?_⟩
        rw [← hmore] at hsplit
        simp only [source_placeholder, List.cons_append, List.append_assoc, hsplit]
    · cases h
  · rintro ⟨hplaceholder, rest, rfl⟩
    cases segment with
    | literal text => exact hplaceholder.elim
    | placeholder name fallback =>
      obtain ⟨⟨hne, hword⟩, hfallback⟩ := hplaceholder
      -- Neither a colon nor a closing brace is a word character, so the name ends where it should.
      obtain ⟨c, cs, hc, hcs⟩ : ∃ c cs, Text.isWord c = false ∧
          closing fallback ++ rest = c :: cs := by
        cases fallback with
        | none => exact ⟨'\x7d', rest, by decide +kernel, rfl⟩
        | some text => exact ⟨':', text ++ ['\x7d'] ++ rest, by decide +kernel, rfl⟩
      have hclosing : closing? (c :: cs) = some fallback :=
        closing?_eq_some_iff.2 ⟨hfallback, rest, hcs⟩
      obtain ⟨htake, hdrop⟩ := takeWhile_append_of_neg hword hc cs
      obtain ⟨first, others, rfl⟩ := List.exists_cons_of_ne_nil hne
      simp only [source_placeholder, List.cons_append, List.append_assoc, hcs] at htake hdrop ⊢
      simp only [placeholder?, htake, hdrop, hclosing, Option.map_some]

theorem placeholder?_eq_none_iff {text : List Char} :
    placeholder? text = none ↔ ¬ Starts text := by
  simp only [Option.eq_none_iff_forall_not_mem, Option.mem_def, placeholder?_eq_some_iff, Starts,
    not_exists]

/-! ## Cutting -/

theorem segmentsAfter_append (part rest : List Char) :
    segmentsAfter part.length (part ++ rest) = segments rest := by
  induction part with
  | nil => rfl
  | cons c part ih => exact ih

theorem segments_cons {c : Char} {rest : List Char} (h : ¬ Starts (c :: rest)) :
    segments (c :: rest) = consLiteral c (segments rest) := by
  rw [segments, segmentsAfter, placeholder?_eq_none_iff.2 h]
  rfl

theorem segments_placeholder {segment : Segment} (h : IsPlaceholder segment) (rest : List Char) :
    segments (segment.source ++ rest) = segment :: segments rest := by
  have hfound : placeholder? (segment.source ++ rest) = some segment :=
    placeholder?_eq_some_iff.2 ⟨h, List.prefix_append _ _⟩
  cases segment with
  | literal text => exact h.elim
  | placeholder name fallback =>
    rw [source_placeholder] at hfound ⊢
    rw [List.cons_append, segments, segmentsAfter, ← List.cons_append, hfound]
    simp only [source_placeholder, List.length_cons, Nat.add_sub_cancel]
    exact congrArg _ (segmentsAfter_append ('\x7b' :: (name ++ closing fallback)) rest)

/-- A segment is a literal piece. -/
def Segment.IsLiteral : Segment → Prop
  | .literal _ => True
  | .placeholder _ _ => False

/-- A text is cut into segments: placeholders, and between them literal pieces in which none
starts. -/
structure IsSegmentation (text : List Char) (segments : List Segment) : Prop where
  covers : segments.flatMap Segment.source = text
  wellFormed : ∀ segment ∈ segments, segment ≠ .literal [] ∧
    (segment.IsLiteral ∨ IsPlaceholder segment)
  /-- No two literal pieces stand side by side. -/
  apart : ∀ before piece piece' after,
    segments ≠ before ++ .literal piece :: .literal piece' :: after
  /-- A placeholder is the leftmost one behind the one before it, and behind the last there is
  none. -/
  leftmost : ∀ before piece after, segments = before ++ .literal piece :: after →
    ∀ k < piece.length, ¬ Starts ((piece ++ after.flatMap Segment.source).drop k)

namespace IsSegmentation

variable {text : List Char} {segment : Segment} {segments : List Segment}

theorem nil : IsSegmentation [] [] where
  covers := rfl
  wellFormed := nofun
  apart := by simp
  leftmost := by simp

/-- Without the first segment and its characters a segmentation is one of the rest. -/
theorem tail (h : IsSegmentation text (segment :: segments)) :
    IsSegmentation (segments.flatMap Segment.source) segments where
  covers := rfl
  wellFormed := (List.forall_mem_cons.1 h.wellFormed).2
  apart before piece piece' after heq :=
    h.apart (segment :: before) piece piece' after (congrArg (segment :: ·) heq)
  leftmost before piece after heq :=
    h.leftmost (segment :: before) piece after (congrArg (segment :: ·) heq)

/-- A placeholder in front of a text is a segment of its own. -/
theorem placeholder (h : IsSegmentation text segments) (hsegment : IsPlaceholder segment) :
    IsSegmentation (segment.source ++ text) (segment :: segments) := by
  have hne (piece : List Char) : segment ≠ .literal piece := by
    rintro rfl
    exact hsegment
  refine ⟨?_, List.forall_mem_cons.2 ⟨⟨hne [], .inr hsegment⟩, h.wellFormed⟩, ?_, ?_⟩
  · rw [List.flatMap_cons, h.covers]
  · rintro (_ | ⟨head, before⟩) piece piece' after heq
    · exact hne piece (List.cons.inj heq).1
    · exact h.apart before piece piece' after (List.cons.inj heq).2
  · rintro (_ | ⟨head, before⟩) piece after heq
    · exact absurd (List.cons.inj heq).1 (hne piece)
    · exact h.leftmost before piece after (List.cons.inj heq).2

end IsSegmentation

/-- A character put in front of segments makes the first literal piece longer, or is one where there
is none. -/
theorem consLiteral_eq (c : Char) (segments : List Segment) :
    ∃ piece front rest, consLiteral c segments = .literal (c :: piece) :: rest ∧
      segments = front ++ rest ∧ front.flatMap Segment.source = piece ∧
      (front = [.literal piece] ∨
        front = [] ∧ ∀ piece' after, rest ≠ .literal piece' :: after) := by
  cases segments with
  | nil => exact ⟨[], [], [], rfl, rfl, rfl, .inr ⟨rfl, nofun⟩⟩
  | cons segment rest =>
    cases segment with
    | literal piece =>
      exact ⟨piece, [.literal piece], rest, rfl, rfl, List.append_nil _, .inl rfl⟩
    | placeholder name fallback =>
      exact ⟨[], [], .placeholder name fallback :: rest, rfl, rfl, rfl, .inr ⟨rfl, nofun⟩⟩

/-- A character at which no placeholder starts belongs to a literal piece. -/
theorem IsSegmentation.consLiteral {text : List Char} {segments : List Segment} {c : Char}
    (h : IsSegmentation text segments) (hc : ¬ Starts (c :: text)) :
    IsSegmentation (c :: text) (consLiteral c segments) := by
  obtain ⟨piece, front, rest, heq, rfl, hpiece, hfront⟩ := consLiteral_eq c segments
  have htext : piece ++ rest.flatMap Segment.source = text := by
    rw [← h.covers, List.flatMap_append, hpiece]
  rw [heq]
  refine ⟨congrArg (c :: ·) htext, List.forall_mem_cons.2 ⟨⟨nofun, .inl trivial⟩,
    (List.forall_mem_append.1 h.wellFormed).2⟩, ?_, ?_⟩
  · rintro (_ | ⟨head, before⟩) first second after hsegments
    · obtain ⟨-, hrest⟩ := List.cons.inj hsegments
      obtain rfl | ⟨rfl, hnone⟩ := hfront
      · exact h.apart [] piece second after (congrArg _ hrest)
      · exact hnone second after hrest
    · obtain ⟨-, hrest⟩ := List.cons.inj hsegments
      exact h.apart (front ++ before) first second after
        ((congrArg (front ++ ·) hrest).trans (List.append_assoc ..).symm)
  · rintro (_ | ⟨head, before⟩) first after hsegments k hk
    · obtain ⟨hfirst, rfl⟩ := List.cons.inj hsegments
      obtain rfl := Segment.literal.inj hfirst
      cases k with
      | zero => rwa [List.drop_zero, List.cons_append, htext]
      | succ k =>
        obtain rfl | ⟨rfl, -⟩ := hfront
        · exact h.leftmost [] piece rest rfl k (Nat.lt_of_succ_lt_succ hk)
        · obtain rfl := hpiece
          exact absurd (Nat.lt_of_succ_lt_succ hk) (Nat.not_lt_zero k)
    · obtain ⟨-, hrest⟩ := List.cons.inj hsegments
      exact h.leftmost (front ++ before) first after
        ((congrArg (front ++ ·) hrest).trans (List.append_assoc ..).symm) k hk

/-- A text is cut as it should be. -/
theorem isSegmentation_segments (text : List Char) : IsSegmentation text (segments text) := by
  induction hlength : text.length using Nat.strongRecOn generalizing text with
  | ind n ih =>
    subst hlength
    cases text with
    | nil => exact .nil
    | cons c rest =>
      by_cases hstarts : Starts (c :: rest)
      · obtain ⟨segment, hsegment, more, hmore⟩ := hstarts
        have hshorter : more.length < (c :: rest).length := by
          rw [← hmore]
          cases segment with
          | literal text => exact hsegment.elim
          | placeholder name fallback => simp [source_placeholder]; omega
        rw [← hmore, segments_placeholder hsegment]
        exact (ih _ hshorter more rfl).placeholder hsegment
      · rw [segments_cons hstarts]
        exact (ih _ (Nat.lt_succ_self _) rest rfl).consLiteral hstarts

/-- A literal piece is put together again character by character. -/
theorem segments_literal {piece rest : List Char} (hne : piece ≠ [])
    (hnone : ∀ k < piece.length, ¬ Starts ((piece ++ rest).drop k))
    (hrest : ∀ piece' after, segments rest ≠ .literal piece' :: after) :
    segments (piece ++ rest) = .literal piece :: segments rest := by
  induction piece with
  | nil => exact absurd rfl hne
  | cons c piece ih =>
    have hfirst : ¬ Starts (c :: (piece ++ rest)) := hnone 0 (Nat.succ_pos _)
    rw [List.cons_append, segments_cons hfirst]
    cases piece with
    | nil =>
      obtain ⟨piece, front, others, heq, hsegments, hpiece, rfl | ⟨rfl, -⟩⟩ :=
        consLiteral_eq c (segments rest)
      · exact absurd hsegments (hrest piece others)
      · obtain rfl := hpiece
        rw [List.nil_append, heq, hsegments]
        rfl
    | cons c' piece =>
      rw [ih (List.cons_ne_nil _ _) fun k hk => hnone (k + 1) (Nat.succ_lt_succ hk)]
      rfl

/-- **A text has one segmentation.** -/
theorem isSegmentation_iff {text : List Char} {pieces : List Segment} :
    IsSegmentation text pieces ↔ pieces = segments text := by
  refine ⟨fun h => ?_, fun h => h ▸ isSegmentation_segments text⟩
  induction pieces generalizing text with
  | nil =>
    obtain rfl := h.covers
    rfl
  | cons segment rest ih =>
    have hrest := ih h.tail
    obtain ⟨⟨hne, hform⟩, -⟩ := List.forall_mem_cons.1 h.wellFormed
    rw [← h.covers, List.flatMap_cons]
    cases segment with
    | placeholder name fallback =>
      rw [segments_placeholder (hform.resolve_left id), ← hrest]
    | literal piece =>
      have hpiece : piece ≠ [] := fun heq => hne (congrArg _ heq)
      have hapart (piece' : List Char) (after : List Segment) :
          segments (rest.flatMap Segment.source) ≠ .literal piece' :: after := by
        rw [← hrest]
        rintro rfl
        exact h.apart [] piece piece' after rfl
      have hcut := segments_literal hpiece (h.leftmost [] piece rest rfl) hapart
      rw [← hrest] at hcut
      exact hcut.symm

/-! ## What starts no placeholder -/

/-- What begins like a placeholder and is none: there is no brace to close it, or it lacks a name,
or the default that a colon announces. -/
inductive Malformed : List Char → Prop
  | unclosed {text : List Char} (h : '\x7d' ∉ text) : Malformed text
  | unnamed (rest : List Char) : Malformed ('$' :: '\x7b' :: '\x7d' :: rest)
  | noFallback {name : List Char} (h : ∀ c ∈ name, Text.isWord c = true) (rest : List Char) :
    Malformed ('$' :: '\x7b' :: (name ++ ':' :: '\x7d' :: rest))

theorem Malformed.not_starts {text : List Char} (h : Malformed text) : ¬ Starts text := by
  cases h with
  | unclosed hbrace =>
    rintro ⟨segment, hsegment, hstart⟩
    refine hbrace (hstart.subset ?_)
    cases segment with
    | literal text => exact hsegment.elim
    | placeholder name fallback =>
      cases fallback <;> simp [source_placeholder, closing]
  | unnamed rest =>
    have hword : Text.isWord '\x7d' = false := by decide +kernel
    rw [← placeholder?_eq_none_iff]
    simp only [placeholder?, List.takeWhile_cons, hword, Bool.false_eq_true, if_false]
  | @noFallback name hname rest =>
    have hword : Text.isWord ':' = false := by decide +kernel
    obtain ⟨htake, hdrop⟩ := takeWhile_append_of_neg hname hword ('\x7d' :: rest)
    have hclosing : closing? (':' :: '\x7d' :: rest) = none := by
      simp [closing?, inFallback]
    rw [← placeholder?_eq_none_iff]
    cases name with
    | nil => simp only [placeholder?, htake]
    | cons c name => simp only [placeholder?, htake, hdrop, hclosing, Option.map_none]

/-! ## Expansion -/

/-- What a segment becomes: a literal piece stays as it is, and a placeholder becomes the value of
its variable, if that is set, and otherwise its default or nothing. -/
inductive Becomes (value? : String → Option String) : Segment → List Char → Prop
  | literal (text : List Char) : Becomes value? (.literal text) text
  | value {name : List Char} {value : String} (h : value? (String.ofList name) = some value)
    (fallback : Option (List Char)) : Becomes value? (.placeholder name fallback) value.toList
  | fallback {name : List Char} (h : value? (String.ofList name) = none) (text : List Char) :
    Becomes value? (.placeholder name (some text)) text
  | nothing {name : List Char} (h : value? (String.ofList name) = none) :
    Becomes value? (.placeholder name none) []

theorem becomes_fill (value? : String → Option String) (segment : Segment) :
    Becomes value? segment (segment.fill value?) := by
  cases segment with
  | literal text => exact .literal text
  | placeholder name fallback =>
    cases hvalue : value? (String.ofList name) with
    | some value =>
      simp only [Segment.fill, hvalue]
      exact .value hvalue fallback
    | none =>
      simp only [Segment.fill, hvalue]
      cases fallback with
      | none => exact .nothing hvalue
      | some text => exact .fallback hvalue text

theorem toList_expand (value? : String → Option String) (text : String) :
    (expand value? text).toList = (segments text.toList).flatMap (Segment.fill value?) := by
  rw [expand, String.toList_ofList]

/-- Only the variables that a text asks for matter. -/
theorem expand_congr {value? value?' : String → Option String} {text : String}
    (h : ∀ name fallback, .placeholder name fallback ∈ segments text.toList →
      value? (String.ofList name) = value?' (String.ofList name)) :
    expand value? text = expand value?' text := by
  have hfill : ∀ segment ∈ segments text.toList, segment.fill value? = segment.fill value?' := by
    intro segment hsegment
    cases segment with
    | literal piece => rfl
    | placeholder name fallback => simp only [Segment.fill, h name fallback hsegment]
  rw [expand, expand, List.flatMap_def, List.flatMap_def, List.map_congr_left hfill]

/-- A text in which no placeholder starts is one literal piece. -/
theorem expand_of_not_starts {text : String} (h : ∀ rest, rest <:+ text.toList → ¬ Starts rest)
    (value? : String → Option String) : expand value? text = text := by
  by_cases hempty : text.toList = []
  · rw [expand, hempty, ← String.ofList_toList (s := text), hempty]
    rfl
  · have hnone (k : Nat) : ¬ Starts ((text.toList ++ []).drop k) := by
      rw [List.append_nil]
      exact h _ (List.drop_suffix k _)
    have hcut := segments_literal hempty (fun k _ => hnone k) nofun
    rw [List.append_nil] at hcut
    rw [expand, hcut]
    simp [Segment.fill, segments, segmentsAfter]

/-- **A text is expanded in one pass from left to right.** It has one segmentation, whatever the
environment is, and each segment becomes what it stands for; the text is what the segments become,
one after another. So only the variables that the text asks for matter, what is put in for one of
them is not expanded again, and what starts no placeholder stays as it is. -/
theorem expansion_is_one_pass :
    (∀ text : String, ∃ segments,
      IsSegmentation text.toList segments ∧
      (∀ other, IsSegmentation text.toList other → other = segments) ∧
      (∀ value?, ∃ pieces, List.Forall₂ (Becomes value?) segments pieces ∧
        (expand value? text).toList = pieces.flatten) ∧
      ∀ value? value?', (∀ name fallback, .placeholder name fallback ∈ segments →
        value? (String.ofList name) = value?' (String.ofList name)) →
        expand value? text = expand value?' text) ∧
    (∀ text, Malformed text → ¬ Starts text) ∧
    (∀ text : String, (∀ rest, rest <:+ text.toList → ¬ Starts rest) →
      ∀ value?, expand value? text = text) ∧
    ∀ (name fallback : List Char) (rest : String),
      IsPlaceholder (.placeholder name (some fallback)) →
      ∀ value?, value? (String.ofList name) = none →
        expand value? (String.ofList ('$' :: '\x7b' :: (name ++ ':' :: (fallback ++ ['\x7d']))) ++
          rest) = String.ofList fallback ++ expand value? rest := by
  refine ⟨fun text => ⟨segments text.toList, isSegmentation_segments _,
    fun other h => isSegmentation_iff.1 h, fun value? => ?_, fun _ _ => expand_congr⟩,
    fun text => Malformed.not_starts, fun text => expand_of_not_starts, ?_⟩
  · refine ⟨(segments text.toList).map (Segment.fill value?), ?_, toList_expand value? text⟩
    exact List.forall₂_map_right_iff.2 (List.forall₂_same.2 fun segment _ => becomes_fill _ _)
  · intro name fallback rest hplaceholder value? hnone
    have hcut := segments_placeholder hplaceholder rest.toList
    rw [source_placeholder] at hcut
    refine String.toList_inj.1 ?_
    rw [toList_expand, String.toList_append, String.toList_append, toList_expand,
      String.toList_ofList, String.toList_ofList]
    have hsource : '$' :: '\x7b' :: (name ++ ':' :: (fallback ++ ['\x7d'])) =
        '$' :: '\x7b' :: (name ++ closing (some fallback)) := rfl
    rw [hsource, hcut, List.flatMap_cons]
    simp only [Segment.fill, hnone, Option.getD_some]

instance (text : List Char) : Decidable (Starts text) :=
  decidable_of_iff ((placeholder? text).isSome = true) (by
    rw [← not_iff_not, ← placeholder?_eq_none_iff, Bool.not_eq_true, Option.isSome_eq_false_iff,
      Option.isNone_iff_eq_none])

/-- A default may contain what begins like a placeholder, and ends at the first closing brace. -/
theorem expansion_is_one_pass_of_text :
    let text := "$\x7bA:$\x7bB\x7d\x7d $\x7bC:\x7d"
    let env : String → Option String := fun name => if name = "B" then some "b" else none
    IsSegmentation text.toList [.placeholder ['A'] (some ['$', '\x7b', 'B']),
        .literal "\x7d $\x7bC:\x7d".toList] ∧
      IsPlaceholder (.placeholder ['A'] (some ['$', '\x7b', 'B'])) ∧
      Malformed "$\x7bC:\x7d".toList ∧ ¬ Starts "$\x7bC:\x7d".toList ∧
      expand env text = "$\x7bB\x7d $\x7bC:\x7d" ∧
      expand (fun _ => none) text = expand env text := by
  intro text env
  obtain ⟨hone, hmalformed, hverbatim, hdefault⟩ := expansion_is_one_pass
  have hsegmentation : IsSegmentation text.toList [.placeholder ['A'] (some ['$', '\x7b', 'B']),
      .literal "\x7d $\x7bC:\x7d".toList] :=
    isSegmentation_iff.2 (by decide +kernel)
  have hplaceholder : IsPlaceholder (.placeholder ['A'] (some ['$', '\x7b', 'B'])) := by
    refine ⟨⟨nofun, List.forall_mem_singleton.2 (by decide +kernel)⟩, ?_⟩
    rintro _ ⟨⟩
    decide
  have hlacks : Malformed "$\x7bC:\x7d".toList :=
    @Malformed.noFallback ['C'] (List.forall_mem_singleton.2 (by decide +kernel)) []
  have hrest : expand env "\x7d $\x7bC:\x7d" = "\x7d $\x7bC:\x7d" := by
    refine hverbatim _ (fun rest hsuffix => ?_) env
    have hnone : ∀ rest ∈ "\x7d $\x7bC:\x7d".toList.tails, ¬ Starts rest := by decide +kernel
    exact hnone rest ((List.mem_tails _ _).2 hsuffix)
  refine ⟨hsegmentation, hplaceholder, hlacks, hmalformed _ hlacks, ?_, ?_⟩
  · have hfirst := hdefault ['A'] ['$', '\x7b', 'B'] "\x7d $\x7bC:\x7d" hplaceholder env
      (by decide)
    rw [hrest] at hfirst
    exact hfirst
  · obtain ⟨segments, -, hunique, -, hcongr⟩ := hone text
    refine hcongr _ _ fun name fallback hmem => ?_
    rw [← hunique _ hsegmentation] at hmem
    simp only [List.mem_cons, Segment.placeholder.injEq, List.not_mem_nil, or_false,
      reduceCtorEq] at hmem
    obtain ⟨rfl, -⟩ := hmem
    rfl

end TokenSync.Template
