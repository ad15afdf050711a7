import TokenSync.Proofs.Validation
import TokenSync.Proofs.Written

/-!
# The shapes of described grants

Each kind of grant has a few rules in a fixed order. A value that keeps all of them is accepted and
written with what stands under its keys, or null. Any other value is rejected for the first rule it
breaks.
-/
namespace TokenSync

open Json

variable {τ : Type}

/-! ## Rules -/

/-- What a value should be like, each with the reason for rejecting a value that is not. -/
abbrev Rules := List (Prop × Reason)

namespace Rules

/-- No rule is broken. -/
def Kept (rules : Rules) : Prop := ∀ rule ∈ rules, rule.1

/-- The first rule that is broken gives this reason. -/
def FirstBroken : Rules → Reason → Prop
  | [], _ => False
  | (rule, cause) :: rest, reason => (¬rule ∧ cause = reason) ∨ (rule ∧ FirstBroken rest reason)

theorem kept_cons {rule : Prop} {cause : Reason} {rest : Rules} :
    Kept ((rule, cause) :: rest) ↔ rule ∧ rest.Kept := List.forall_mem_cons

theorem FirstBroken.not_kept {rules : Rules} {reason : Reason} (h : rules.FirstBroken reason) :
    ¬rules.Kept := by
  induction rules with
  | nil => exact absurd h id
  | cons head rest ih =>
    intro hkept
    obtain ⟨hrule, hrest⟩ := kept_cons.1 hkept
    rcases h with ⟨hbroken, -⟩ | ⟨-, h⟩
    · exact hbroken hrule
    · exact ih h hrest

theorem FirstBroken.unique {rules : Rules} {reason other : Reason} (h : rules.FirstBroken reason)
    (ho : rules.FirstBroken other) : reason = other := by
  induction rules with
  | nil => exact absurd h id
  | cons head rest ih =>
    by_cases hrule : head.1
    · exact ih (h.resolve_left fun hbroken => hbroken.1 hrule).2
        (ho.resolve_left fun hbroken => hbroken.1 hrule).2
    · have hcause := (h.resolve_right fun hkept => hrule hkept.1).2
      have hcause' := (ho.resolve_right fun hkept => hrule hkept.1).2
      exact hcause.symm.trans hcause'

/-- A value is accepted with this written form if it keeps the rules, and rejected for the first one
it breaks. -/
def Decide (rules : Rules) (written : Json) (write : τ → Json) : Except Reason τ → Prop
  | .ok grant => rules.Kept ∧ write grant = written
  | .error reason => rules.FirstBroken reason

theorem decide_nil {written : Json} {write : τ → Json} {grant : τ} (h : write grant = written) :
    Decide [] written write (.ok grant) := ⟨List.forall_mem_nil _, h⟩

/-- A rule that is broken decides. -/
theorem decide_broken {rule : Prop} {cause : Reason} {rest : Rules} {written : Json}
    {write : τ → Json} (h : ¬rule) :
    Decide ((rule, cause) :: rest) written write (.error cause) := .inl ⟨h, rfl⟩

/-- A rule that is kept leaves the decision to the others. -/
theorem decide_kept {rule : Prop} {cause : Reason} {rest : Rules} {written : Json}
    {write : τ → Json} {outcome : Except Reason τ} (h : rule)
    (hrest : Decide rest written write outcome) :
    Decide ((rule, cause) :: rest) written write outcome := by
  cases outcome with
  | ok grant => exact ⟨kept_cons.2 ⟨h, hrest.1⟩, hrest.2⟩
  | error reason => exact .inr ⟨h, hrest⟩

end Rules

/-- One kind of grant: by these rules its descriptions are accepted and rejected, so the accepted
ones are written, and no key counts but these. -/
structure HasShape (ofInput : Json → Except Reason τ) (write : τ → Json) (keys : List String)
    (rules : Json → Rules) (written : Json → Json) : Prop where
  accepts (input : Json) (grant : τ) :
    ofInput input = .ok grant ↔ (rules input).Kept ∧ write grant = written input
  rejects (input : Json) (reason : Reason) :
    ofInput input = .error reason ↔ (rules input).FirstBroken reason
  ignores (entries others : Entries) :
    (∀ key ∈ keys, entries.get? key = others.get? key) →
      ofInput (.object entries) = ofInput (.object others)

/-- A kind of grant has a shape if its rules decide about every value. -/
theorem hasShape_of_decide {ofInput : Json → Except Reason τ} {write : τ → Json}
    {keys : List String} {rules : Json → Rules} {written : Json → Json}
    (hdecide : ∀ input, (rules input).Decide (written input) write (ofInput input))
    (hwrite : Function.Injective write)
    (hignores : ∀ entries others : Entries,
      (∀ key ∈ keys, entries.get? key = others.get? key) →
        ofInput (.object entries) = ofInput (.object others)) :
    HasShape ofInput write keys rules written where
  accepts input grant := by
    have h := hdecide input
    constructor
    · intro hok
      rw [hok] at h
      exact h
    · intro ⟨hkept, hwritten⟩
      cases hout : ofInput input with
      | ok other =>
        rw [hout] at h
        rw [hwrite (h.2.trans hwritten.symm)]
      | error reason =>
        rw [hout] at h
        exact absurd hkept (Rules.FirstBroken.not_kept h)
  rejects input reason := by
    have h := hdecide input
    constructor
    · intro herror
      rw [herror] at h
      exact h
    · intro hbroken
      cases hout : ofInput input with
      | ok other =>
        rw [hout] at h
        exact absurd h.1 hbroken.not_kept
      | error other =>
        rw [hout] at h
        rw [Rules.FirstBroken.unique h hbroken]
  ignores := hignores

/-! ## What stands under a key -/

namespace Json

/-- What stands under a key, if the value is an object that has it. -/
def under? (value : Json) (key : String) : Option Json :=
  match value with
  | .object entries => Keyed.get? entries key
  | _ => none

/-- What stands under a key; what is missing is null. -/
def underOrNull (value : Json) (key : String) : Json := (value.under? key).getD .null

def IsObject (value : Json) : Prop := ∃ entries, value = .object entries

def IsArray (value : Json) : Prop := ∃ items, value = .array items

def IsText (value : Json) : Prop := ∃ text, value = .string text

/-- What is missing, null or has a property. -/
def Optionally (p : Json → Prop) (value? : Option Json) : Prop :=
  ∀ value, value? = some value → value = .null ∨ p value

/-- An array has nothing but texts in it. -/
def HoldsTexts (value? : Option Json) : Prop :=
  ∀ items, value? = some (.array items) → ∀ item ∈ items, IsText item

/-- What is there and has a property. -/
def Surely (p : Json → Prop) (value? : Option Json) : Prop := ∃ value, value? = some value ∧ p value

theorem optionally_none {p : Json → Prop} : Optionally p none := by
  intro value h
  cases h

theorem optionally_some {p : Json → Prop} {value : Json} :
    Optionally p (some value) ↔ value = .null ∨ p value := by
  simp [Optionally]

theorem Surely.optionally {p : Json → Prop} {value? : Option Json} (h : Surely p value?) :
    Optionally p value? := by
  obtain ⟨value, rfl, hvalue⟩ := h
  exact optionally_some.2 (.inr hvalue)

/-- A text is found exactly where there is one. -/
theorem isSome_iff_surely_isText {text? : Option String} {value? : Option Json}
    (h : ofText? text? = value?.getD .null) : text?.isSome = true ↔ Surely IsText value? := by
  cases text? with
  | some text =>
    cases value? with
    | none => cases h
    | some value => exact iff_of_true rfl ⟨value, rfl, text, h.symm⟩
  | none =>
    refine iff_of_false (by simp) ?_
    rintro ⟨_, rfl, text, rfl⟩
    cases h

namespace Entries

variable {entries others : Entries} {key : String}

theorem textAt?_congr (h : entries.get? key = others.get? key) :
    entries.textAt? key = others.textAt? key := by
  unfold textAt?
  rw [h]

theorem textAt_congr (h : entries.get? key = others.get? key) :
    entries.textAt key = others.textAt key := by
  unfold textAt
  rw [textAt?_congr h]

theorem datacenters?_congr (h : entries.get? "datacenters" = others.get? "datacenters") :
    entries.datacenters? = others.datacenters? := by
  unfold datacenters?
  rw [h]

/-- A key that may be missing has a text, or it is refused. -/
theorem textAt?_cases (entries : Entries) (key : String) :
    (∃ text?, entries.textAt? key = .ok text? ∧
      ofText? text? = (entries.get? key).getD .null ∧ Optionally IsText (entries.get? key)) ∨
    (entries.textAt? key = .error (.notText key) ∧ ¬Optionally IsText (entries.get? key)) := by
  unfold textAt?
  cases hget : entries.get? key with
  | none => exact .inl ⟨none, rfl, rfl, optionally_none⟩
  | some value =>
    rw [optionally_some]
    cases value with
    | null => exact .inl ⟨none, rfl, rfl, .inl rfl⟩
    | string text => exact .inl ⟨some text, rfl, rfl, .inr ⟨text, rfl⟩⟩
    | _ => exact .inr ⟨rfl, by simp [IsText]⟩

/-- A key that has to be there has a text, or it is refused for its type or for missing. -/
theorem textAt_cases (entries : Entries) (key : String) :
    (∃ text, entries.textAt key = .ok text ∧ entries.get? key = some (.string text)) ∨
    (entries.textAt key = .error (.notText key) ∧ ¬Optionally IsText (entries.get? key)) ∨
    (entries.textAt key = .error (.required key) ∧ Optionally IsText (entries.get? key) ∧
      ¬Surely IsText (entries.get? key)) := by
  unfold textAt
  obtain ⟨text?, hread, hvalue, htext⟩ | ⟨hread, htext⟩ := entries.textAt?_cases key
  · have hsurely := isSome_iff_surely_isText hvalue
    rw [hread]
    cases text? with
    | none => exact .inr (.inr ⟨rfl, htext, by simpa using hsurely⟩)
    | some text =>
      obtain ⟨value, hget, -⟩ := hsurely.1 rfl
      rw [hget] at hvalue
      exact .inl ⟨text, rfl, hget.trans (congrArg some hvalue.symm)⟩
  · rw [hread]
    exact .inr (.inl ⟨rfl, htext⟩)

/-- A list of texts is taken over as it is, and any other list is refused. -/
theorem mapM_asDatacenter_cases (items : List Json) :
    (∃ names, items.mapM asDatacenter = .ok names ∧ names.map .string = items) ∨
    (items.mapM asDatacenter = .error .datacenterNotText ∧ ¬∀ item ∈ items, IsText item) := by
  induction items with
  | nil => exact .inl ⟨[], rfl, rfl⟩
  | cons item rest ih =>
    rw [List.mapM_cons, List.forall_mem_cons]
    cases item with
    | string name =>
      obtain ⟨names, hread, hnames⟩ | ⟨hread, htext⟩ := ih
      · rw [hread]
        exact .inl ⟨name :: names, rfl, by rw [List.map_cons, hnames]⟩
      · rw [hread]
        exact .inr ⟨rfl, fun h => htext h.2⟩
    | _ => exact .inr ⟨rfl, by simp [IsText]⟩

/-- The datacenters are a list of texts or nothing, or they are refused for what they are or for
what is among them. -/
theorem datacenters?_cases (entries : Entries) :
    (∃ names?, entries.datacenters? = .ok names? ∧
      (names?.map (Json.ofList .string)).getD .null = (entries.get? "datacenters").getD .null ∧
      Optionally IsArray (entries.get? "datacenters") ∧
      HoldsTexts (entries.get? "datacenters")) ∨
    (entries.datacenters? = .error .datacentersNotList ∧
      ¬Optionally IsArray (entries.get? "datacenters")) ∨
    (entries.datacenters? = .error .datacenterNotText ∧
      Optionally IsArray (entries.get? "datacenters") ∧
      ¬HoldsTexts (entries.get? "datacenters")) := by
  unfold datacenters?
  cases entries.get? "datacenters" with
  | none => exact .inl ⟨none, rfl, rfl, optionally_none, by simp [HoldsTexts]⟩
  | some value =>
    rw [optionally_some]
    cases value with
    | null => exact .inl ⟨none, rfl, rfl, .inl rfl, by simp [HoldsTexts]⟩
    | array items =>
      have harray : IsArray (.array items) := ⟨items, rfl⟩
      have htexts : HoldsTexts (some (.array items)) ↔ ∀ item ∈ items, IsText item := by
        simp [HoldsTexts]
      rw [htexts]
      obtain ⟨names, hread, rfl⟩ | ⟨hread, hnot⟩ := mapM_asDatacenter_cases items
      · refine .inl ⟨some names, ?_, rfl, .inr harray, by simp [IsText]⟩
        exact congrArg (Except.map some) hread
      · refine .inr (.inr ⟨?_, .inr harray, hnot⟩)
        exact congrArg (Except.map some) hread
    | _ => exact .inr (.inl ⟨rfl, by simp [IsArray]⟩)

end Entries

end Json

/-! ## Rules for what stands under a key -/

namespace Rules

variable {entries : Entries} {key : String} {rest : Rules} {written : Json} {write : τ → Json}

/-- A key that may be missing has one rule. -/
theorem decide_textAt? {next : Option String → Except Reason τ}
    (h : ∀ text?, ofText? text? = (Keyed.get? entries key).getD .null →
      Decide rest written write (next text?)) :
    Decide ((Optionally IsText (Keyed.get? entries key), .notText key) :: rest) written write
      (entries.textAt? key >>= next) := by
  obtain ⟨text?, hread, hwritten, htext⟩ | ⟨hread, hnot⟩ := entries.textAt?_cases key
  · rw [hread]
    exact decide_kept htext (h text? hwritten)
  · rw [hread]
    exact decide_broken hnot

/-- A key that has to be there has two rules. -/
theorem decide_textAt {next : String → Except Reason τ}
    (h : ∀ text, .string text = (Keyed.get? entries key).getD .null →
      Decide rest written write (next text)) :
    Decide ((Optionally IsText (Keyed.get? entries key), .notText key) ::
      (Surely IsText (Keyed.get? entries key), .required key) :: rest) written write
      (entries.textAt key >>= next) := by
  obtain ⟨text, hread, hget⟩ | ⟨hread, hnot⟩ | ⟨hread, htext, hnot⟩ := entries.textAt_cases key
  · have hsurely : Surely IsText (Keyed.get? entries key) := ⟨_, hget, text, rfl⟩
    rw [hread]
    apply decide_kept hsurely.optionally
    apply decide_kept hsurely
    apply h
    rw [hget]
    rfl
  · rw [hread]
    exact decide_broken hnot
  · rw [hread]
    exact decide_kept htext (decide_broken hnot)

/-- The datacenters have one rule for the list and one for what is in it. -/
theorem decide_datacenters? {next : Option (List String) → Except Reason τ}
    (h : ∀ names?, (names?.map (Json.ofList .string)).getD .null =
      (Keyed.get? entries "datacenters").getD .null → Decide rest written write (next names?)) :
    Decide ((Optionally IsArray (Keyed.get? entries "datacenters"), .datacentersNotList) ::
      (HoldsTexts (Keyed.get? entries "datacenters"), .datacenterNotText) :: rest) written write
      (entries.datacenters? >>= next) := by
  obtain ⟨names?, hread, hwritten, harray, htexts⟩ | ⟨hread, hnot⟩ | ⟨hread, harray, hnot⟩ :=
    entries.datacenters?_cases
  · rw [hread]
    exact decide_kept harray (decide_kept htexts (h names? hwritten))
  · rw [hread]
    exact decide_broken hnot
  · rw [hread]
    exact decide_kept harray (decide_broken hnot)

end Rules

/-! ## The three shapes -/

theorem write_injective {write : τ → Json} {read : Json → Except Fault τ}
    (h : ∀ grant, read (write grant) = .ok grant) : Function.Injective write := by
  intro grant other heq
  have hread := h grant
  rw [heq, h other] at hread
  exact (Except.ok.inj hread).symm

theorem not_isObject {value : Json} (h : ∀ entries, value ≠ .object entries) : ¬value.IsObject := by
  intro ⟨entries, hentries⟩
  exact h entries hentries

namespace Link

/-- The rules for the description of a link. -/
def rules (input : Json) : Rules :=
  [(input.IsObject, .notLink),
    (Optionally IsText (input.under? "id"), .notText "id"),
    (Optionally IsText (input.under? "name"), .notText "name"),
    (Surely IsText (input.under? "id") ∨ Surely IsText (input.under? "name"), .neitherSet)]

/-- The written form of a described link. -/
def written (input : Json) : Json :=
  .object [("ID", input.underOrNull "id"), ("Name", input.underOrNull "name")]

theorem ofInput_object (entries : Entries) :
    ofInput (.object entries) = (do
      let id ← entries.textAt? "id"
      let name ← entries.textAt? "name"
      if id.isNone && name.isNone then .error .neitherSet else .ok { id, name }) := rfl

theorem rules_decide (input : Json) :
    (rules input).Decide (written input) toJson (ofInput input) := by
  cases input with
  | object entries =>
    apply Rules.decide_kept ⟨entries, rfl⟩
    rw [ofInput_object]
    apply Rules.decide_textAt?
    intro id hid
    apply Rules.decide_textAt?
    intro name hname
    have hset := isSome_iff_surely_isText hid
    have hset' := isSome_iff_surely_isText hname
    change Rules.Decide
      [(Surely IsText (Keyed.get? entries "id") ∨ Surely IsText (Keyed.get? entries "name"),
        .neitherSet)] _ _
      (if id.isNone && name.isNone then .error .neitherSet else .ok (Link.mk id name))
    rw [← hset, ← hset']
    by_cases h : id.isSome = true ∨ name.isSome = true
    · have hcond : (id.isNone && name.isNone) = false := by cases id <;> cases name <;> simp_all
      rw [hcond]
      apply Rules.decide_kept h
      apply Rules.decide_nil
      exact congrArg₂ (fun id name => Json.object [("ID", id), ("Name", name)]) hid hname
    · have hcond : (id.isNone && name.isNone) = true := by cases id <;> cases name <;> simp_all
      rw [hcond]
      exact Rules.decide_broken h
  | _ => exact Rules.decide_broken (not_isObject (by simp))

theorem hasShape : HasShape ofInput toJson ["id", "name"] rules written := by
  apply hasShape_of_decide rules_decide (write_injective read_toJson)
  intro entries others h
  rw [ofInput_object, ofInput_object, Entries.textAt?_congr (h "id" (by simp)),
    Entries.textAt?_congr (h "name" (by simp))]

end Link

namespace ServiceIdentity

/-- The rules for the description of a service identity. -/
def rules (input : Json) : Rules :=
  [(input.IsObject, .notServiceIdentity),
    (Optionally IsText (input.under? "name"), .notText "name"),
    (Surely IsText (input.under? "name"), .required "name"),
    (Optionally IsArray (input.under? "datacenters"), .datacentersNotList),
    (HoldsTexts (input.under? "datacenters"), .datacenterNotText)]

/-- The written form of a described service identity. -/
def written (input : Json) : Json :=
  .object [("Datacenters", input.underOrNull "datacenters"),
    ("ServiceName", input.underOrNull "name")]

theorem ofInput_object (entries : Entries) :
    ofInput (.object entries) = (do
      let service ← entries.textAt "name"
      let datacenters ← entries.datacenters?
      return { service, datacenters }) := rfl

theorem rules_decide (input : Json) :
    (rules input).Decide (written input) toJson (ofInput input) := by
  cases input with
  | object entries =>
    apply Rules.decide_kept ⟨entries, rfl⟩
    rw [ofInput_object]
    apply Rules.decide_textAt
    intro service hservice
    apply Rules.decide_datacenters?
    intro datacenters hdatacenters
    apply Rules.decide_nil
    exact congrArg₂ (fun datacenters name =>
      Json.object [("Datacenters", datacenters), ("ServiceName", name)]) hdatacenters hservice
  | _ => exact Rules.decide_broken (not_isObject (by simp))

theorem hasShape : HasShape ofInput toJson ["name", "datacenters"] rules written := by
  apply hasShape_of_decide rules_decide (write_injective read_toJson)
  intro entries others h
  rw [ofInput_object, ofInput_object, Entries.textAt_congr (h "name" (by simp)),
    Entries.datacenters?_congr (h "datacenters" (by simp))]

end ServiceIdentity

namespace NodeIdentity

/-- The rules for the description of a node identity. -/
def rules (input : Json) : Rules :=
  [(input.IsObject, .notNodeIdentity),
    (Optionally IsText (input.under? "name"), .notText "name"),
    (Surely IsText (input.under? "name"), .required "name"),
    (Optionally IsText (input.under? "datacenter"), .notText "datacenter")]

/-- The written form of a described node identity. -/
def written (input : Json) : Json :=
  .object [("Datacenter", input.underOrNull "datacenter"), ("NodeName", input.underOrNull "name")]

theorem ofInput_object (entries : Entries) :
    ofInput (.object entries) = (do
      let node ← entries.textAt "name"
      let datacenter ← entries.textAt? "datacenter"
      return { node, datacenter }) := rfl

theorem rules_decide (input : Json) :
    (rules input).Decide (written input) toJson (ofInput input) := by
  cases input with
  | object entries =>
    apply Rules.decide_kept ⟨entries, rfl⟩
    rw [ofInput_object]
    apply Rules.decide_textAt
    intro node hnode
    apply Rules.decide_textAt?
    intro datacenter hdatacenter
    apply Rules.decide_nil
    exact congrArg₂ (fun datacenter name =>
      Json.object [("Datacenter", datacenter), ("NodeName", name)]) hdatacenter hnode
  | _ => exact Rules.decide_broken (not_isObject (by simp))

theorem hasShape : HasShape ofInput toJson ["name", "datacenter"] rules written := by
  apply hasShape_of_decide rules_decide (write_injective read_toJson)
  intro entries others h
  rw [ofInput_object, ofInput_object, Entries.textAt_congr (h "name" (by simp)),
    Entries.textAt?_congr (h "datacenter" (by simp))]

end NodeIdentity

/-! ## Problems -/

namespace HasShape

variable {ofInput : Json → Except Reason τ} {write : τ → Json} {keys : List String}
  {rules : Json → Rules} {written : Json → Json}

/-- A rejected element of a list is found in its place, with the reason of the first rule that it
breaks. -/
theorem mem_rejections_iff (h : HasShape ofInput write keys rules written) {inputs : List Json}
    {index : Nat} {reason : Reason} :
    (index, reason) ∈ rejections ofInput inputs ↔
      ∃ input, inputs[index]? = some input ∧ (rules input).FirstBroken reason := by
  rw [(rejects_rejections ofInput inputs).mem_iff]
  simp only [h.rejects]

end HasShape

/-- **Grants are described by shapes.** A link has a text for `id` or for `name`, and the other one
may be null or missing. An identity has a text for `name`; a service identity may have an array of
texts for `datacenters`, and a node identity a text for `datacenter`. What is accepted is written
with just these values, whatever stands under other keys. What is rejected in one of the four lists
gives a problem of its kind, with its place and the first rule it breaks. -/
theorem grants_have_shapes :
    HasShape Link.ofInput Link.toJson ["id", "name"] Link.rules Link.written ∧
    HasShape ServiceIdentity.ofInput ServiceIdentity.toJson ["name", "datacenters"]
      ServiceIdentity.rules ServiceIdentity.written ∧
    HasShape NodeIdentity.ofInput NodeIdentity.toJson ["name", "datacenter"] NodeIdentity.rules
      NodeIdentity.written ∧
    ∀ (spec : TokenSpec) (index : Nat) (reason : Reason),
      (.link .policy index reason ∈ spec.problems ↔
        ∃ input, spec.policies[index]? = some input ∧ (Link.rules input).FirstBroken reason) ∧
      (.link .role index reason ∈ spec.problems ↔
        ∃ input, spec.roles[index]? = some input ∧ (Link.rules input).FirstBroken reason) ∧
      (.serviceIdentity index reason ∈ spec.problems ↔
        ∃ input, spec.serviceIdentities[index]? = some input ∧
          (ServiceIdentity.rules input).FirstBroken reason) ∧
      (.nodeIdentity index reason ∈ spec.problems ↔
        ∃ input, spec.nodeIdentities[index]? = some input ∧
          (NodeIdentity.rules input).FirstBroken reason) := by
  refine ⟨Link.hasShape, ServiceIdentity.hasShape, NodeIdentity.hasShape, ?_⟩
  intro spec index reason
  rw [← Link.hasShape.mem_rejections_iff, ← Link.hasShape.mem_rejections_iff,
    ← ServiceIdentity.hasShape.mem_rejections_iff, ← NodeIdentity.hasShape.mem_rejections_iff,
    TokenSpec.problems_eq]
  simp [problemUnless]

example : ServiceIdentity.ofInput (.object [("datacenters", .array [.null]), ("id", .null)]) =
    .error (.required "name") := by
  decide

end TokenSync
