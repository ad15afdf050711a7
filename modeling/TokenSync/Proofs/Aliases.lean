import TokenSync.Config.File

/-!
# Readings and the aliases they follow

How often aliases may be followed depends on the size of the whole document, so whether a part of it
can be read depends on everything around it. But a reading has a price, the number of aliases it
follows, which only the anchored nodes of the document decide, and the prices of its steps add up.
What is read is then what there is room for.
-/
namespace TokenSync.Yaml

open Node

variable {τ υ : Type} {targets : Targets}

/-! ## Prices -/

/-- What a reading with this outcome gives in a document of this size after so many aliases. -/
def settle (weight followed : Nat) : Option (τ × Nat) → Option (τ × Nat)
  | some (value, price) =>
    if followed + price ≤ weight * 100 then some (value, followed + price) else none
  | none => none

/-- What a reading comes to in every document with these anchored nodes: nothing, or a value and the
number of aliases that are followed for it if the document has room for them. -/
def ComesTo (targets : Targets) (reading : Reading τ) (outcome : Option (τ × Nat)) : Prop :=
  ∀ document : Document, document.targets = targets → ∀ followed ≤ document.weight * 100,
    reading document followed = settle document.weight followed outcome

/-- A reading gives a value at a price. -/
abbrev Costs (targets : Targets) (reading : Reading τ) (value : τ) (price : Nat) : Prop :=
  ComesTo targets reading (some (value, price))

/-- A reading comes to something, and without anchored nodes it has no price. -/
class Priced (reading : Reading τ) : Prop where
  exists_comesTo (targets : Targets) : ∃ outcome, ComesTo targets reading outcome
  free {value : τ} {price : Nat} : Costs [] reading value price → price = 0

/-- Two readings give the same values at the same prices. -/
def Alike (targets : Targets) (reading other : Reading τ) : Prop :=
  ∀ value price, Costs targets reading value price ↔ Costs targets other value price

theorem settle_of_room {weight price : Nat} {value : τ} (h : price ≤ weight * 100) :
    settle weight 0 (some (value, price)) = some (value, price) := by
  simp [settle, h]

theorem settle_eq_some_iff {weight price : Nat} {value : τ} {outcome : Option (τ × Nat)} :
    settle weight 0 outcome = some (value, price) ↔
      outcome = some (value, price) ∧ price ≤ weight * 100 := by
  cases outcome with
  | none => simp [settle]
  | some result =>
    obtain ⟨content, more⟩ := result
    simp only [settle, Nat.zero_add, Option.ite_none_right_eq_some, Option.some.injEq,
      Prod.mk.injEq]
    constructor
    · rintro ⟨hroom, rfl, rfl⟩
      exact ⟨⟨rfl, rfl⟩, hroom⟩
    · rintro ⟨⟨rfl, rfl⟩, hroom⟩
      exact ⟨hroom, rfl, rfl⟩

/-- A value and its price show in a document that is large enough. -/
theorem Costs.eq_of_comesTo {reading : Reading τ} {value : τ} {price : Nat}
    {outcome : Option (τ × Nat)} (h : Costs targets reading value price)
    (ho : ComesTo targets reading outcome) : outcome = some (value, price) := by
  have hroom : price ≤ price * 100 := by omega
  have hrun := (ho ⟨default, targets, price⟩ rfl 0 (Nat.zero_le _)).symm.trans
    (h ⟨default, targets, price⟩ rfl 0 (Nat.zero_le _))
  rw [settle_of_room hroom] at hrun
  exact (settle_eq_some_iff.1 hrun).1

theorem Costs.unique {reading : Reading τ} {value other : τ} {price more : Nat}
    (h : Costs targets reading value price) (ho : Costs targets reading other more) :
    other = value ∧ more = price := by
  have heq := h.eq_of_comesTo ho
  simpa using heq

theorem comesTo_pure (value : τ) : ComesTo targets (pure value : Reading τ) (some (value, 0)) := by
  intro document _ followed hfollowed
  simp only [settle, Nat.add_zero, hfollowed, if_true]
  rfl

theorem comesTo_refuse : ComesTo targets (refuse : Reading τ) none := fun _ _ _ _ => rfl

theorem ComesTo.bind_none {reading : Reading τ} (h : ComesTo targets reading none)
    (next : τ → Reading υ) : ComesTo targets (reading >>= next) none := by
  intro document htargets followed hfollowed
  change (reading document followed).bind _ = _
  rw [h document htargets followed hfollowed]
  rfl

theorem Costs.bind {reading : Reading τ} {next : τ → Reading υ} {value : τ} {price : Nat}
    {outcome : Option (υ × Nat)} (h : Costs targets reading value price)
    (hnext : ComesTo targets (next value) outcome) :
    ComesTo targets (reading >>= next)
      (outcome.map fun result => (result.1, price + result.2)) := by
  intro document htargets followed hfollowed
  change (reading document followed).bind
    (fun result => next result.1 document result.2) = _
  rw [h document htargets followed hfollowed]
  -- Without room for the first step there is none for both.
  by_cases hroom : followed + price ≤ document.weight * 100
  · simp only [settle, hroom, if_true, Option.bind_some]
    rw [hnext document htargets _ hroom]
    cases outcome with
    | none => rfl
    | some result => simp only [settle, Option.map_some, Nat.add_assoc]
  · simp only [settle, hroom, if_false, Option.bind_none]
    cases outcome with
    | none => rfl
    | some result =>
      have hmore : ¬followed + (price + result.2) ≤ document.weight * 100 := by omega
      simp only [Option.map_some, hmore, if_false]

/-! ## Steps of a reading -/

section

variable {reading : Reading τ} {next : τ → Reading υ} {value : τ} {price : Nat}

theorem costs_pure {content : τ} :
    Costs targets (pure value : Reading τ) content price ↔ content = value ∧ price = 0 := by
  constructor
  · intro h
    exact Costs.unique (comesTo_pure value) h
  · rintro ⟨rfl, rfl⟩
    exact comesTo_pure content

theorem not_costs_refuse : ¬Costs targets (refuse : Reading τ) value price := by
  intro h
  cases h.eq_of_comesTo comesTo_refuse

/-- What is read without following aliases costs nothing. -/
theorem costs_zero
    (h : ∀ document followed, reading document followed = some (value, followed)) :
    Costs targets reading value 0 := by
  intro document _ followed hfollowed
  rw [h document followed]
  simp [settle, hfollowed]

/-- One step after the other gives what the second gives for what the first gives, and the prices
add up. -/
theorem costs_bind_iff [h : Priced reading] [hnext : ∀ value, Priced (next value)]
    {content : υ} : Costs targets (reading >>= next) content price ↔
      ∃ value first second, Costs targets reading value first ∧
        Costs targets (next value) content second ∧ first + second = price := by
  obtain ⟨outcome, houtcome⟩ := h.exists_comesTo targets
  constructor
  · intro hcontent
    cases outcome with
    | none => cases hcontent.eq_of_comesTo (houtcome.bind_none next)
    | some result =>
      obtain ⟨last, hlast⟩ := (hnext result.1).exists_comesTo targets
      obtain ⟨⟨other, second⟩, rfl, heq⟩ :=
        Option.map_eq_some_iff.1 (hcontent.eq_of_comesTo (Costs.bind houtcome hlast))
      cases heq
      exact ⟨result.1, result.2, second, houtcome, hlast, rfl⟩
  · rintro ⟨value, first, second, hvalue, hcontent, rfl⟩
    exact hvalue.bind hcontent

instance priced_pure (value : τ) : Priced (pure value : Reading τ) where
  exists_comesTo _ := ⟨_, comesTo_pure value⟩
  free h := (costs_pure.1 h).2

instance priced_refuse : Priced (refuse : Reading τ) where
  exists_comesTo _ := ⟨_, comesTo_refuse⟩
  free h := absurd h not_costs_refuse

instance priced_bind (reading : Reading τ) (next : τ → Reading υ) [h : Priced reading]
    [hnext : ∀ value, Priced (next value)] : Priced (reading >>= next) where
  exists_comesTo targets := by
    obtain ⟨outcome, houtcome⟩ := h.exists_comesTo targets
    cases outcome with
    | none => exact ⟨none, houtcome.bind_none next⟩
    | some result =>
      obtain ⟨last, hlast⟩ := (hnext result.1).exists_comesTo targets
      exact ⟨_, Costs.bind houtcome hlast⟩
  free hprice := by
    obtain ⟨value, first, second, hvalue, hcontent, rfl⟩ := costs_bind_iff.1 hprice
    have hfirst := h.free hvalue
    have hsecond := (hnext value).free hcontent
    omega

end

instance priced_map (f : τ → υ) (reading : Reading τ) [Priced reading] : Priced (f <$> reading) :=
  priced_bind reading fun value => pure (f value)

instance priced_ite (c : Prop) [Decidable c] (reading other : Reading τ) [h : Priced reading]
    [ho : Priced other] : Priced (if c then reading else other) := by
  split
  · exact h
  · exact ho

instance priced_mapM (read : τ → Reading υ) [∀ item, Priced (read item)] (items : List τ) :
    Priced (items.mapM read) := by
  induction items with
  | nil => exact priced_pure []
  | cons item rest ih =>
    rw [List.mapM_cons]
    infer_instance

/-- An alias has the price of one. -/
theorem comesTo_alias (number : Nat) :
    ComesTo targets (follow (.alias number)) ((targets.lookup number).map (·, 1)) := by
  rintro document rfl followed -
  change (if document.weight * 100 < followed + 1 then none
    else (document.target? number).map (·, followed + 1)) = _
  unfold Document.target?
  cases document.targets.lookup number with
  | none => simp [settle]
  | some node =>
    by_cases hroom : document.weight * 100 < followed + 1
    · have hnone : ¬followed + 1 ≤ document.weight * 100 := by omega
      simp [settle, hroom, hnone]
    · have hsome : followed + 1 ≤ document.weight * 100 := by omega
      simp [settle, hroom, hsome]

instance priced_follow (node : Numbered) : Priced (follow node) := by
  cases node with
  | «alias» number =>
    refine ⟨fun targets => ⟨_, comesTo_alias number⟩, fun h => ?_⟩
    cases h.eq_of_comesTo (comesTo_alias number)
  | scalar p text style => exact priced_pure _
  | sequence p items => exact priced_pure _
  | mapping p entries => exact priced_pure _

/-! ## What is read -/

section

variable {document : Document} {reading : Reading τ} {value : τ} {price : Nat}

/-- **A reading succeeds exactly if the document has room for its price**, and follows as many
aliases as it costs. -/
theorem run_eq_some_iff [h : Priced reading] : reading document 0 = some (value, price) ↔
    Costs document.targets reading value price ∧ price ≤ document.weight * 100 := by
  obtain ⟨outcome, houtcome⟩ := h.exists_comesTo document.targets
  rw [houtcome document rfl 0 (Nat.zero_le _), settle_eq_some_iff]
  refine and_congr_left fun _ => ?_
  constructor
  · rintro rfl
    exact houtcome
  · intro hcosts
    exact hcosts.eq_of_comesTo houtcome

theorem read_eq_some_iff [Priced reading] : document.read reading = some value ↔
    ∃ price, Costs document.targets reading value price ∧ price ≤ document.weight * 100 := by
  have hread : document.read reading = some value ↔
      ∃ price, reading document 0 = some (value, price) := by
    unfold Document.read
    simp only [Option.map_eq_some_iff, Prod.exists, exists_and_right, exists_eq_right]
    rfl
  simp only [hread, run_eq_some_iff]

/-- Without anchored nodes there is room for everything. -/
theorem read_eq_some_iff_of_free [h : Priced reading] (htargets : document.targets = []) :
    document.read reading = some value ↔ Costs [] reading value 0 := by
  rw [read_eq_some_iff, htargets]
  constructor
  · intro ⟨price, hprice, _⟩
    rwa [h.free hprice] at hprice
  · intro hprice
    exact ⟨0, hprice, Nat.zero_le _⟩

end

/-! ## The readings of YAML -/

instance priced_readText (node : Numbered) : Priced (readText node) := by
  refine @priced_bind _ _ _ _ _ fun content => ?_
  cases content <;> infer_instance

instance priced_readBool (node : Numbered) : Priced (readBool node) := by
  refine @priced_bind _ _ _ _ _ fun content => ?_
  cases content with
  | scalar p text style =>
    simp only
    split <;> infer_instance
  | _ => exact priced_refuse

instance priced_readNat (bits : Nat) (node : Numbered) : Priced (readNat bits node) := by
  refine @priced_bind _ _ _ _ _ fun content => ?_
  cases content with
  | scalar p text style =>
    simp only
    split <;> infer_instance
  | _ => exact priced_refuse

instance priced_readOptional (read : Numbered → Reading τ) [∀ node, Priced (read node)]
    (node : Numbered) : Priced (readOptional read node) := by
  refine @priced_bind _ _ _ _ _ fun content => ?_
  cases content with
  | scalar p text style =>
    simp only
    split <;> infer_instance
  | _ => exact priced_map some _

instance priced_readVariant (ofName? : String → Option τ) (node : Numbered) :
    Priced (readVariant ofName? node) := by
  refine @priced_bind _ _ _ _ _ fun content => ?_
  cases content with
  | scalar p text style =>
    simp only
    split <;> infer_instance
  | _ => exact priced_refuse

instance priced_readItems (node : Numbered) : Priced (readItems node) := by
  refine @priced_bind _ _ _ _ _ fun content => ?_
  cases content <;> infer_instance

instance priced_readList (read : Numbered → Reading τ) [∀ node, Priced (read node)]
    (node : Numbered) : Priced (readList read node) :=
  inferInstanceAs (Priced (readItems node >>= fun items => items.mapM read))

theorem priced_valueWith {inner : Option (Numbered → Reading Json)}
    (h : ∀ read, inner = some read → ∀ node, Priced (read node)) (node : Numbered) :
    Priced (valueWith inner node) := by
  refine @priced_bind _ _ _ _ _ fun content => ?_
  cases content with
  | «alias» number => exact priced_refuse
  | scalar p text style =>
    simp only
    split <;> infer_instance
  | sequence p items =>
    cases inner with
    | none => exact priced_refuse
    | some read =>
      have hread := h read rfl
      simp only
      infer_instance
  | mapping p entries =>
    cases inner with
    | none => exact priced_refuse
    | some read =>
      have hread := h read rfl
      simp only
      infer_instance

instance priced_readValue (room : Nat) (node : Numbered) : Priced (readValue room node) := by
  induction room generalizing node with
  | zero =>
    refine priced_valueWith (fun read hread => ?_) node
    cases hread
  | succ room ih =>
    refine priced_valueWith (fun read hread => ?_) node
    obtain rfl := Option.some.inj hread
    exact ih

instance priced_selectFields (names seen : List String) (entries : List (Numbered × Numbered)) :
    Priced (selectFields names seen entries) := by
  induction entries generalizing seen with
  | nil => exact priced_pure []
  | cons entry rest ih =>
    unfold selectFields
    infer_instance

/-- What becomes of the content of a structure has a price as well. -/
instance priced_partsOf (names : List String) (content : Numbered) :
    Priced (match content with
      | .mapping _ entries => selectFields names [] entries
      | .scalar _ text style => if isEmptyPlain text style then pure [] else refuse
      | _ => refuse) := by
  cases content <;> infer_instance

instance priced_readStructure (names : List String) (node : Numbered) :
    Priced (readStructure names node) := @priced_bind _ _ _ _ _ (priced_partsOf names)

instance FieldSpec.priced_get (field : FieldSpec τ) [h : ∀ node, Priced (field.read node)]
    (parts : List (String × Numbered)) : Priced (field.get parts) := by
  unfold FieldSpec.get
  split
  · exact h _
  · exact priced_pure _
  · exact priced_refuse

end TokenSync.Yaml

namespace TokenSync.ConfigFile

open Yaml Node

/-! ## The readings of a file -/

instance priced_hostField (node : Numbered) : Priced (hostField.read node) := priced_readText node

instance priced_portField (node : Numbered) : Priced (portField.read node) :=
  priced_map UInt16.ofNat _

instance priced_schemeField (node : Numbered) : Priced (schemeField.read node) :=
  priced_readText node

instance priced_validateTlsField (node : Numbered) : Priced (validateTlsField.read node) :=
  priced_readBool node

instance priced_readSecret (node : Numbered) : Priced (readSecret node) :=
  priced_readOptional _ node

instance priced_managementTokenField (node : Numbered) : Priced (managementTokenField.read node) :=
  priced_readOptional _ node

instance priced_timeoutMsField (node : Numbered) : Priced (timeoutMsField.read node) :=
  priced_map UInt64.ofNat _

instance priced_readConnection (node : Numbered) : Priced (readConnection node) := by
  unfold readConnection
  infer_instance

instance priced_levelField (node : Numbered) : Priced (levelField.read node) := priced_readText node

instance priced_formatField (node : Numbered) : Priced (formatField.read node) :=
  priced_readVariant _ node

instance priced_readLogging (node : Numbered) : Priced (readLogging node) := by
  unfold readLogging
  infer_instance

instance priced_idField (node : Numbered) : Priced (idField.read node) := priced_readText node

instance priced_descriptionField (node : Numbered) : Priced (descriptionField.read node) :=
  priced_readText node

instance priced_localField (node : Numbered) : Priced (localField.read node) := priced_readBool node

instance priced_secretField (node : Numbered) : Priced (secretField.read node) :=
  priced_readOptional _ node

instance priced_stateField (node : Numbered) : Priced (stateField.read node) :=
  priced_readVariant _ node

instance priced_listField (name : String) (node : Numbered) : Priced ((listField name).read node) :=
  priced_readList _ node

instance priced_readSpec (node : Numbered) : Priced (readSpec node) := by
  unfold readSpec
  infer_instance

instance priced_connectionField (node : Numbered) : Priced (connectionField.read node) :=
  priced_readConnection node

instance priced_loggingField (node : Numbered) : Priced (loggingField.read node) :=
  priced_readOptional _ node

instance priced_tokenField (node : Numbered) : Priced (tokenField.read node) :=
  priced_readSpec node

instance priced_read (node : Numbered) : Priced (ConfigFile.read node) := by
  unfold ConfigFile.read
  infer_instance

end TokenSync.ConfigFile
