import Mathlib.Data.List.Nodup
import TokenSync.Proofs.Aliases
import TokenSync.Proofs.SettingDocuments

/-!
# Blocks of files

A block of a file says something under names, which are the texts of its keys, or nothing at all,
and it may take aliases to find out. A record is read from the fields of a block. Writing out what a
field would be without an entry, or anything under a name that nobody knows, changes neither the
record nor the price of reading it.
-/
namespace TokenSync.Yaml

open Node

variable {τ σ : Type} {targets : Targets} {document : Document}

/-! ## What a block says -/

/-- Entries with these names: a key is read as the name of what stands under it, and the aliases
that are followed for the keys are counted. -/
inductive Named (targets : Targets) :
    List (Numbered × Numbered) → Keyed Numbered → Nat → Prop
  | nil : Named targets [] [] 0
  | cons {key part : Numbered} {name : String} {first second : Nat}
    {entries : List (Numbered × Numbered)} {named : Keyed Numbered} :
    Costs targets (readText key) name first → Named targets entries named second →
      Named targets ((key, part) :: entries) ((name, part) :: named) (first + second)

/-- What the content of a block says. -/
inductive ContentSays (targets : Targets) : Numbered → Keyed Numbered → Nat → Prop
  | mapping {p : Properties} {entries : List (Numbered × Numbered)} {named : Keyed Numbered}
    {price : Nat} : Named targets entries named price →
      ContentSays targets (.mapping p entries) named price
  | nothing {p : Properties} {text : List Char} {style : Style} :
    isEmptyPlain text style = true → ContentSays targets (.scalar p text style) [] 0

/-- A block says what the node says that it stands for. -/
def Says (targets : Targets) (node : Numbered) (named : Keyed Numbered) (price : Nat) : Prop :=
  ∃ content first second, Costs targets (follow node) content first ∧
    ContentSays targets content named second ∧ first + second = price

theorem says_mapping {p : Properties} {entries : List (Numbered × Numbered)}
    {named : Keyed Numbered} {price : Nat} :
    Says targets (.mapping p entries) named price ↔ Named targets entries named price := by
  constructor
  · rintro ⟨content, first, second, hcontent, hsaid, rfl⟩
    obtain ⟨rfl, rfl⟩ := costs_pure.1 hcontent
    rw [Nat.zero_add]
    cases hsaid with
    | mapping hnamed => exact hnamed
  · intro hnamed
    exact ⟨_, 0, price, costs_pure.2 ⟨rfl, rfl⟩, .mapping hnamed, Nat.zero_add _⟩

theorem says_nothing {p : Properties} {text : List Char} {style : Style} {named : Keyed Numbered}
    {price : Nat} (h : isEmptyPlain text style = true) :
    Says targets (.scalar p text style) named price ↔ named = [] ∧ price = 0 := by
  constructor
  · rintro ⟨content, first, second, hcontent, hsaid, rfl⟩
    obtain ⟨rfl, rfl⟩ := costs_pure.1 hcontent
    cases hsaid with
    | nothing => exact ⟨rfl, rfl⟩
  · rintro ⟨rfl, rfl⟩
    exact ⟨_, 0, 0, costs_pure.2 ⟨rfl, rfl⟩, .nothing h, rfl⟩

theorem named_nil {named : Keyed Numbered} {price : Nat} :
    Named targets [] named price ↔ named = [] ∧ price = 0 := by
  constructor
  · intro h
    cases h
    exact ⟨rfl, rfl⟩
  · rintro ⟨rfl, rfl⟩
    exact .nil

theorem named_cons {key part : Numbered} {entries : List (Numbered × Numbered)}
    {named : Keyed Numbered} {price : Nat} :
    Named targets ((key, part) :: entries) named price ↔
      ∃ name first more second, Costs targets (readText key) name first ∧
        Named targets entries more second ∧ named = (name, part) :: more ∧
        first + second = price := by
  constructor
  · intro h
    cases h with
    | cons hname hnamed => exact ⟨_, _, _, _, hname, hnamed, rfl, rfl⟩
  · rintro ⟨name, first, more, second, hname, hnamed, rfl, rfl⟩
    exact .cons hname hnamed

/-- In whatever order entries stand, they say the same and cost the same. -/
theorem Named.of_perm {entries others : List (Numbered × Numbered)} {named : Keyed Numbered}
    {price : Nat} (h : Named targets entries named price) (hperm : entries.Perm others) :
    ∃ whole, Named targets others whole price ∧ named.Perm whole := by
  induction hperm generalizing named price with
  | nil => exact ⟨named, h, .refl _⟩
  | cons entry _ ih =>
    obtain ⟨name, first, more, second, hname, hmore, rfl, rfl⟩ := named_cons.1 h
    obtain ⟨whole, hwhole, hperm⟩ := ih hmore
    exact ⟨_, .cons hname hwhole, hperm.cons _⟩
  | swap entry other rest =>
    obtain ⟨name, first, _, _, hname, hrest, rfl, rfl⟩ := named_cons.1 h
    obtain ⟨next, second, more, third, hnext, hmore, rfl, rfl⟩ := named_cons.1 hrest
    refine ⟨_, ?_, .swap _ _ more⟩
    rw [Nat.add_left_comm]
    exact .cons hnext (.cons hname hmore)
  | trans _ _ ih ih' =>
    obtain ⟨whole, hwhole, hperm⟩ := ih h
    obtain ⟨last, hlast, hperm'⟩ := ih' hwhole
    exact ⟨last, hlast, hperm.trans hperm'⟩

/-- A name that no key has is no name of entries. -/
theorem Named.ne_name {entries : List (Numbered × Numbered)} {named : Keyed Numbered}
    {price : Nat} {name : String} (h : Named targets entries named price)
    (hfresh : ∀ entry ∈ entries, ∀ price, ¬Costs targets (readText entry.1) name price) :
    ∀ entry ∈ named, entry.1 ≠ name := by
  induction h with
  | nil => exact List.forall_mem_nil _
  | @cons key part other first second entries named hother _ ih =>
    obtain ⟨hkey, hrest⟩ := List.forall_mem_cons.1 hfresh
    refine List.forall_mem_cons.2 ⟨?_, ih hrest⟩
    rintro rfl
    exact hkey first hother

/-- A plain scalar. -/
def plain (text : String) : Numbered := .scalar ⟨none, none⟩ text.toList .plain

/-- A mapping with plain keys. -/
def mappingOf (named : Keyed Numbered) : Numbered :=
  .mapping ⟨none, none⟩ (named.map fun entry => (plain entry.1, entry.2))

theorem costs_readText_plain {text other : String} {price : Nat} :
    Costs targets (readText (plain text)) other price ↔ other = text ∧ price = 0 := by
  change Costs targets (pure (String.ofList text.toList) : Reading String) other price ↔ _
  rw [costs_pure, String.ofList_toList]

/-- A mapping with plain keys says what it is made of. -/
theorem says_mappingOf {named others : Keyed Numbered} {price : Nat} :
    Says targets (mappingOf named) others price ↔ others = named ∧ price = 0 := by
  unfold mappingOf
  rw [says_mapping]
  induction named generalizing others price with
  | nil => exact named_nil
  | cons entry rest ih =>
    rw [List.map_cons, named_cons]
    simp only [ih, costs_readText_plain]
    constructor
    · rintro ⟨_, _, _, _, ⟨rfl, rfl⟩, ⟨rfl, rfl⟩, rfl, rfl⟩
      exact ⟨rfl, rfl⟩
    · rintro ⟨rfl, rfl⟩
      exact ⟨_, _, _, _, ⟨rfl, rfl⟩, ⟨rfl, rfl⟩, rfl, rfl⟩

/-! ## Selecting fields -/

/-- An entry is selected under a name that is known and new, and passed over under one that is not
known. -/
theorem costs_selectFields_cons_iff {names seen : List String} {key part : Numbered}
    {rest : List (Numbered × Numbered)} {parts : Keyed Numbered} {price : Nat} :
    Costs targets (selectFields names seen ((key, part) :: rest)) parts price ↔
      ∃ name first second, Costs targets (readText key) name first ∧
        (if name ∈ names then name ∉ seen ∧
          ∃ more, Costs targets (selectFields names (name :: seen) rest) more second ∧
            parts = (name, part) :: more
        else Costs targets (selectFields names seen rest) parts second) ∧
        first + second = price := by
  rw [selectFields, costs_bind_iff]
  refine exists_congr fun name => exists_congr fun first => exists_congr fun second => ?_
  refine and_congr_right fun _ => and_congr_left fun _ => ?_
  simp only [List.contains_eq_mem, decide_eq_true_eq]
  by_cases hknown : name ∈ names
  · rw [if_pos hknown, if_pos hknown]
    by_cases hseen : name ∈ seen
    · simp [hseen, not_costs_refuse]
    · simp only [hseen, not_false_eq_true, true_and, if_false, costs_bind_iff, costs_pure]
      constructor
      · rintro ⟨more, _, _, hmore, ⟨rfl, rfl⟩, rfl⟩
        exact ⟨more, hmore, rfl⟩
      · rintro ⟨more, hmore, rfl⟩
        exact ⟨more, second, 0, hmore, ⟨rfl, rfl⟩, rfl⟩
  · rw [if_neg hknown, if_neg hknown]

/-- What is selected from a mapping is what stands under known names, if none of them comes back. -/
theorem costs_selectFields_iff {names seen : List String} {entries : List (Numbered × Numbered)}
    {parts : Keyed Numbered} {price : Nat} :
    Costs targets (selectFields names seen entries) parts price ↔
      ∃ named, Named targets entries named price ∧ named.Once names ∧
        (∀ entry ∈ named, entry.1 ∈ names → entry.1 ∉ seen) ∧
        parts = Json.knownEntries names named := by
  -- Each known name that is selected has been seen by the rest.
  induction entries generalizing seen parts price with
  | nil =>
    simp only [selectFields, costs_pure, named_nil]
    constructor
    · rintro ⟨rfl, rfl⟩
      exact ⟨[], ⟨rfl, rfl⟩, Keyed.ordered_nil.once _, List.forall_mem_nil _, rfl⟩
    · rintro ⟨_, ⟨rfl, rfl⟩, -, -, rfl⟩
      exact ⟨rfl, rfl⟩
  | cons entry rest ih =>
    obtain ⟨key, part⟩ := entry
    rw [costs_selectFields_cons_iff]
    constructor
    · rintro ⟨name, first, second, hname, hrest, rfl⟩
      by_cases hknown : name ∈ names
      · rw [if_pos hknown] at hrest
        obtain ⟨hseen, _, hmore, rfl⟩ := hrest
        obtain ⟨named, hnamed, honce, hfresh, rfl⟩ := ih.1 hmore
        have hother : ∀ entry ∈ named, entry.1 ≠ name := by
          rintro entry hentry rfl
          exact hfresh entry hentry hknown List.mem_cons_self
        refine ⟨(name, part) :: named, .cons hname hnamed,
          (Keyed.once_cons_of_mem hknown).2 ⟨hother, honce⟩, ?_, ?_⟩
        · refine List.forall_mem_cons.2 ⟨fun _ => hseen, fun entry hentry hmem hold => ?_⟩
          exact hfresh entry hentry hmem (List.mem_cons_of_mem _ hold)
        · simp [Json.knownEntries, hknown]
      · rw [if_neg hknown] at hrest
        obtain ⟨named, hnamed, honce, hfresh, rfl⟩ := ih.1 hrest
        refine ⟨(name, part) :: named, .cons hname hnamed,
          (Keyed.once_cons_of_not_mem hknown).2 honce, ?_, ?_⟩
        · exact List.forall_mem_cons.2 ⟨fun hmem => absurd hmem hknown, hfresh⟩
        · simp [Json.knownEntries, hknown]
    · rintro ⟨_, hall, honce, hfresh, rfl⟩
      obtain ⟨name, first, named, second, hname, hnamed, rfl, rfl⟩ := named_cons.1 hall
      obtain ⟨hseen, hfresh⟩ := List.forall_mem_cons.1 hfresh
      refine ⟨name, first, second, hname, ?_, rfl⟩
      by_cases hknown : name ∈ names
      · obtain ⟨hother, honce⟩ := (Keyed.once_cons_of_mem hknown).1 honce
        rw [if_pos hknown]
        refine ⟨hseen hknown, _, ih.2 ⟨named, hnamed, honce, fun entry hentry hmem => ?_, rfl⟩, ?_⟩
        · simp [hother entry hentry, hfresh entry hentry hmem]
        · simp [Json.knownEntries, hknown]
      · rw [if_neg hknown]
        refine ih.2 ⟨named, hnamed, (Keyed.once_cons_of_not_mem hknown).1 honce, hfresh, ?_⟩
        simp [Json.knownEntries, hknown]

/-- The parts of a structure are what its block says under known names. -/
theorem costs_readStructure_iff {names : List String} {node : Numbered} {parts : Keyed Numbered}
    {price : Nat} : Costs targets (readStructure names node) parts price ↔
      ∃ named, Says targets node named price ∧ named.Once names ∧
        parts = Json.knownEntries names named := by
  refine (@costs_bind_iff _ _ _ _ _ _ _ (priced_partsOf names) _).trans ?_
  constructor
  · rintro ⟨content, first, second, hcontent, hparts, rfl⟩
    cases content with
    | «alias» number => exact absurd hparts not_costs_refuse
    | scalar p text style =>
      simp only at hparts
      split at hparts
      · next hempty =>
        obtain ⟨rfl, rfl⟩ := costs_pure.1 hparts
        exact ⟨[], ⟨_, first, 0, hcontent, .nothing hempty, rfl⟩, Keyed.ordered_nil.once _, rfl⟩
      · exact absurd hparts not_costs_refuse
    | sequence p items => exact absurd hparts not_costs_refuse
    | mapping p entries =>
      obtain ⟨named, hnamed, honce, -, rfl⟩ := costs_selectFields_iff.1 hparts
      exact ⟨named, ⟨_, first, second, hcontent, .mapping hnamed, rfl⟩, honce, rfl⟩
  · rintro ⟨named, ⟨content, first, second, hcontent, hsaid, rfl⟩, honce, rfl⟩
    refine ⟨content, first, second, hcontent, ?_, rfl⟩
    cases hsaid with
    | mapping hnamed =>
      exact costs_selectFields_iff.2 ⟨named, hnamed, honce, fun _ _ _ => List.not_mem_nil, rfl⟩
    | nothing hempty =>
      simp only [hempty, if_true]
      exact costs_pure.2 ⟨rfl, rfl⟩

/-! ## Records -/

/-- A setting of a record: the field it is read from, and where the record has it. -/
structure BlockSetting (σ : Type) where
  {τ : Type}
  field : FieldSpec τ
  content : σ → τ
  priced (node : Numbered) : Priced (field.read node)

instance (setting : BlockSetting σ) (parts : Keyed Numbered) : Priced (setting.field.get parts) :=
  have := setting.priced
  FieldSpec.priced_get setting.field parts

/-- The names of the fields of a record. -/
def fieldNames (settings : List (BlockSetting σ)) : List String := settings.map (·.field.name)

/-- These parts give the settings of a record, and their prices add up. -/
def CostsRecord (targets : Targets) (parts : Keyed Numbered) (record : σ) :
    List (BlockSetting σ) → Nat → Prop
  | [], price => price = 0
  | setting :: rest, price =>
    ∃ first second, Costs targets (setting.field.get parts) (setting.content record) first ∧
      CostsRecord targets parts record rest second ∧ first + second = price

/-- A record is read from the fields of a block. -/
structure ReadsRecord (read : Numbered → Reading σ) (settings : List (BlockSetting σ)) : Prop where
  priced (node : Numbered) : Priced (read node)
  costs_iff {targets : Targets} {node : Numbered} {record : σ} {price : Nat} :
    Costs targets (read node) record price ↔ ∃ parts first second,
      Costs targets (readStructure (fieldNames settings) node) parts first ∧
        CostsRecord targets parts record settings second ∧ first + second = price

/-- One field after the other is read for the settings of a record. What is known of the record from
the fields before comes first. -/
theorem costsRecord_cons_iff {parts : Keyed Numbered} {record : σ} {setting : BlockSetting σ}
    {rest : List (BlockSetting σ)} {next : setting.τ → Reading σ} {p : Prop} {price : Nat}
    [∀ value, Priced (next value)] (h : ∀ value second,
      (p ∧ setting.content record = value) ∧ CostsRecord targets parts record rest second ↔
        Costs targets (next value) record second) :
    p ∧ CostsRecord targets parts record (setting :: rest) price ↔
      Costs targets (setting.field.get parts >>= next) record price := by
  rw [costs_bind_iff]
  simp only [CostsRecord, ← h]
  constructor
  · rintro ⟨hp, first, second, hfirst, hsecond, rfl⟩
    exact ⟨_, first, second, hfirst, ⟨⟨hp, rfl⟩, hsecond⟩, rfl⟩
  · rintro ⟨_, first, second, hfirst, ⟨⟨hp, rfl⟩, hsecond⟩, rfl⟩
    exact ⟨hp, first, second, hfirst, hsecond, rfl⟩

theorem readsRecord_of_next {read : Numbered → Reading σ} {settings : List (BlockSetting σ)}
    {next : Keyed Numbered → Reading σ} [∀ parts, Priced (next parts)]
    (hread : ∀ node, read node = readStructure (fieldNames settings) node >>= next)
    (hnext : ∀ {targets parts record price},
      True ∧ CostsRecord targets parts record settings price ↔
        Costs targets (next parts) record price) : ReadsRecord read settings where
  priced node := by
    rw [hread]
    infer_instance
  costs_iff {targets node record price} := by
    rw [hread, costs_bind_iff]
    simp only [← hnext, true_and]

theorem get_congr {field : FieldSpec τ} {parts others : Keyed Numbered}
    (h : Keyed.get? parts field.name = Keyed.get? others field.name) :
    field.get parts = field.get others := by
  unfold Keyed.get? at h
  unfold FieldSpec.get
  rw [h]

theorem costsRecord_congr {settings : List (BlockSetting σ)} {parts others : Keyed Numbered}
    {record : σ} {price : Nat} (h : ∀ setting ∈ settings,
      Alike targets (setting.field.get parts) (setting.field.get others)) :
    CostsRecord targets parts record settings price ↔
      CostsRecord targets others record settings price := by
  induction settings generalizing price with
  | nil => rfl
  | cons setting rest ih =>
    obtain ⟨hsetting, hrest⟩ := List.forall_mem_cons.1 h
    simp only [CostsRecord, hsetting _ _, ih hrest]

/-- A record costs at least what each of its settings costs. -/
theorem CostsRecord.setting {settings : List (BlockSetting σ)} {parts : Keyed Numbered}
    {record : σ} {price : Nat} (h : CostsRecord targets parts record settings price) :
    ∀ setting ∈ settings, ∃ first ≤ price,
      Costs targets (setting.field.get parts) (setting.content record) first := by
  induction settings generalizing price with
  | nil => exact List.forall_mem_nil _
  | cons setting rest ih =>
    obtain ⟨first, second, hfirst, hsecond, rfl⟩ := h
    refine List.forall_mem_cons.2 ⟨⟨first, Nat.le_add_right _ _, hfirst⟩, fun other hother => ?_⟩
    obtain ⟨price, hprice, hcosts⟩ := ih hsecond other hother
    exact ⟨price, by omega, hcosts⟩

theorem costsRecord_zero {settings : List (BlockSetting σ)} {parts : Keyed Numbered} {record : σ}
    (h : ∀ setting ∈ settings,
      Costs targets (setting.field.get parts) (setting.content record) 0) :
    CostsRecord targets parts record settings 0 := by
  induction settings with
  | nil => rfl
  | cons setting rest ih =>
    obtain ⟨hsetting, hrest⟩ := List.forall_mem_cons.1 h
    exact ⟨0, 0, hsetting, ih hrest, rfl⟩

section

variable {read : Numbered → Reading σ} {settings : List (BlockSetting σ)} {node : Numbered}
  {record : σ} {price : Nat}

/-- A record costs what it takes to find out what its block says, and what its settings cost. -/
theorem ReadsRecord.costs_block_iff (h : ReadsRecord read settings) :
    Costs targets (read node) record price ↔ ∃ named first second,
      Says targets node named first ∧ named.Once (fieldNames settings) ∧
        CostsRecord targets named record settings second ∧ first + second = price := by
  have hknown (named : Keyed Numbered) (second : Nat) :
      CostsRecord targets (Json.knownEntries (fieldNames settings) named) record settings second ↔
        CostsRecord targets named record settings second := by
    refine costsRecord_congr fun setting hsetting value price => ?_
    have hname : setting.field.name ∈ fieldNames settings := List.mem_map_of_mem hsetting
    rw [get_congr (Json.get?_knownEntries hname named)]
  rw [h.costs_iff]
  simp only [costs_readStructure_iff]
  constructor
  · rintro ⟨_, first, second, ⟨named, hsaid, honce, rfl⟩, hrecord, rfl⟩
    exact ⟨named, first, second, hsaid, honce, (hknown _ _).1 hrecord, rfl⟩
  · rintro ⟨named, first, second, hsaid, honce, hrecord, rfl⟩
    exact ⟨_, first, second, ⟨named, hsaid, honce, rfl⟩, (hknown _ _).2 hrecord, rfl⟩

/-- **What is read from a block is what it says.** -/
theorem ReadsRecord.says_of_read (h : ReadsRecord read settings)
    (hread : document.read (read node) = some record) :
    ∃ named price, Says document.targets node named price ∧ named.Once (fieldNames settings) ∧
      ∀ setting ∈ settings,
        document.read (setting.field.get named) = some (setting.content record) := by
  have := h.priced
  obtain ⟨price, hprice, hroom⟩ := read_eq_some_iff.1 hread
  obtain ⟨named, first, second, hsaid, honce, hrecord, rfl⟩ := h.costs_block_iff.1 hprice
  refine ⟨named, first, hsaid, honce, fun setting hsetting => ?_⟩
  obtain ⟨third, hthird, hcosts⟩ := hrecord.setting setting hsetting
  exact read_eq_some_iff.2 ⟨third, hcosts, by omega⟩

/-- **Without anchored nodes everything is read that a block says.** -/
theorem ReadsRecord.read_iff (h : ReadsRecord read settings) (htargets : document.targets = []) :
    document.read (read node) = some record ↔
      ∃ named price, Says document.targets node named price ∧ named.Once (fieldNames settings) ∧
        ∀ setting ∈ settings,
          document.read (setting.field.get named) = some (setting.content record) := by
  have := h.priced
  refine ⟨h.says_of_read, ?_⟩
  rintro ⟨named, price, hsaid, honce, hsettings⟩
  have hrecord : CostsRecord document.targets named record settings 0 := by
    refine costsRecord_zero fun setting hsetting => ?_
    rw [htargets]
    exact (read_eq_some_iff_of_free htargets).1 (hsettings setting hsetting)
  have hcosts := h.costs_block_iff.2 ⟨named, price, 0, hsaid, honce, hrecord, rfl⟩
  rw [htargets] at hcosts
  have hprice := (h.priced node).free hcosts
  rw [hprice] at hcosts
  exact (read_eq_some_iff_of_free htargets).2 hcosts

end

/-! ## Writing out -/

/-- An entry says no more than the default of the setting with its name, and follows no alias. -/
def SaysDefault (targets : Targets) (settings : List (BlockSetting σ)) (name : String)
    (part : Numbered) : Prop :=
  ∀ setting ∈ settings, setting.field.name = name → ∃ value,
    setting.field.fallback = some value ∧ Costs targets (setting.field.read part) value 0

/-- Two parts are read alike by the setting with this name. -/
def AlikeUnder (targets : Targets) (settings : List (BlockSetting σ)) (name : String)
    (part other : Numbered) : Prop :=
  ∀ setting ∈ settings, setting.field.name = name →
    Alike targets (setting.field.read part) (setting.field.read other)

/-- A block in which more is written out than in another. A default may be written out where
nothing is said about its setting, and so may anything under a name that nobody knows. Entries may
be reordered, what stands under a name may be exchanged for something that is no smaller and read
alike, and an empty block may be written as a mapping. -/
inductive WrittenOut (targets : Targets) (settings : List (BlockSetting σ)) :
    Numbered → Numbered → Prop
  | refl (node : Numbered) : WrittenOut targets settings node node
  | trans {node other last : Numbered} : WrittenOut targets settings node other →
    WrittenOut targets settings other last → WrittenOut targets settings node last
  | nothing {p q : Properties} {text : List Char} {style : Style} :
    isEmptyPlain text style = true →
      WrittenOut targets settings (.scalar p text style) (.mapping q [])
  | reorder {p : Properties} {entries others : List (Numbered × Numbered)} :
    entries.Perm others →
      WrittenOut targets settings (.mapping p entries) (.mapping p others)
  | add {p : Properties} {key part : Numbered} {name : String}
    {entries : List (Numbered × Numbered)} : Costs targets (readText key) name 0 →
      (name ∈ fieldNames settings → ∀ entry ∈ entries, ∀ price,
        ¬Costs targets (readText entry.1) name price) →
      SaysDefault targets settings name part →
      WrittenOut targets settings (.mapping p entries) (.mapping p ((key, part) :: entries))
  | exchange {p : Properties} {key part other : Numbered}
    {entries : List (Numbered × Numbered)} :
    (∀ name price, Costs targets (readText key) name price →
      AlikeUnder targets settings name part other) → part.weight ≤ other.weight →
      WrittenOut targets settings (.mapping p ((key, part) :: entries))
        (.mapping p ((key, other) :: entries))

/-- An entry spells out the default of a setting. -/
def SpellsDefault (targets : Targets) (setting : BlockSetting σ) (entry : String × Numbered) :
    Prop :=
  entry.1 = setting.field.name ∧ ∃ value, setting.field.fallback = some value ∧
    Costs targets (setting.field.read entry.2) value 0

theorem names_of_spellsDefault {fields : List (BlockSetting σ)} {spelledOut : Keyed Numbered}
    (h : List.Forall₂ (SpellsDefault targets) fields spelledOut) :
    spelledOut.map Prod.fst = fieldNames fields := by
  induction h with
  | nil => rfl
  | cons hhead _ ih => exact congrArg₂ List.cons hhead.1 ih

theorem saysDefault_of_spellsDefault {fields : List (BlockSetting σ)}
    {spelledOut : Keyed Numbered} (hnodup : (fieldNames fields).Nodup)
    (h : List.Forall₂ (SpellsDefault targets) fields spelledOut) :
    ∀ entry ∈ spelledOut, SaysDefault targets fields entry.1 entry.2 := by
  intro entry hentry setting hsetting hname
  obtain ⟨i, hi, rfl⟩ := List.mem_iff_getElem.1 hentry
  have hlength := h.length_eq
  have hspells := h.get (by omega) hi
  simp only [List.get_eq_getElem] at hspells
  have heq : setting = fields[i] := by
    apply List.inj_on_of_nodup_map hnodup hsetting (List.getElem_mem _)
    exact hname.trans hspells.1
  subst heq
  exact hspells.2

theorem WrittenOut.exchange_of_name {settings : List (BlockSetting σ)} {p : Properties}
    {key part other : Numbered} {entries : List (Numbered × Numbered)} {name : String} {price : Nat}
    (hname : Costs targets (readText key) name price)
    (halike : AlikeUnder targets settings name part other) (hweight : part.weight ≤ other.weight) :
    WrittenOut targets settings (.mapping p ((key, part) :: entries))
      (.mapping p ((key, other) :: entries)) := by
  refine .exchange (fun same price hsame => ?_) hweight
  rwa [(hname.unique hsame).1]

theorem weightOfEntries_perm {entries others : List (Numbered × Numbered)}
    (h : entries.Perm others) : weightOfEntries entries = weightOfEntries others := by
  induction h with
  | nil => rfl
  | cons entry _ ih => simp only [weightOfEntries, ih]
  | swap entry other rest =>
    simp only [weightOfEntries]
    omega
  | trans _ _ ih ih' => exact ih.trans ih'

/-- What is written out takes room. -/
theorem WrittenOut.weight_le {settings : List (BlockSetting σ)} {node other : Numbered}
    (h : WrittenOut targets settings node other) : node.weight ≤ other.weight := by
  induction h with
  | refl node => exact Nat.le_refl _
  | trans _ _ ih ih' => exact Nat.le_trans ih ih'
  | nothing _ => simp [weight]
  | reorder hperm => simp [weight, weightOfEntries_perm hperm]
  | add _ _ _ => simp [weight, weightOfEntries]
  | exchange _ hweight => simp [weight, weightOfEntries, hweight]

/-- Two blocks give the same parts to settings that are read from them. -/
def GiveAlike (targets : Targets) (settings : List (BlockSetting σ))
    (named others : Keyed Numbered) : Prop :=
  (named.Once (fieldNames settings) ↔ others.Once (fieldNames settings)) ∧
    (named.Once (fieldNames settings) → ∀ setting ∈ settings,
      Alike targets (setting.field.get named) (setting.field.get others))

section

variable {settings : List (BlockSetting σ)} {named others : Keyed Numbered}

theorem GiveAlike.symm (h : GiveAlike targets settings named others) :
    GiveAlike targets settings others named := by
  refine ⟨h.1.symm, fun honce setting hsetting value price => ?_⟩
  exact (h.2 (h.1.2 honce) setting hsetting value price).symm

theorem giveAlike_of_perm (hperm : named.Perm others) :
    GiveAlike targets settings named others := by
  refine ⟨Keyed.once_perm_iff hperm, fun honce setting hsetting value price => ?_⟩
  have hname : setting.field.name ∈ fieldNames settings := List.mem_map_of_mem hsetting
  rw [get_congr (honce.get?_of_perm hperm hname)]

/-- A default shows no more than nothing does. -/
theorem giveAlike_cons {name : String} {part : Numbered}
    (hfresh : name ∈ fieldNames settings → ∀ entry ∈ named, entry.1 ≠ name)
    (hpart : SaysDefault targets settings name part) :
    GiveAlike targets settings named ((name, part) :: named) := by
  constructor
  · by_cases hknown : name ∈ fieldNames settings
    · rw [Keyed.once_cons_of_mem hknown, and_iff_right (hfresh hknown)]
    · rw [Keyed.once_cons_of_not_mem hknown]
  · intro _ setting hsetting
    -- The entry stands for the default under its own name, and nobody else looks at it.
    by_cases hname : setting.field.name = name
    · obtain ⟨value, hfallback, hvalue⟩ := hpart setting hsetting hname
      have hknown : name ∈ fieldNames settings := hname ▸ List.mem_map_of_mem hsetting
      have hnone : named.lookup setting.field.name = none := by
        apply Keyed.get?_eq_none_iff.2
        rw [hname]
        exact hfresh hknown
      have hsome : ((name, part) :: named).lookup setting.field.name = some part := by
        simp [hname]
      have hdefault : setting.field.get named = pure value := by
        simp only [FieldSpec.get, hnone, hfallback]
      have hread : setting.field.get ((name, part) :: named) = setting.field.read part := by
        simp only [FieldSpec.get, hsome]
      intro content price
      rw [hdefault, hread, costs_pure]
      constructor
      · rintro ⟨rfl, rfl⟩
        exact hvalue
      · intro hcontent
        exact hvalue.unique hcontent
    · intro content price
      have hget : Keyed.get? ((name, part) :: named) setting.field.name =
          Keyed.get? named setting.field.name := (Keyed.get?_cons _ _ _ _).trans (if_neg hname)
      rw [get_congr hget]

theorem giveAlike_exchange {name : String} {part other : Numbered}
    (h : AlikeUnder targets settings name part other) :
    GiveAlike targets settings ((name, part) :: named) ((name, other) :: named) := by
  constructor
  · simp only [Keyed.Once, List.map_cons]
  · intro _ setting hsetting
    by_cases hname : setting.field.name = name
    · have hget (node : Numbered) :
          setting.field.get ((name, node) :: named) = setting.field.read node := by
        simp [FieldSpec.get, hname]
      rw [hget, hget]
      exact h setting hsetting hname
    · intro content price
      have hget (node : Numbered) : Keyed.get? ((name, node) :: named) setting.field.name =
          Keyed.get? named setting.field.name := (Keyed.get?_cons _ _ _ _).trans (if_neg hname)
      rw [get_congr ((hget part).trans (hget other).symm)]

end

/-- Two blocks say alike: whatever one of them says, the other one says something at the same price
that gives the same. -/
def SayAlike (targets : Targets) (settings : List (BlockSetting σ)) (node other : Numbered) :
    Prop :=
  (∀ named price, Says targets node named price →
    ∃ others, Says targets other others price ∧ GiveAlike targets settings named others) ∧
  ∀ others price, Says targets other others price →
    ∃ named, Says targets node named price ∧ GiveAlike targets settings named others

section

variable {settings : List (BlockSetting σ)} {p q : Properties} {key part other : Numbered}
  {entries others : List (Numbered × Numbered)}

theorem sayAlike_nothing {text : List Char} {style : Style}
    (h : isEmptyPlain text style = true) :
    SayAlike targets settings (.scalar p text style) (.mapping q []) := by
  have hsame {named : Keyed Numbered} {price : Nat} :
      Says targets (.scalar p text style) named price ↔
        Says targets (.mapping q []) named price := by
    rw [says_nothing h, says_mapping, named_nil]
  constructor
  · intro named price hnamed
    exact ⟨named, hsame.1 hnamed, giveAlike_of_perm (.refl _)⟩
  · intro others price hothers
    exact ⟨others, hsame.2 hothers, giveAlike_of_perm (.refl _)⟩

theorem sayAlike_of_perm (hperm : entries.Perm others) :
    SayAlike targets settings (.mapping p entries) (.mapping p others) := by
  simp only [SayAlike, says_mapping]
  constructor
  · intro named price hnamed
    obtain ⟨whole, hwhole, hnames⟩ := hnamed.of_perm hperm
    exact ⟨whole, hwhole, giveAlike_of_perm hnames⟩
  · intro whole price hwhole
    obtain ⟨named, hnamed, hnames⟩ := hwhole.of_perm hperm.symm
    exact ⟨named, hnamed, giveAlike_of_perm hnames.symm⟩

theorem sayAlike_add {name : String} (hname : Costs targets (readText key) name 0)
    (hfresh : name ∈ fieldNames settings → ∀ entry ∈ entries, ∀ price,
      ¬Costs targets (readText entry.1) name price)
    (hpart : SaysDefault targets settings name part) :
    SayAlike targets settings (.mapping p entries) (.mapping p ((key, part) :: entries)) := by
  have hgive {named : Keyed Numbered} {price : Nat} (hnamed : Named targets entries named price) :
      GiveAlike targets settings named ((name, part) :: named) :=
    giveAlike_cons (fun hknown => hnamed.ne_name (hfresh hknown)) hpart
  simp only [SayAlike, says_mapping]
  constructor
  · intro named price hnamed
    refine ⟨(name, part) :: named, ?_, hgive hnamed⟩
    rw [← Nat.zero_add price]
    exact .cons hname hnamed
  · intro others price hothers
    obtain ⟨same, first, named, second, hsame, hnamed, rfl, rfl⟩ := named_cons.1 hothers
    obtain ⟨rfl, rfl⟩ := hname.unique hsame
    rw [Nat.zero_add]
    exact ⟨named, hnamed, hgive hnamed⟩

theorem sayAlike_exchange (h : ∀ name price, Costs targets (readText key) name price →
    AlikeUnder targets settings name part other) :
    SayAlike targets settings (.mapping p ((key, part) :: entries))
      (.mapping p ((key, other) :: entries)) := by
  simp only [SayAlike, says_mapping]
  constructor
  · intro named price hnamed
    obtain ⟨name, first, more, second, hname, hmore, rfl, rfl⟩ := named_cons.1 hnamed
    exact ⟨_, .cons hname hmore, giveAlike_exchange (h name first hname)⟩
  · intro others price hothers
    obtain ⟨name, first, more, second, hname, hmore, rfl, rfl⟩ := named_cons.1 hothers
    exact ⟨_, .cons hname hmore, giveAlike_exchange (h name first hname)⟩

end

section

variable {settings : List (BlockSetting σ)} {read : Numbered → Reading σ} {node other : Numbered}

/-- A record that can be read from one block can be read from another one that gives alike what the
first one says. -/
theorem ReadsRecord.costs_of_giveAlike (h : ReadsRecord read settings) {record : σ} {price : Nat}
    (hsaid : ∀ named price, Says targets node named price → ∃ others,
      Says targets other others price ∧ GiveAlike targets settings named others)
    (hrecord : Costs targets (read node) record price) :
    Costs targets (read other) record price := by
  obtain ⟨named, first, second, hnamed, honce, hsettings, rfl⟩ := h.costs_block_iff.1 hrecord
  obtain ⟨others, hothers, halike⟩ := hsaid named first hnamed
  refine h.costs_block_iff.2 ⟨others, first, second, hothers, halike.1.1 honce, ?_, rfl⟩
  exact (costsRecord_congr (halike.2 honce)).1 hsettings

theorem ReadsRecord.alike_of_sayAlike (h : ReadsRecord read settings)
    (hsay : SayAlike targets settings node other) : Alike targets (read node) (read other) := by
  intro record price
  constructor
  · apply h.costs_of_giveAlike
    exact hsay.1
  · apply h.costs_of_giveAlike
    intro others price hothers
    obtain ⟨named, hnamed, halike⟩ := hsay.2 others price hothers
    exact ⟨named, hnamed, halike.symm⟩

/-- **Writing out defaults changes neither a record nor its price.** -/
theorem ReadsRecord.alike_of_writtenOut (h : ReadsRecord read settings)
    (hwritten : WrittenOut targets settings node other) :
    Alike targets (read node) (read other) := by
  induction hwritten with
  | refl node => exact fun _ _ => Iff.rfl
  | trans _ _ ih ih' => exact fun value price => (ih value price).trans (ih' value price)
  | nothing hempty => exact h.alike_of_sayAlike (sayAlike_nothing hempty)
  | reorder hperm => exact h.alike_of_sayAlike (sayAlike_of_perm hperm)
  | add hname hfresh hpart => exact h.alike_of_sayAlike (sayAlike_add hname hfresh hpart)
  | exchange halike _ => exact h.alike_of_sayAlike (sayAlike_exchange halike)

end

end TokenSync.Yaml
