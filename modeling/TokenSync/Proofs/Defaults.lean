import Mathlib.Logic.Relator
import TokenSync.Config.TokenSpec
import TokenSync.Proofs.KeyOrder

/-!
# Settings and their defaults

Settings are given by the entries of a document: what stands under the name of a setting counts, and
a setting without an entry has its default. So neither the order of the entries nor those that
nobody knows matter, and an entry that says the default may as well be left out. How plain data is
read from the parts of a document is left open here.
-/
namespace TokenSync

variable {α τ σ : Type}

/-! ## One setting -/

/-- A setting is read from what stands under its name, and is the default if nothing does. -/
def HasSetting (reads : α → τ → Prop) (entries : Keyed α) (name : String) (fallback content : τ) :
    Prop :=
  match entries.get? name with
  | some part => reads part content
  | none => content = fallback

section

variable {reads : α → τ → Prop} {names : List String} {entries further whole : Keyed α}
  {name : String} {part : α} {fallback content : τ}

theorem hasSetting_of_some (h : entries.get? name = some part) :
    HasSetting reads entries name fallback content ↔ reads part content := by
  simp [HasSetting, h]

theorem hasSetting_of_none (h : entries.get? name = none) :
    HasSetting reads entries name fallback content ↔ content = fallback := by
  simp [HasSetting, h]

theorem hasSetting_nil : HasSetting reads [] name fallback content ↔ content = fallback :=
  hasSetting_of_none rfl

theorem hasSetting_congr {others : Keyed α} (h : entries.get? name = others.get? name) :
    HasSetting reads entries name fallback content ↔
      HasSetting reads others name fallback content := by
  simp [HasSetting, h]

theorem hasSetting_single : HasSetting reads [(name, part)] name fallback content ↔
    reads part content := hasSetting_of_some (by simp [Keyed.get?_cons])

/-- A setting can be read if and only if it can be read from each entry alone. -/
theorem exists_hasSetting_iff (honce : entries.Once names) (hname : name ∈ names) :
    (∃ content, HasSetting reads entries name fallback content) ↔
      ∀ entry ∈ entries, ∃ content, HasSetting reads [entry] name fallback content := by
  constructor
  · intro ⟨content, hcontent⟩ ⟨key, part⟩ hentry
    by_cases hkey : key = name
    · subst hkey
      rw [hasSetting_of_some (honce.get?_of_mem hname hentry)] at hcontent
      exact ⟨content, hasSetting_single.2 hcontent⟩
    · exact ⟨fallback, (hasSetting_of_none (by simp [Keyed.get?_cons, Ne.symm hkey])).2 rfl⟩
  · intro h
    cases hget : entries.get? name with
    | none => exact ⟨fallback, (hasSetting_of_none hget).2 rfl⟩
    | some part =>
      obtain ⟨content, hcontent⟩ := h (name, part) (Keyed.mem_of_get?_eq_some hget)
      exact ⟨content, (hasSetting_of_some hget).2 (hasSetting_single.1 hcontent)⟩

/-- Entries that say the default, or nothing about the setting, may be added anywhere. -/
theorem hasSetting_padded (hreads : Relator.RightUnique reads) (hname : name ∈ names)
    (hperm : whole.Perm (further ++ entries)) (honce : whole.Once names)
    (hfurther : ∀ entry ∈ further, HasSetting reads [entry] name fallback fallback) :
    HasSetting reads whole name fallback content ↔
      HasSetting reads entries name fallback content := by
  cases hwhole : whole.get? name with
  | none =>
    rw [Keyed.get?_eq_none_iff] at hwhole
    have hget : entries.get? name = none := by
      rw [Keyed.get?_eq_none_iff]
      intro entry hentry
      exact hwhole entry (hperm.mem_iff.2 (List.mem_append_right _ hentry))
    rw [hasSetting_of_none (Keyed.get?_eq_none_iff.2 hwhole), hasSetting_of_none hget]
  | some part =>
    rw [hasSetting_of_some hwhole]
    cases hget : entries.get? name with
    | some other =>
      have hmem : (name, other) ∈ whole :=
        hperm.mem_iff.2 (List.mem_append_right _ (Keyed.mem_of_get?_eq_some hget))
      have hsome : whole.get? name = some other := honce.get?_of_mem hname hmem
      rw [hasSetting_of_some hget, Option.some.inj (hwhole.symm.trans hsome)]
    | none =>
      rw [hasSetting_of_none hget]
      have hmem : (name, part) ∈ further := by
        have hmem := hperm.mem_iff.1 (Keyed.mem_of_get?_eq_some hwhole)
        refine (List.mem_append.1 hmem).resolve_right fun hentry => ?_
        exact (Keyed.get?_eq_none_iff.1 hget) (name, part) hentry rfl
      have hdefault : reads part fallback := hasSetting_single.1 (hfurther _ hmem)
      constructor
      · intro hcontent
        exact hreads hcontent hdefault
      · rintro rfl
        exact hdefault

end

/-! ## Records of settings -/

/-- One setting of a record: how it is read, its name and its default, and where the record has
it. -/
structure Setting (α σ : Type) where
  {τ : Type}
  reads : α → τ → Prop
  name : String
  fallback : τ
  content : σ → τ

/-- The names of settings. -/
def settingNames (settings : List (Setting α σ)) : List String := settings.map (·.name)

/-- A record has the settings that entries give, and the default of all others. -/
def GivenBy (settings : List (Setting α σ)) (entries : Keyed α) (record : σ) : Prop :=
  ∀ setting ∈ settings,
    HasSetting setting.reads entries setting.name setting.fallback (setting.content record)

/-- A record consists of these settings, each of which is read in one way at most; the standard one
has all defaults. -/
structure ConsistsOf (settings : List (Setting α σ)) (standard : σ) : Prop where
  definite : ∀ setting ∈ settings, Relator.RightUnique setting.reads
  fallback : ∀ setting ∈ settings, setting.content standard = setting.fallback
  exists_record {p : (setting : Setting α σ) → setting.τ → Prop} :
    (∀ setting ∈ settings, ∃ content, p setting content) →
      ∃ record, ∀ setting ∈ settings, p setting (setting.content record)
  ext {record other : σ} :
    (∀ setting ∈ settings, setting.content record = setting.content other) → record = other

/-- A record is filled in from entries with these names: without entries it is the standard one, and
it can be read if no name stands there twice and each entry can be read alone. Entries that alone
say no more than the standard may be added anywhere, and an entry with another name is one. -/
structure FillsIn (names : List String) (readAs : Keyed α → σ → Prop) (standard : σ) : Prop where
  empty (record : σ) : readAs [] record ↔ record = standard
  readable (entries : Keyed α) : (∃ record, readAs entries record) ↔
    entries.Once names ∧ ∀ entry ∈ entries, ∃ record, readAs [entry] record
  padded {entries further whole : Keyed α} : whole.Perm (further ++ entries) →
    (∀ entry ∈ further, readAs [entry] standard) →
      ∀ record, readAs whole record ↔ whole.Once names ∧ readAs entries record
  unknown {name : String} : name ∉ names → ∀ part, readAs [(name, part)] standard

/-- The standard record can be spelled out: entry by entry, or all of it in any order. -/
structure HasDefaults (names : List String) (readAs : Keyed α → σ → Prop) (standard : σ)
    (spelledOut : Keyed α) : Prop extends FillsIn names readAs standard where
  names_spelledOut : spelledOut.map Prod.fst = names
  spelled : ∀ entry ∈ spelledOut, readAs [entry] standard
  spelledOut {entries : Keyed α} : entries.Perm spelledOut → readAs entries standard

section

variable {settings : List (Setting α σ)} {standard record : σ} {entries others : Keyed α}

theorem name_mem_settingNames {setting : Setting α σ} (h : setting ∈ settings) :
    setting.name ∈ settingNames settings := List.mem_map_of_mem h

theorem givenBy_congr
    (h : ∀ name ∈ settingNames settings, entries.get? name = others.get? name) :
    GivenBy settings entries record ↔ GivenBy settings others record := by
  refine forall₂_congr fun setting hsetting => ?_
  exact hasSetting_congr (h _ (name_mem_settingNames hsetting))

/-- A record can be read if each of its settings can. -/
theorem ConsistsOf.exists_givenBy_iff (h : ConsistsOf settings standard) :
    (∃ record, GivenBy settings entries record) ↔ ∀ setting ∈ settings, ∃ content,
      HasSetting setting.reads entries setting.name setting.fallback content := by
  constructor
  · intro ⟨record, hrecord⟩ setting hsetting
    exact ⟨setting.content record, hrecord setting hsetting⟩
  · intro hall
    exact h.exists_record hall

/-- **A record of settings is filled in from entries.** -/
theorem ConsistsOf.fillsIn (h : ConsistsOf settings standard) {readAs : Keyed α → σ → Prop}
    (hread : ∀ entries record, readAs entries record ↔
      entries.Once (settingNames settings) ∧ GivenBy settings entries record) :
    FillsIn (settingNames settings) readAs standard where
  empty record := by
    rw [hread, and_iff_right (Keyed.ordered_nil.once _)]
    constructor
    · intro hrecord
      apply h.ext
      intro setting hsetting
      rw [h.fallback setting hsetting]
      exact hasSetting_nil.1 (hrecord setting hsetting)
    · rintro rfl setting hsetting
      exact hasSetting_nil.2 (h.fallback setting hsetting)
  readable entries := by
    simp only [hread, exists_and_left, Keyed.once_single, true_and, h.exists_givenBy_iff]
    refine and_congr_right fun honce => ?_
    constructor
    · intro hall entry hentry setting hsetting
      exact (exists_hasSetting_iff honce (name_mem_settingNames hsetting)).1
        (hall setting hsetting) entry hentry
    · intro hall setting hsetting
      exact (exists_hasSetting_iff honce (name_mem_settingNames hsetting)).2
        fun entry hentry => hall entry hentry setting hsetting
  padded {entries further whole} hperm hfurther record := by
    have hentries (honce : whole.Once (settingNames settings)) :
        entries.Once (settingNames settings) :=
      ((Keyed.once_perm_iff hperm).1 honce).sublist (List.sublist_append_right _ _)
    rw [hread, hread]
    refine and_congr_right fun honce => ?_
    rw [and_iff_right (hentries honce)]
    refine forall₂_congr fun setting hsetting => ?_
    refine hasSetting_padded (h.definite setting hsetting) (name_mem_settingNames hsetting) hperm
      honce fun entry hentry => ?_
    have hdefault := ((hread _ _).1 (hfurther entry hentry)).2 setting hsetting
    rwa [h.fallback setting hsetting] at hdefault
  unknown {name} hname part := by
    refine (hread _ _).2 ⟨Keyed.once_single, fun setting hsetting => ?_⟩
    have hne : setting.name ≠ name := by
      rintro rfl
      exact hname (name_mem_settingNames hsetting)
    exact (hasSetting_of_none (by simp [Keyed.get?_cons, hne])).2 (h.fallback setting hsetting)

end

/-- What can be spelled out entry by entry can be spelled out as a whole. -/
theorem FillsIn.hasDefaults {names : List String} {readAs : Keyed α → σ → Prop} {standard : σ}
    {spelledOut : Keyed α} (h : FillsIn names readAs standard) (hnodup : names.Nodup)
    (hnames : spelledOut.map Prod.fst = names)
    (hspelled : ∀ entry ∈ spelledOut, readAs [entry] standard) :
    HasDefaults names readAs standard spelledOut where
  toFillsIn := h
  names_spelledOut := hnames
  spelled := hspelled
  spelledOut {entries} hperm := by
    have honce : entries.Once names := by
      apply (Keyed.once_perm_iff hperm).2
      apply Keyed.once_of_nodup
      rw [hnames]
      exact hnodup
    rw [← List.append_nil spelledOut] at hperm
    exact (h.padded hperm hspelled standard).2 ⟨honce, (h.empty standard).2 rfl⟩

/-! ## Connections and descriptions -/

/-- How plain data is read from the parts of a document. -/
structure SettingReaders (α : Type) where
  text : α → String → Prop
  flag : α → Bool → Prop
  port : α → UInt16 → Prop
  duration : α → UInt64 → Prop
  secret : α → Option Secret → Prop
  presence : α → Presence → Prop
  elements : α → List Json → Prop

/-- A part is read as one thing at most. -/
structure SettingReaders.Definite (readers : SettingReaders α) : Prop where
  text : Relator.RightUnique readers.text
  flag : Relator.RightUnique readers.flag
  port : Relator.RightUnique readers.port
  duration : Relator.RightUnique readers.duration
  secret : Relator.RightUnique readers.secret
  presence : Relator.RightUnique readers.presence
  elements : Relator.RightUnique readers.elements

/-- The settings of a connection in their order. -/
def Connection.settings (readers : SettingReaders α) : List (Setting α Connection) :=
  [⟨readers.text, "host", "localhost", host⟩,
    ⟨readers.port, "port", 8500, port⟩,
    ⟨readers.text, "scheme", "http", scheme⟩,
    ⟨readers.flag, "validate_tls", true, validateTls⟩,
    ⟨readers.secret, "management_token", none, managementToken⟩,
    ⟨readers.duration, "timeout_ms", 5000, timeoutMs⟩]

/-- The settings of a token's description in their order. -/
def TokenSpec.settings (readers : SettingReaders α) : List (Setting α TokenSpec) :=
  [⟨readers.text, "id", "", id⟩,
    ⟨readers.text, "description", "", description⟩,
    ⟨readers.flag, "local", false, isLocal⟩,
    ⟨readers.secret, "secret", none, secret⟩,
    ⟨readers.presence, "state", .present, state⟩,
    ⟨readers.elements, "policies", [], policies⟩,
    ⟨readers.elements, "roles", [], roles⟩,
    ⟨readers.elements, "service_identities", [], serviceIdentities⟩,
    ⟨readers.elements, "node_identities", [], nodeIdentities⟩]

theorem Connection.consistsOf {readers : SettingReaders α} (hreaders : readers.Definite) :
    ConsistsOf (settings readers) {} where
  definite := by
    simp only [settings, List.forall_mem_cons]
    exact ⟨hreaders.text, hreaders.port, hreaders.text, hreaders.flag, hreaders.secret,
      hreaders.duration, List.forall_mem_nil _⟩
  fallback := by simp [settings, defaultHost, defaultPort, defaultScheme, defaultTimeoutMs]
  exists_record h := by
    simp only [settings, List.forall_mem_cons] at h ⊢
    obtain ⟨⟨host, hhost⟩, ⟨port, hport⟩, ⟨scheme, hscheme⟩, ⟨flag, hflag⟩, ⟨token, htoken⟩,
      ⟨duration, hduration⟩, -⟩ := h
    exact ⟨⟨host, port, scheme, flag, token, duration⟩, hhost, hport, hscheme, hflag, htoken,
      hduration, List.forall_mem_nil _⟩
  ext {record other} h := by
    simp only [settings, List.forall_mem_cons] at h
    cases record
    cases other
    simp_all

theorem TokenSpec.consistsOf {readers : SettingReaders α} (hreaders : readers.Definite) :
    ConsistsOf (settings readers) (.ofId "") where
  definite := by
    simp only [settings, List.forall_mem_cons]
    exact ⟨hreaders.text, hreaders.text, hreaders.flag, hreaders.secret, hreaders.presence,
      hreaders.elements, hreaders.elements, hreaders.elements, hreaders.elements,
      List.forall_mem_nil _⟩
  fallback := by simp [settings, ofId]
  exists_record h := by
    simp only [settings, List.forall_mem_cons] at h ⊢
    obtain ⟨⟨id, hid⟩, ⟨description, hdescription⟩, ⟨flag, hflag⟩, ⟨secret, hsecret⟩,
      ⟨state, hstate⟩, ⟨policies, hpolicies⟩, ⟨roles, hroles⟩, ⟨services, hservices⟩,
      ⟨nodes, hnodes⟩, -⟩ := h
    exact ⟨⟨id, description, flag, secret, state, policies, roles, services, nodes⟩, hid,
      hdescription, hflag, hsecret, hstate, hpolicies, hroles, hservices, hnodes,
      List.forall_mem_nil _⟩
  ext {record other} h := by
    simp only [settings, List.forall_mem_cons] at h
    cases record
    cases other
    simp_all

end TokenSync
