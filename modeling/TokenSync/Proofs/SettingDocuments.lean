import TokenSync.Proofs.Defaults
import TokenSync.Proofs.Reading

/-!
# Settings in documents

A connection or a description is read from an object that names each setting once at most, or from
an array of the settings in their order of which trailing ones may be missing. Both are filled in
with the defaults.
-/
namespace TokenSync

open Json

variable {α σ τ : Type}

/-! ## Structures of settings -/

/-- How plain data of settings is read from values. -/
def SettingReaders.ofJson : SettingReaders Json where
  text value text := readText value = .ok text
  flag value flag := readBool value = .ok flag
  port value port := Connection.portField.read value = .ok port
  duration value duration := Connection.timeoutMsField.read value = .ok duration
  secret value secret := readOptional Secret.read value = .ok secret
  presence value state := Presence.read value = .ok state
  elements value elements := readList (readValue depthLimit) value = .ok elements

theorem rightUnique_eq_ok (read : Json → Except Fault τ) :
    Relator.RightUnique fun value content => read value = .ok content := by
  intro value content other h ho
  exact Except.ok.inj (h.symm.trans ho)

theorem SettingReaders.definite_ofJson : SettingReaders.ofJson.Definite where
  text := rightUnique_eq_ok _
  flag := rightUnique_eq_ok _
  port := rightUnique_eq_ok _
  duration := rightUnique_eq_ok _
  secret := rightUnique_eq_ok _
  presence := rightUnique_eq_ok _
  elements := rightUnique_eq_ok _

theorem get_eq_ok_iff_hasSetting {given : Given α} {field : FieldSpec α τ} {fallback content : τ}
    (h : field.fallback = some fallback) :
    given.get field = .ok content ↔
      HasSetting (fun part content => field.read part = .ok content) given.parts field.name fallback
        content := by
  unfold Given.get HasSetting Keyed.get?
  rw [h]
  cases given.parts.lookup field.name with
  | none => simp [eq_comm]
  | some part => simp

/-- A check passes what its setting is read from. -/
def ChecksSetting (check : Check Json) (setting : Setting Json σ) : Prop :=
  check.name = setting.name ∧ ∀ part content, setting.reads part content → check.run part = .ok ()

theorem checksSetting (field : FieldSpec Json τ) (fallback : τ) (content : σ → τ) :
    ChecksSetting field.check
      ⟨fun part content => field.read part = .ok content, field.name, fallback, content⟩ :=
  ⟨rfl, fun _ content h => map_eq_ok_iff.2 ⟨content, h, rfl⟩⟩

/-- These settings are read from structures with such checks. -/
structure StructureReads (read : Json → Except Fault σ) (name : String) (checks : List (Check Json))
    (settings : List (Setting Json σ)) : Prop where
  checked : List.Forall₂ ChecksSetting checks settings
  nodup : (settingNames settings).Nodup
  read_eq_ok_iff (value : Json) (record : σ) : read value = .ok record ↔
    ∃ given, readStructure name checks value = .ok given ∧ GivenBy settings given.parts record

section

variable {read : Json → Except Fault σ} {name : String} {checks : List (Check Json)}
  {settings : List (Setting Json σ)} {standard record : σ} {entries : Entries}

theorem checkNames_eq_settingNames (h : List.Forall₂ ChecksSetting checks settings) :
    checkNames checks = settingNames settings := by
  induction h with
  | nil => rfl
  | cons hhead _ ih => exact congrArg₂ List.cons hhead.1 ih

/-- What gives settings passes the checks. -/
theorem runs_of_givenBy (h : List.Forall₂ ChecksSetting checks settings)
    (hrecord : GivenBy settings entries record) :
    ∀ check ∈ checks, ∀ part, entries.get? check.name = some part → check.run part = .ok () := by
  induction h with
  | nil => simp
  | cons hhead _ ih =>
    obtain ⟨hsetting, hrest⟩ := List.forall_mem_cons.1 hrecord
    refine List.forall_mem_cons.2 ⟨fun part hpart => ?_, ih hrest⟩
    rw [hhead.1] at hpart
    exact hhead.2 part _ ((hasSetting_of_some hpart).1 hsetting)

/-- The items of an array are checked as what stands under the names they are aligned with. -/
theorem zip_runs_iff (hnodup : (checkNames checks).Nodup) {items : List Json} :
    (∀ pair ∈ checks.zip items, pair.1.run pair.2 = .ok ()) ↔
      ∀ check ∈ checks, ∀ part,
        Keyed.get? ((checkNames checks).zip items) check.name = some part →
          check.run part = .ok () := by
  induction checks generalizing items with
  | nil => simp
  | cons check rest ih =>
    obtain ⟨hhead, hrest⟩ := List.nodup_cons.1 hnodup
    cases items with
    | nil => simp [checkNames]
    | cons item items =>
      have hcons (other : Check Json) (hother : other ∈ rest) :
          Keyed.get? ((checkNames (check :: rest)).zip (item :: items)) other.name =
            Keyed.get? ((checkNames rest).zip items) other.name := by
        have hne : other.name ≠ check.name := by
          intro heq
          exact hhead (List.mem_map.2 ⟨other, hother, heq⟩)
        exact (Keyed.get?_cons _ _ _ _).trans (if_neg hne)
      have hself : Keyed.get? ((checkNames (check :: rest)).zip (item :: items)) check.name =
          some item := (Keyed.get?_cons _ _ _ _).trans (if_pos rfl)
      rw [List.zip_cons_cons, List.forall_mem_cons, List.forall_mem_cons, ih hrest, hself]
      simp only [Option.some.injEq, forall_eq']
      refine and_congr_right fun _ => forall₂_congr fun other hother => ?_
      rw [hcons other hother]

theorem map_fst_zip_sublist (names : List String) (items : List Json) :
    ((names.zip items).map Prod.fst).Sublist names := by
  induction names generalizing items with
  | nil => simp
  | cons name rest ih =>
    cases items with
    | nil => simp
    | cons item items => exact (ih items).cons_cons name

namespace StructureReads

theorem object_iff (h : StructureReads read name checks settings) :
    read (.object entries) = .ok record ↔
      entries.Once (settingNames settings) ∧ GivenBy settings entries record := by
  have hnames := checkNames_eq_settingNames h.checked
  have hnodup : (checkNames checks).Nodup := hnames ▸ h.nodup
  have hknown : GivenBy settings (knownEntries (settingNames settings) entries) record ↔
      GivenBy settings entries record :=
    givenBy_congr fun name hname => get?_knownEntries hname entries
  have hread (given : Given Json) :
      readStructure name checks (.object entries) = .ok given ↔ _ :=
    readStructure_eq_ok_iff hnodup rfl fun _ _ _ => rfl
  simp only [h.read_eq_ok_iff, hread, hnames]
  constructor
  · rintro ⟨_, ⟨honce, -, rfl⟩, hrecord⟩
    exact ⟨honce, hknown.1 hrecord⟩
  · intro ⟨honce, hrecord⟩
    exact ⟨_, ⟨honce, runs_of_givenBy h.checked hrecord, rfl⟩, hknown.2 hrecord⟩

theorem array_iff (h : StructureReads read name checks settings) {items : List Json} :
    read (.array items) = .ok record ↔ items.length ≤ settings.length ∧
      GivenBy settings ((settingNames settings).zip items) record := by
  have hnames := checkNames_eq_settingNames h.checked
  have hnodup : (checkNames checks).Nodup := hnames ▸ h.nodup
  have hread (given : Given Json) :
      readStructure name checks (.array items) = .ok given ↔ _ := readStructure_array_eq_ok_iff rfl
  simp only [h.read_eq_ok_iff, hread, zip_runs_iff hnodup, hnames, h.checked.length_eq]
  constructor
  · rintro ⟨_, ⟨⟨hlength, -⟩, rfl⟩, hrecord⟩
    exact ⟨hlength, hrecord⟩
  · intro ⟨hlength, hrecord⟩
    exact ⟨_, ⟨⟨hlength, runs_of_givenBy h.checked hrecord⟩, rfl⟩, hrecord⟩

end StructureReads

end

/-- Settings are read with their defaults. An object has to name each setting once at most, and each
one that is named is read from what stands there. An array is read as the object that names its
items in order. -/
structure ReadsSettings (read : Json → Except Fault σ) (settings : List (Setting Json σ))
    (standard : σ) (spelledOut : Entries) : Prop where
  object (entries : Entries) (record : σ) : read (.object entries) = .ok record ↔
    entries.Once (settingNames settings) ∧ GivenBy settings entries record
  array (items : List Json) (record : σ) : read (.array items) = .ok record ↔
    items.length ≤ settings.length ∧
      read (.object ((settingNames settings).zip items)) = .ok record
  hasDefaults : HasDefaults (settingNames settings)
    (fun entries record => read (.object entries) = .ok record) standard spelledOut

theorem StructureReads.readsSettings {read : Json → Except Fault σ} {name : String}
    {checks : List (Check Json)} {settings : List (Setting Json σ)} {standard : σ}
    {spelledOut : Entries} (h : StructureReads read name checks settings)
    (hconsists : ConsistsOf settings standard)
    (hnames : spelledOut.map Prod.fst = settingNames settings)
    (hspelled : ∀ entry ∈ spelledOut, read (.object [entry]) = .ok standard) :
    ReadsSettings read settings standard spelledOut where
  object _ _ := h.object_iff
  array items record := by
    have honce : Keyed.Once (settingNames settings) ((settingNames settings).zip items) := by
      apply Keyed.once_of_nodup
      exact h.nodup.sublist (map_fst_zip_sublist _ _)
    rw [h.array_iff, h.object_iff, and_iff_right honce]
  hasDefaults := (hconsists.fillsIn fun _ _ => h.object_iff).hasDefaults h.nodup hnames hspelled

/-! ## Connections and descriptions -/

theorem Connection.structureReads :
    StructureReads Connection.read "ConnectionConfig" checks (settings .ofJson) where
  checked := .cons (checksSetting hostField _ _) (.cons (checksSetting portField _ _)
    (.cons (checksSetting schemeField _ _) (.cons (checksSetting validateTlsField _ _)
    (.cons (checksSetting managementTokenField _ _) (.cons (checksSetting timeoutMsField _ _)
    .nil)))))
  nodup := by
    change (["host", "port", "scheme", "validate_tls", "management_token", "timeout_ms"]).Nodup
    decide
  read_eq_ok_iff value record := by
    unfold Connection.read
    rw [bind_eq_ok_iff]
    refine exists_congr fun given => and_congr_right fun _ => ?_
    simp only [bind_eq_ok_iff, GivenBy, settings, List.forall_mem_cons]
    constructor
    · rintro ⟨host, hhost, port, hport, scheme, hscheme, flag, hflag, token, htoken, duration,
        hduration, hrecord⟩
      cases hrecord
      exact ⟨(get_eq_ok_iff_hasSetting rfl).1 hhost, (get_eq_ok_iff_hasSetting rfl).1 hport,
        (get_eq_ok_iff_hasSetting rfl).1 hscheme, (get_eq_ok_iff_hasSetting rfl).1 hflag,
        (get_eq_ok_iff_hasSetting rfl).1 htoken, (get_eq_ok_iff_hasSetting rfl).1 hduration,
        List.forall_mem_nil _⟩
    · rintro ⟨hhost, hport, hscheme, hflag, htoken, hduration, -⟩
      exact ⟨_, (get_eq_ok_iff_hasSetting rfl).2 hhost, _, (get_eq_ok_iff_hasSetting rfl).2 hport,
        _, (get_eq_ok_iff_hasSetting rfl).2 hscheme, _, (get_eq_ok_iff_hasSetting rfl).2 hflag,
        _, (get_eq_ok_iff_hasSetting rfl).2 htoken, _, (get_eq_ok_iff_hasSetting rfl).2 hduration,
        rfl⟩

theorem TokenSpec.structureReads :
    StructureReads TokenSpec.read "TokenConfig" checks (settings .ofJson) where
  checked := .cons (checksSetting idField _ _) (.cons (checksSetting descriptionField _ _)
    (.cons (checksSetting localField _ _) (.cons (checksSetting secretField _ _)
    (.cons (checksSetting stateField _ _) (.cons (checksSetting policiesField _ _)
    (.cons (checksSetting rolesField _ _) (.cons (checksSetting serviceIdentitiesField _ _)
    (.cons (checksSetting nodeIdentitiesField _ _) .nil))))))))
  nodup := by
    change (["id", "description", "local", "secret", "state", "policies", "roles",
      "service_identities", "node_identities"]).Nodup
    decide
  read_eq_ok_iff value record := by
    unfold TokenSpec.read
    rw [bind_eq_ok_iff]
    refine exists_congr fun given => and_congr_right fun _ => ?_
    simp only [bind_eq_ok_iff, GivenBy, settings, List.forall_mem_cons]
    constructor
    · rintro ⟨id, hid, description, hdescription, flag, hflag, secret, hsecret, state, hstate,
        policies, hpolicies, roles, hroles, services, hservices, nodes, hnodes, hrecord⟩
      cases hrecord
      exact ⟨(get_eq_ok_iff_hasSetting rfl).1 hid, (get_eq_ok_iff_hasSetting rfl).1 hdescription,
        (get_eq_ok_iff_hasSetting rfl).1 hflag, (get_eq_ok_iff_hasSetting rfl).1 hsecret,
        (get_eq_ok_iff_hasSetting rfl).1 hstate, (get_eq_ok_iff_hasSetting rfl).1 hpolicies,
        (get_eq_ok_iff_hasSetting rfl).1 hroles, (get_eq_ok_iff_hasSetting rfl).1 hservices,
        (get_eq_ok_iff_hasSetting rfl).1 hnodes, List.forall_mem_nil _⟩
    · rintro ⟨hid, hdescription, hflag, hsecret, hstate, hpolicies, hroles, hservices, hnodes, -⟩
      exact ⟨_, (get_eq_ok_iff_hasSetting rfl).2 hid,
        _, (get_eq_ok_iff_hasSetting rfl).2 hdescription,
        _, (get_eq_ok_iff_hasSetting rfl).2 hflag, _, (get_eq_ok_iff_hasSetting rfl).2 hsecret,
        _, (get_eq_ok_iff_hasSetting rfl).2 hstate, _, (get_eq_ok_iff_hasSetting rfl).2 hpolicies,
        _, (get_eq_ok_iff_hasSetting rfl).2 hroles, _, (get_eq_ok_iff_hasSetting rfl).2 hservices,
        _, (get_eq_ok_iff_hasSetting rfl).2 hnodes, rfl⟩

/-- The standard connection, spelled out. -/
def Connection.spelledOut : Entries :=
  [("host", .string "localhost"), ("port", .number (.int 8500)), ("scheme", .string "http"),
    ("validate_tls", .bool true), ("management_token", .null), ("timeout_ms", .number (.int 5000))]

/-- The standard description of a token, spelled out. -/
def TokenSpec.spelledOut : Entries :=
  [("id", .string ""), ("description", .string ""), ("local", .bool false), ("secret", .null),
    ("state", .string "present"), ("policies", .array []), ("roles", .array []),
    ("service_identities", .array []), ("node_identities", .array [])]

theorem Connection.readsSettings :
    ReadsSettings Connection.read (settings .ofJson) {} spelledOut :=
  structureReads.readsSettings (consistsOf SettingReaders.definite_ofJson) rfl (by decide +kernel)

example : Connection.read (Json.object [("colour", .null), ("validate_tls", .bool false)]) =
    .ok { validateTls := false } := by rfl

theorem TokenSpec.readsSettings :
    ReadsSettings TokenSpec.read (settings .ofJson) (.ofId "") spelledOut :=
  structureReads.readsSettings (consistsOf SettingReaders.definite_ofJson) rfl (by decide +kernel)

end TokenSync
