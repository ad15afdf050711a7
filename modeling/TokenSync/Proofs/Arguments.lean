import Mathlib.Data.List.TakeWhile
import Mathlib.Logic.Function.Basic
import Mathlib.Tactic.SplitIfs
import TokenSync.CommandLine

/-!
# Command lines and the settings they spell

A command line is a row of settings, each an option with its value in one of the ways a value can
be written, and perhaps the mark that ends the options. It is accepted when no option comes twice
and every value, from the line or from a variable that stands in, is one its option knows.
-/
namespace TokenSync

/-! ## Settings -/

/-- The name of an option after two dashes. -/
def Switch.longName : Switch → String
  | .config => "config"
  | .logLevel => "log-level"
  | .managementToken => "management-token"
  | .state => "state"

/-- Whether an option knows a value. -/
def Switch.Takes : Switch → String → Prop
  | .config, _ | .managementToken, _ => True
  | .logLevel, value => (LogLevel.ofName? value).isSome
  | .state, value => (Presence.ofName? value).isSome

/-- Whether every option knows the value it has. -/
def Understood (setting? : Switch → Option String) : Prop :=
  ∀ switch value, setting? switch = some value → switch.Takes value

namespace Options

/-- The options with these values. -/
def ofSettings (setting? : Switch → Option String) : Options where
  config := setting? .config
  logLevel := (setting? .logLevel).bind LogLevel.ofName?
  managementToken := setting? .managementToken
  state := (setting? .state).bind Presence.ofName?

theorem isSet_ofSettings {setting? : Switch → Option String} (h : Understood setting?)
    (switch : Switch) : switch.isSet (ofSettings setting?) = (setting? switch).isSome := by
  cases hs : setting? switch with
  | none => cases switch <;> simp [Switch.isSet, ofSettings, hs]
  | some value =>
    have ht := h switch value hs
    cases switch <;> simp_all [Switch.isSet, Switch.Takes, ofSettings]

theorem set_eq_none_of_isSet {options : Options} {switch : Switch} (value : String)
    (h : switch.isSet options = true) : options.set switch value = none := by
  cases switch <;> simp_all [Switch.isSet, set]

/-- Setting an option needs one that has no value yet and a value that it knows. -/
theorem set_ofSettings_eq_some_iff {setting? : Switch → Option String} (h : Understood setting?)
    {switch : Switch} {value : String} {options : Options} :
    (ofSettings setting?).set switch value = some options ↔
      setting? switch = none ∧ switch.Takes value ∧
        options = ofSettings (Function.update setting? switch (some value)) := by
  cases hs : setting? switch with
  | some old =>
    have hset : switch.isSet (ofSettings setting?) = true := by rw [isSet_ofSettings h, hs]; rfl
    simp [set_eq_none_of_isSet value hset]
  | none =>
    cases switch with
    | config | managementToken => simp [set, ofSettings, hs, Switch.Takes, eq_comm]
    | logLevel =>
      cases hv : LogLevel.ofName? value <;>
        simp [set, ofSettings, hs, hv, Switch.Takes, eq_comm]
    | state =>
      cases hv : Presence.ofName? value <;>
        simp [set, ofSettings, hs, hv, Switch.Takes, eq_comm]

end Options

/-! ## One argument -/

/-- The arguments that ask for the value of an option. -/
inductive Asks : Switch → String → Prop
  | long (switch : Switch) : Asks switch ("--" ++ switch.longName)
  | short : Asks .config "-c"

/-- The arguments that carry a value of an option. -/
inductive Carries (value : String) : Switch → String → Prop
  | long (switch : Switch) : Carries value switch ("--" ++ switch.longName ++ "=" ++ value)
  | shortEquals : Carries value .config ("-c=" ++ value)
  | short (c : Char) (first : value.toList.head? = some c) (plain : c ≠ '=') :
      Carries value .config ("-c" ++ value)

/-- Whether an argument can be a value: it is not a dash with something after it. -/
def StandsAlone (text : String) : Prop := ∀ rest, text = "-" ++ rest → rest = ""

namespace Argument

theorem isValue_iff {text : String} : isValue text = true ↔ StandsAlone text := by
  unfold isValue StandsAlone
  constructor
  · intro h rest ht
    subst ht
    cases hr : rest.toList with
    | nil => exact String.toList_inj.1 hr
    | cons c cs => simp [hr] at h
  · intro h
    split
    · next c cs ht =>
      have := h (String.ofList (c :: cs)) (String.toList_inj.1 (by simp [ht]))
      simp [← String.toList_inj] at this
    · rfl

theorem ofLongName?_eq_some_iff {name : List Char} {switch : Switch} :
    Switch.ofLongName? name = some switch ↔ name = switch.longName.toList := by
  constructor
  · unfold Switch.ofLongName?
    intro h
    split_ifs at h <;> cases h <;> assumption
  · rintro rfl
    cases switch <;> rfl

theorem not_mem_longName (switch : Switch) : '=' ∉ switch.longName.toList := by
  cases switch <;> decide

theorem ofLong_of_not_mem {cs : List Char} (h : '=' ∉ cs) :
    ofLong cs =
      if cs.isEmpty then .endOfOptions
      else if cs = "help".toList ∨ cs = "version".toList then .information
      else (Switch.ofLongName? cs).elim .other .awaiting := by
  have hall (c : Char) (hc : c ∈ cs) : (c != '=') = true := by simpa using ne_of_mem_of_not_mem hc h
  have htake : cs.takeWhile (· != '=') = cs := List.takeWhile_eq_self_iff.2 hall
  have hdrop : cs.dropWhile (· != '=') = [] := List.dropWhile_eq_nil_iff.2 hall
  simp only [ofLong, htake, hdrop]
  cases Switch.ofLongName? cs <;> rfl

theorem ofLong_append {name : List Char} (h : '=' ∉ name) (value : List Char) :
    ofLong (name ++ '=' :: value) =
      (Switch.ofLongName? name).elim .other (.setting · (String.ofList value)) := by
  have hall (c : Char) (hc : c ∈ name) : (c != '=') = true := by
    simpa using ne_of_mem_of_not_mem hc h
  have htake : (name ++ '=' :: value).takeWhile (· != '=') = name := by
    simp [List.takeWhile_append_of_pos hall]
  have hdrop : (name ++ '=' :: value).dropWhile (· != '=') = '=' :: value := by
    simp [List.dropWhile_append_of_pos hall]
  simp only [ofLong, htake, hdrop]
  cases Switch.ofLongName? name <;> rfl

/-- What a long argument says when it is known and does not ask for information. -/
theorem ofLong_eq_iff {cs : List Char} {argument : Argument} (known : argument ≠ .other)
    (hinfo : argument ≠ .information) :
    ofLong cs = argument ↔
      cs = [] ∧ argument = .endOfOptions ∨
      (∃ switch : Switch, cs = switch.longName.toList ∧ argument = .awaiting switch) ∨
      ∃ (switch : Switch) (value : String),
        cs = switch.longName.toList ++ '=' :: value.toList ∧ argument = .setting switch value := by
  constructor
  · rintro rfl
    by_cases hmem : '=' ∈ cs
    · obtain ⟨name, value, rfl, hname⟩ := List.eq_append_cons_of_mem hmem
      rw [ofLong_append hname] at known ⊢
      cases hs : Switch.ofLongName? name with
      | none => simp [hs] at known
      | some switch =>
        exact .inr (.inr ⟨switch, String.ofList value, by simp [ofLongName?_eq_some_iff.1 hs], rfl⟩)
    · rw [ofLong_of_not_mem hmem] at known hinfo ⊢
      split_ifs at known hinfo ⊢ with hempty
      · exact .inl ⟨List.isEmpty_iff.1 hempty, rfl⟩
      · exact absurd rfl hinfo
      · cases hs : Switch.ofLongName? cs with
        | none => simp [hs] at known
        | some switch => exact .inr (.inl ⟨switch, ofLongName?_eq_some_iff.1 hs, rfl⟩)
  · rintro (⟨rfl, rfl⟩ | ⟨switch, rfl, rfl⟩ | ⟨switch, value, rfl, rfl⟩)
    · rfl
    · cases switch <;> decide
    · rw [ofLong_append (not_mem_longName switch), ofLongName?_eq_some_iff.2 rfl, Option.elim_some,
        String.ofList_toList]

theorem ofLong_eq_awaiting_iff {cs : List Char} {switch : Switch} :
    ofLong cs = .awaiting switch ↔ cs = switch.longName.toList := by
  simp [ofLong_eq_iff]

theorem ofLong_eq_setting_iff {cs : List Char} {switch : Switch} {value : String} :
    ofLong cs = .setting switch value ↔ cs = switch.longName.toList ++ '=' :: value.toList := by
  simp [ofLong_eq_iff]

theorem ofLong_eq_endOfOptions_iff {cs : List Char} : ofLong cs = .endOfOptions ↔ cs = [] := by
  simp [ofLong_eq_iff]

theorem ofShort_eq_awaiting_iff {cs : List Char} {switch : Switch} :
    ofShort cs = .awaiting switch ↔ switch = .config ∧ cs = ['c'] := by
  unfold ofShort
  split <;> simp_all [eq_comm]

theorem ofShort_eq_setting_iff {cs : List Char} {switch : Switch} {value : String} :
    ofShort cs = .setting switch value ↔
      switch = .config ∧ (cs = 'c' :: '=' :: value.toList ∨
        cs = 'c' :: value.toList ∧ ∃ c, value.toList.head? = some c ∧ c ≠ '=') := by
  constructor
  · intro h
    unfold ofShort at h
    split at h <;> cases h
    · exact ⟨rfl, .inl (by simp)⟩
    · next rest hempty hequals =>
      refine ⟨rfl, .inr ⟨by simp, ?_⟩⟩
      cases rest with
      | nil => exact absurd rfl hempty
      | cons c rest => exact ⟨c, by simp, fun hc => hequals rest (by rw [hc])⟩
  · rintro ⟨rfl, rfl | ⟨rfl, c, hfirst, hc⟩⟩
    · simp [ofShort]
    · obtain ⟨rest, hv⟩ := List.head?_eq_some_iff.1 hfirst
      unfold ofShort
      split <;> simp_all [← String.toList_inj]

theorem ofText_eq_awaiting_iff {text : String} {switch : Switch} :
    ofText text = .awaiting switch ↔ Asks switch text := by
  constructor
  · intro h
    unfold ofText at h
    split at h
    · next cs ht =>
      obtain rfl := ofLong_eq_awaiting_iff.1 h
      have : text = "--" ++ switch.longName := String.toList_inj.1 (by simp [ht])
      exact this ▸ .long switch
    · next c cs _ ht =>
      obtain ⟨rfl, hcs⟩ := ofShort_eq_awaiting_iff.1 h
      have : text = "-c" := String.toList_inj.1 (by simp [ht, hcs])
      exact this ▸ .short
    · cases h
  · rintro (_ | _)
    · cases switch <;> decide
    · decide

theorem ofText_eq_setting_iff {text : String} {switch : Switch} {value : String} :
    ofText text = .setting switch value ↔ Carries value switch text := by
  constructor
  · intro h
    unfold ofText at h
    split at h
    · next cs ht =>
      obtain rfl := ofLong_eq_setting_iff.1 h
      have : text = "--" ++ switch.longName ++ "=" ++ value := String.toList_inj.1 (by simp [ht])
      exact this ▸ .long switch
    · next c cs _ ht =>
      obtain ⟨rfl, hcs | ⟨hcs, c, hfirst, hc⟩⟩ := ofShort_eq_setting_iff.1 h
      · have : text = "-c=" ++ value := String.toList_inj.1 (by simp [ht, hcs])
        exact this ▸ .shortEquals
      · have : text = "-c" ++ value := String.toList_inj.1 (by simp [ht, hcs])
        exact this ▸ .short c hfirst hc
    · cases h
  · rintro (_ | _ | ⟨c, hfirst, hc⟩)
    · simpa [ofText] using ofLong_eq_setting_iff.2 rfl
    · simp [ofText, ofShort]
    · simpa [ofText] using ofShort_eq_setting_iff.2 ⟨rfl, .inr ⟨rfl, c, hfirst, hc⟩⟩

theorem ofText_eq_endOfOptions_iff {text : String} : ofText text = .endOfOptions ↔ text = "--" := by
  constructor
  · intro h
    unfold ofText at h
    split at h
    · next cs ht =>
      obtain rfl := ofLong_eq_endOfOptions_iff.1 h
      exact String.toList_inj.1 (by simp [ht])
    · next c cs _ ht =>
      unfold ofShort at h
      split at h <;> cases h
    · cases h
  · rintro rfl
    rfl

end Argument

/-! ## Whole command lines -/

/-- The settings that arguments spell: each has an argument of its own, or two when the value comes
after the option, and a mark may end them. -/
inductive Spelled : List (Switch × String) → List String → Prop
  | nil : Spelled [] []
  | mark : Spelled [] ["--"]
  | apart {switch : Switch} {text value : String} {given : List (Switch × String)}
      {texts : List String} (asks : Asks switch text) (alone : StandsAlone value)
      (rest : Spelled given texts) : Spelled ((switch, value) :: given) (text :: value :: texts)
  | attached {switch : Switch} {text value : String} {given : List (Switch × String)}
      {texts : List String} (carries : Carries value switch text) (rest : Spelled given texts) :
      Spelled ((switch, value) :: given) (text :: texts)

/-- Arguments spell one row of settings. -/
theorem Spelled.unique {given other : List (Switch × String)} {texts : List String}
    (h : Spelled given texts) (h' : Spelled other texts) : given = other := by
  induction h generalizing other with
  | nil => cases h'; rfl
  | mark =>
    cases h' with
    | mark => rfl
    | attached carries rest =>
      have := Argument.ofText_eq_setting_iff.2 carries
      cases this
  | apart asks alone rest ih =>
    have hasks := Argument.ofText_eq_awaiting_iff.2 asks
    cases h' with
    | apart asks' alone' rest' =>
      rw [Argument.ofText_eq_awaiting_iff.2 asks'] at hasks
      cases hasks
      rw [ih rest']
    | attached carries' rest' =>
      rw [Argument.ofText_eq_setting_iff.2 carries'] at hasks
      cases hasks
  | attached carries rest ih =>
    have hcarries := Argument.ofText_eq_setting_iff.2 carries
    cases h' with
    | mark => cases hcarries
    | apart asks' alone' rest' =>
      rw [Argument.ofText_eq_awaiting_iff.2 asks'] at hcarries
      cases hcarries
    | attached carries' rest' =>
      rw [Argument.ofText_eq_setting_iff.2 carries'] at hcarries
      cases hcarries
      rw [ih rest']

/-- The values that are given in front of the values there are. -/
def settled (setting? : Switch → Option String) (given : List (Switch × String)) (switch : Switch) :
    Option String :=
  (given.lookup switch).or (setting? switch)

/-- Whether settings can be made one after another: no option has a value twice or already, and
every option knows its value. -/
def Fits (setting? : Switch → Option String) (given : List (Switch × String)) : Prop :=
  (given.map Prod.fst).Nodup ∧
    ∀ switch value, (switch, value) ∈ given → setting? switch = none ∧ switch.Takes value

theorem fits_nil (setting? : Switch → Option String) : Fits setting? [] := ⟨.nil, nofun⟩

theorem fits_cons_iff {setting? : Switch → Option String} {switch : Switch} {value : String}
    {given : List (Switch × String)} :
    Fits setting? ((switch, value) :: given) ↔ setting? switch = none ∧ switch.Takes value ∧
      Fits (Function.update setting? switch (some value)) given := by
  constructor
  · rintro ⟨hnodup, hall⟩
    obtain ⟨hnot, hnodup⟩ := List.nodup_cons.1 hnodup
    obtain ⟨hfree, takes⟩ := hall switch value List.mem_cons_self
    refine ⟨hfree, takes, hnodup, fun other v hmem => ?_⟩
    have hne : other ≠ switch := by
      rintro rfl
      exact hnot (List.mem_map.2 ⟨_, hmem, rfl⟩)
    rw [Function.update_of_ne hne]
    exact hall other v (List.mem_cons_of_mem _ hmem)
  · rintro ⟨hfree, takes, hnodup, hall⟩
    have hne (other : Switch) (v : String) (hmem : (other, v) ∈ given) : other ≠ switch := by
      rintro rfl
      simpa using (hall other v hmem).1
    refine ⟨List.nodup_cons.2 ⟨fun hmem => ?_, hnodup⟩, fun other v hmem => ?_⟩
    · obtain ⟨⟨other, v⟩, hgiven, heq⟩ := List.mem_map.1 hmem
      exact hne other v hgiven heq
    · rcases List.mem_cons.1 hmem with heq | hmem
      · cases heq
        exact ⟨hfree, takes⟩
      · have hv := hall other v hmem
        rwa [Function.update_of_ne (hne other v hmem)] at hv

theorem Fits.settled_cons {setting? : Switch → Option String} {switch : Switch} {value : String}
    {given : List (Switch × String)} (h : Fits setting? ((switch, value) :: given)) :
    settled setting? ((switch, value) :: given) =
      settled (Function.update setting? switch (some value)) given := by
  funext other
  by_cases hs : other = switch
  · subst hs
    have hnone : given.lookup other = none := by
      rw [List.lookup_eq_none_iff]
      rintro ⟨key, v⟩ hp
      simpa using fun hkey => (List.nodup_cons.1 h.1).1 (List.mem_map.2 ⟨_, hp, hkey.symm⟩)
    simp [settled, hnone]
  · have hbeq : (other == switch) = false := by simpa using hs
    simp [settled, List.lookup_cons, hbeq, hs]

theorem Understood.update {setting? : Switch → Option String} (h : Understood setting?)
    {switch : Switch} {value? : Option String}
    (takes : ∀ value, value? = some value → switch.Takes value) :
    Understood (Function.update setting? switch value?) := by
  intro other value hv
  by_cases hs : other = switch
  · subst hs
    exact takes value (by rwa [Function.update_self] at hv)
  · exact h other value (by rwa [Function.update_of_ne hs] at hv)

theorem Understood.update_some {setting? : Switch → Option String} (h : Understood setting?)
    {switch : Switch} {value : String} (takes : switch.Takes value) :
    Understood (Function.update setting? switch (some value)) :=
  h.update fun _ hv => Option.some.inj hv ▸ takes

theorem Fits.understood_settled {setting? : Switch → Option String} (h : Understood setting?)
    {given : List (Switch × String)} (fits : Fits setting? given) :
    Understood (settled setting? given) := by
  induction given generalizing setting? with
  | nil => exact h
  | cons entry rest ih =>
    obtain ⟨-, takes, hrest⟩ := fits_cons_iff.1 fits
    rw [fits.settled_cons]
    exact ih (h.update_some takes) hrest

namespace Invocation

variable {setting? : Switch → Option String} {options : Options}

/-- Arguments go on after a setting that can be made. -/
theorem ofArguments_set_iff (h : Understood setting?) {switch : Switch} {value : String}
    {rest : List String} :
    (match (Options.ofSettings setting?).set switch value with
      | some options => ofArguments options none rest
      | none => .misuse) = .run options ↔
      setting? switch = none ∧ switch.Takes value ∧
        ofArguments (.ofSettings (Function.update setting? switch (some value))) none rest =
          .run options := by
  have hset (given : Options) : (Options.ofSettings setting?).set switch value = some given ↔
      setting? switch = none ∧ switch.Takes value ∧
        given = .ofSettings (Function.update setting? switch (some value)) :=
    Options.set_ofSettings_eq_some_iff h
  cases hs : (Options.ofSettings setting?).set switch value with
  | none =>
    simp only [hs, reduceCtorEq, false_iff, not_and] at hset ⊢
    exact fun hfree takes _ => hset _ hfree takes rfl
  | some given =>
    obtain ⟨hfree, takes, rfl⟩ := (hset given).1 hs
    simp only [hfree, takes, true_and]

/-- What the first argument of an accepted line is. -/
theorem ofArguments_cons_eq_run_iff (h : Understood setting?) {text : String}
    {rest : List String} :
    ofArguments (.ofSettings setting?) none (text :: rest) = .run options ↔
      (∃ switch value texts, rest = value :: texts ∧ Asks switch text ∧ StandsAlone value ∧
        setting? switch = none ∧ switch.Takes value ∧
        ofArguments (.ofSettings (Function.update setting? switch (some value))) none texts =
          .run options) ∨
      (∃ switch value, Carries value switch text ∧ setting? switch = none ∧ switch.Takes value ∧
        ofArguments (.ofSettings (Function.update setting? switch (some value))) none rest =
          .run options) ∨
      (text = "--" ∧ rest = [] ∧ options = .ofSettings setting?) := by
  simp only [← Argument.ofText_eq_awaiting_iff, ← Argument.ofText_eq_setting_iff,
    ← Argument.ofText_eq_endOfOptions_iff, ← Argument.isValue_iff]
  rw [ofArguments]
  cases Argument.ofText text with
  | awaiting switch =>
    cases rest with
    | nil => simp [ofArguments]
    | cons value texts =>
      by_cases hv : Argument.isValue value = true
      · simp only [ofArguments, hv, if_true]
        refine (ofArguments_set_iff h).trans ⟨fun hrun => ?_, ?_⟩
        · exact .inl ⟨switch, value, texts, rfl, rfl, hv, hrun⟩
        · rintro (⟨_, _, _, ⟨⟩, ⟨⟩, -, hrun⟩ | ⟨_, _, ⟨⟩, -⟩ | ⟨⟨⟩, -⟩)
          exact hrun
      · simp [ofArguments, hv]
  | setting switch value =>
    refine (ofArguments_set_iff h).trans ⟨fun hrun => ?_, ?_⟩
    · exact .inr (.inl ⟨switch, value, rfl, hrun⟩)
    · rintro (⟨_, _, _, -, ⟨⟩, -⟩ | ⟨_, _, ⟨⟩, hrun⟩ | ⟨⟨⟩, -⟩)
      exact hrun
  | endOfOptions =>
    cases rest with
    | nil => simpa using eq_comm
    | cons _ _ => simp
  | information | other => simp

/-- **Arguments are accepted exactly when they spell settings that can be made one after
another.** -/
theorem ofArguments_eq_run_iff (h : Understood setting?) {arguments : List String} :
    ofArguments (.ofSettings setting?) none arguments = .run options ↔
      ∃ given, Spelled given arguments ∧ Fits setting? given ∧
        options = .ofSettings (settled setting? given) := by
  constructor
  · -- An argument and the value that follows it go together, so the induction is on the length.
    induction hn : arguments.length using Nat.strong_induction_on
      generalizing setting? arguments with
    | _ n ih =>
      intro hrun
      cases arguments with
      | nil =>
        cases hrun
        exact ⟨[], .nil, fits_nil _, rfl⟩
      | cons text rest =>
        rw [List.length_cons] at hn
        obtain ⟨switch, value, texts, rfl, asks, alone, hfree, takes, hrest⟩ |
          ⟨switch, value, carries, hfree, takes, hrest⟩ | ⟨rfl, rfl, rfl⟩ :=
          (ofArguments_cons_eq_run_iff h).1 hrun
        · rw [List.length_cons] at hn
          obtain ⟨given, spelled, fits, hgiven⟩ := ih _ (by omega) (h.update_some takes) rfl hrest
          have hcons := fits_cons_iff.2 ⟨hfree, takes, fits⟩
          exact ⟨_, .apart asks alone spelled, hcons, hcons.settled_cons ▸ hgiven⟩
        · obtain ⟨given, spelled, fits, hgiven⟩ := ih _ (by omega) (h.update_some takes) rfl hrest
          have hcons := fits_cons_iff.2 ⟨hfree, takes, fits⟩
          exact ⟨_, .attached carries spelled, hcons, hcons.settled_cons ▸ hgiven⟩
        · exact ⟨[], .mark, fits_nil _, rfl⟩
  · rintro ⟨given, spelled, fits, rfl⟩
    induction spelled generalizing setting? with
    | nil | mark => rfl
    | apart asks alone rest ih =>
      obtain ⟨hfree, takes, hrest⟩ := fits_cons_iff.1 fits
      rw [fits.settled_cons]
      exact (ofArguments_cons_eq_run_iff h).2
        (.inl ⟨_, _, _, rfl, asks, alone, hfree, takes, ih (h.update_some takes) hrest⟩)
    | attached carries rest ih =>
      obtain ⟨hfree, takes, hrest⟩ := fits_cons_iff.1 fits
      rw [fits.settled_cons]
      exact (ofArguments_cons_eq_run_iff h).2
        (.inr (.inl ⟨_, _, carries, hfree, takes, ih (h.update_some takes) hrest⟩))

/-! ## Variables that stand in -/

/-- The value of an option: the one it is given, or else the one of the variable for it. -/
def chosen (value? : String → Option String) (given : List (Switch × String)) (switch : Switch) :
    Option String :=
  (given.lookup switch).or (switch.standIn?.bind value?)

theorem fromVariable_eq_some_iff (h : Understood setting?) {value? : String → Option String}
    {switch : Switch} :
    fromVariable value? (.ofSettings setting?) switch = some options ↔
      (∀ value, (setting? switch).or (switch.standIn?.bind value?) = some value →
        switch.Takes value) ∧
      options = .ofSettings (Function.update setting? switch
        ((setting? switch).or (switch.standIn?.bind value?))) := by
  unfold fromVariable
  rw [Options.isSet_ofSettings h]
  have hself : Function.update setting? switch (setting? switch) = setting? :=
    Function.update_eq_self switch setting?
  cases hs : setting? switch with
  | some value =>
    rw [hs] at hself
    simp [hself, h switch value hs, eq_comm]
  | none =>
    rw [hs] at hself
    cases hv : switch.standIn?.bind value? with
    | none => simp [hself, eq_comm]
    | some value => simp [Options.set_ofSettings_eq_some_iff h, hs]

/-- The variables are looked up for one option after another. -/
theorem foldlM_fromVariable_eq_some_iff (h : Understood setting?) {value? : String → Option String}
    {switches : List Switch} (hnodup : switches.Nodup) :
    switches.foldlM (fromVariable value?) (.ofSettings setting?) = some options ↔
      (∀ switch ∈ switches, ∀ value,
        (setting? switch).or (switch.standIn?.bind value?) = some value → switch.Takes value) ∧
      options = .ofSettings fun switch =>
        if switch ∈ switches then (setting? switch).or (switch.standIn?.bind value?)
        else setting? switch := by
  induction switches generalizing setting? with
  | nil => simp [eq_comm]
  | cons first rest ih =>
    obtain ⟨hfirst, hrest⟩ := List.nodup_cons.1 hnodup
    have hother {switch : Switch} (hmem : switch ∈ rest) (value? : Option String) :
        Function.update setting? first value? switch = setting? switch :=
      Function.update_of_ne (ne_of_mem_of_not_mem hmem hfirst) ..
    have hfilled : (fun switch => if switch ∈ first :: rest then
        (setting? switch).or (switch.standIn?.bind value?) else setting? switch) =
        fun switch =>
          let here := Function.update setting? first
            ((setting? first).or (first.standIn?.bind value?)) switch
          if switch ∈ rest then here.or (switch.standIn?.bind value?) else here := by
      funext switch
      by_cases hs : switch = first
      · subst hs
        simp [hfirst]
      · by_cases hmem : switch ∈ rest <;> simp [hmem, hs]
    rw [List.foldlM_cons, Option.bind_eq_bind, Option.bind_eq_some_iff, List.forall_mem_cons,
      and_assoc, hfilled]
    constructor
    · rintro ⟨_, hstep, hrun⟩
      obtain ⟨takes, rfl⟩ := (fromVariable_eq_some_iff h).1 hstep
      obtain ⟨hall, hoptions⟩ := (ih (h.update takes) hrest).1 hrun
      refine ⟨takes, fun switch hmem => ?_, hoptions⟩
      simpa only [hother hmem] using hall switch hmem
    · rintro ⟨takes, hall, hoptions⟩
      refine ⟨_, (fromVariable_eq_some_iff h).2 ⟨takes, rfl⟩,
        (ih (h.update takes) hrest).2 ⟨fun switch hmem => ?_, hoptions⟩⟩
      simpa only [hother hmem] using hall switch hmem

theorem lookup_of_mem {given : List (Switch × String)} (h : (given.map Prod.fst).Nodup)
    {switch : Switch} {value : String} (hmem : (switch, value) ∈ given) :
    given.lookup switch = some value := by
  induction given with
  | nil => cases hmem
  | cons entry rest ih =>
    obtain ⟨other, v⟩ := entry
    obtain ⟨hother, hrest⟩ := List.nodup_cons.1 h
    rcases List.mem_cons.1 hmem with heq | hmem
    · cases heq
      simp
    · have hne : switch ≠ other := fun heq =>
        hother (List.mem_map.2 ⟨(switch, value), hmem, heq⟩)
      rw [List.lookup_cons, beq_eq_false_iff_ne.2 hne]
      exact ih hrest hmem

theorem read_eq_run_iff_exists {arguments : List String} {value? : String → Option String} :
    read arguments value? = .run options ↔
      ∃ given, ofArguments {} none arguments = .run given ∧
        Switch.all.foldlM (fromVariable value?) given = some options := by
  unfold read
  cases ofArguments {} none arguments with
  | run given =>
    cases hfold : Switch.all.foldlM (fromVariable value?) given <;> simp [hfold]
  | misuse | information => simp

/-- **What is accepted.** The arguments spell settings, no option has two of them, and every option
knows the value that it has from them or from the variable that stands in. -/
theorem read_eq_run_iff {arguments : List String} {value? : String → Option String} :
    read arguments value? = .run options ↔
      ∃ given, Spelled given arguments ∧ (given.map Prod.fst).Nodup ∧
        Understood (chosen value? given) ∧ options = .ofSettings (chosen value? given) := by
  have hnone : Understood fun _ => none := nofun
  have hall : Switch.all.Nodup := by decide
  have hmem (switch : Switch) : switch ∈ Switch.all := by cases switch <;> decide
  have hchosen (given : List (Switch × String)) (switch : Switch) :
      (settled (fun _ => none) given switch).or (switch.standIn?.bind value?) =
        chosen value? given switch := by
    simp [settled, chosen]
  rw [read_eq_run_iff_exists]
  constructor
  · rintro ⟨_, hline, hfold⟩
    obtain ⟨given, spelled, ⟨hnodup, takes⟩, rfl⟩ := (ofArguments_eq_run_iff hnone).1 hline
    have hsettled : Understood (settled (fun _ => none) given) :=
      Fits.understood_settled hnone ⟨hnodup, takes⟩
    obtain ⟨hchoice, rfl⟩ := (foldlM_fromVariable_eq_some_iff hsettled hall).1 hfold
    simp only [hmem, hchosen, if_true, forall_const] at hchoice ⊢
    exact ⟨given, spelled, hnodup, hchoice, rfl⟩
  · rintro ⟨given, spelled, hnodup, hchoice, rfl⟩
    have fits : Fits (fun _ => none) given :=
      ⟨hnodup, fun switch value hgiven =>
        ⟨rfl, hchoice switch value (by rw [chosen, lookup_of_mem hnodup hgiven]; rfl)⟩⟩
    refine ⟨_, (ofArguments_eq_run_iff hnone).2 ⟨given, spelled, fits, rfl⟩, ?_⟩
    refine (foldlM_fromVariable_eq_some_iff (fits.understood_settled hnone) hall).2 ?_
    simp only [hmem, hchosen, if_true, forall_const, and_true]
    exact hchoice

end Invocation

end TokenSync
