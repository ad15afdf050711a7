import TokenSync.Json.Source
import TokenSync.Proofs.Fallible
import TokenSync.Proofs.KeyOrder

/-!
# Reading structures from objects

An object is read as a structure if it names each field once at most and every field in it can be
read. What a field then holds depends on nothing but what stands under its name.
-/
namespace TokenSync.Json

variable {α β τ : Type}

/-- The names that are looked for. -/
def checkNames (checks : List (Check α)) : List String := checks.map (·.name)

theorem find?_name_isSome (checks : List (Check α)) (key : String) :
    (checks.find? (·.name == key)).isSome = (checkNames checks).contains key := by
  induction checks with
  | nil => rfl
  | cons check rest ih =>
    by_cases h : check.name = key
    · simp [checkNames, h]
    · have hne : key ≠ check.name := Ne.symm h
      simpa [checkNames, h, hne] using ih

/-- The entries of an object as a layer has them. -/
def asLayer (entries : List (String × α)) : List (Option String × α) :=
  entries.map fun entry => (some entry.1, entry.2)

/-- The entries that are looked for. -/
def knownEntries (names : List String) (entries : List (String × α)) : List (String × α) :=
  entries.filter fun entry => names.contains entry.1

/-- The entries that nobody looks for, each with what becomes of it. -/
def otherEntries (names : List String) (value : α → β) (entries : List (String × α)) :
    List (String × β) :=
  (entries.filter fun entry => !names.contains entry.1).map fun entry => (entry.1, value entry.2)

/-- When the walk over the entries of an object succeeds, and what it gives. -/
theorem sortEntries_eq_ok_iff {checks : List (Check α)} {other : α → Except Fault β}
    (value : α → β) {entries : List (String × α)}
    (hother : ∀ entry ∈ entries, entry.1 ∉ checkNames checks → other entry.2 = .ok (value entry.2))
    {seen : List String}
    {result : List (String × α) × List (String × β)} :
    sortEntries checks other seen (asLayer entries) = .ok result ↔
      (∀ entry ∈ entries, ∀ check, checks.find? (·.name == entry.1) = some check →
        check.run entry.2 = .ok ()) ∧
      Keyed.Once (checkNames checks) entries ∧
      (∀ entry ∈ entries, entry.1 ∈ checkNames checks → entry.1 ∉ seen) ∧
      result = (knownEntries (checkNames checks) entries,
        otherEntries (checkNames checks) value entries) := by
  induction entries generalizing seen result with
  | nil => simp [asLayer, sortEntries, Keyed.Once, knownEntries, otherEntries, eq_comm]
  | cons entry rest ih =>
    obtain ⟨key, a⟩ := entry
    have hrest : ∀ entry ∈ rest, entry.1 ∉ checkNames checks →
        other entry.2 = .ok (value entry.2) :=
      fun entry hentry => hother entry (List.mem_cons_of_mem _ hentry)
    have hfind := find?_name_isSome checks key
    rw [asLayer, List.map_cons, sortEntries]
    cases hc : checks.find? (·.name == key) with
    | some check =>
      have hknown : key ∈ checkNames checks := by simpa [hc] using hfind
      by_cases hseen : key ∈ seen
      · simp [hseen, hknown]
      · simp only [List.contains_eq_mem, hseen, decide_false, Bool.false_eq_true, if_false,
          bind_eq_ok_iff]
        constructor
        · rintro ⟨⟨⟩, hrun, ⟨known, others⟩, hrec, heq⟩
          obtain ⟨hruns, honce, hfresh, hresult⟩ := (ih hrest).1 hrec
          obtain ⟨rfl, rfl⟩ := Prod.mk.inj hresult
          cases heq
          have hne : ∀ entry ∈ rest, entry.1 ≠ key := fun entry hentry heq =>
            hfresh entry hentry (heq ▸ hknown) (heq ▸ List.mem_cons_self)
          refine ⟨List.forall_mem_cons.2 ⟨fun check' h => ?_, hruns⟩,
            (Keyed.once_cons_of_mem hknown).2 ⟨hne, honce⟩,
            List.forall_mem_cons.2 ⟨fun _ => hseen, fun entry hentry hname =>
              fun hmem => hfresh entry hentry hname (List.mem_cons_of_mem _ hmem)⟩, ?_⟩
          · cases hc.symm.trans h
            exact hrun
          · simp [knownEntries, otherEntries, hknown]
        · rintro ⟨hruns, honce, hfresh, rfl⟩
          obtain ⟨hrun, hruns⟩ := List.forall_mem_cons.1 hruns
          obtain ⟨-, hfresh⟩ := List.forall_mem_cons.1 hfresh
          obtain ⟨hne, honce⟩ := (Keyed.once_cons_of_mem hknown).1 honce
          refine ⟨(), hrun check hc, _, (ih hrest).2 ⟨hruns, honce, ?_, rfl⟩, ?_⟩
          · intro entry hentry hname hmem
            exact (List.mem_cons.1 hmem).elim (hne entry hentry) (hfresh entry hentry hname)
          · simp [knownEntries, otherEntries, hknown, pure, Except.pure]
    | none =>
      have hknown : key ∉ checkNames checks := by simpa [hc] using hfind
      simp only [bind_eq_ok_iff, hother (key, a) List.mem_cons_self hknown]
      constructor
      · rintro ⟨_, ⟨⟩, ⟨known, others⟩, hrec, heq⟩
        obtain ⟨hruns, honce, hfresh, hresult⟩ := (ih hrest).1 hrec
        obtain ⟨rfl, rfl⟩ := Prod.mk.inj hresult
        cases heq
        refine ⟨List.forall_mem_cons.2 ⟨fun check h => ?_, hruns⟩,
          (Keyed.once_cons_of_not_mem hknown).2 honce,
          List.forall_mem_cons.2 ⟨fun h => absurd h hknown, hfresh⟩, ?_⟩
        · cases hc.symm.trans h
        · simp [knownEntries, otherEntries, hknown]
      · rintro ⟨hruns, honce, hfresh, rfl⟩
        refine ⟨value a, rfl, _, (ih hrest).2 ⟨(List.forall_mem_cons.1 hruns).2,
          (Keyed.once_cons_of_not_mem hknown).1 honce, (List.forall_mem_cons.1 hfresh).2, rfl⟩, ?_⟩
        simp [knownEntries, otherEntries, hknown, pure, Except.pure]

/-! ## What stands under a name -/

/-- Among checks with different names, the one found for a name is the one that has it. -/
theorem find?_name_eq_some_iff {checks : List (Check α)} (hnodup : (checkNames checks).Nodup)
    {key : String} {check : Check α} :
    checks.find? (·.name == key) = some check ↔ check ∈ checks ∧ check.name = key := by
  constructor
  · intro h
    exact ⟨List.mem_of_find?_eq_some h, by simpa using List.find?_some h⟩
  · rintro ⟨hmem, rfl⟩
    induction checks with
    | nil => simp at hmem
    | cons head rest ih =>
      obtain ⟨hhead, hrest⟩ := List.nodup_cons.1 hnodup
      rcases List.mem_cons.1 hmem with rfl | hmem
      · simp
      · have hne : head.name ≠ check.name := fun heq =>
          hhead (List.mem_map.2 ⟨check, hmem, heq.symm⟩)
        rw [List.find?_cons_of_neg (by simpa using hne)]
        exact ih hrest hmem

/-- The entries pass their checks if what stands under each name does. -/
theorem runs_iff {checks : List (Check α)} (hnodup : (checkNames checks).Nodup)
    {entries : List (String × α)} (honce : Keyed.Once (checkNames checks) entries) :
    (∀ entry ∈ entries, ∀ check, checks.find? (·.name == entry.1) = some check →
      check.run entry.2 = .ok ()) ↔
    ∀ check ∈ checks, ∀ a, Keyed.get? entries check.name = some a → check.run a = .ok () := by
  simp only [find?_name_eq_some_iff hnodup]
  constructor
  · exact fun h check hcheck a ha => h _ (Keyed.mem_of_get?_eq_some ha) check ⟨hcheck, rfl⟩
  · rintro h ⟨key, a⟩ hentry check ⟨hcheck, rfl⟩
    exact h check hcheck a (honce.get?_of_mem (List.mem_map_of_mem hcheck) hentry)

theorem get?_knownEntries {names : List String} {name : String} (hname : name ∈ names)
    (entries : List (String × α)) :
    Keyed.get? (knownEntries names entries) name = Keyed.get? entries name := by
  rw [knownEntries, Keyed.get?_filter entries names.contains]
  simp [hname]

theorem get?_otherEntries (names : List String) (value : α → β) (entries : List (String × α))
    (key : String) : Keyed.get? (otherEntries names value entries) key =
      if names.contains key then none else (Keyed.get? entries key).map value := by
  rw [otherEntries, Keyed.get?_map, Keyed.get?_filter entries fun key => !names.contains key]
  cases names.contains key <;> rfl

theorem reverse_otherEntries (names : List String) (value : α → β) (entries : List (String × α)) :
    (otherEntries names value entries).reverse = otherEntries names value entries.reverse := by
  rw [otherEntries, otherEntries, ← List.map_reverse, List.filter_reverse]

/-- The content of a field in the entries of an object. -/
def contentOf (entries : List (String × α)) (field : FieldSpec α τ) : Except Fault τ :=
  Given.get ⟨entries, .missingField⟩ field

theorem contentOf_of_some {entries : List (String × α)} {field : FieldSpec α τ} {a : α}
    (h : Keyed.get? entries field.name = some a) : contentOf entries field = field.read a := by
  unfold Keyed.get? at h
  simp only [contentOf, Given.get, h]

theorem contentOf_of_none {entries : List (String × α)} {field : FieldSpec α τ} {t : τ}
    (h : Keyed.get? entries field.name = none) (hfallback : field.fallback = some t) :
    contentOf entries field = .ok t := by
  unfold Keyed.get? at h
  simp only [contentOf, Given.get, h, hfallback]

theorem get_knownEntries {names : List String} (entries : List (String × α))
    {field : FieldSpec α τ} (hname : field.name ∈ names) :
    Given.get ⟨knownEntries names entries, .missingField⟩ field = contentOf entries field := by
  have hlookup := get?_knownEntries hname entries
  unfold Keyed.get? at hlookup
  simp only [contentOf, Given.get, hlookup]

/-- A field with content passes its check. -/
theorem run_of_contentOf {entries : List (String × α)} {field : FieldSpec α τ} {t : τ}
    (h : contentOf entries field = .ok t) {a : α}
    (ha : Keyed.get? entries field.check.name = some a) : field.check.run a = .ok () := by
  rw [contentOf_of_some ha] at h
  exact map_eq_ok_iff.2 ⟨t, h, rfl⟩

/-- When an object is read as a structure, and what that gives. -/
theorem readOpenStructure_eq_ok_iff [Source α] {name : String} {checks : List (Check α)}
    (hnodup : (checkNames checks).Nodup) {room : Nat} {a : α} {entries : List (String × α)}
    (ha : Source.layer a = .ok (.object (asLayer entries))) {value : α → Json}
    (hvalue : ∀ entry ∈ entries, entry.1 ∉ checkNames checks →
      Source.value room entry.2 = .ok (value entry.2))
    {result : Given α × List (String × Json)} :
    readOpenStructure name checks room a = .ok result ↔
      Keyed.Once (checkNames checks) entries ∧
      (∀ check ∈ checks, ∀ part, Keyed.get? entries check.name = some part →
        check.run part = .ok ()) ∧
      result = (⟨knownEntries (checkNames checks) entries, .missingField⟩,
        otherEntries (checkNames checks) value entries) := by
  unfold readOpenStructure
  rw [ha]
  change (sortEntries checks (readValue room) [] (asLayer entries) >>= fun sorted =>
    .ok (⟨sorted.1, .missingField⟩, sorted.2)) = .ok result ↔ _
  rw [bind_eq_ok_iff]
  constructor
  · rintro ⟨sorted, hsorted, hresult⟩
    obtain ⟨hruns, honce, -, rfl⟩ := (sortEntries_eq_ok_iff value hvalue).1 hsorted
    exact ⟨honce, (runs_iff hnodup honce).1 hruns, (Except.ok.inj hresult).symm⟩
  · rintro ⟨honce, hruns, rfl⟩
    exact ⟨_, (sortEntries_eq_ok_iff value hvalue).2 ⟨(runs_iff hnodup honce).2 hruns, honce,
      fun _ _ _ => List.not_mem_nil, rfl⟩, rfl⟩

/-- When an object is read as a structure that passes over what it does not know. -/
theorem readStructure_eq_ok_iff [Source α] {name : String} {checks : List (Check α)}
    (hnodup : (checkNames checks).Nodup) {a : α} {entries : List (String × α)}
    (ha : Source.layer a = .ok (.object (asLayer entries)))
    (hignore : ∀ entry ∈ entries, entry.1 ∉ checkNames checks → Source.ignore entry.2 = .ok ())
    {result : Given α} :
    readStructure name checks a = .ok result ↔
      Keyed.Once (checkNames checks) entries ∧
      (∀ check ∈ checks, ∀ part, Keyed.get? entries check.name = some part →
        check.run part = .ok ()) ∧
      result = ⟨knownEntries (checkNames checks) entries, .missingField⟩ := by
  unfold readStructure
  rw [ha]
  change (sortEntries checks Source.ignore [] (asLayer entries) >>= fun sorted =>
    .ok ⟨sorted.1, .missingField⟩) = .ok result ↔ _
  have hsort (sorted : List (String × α) × List (String × Unit)) :
      sortEntries checks Source.ignore [] (asLayer entries) = .ok sorted ↔ _ :=
    sortEntries_eq_ok_iff (fun _ => ()) hignore
  rw [bind_eq_ok_iff]
  constructor
  · rintro ⟨sorted, hsorted, hresult⟩
    obtain ⟨hruns, honce, -, rfl⟩ := (hsort sorted).1 hsorted
    exact ⟨honce, (runs_iff hnodup honce).1 hruns, (Except.ok.inj hresult).symm⟩
  · rintro ⟨honce, hruns, rfl⟩
    exact ⟨_, (hsort _).2 ⟨(runs_iff hnodup honce).2 hruns, honce,
      fun _ _ _ => List.not_mem_nil, rfl⟩, rfl⟩

/-- When the items of an array are read as the fields of a structure in their order. -/
theorem alignItems_eq_ok_iff [Source α] {length : Nat} {checks : List (Check α)} {items : List α}
    {parts : List (String × α)} :
    alignItems length checks items = .ok parts ↔
      (items.length ≤ checks.length ∧ ∀ pair ∈ checks.zip items, pair.1.run pair.2 = .ok ()) ∧
      parts = (checkNames checks).zip items := by
  induction items generalizing checks parts with
  | nil => cases checks <;> simp [alignItems, eq_comm]
  | cons item rest ih =>
    cases checks with
    | nil => simp [alignItems]
    | cons check checks =>
      simp only [alignItems, bind_eq_ok_iff, ih]
      constructor
      · rintro ⟨⟨⟩, hrun, _, ⟨⟨hlength, hruns⟩, rfl⟩, hparts⟩
        cases hparts
        exact ⟨⟨Nat.succ_le_succ hlength, List.forall_mem_cons.2 ⟨hrun, hruns⟩⟩, rfl⟩
      · rintro ⟨⟨hlength, hruns⟩, rfl⟩
        obtain ⟨hrun, hruns⟩ := List.forall_mem_cons.1 hruns
        exact ⟨(), hrun, _, ⟨⟨Nat.le_of_succ_le_succ hlength, hruns⟩, rfl⟩, rfl⟩

/-- When an array is read as a structure, and what that gives. -/
theorem readStructure_array_eq_ok_iff [Source α] {name : String} {checks : List (Check α)} {a : α}
    {items : List α} (ha : Source.layer a = .ok (.array items)) {result : Given α} :
    readStructure name checks a = .ok result ↔
      (items.length ≤ checks.length ∧ ∀ pair ∈ checks.zip items, pair.1.run pair.2 = .ok ()) ∧
      result = ⟨(checkNames checks).zip items,
        fun _ => .tooShort items.length name checks.length⟩ := by
  unfold readStructure
  rw [ha]
  change (alignItems items.length checks items >>= fun parts =>
    .ok ⟨parts, fun _ => .tooShort items.length name checks.length⟩) = .ok result ↔ _
  simp only [bind_eq_ok_iff, alignItems_eq_ok_iff]
  constructor
  · rintro ⟨_, ⟨hruns, rfl⟩, hresult⟩
    exact ⟨hruns, (Except.ok.inj hresult).symm⟩
  · rintro ⟨hruns, rfl⟩
    exact ⟨_, ⟨hruns, rfl⟩, rfl⟩

/-- A value keeps all that is not looked for as it is. -/
theorem readOpenStructure_object_eq_ok_iff {name : String} {checks : List (Check Json)}
    (hnodup : (checkNames checks).Nodup) {room : Nat} {entries : Entries}
    {result : Given Json × List (String × Json)} :
    readOpenStructure name checks room (Json.object entries) = .ok result ↔
      Keyed.Once (checkNames checks) entries ∧
      (∀ check ∈ checks, ∀ part, Keyed.get? entries check.name = some part →
        check.run part = .ok ()) ∧
      result = (⟨knownEntries (checkNames checks) entries, .missingField⟩,
        otherEntries (checkNames checks) id entries) :=
  readOpenStructure_eq_ok_iff hnodup rfl fun _ _ _ => rfl

end TokenSync.Json
