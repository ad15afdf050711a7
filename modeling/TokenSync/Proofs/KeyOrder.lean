import TokenSync.Keyed

/-!
# The order of keyed lists

A keyed list in the order of its keys has each key once, and the values under its keys determine
it. Insertion and overlaying keep the order.
-/
namespace TokenSync.Keyed

variable {α β : Type}

/-- The entries stand in increasing order of their keys. -/
def Ordered (entries : Keyed α) : Prop := entries.Pairwise fun a b => a.1 < b.1

instance (entries : Keyed α) : Decidable entries.Ordered :=
  inferInstanceAs (Decidable (List.Pairwise _ entries))

@[simp] theorem ordered_nil : Ordered ([] : Keyed α) := List.Pairwise.nil

theorem ordered_cons {entry : String × α} {rest : Keyed α} :
    Ordered (entry :: rest) ↔ (∀ other ∈ rest, entry.1 < other.1) ∧ Ordered rest :=
  List.pairwise_cons

theorem Ordered.nodup_keys {entries : Keyed α} (h : entries.Ordered) :
    (entries.map Prod.fst).Nodup := by
  rw [List.nodup_iff_pairwise_ne, List.pairwise_map]
  refine h.imp fun {a b} hlt heq => ?_
  rw [heq] at hlt
  exact String.lt_irrefl b.1 hlt

theorem mem_insert {key : String} {value : α} {entries : Keyed α} {entry : String × α}
    (h : entry ∈ entries.insert key value) : entry = (key, value) ∨ entry ∈ entries := by
  induction entries with
  | nil => simpa [insert] using h
  | cons head rest ih =>
    unfold insert at h
    split at h
    · rcases List.mem_cons.1 h with h | h
      · exact .inl h
      · exact .inr (List.mem_cons_of_mem _ h)
    · split at h
      · exact List.mem_cons.1 h
      · rcases List.mem_cons.1 h with h | h
        · exact .inr (h ▸ List.mem_cons_self)
        · exact (ih h).imp_right (List.mem_cons_of_mem _)

theorem Ordered.insert {entries : Keyed α} (h : entries.Ordered) (key : String) (value : α) :
    (entries.insert key value).Ordered := by
  induction entries with
  | nil => exact List.pairwise_singleton _ _
  | cons head rest ih =>
    obtain ⟨k, v⟩ := head
    obtain ⟨hhead, hrest⟩ := ordered_cons.1 h
    unfold Keyed.insert
    split
    · next heq => exact ordered_cons.2 ⟨heq ▸ hhead, hrest⟩
    · next hne =>
      split
      · next hlt =>
        refine ordered_cons.2 ⟨fun other hother => ?_, h⟩
        rcases List.mem_cons.1 hother with rfl | hother
        · exact hlt
        · exact String.lt_trans hlt (hhead other hother)
      · next hnlt =>
        have hgt : k < key := by
          by_cases hlt : k < key
          · exact hlt
          · exact absurd (String.le_antisymm (String.not_lt.1 hlt) (String.not_lt.1 hnlt)) hne
        refine ordered_cons.2 ⟨fun other hother => ?_, ih hrest⟩
        rcases mem_insert hother with rfl | hother
        · exact hgt
        · exact hhead other hother

theorem Ordered.overlay {earlier : Keyed α} (h : earlier.Ordered) (later : Keyed α) :
    (earlier.overlay later).Ordered := by
  unfold Keyed.overlay
  induction later generalizing earlier with
  | nil => exact h
  | cons entry rest ih => exact ih (h.insert entry.1 entry.2)

theorem ordered_ofList (entries : List (String × α)) : (ofList entries).Ordered :=
  ordered_nil.overlay entries

theorem mem_overlay {earlier later : Keyed α} {entry : String × α}
    (h : entry ∈ earlier.overlay later) : entry ∈ earlier ∨ entry ∈ later := by
  unfold Keyed.overlay at h
  induction later generalizing earlier with
  | nil => exact .inl h
  | cons head rest ih =>
    rcases ih h with h | h
    · rcases mem_insert h with h | h
      · exact .inr (h ▸ List.mem_cons_self)
      · exact .inl h
    · exact .inr (List.mem_cons_of_mem _ h)

theorem mem_of_mem_ofList {entries : List (String × α)} {entry : String × α}
    (h : entry ∈ ofList entries) : entry ∈ entries := (mem_overlay h).resolve_left List.not_mem_nil

/-! ## Changing values -/

/-- Values are changed by their keys before an insertion as well as after it. -/
theorem map_insert (f : String → α → β) (key : String) (value : α) (entries : Keyed α) :
    (entries.insert key value).map (fun entry => (entry.1, f entry.1 entry.2)) =
      insert key (f key value) (entries.map fun entry => (entry.1, f entry.1 entry.2)) := by
  induction entries with
  | nil => rfl
  | cons entry rest ih =>
    obtain ⟨k, v⟩ := entry
    by_cases hk : key = k
    · simp [insert, hk]
    · by_cases hlt : key < k
      · simp [insert, hk, hlt]
      · simp [insert, hk, hlt, ih]

/-- Values are changed by their keys before the entries are put in order as well as after it. -/
theorem map_ofList (f : String → α → β) (entries : List (String × α)) :
    (ofList entries).map (fun entry => (entry.1, f entry.1 entry.2)) =
      ofList (entries.map fun entry => (entry.1, f entry.1 entry.2)) := by
  suffices h : ∀ earlier : Keyed α,
      (earlier.overlay entries).map (fun entry => (entry.1, f entry.1 entry.2)) =
        overlay (earlier.map fun entry => (entry.1, f entry.1 entry.2))
          (entries.map fun entry => (entry.1, f entry.1 entry.2)) from h []
  intro earlier
  induction entries generalizing earlier with
  | nil => rfl
  | cons entry rest ih =>
    change ((earlier.insert entry.1 entry.2).overlay rest).map _ = _
    rw [ih, map_insert]
    rfl

theorem Ordered.filterMap {entries : Keyed α} (h : entries.Ordered) (f : String → α → Option β) :
    Ordered (entries.filterMap fun entry => (f entry.1 entry.2).map (entry.1, ·)) := by
  refine List.Pairwise.filterMap _ (fun earlier later hlt e he e' he' => ?_) h
  obtain ⟨_, -, rfl⟩ := Option.map_eq_some_iff.1 he
  obtain ⟨_, -, rfl⟩ := Option.map_eq_some_iff.1 he'
  exact hlt

/-! ## Values under keys -/

theorem get?_ofList (entries : List (String × α)) (key : String) :
    (ofList entries).get? key = entries.reverse.lookup key := by
  rw [ofList, get?_overlay, get?_nil, Option.or_none]

theorem get?_eq_none_iff {entries : Keyed α} {key : String} :
    entries.get? key = none ↔ ∀ entry ∈ entries, entry.1 ≠ key := by
  rw [get?, List.lookup_eq_none_iff]
  simp only [bne_iff_ne, ne_comm]

theorem mem_of_get?_eq_some {entries : Keyed α} {key : String} {value : α}
    (h : entries.get? key = some value) : (key, value) ∈ entries := by
  obtain ⟨before, after, rfl, -⟩ := List.lookup_eq_some_iff.1 h
  simp

theorem get?_map (entries : Keyed α) (f : α → β) (key : String) :
    get? (entries.map fun entry => (entry.1, f entry.2)) key = (entries.get? key).map f := by
  induction entries with
  | nil => rfl
  | cons entry rest ih =>
    obtain ⟨k, v⟩ := entry
    rw [List.map_cons, get?_cons, get?_cons, ih]
    split <;> rfl

theorem get?_filter (entries : Keyed α) (p : String → Bool) (key : String) :
    get? (entries.filter fun entry => p entry.1) key =
      if p key then entries.get? key else none := by
  induction entries with
  | nil => simp
  | cons entry rest ih =>
    obtain ⟨k, v⟩ := entry
    rw [List.filter_cons, get?_cons]
    by_cases hk : key = k
    · subst hk
      by_cases hp : p key <;> simp [hp, get?_cons, ih]
    · by_cases hp : p k <;> simp [hp, hk, get?_cons, ih]

/-- Where each key stands once, leaving out entries and changing values by their keys is done key by
key. -/
theorem get?_filterMap {entries : Keyed α} (h : (entries.map Prod.fst).Nodup)
    (f : String → α → Option β) (key : String) :
    get? (entries.filterMap fun entry => (f entry.1 entry.2).map (entry.1, ·)) key =
      (entries.get? key).bind (f key) := by
  induction entries with
  | nil => rfl
  | cons entry rest ih =>
    obtain ⟨k, v⟩ := entry
    obtain ⟨hfresh, hrest⟩ := List.nodup_cons.1 h
    have ih := ih hrest
    rw [get?_cons]
    by_cases hk : key = k
    · subst hk
      have hnone : get? rest key = none :=
        get?_eq_none_iff.2 fun other hother heq => hfresh (List.mem_map.2 ⟨other, hother, heq⟩)
      rw [hnone, Option.bind_none] at ih
      cases hf : f key v with
      | none => simp [hf, ih]
      | some w => simp [hf, get?_cons]
    · cases hf : f k v with
      | none => simp [hf, hk, ih]
      | some w => simp [hf, hk, get?_cons, ih]

/-- Each of these keys stands in the list once at most. -/
def Once (names : List String) (entries : Keyed α) : Prop :=
  ((entries.map Prod.fst).filter fun key => names.contains key).Nodup

theorem once_cons_of_mem {names : List String} {key : String} {value : α} {rest : Keyed α}
    (hkey : key ∈ names) :
    Once names ((key, value) :: rest) ↔ (∀ entry ∈ rest, entry.1 ≠ key) ∧ rest.Once names := by
  have hnot : key ∉ (rest.map Prod.fst).filter (fun key => names.contains key) ↔
      ∀ entry ∈ rest, entry.1 ≠ key := by
    simp only [List.mem_filter, List.mem_map, List.contains_eq_mem, decide_eq_true_eq, hkey,
      and_true, not_exists, not_and]
  simp only [Once, List.map_cons, List.filter_cons, List.contains_eq_mem, hkey, decide_true,
    if_true, List.nodup_cons] at hnot ⊢
  rw [hnot]

theorem once_cons_of_not_mem {names : List String} {key : String} {value : α} {rest : Keyed α}
    (hkey : key ∉ names) : Once names ((key, value) :: rest) ↔ rest.Once names := by
  simp [Once, hkey]

theorem once_of_nodup {names : List String} {entries : Keyed α}
    (h : (entries.map Prod.fst).Nodup) : entries.Once names := h.filter _

theorem Ordered.once {entries : Keyed α} (h : entries.Ordered) (names : List String) :
    entries.Once names := once_of_nodup h.nodup_keys

theorem once_single {names : List String} {entry : String × α} : Once names [entry] :=
  once_of_nodup (List.pairwise_singleton _ entry.1)

/-- In which order keys stand does not matter for how often they do. -/
theorem once_perm_iff {names : List String} {entries others : Keyed α} (h : entries.Perm others) :
    entries.Once names ↔ others.Once names :=
  ((h.map Prod.fst).filter fun key => names.contains key).nodup_iff

theorem Once.sublist {names : List String} {entries part : Keyed α} (h : entries.Once names)
    (hsub : part.Sublist entries) : part.Once names :=
  List.Nodup.sublist ((hsub.map Prod.fst).filter _) h

theorem Once.get?_of_mem {names : List String} {entries : Keyed α} (h : entries.Once names)
    {key : String} {value : α} (hkey : key ∈ names) (hmem : (key, value) ∈ entries) :
    entries.get? key = some value := by
  induction entries with
  | nil => simp at hmem
  | cons entry rest ih =>
    obtain ⟨k, v⟩ := entry
    rw [get?_cons]
    rcases List.mem_cons.1 hmem with heq | hrest
    · obtain ⟨rfl, rfl⟩ := Prod.mk.inj heq
      simp
    · by_cases hk : key = k
      · subst hk
        exact absurd rfl (((once_cons_of_mem hkey).1 h).1 _ hrest)
      · rw [if_neg hk]
        exact ih (h.sublist (List.sublist_cons_self _ _)) hrest

/-- Of a key that stands there once the order of the entries does not matter. -/
theorem Once.get?_of_perm {names : List String} {entries others : Keyed α} {key : String}
    (h : entries.Once names) (hperm : entries.Perm others) (hkey : key ∈ names) :
    entries.get? key = others.get? key := by
  cases hget : others.get? key with
  | none =>
    rw [get?_eq_none_iff] at hget ⊢
    intro entry hentry
    exact hget entry (hperm.mem_iff.1 hentry)
  | some value =>
    apply h.get?_of_mem hkey
    exact hperm.mem_iff.2 (mem_of_get?_eq_some hget)

theorem Once.get?_reverse {names : List String} {entries : Keyed α} (h : entries.Once names)
    {key : String} (hkey : key ∈ names) : get? entries.reverse key = entries.get? key :=
  (h.get?_of_perm (List.reverse_perm entries).symm hkey).symm

theorem Ordered.get?_of_mem {entries : Keyed α} (h : entries.Ordered) {key : String} {value : α}
    (hmem : (key, value) ∈ entries) : entries.get? key = some value :=
  (h.once [key]).get?_of_mem List.mem_cons_self hmem

/-- Where the later entries have each key once, what stands under a key counts. -/
theorem Ordered.get?_overlay {later : Keyed α} (h : later.Ordered) (earlier : Keyed α)
    (key : String) : (earlier.overlay later).get? key = (later.get? key).or (earlier.get? key) := by
  have hreverse := (h.once [key]).get?_reverse List.mem_cons_self
  unfold get? at hreverse
  rw [Keyed.get?_overlay, hreverse]
  rfl

theorem Once.get?_ofList_of_mem {names : List String} {entries : List (String × α)}
    (h : Once names entries) {key : String} {value : α} (hkey : key ∈ names)
    (hmem : (key, value) ∈ entries) : (ofList entries).get? key = some value :=
  (get?_ofList entries key).trans ((h.get?_reverse hkey).trans (h.get?_of_mem hkey hmem))

/-- Where each key stands once, putting entries in order loses none of them. -/
theorem mem_ofList_iff {entries : List (String × α)} (h : (entries.map Prod.fst).Nodup)
    {entry : String × α} : entry ∈ ofList entries ↔ entry ∈ entries := by
  refine ⟨mem_of_mem_ofList, fun hmem => mem_of_get?_eq_some ?_⟩
  have honce : Once [entry.1] entries := h.filter _
  exact honce.get?_ofList_of_mem List.mem_cons_self hmem

theorem Ordered.get?_head_eq_none {entry : String × α} {rest : Keyed α}
    (h : Ordered (entry :: rest)) {key : String} (hkey : ¬entry.1 < key) :
    get? rest key = none := by
  refine get?_eq_none_iff.2 fun other hother heq => hkey ?_
  exact heq ▸ (ordered_cons.1 h).1 other hother

/-- The values under the keys determine a list in the order of its keys. -/
theorem Ordered.ext {entries others : Keyed α} (h : entries.Ordered) (ho : others.Ordered)
    (hget : ∀ key, entries.get? key = others.get? key) : entries = others := by
  induction entries generalizing others with
  | nil =>
    cases others with
    | nil => rfl
    | cons entry rest =>
      obtain ⟨k, v⟩ := entry
      have := hget k
      simp [get?_cons] at this
  | cons entry rest ih =>
    obtain ⟨k, v⟩ := entry
    cases others with
    | nil =>
      have := hget k
      simp [get?_cons] at this
    | cons entry' rest' =>
      obtain ⟨k', v'⟩ := entry'
      have hk := hget k
      have hk' := hget k'
      simp only [get?_cons, if_true] at hk hk'
      have heq : k = k' := by
        by_cases hne : k = k'
        · exact hne
        · rw [if_neg hne] at hk
          rw [if_neg (Ne.symm hne)] at hk'
          by_cases hlt : k' < k
          · rw [h.get?_head_eq_none (String.lt_asymm hlt)] at hk'
            cases hk'
          · rw [ho.get?_head_eq_none hlt] at hk
            cases hk
      subst heq
      obtain rfl : v = v' := by simpa using hk
      refine congrArg _ (ih (ordered_cons.1 h).2 (ordered_cons.1 ho).2 fun key => ?_)
      by_cases hkey : key = k
      · subst hkey
        rw [h.get?_head_eq_none (String.lt_irrefl key), ho.get?_head_eq_none (String.lt_irrefl key)]
      · simpa [get?_cons, hkey] using hget key

end TokenSync.Keyed
