import TokenSync.Proofs.Rewriting

/-!
# What a text shows

A text can be read although parts of it have no value, as long as nobody asks for them. It shows a
value with null in these places, which is its own value if it has one. Whatever is read from a text
directly is also read from the value it shows.
-/
namespace TokenSync

open Json

variable {τ : Type}

/-! ## Shown values -/

namespace Json.Node

mutual
/-- The value that a text shows. What has no value is shown as null, and what stands under a key
that is no text is left out. -/
def shown : Node → Json
  | .null | .number none | .string none | .broken => .null
  | .bool value => .bool value
  | .number (some value) => .number value
  | .string (some value) => .string value
  | .array items => .array (shownItems items)
  | .object entries => .object (Keyed.ofList (shownEntries entries))
termination_by structural node => node

/-- The values that items show. -/
def shownItems : List Node → List Json
  | [] => []
  | item :: rest => item.shown :: shownItems rest
termination_by structural items => items

/-- The values that entries show. -/
def shownEntries : List (Option String × Node) → List (String × Json)
  | [] => []
  | (none, _) :: rest => shownEntries rest
  | (some key, node) :: rest => (key, node.shown) :: shownEntries rest
termination_by structural entries => entries
end

theorem shownItems_eq (items : List Node) : shownItems items = items.map shown := by
  induction items with
  | nil => rfl
  | cons item rest ih => exact congrArg _ ih

theorem shownEntries_asLayer (named : List (String × Node)) :
    shownEntries (asLayer named) = named.map fun entry => (entry.1, entry.2.shown) := by
  induction named with
  | nil => rfl
  | cons entry rest ih => exact congrArg _ ih

mutual
/-- A text that has a value shows it. -/
theorem shown_of_toJson : (node : Node) → {room : Nat} → {value : Json} →
    node.toJson room = .ok value → node.shown = value
  | .array items, _, _, h => by
    unfold toJson at h
    split at h
    · cases h
    · obtain ⟨values, hvalues, rfl⟩ := map_eq_ok_iff.1 h
      exact congrArg Json.array (shownItems_of_itemsToJson items hvalues)
  | .object entries, _, _, h => by
    unfold toJson at h
    split at h
    · cases h
    · obtain ⟨values, hvalues, rfl⟩ := map_eq_ok_iff.1 h
      exact congrArg (Json.object ∘ Keyed.ofList) (shownEntries_of_entriesToJson entries hvalues)
  | .null, _, _, rfl | .bool _, _, _, rfl | .number (some _), _, _, rfl
  | .string (some _), _, _, rfl => rfl
  | .number none, _, _, h | .string none, _, _, h | .broken, _, _, h => nomatch h
termination_by structural node => node

theorem shownItems_of_itemsToJson : (items : List Node) → {room : Nat} → {values : List Json} →
    itemsToJson room items = .ok values → shownItems items = values
  | [], _, _, rfl => rfl
  | item :: rest, _, _, h => by
    obtain ⟨value, hvalue, h⟩ := bind_eq_ok_iff.1 h
    obtain ⟨others, hothers, h⟩ := bind_eq_ok_iff.1 h
    cases h
    exact congrArg₂ List.cons (shown_of_toJson item hvalue) (shownItems_of_itemsToJson rest hothers)
termination_by structural items => items

theorem shownEntries_of_entriesToJson : (entries : List (Option String × Node)) → {room : Nat} →
    {values : List (String × Json)} → entriesToJson room entries = .ok values →
    shownEntries entries = values
  | [], _, _, rfl => rfl
  | (none, _) :: _, _, _, h => nomatch h
  | (some key, node) :: rest, _, _, h => by
    obtain ⟨value, hvalue, h⟩ := bind_eq_ok_iff.1 h
    obtain ⟨others, hothers, h⟩ := bind_eq_ok_iff.1 h
    cases h
    rw [shownEntries, shown_of_toJson node hvalue, shownEntries_of_entriesToJson rest hothers]
termination_by structural entries => entries
end

/-- A text of a document shows its value. -/
theorem shown_root_of_ofText {text : String} {value : Json} (h : Json.ofText text = .ok value) :
    (Document.ofText text).root.shown = value :=
  shown_of_toJson _ (Document.read_eq_ok_iff.1 h).2

end Json.Node

/-! ## Readers that carry over -/

/-- What is read from a text is read from the value it shows. -/
def CarriesOver (ofNode : Node → Except Fault τ) (ofValue : Json → Except Fault τ) : Prop :=
  ∀ ⦃node : Node⦄ ⦃t : τ⦄, ofNode node = .ok t → ofValue node.shown = .ok t

theorem carriesOver_text : CarriesOver readText readText := by
  rintro (_ | _ | (_ | _) | (_ | _) | _ | _ | _) t h <;> cases h
  rfl

theorem carriesOver_bool : CarriesOver readBool readBool := by
  rintro (_ | _ | (_ | _) | (_ | _) | _ | _ | _) t h <;> cases h
  rfl

theorem CarriesOver.map {ofNode : Node → Except Fault τ} {ofValue : Json → Except Fault τ}
    (h : CarriesOver ofNode ofValue) {β : Type} (f : τ → β) :
    CarriesOver (fun node => (ofNode node).map f) fun value => (ofValue value).map f := by
  intro node t hread
  obtain ⟨a, ha, rfl⟩ := map_eq_ok_iff.1 hread
  exact map_eq_ok_iff.2 ⟨a, h ha, rfl⟩

theorem CarriesOver.optional {ofNode : Node → Except Fault τ} {ofValue : Json → Except Fault τ}
    (h : CarriesOver ofNode ofValue) :
    CarriesOver (readOptional ofNode) (readOptional ofValue) := by
  rintro (_ | _ | (_ | _) | (_ | _) | _ | _ | _) t hread
  case null =>
    cases hread
    rfl
  case number.none | string.none | broken => cases hread
  all_goals
    obtain ⟨a, ha, rfl⟩ := map_eq_ok_iff.1 hread
    exact map_eq_ok_iff.2 ⟨a, h ha, rfl⟩

theorem CarriesOver.list {ofNode : Node → Except Fault τ} {ofValue : Json → Except Fault τ}
    (h : CarriesOver ofNode ofValue) : CarriesOver (readList ofNode) (readList ofValue) := by
  rintro (_ | _ | (_ | _) | (_ | _) | items | _ | _) t hread
  case array =>
    have hitems : items.mapM ofNode = .ok t := hread
    change (Node.shownItems items).mapM ofValue = .ok t
    rw [Node.shownItems_eq, mapM_eq_ok_iff, List.forall₂_map_left_iff]
    exact (mapM_eq_ok_iff.1 hitems).imp fun _ _ hitem => h hitem
  all_goals cases hread

/-! ## Structures -/

/-- Two fields of one name, where what is read from a text is read from the value it shows. -/
structure FieldCarriesOver (ofNode : FieldSpec Node τ) (ofValue : FieldSpec Json τ) : Prop where
  name : ofNode.name = ofValue.name
  fallback : ofNode.fallback = ofValue.fallback
  read : CarriesOver ofNode.read ofValue.read

/-- Two checks of one name, where a text that passes shows a value that passes. -/
structure CheckCarriesOver (ofNode : Check Node) (ofValue : Check Json) : Prop where
  name : ofNode.name = ofValue.name
  run : CarriesOver ofNode.run ofValue.run

theorem FieldCarriesOver.check {field : FieldSpec Node τ} {field' : FieldSpec Json τ}
    (h : FieldCarriesOver field field') : CheckCarriesOver field.check field'.check :=
  ⟨h.name, h.read.map _⟩

theorem checkNames_carriesOver {checks : List (Check Node)} {checks' : List (Check Json)}
    (h : List.Forall₂ CheckCarriesOver checks checks') :
    checkNames checks = checkNames checks' := by
  induction h with
  | nil => rfl
  | cons hcheck _ ih => exact congrArg₂ List.cons hcheck.name ih

/-- The parts that are found in a value are those that are found in the text that shows it. -/
def PartsCarryOver (names : List String) (parts : List (String × Node))
    (parts' : List (String × Json)) : Prop :=
  ∀ name ∈ names, parts'.lookup name = (parts.lookup name).map Node.shown

theorem PartsCarryOver.get {names : List String} {given : Given Node} {given' : Given Json}
    (h : PartsCarryOver names given.parts given'.parts) {field : FieldSpec Node τ}
    {field' : FieldSpec Json τ} (hfield : FieldCarriesOver field field')
    (hname : field.name ∈ names) {t : τ} (hget : given.get field = .ok t) :
    given'.get field' = .ok t := by
  have hpart := h field.name hname
  unfold Given.get at hget ⊢
  rw [← hfield.name, ← hfield.fallback, hpart]
  cases hlookup : given.parts.lookup field.name with
  | some part =>
    rw [hlookup] at hget
    exact hfield.read hget
  | none =>
    rw [hlookup] at hget
    cases hfallback : field.fallback with
    | some value =>
      rw [hfallback] at hget
      exact hget
    | none =>
      rw [hfallback] at hget
      cases hget

/-- An object whose entries are sorted has texts as keys, and nobody minds what stands under a key
that is not looked for. -/
theorem exists_named_of_sortEntries {α β : Type} {checks : List (Check α)}
    {other : α → Except Fault β} {seen : List String} {entries : List (Option String × α)}
    {result : List (String × α) × List (String × β)}
    (h : sortEntries checks other seen entries = .ok result) :
    ∃ named, entries = asLayer named ∧
      ∀ entry ∈ named, entry.1 ∉ checkNames checks → ∃ b, other entry.2 = .ok b := by
  induction entries generalizing seen result with
  | nil => exact ⟨[], rfl, nofun⟩
  | cons entry rest ih =>
    obtain ⟨_ | key, a⟩ := entry
    · cases h
    · have hfind := find?_name_isSome checks key
      rw [sortEntries] at h
      cases hc : checks.find? (·.name == key) with
      | some check =>
        have hknown : key ∈ checkNames checks := by simpa [hc] using hfind
        simp only [hc] at h
        split at h
        · cases h
        · obtain ⟨⟨⟩, -, h⟩ := bind_eq_ok_iff.1 h
          obtain ⟨_, hrest, -⟩ := bind_eq_ok_iff.1 h
          obtain ⟨named, rfl, hnamed⟩ := ih hrest
          exact ⟨(key, a) :: named, rfl,
            List.forall_mem_cons.2 ⟨fun hnot => absurd hknown hnot, hnamed⟩⟩
      | none =>
        simp only [hc] at h
        obtain ⟨b, hb, h⟩ := bind_eq_ok_iff.1 h
        obtain ⟨_, hrest, -⟩ := bind_eq_ok_iff.1 h
        obtain ⟨named, rfl, hnamed⟩ := ih hrest
        exact ⟨(key, a) :: named, rfl, List.forall_mem_cons.2 ⟨fun _ => ⟨b, hb⟩, hnamed⟩⟩

/-- Among names that stand there once, a shown object has what the text has. -/
theorem get?_shownEntries {names : List String} {named : List (String × Node)}
    (honce : Keyed.Once names named) {name : String} (hname : name ∈ names) :
    Keyed.get? (Keyed.ofList (Node.shownEntries (asLayer named))) name =
      (Keyed.get? named name).map Node.shown := by
  rw [Keyed.get?_ofList, Node.shownEntries_asLayer, ← List.map_reverse]
  exact (Keyed.get?_map named.reverse _ name).trans
    (congrArg (Option.map _) (honce.get?_reverse hname))

/-- What stands under the names in a shown object passes its checks. -/
theorem runs_shownEntries {checks : List (Check Node)} {checks' : List (Check Json)}
    (h : List.Forall₂ CheckCarriesOver checks checks') {names : List String}
    (hnames : checkNames checks ⊆ names) {named : List (String × Node)}
    (honce : Keyed.Once names named)
    (hruns : ∀ check ∈ checks, ∀ part, Keyed.get? named check.name = some part →
      check.run part = .ok ()) :
    ∀ check ∈ checks', ∀ value,
      Keyed.get? (Keyed.ofList (Node.shownEntries (asLayer named))) check.name = some value →
        check.run value = .ok () := by
  induction h with
  | nil => nofun
  | @cons check check' rest rest' hcheck _ ih =>
    obtain ⟨hrun, hruns⟩ := List.forall_mem_cons.1 hruns
    have hname : check'.name ∈ names := hcheck.name ▸ hnames List.mem_cons_self
    refine List.forall_mem_cons.2
      ⟨fun value hvalue => ?_, ih (fun _ hmem => hnames (List.mem_cons_of_mem _ hmem)) hruns⟩
    rw [get?_shownEntries honce hname] at hvalue
    obtain ⟨part, hpart, rfl⟩ := Option.map_eq_some_iff.1 hvalue
    exact hcheck.run (hrun part (hcheck.name ▸ hpart))

theorem zip_runs_shown {checks : List (Check Node)} {checks' : List (Check Json)}
    (h : List.Forall₂ CheckCarriesOver checks checks') {items : List Node}
    (hruns : ∀ pair ∈ checks.zip items, pair.1.run pair.2 = .ok ()) :
    ∀ pair ∈ checks'.zip (items.map Node.shown), pair.1.run pair.2 = .ok () := by
  induction h generalizing items with
  | nil => nofun
  | cons hcheck _ ih =>
    cases items with
    | nil => nofun
    | cons item rest =>
      obtain ⟨hrun, hruns⟩ := List.forall_mem_cons.1 hruns
      exact List.forall_mem_cons.2 ⟨hcheck.run hrun, ih hruns⟩

theorem lookup_zip_shown (names : List String) (items : List Node) (name : String) :
    (names.zip (items.map Node.shown)).lookup name =
      ((names.zip items).lookup name).map Node.shown := by
  rw [List.zip_map_right]
  exact Keyed.get?_map (names.zip items) Node.shown name

/-- The parts of a structure that is read from a text are found in the value it shows. -/
theorem exists_readStructure_shown {checks : List (Check Node)} {checks' : List (Check Json)}
    (h : List.Forall₂ CheckCarriesOver checks checks') (hnodup : (checkNames checks).Nodup)
    {name : String} {node : Node} {given : Given Node}
    (hread : readStructure name checks node = .ok given) :
    ∃ given', readStructure name checks' node.shown = .ok given' ∧
      PartsCarryOver (checkNames checks) given.parts given'.parts := by
  have hnames := checkNames_carriesOver h
  rcases node with _ | _ | (_ | _) | (_ | _) | items | entries | _
  case array =>
    obtain ⟨⟨hlength, hruns⟩, rfl⟩ := (readStructure_array_eq_ok_iff rfl).1 hread
    have hlayer : Source.layer (Node.array items).shown = .ok (.array (items.map Node.shown)) :=
      congrArg (fun items => (Except.ok (Layer.array items) : Except Fault (Layer Json)))
        (Node.shownItems_eq items)
    have hlength' : (items.map Node.shown).length ≤ checks'.length := by
      rw [List.length_map, ← h.length_eq]
      exact hlength
    refine ⟨_, (readStructure_array_eq_ok_iff hlayer).2
      ⟨⟨hlength', zip_runs_shown h hruns⟩, rfl⟩, fun name _ => ?_⟩
    rw [← hnames]
    exact lookup_zip_shown _ _ _
  case object =>
    obtain ⟨_, ⟨⟩, hentries⟩ := bind_eq_ok_iff.1 hread
    obtain ⟨sorted, hsorted, -⟩ := bind_eq_ok_iff.1 hentries
    obtain ⟨named, rfl, hothers⟩ := exists_named_of_sortEntries hsorted
    have hignore (entry : String × Node) (hentry : entry ∈ named)
        (hnot : entry.1 ∉ checkNames checks) : Source.ignore entry.2 = .ok () := by
      obtain ⟨⟨⟩, hb⟩ := hothers entry hentry hnot
      exact hb
    obtain ⟨honce, hruns, rfl⟩ := (readStructure_eq_ok_iff hnodup rfl hignore).1 hread
    have hruns' := runs_shownEntries h (List.Subset.refl _) honce hruns
    refine ⟨_, (readStructure_eq_ok_iff (hnames ▸ hnodup) rfl fun _ _ _ => rfl).2
      ⟨(Keyed.ordered_ofList _).once _, hruns', rfl⟩, fun name hname => ?_⟩
    have hpart := get?_knownEntries hname named
    have hpart' := get?_knownEntries hname (Keyed.ofList (Node.shownEntries (asLayer named)))
    rw [get?_shownEntries honce hname] at hpart'
    unfold Keyed.get? at hpart hpart'
    rw [← hnames, hpart, hpart']
  all_goals cases hread

/-- A structure with two fields. -/
theorem carriesOver_pair {α β : Type} {name : String} {first : FieldSpec Node α}
    {first' : FieldSpec Json α} {second : FieldSpec Node β} {second' : FieldSpec Json β}
    (hfirst : FieldCarriesOver first first') (hsecond : FieldCarriesOver second second')
    (hne : first.name ≠ second.name) (make : α → β → τ) :
    CarriesOver
      (fun node => do
        let given ← readStructure name [first.check, second.check] node
        return make (← given.get first) (← given.get second))
      fun value => do
        let given ← readStructure name [first'.check, second'.check] value
        return make (← given.get first') (← given.get second') := by
  intro node t h
  obtain ⟨given, hgiven, h⟩ := bind_eq_ok_iff.1 h
  obtain ⟨a, ha, h⟩ := bind_eq_ok_iff.1 h
  obtain ⟨b, hb, h⟩ := bind_eq_ok_iff.1 h
  have hnodup : (checkNames [first.check, second.check]).Nodup := by
    simpa [checkNames, FieldSpec.check] using hne
  obtain ⟨given', hgiven', hparts⟩ :=
    exists_readStructure_shown (.cons hfirst.check (.cons hsecond.check .nil)) hnodup hgiven
  have ha' := hparts.get hfirst List.mem_cons_self ha
  have hb' := hparts.get hsecond (List.mem_cons_of_mem _ List.mem_cons_self) hb
  exact bind_eq_ok_iff.2 ⟨given', hgiven', bind_eq_ok_iff.2 ⟨a, ha', bind_eq_ok_iff.2 ⟨b, hb', h⟩⟩⟩

/-! ## Tokens -/

theorem Link.carriesOver : CarriesOver Link.read Link.read :=
  carriesOver_pair ⟨rfl, rfl, carriesOver_text.optional⟩ ⟨rfl, rfl, carriesOver_text.optional⟩
    (by decide) Link.mk

theorem ServiceIdentity.carriesOver : CarriesOver ServiceIdentity.read ServiceIdentity.read :=
  carriesOver_pair ⟨rfl, rfl, carriesOver_text⟩ ⟨rfl, rfl, carriesOver_text.list.optional⟩
    (by decide) ServiceIdentity.mk

theorem NodeIdentity.carriesOver : CarriesOver NodeIdentity.read NodeIdentity.read :=
  carriesOver_pair ⟨rfl, rfl, carriesOver_text⟩ ⟨rfl, rfl, carriesOver_text.optional⟩
    (by decide) NodeIdentity.mk

namespace TokenRecord

theorem fieldCarriesOver {name : String} {ofNode : Node → Except Fault τ}
    {ofValue : Json → Except Fault τ} (h : CarriesOver ofNode ofValue) :
    FieldCarriesOver (optionalField name ofNode) (optionalField name ofValue) :=
  ⟨rfl, rfl, h.optional⟩

theorem contentOf_shownEntries {named : List (String × Node)} (honce : Keyed.Once names named)
    {name : String} (hname : name ∈ names) {ofNode : Node → Except Fault τ}
    {ofValue : Json → Except Fault τ} (h : CarriesOver ofNode ofValue) {content : Option τ}
    (hcontent : contentOf named (optionalField name ofNode) = .ok content) :
    contentOf (Keyed.ofList (Node.shownEntries (asLayer named))) (optionalField name ofValue) =
      .ok content := by
  have hparts : PartsCarryOver names named (Keyed.ofList (Node.shownEntries (asLayer named))) :=
    fun _ hname => get?_shownEntries honce hname
  exact hparts.get (fieldCarriesOver h) hname hcontent

/-- **A token that is read from a text is read from the value that the text shows.** -/
theorem exists_read_shown {depth : Nat} {node : Node} {record : TokenRecord}
    (h : TokenRecord.read depth node = .ok record) (depth' : Nat) :
    ∃ entries, node.shown = .object entries ∧ Keyed.Ordered entries ∧
      TokenRecord.read depth' (Json.object entries) = .ok record := by
  rcases node with _ | _ | (_ | _) | (_ | _) | _ | entries | _
  case object =>
    obtain ⟨_, hopen, -⟩ := bind_eq_ok_iff.1 h
    obtain ⟨_, ⟨⟩, hentries⟩ := bind_eq_ok_iff.1 hopen
    obtain ⟨sorted, hsorted, -⟩ := bind_eq_ok_iff.1 hentries
    obtain ⟨named, rfl, hothers⟩ := exists_named_of_sortEntries hsorted
    -- What is kept besides the attributes has a value, so the text shows this value.
    have hvalue (entry : String × Node) (hentry : entry ∈ named) (hnot : entry.1 ∉ names) :
        Source.value (depthLimit - (depth + 1)) entry.2 = .ok entry.2.shown := by
      obtain ⟨value, hv⟩ := hothers entry hentry hnot
      exact hv.trans (congrArg _ (Node.shown_of_toJson entry.2 hv).symm)
    obtain ⟨honce, hholds, hextra⟩ := (read_eq_ok_iff rfl hvalue).1 h
    have hlinks := Link.carriesOver.list
    refine ⟨_, rfl, Keyed.ordered_ofList _,
      read_object_iff.2 ⟨(Keyed.ordered_ofList _).once names, {
        accessor := contentOf_shownEntries honce (by decide) carriesOver_text hholds.accessor
        secret := contentOf_shownEntries honce (by decide) carriesOver_text hholds.secret
        description :=
          contentOf_shownEntries honce (by decide) carriesOver_text hholds.description
        isLocal := contentOf_shownEntries honce (by decide) carriesOver_bool hholds.isLocal
        policies := contentOf_shownEntries honce (by decide) hlinks hholds.policies
        roles := contentOf_shownEntries honce (by decide) hlinks hholds.roles
        serviceIdentities := contentOf_shownEntries honce (by decide)
          ServiceIdentity.carriesOver.list hholds.serviceIdentities
        nodeIdentities := contentOf_shownEntries honce (by decide)
          NodeIdentity.carriesOver.list hholds.nodeIdentities }, ?_⟩⟩
    rw [hextra, otherEntries_alike, Node.shownEntries_asLayer]
  all_goals cases h

/-- It has the attributes of this value. -/
theorem exists_holds_of_read {depth : Nat} {node : Node} {record : TokenRecord}
    (h : TokenRecord.read depth node = .ok record) :
    ∃ entries, node.shown = .object entries ∧ Holds entries record := by
  obtain ⟨entries, hshown, -, hread⟩ := exists_read_shown h depth
  exact ⟨entries, hshown, (read_object_iff.1 hread).2.1⟩

end TokenRecord

end TokenSync
