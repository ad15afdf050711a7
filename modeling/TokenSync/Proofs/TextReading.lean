import TokenSync.Proofs.Reading

/-!
# Reading a text and reading its value

A text can be read as typed data directly, or its value can be read first and viewed afterwards.
Both ways agree wherever an object names no field twice: of repeated names a value keeps the last
one, and a direct reading refuses them.
-/
namespace TokenSync.Json

variable {τ : Type}

/-! ## What a text shows -/

namespace Node

/-- The value of a text that has one. -/
def valueWithin (room : Nat) (node : Node) : Json := (node.toJson room).toOption.getD .null

theorem valueWithin_of_toJson {room : Nat} {node : Node} {value : Json}
    (h : node.toJson room = .ok value) : node.valueWithin room = value := by
  simp [valueWithin, h, Except.toOption]

/-- The values of entries under their keys. -/
def valuesWithin (room : Nat) (entries : List (String × Node)) : List (String × Json) :=
  entries.map fun entry => (entry.1, entry.2.valueWithin room)

theorem of_itemsToJson {room : Nat} {items : List Node} {values : List Json}
    (h : itemsToJson room items = .ok values) :
    List.Forall₂ (fun item value => item.toJson room = .ok value) items values := by
  induction items generalizing values with
  | nil =>
    cases h
    exact .nil
  | cons item rest ih =>
    obtain ⟨value, hvalue, h⟩ := bind_eq_ok_iff.1 h
    obtain ⟨others, hothers, h⟩ := bind_eq_ok_iff.1 h
    cases h
    exact .cons hvalue (ih hothers)

theorem of_entriesToJson {room : Nat} {entries : List (Option String × Node)}
    {values : List (String × Json)} (h : entriesToJson room entries = .ok values) :
    ∃ named, entries = asLayer named ∧ values = valuesWithin room named ∧
      ∀ entry ∈ named, entry.2.toJson room = .ok (entry.2.valueWithin room) := by
  induction entries generalizing values with
  | nil =>
    cases h
    exact ⟨[], rfl, rfl, nofun⟩
  | cons entry rest ih =>
    obtain ⟨_ | key, node⟩ := entry
    · exact nomatch h
    · obtain ⟨value, hvalue, h⟩ := bind_eq_ok_iff.1 h
      obtain ⟨others, hothers, h⟩ := bind_eq_ok_iff.1 h
      cases h
      obtain ⟨named, rfl, rfl, hnamed⟩ := ih hothers
      have hv := valueWithin_of_toJson hvalue
      exact ⟨(key, node) :: named, rfl, by simp [valuesWithin, hv],
        List.forall_mem_cons.2 ⟨hv ▸ hvalue, hnamed⟩⟩

/-- A text whose value has been read, by what stands at its top. -/
inductive Shows (room : Nat) : Node → Json → Prop
  | null : Shows room .null .null
  | bool (value : Bool) : Shows room (.bool value) (.bool value)
  | number (value : Number) : Shows room (.number (some value)) (.number value)
  | string (value : String) : Shows room (.string (some value)) (.string value)
  | array {items : List Node} {values : List Json}
      (h : List.Forall₂ (fun item value => item.toJson room = .ok value) items values) :
      Shows room (.array items) (.array values)
  | object {named : List (String × Node)}
      (h : ∀ entry ∈ named, entry.2.toJson room = .ok (entry.2.valueWithin room)) :
      Shows room (.object (asLayer named)) (.object (Keyed.ofList (valuesWithin room named)))

theorem shows_of_toJson {room : Nat} {node : Node} {value : Json}
    (h : node.toJson room = .ok value) : Shows (room - 1) node value := by
  unfold toJson at h
  split at h
  · cases h
    exact .null
  · cases h
    exact .bool _
  · cases h
    exact .number _
  · cases h
    exact .string _
  · split at h
    · cases h
    · obtain ⟨values, hvalues, rfl⟩ := map_eq_ok_iff.1 h
      exact .array (of_itemsToJson hvalues)
  · split at h
    · cases h
    · obtain ⟨values, hvalues, rfl⟩ := map_eq_ok_iff.1 h
      obtain ⟨named, rfl, rfl, hnamed⟩ := of_entriesToJson hvalues
      exact .object hnamed
  all_goals cases h

end Node

/-! ## Readers that agree -/

/-- On every text of this kind, reading it directly and reading its value agree. -/
def ReadAlike (kind : Node → Prop) (ofNode : Node → Except Fault τ)
    (ofValue : Json → Except Fault τ) : Prop :=
  ∀ ⦃room : Nat⦄ ⦃node : Node⦄ ⦃value : Json⦄, node.toJson room = .ok value → kind node →
    Agree (ofNode node) (ofValue value)

theorem readAlike_text (kind : Node → Prop) : ReadAlike kind readText readText := by
  intro room node value h _
  cases Node.shows_of_toJson h with
  | string text => exact Agree.refl _
  | _ => exact agree_error _ _

theorem readAlike_bool (kind : Node → Prop) : ReadAlike kind readBool readBool := by
  intro room node value h _
  cases Node.shows_of_toJson h with
  | bool b => exact Agree.refl _
  | _ => exact agree_error _ _

theorem ReadAlike.optional {kind : Node → Prop} {ofNode : Node → Except Fault τ}
    {ofValue : Json → Except Fault τ} (h : ReadAlike kind ofNode ofValue) :
    ReadAlike kind (readOptional ofNode) (readOptional ofValue) := by
  intro room node value hvalue hkind
  have hread := (h hvalue hkind).map some
  cases Node.shows_of_toJson hvalue with
  | null => exact Agree.refl _
  | _ => exact hread

/-- Every item of an array is of a kind. -/
def Node.Each (kind : Node → Prop) (node : Node) : Prop :=
  ∀ items, node = .array items → ∀ item ∈ items, kind item

instance (kind : Node → Prop) [DecidablePred kind] : (node : Node) → Decidable (node.Each kind)
  | .array items =>
    decidable_of_iff (∀ item ∈ items, kind item)
      ⟨fun h _ heq => Node.array.inj heq ▸ h, fun h => h items rfl⟩
  | .null | .bool _ | .number _ | .string _ | .object _ | .broken => isTrue nofun

theorem ReadAlike.list {kind : Node → Prop} {ofNode : Node → Except Fault τ}
    {ofValue : Json → Except Fault τ} (h : ReadAlike kind ofNode ofValue) :
    ReadAlike (Node.Each kind) (readList ofNode) (readList ofValue) := by
  intro room node value hvalue hkind
  cases Node.shows_of_toJson hvalue with
  | @array items values hitems =>
    have hboth := (List.forall₂_and_left _ _).2 ⟨hkind items rfl, hitems⟩
    exact agree_mapM (hboth.imp fun item value hitem => h hitem.2 hitem.1)
  | _ => exact agree_error _ _

/-! ## Structures -/

/-- An object names each of these fields once at most. -/
def Node.NamesOnce (names : List String) : Node → Prop
  | .object entries => ((entries.filterMap Prod.fst).filter fun key => names.contains key).Nodup
  | _ => True

instance (names : List String) (node : Node) : Decidable (node.NamesOnce names) :=
  match node with
  | .object entries =>
    inferInstanceAs (Decidable
      ((entries.filterMap Prod.fst).filter fun key => names.contains key).Nodup)
  | .null | .bool _ | .number _ | .string _ | .array _ | .broken => isTrue trivial

theorem Node.namesOnce_object {names : List String} {named : List (String × Node)} :
    (Node.object (asLayer named)).NamesOnce names ↔ Keyed.Once names named := by
  have hkeys : (asLayer named).filterMap Prod.fst = named.map Prod.fst := by
    simp [asLayer, List.filterMap_map]
  simp only [NamesOnce, hkeys, Keyed.Once]

/-- Among names that stand there once, a value has what the text has. -/
theorem get?_valuesWithin {names : List String} {named : List (String × Node)}
    (honce : Keyed.Once names named) {name : String} (hname : name ∈ names) (room : Nat) :
    Keyed.get? (Keyed.ofList (Node.valuesWithin room named)) name =
      (Keyed.get? named name).map (Node.valueWithin room) := by
  rw [Keyed.get?_ofList, Node.valuesWithin, ← List.map_reverse]
  exact (Keyed.get?_map named.reverse _ name).trans
    (congrArg (Option.map _) (honce.get?_reverse hname))

/-- Two checks for one field that agree on every text of a kind. -/
structure CheckAlike (kind : String → Node → Prop) (ofNode : Check Node) (ofValue : Check Json) :
    Prop where
  name : ofNode.name = ofValue.name
  run : ReadAlike (kind ofNode.name) ofNode.run ofValue.run

theorem checkNames_alike {kind : String → Node → Prop} {checks : List (Check Node)}
    {checks' : List (Check Json)} (h : List.Forall₂ (CheckAlike kind) checks checks') :
    checkNames checks = checkNames checks' := by
  induction h with
  | nil => rfl
  | cons h _ ih => exact congrArg₂ List.cons h.name ih

/-- The parts found for the fields of a structure in a text and in its value. -/
def GivenAlike (names : List String) (kind : String → Node → Prop) (given : Given Node)
    (given' : Given Json) : Prop :=
  ∀ name ∈ names, Option.Rel (fun part value => kind name part ∧
    ∃ room, part.toJson room = .ok value) (given.parts.lookup name) (given'.parts.lookup name)

/-- Two fields of one name that are read alike from every text of a kind. -/
structure FieldAlike (kind : String → Node → Prop) (ofNode : FieldSpec Node τ)
    (ofValue : FieldSpec Json τ) : Prop where
  name : ofNode.name = ofValue.name
  fallback : ofNode.fallback = ofValue.fallback
  read : ReadAlike (kind ofNode.name) ofNode.read ofValue.read

theorem FieldAlike.check {kind : String → Node → Prop} {field : FieldSpec Node τ}
    {field' : FieldSpec Json τ} (h : FieldAlike kind field field') :
    CheckAlike kind field.check field'.check :=
  ⟨h.name, fun _ _ _ hvalue hkind => (h.read hvalue hkind).map _⟩

/-- Fields that are read alike have the same content. -/
theorem GivenAlike.get {names : List String} {kind : String → Node → Prop} {given : Given Node}
    {given' : Given Json} (h : GivenAlike names kind given given') {field : FieldSpec Node τ}
    {field' : FieldSpec Json τ} (hfield : FieldAlike kind field field')
    (hmem : field.name ∈ names) : Agree (given.get field) (given'.get field') := by
  have hparts := h field.name hmem
  unfold Given.get
  rw [← hfield.name, ← hfield.fallback]
  cases hpart : given.parts.lookup field.name with
  | none =>
    cases hpart' : given'.parts.lookup field.name with
    | none =>
      cases field.fallback with
      | none => exact agree_error _ _
      | some value => exact Agree.refl _
    | some value => simp [hpart, hpart'] at hparts
  | some part =>
    cases hpart' : given'.parts.lookup field.name with
    | none => simp [hpart, hpart'] at hparts
    | some value =>
      simp only [hpart, hpart', Option.rel_some_some] at hparts
      obtain ⟨hkind, room, hvalue⟩ := hparts
      exact hfield.read hvalue hkind

/-- What stands under the names of a text passes its checks if it does in the value. -/
theorem passes_alike {kind : String → Node → Prop} {checks : List (Check Node)}
    {checks' : List (Check Json)} (h : List.Forall₂ (CheckAlike kind) checks checks')
    {names : List String} (hnames : checkNames checks ⊆ names) {room : Nat}
    {named : List (String × Node)} (honce : Keyed.Once names named)
    (hvalue : ∀ entry ∈ named, entry.2.toJson room = .ok (entry.2.valueWithin room))
    (hkind : ∀ entry ∈ named, kind entry.1 entry.2) :
    (∀ check ∈ checks, ∀ part, Keyed.get? named check.name = some part →
      check.run part = .ok ()) ↔
    ∀ check ∈ checks', ∀ value,
      Keyed.get? (Keyed.ofList (Node.valuesWithin room named)) check.name = some value →
        check.run value = .ok () := by
  induction h with
  | nil => simp
  | @cons check check' rest rest' hcheck _ ih =>
    have hrest : checkNames rest ⊆ names := fun name hname => hnames (List.mem_cons_of_mem _ hname)
    have hname : check'.name ∈ names := hcheck.name ▸ hnames List.mem_cons_self
    rw [List.forall_mem_cons, List.forall_mem_cons, ih hrest, hcheck.name,
      get?_valuesWithin honce hname]
    refine and_congr_left fun _ => ?_
    cases hget : Keyed.get? named check'.name with
    | none => simp
    | some part =>
      have hmem := Keyed.mem_of_get?_eq_some hget
      have hrun := hcheck.run (hvalue _ hmem) (hcheck.name ▸ hkind _ hmem)
      simpa using hrun ()

/-- The parts of a text's object and those of its value. -/
theorem givenAlike_object {names : List String} {kind : String → Node → Prop} {room : Nat}
    {named : List (String × Node)} (honce : Keyed.Once names named)
    (hvalue : ∀ entry ∈ named, entry.2.toJson room = .ok (entry.2.valueWithin room))
    (hkind : ∀ entry ∈ named, kind entry.1 entry.2) (absent absent' : String → Mismatch) :
    GivenAlike names kind ⟨knownEntries names named, absent⟩
      ⟨knownEntries names (Keyed.ofList (Node.valuesWithin room named)), absent'⟩ := by
  intro name hname
  have hpart := get?_knownEntries hname named
  have hpart' := (get?_knownEntries hname _).trans (get?_valuesWithin honce hname room)
  unfold Keyed.get? at hpart hpart'
  rw [hpart, hpart']
  cases hget : named.lookup name with
  | none => exact .none
  | some part =>
    have hmem := Keyed.mem_of_get?_eq_some hget
    exact .some ⟨hkind _ hmem, room, hvalue _ hmem⟩

/-- What is kept besides the fields is kept of the object that has the values of all entries. -/
theorem otherEntries_alike (names : List String) (value : Node → Json)
    (named : List (String × Node)) :
    Keyed.ofList (otherEntries names value named) =
      Keyed.ofList (otherEntries names id
        (Keyed.ofList (named.map fun entry => (entry.1, value entry.2)))) := by
  refine (Keyed.ordered_ofList _).ext (Keyed.ordered_ofList _) fun key => ?_
  have hvalues : Keyed.get?
      (Keyed.ofList (named.map fun entry => (entry.1, value entry.2))).reverse key =
        (Keyed.get? named.reverse key).map value := by
    rw [((Keyed.ordered_ofList _).once [key]).get?_reverse List.mem_cons_self, Keyed.get?_ofList,
      ← List.map_reverse]
    exact Keyed.get?_map named.reverse _ key
  rw [Keyed.get?_ofList, Keyed.get?_ofList, reverse_otherEntries, reverse_otherEntries]
  refine (get?_otherEntries names _ _ key).trans ?_
  refine Eq.trans ?_ (get?_otherEntries names _ _ key).symm
  rw [hvalues, Option.map_id]
  rfl

/-- A structure that must be an object is read alike, up to what is made of its parts. -/
theorem readOpenStructure_alike {kind : String → Node → Prop} {checks : List (Check Node)}
    {checks' : List (Check Json)} (h : List.Forall₂ (CheckAlike kind) checks checks')
    (hnodup : (checkNames checks).Nodup) (name : String) {room : Nat} {node : Node} {value : Json}
    (hvalue : node.toJson (room + 1) = .ok value) (honce : node.NamesOnce (checkNames checks))
    (hkind : ∀ named, node = .object (asLayer named) → ∀ entry ∈ named, kind entry.1 entry.2)
    {f : Given Node × List (String × Json) → Except Fault τ}
    {f' : Given Json × List (String × Json) → Except Fault τ}
    (hf : ∀ given given' others others', GivenAlike (checkNames checks) kind given given' →
      Keyed.ofList others = Keyed.ofList others' → Agree (f (given, others)) (f' (given', others')))
    (room' : Nat) :
    Agree (readOpenStructure name checks room node >>= f)
      (readOpenStructure name checks' room' value >>= f') := by
  have hnames := checkNames_alike h
  cases Node.shows_of_toJson hvalue with
  | @object named hnamed =>
    have honce' := Node.namesOnce_object.1 honce
    have hpasses := passes_alike h (List.Subset.refl _) honce' hnamed (hkind named rfl)
    have hnode (result : Given Node × List (String × Json)) :
        readOpenStructure name checks room (Node.object (asLayer named)) = .ok result ↔ _ :=
      readOpenStructure_eq_ok_iff hnodup rfl fun entry hentry _ => hnamed entry hentry
    have hnodup' : (checkNames checks').Nodup := hnames ▸ hnodup
    have hgiven := hf _ _ _ _ (givenAlike_object honce' hnamed (hkind named rfl) .missingField
      .missingField) (otherEntries_alike (checkNames checks) (Node.valueWithin room) named)
    intro t
    rw [bind_eq_ok_iff, bind_eq_ok_iff]
    constructor
    · rintro ⟨result, hresult, ht⟩
      obtain ⟨-, hruns, rfl⟩ := (hnode result).1 hresult
      refine ⟨_, (readOpenStructure_object_eq_ok_iff hnodup').2
        ⟨(Keyed.ordered_ofList _).once _, hpasses.1 hruns, rfl⟩, ?_⟩
      rw [← hnames]
      exact (hgiven t).1 ht
    · rintro ⟨result, hresult, ht⟩
      obtain ⟨-, hruns, rfl⟩ := (readOpenStructure_object_eq_ok_iff hnodup').1 hresult
      refine ⟨_, (hnode _).2 ⟨honce', hpasses.2 hruns, rfl⟩, ?_⟩
      rw [← hnames] at ht
      exact (hgiven t).2 ht
  | _ => exact agree_error _ _

/-! ## Structures with arrays as a second form -/

mutual
/-- A text that has a value is JSON to its end. -/
theorem Node.isWhole_of_toJson : (node : Node) → {room : Nat} → {value : Json} →
    node.toJson room = .ok value → node.isWhole = true
  | .array items, _, _, h => by
    unfold toJson at h
    split at h
    · cases h
    · obtain ⟨values, hvalues, -⟩ := map_eq_ok_iff.1 h
      exact areWhole_of_itemsToJson items hvalues
  | .object entries, _, _, h => by
    unfold toJson at h
    split at h
    · cases h
    · obtain ⟨values, hvalues, -⟩ := map_eq_ok_iff.1 h
      exact entriesAreWhole_of_entriesToJson entries hvalues
  | .broken, _, _, h => nomatch h
  | .null, _, _, _ | .bool _, _, _, _ | .number _, _, _, _ | .string _, _, _, _ => rfl
termination_by structural node => node

theorem Node.areWhole_of_itemsToJson : (items : List Node) → {room : Nat} → {values : List Json} →
    itemsToJson room items = .ok values → areWhole items = true
  | [], _, _, _ => rfl
  | item :: rest, _, _, h => by
    obtain ⟨value, hvalue, h⟩ := bind_eq_ok_iff.1 h
    obtain ⟨others, hothers, -⟩ := bind_eq_ok_iff.1 h
    simp [areWhole, isWhole_of_toJson item hvalue, areWhole_of_itemsToJson rest hothers]
termination_by structural items => items

theorem Node.entriesAreWhole_of_entriesToJson : (entries : List (Option String × Node)) →
    {room : Nat} → {values : List (String × Json)} →
    entriesToJson room entries = .ok values → entriesAreWhole entries = true
  | [], _, _, _ => rfl
  | (none, _) :: _, _, _, h => nomatch h
  | (some _, node) :: rest, _, _, h => by
    obtain ⟨value, hvalue, h⟩ := bind_eq_ok_iff.1 h
    obtain ⟨others, hothers, -⟩ := bind_eq_ok_iff.1 h
    simp [entriesAreWhole, isWhole_of_toJson node hvalue,
      entriesAreWhole_of_entriesToJson rest hothers]
termination_by structural entries => entries
end

theorem Node.ignore_of_toJson {node : Node} {room : Nat} {value : Json}
    (h : node.toJson room = .ok value) : Source.ignore node = .ok () := by
  change node.ignore = .ok ()
  simp [Node.ignore, node.isWhole_of_toJson h]

/-- The kind that all texts are of. -/
def anyKind (_ : String) (_ : Node) : Prop := True

theorem zip_runs_alike {checks : List (Check Node)} {checks' : List (Check Json)}
    (h : List.Forall₂ (CheckAlike anyKind) checks checks') {room : Nat} {items : List Node}
    {values : List Json}
    (hitems : List.Forall₂ (fun item value => item.toJson room = .ok value) items values) :
    (∀ pair ∈ checks.zip items, pair.1.run pair.2 = .ok ()) ↔
      ∀ pair ∈ checks'.zip values, pair.1.run pair.2 = .ok () := by
  induction h generalizing items values with
  | nil => simp
  | cons hcheck _ ih =>
    cases hitems with
    | nil => simp
    | cons hitem hrest =>
      rw [List.zip_cons_cons, List.zip_cons_cons, List.forall_mem_cons, List.forall_mem_cons,
        ih hrest]
      exact and_congr_left fun _ => hcheck.run hitem trivial ()

theorem givenAlike_zip {names : List String} {room : Nat} {items : List Node} {values : List Json}
    (hitems : List.Forall₂ (fun item value => item.toJson room = .ok value) items values)
    (absent absent' : String → Mismatch) :
    GivenAlike names anyKind ⟨names.zip items, absent⟩ ⟨names.zip values, absent'⟩ := by
  suffices h : ∀ (order : List String) (name : String),
      Option.Rel (fun part value => anyKind name part ∧ ∃ room, part.toJson room = .ok value)
        ((order.zip items).lookup name) ((order.zip values).lookup name) from
    fun name _ => h names name
  intro order name
  induction hitems generalizing order with
  | nil => cases order <;> exact .none
  | cons hitem _ ih =>
    cases order with
    | nil => exact .none
    | cons head rest =>
      rw [List.zip_cons_cons, List.zip_cons_cons, List.lookup_cons, List.lookup_cons]
      cases name == head with
      | true => exact .some ⟨trivial, room, hitem⟩
      | false => exact ih rest

/-- A structure is read alike, up to what is made of its parts. -/
theorem readStructure_alike {checks : List (Check Node)} {checks' : List (Check Json)}
    (h : List.Forall₂ (CheckAlike anyKind) checks checks') (hnodup : (checkNames checks).Nodup)
    (name : String) {room : Nat} {node : Node} {value : Json}
    (hvalue : node.toJson room = .ok value) (honce : node.NamesOnce (checkNames checks))
    {f : Given Node → Except Fault τ} {f' : Given Json → Except Fault τ}
    (hf : ∀ given given', GivenAlike (checkNames checks) anyKind given given' →
      Agree (f given) (f' given')) :
    Agree (readStructure name checks node >>= f) (readStructure name checks' value >>= f') := by
  have hnames := checkNames_alike h
  have hnodup' : (checkNames checks').Nodup := hnames ▸ hnodup
  cases Node.shows_of_toJson hvalue with
  | @object named hnamed =>
    have honce' := Node.namesOnce_object.1 honce
    have hkind : ∀ entry ∈ named, anyKind entry.1 entry.2 := fun _ _ => trivial
    have hpasses := passes_alike h (List.Subset.refl _) honce' hnamed hkind
    have hgiven := hf _ _ (givenAlike_object honce' hnamed hkind .missingField .missingField)
    have hnode (result : Given Node) :
        readStructure name checks (Node.object (asLayer named)) = .ok result ↔ _ :=
      readStructure_eq_ok_iff hnodup rfl fun entry hentry _ =>
        Node.ignore_of_toJson (hnamed entry hentry)
    have hjson (result : Given Json) : readStructure name checks'
        (Json.object (Keyed.ofList (Node.valuesWithin (room - 1) named))) = .ok result ↔ _ :=
      readStructure_eq_ok_iff hnodup' rfl fun _ _ _ => rfl
    intro t
    rw [bind_eq_ok_iff, bind_eq_ok_iff]
    constructor
    · rintro ⟨result, hresult, ht⟩
      obtain ⟨-, hruns, rfl⟩ := (hnode result).1 hresult
      refine ⟨_, (hjson _).2 ⟨(Keyed.ordered_ofList _).once _, hpasses.1 hruns, rfl⟩, ?_⟩
      rw [← hnames]
      exact (hgiven t).1 ht
    · rintro ⟨result, hresult, ht⟩
      obtain ⟨-, hruns, rfl⟩ := (hjson result).1 hresult
      refine ⟨_, (hnode _).2 ⟨honce', hpasses.2 hruns, rfl⟩, ?_⟩
      rw [← hnames] at ht
      exact (hgiven t).2 ht
  | @array items values hitems =>
    have hlength := hitems.length_eq
    have hgiven := hf _ _ (givenAlike_zip hitems
      (fun _ => .tooShort items.length name checks.length)
      (fun _ => .tooShort values.length name checks'.length))
    have hnode (result : Given Node) :
        readStructure name checks (Node.array items) = .ok result ↔ _ :=
      readStructure_array_eq_ok_iff rfl
    have hjson (result : Given Json) :
        readStructure name checks' (Json.array values) = .ok result ↔ _ :=
      readStructure_array_eq_ok_iff rfl
    intro t
    rw [bind_eq_ok_iff, bind_eq_ok_iff]
    constructor
    · rintro ⟨result, hresult, ht⟩
      obtain ⟨⟨hle, hruns⟩, rfl⟩ := (hnode result).1 hresult
      have hle' : values.length ≤ checks'.length := hlength ▸ h.length_eq ▸ hle
      refine ⟨_, (hjson _).2 ⟨⟨hle', (zip_runs_alike h hitems).1 hruns⟩, rfl⟩, ?_⟩
      rw [← hnames]
      exact (hgiven t).1 ht
    · rintro ⟨result, hresult, ht⟩
      obtain ⟨⟨hle, hruns⟩, rfl⟩ := (hjson result).1 hresult
      have hle' : items.length ≤ checks.length := hlength ▸ h.length_eq ▸ hle
      refine ⟨_, (hnode _).2 ⟨⟨hle', (zip_runs_alike h hitems).2 hruns⟩, rfl⟩, ?_⟩
      rw [← hnames] at ht
      exact (hgiven t).2 ht
  | _ => exact agree_error _ _

end TokenSync.Json
