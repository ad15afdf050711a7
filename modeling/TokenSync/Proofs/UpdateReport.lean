import TokenSync.Proofs.Shown
import TokenSync.Proofs.TwoReadings

/-!
# What an update reports

An update reports the agent's answer as it is, and whether a managed attribute is now another than
it was before, when the full record counted and what it left open was as the listing said. Nothing
else in the listing, the record and the answer has a part in that.
-/
namespace TokenSync

open Json

variable {σ : Type}

/-! ## What a document carries -/

/-- What a document carries under the name of an attribute. Null counts as nothing. Of a grant only
its own fields count, and one that is missing counts as null. -/
def carried (document : Json) (name : String) : Option Json :=
  match document with
  | .object entries => (Keyed.get? entries name).bind (TokenRecord.rewritten? name)
  | _ => none

/-- Two values have the same canonical form if the same stands in the places of the fields, where
null and nothing are the same. -/
theorem canonical_eq_iff {fields : List String} (hnodup : fields.Nodup) {value other : Json} :
    canonical fields value = canonical fields other ↔
      ∀ field ∈ fields.zipIdx, (value.part? field.2 field.1).getD .null =
        (other.part? field.2 field.1).getD .null := by
  have hkeys (v : Json) : (fields.zipIdx.map fun field =>
      (field.1, (v.part? field.2 field.1).getD .null)).map Prod.fst = fields := by
    rw [List.map_map]
    exact List.zipIdx_map_fst 0 fields
  have hget (v : Json) {field : String × Nat} (hfield : field ∈ fields.zipIdx) :
      (Keyed.ofList (fields.zipIdx.map fun field =>
        (field.1, (v.part? field.2 field.1).getD .null))).get? field.1 =
        some ((v.part? field.2 field.1).getD .null) := by
    have honce : Keyed.Once fields (fields.zipIdx.map fun field =>
        (field.1, (v.part? field.2 field.1).getD .null)) := by
      unfold Keyed.Once
      rw [hkeys]
      exact hnodup.filter _
    refine honce.get?_ofList_of_mem ?_ (List.mem_map.2 ⟨field, hfield, rfl⟩)
    exact List.fst_mem_of_mem_zipIdx hfield
  constructor
  · intro h field hfield
    have hvalue := hget value hfield
    rw [Json.object.inj h, hget other hfield] at hvalue
    exact (Option.some.inj hvalue).symm
  · intro h
    exact congrArg (Json.object ∘ Keyed.ofList) (List.map_congr_left fun field hfield =>
      congrArg (Prod.mk field.1) (h field hfield))

theorem carried_array {name : String} (hgrants : grantNames name ≠ []) {entries : Entries}
    {items : List Json} (hitems : Keyed.get? entries name = some (.array items)) :
    carried (.object entries) name =
      some (.array (items.map (canonical (grantNames name)))) := by
  change (Keyed.get? entries name).bind (TokenRecord.rewritten? name) = _
  rw [hitems, Option.bind_some, TokenRecord.rewritten?, if_neg (by simp), canonicalField,
    if_neg hgrants]
  rfl

/-- Lists of grants are compared grant by grant, each by its own fields. -/
theorem carried_array_eq_iff {name : String} (hgrants : grantNames name ≠ [])
    {entries entries' : Entries} {items items' : List Json}
    (hitems : Keyed.get? entries name = some (.array items))
    (hitems' : Keyed.get? entries' name = some (.array items')) :
    carried (.object entries) name = carried (.object entries') name ↔
      List.Forall₂ (fun item item' => ∀ field ∈ (grantNames name).zipIdx,
        (item.part? field.2 field.1).getD .null = (item'.part? field.2 field.1).getD .null)
        items items' := by
  have hnodup : (grantNames name).Nodup := by
    unfold grantNames
    split <;> decide
  rw [carried_array hgrants hitems, carried_array hgrants hitems', Option.some.injEq,
    Json.array.injEq, ← List.forall₂_eq_eq_eq, List.forall₂_map_left_iff,
    List.forall₂_map_right_iff]
  simp only [canonical_eq_iff hnodup]

namespace TokenRecord

theorem Holds.slot?_eq_carried {entries : Entries} {record : TokenRecord}
    (h : Holds entries record) {name : String} (hname : name ∈ names) :
    record.slot? name = carried (.object entries) name := h.slot?_eq name hname

/-- An attribute of two records that are merged is the one of the full record if it has one. -/
theorem slot?_merge (listed full : TokenRecord) :
    ∀ name ∈ names, (merge listed full).slot? name = (full.slot? name).or (listed.slot? name) := by
  have hmap {τ : Type} {write : τ → Json} (told known : Option τ) :
      (told.or known).map write = (told.map write).or (known.map write) := by
    cases told <;> rfl
  simp only [names, List.forall_mem_cons]
  exact ⟨hmap _ _, hmap _ _, hmap _ _, hmap _ _, hmap _ _, hmap _ _, hmap _ _, hmap _ _,
    List.forall_mem_nil _⟩

/-- The managed attributes of two records are the same if they are written the same. -/
theorem toManaged_eq_iff {record other : TokenRecord} :
    record.toManaged = other.toManaged ↔
      ∀ name ∈ managedNames, record.slot? name = other.slot? name := by
  have hiff {τ : Type} {read : Json → Except Fault τ} {write : τ → Json}
      (h : ∀ a, read (write a) = .ok a) (told told' : Option τ) :
      told = told' ↔ told.map write = told'.map write := by
    have hinjective : Function.Injective write := fun a b heq =>
      Except.ok.inj ((h a).symm.trans (heq ▸ h b))
    exact (Option.map_injective hinjective).eq_iff.symm
  have hbool (value : Bool) : readBool (Json.bool value) = .ok value := rfl
  have hlinks := readList_ofList Link.read_toJson
  have hservices := readList_ofList ServiceIdentity.read_toJson
  have hnodes := readList_ofList NodeIdentity.read_toJson
  change Managed.mk _ _ _ _ _ _ = Managed.mk _ _ _ _ _ _ ↔ _
  rw [Managed.mk.injEq]
  simp only [managedNames, List.forall_mem_cons, List.not_mem_nil, false_implies, implies_true,
    and_true]
  exact and_congr (hiff readText_string _ _) <| and_congr (hiff hbool _ _) <|
    and_congr (hiff hlinks _ _) <| and_congr (hiff hlinks _ _) <|
    and_congr (hiff hservices _ _) (hiff hnodes _ _)

/-- The listing's entry and the full record together differ from a third record if a managed
attribute does. -/
theorem differsFrom_merge_eq_false_iff {listed full after : Entries}
    {record record' record'' : TokenRecord} (hlisted : Holds listed record)
    (hfull : Holds full record') (hafter : Holds after record'') :
    (merge record record').differsFrom record'' = false ↔
      ∀ name ∈ managedNames, carried (.object after) name =
        (carried (.object full) name).or (carried (.object listed) name) := by
  rw [differsFrom_eq_false_iff, toManaged_eq_iff]
  refine forall₂_congr fun name hname => ?_
  have hknown : name ∈ names := Desired.managedNames_subset hname
  rw [slot?_merge _ _ name hknown, hlisted.slot?_eq_carried hknown, hfull.slot?_eq_carried hknown,
    hafter.slot?_eq_carried hknown]
  exact eq_comm

end TokenRecord

/-! ## The documents of an update -/

open TokenRecord

/-- The document of a record carries the identifier that the record has. -/
theorem carried_accessor_iff {entries : Entries} {record : TokenRecord} {id : String}
    (h : Holds entries record) :
    carried (.object entries) "AccessorID" = some (.string id) ↔ record.accessor = some id := by
  rw [← h.slot?_eq_carried (by decide)]
  change record.accessor.map Json.string = some (.string id) ↔ _
  simp

/-- The last document of a listing that carries an identifier. -/
def lastCarrying (id : String) : Json → Option Json
  | .array items => items.reverse.find? fun item => carried item "AccessorID" = some (.string id)
  | _ => none

/-- An item that is found among items that are related in pairs. -/
theorem exists_find?_of_forall₂ {α β : Type} {R : α → β → Prop} {p : α → Bool} {q : β → Bool}
    (hpq : ∀ x y, R x y → p x = q y) {xs : List α} {ys : List β} (h : List.Forall₂ R xs ys) {y : β}
    (hy : ys.find? q = some y) : ∃ x, xs.find? p = some x ∧ R x y := by
  induction h with
  | nil => cases hy
  | @cons x' y' _ _ hR _ ih =>
    rw [List.find?_cons] at hy
    rw [List.find?_cons, hpq x' y' hR]
    cases hq : q y' with
    | true =>
      rw [hq] at hy
      cases hy
      exact ⟨x', rfl, hR⟩
    | false =>
      rw [hq] at hy
      exact ih hy

/-- The entry of a listing that counts for a token has the attributes of the last document that
carries the identifier. -/
theorem exists_lastCarrying_of_listing {node : Node} {records : List TokenRecord} {id : String}
    {listed : TokenRecord} (hread : Client.readListing node = .ok records)
    (hlisted : lastNamed records id = some listed) :
    ∃ entries, lastCarrying id node.shown = some (.object entries) ∧ Holds entries listed := by
  obtain ⟨items, rfl, hitems⟩ := Client.readListing_eq_ok_iff.1 hread
  have hshown : List.Forall₂ (fun document record =>
      ∃ entries, document = .object entries ∧ Holds entries record)
      (items.map Node.shown) records := by
    rw [List.forall₂_map_left_iff]
    exact hitems.imp fun _ _ hitem => exists_holds_of_read hitem
  have hnames (document : Json) (record : TokenRecord)
      (h : ∃ entries, document = .object entries ∧ Holds entries record) :
      decide (carried document "AccessorID" = some (.string id)) =
        (record.accessor == some id) := by
    obtain ⟨entries, rfl, hholds⟩ := h
    rw [beq_eq_decide]
    exact decide_eq_decide.2 (carried_accessor_iff hholds)
  obtain ⟨_, hfind, entries, rfl, hholds⟩ :=
    exists_find?_of_forall₂ hnames (List.rel_reverse hshown) hlisted
  refine ⟨entries, ?_, hholds⟩
  rw [← hfind, Node.shown, Node.shownItems_eq]
  rfl

/-- The documents of an update in its exchanges: the last one in the listing that carries the
identifier, the full record, and the answer to the update, which has a value. -/
def UpdateDocuments (id : String) (exchanges : List (Request × Reply))
    (listed full after : Json) : Prop :=
  ∃ self status listing status' record status'' answer,
    exchanges.map (fun (request, reply) => (request.method, request.path, reply)) =
      [(.get, "/agent/self", self), (.get, "/acl/tokens", .answer status listing),
        (.get, "/acl/token/" ++ id, .answer status' record),
        (.put, "/acl/token/" ++ id, .answer status'' answer)] ∧
    lastCarrying id (Document.ofText listing).root.shown = some listed ∧
    (Document.ofText record).root.shown = full ∧ Json.ofText answer = .ok after

theorem UpdateDocuments.unique {id : String} {exchanges : List (Request × Reply)}
    {listed full after listed' full' after' : Json}
    (h : UpdateDocuments id exchanges listed full after)
    (h' : UpdateDocuments id exchanges listed' full' after') :
    listed = listed' ∧ full = full' ∧ after = after' := by
  obtain ⟨_, _, _, _, _, _, _, hexchanges, hlisted, rfl, hafter⟩ := h
  obtain ⟨_, _, _, _, _, _, _, hexchanges', hlisted', rfl, hafter'⟩ := h'
  cases hexchanges.symm.trans hexchanges'
  exact ⟨Option.some.inj (hlisted.symm.trans hlisted'), rfl,
    Except.ok.inj (hafter.symm.trans hafter')⟩

namespace Client

variable {client : Client} {desired : Desired} {agent : Agent σ} {state : σ} {report : Report}

theorem exists_answer_of_accept {reply : Reply} {body : String}
    (h : client.accept reply = .ok body) : ∃ status, reply = .answer status body := by
  obtain ⟨status, heq, -⟩ := accept_eq_ok_iff.1 h
  exact ⟨status, heq⟩

/-- What ends as an update fetched the token and wrote it. -/
theorem act_of_update {version : Version} {found : Option TokenRecord}
    (hresult : ((client.act desired version found).transcript agent state).result = .ok report)
    (hupdate : report.operation = .update) :
    ∃ fetch update, ((client.act desired version found).transcript agent state).exchanges =
      [(client.asks .get (tokenPath desired.id), fetch),
        (client.writes (tokenPath desired.id) (desired.updateBody version), update)] := by
  cases found with
  | none =>
    cases hstate : desired.state with
    | absent =>
      simp only [act, hstate] at hresult
      cases hresult
      cases hupdate
    | present =>
      simp only [act, hstate, transcript_exchange] at hresult
      obtain ⟨answer, -, rfl⟩ := map_eq_ok_iff.1 hresult
      cases hupdate
  | some listed =>
    cases hstate : desired.state with
    | absent =>
      simp only [act, hstate, transcript_exchange] at hresult
      obtain ⟨body, -, rfl⟩ := map_eq_ok_iff.1 hresult
      cases hupdate
    | present =>
      simp only [act, hstate] at hresult ⊢
      cases hfull : client.recordOf (tokenPath desired.id)
          (agent.respond (client.asks .get (tokenPath desired.id)) state).1 with
      | error e =>
        rw [transcript_exchange_bind_error hfull] at hresult
        cases hresult
      | ok full =>
        rw [transcript_exchange_bind_ok hfull]
        exact ⟨_, _, rfl⟩

/-- A run that ends as an update has four exchanges. -/
theorem reconcile_of_update
    (hresult : ((client.reconcile desired).transcript agent state).result = .ok report)
    (hupdate : report.operation = .update) :
    ∃ version self listing fetch update,
      ((client.reconcile desired).transcript agent state).exchanges =
        [(client.asks .get agentPath, self), (client.asks .get listingPath, listing),
          (client.asks .get (tokenPath desired.id), fetch),
          (client.writes (tokenPath desired.id) (desired.updateBody version), update)] := by
  obtain ⟨e, -, hrun⟩ | ⟨_, e, -, -, hrun⟩ | ⟨version, listing, -, -, hrun⟩ :=
    client.transcript_reconcile desired agent state
  · rw [hrun] at hresult
    cases hresult
  · rw [hrun] at hresult
    cases hresult
  · rw [hrun] at hresult ⊢
    obtain ⟨fetch, update, hact⟩ := act_of_update hresult hupdate
    rw [Transcript.exchanges_prepend, Transcript.exchanges_prepend, hact]
    exact ⟨version, _, _, fetch, update, rfl⟩

/-- The documents of a run that ends as an update, and what it reports of them. -/
theorem exists_updateDocuments
    (hresult : ((client.reconcile desired).transcript agent state).result = .ok report)
    (hupdate : report.operation = .update) :
    ∃ listed full after, UpdateDocuments desired.id
        ((client.reconcile desired).transcript agent state).exchanges listed full after ∧
      report.token = some after ∧
      (report.changed = false ↔ ∀ name ∈ managedNames,
        carried after name = (carried full name).or (carried listed name)) := by
  obtain ⟨version, self, listing, fetch, update, hexchanges⟩ :=
    reconcile_of_update hresult hupdate
  obtain ⟨records, listed, full, hlisting, hlisted, hfull, hreport⟩ :=
    reconcile_of_four_exchanges hexchanges hresult
  obtain ⟨listingText, haccept, hlistingText⟩ := bind_eq_ok_iff.1 hlisting
  obtain ⟨status, rfl⟩ := exists_answer_of_accept haccept
  obtain ⟨fullText, haccept', hfullText⟩ := bind_eq_ok_iff.1 hfull
  obtain ⟨status', rfl⟩ := exists_answer_of_accept haccept'
  obtain ⟨answer, hanswer, hview⟩ := bind_eq_ok_iff.1 hreport
  obtain ⟨after, hafter, hreported⟩ := bind_eq_ok_iff.1 hview
  cases hreported
  obtain ⟨answerText, haccept'', hanswerText⟩ := bind_eq_ok_iff.1 hanswer
  obtain ⟨status'', rfl⟩ := exists_answer_of_accept haccept''
  -- Each of the three texts shows a document with the attributes of the record read from it.
  obtain ⟨listedEntries, hlast, hlistedHolds⟩ :=
    exists_lastCarrying_of_listing (decode_eq_ok_iff.1 hlistingText).2 hlisted
  obtain ⟨fullEntries, hfullShown, hfullHolds⟩ :=
    exists_holds_of_read (decode_eq_ok_iff.1 hfullText).2
  obtain ⟨afterEntries, rfl⟩ := exists_object_of_read (mapError_eq_ok_iff.1 hafter)
  obtain ⟨-, hafterHolds, -⟩ := read_object_iff.1 (mapError_eq_ok_iff.1 hafter)
  refine ⟨.object listedEntries, .object fullEntries, .object afterEntries, ?_, rfl,
    differsFrom_merge_eq_false_iff hlistedHolds hfullHolds hafterHolds⟩
  rw [hexchanges]
  exact ⟨_, _, _, _, _, _, _, rfl, hlast, hfullShown,
    Document.read_eq_ok_iff.2 (decode_eq_ok_iff.1 hanswerText)⟩

end Client

/-- A run that reports an update has its documents, and they decide what it reports. -/
theorem exists_documents_of_update {agent : Agent σ} {state : σ} {connection : Connection}
    {spec : TokenSpec} {report : Report}
    (hresult : ((reconcile connection spec).transcript agent state).result = .ok report)
    (hupdate : report.operation = .update) :
    ∃ listed full after, UpdateDocuments spec.id
        ((reconcile connection spec).transcript agent state).exchanges listed full after ∧
      report.token = some after ∧
      (report.changed = false ↔ ∀ name ∈ managedNames,
        carried after name = (carried full name).or (carried listed name)) := by
  obtain ⟨problems, hreconcile⟩ | hreconcile := reconcile_cases connection spec
  · rw [hreconcile] at hresult
    cases hresult
  · rw [hreconcile] at hresult ⊢
    exact Client.exists_updateDocuments hresult hupdate

/-- **What an update reports.** The token is the answer as it was parsed. Nothing has changed
exactly if the answer carries, under each managed name, what the full record carries there or, where
that carries nothing, what the last entry of the listing with the identifier carries. A text that has
a value shows this value. Lists of grants are compared grant by grant in their order, each by its own
fields, where null and nothing are the same. Two updates whose documents carry the same under the
managed names report the same, whatever else is different. -/
theorem update_reports :
    (∀ (σ : Type) (agent : Agent σ) (state : σ) (connection : Connection) (spec : TokenSpec)
      (report : Report),
      let run := (reconcile connection spec).transcript agent state
      run.result = .ok report → report.operation = .update →
      ∃ listed full after, UpdateDocuments spec.id run.exchanges listed full after ∧
        report.token = some after ∧
        (report.changed = false ↔ ∀ name ∈ managedNames,
          carried after name = (carried full name).or (carried listed name))) ∧
    (∀ (text : String) (value : Json), Json.ofText text = .ok value →
      (Document.ofText text).root.shown = value) ∧
    (∀ (name : String) (entries entries' : Entries) (items items' : List Json),
      grantNames name ≠ [] → Keyed.get? entries name = some (.array items) →
      Keyed.get? entries' name = some (.array items') →
      (carried (.object entries) name = carried (.object entries') name ↔
        List.Forall₂ (fun item item' => ∀ field ∈ (grantNames name).zipIdx,
          (item.part? field.2 field.1).getD .null = (item'.part? field.2 field.1).getD .null)
          items items')) ∧
    ∀ (σ σ' : Type) (agent : Agent σ) (agent' : Agent σ') (state : σ) (state' : σ')
      (connection connection' : Connection) (spec spec' : TokenSpec) (report report' : Report),
      let run := (reconcile connection spec).transcript agent state
      let run' := (reconcile connection' spec').transcript agent' state'
      run.result = .ok report → report.operation = .update →
      run'.result = .ok report' → report'.operation = .update →
      ∀ listed full after listed' full' after',
        UpdateDocuments spec.id run.exchanges listed full after →
        UpdateDocuments spec'.id run'.exchanges listed' full' after' →
        (∀ name ∈ managedNames, carried listed name = carried listed' name ∧
          carried full name = carried full' name ∧ carried after name = carried after' name) →
        report.changed = report'.changed := by
  refine ⟨fun σ agent state connection spec report => exists_documents_of_update,
    fun _ _ => Node.shown_root_of_ofText,
    fun _ _ _ _ _ hgrants hitems hitems' => carried_array_eq_iff hgrants hitems hitems', ?_⟩
  intro σ σ' agent agent' state state' connection connection' spec spec' report report' run run'
    hresult hupdate hresult' hupdate' listed full after listed' full' after' hdocuments
    hdocuments' hsame
  obtain ⟨_, _, _, hfound, -, hchanged⟩ := exists_documents_of_update hresult hupdate
  obtain ⟨rfl, rfl, rfl⟩ := hfound.unique hdocuments
  obtain ⟨_, _, _, hfound', -, hchanged'⟩ := exists_documents_of_update hresult' hupdate'
  obtain ⟨rfl, rfl, rfl⟩ := hfound'.unique hdocuments'
  have hiff : report.changed = false ↔ report'.changed = false := by
    rw [hchanged, hchanged']
    refine forall₂_congr fun name hname => ?_
    obtain ⟨hlisted, hfull, hafter⟩ := hsame name hname
    rw [hlisted, hfull, hafter]
  rw [Bool.eq_iff_iff, ← Bool.not_eq_false, ← Bool.not_eq_false, hiff]

/-! ## A token that the listing completes -/

/-- The exchanges of an update of a token with these bodies of the replies. -/
def updateExchanges (listing record answer : String) : List (Method × String × Reply) :=
  [(.get, "/agent/self", .answer 200 "\x7b\"Config\":\x7b\"Version\":\"1.8.0\"\x7d\x7d"),
    (.get, "/acl/tokens", .answer 200 listing), (.get, "/acl/token/a", .answer 200 record),
    (.put, "/acl/token/a", .answer 200 answer)]

/-- The script with these exchanges. -/
def exchangeScript (exchanges : List (Method × String × Reply)) : List Cue :=
  exchanges.map fun (method, path, reply) => ⟨method.name, path, reply⟩

/-- An update where the full record leaves open what the last entry of the listing tells, and where
a grant has a key too many with a numeral that has no value. -/
def completingExchanges : List (Method × String × Reply) :=
  updateExchanges
    ("[\x7b\"AccessorID\":\"a\"\x7d," ++
      "\x7b\"AccessorID\":\"a\",\"Policies\":[\x7b\"ID\":\"p\",\"Rank\":1e999\x7d]\x7d]")
    "\x7b\"Policies\":null,\"Roles\":[]\x7d"
    "\x7b\"Roles\":[],\"Policies\":[\x7b\"Name\":null,\"ID\":\"p\"\x7d],\"Hash\":\"h\"\x7d"

/-- An update that is alike under the managed names and different everywhere else. -/
def likewiseExchanges : List (Method × String × Reply) :=
  updateExchanges "[\x7b\"AccessorID\":\"a\",\"Hash\":1,\"Policies\":[[\"p\"]]\x7d,\x7b\x7d]"
    "\x7b\"Roles\":[]\x7d" "\x7b\"Policies\":[\x7b\"ID\":\"p\"\x7d],\"Roles\":[]\x7d"

/-- The documents of the update where the listing completes the record. -/
def completingDocuments : Json × Json × Json :=
  (.object [("AccessorID", .string "a"),
      ("Policies", .array [.object [("ID", .string "p"), ("Rank", .null)]])],
    .object [("Policies", .null), ("Roles", .array [])],
    .object [("Hash", .string "h"),
      ("Policies", .array [.object [("ID", .string "p"), ("Name", .null)]]), ("Roles", .array [])])

/-- The documents of the other update. -/
def likewiseDocuments : Json × Json × Json :=
  (.object [("AccessorID", .string "a"), ("Hash", .number (.int 1)),
      ("Policies", .array [.array [.string "p"]])],
    .object [("Roles", .array [])],
    .object [("Policies", .array [.object [("ID", .string "p")]]), ("Roles", .array [])])

theorem update_reports_of_script :
    let run := (reconcile {} { id := "a" }).transcript Agent.scripted
      (exchangeScript completingExchanges)
    let run' := (reconcile {} { id := "a", description := "d" }).transcript Agent.scripted
      (exchangeScript likewiseExchanges)
    ∃ report report', run.result = .ok report ∧ run'.result = .ok report' ∧
      report.operation = .update ∧ report'.operation = .update ∧
      report.token = some completingDocuments.2.2 ∧ report.changed = false ∧
      report.changed = report'.changed := by
  intro run run'
  obtain ⟨hreport, -, -, htwo⟩ := update_reports
  have hresult : run.result = .ok ⟨false, .update, some completingDocuments.2.2⟩ := by
    decide +kernel
  have hresult' : run'.result = .ok ⟨false, .update, some likewiseDocuments.2.2⟩ := by
    decide +kernel
  have hexchanges : run.exchanges.map (fun (request, reply) =>
      (request.method, request.path, reply)) = completingExchanges := by
    decide +kernel
  have hexchanges' : run'.exchanges.map (fun (request, reply) =>
      (request.method, request.path, reply)) = likewiseExchanges := by
    decide +kernel
  have hdocuments : UpdateDocuments "a" run.exchanges completingDocuments.1
      completingDocuments.2.1 completingDocuments.2.2 := by
    refine ⟨_, _, _, _, _, _, _, hexchanges, ?_, ?_, ?_⟩ <;> decide +kernel
  have hdocuments' : UpdateDocuments "a" run'.exchanges likewiseDocuments.1
      likewiseDocuments.2.1 likewiseDocuments.2.2 := by
    refine ⟨_, _, _, _, _, _, _, hexchanges', ?_, ?_, ?_⟩ <;> decide +kernel
  refine ⟨_, _, hresult, hresult', rfl, rfl, ?_, ?_, ?_⟩
  · obtain ⟨_, _, _, hfound, htoken, -⟩ := hreport _ _ _ _ _ _ hresult rfl
    obtain ⟨-, -, rfl⟩ := hfound.unique hdocuments
    exact htoken
  · obtain ⟨_, _, _, hfound, -, hchanged⟩ := hreport _ _ _ _ _ _ hresult rfl
    obtain ⟨rfl, rfl, rfl⟩ := hfound.unique hdocuments
    exact hchanged.2 (by decide +kernel)
  · exact htwo _ _ _ _ _ _ _ _ _ _ _ _ hresult rfl hresult' rfl _ _ _ _ _ _ hdocuments
      hdocuments' (by decide +kernel)

end TokenSync
