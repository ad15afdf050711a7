import TokenSync.Agent.Script
import TokenSync.Proofs.Exchange
import TokenSync.Proofs.RecordText
import TokenSync.Proofs.Rewriting

/-!
# A token before and after an update

What a token was before an update is read from a text directly, and what it is afterwards from the
value of a text. Where no object repeats a key both readings come to the same, and wherever both
succeed they give one record. So an agent that answers an update with the text it gave before has
not changed anything.
-/
namespace TokenSync

open Json

variable {τ : Type}

/-! ## Texts without repeated keys -/

namespace Json.Node

mutual
/-- Whether no object in a text has a key twice. -/
def keysOnce : Node → Bool
  | .array items => itemsKeysOnce items
  | .object entries => (entries.filterMap Prod.fst).Nodup && entriesKeysOnce entries
  | .null | .bool _ | .number _ | .string _ | .broken => true
termination_by structural node => node

/-- Whether no object in any of the items has a key twice. -/
def itemsKeysOnce : List Node → Bool
  | [] => true
  | item :: rest => item.keysOnce && itemsKeysOnce rest
termination_by structural items => items

/-- Whether no object under any of the entries has a key twice. -/
def entriesKeysOnce : List (Option String × Node) → Bool
  | [] => true
  | (_, value) :: rest => value.keysOnce && entriesKeysOnce rest
termination_by structural entries => entries
end

theorem keysOnce_of_mem_items {items : List Node} (h : itemsKeysOnce items = true) :
    ∀ item ∈ items, item.keysOnce = true := by
  induction items with
  | nil => nofun
  | cons item rest ih =>
    obtain ⟨hitem, hrest⟩ := Bool.and_eq_true_iff.1 h
    exact List.forall_mem_cons.2 ⟨hitem, ih hrest⟩

theorem keysOnce_of_mem_entries {entries : List (Option String × Node)}
    (h : entriesKeysOnce entries = true) : ∀ entry ∈ entries, entry.2.keysOnce = true := by
  induction entries with
  | nil => nofun
  | cons entry rest ih =>
    obtain ⟨hentry, hrest⟩ := Bool.and_eq_true_iff.1 h
    exact List.forall_mem_cons.2 ⟨hentry, ih hrest⟩

theorem namesOnce_of_keysOnce {node : Node} (h : node.keysOnce = true) (names : List String) :
    node.NamesOnce names := by
  cases node with
  | object entries =>
    have hnodup : (entries.filterMap Prod.fst).Nodup := by
      simpa using (Bool.and_eq_true_iff.1 h).1
    exact hnodup.filter _
  | _ => trivial

theorem namesOnce_nil (node : Node) : node.NamesOnce [] := by
  cases node with
  | object entries => simp [NamesOnce]
  | _ => trivial

/-- Without repeated keys neither a token nor one of its grants names a field twice. -/
theorem tokenNamesOnce_of_keysOnce {node : Node} (h : node.keysOnce = true) :
    node.TokenNamesOnce := by
  refine ⟨namesOnce_of_keysOnce h _, ?_⟩
  rintro entries rfl key part hpart items rfl item hitem
  have hparts : entriesKeysOnce entries = true := (Bool.and_eq_true_iff.1 h).2
  have hitems : itemsKeysOnce items = true := keysOnce_of_mem_entries hparts _ hpart
  exact namesOnce_of_keysOnce (keysOnce_of_mem_items hitems item hitem) _

end Json.Node

/-! ## Texts that are read directly -/

/-- A text that has a value and is read is of this kind. -/
def Ensures (read : Node → Except Fault τ) (kind : Node → Prop) : Prop :=
  ∀ ⦃room : Nat⦄ ⦃node : Node⦄ ⦃value : Json⦄ ⦃t : τ⦄, node.toJson room = .ok value →
    read node = .ok t → kind node

theorem Ensures.list {read : Node → Except Fault τ} {kind : Node → Prop} (h : Ensures read kind) :
    Ensures (readList read) (Node.Each kind) := by
  intro room node value contents hvalue hread
  cases Node.shows_of_toJson hvalue with
  | @array items values hitems =>
    have hvalues : ∀ item ∈ items, ∃ value, item.toJson (room - 1) = .ok value :=
      ((List.forall₂_and_left _ _).1
        (hitems.imp fun item value hitem => ⟨⟨value, hitem⟩, hitem⟩)).1
    rintro _ ⟨⟩ item hitem
    obtain ⟨value, hvalue⟩ := hvalues item hitem
    obtain ⟨t, -, ht⟩ := exists_mem_of_mapM hread hitem
    exact h hvalue ht
  | _ => rintro _ ⟨⟩

theorem Ensures.optional {read : Node → Except Fault τ} {kind : Node → Prop}
    (h : Ensures read kind) (hnull : kind .null) : Ensures (readOptional read) kind := by
  intro room node value content hvalue hread
  cases Node.shows_of_toJson hvalue with
  | null => exact hnull
  | _ =>
    obtain ⟨t, ht, -⟩ := map_eq_ok_iff.1 hread
    exact h hvalue ht

/-- A structure that is read names each of its fields once at most. -/
theorem ensures_structure {name : String} {checks : List (Check Node)}
    (hnodup : (checkNames checks).Nodup) (f : Given Node → Except Fault τ) :
    Ensures (fun node => readStructure name checks node >>= f)
      (Node.NamesOnce (checkNames checks)) := by
  intro room node value t hvalue hread
  obtain ⟨given, hgiven, -⟩ := bind_eq_ok_iff.1 hread
  cases Node.shows_of_toJson hvalue with
  | @object named hnamed =>
    have hignore (entry : String × Node) (hentry : entry ∈ named)
        (_ : entry.1 ∉ checkNames checks) : Source.ignore entry.2 = .ok () :=
      Node.ignore_of_toJson (hnamed entry hentry)
    exact Node.namesOnce_object.2 ((readStructure_eq_ok_iff hnodup rfl hignore).1 hgiven).1
  | _ => trivial

theorem Link.ensures : Ensures Link.read (Node.NamesOnce ["ID", "Name"]) :=
  ensures_structure (by decide) _

theorem ServiceIdentity.ensures :
    Ensures ServiceIdentity.read (Node.NamesOnce ["ServiceName", "Datacenters"]) :=
  ensures_structure (by decide) _

theorem NodeIdentity.ensures :
    Ensures NodeIdentity.read (Node.NamesOnce ["NodeName", "Datacenter"]) :=
  ensures_structure (by decide) _

theorem grantNames_cases (key : String) :
    (key = "Policies" ∨ key = "Roles") ∨ key = "ServiceIdentities" ∨ key = "NodeIdentities" ∨
      grantNames key = [] := by
  unfold grantNames
  split <;> simp

namespace TokenRecord

theorem grantsNameOnce_of_contentOf {named : List (String × Node)} {key : String} {part : Node}
    (honce : Keyed.Once names named) (hname : key ∈ names) (hmem : (key, part) ∈ named)
    {room : Nat} {value : Json} (hvalue : part.toJson room = .ok value)
    {read : Node → Except Fault τ} (h : Ensures read (Node.NamesOnce (grantNames key)))
    {content : Option (List τ)}
    (hcontent : contentOf named (optionalField key (readList read)) = .ok content) :
    grantsNameOnce key part := by
  rw [contentOf_of_some (honce.get?_of_mem hname hmem)] at hcontent
  exact h.list.optional (by rintro _ ⟨⟩) hvalue hcontent

/-- A token that is read names no field twice, and no more do its grants. -/
theorem tokenNamesOnce_of_read {depth : Nat} {node : Node} {value : Json} {record : TokenRecord}
    (hread : TokenRecord.read depth node = .ok record)
    (hvalue : node.toJson (depthLimit - depth) = .ok value) : node.TokenNamesOnce := by
  have hroom : depthLimit - depth - 1 = depthLimit - (depth + 1) := Nat.sub_sub _ _ _
  cases hroom ▸ Node.shows_of_toJson hvalue with
  | @object named hnamed =>
    obtain ⟨honce, hholds, -⟩ :=
      (read_eq_ok_iff rfl fun entry hentry _ => hnamed entry hentry).1 hread
    refine ⟨Node.namesOnce_object.2 honce, ?_⟩
    rintro _ ⟨⟩ key part hpart
    have hmem : (key, part) ∈ named := by simpa [asLayer] using hpart
    have hpartValue := hnamed _ hmem
    rcases grantNames_cases key with (rfl | rfl) | rfl | rfl | hnone
    · exact grantsNameOnce_of_contentOf honce (by decide) hmem hpartValue Link.ensures
        hholds.policies
    · exact grantsNameOnce_of_contentOf honce (by decide) hmem hpartValue Link.ensures
        hholds.roles
    · exact grantsNameOnce_of_contentOf honce (by decide) hmem hpartValue ServiceIdentity.ensures
        hholds.serviceIdentities
    · exact grantsNameOnce_of_contentOf honce (by decide) hmem hpartValue NodeIdentity.ensures
        hholds.nodeIdentities
    · rw [grantsNameOnce, hnone]
      exact fun _ _ item _ => item.namesOnce_nil
  | _ => exact ⟨trivial, by rintro _ ⟨⟩⟩

theorem exists_object_of_read {depth : Nat} {value : Json} {record : TokenRecord}
    (h : TokenRecord.read depth value = .ok record) : ∃ entries, value = .object entries := by
  cases value with
  | object entries => exact ⟨entries, rfl⟩
  | _ => cases h

end TokenRecord

/-! ## Two readings -/

namespace Client

variable {path text : String} {record : TokenRecord}

/-- A text is read in two steps if it has a value and this value is read. -/
theorem decode_bind_viewToken_eq_ok_iff :
    (decode path (readValue depthLimit) text >>= viewToken path) = .ok record ↔
      ∃ value, Json.ofText text = .ok value ∧ TokenRecord.read 0 value = .ok record := by
  rw [bind_eq_ok_iff]
  refine exists_congr fun value => and_congr ?_ mapError_eq_ok_iff
  exact decode_eq_ok_iff.trans Document.read_eq_ok_iff.symm

/-- The readings agree on a text in which neither the token nor a grant names a field twice. -/
theorem decode_eq_ok_iff_twoSteps {value : Json} (hvalue : Json.ofText text = .ok value)
    (honce : (Document.ofText text).root.TokenNamesOnce) :
    decode path (TokenRecord.read 0) text = .ok record ↔
      (decode path (readValue depthLimit) text >>= viewToken path) = .ok record := by
  obtain ⟨hsurplus, htree⟩ := Document.read_eq_ok_iff.1 hvalue
  have halike := TokenRecord.read_alike (show 0 < depthLimit by decide) htree honce 0
  rw [decode_eq_ok_iff, decode_bind_viewToken_eq_ok_iff]
  constructor
  · rintro ⟨-, hread⟩
    exact ⟨value, hvalue, (halike record).1 hread⟩
  · rintro ⟨value', hvalue', hread⟩
    obtain rfl := Except.ok.inj (hvalue.symm.trans hvalue')
    exact ⟨hsurplus, (halike record).2 hread⟩

/-- Where both readings succeed they give one record. -/
theorem eq_of_decode_of_twoSteps {record' : TokenRecord}
    (hdirect : decode path (TokenRecord.read 0) text = .ok record)
    (htwo : (decode path (readValue depthLimit) text >>= viewToken path) = .ok record') :
    record = record' := by
  obtain ⟨value, hvalue, -⟩ := decode_bind_viewToken_eq_ok_iff.1 htwo
  obtain ⟨-, htree⟩ := Document.read_eq_ok_iff.1 hvalue
  have honce := TokenRecord.tokenNamesOnce_of_read (decode_eq_ok_iff.1 hdirect).2 htree
  exact Except.ok.inj (((decode_eq_ok_iff_twoSteps hvalue honce).1 hdirect).symm.trans htwo)

end Client

/-! ## One text before and after -/

namespace TokenRecord

/-- An entry of a listing that tells no more adds nothing to what the full record manages. -/
theorem toManaged_merge {listed full : TokenRecord}
    (h : ∀ name ∈ managedNames, full.slot? name = none → listed.slot? name = none) :
    (merge listed full).toManaged = full.toManaged := by
  have hor {τ : Type} {write : τ → Json} {told known : Option τ}
      (h : told.map write = none → known.map write = none) : told.or known = told := by
    cases told with
    | none => exact (Option.none_or).trans (Option.map_eq_none_iff.1 (h rfl))
    | some a => rfl
  simp only [managedNames, List.forall_mem_cons] at h
  obtain ⟨hdescription, hlocal, hpolicies, hroles, hservices, hnodes, -⟩ := h
  change Managed.mk _ _ _ _ _ _ = Managed.mk _ _ _ _ _ _
  rw [hor hdescription, hor hlocal, hor hpolicies, hor hroles, hor hservices, hor hnodes]

/-- An attribute that is missing in a record has nothing under its name in the document. -/
theorem present?_eq_none_of_read {depth : Nat} {entries : Entries} {record : TokenRecord}
    (h : TokenRecord.read depth (Json.object entries) = .ok record) {name : String}
    (hname : name ∈ names) (hslot : record.slot? name = none) : present? entries name = none := by
  obtain ⟨-, hholds, -⟩ := read_object_iff.1 h
  rw [hholds.slot?_eq name hname] at hslot
  unfold present?
  cases hget : entries.get? name with
  | none => rfl
  | some value =>
    rw [hget] at hslot
    by_cases hnull : value = .null
    · simp [hnull]
    · exact nomatch (if_neg fun hboth => hnull hboth.2).symm.trans hslot

/-- An attribute that has nothing under its name in the document of a record is missing there. -/
theorem slot?_eq_none_of_present? {record : TokenRecord} {name : String} (hname : name ∈ names)
    (h : present? record.entries name = none) : record.slot? name = none := by
  cases hslot : record.slot? name with
  | none => rfl
  | some value =>
    rw [present?, get?_entries, hslot, Option.some_or, ← hslot, record.filter_slot? name hname,
      hslot] at h
    exact h

end TokenRecord

namespace Client

theorem accept_answer_eq {client : Client} {status : Nat} {text body : String}
    (h : client.accept (.answer status text) = .ok body) : body = text := by
  obtain ⟨status', heq, -⟩ := accept_eq_ok_iff.1 h
  cases heq
  rfl

/-- An update that is answered with the text of the record changes nothing. -/
theorem changed_eq_false_of_same_text {client : Client} {id text : String}
    {listed full : TokenRecord} {status status' : Nat} {report : Report}
    (hfull : client.recordOf (tokenPath id) (.answer status text) = .ok full)
    (hreport : client.updateReport id (.merge listed full) (.answer status' text) = .ok report)
    (hcovered : ∀ entries, Json.ofText text = .ok (.object entries) →
      ∀ name ∈ TokenRecord.managedNames, TokenRecord.present? entries name = none →
        TokenRecord.present? listed.entries name = none) :
    report.changed = false := by
  obtain ⟨body, hbody, hdirect⟩ := bind_eq_ok_iff.1 hfull
  obtain rfl := accept_answer_eq hbody
  obtain ⟨answer, hanswer, hreport⟩ := bind_eq_ok_iff.1 hreport
  obtain ⟨after, hafter, hreport⟩ := bind_eq_ok_iff.1 hreport
  cases hreport
  obtain ⟨body', hbody', hdocument⟩ := bind_eq_ok_iff.1 hanswer
  obtain rfl := accept_answer_eq hbody'
  -- The text was read directly before the update and in two steps after it.
  have htwo := bind_eq_ok_iff.2 ⟨answer, hdocument, hafter⟩
  obtain rfl : full = after := eq_of_decode_of_twoSteps hdirect htwo
  obtain ⟨value, hvalue, hread⟩ := decode_bind_viewToken_eq_ok_iff.1 htwo
  obtain ⟨entries, rfl⟩ := TokenRecord.exists_object_of_read hread
  refine TokenRecord.differsFrom_eq_false_iff.2 (TokenRecord.toManaged_merge fun name hname h => ?_)
  have hknown : name ∈ TokenRecord.names := Desired.managedNames_subset hname
  exact TokenRecord.slot?_eq_none_of_present? hknown
    (hcovered entries hvalue name hname (TokenRecord.present?_eq_none_of_read hread hknown h))

variable {σ : Type} {client : Client} {desired : Desired} {agent : Agent σ} {state : σ}
  {report : Report}

/-- What is done in two exchanges is an update. -/
theorem act_of_two_exchanges {version : Version} {found : Option TokenRecord}
    {fetch update : Request × Reply}
    (h : ((client.act desired version found).transcript agent state).exchanges = [fetch, update])
    (hresult : ((client.act desired version found).transcript agent state).result = .ok report) :
    ∃ listed full, found = some listed ∧
      client.recordOf (tokenPath desired.id) fetch.2 = .ok full ∧
      client.updateReport desired.id (.merge listed full) update.2 = .ok report := by
  cases found with
  | none => cases hstate : desired.state <;> simp only [act, hstate] at h <;> cases h
  | some listed =>
    cases hstate : desired.state with
    | absent =>
      simp only [act, hstate] at h
      cases h
    | present =>
      simp only [act, hstate] at h hresult
      cases hfull : client.recordOf (tokenPath desired.id)
          (agent.respond (client.asks .get (tokenPath desired.id)) state).1 with
      | error e =>
        rw [transcript_exchange_bind_error hfull] at h
        cases h
      | ok full =>
        rw [transcript_exchange_bind_ok hfull] at h hresult
        cases h
        exact ⟨listed, full, rfl, hfull, hresult⟩

/-- A run of four exchanges is an update. -/
theorem reconcile_of_four_exchanges {self listing fetch update : Request × Reply}
    (h : ((client.reconcile desired).transcript agent state).exchanges =
      [self, listing, fetch, update])
    (hresult : ((client.reconcile desired).transcript agent state).result = .ok report) :
    ∃ records listed full, client.listingOf listing.2 = .ok records ∧
      lastNamed records desired.id = some listed ∧
      client.recordOf (tokenPath desired.id) fetch.2 = .ok full ∧
      client.updateReport desired.id (.merge listed full) update.2 = .ok report := by
  obtain ⟨e, -, hrun⟩ | ⟨version, e, -, -, hrun⟩ | ⟨version, records, -, hlisting, hrun⟩ :=
    client.transcript_reconcile desired agent state
  · rw [hrun] at h
    cases h
  · rw [hrun] at h
    cases h
  · rw [hrun] at h hresult
    obtain ⟨-, hrest⟩ := List.cons.inj h
    obtain ⟨rfl, hact⟩ := List.cons.inj hrest
    obtain ⟨listed, full, hfound, hfull, hreport⟩ := act_of_two_exchanges hact hresult
    exact ⟨records, listed, full, hlisting, hfound, hfull, hreport⟩

end Client

/-! ## Agreement -/

open TokenRecord

/-- **Both readings of a token agree.** On a text without repeated keys that has a value, reading it
directly succeeds exactly if reading it in two steps does, and with the same record; on any text the
records are the same if both readings succeed. So an update whose two answers have one text changes
nothing, as long as the listing tells no more of the token than this text. -/
theorem readings_agree :
    (∀ (path text : String) (value : Json), Json.ofText text = .ok value →
      (Document.ofText text).root.keysOnce = true → ∀ record,
        (Client.decode path (TokenRecord.read 0) text = .ok record ↔
          (Client.decode path (readValue depthLimit) text >>= Client.viewToken path) =
            .ok record)) ∧
    (∀ (path text : String) (record record' : TokenRecord),
      Client.decode path (TokenRecord.read 0) text = .ok record →
      (Client.decode path (readValue depthLimit) text >>= Client.viewToken path) = .ok record' →
      record = record') ∧
    ∀ (σ : Type) (agent : Agent σ) (state : σ) (connection : Connection) (spec : TokenSpec)
      (configuration : Configuration), validate connection spec = .ok configuration →
      ∀ (self listing : Request × Reply) (fetch update : Request) (status status' : Nat)
        (text : String) (report : Report),
        let run := (reconcile connection spec).transcript agent state
        run.exchanges = [self, listing, (fetch, .answer status text),
          (update, .answer status' text)] →
        (∀ records listed entries, connection.client.listingOf listing.2 = .ok records →
          lastNamed records spec.id = some listed → Json.ofText text = .ok (.object entries) →
          ∀ name ∈ managedNames, present? entries name = none →
            present? listed.entries name = none) →
        run.result = .ok report → report.changed = false := by
  refine ⟨fun path text value hvalue honce record => ?_,
    fun path text record record' => Client.eq_of_decode_of_twoSteps, ?_⟩
  · exact Client.decode_eq_ok_iff_twoSteps hvalue (Node.tokenNamesOnce_of_keysOnce honce)
  · intro σ agent state connection spec configuration hvalid self listing fetch update status
      status' text report run hexchanges hcovered hresult
    simp only [run, reconcile_of_valid hvalid] at hexchanges hresult
    obtain ⟨records, listed, full, hlisting, hlisted, hfull, hreport⟩ :=
      Client.reconcile_of_four_exchanges hexchanges hresult
    exact Client.changed_eq_false_of_same_text hfull hreport fun entries =>
      hcovered records listed entries hlisting hlisted

/-! ## A token with a repeated key -/

/-- The text of a token in which no key stands twice. -/
def plainText : String := "\x7b\"Hash\":1,\"Description\":\"d\"\x7d"

/-- The text of a token in which a key stands twice that is no attribute. -/
def twiceText : String := "\x7b\"Hash\":1,\"Description\":\"d\",\"Hash\":2\x7d"

/-- The record of these texts, up to what stands last under the key. -/
def hashRecord (hash : Int) : TokenRecord :=
  { TokenRecord.empty with description := some "d", extra := [("Hash", .number (.int hash))] }

/-- The replies of an agent that answers an update with the text it gave before. -/
def sameTextScript : List Cue :=
  [⟨"GET", "/agent/self", .answer 200 "\x7b\"Config\":\x7b\"Version\":\"1.8.0\"\x7d\x7d"⟩,
    ⟨"GET", "/acl/tokens", .answer 200 "[\x7b\"AccessorID\":\"a\"\x7d]"⟩,
    ⟨"GET", "/acl/token/a", .answer 200 twiceText⟩,
    ⟨"PUT", "/acl/token/a", .answer 201 twiceText⟩]

theorem readings_agree_of_script :
    let path := "/acl/token/a"
    let run := (reconcile {} { id := "a" }).transcript Agent.scripted sameTextScript
    let report : Report := ⟨false, .update, some (hashRecord 2).toJson⟩
    (Client.decode path (readValue depthLimit) plainText >>= Client.viewToken path) =
        .ok (hashRecord 1) ∧
      Client.decode path (TokenRecord.read 0) twiceText = .ok (hashRecord 2) ∧
      (∀ record, (Client.decode path (readValue depthLimit) twiceText >>=
        Client.viewToken path) = .ok record → hashRecord 2 = record) ∧
      run.result = .ok report ∧ report.changed = false := by
  intro path run report
  let client := ({} : Connection).client
  obtain ⟨hiff, hunique, hsame⟩ := readings_agree
  have hplain : Client.decode path (TokenRecord.read 0) plainText = .ok (hashRecord 1) := by
    decide +kernel
  have htwice : Client.decode path (TokenRecord.read 0) twiceText = .ok (hashRecord 2) := by
    decide +kernel
  have hvalue : Json.ofText plainText = .ok (hashRecord 1).toJson := by decide +kernel
  have hvalid : validate {} { id := "a" } = .ok ⟨{}, ({ id := "a" } : TokenSpec).desired⟩ := by
    decide +kernel
  have hresult : run.result = .ok report := by decide +kernel
  refine ⟨(hiff path plainText _ hvalue (by decide +kernel) _).1 hplain, htwice,
    fun record => hunique path twiceText _ record htwice, hresult, ?_⟩
  have hexchanges : run.exchanges =
      [(client.asks .get Client.agentPath,
          .answer 200 "\x7b\"Config\":\x7b\"Version\":\"1.8.0\"\x7d\x7d"),
        (client.asks .get Client.listingPath, .answer 200 "[\x7b\"AccessorID\":\"a\"\x7d]"),
        (client.asks .get path, .answer 200 twiceText),
        (client.writes path (({ id := "a" } : TokenSpec).desired.updateBody ⟨"1", "8", "0", 180⟩),
          .answer 201 twiceText)] := by
    decide +kernel
  have hlisting : client.listingOf (.answer 200 "[\x7b\"AccessorID\":\"a\"\x7d]") =
      .ok [{ TokenRecord.empty with accessor := some "a" }] := by
    decide +kernel
  have hbare : ∀ name ∈ managedNames,
      present? { TokenRecord.empty with accessor := some "a" }.entries name = none := by
    decide +kernel
  refine hsame _ _ _ {} { id := "a" } _ hvalid _ _ _ _ _ _ _ _ hexchanges ?_ hresult
  intro records listed entries hrecords hlisted _ name hname _
  cases hlisting.symm.trans hrecords
  cases hlisted
  exact hbare name hname

end TokenSync
