import Mathlib.Data.List.Perm.Subperm
import TokenSync.Proofs.Course
import TokenSync.Proofs.Serving
import TokenSync.Proofs.UpdateReport

/-!
# What a run sees of a listing

A listing may be of any length and in any order, it may name a token many times, and it may have
entries that name none. Its directory keeps the last entry of each identifier under this identifier,
and a run looks up one identifier in it. So the last entry of its own token is all that a run sees
of a listing, as long as every entry can be read.
-/
namespace TokenSync

open Json

variable {σ σ' : Type}

/-! ## Directories -/

theorem lastNamed_eq_some_iff {listing : List TokenRecord} {id : String} {record : TokenRecord} :
    lastNamed listing id = some record ↔
      ∃ earlier later, listing = earlier ++ record :: later ∧ record.accessor = some id ∧
        ∀ other ∈ later, other.accessor ≠ some id := by
  rw [lastNamed, List.find?_eq_some_iff_append]
  constructor
  · rintro ⟨hrecord, later, earlier, hlisting, hlater⟩
    refine ⟨earlier.reverse, later.reverse, ?_, by simpa using hrecord, by simpa using hlater⟩
    simpa using congrArg List.reverse hlisting
  · rintro ⟨earlier, later, rfl, hrecord, hlater⟩
    exact ⟨by simpa using hrecord, later.reverse, earlier.reverse, by simp, by simpa using hlater⟩

/-- The entries for other tokens do not count, wherever they stand. -/
theorem lastNamed_eq_getLast?_filter (listing : List TokenRecord) (id : String) :
    lastNamed listing id = (listing.filter fun record => record.accessor == some id).getLast? := by
  rw [lastNamed, ← List.head?_filter, List.filter_reverse, List.head?_reverse]

/-- A directory has the entries of a listing under their identifiers: each identifier is there once,
under it the last entry that has it, and nothing else. -/
structure Directory.Indexes (directory : Directory) (listing : List TokenRecord) : Prop where
  nodup_keys : (directory.map Prod.fst).Nodup
  mem_keys_iff : ∀ key, key ∈ directory.map Prod.fst ↔
    ∃ record ∈ listing, record.accessor = some key
  get?_eq_some_iff : ∀ key record, directory.get? key = some record ↔
    ∃ earlier later, listing = earlier ++ record :: later ∧ record.accessor = some key ∧
      ∀ other ∈ later, other.accessor ≠ some key
  accessor_eq : ∀ entry ∈ directory, entry.2.accessor = some entry.1
  /-- So the entries that are passed over can be counted. -/
  length_le : directory.length ≤ listing.length

namespace Directory

variable (listing : List TokenRecord)

theorem ordered_ofListing : Keyed.Ordered (ofListing listing) := Keyed.ordered_ofList _

theorem mem_keys_ofListing_iff (key : String) :
    key ∈ (ofListing listing).map Prod.fst ↔ ∃ record ∈ listing, record.accessor = some key := by
  have hnone : (ofListing listing).get? key = none ↔ lastNamed listing key = none := by
    rw [get?_ofListing]
  rw [Keyed.get?_eq_none_iff, lastNamed_eq_none_iff] at hnone
  simpa using not_congr hnone

theorem accessor_of_mem_ofListing {entry : String × TokenRecord} (h : entry ∈ ofListing listing) :
    entry.2.accessor = some entry.1 := by
  have hget : (ofListing listing).get? entry.1 = some entry.2 :=
    (ordered_ofListing listing).get?_of_mem h
  rw [get?_ofListing] at hget
  exact accessor_of_lastNamed hget

theorem length_ofListing_le : (ofListing listing).length ≤ listing.length := by
  have hsubset : (ofListing listing).map Prod.fst ⊆ listing.filterMap (·.accessor) := by
    intro key hkey
    simpa using (mem_keys_ofListing_iff listing key).1 hkey
  calc (ofListing listing).length
      = ((ofListing listing).map Prod.fst).length := (List.length_map _).symm
    _ ≤ (listing.filterMap (·.accessor)).length :=
      ((ordered_ofListing listing).nodup_keys.subperm hsubset).length_le
    _ ≤ listing.length := List.length_filterMap_le _ _

theorem indexes_ofListing : (ofListing listing).Indexes listing where
  nodup_keys := (ordered_ofListing listing).nodup_keys
  mem_keys_iff := mem_keys_ofListing_iff listing
  get?_eq_some_iff key record := by rw [get?_ofListing, lastNamed_eq_some_iff]
  accessor_eq _ := accessor_of_mem_ofListing listing
  length_le := length_ofListing_le listing

end Directory

/-! ## Replies that list tokens -/

namespace Client

/-- A reply lists these records if it does not refuse the request and its body is an array of
documents that are read as them, and nothing else. -/
theorem listingOf_eq_ok_iff {client : Client} {reply : Reply} {listing : List TokenRecord} :
    client.listingOf reply = .ok listing ↔
      ∃ status body items, reply = .answer status body ∧ isRefusal status = false ∧
        Document.ofText body = ⟨.array items, false⟩ ∧
        List.Forall₂ (fun item record => TokenRecord.read 1 item = .ok record) items listing := by
  unfold listingOf
  rw [bind_eq_ok_iff]
  constructor
  · rintro ⟨body, haccept, hdecode⟩
    obtain ⟨status, rfl, haccepted⟩ := accept_eq_ok_iff.1 haccept
    obtain ⟨hsurplus, hread⟩ := decode_eq_ok_iff.1 hdecode
    obtain ⟨items, hroot, hitems⟩ := readListing_eq_ok_iff.1 hread
    exact ⟨status, body, items, rfl, haccepted, hroot ▸ hsurplus ▸ rfl, hitems⟩
  · rintro ⟨status, body, items, rfl, haccepted, hdocument, hitems⟩
    refine ⟨body, accept_eq_ok_iff.2 ⟨status, rfl, haccepted⟩, decode_eq_ok_iff.2 ?_⟩
    rw [hdocument]
    exact ⟨rfl, readListing_eq_ok_iff.2 ⟨items, rfl, hitems⟩⟩

/-- An array with an entry that is no token is the wrong document. -/
theorem listingOf_of_unreadable (client : Client) {status : Nat} {body : String}
    (haccepted : isRefusal status = false) {items : List Node}
    (hitems : (Document.ofText body).root = .array items) {item : Node} (hitem : item ∈ items)
    (hunreadable : ∀ record, TokenRecord.read 1 item ≠ .ok record) :
    ∃ fault, client.listingOf (.answer status body) = .error (.document listingPath fault) := by
  have hlisting : client.listingOf (.answer status body) = decode listingPath readListing body := by
    unfold listingOf
    rw [accept_eq_ok_iff.2 ⟨status, rfl, haccepted⟩]
    rfl
  rw [hlisting]
  unfold decode
  cases hread : (Document.ofText body).read readListing with
  | error fault => exact ⟨fault, rfl⟩
  | ok listing =>
    obtain ⟨-, hroot⟩ := Document.read_eq_ok_iff.1 hread
    rw [hitems] at hroot
    obtain ⟨record, hrecord⟩ :=
      (exists_mapM_eq_ok_iff (f := TokenRecord.read 1)).1 ⟨listing, hroot⟩ item hitem
    exact absurd hrecord (hunreadable record)

end Client

/-! ## Paths -/

/-- The paths of a run's requests name no token but its own. -/
theorem Operation.path_of_mem_course {headers : List (String × String)} {desired : Desired}
    {version : Version} {operation : Operation} {q : Request}
    (h : q ∈ operation.course headers desired version) :
    q.path ∈ [Client.agentPath, Client.listingPath, Client.newTokenPath,
      Client.tokenPath desired.id] := by
  cases operation <;> simp only [course, steps, List.mem_cons, List.not_mem_nil, or_false] at h <;>
    (rcases h with rfl | rfl | rfl | rfl <;> simp)

/-- A path of one token that is among the paths of a run is that of its token. -/
theorem Client.eq_of_tokenPath_mem {accessor id : String}
    (h : tokenPath accessor ∈ [agentPath, listingPath, newTokenPath, tokenPath id]) :
    accessor = id := by
  simp only [List.mem_cons, List.not_mem_nil, or_false, tokenPath_ne_agentPath,
    tokenPath_ne_listingPath, tokenPath_ne_newTokenPath, false_or] at h
  exact tokenPath_injective h

/-! ## Two runs -/

/-- The replies to equal requests that two runs send after equally many others are the same. -/
def SameReplies (exchanges exchanges' : List (Request × Reply)) : Prop :=
  ∀ (i : Nat) (q : Request) (reply reply' : Reply), exchanges[i]? = some (q, reply) →
    exchanges'[i]? = some (q, reply') → reply = reply'

/-- **A dialogue is determined by the replies.** -/
theorem Dialogue.run_congr {α : Type} {d : Dialogue α} {agent : Agent σ} {state : σ}
    {agent' : Agent σ'} {state' : σ'}
    (h : SameReplies (d.run agent state).exchanges (d.run agent' state').exchanges) :
    (d.run agent state).result = (d.run agent' state').result ∧
      (d.run agent state).exchanges = (d.run agent' state').exchanges := by
  induction d generalizing state state' with
  | done a => exact ⟨rfl, rfl⟩
  | send q next ih =>
    have hreply : (agent.respond q state).1 = (agent'.respond q state').1 := h 0 q _ _ rfl rfl
    -- So both runs go on with one dialogue.
    simp only [run_send] at h ⊢
    rw [hreply] at h ⊢
    obtain ⟨hresult, hexchanges⟩ := ih _ fun i => h (i + 1)
    exact ⟨hresult, congrArg _ hexchanges⟩

/-- Two runs are told the same about a token: their listings have the same last entry for it, or
none, and all other replies are the same. -/
structure ToldAlike (client : Client) (id : String)
    (exchanges exchanges' : List (Request × Reply)) : Prop where
  listings : ∀ (q q' : Request) (reply reply' : Reply), exchanges[1]? = some (q, reply) →
    exchanges'[1]? = some (q', reply') → ∃ listing listing', client.listingOf reply = .ok listing ∧
      client.listingOf reply' = .ok listing' ∧ lastNamed listing id = lastNamed listing' id
  others : ∀ (i : Nat) (q : Request) (reply reply' : Reply), i ≠ 1 →
    exchanges[i]? = some (q, reply) → exchanges'[i]? = some (q, reply') → reply = reply'

theorem Client.reconcile_congr {client : Client} {desired : Desired} {agent : Agent σ} {state : σ}
    {agent' : Agent σ'} {state' : σ'}
    (h : ToldAlike client desired.id ((client.reconcile desired).transcript agent state).exchanges
      ((client.reconcile desired).transcript agent' state').exchanges) :
    ((client.reconcile desired).transcript agent state).result =
        ((client.reconcile desired).transcript agent' state').result ∧
      ((client.reconcile desired).transcript agent state).requests =
        ((client.reconcile desired).transcript agent' state').requests := by
  simp only [reconcile_eq] at h ⊢
  have hself : (agent.respond (client.asks .get agentPath) state).1 =
      (agent'.respond (client.asks .get agentPath) state').1 :=
    h.others 0 _ _ _ (by decide) rfl rfl
  cases hversion : client.versionOf (agent.respond (client.asks .get agentPath) state).1 with
  | error e =>
    rw [transcript_exchange_bind_error hversion,
      transcript_exchange_bind_error (hself ▸ hversion)]
    exact ⟨rfl, rfl⟩
  | ok version =>
    have hversion' : client.versionOf (agent'.respond (client.asks .get agentPath) state').1 =
        .ok version := hself ▸ hversion
    rw [transcript_exchange_bind_ok hversion, transcript_exchange_bind_ok hversion'] at h ⊢
    obtain ⟨listing, listing', hlisting, hlisting', hlast⟩ := h.listings _ _ _ _ rfl rfl
    rw [transcript_exchange_bind_ok hlisting, transcript_exchange_bind_ok hlisting', hlast] at h ⊢
    -- What is left of both runs is one dialogue.
    have hrest := fun i q reply reply' => h.others (i + 2) q reply reply' (by omega)
    obtain ⟨hresult, hexchanges⟩ := Dialogue.run_congr hrest
    exact ⟨hresult, congrArg (fun exchanges => _ :: _ :: List.map Prod.fst exchanges) hexchanges⟩

/-! ## Runs -/

section

variable {agent : Agent σ} {state : σ} {agent' : Agent σ'} {state' : σ'} {connection : Connection}
  {spec : TokenSpec}

theorem path_of_mem_requests {q : Request}
    (h : q ∈ ((reconcile connection spec).transcript agent state).requests) :
    q.path ∈ [Client.agentPath, Client.listingPath, Client.newTokenPath,
      Client.tokenPath spec.id] := by
  obtain ⟨problems, hreconcile⟩ | hreconcile := reconcile_cases connection spec
  · rw [hreconcile] at h
    cases h
  · rw [hreconcile] at h
    obtain ⟨operation, version, -, hcourse, -⟩ :=
      connection.client.reconcile_requests spec.desired agent state
    exact Operation.path_of_mem_course (hcourse.subset h)

/-- A run that cannot read the listing ends with it. -/
theorem reconcile_of_unlisted {q : Request} {reply : Reply} {e : Failure}
    (h : ((reconcile connection spec).transcript agent state).exchanges[1]? = some (q, reply))
    (hlisting : connection.client.listingOf reply = .error e) :
    ((reconcile connection spec).transcript agent state).result = .error e ∧
      ((reconcile connection spec).transcript agent state).requests =
        [connection.client.asks .get Client.agentPath,
          connection.client.asks .get Client.listingPath] := by
  obtain ⟨problems, hreconcile⟩ | hreconcile := reconcile_cases connection spec
  · rw [hreconcile] at h
    cases h
  · rw [hreconcile] at h ⊢
    obtain ⟨e', -, hrun⟩ | ⟨version, e', -, hlisting', hrun⟩ |
        ⟨version, listing, -, hlisting', hrun⟩ :=
      connection.client.transcript_reconcile spec.desired agent state
    all_goals rw [hrun] at h ⊢; cases h
    · cases hlisting'.symm.trans hlisting
      exact ⟨rfl, rfl⟩
    · cases hlisting'.symm.trans hlisting

/-- Runs that are told the same about their token do the same. -/
theorem reconcile_congr
    (h : ToldAlike connection.client spec.id
      ((reconcile connection spec).transcript agent state).exchanges
      ((reconcile connection spec).transcript agent' state').exchanges) :
    ((reconcile connection spec).transcript agent state).result =
        ((reconcile connection spec).transcript agent' state').result ∧
      ((reconcile connection spec).transcript agent state).requests =
        ((reconcile connection spec).transcript agent' state').requests := by
  obtain ⟨problems, hreconcile⟩ | hreconcile := reconcile_cases connection spec
  · rw [hreconcile]
    exact ⟨rfl, rfl⟩
  · rw [hreconcile] at h ⊢
    exact Client.reconcile_congr h

end

/-- The directory of a reply that lists readable documents. -/
theorem Client.listTokens_of_array (client : Client) {agent : Agent σ} {state : σ} {status : Nat}
    {body : String} {items : List Node}
    (hreply : (agent.respond (client.asks .get listingPath) state).1 = .answer status body)
    (haccepted : isRefusal status = false) (hbody : Document.ofText body = ⟨.array items, false⟩)
    (hreadable : ∀ item ∈ items, ∃ record, TokenRecord.read 1 item = .ok record) :
    ∃ listing, List.Forall₂ (fun item record => TokenRecord.read 1 item = .ok record)
        items listing ∧
      (client.listTokens.transcript agent state).result = .ok (Directory.ofListing listing) := by
  obtain ⟨listing, hlisting⟩ := exists_mapM_eq_ok_iff.2 hreadable
  have hitems := mapM_eq_ok_iff.1 hlisting
  refine ⟨listing, hitems, ?_⟩
  rw [listTokens_eq, transcript_exchange, hreply,
    listingOf_eq_ok_iff.2 ⟨status, body, items, rfl, haccepted, hbody, hitems⟩]
  rfl

/-- The identifiers of records are those that their documents carry. -/
theorem exists_accessor_iff_exists_carried {items : List Node} {listing : List TokenRecord}
    (h : List.Forall₂ (fun item record => TokenRecord.read 1 item = .ok record) items listing)
    (id : String) :
    (∃ record ∈ listing, record.accessor = some id) ↔
      ∃ item ∈ items, carried item.shown "AccessorID" = some (.string id) := by
  induction h with
  | nil => simp
  | @cons item record items listing hitem _ ih =>
    obtain ⟨entries, hshown, hholds⟩ := TokenRecord.exists_holds_of_read hitem
    simp only [List.exists_mem_cons_iff, ih, hshown, carried_accessor_iff hholds]

/-- **A run sees one entry of a listing.** An array of readable documents has a directory, with each
identifier that they carry once, and under it the last document that carries it. Whatever an agent
replies, the requests of a run name no token but its own, and so does the entry that a run takes
from the directory. An entry that cannot be read ends the run before anything is changed, wherever
it stands. If all can be read, two runs that are given listings with the same last entry for their
token, or with none, send the same requests and come to the same result. Listings have the same last
entry for a token if they have the same entries for it, whatever other entries stand between
them. -/
theorem run_sees_last_entry :
    (∀ (σ : Type) (agent : Agent σ) (state : σ) (client : Client) (status : Nat) (body : String)
      (items : List Node),
      (agent.respond (client.asks .get Client.listingPath) state).1 = .answer status body →
      Client.isRefusal status = false → Document.ofText body = ⟨.array items, false⟩ →
      (∀ item ∈ items, ∃ record, TokenRecord.read 1 item = .ok record) →
      ∃ listing directory,
        List.Forall₂ (fun item record => TokenRecord.read 1 item = .ok record) items listing ∧
        (client.listTokens.transcript agent state).result = .ok directory ∧
        directory.Indexes listing ∧
        ∀ key, key ∈ directory.map Prod.fst ↔
          ∃ item ∈ items, carried item.shown "AccessorID" = some (.string key)) ∧
    (∀ (σ : Type) (agent : Agent σ) (state : σ) (connection : Connection) (spec : TokenSpec),
      let client := connection.client
      let run := (reconcile connection spec).transcript agent state
      (∀ q ∈ run.requests,
        q.path ∈ [Client.agentPath, Client.listingPath, Client.newTokenPath,
          Client.tokenPath spec.id] ∧
        ∀ accessor, q.path = Client.tokenPath accessor → accessor = spec.id) ∧
      (∀ q reply listing entry, run.exchanges[1]? = some (q, reply) →
        client.listingOf reply = .ok listing →
        (Directory.ofListing listing).get? spec.id = some entry →
        entry.accessor = some spec.id) ∧
      ∀ q status body items item, run.exchanges[1]? = some (q, .answer status body) →
        Client.isRefusal status = false → (Document.ofText body).root = .array items →
        item ∈ items → (∀ record, TokenRecord.read 1 item ≠ .ok record) →
        (∃ fault, run.result = .error (.document Client.listingPath fault)) ∧
        run.requests =
          [client.asks .get Client.agentPath, client.asks .get Client.listingPath] ∧
        ∀ q ∈ run.requests, q.isWrite = false) ∧
    (∀ (σ σ' : Type) (agent : Agent σ) (state : σ) (agent' : Agent σ') (state' : σ')
      (connection : Connection) (spec : TokenSpec),
      let run := (reconcile connection spec).transcript agent state
      let run' := (reconcile connection spec).transcript agent' state'
      ToldAlike connection.client spec.id run.exchanges run'.exchanges →
      run.result = run'.result ∧ run.requests = run'.requests) ∧
    ∀ (id : String) (listing listing' : List TokenRecord),
      (listing.filter fun record => record.accessor == some id) =
        (listing'.filter fun record => record.accessor == some id) →
      lastNamed listing id = lastNamed listing' id := by
  refine ⟨?_, fun σ agent state connection spec => ⟨?_, ?_, ?_⟩, ?_, ?_⟩
  · intro σ agent state client status body items hreply haccepted hbody hreadable
    obtain ⟨listing, hitems, hresult⟩ :=
      client.listTokens_of_array hreply haccepted hbody hreadable
    refine ⟨listing, _, hitems, hresult, Directory.indexes_ofListing listing, fun key => ?_⟩
    rw [Directory.mem_keys_ofListing_iff, exists_accessor_iff_exists_carried hitems]
  · intro q hq
    have hpath := path_of_mem_requests hq
    exact ⟨hpath, fun accessor heq => Client.eq_of_tokenPath_mem (heq ▸ hpath)⟩
  · intro q reply listing entry _ _ hentry
    rw [Directory.get?_ofListing] at hentry
    exact accessor_of_lastNamed hentry
  · intro q status body items item hexchange haccepted hroot hitem hunreadable
    obtain ⟨fault, hlisting⟩ :=
      connection.client.listingOf_of_unreadable haccepted hroot hitem hunreadable
    obtain ⟨hresult, hrequests⟩ := reconcile_of_unlisted hexchange hlisting
    refine ⟨⟨fault, hresult⟩, hrequests, ?_⟩
    rw [hrequests]
    simp [Client.asks, Request.isWrite]
  · intro σ σ' agent state agent' state' connection spec
    exact reconcile_congr
  · intro id listing listing' hfilter
    rw [lastNamed_eq_getLast?_filter, hfilter, lastNamed_eq_getLast?_filter]

/-- The exchanges of an update of a token that is listed like this. -/
def listedExchanges (listing : String) : List (Method × String × Reply) :=
  updateExchanges listing "\x7b\"AccessorID\":\"a\"\x7d" "\x7b\"Local\":true\x7d"

/-- Only the second reply depends on the listing. -/
theorem reply_of_listedExchanges (listing listing' : String) {i : Nat} (hi : i ≠ 1) :
    ((listedExchanges listing).map (·.2.2))[i]? = ((listedExchanges listing').map (·.2.2))[i]? := by
  match i with
  | 0 | _ + 2 => rfl
  | 1 => exact absurd rfl hi

/-- The script with these exchanges. -/
def listingScript (listing : String) : List Cue := exchangeScript (listedExchanges listing)

/-- A listing that names a token twice and has an entry without identifier. -/
def repeatingListing : String :=
  "[\x7b\"AccessorID\":\"a\"\x7d,\x7b\"AccessorID\":null\x7d," ++
    "\x7b\"AccessorID\":\"a\",\"Local\":true\x7d]"

/-- A listing with the same last entry for this token, and with another token. -/
def rearrangedListing : String :=
  "[\x7b\"Local\":true,\"AccessorID\":\"a\"\x7d,\x7b\"AccessorID\":\"b\",\"Local\":false\x7d]"

/-- A listing with an entry that names an attribute twice. -/
def unreadableListing : String :=
  "[\x7b\"AccessorID\":\"a\"\x7d,\x7b\"Local\":true,\"Local\":true\x7d]"

theorem unreadableListing.exists_unreadable :
    ∃ items item, (Document.ofText unreadableListing).root = .array items ∧ item ∈ items ∧
      ∀ record, TokenRecord.read 1 item ≠ .ok record := by
  have hfault : Client.readListing (Document.ofText unreadableListing).root =
      .error (.mismatch (.duplicateField "Local")) := by
    decide +kernel
  generalize (Document.ofText unreadableListing).root = root at hfault
  rcases root with _ | _ | (_ | _) | (_ | _) | items | _ | _
  case array =>
    by_contra hnone
    simp only [not_exists, not_and, not_forall, not_not] at hnone
    obtain ⟨listing, hlisting⟩ := exists_mapM_eq_ok_iff.2 fun item => hnone items item rfl
    cases hlisting.symm.trans hfault
  all_goals cases hfault

theorem run_sees_last_entry_of_scripts :
    let client := ({} : Connection).client
    let run (listing : String) :=
      (reconcile {} { id := "a" }).transcript Agent.scripted (listingScript listing)
    (∃ directory : Directory,
      (client.listTokens.transcript Agent.scripted (listingScript repeatingListing)).result =
        .ok directory ∧ (directory.map Prod.fst).Nodup ∧
        ∀ key, key ∈ directory.map Prod.fst ↔ key = "a") ∧
      (∃ fault, (run unreadableListing).result = .error (.document Client.listingPath fault)) ∧
      (run repeatingListing).result =
        .ok ⟨false, .update, some (.object [("Local", .bool true)])⟩ ∧
      (run repeatingListing).result = (run rearrangedListing).result ∧
      (run repeatingListing).requests = (run rearrangedListing).requests := by
  intro client run
  obtain ⟨hdirectory, hrun, htwo, -⟩ := run_sees_last_entry
  have hlisted : client.listingOf (.answer 200 repeatingListing) = .ok
      [{ TokenRecord.empty with accessor := some "a" }, TokenRecord.empty,
        { TokenRecord.empty with accessor := some "a", isLocal := some true }] := by
    decide +kernel
  have hlisted' : client.listingOf (.answer 200 rearrangedListing) = .ok
      [{ TokenRecord.empty with accessor := some "a", isLocal := some true },
        { TokenRecord.empty with accessor := some "b", isLocal := some false }] := by
    decide +kernel
  refine ⟨?_, ?_, by decide +kernel, ?_⟩
  · obtain ⟨status, body, items, hreply, haccepted, hbody, hitems⟩ :=
      Client.listingOf_eq_ok_iff.1 hlisted
    cases hreply
    obtain ⟨listing, directory, hread, hresult, hindexes, -⟩ :=
      hdirectory _ Agent.scripted (listingScript repeatingListing) client 200 repeatingListing items
        (by decide +kernel) haccepted hbody
        (exists_mapM_eq_ok_iff.1 ⟨_, mapM_eq_ok_iff.2 hitems⟩)
    cases (mapM_eq_ok_iff.2 hread).symm.trans (mapM_eq_ok_iff.2 hitems)
    refine ⟨directory, hresult, hindexes.nodup_keys, fun key => ?_⟩
    rw [hindexes.mem_keys_iff]
    simp [TokenRecord.empty, eq_comm]
  · obtain ⟨items, item, hroot, hitem, hunreadable⟩ := unreadableListing.exists_unreadable
    obtain ⟨-, -, hends⟩ := hrun _ Agent.scripted (listingScript unreadableListing) {} { id := "a" }
    have hexchange : (run unreadableListing).exchanges[1]? =
        some (client.asks .get Client.listingPath, .answer 200 unreadableListing) := by
      decide +kernel
    exact (hends _ 200 unreadableListing items item hexchange rfl hroot hitem hunreadable).1
  · have hreplies : (run repeatingListing).exchanges.map Prod.snd =
        (listedExchanges repeatingListing).map (·.2.2) := by
      decide +kernel
    have hreplies' : (run rearrangedListing).exchanges.map Prod.snd =
        (listedExchanges rearrangedListing).map (·.2.2) := by
      decide +kernel
    have hat {exchanges : List (Request × Reply)} {replies : List Reply} {i : Nat} {q : Request}
        {reply : Reply} (h : exchanges.map Prod.snd = replies)
        (hexchange : exchanges[i]? = some (q, reply)) : replies[i]? = some reply := by
      rw [← h, List.getElem?_map, hexchange]
      rfl
    refine htwo _ _ Agent.scripted _ Agent.scripted _ {} { id := "a" } ⟨?_, ?_⟩
    · intro q q' reply reply' hexchange hexchange'
      cases hat hreplies hexchange
      cases hat hreplies' hexchange'
      exact ⟨_, _, hlisted, hlisted', by decide +kernel⟩
    · intro i q reply reply' hi hexchange hexchange'
      exact Option.some.inj ((hat hreplies hexchange).symm.trans
        ((reply_of_listedExchanges _ _ hi).trans (hat hreplies' hexchange')))

end TokenSync
