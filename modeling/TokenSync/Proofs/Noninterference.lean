import TokenSync.Proofs.Course
import TokenSync.Proofs.Effect

/-!
# What flows from replies into requests

A run holds much of what an agent has told it in hand when it writes a token. Of all this three
things decide what it sends: whether the listing names the token, and, for a token that should
exist, whether the agent's version knows service identities and node identities. Two runs for which
these are the same send the same requests, bodies included.
-/
namespace TokenSync

variable {σ σ' : Type}

/-! ## What the agent tells -/

/-- In these exchanges the agent has told a client its version, the tokens it lists and, if it was
asked for it, the record of a token. What it has answered to writing requests may be anything. -/
structure Tells (client : Client) (id : String) (exchanges : List (Request × Reply))
    (version : Version) (listing : List TokenRecord) : Prop where
  version : ∀ exchange ∈ exchanges, exchange.1 = client.asks .get Client.agentPath →
    client.versionOf exchange.2 = .ok version
  listing : ∀ exchange ∈ exchanges, exchange.1 = client.asks .get Client.listingPath →
    client.listingOf exchange.2 = .ok listing
  record : ∀ exchange ∈ exchanges, exchange.1 = client.asks .get (Client.tokenPath id) →
    ∃ record, client.recordOf (Client.tokenPath id) exchange.2 = .ok record

/-! ## What is sent -/

/-- The operation that a token calls for, which a listing may name. -/
def Desired.operation? (desired : Desired) (named : Bool) : Option Operation :=
  match desired.state, named with
  | .present, false => some .create
  | .present, true => some .update
  | .absent, false => none
  | .absent, true => some .remove

/-- The steps of an operation depend on the version by what its agents know, and only if the token
should exist. -/
theorem Operation.steps_congr {operation : Operation} {headers : List (String × String)}
    {desired : Desired} {version version' : Version}
    (hgates : operation.target = .present →
      version.knowsServiceIdentities = version'.knowsServiceIdentities ∧
      version.knowsNodeIdentities = version'.knowsNodeIdentities) :
    operation.steps headers desired version = operation.steps headers desired version' := by
  cases operation with
  | create =>
    obtain ⟨hservices, hnodes⟩ := hgates rfl
    simp only [steps, Desired.createBody, desired.writeEntries_congr hservices hnodes]
  | update =>
    obtain ⟨hservices, hnodes⟩ := hgates rfl
    simp only [steps, Desired.updateBody, desired.writeEntries_congr hservices hnodes]
  | remove => rfl

theorem Desired.target_of_operation? {desired : Desired} {named : Bool} {operation : Operation}
    (h : desired.operation? named = some operation) : operation.target = desired.state := by
  unfold operation? at h
  cases hstate : desired.state <;> cases named <;> simp only [hstate] at h <;> cases h <;> rfl

theorem isSome_lastNamed_iff {listing : List TokenRecord} {id : String} :
    (lastNamed listing id).isSome = true ↔ ∃ record ∈ listing, record.accessor = some id := by
  rw [Option.isSome_iff_ne_none, ne_eq, lastNamed_eq_none_iff]
  simp

namespace Client

/-- What is done about a token is all of an operation, if its record can be read when it is asked
for. -/
theorem requests_act (client : Client) {desired : Desired} (version : Version)
    (found : Option TokenRecord) (agent : Agent σ) (state : σ)
    (hrecord : ∀ exchange ∈ ((client.act desired version found).transcript agent state).exchanges,
      exchange.1 = client.asks .get (tokenPath desired.id) →
      ∃ record, client.recordOf (tokenPath desired.id) exchange.2 = .ok record) :
    ((client.act desired version found).transcript agent state).requests =
      (desired.operation? found.isSome).elim [] (·.steps client.headers desired version) := by
  cases found with
  | none =>
    cases hstate : desired.state with
    | absent =>
      simp only [act, Desired.operation?, hstate]
      rfl
    | present =>
      simp only [act, Desired.operation?, hstate]
      rfl
  | some listed =>
    cases hstate : desired.state with
    | absent =>
      simp only [act, Desired.operation?, hstate]
      rfl
    | present =>
      simp only [act, hstate] at hrecord
      simp only [act, Desired.operation?, hstate]
      have hread : ∃ record, client.recordOf (tokenPath desired.id)
          (agent.respond (client.asks .get (tokenPath desired.id)) state).1 = .ok record :=
        hrecord (_, _) List.mem_cons_self rfl
      obtain ⟨record, hread⟩ := hread
      rw [transcript_exchange_bind_ok hread]
      rfl

/-- **A run that is told what it asks for sends all requests of one operation**, or none beyond the
listing. -/
theorem requests_reconcile (client : Client) (desired : Desired) {agent : Agent σ} {state : σ}
    {version : Version} {listing : List TokenRecord}
    (h : Tells client desired.id ((client.reconcile desired).transcript agent state).exchanges
      version listing) :
    ((client.reconcile desired).transcript agent state).requests =
      client.asks .get agentPath :: client.asks .get listingPath ::
        (desired.operation? (lastNamed listing desired.id).isSome).elim []
          (·.steps client.headers desired version) := by
  obtain ⟨e, hversion, hrun⟩ | ⟨version', e, -, hlisting, hrun⟩ |
      ⟨version', listing', hversion, hlisting, hrun⟩ :=
    client.transcript_reconcile desired agent state
  · rw [hrun] at h
    cases hversion.symm.trans (h.version (_, _) List.mem_cons_self rfl)
  · rw [hrun] at h
    cases hlisting.symm.trans
      (h.listing (_, _) (List.mem_cons_of_mem _ List.mem_cons_self) rfl)
  · rw [hrun] at h ⊢
    obtain rfl : version' = version :=
      Except.ok.inj (hversion.symm.trans (h.version (_, _) List.mem_cons_self rfl))
    obtain rfl : listing' = listing := Except.ok.inj (hlisting.symm.trans
      (h.listing (_, _) (List.mem_cons_of_mem _ List.mem_cons_self) rfl))
    rw [Transcript.requests_prepend, Transcript.requests_prepend]
    rw [client.requests_act version' _ agent _ fun exchange hexchange =>
      h.record exchange (List.mem_cons_of_mem _ (List.mem_cons_of_mem _ hexchange))]

end Client

/-- **What an agent stores does not flow into what it is sent.** Two runs of one token, with agents
that tell what they are asked for, send the same requests if both listings name the token or
neither does, and if both versions know the same identities in case the token should exist. -/
theorem requests_eq_of_agreement {connection : Connection} {spec : TokenSpec}
    {configuration : Configuration} (hvalid : validate connection spec = .ok configuration)
    {agent : Agent σ} {state : σ} {version : Version} {listing : List TokenRecord}
    {agent' : Agent σ'} {state' : σ'} {version' : Version} {listing' : List TokenRecord}
    (htells : Tells connection.client spec.id
      ((reconcile connection spec).transcript agent state).exchanges version listing)
    (htells' : Tells connection.client spec.id
      ((reconcile connection spec).transcript agent' state').exchanges version' listing')
    (hgates : spec.state = .present →
      version.knowsServiceIdentities = version'.knowsServiceIdentities ∧
      version.knowsNodeIdentities = version'.knowsNodeIdentities)
    (hnamed : (∃ record ∈ listing, record.accessor = some spec.id) ↔
      ∃ record ∈ listing', record.accessor = some spec.id) :
    ((reconcile connection spec).transcript agent state).requests =
      ((reconcile connection spec).transcript agent' state').requests := by
  have hfound : (lastNamed listing spec.desired.id).isSome =
      (lastNamed listing' spec.desired.id).isSome :=
    Bool.eq_iff_iff.2 (isSome_lastNamed_iff.trans (hnamed.trans isSome_lastNamed_iff.symm))
  rw [reconcile_of_valid hvalid] at htells htells' ⊢
  have hrequests := connection.client.requests_reconcile spec.desired htells
  have hrequests' := connection.client.requests_reconcile spec.desired htells'
  rw [hrequests, hrequests', hfound]
  cases hoperation : spec.desired.operation? (lastNamed listing' spec.desired.id).isSome with
  | none => rfl
  | some operation =>
    have htarget : operation.target = spec.state := Desired.target_of_operation? hoperation
    simp only [Option.elim_some, Operation.steps_congr fun h => hgates (htarget.symm.trans h)]

/-- The replies of an agent of another version that lists another token too, has more to tell of the
token, and refuses to update it. -/
def tellingScript : List Cue :=
  [⟨"GET", "/agent/self", .answer 200 "\x7b\"Config\":\x7b\"Version\":\"1.10.2\"\x7d\x7d"⟩,
    ⟨"GET", "/acl/tokens", .answer 206
      "[\x7b\"AccessorID\":\"b\"\x7d,\x7b\"AccessorID\":\"a\",\"SecretID\":\"s\"\x7d]"⟩,
    ⟨"GET", "/acl/token/a",
      .answer 200 "\x7b\"AccessorID\":\"a\",\"Description\":\"d\",\"CreateIndex\":7\x7d"⟩,
    ⟨"PUT", "/acl/token/a", .answer 500 "rpc error"⟩]

theorem requests_eq_of_agreement_of_scripts :
    let run := (reconcile {} { id := "a" }).transcript Agent.scripted updateScript
    let run' := (reconcile {} { id := "a" }).transcript Agent.scripted tellingScript
    let client := ({} : Connection).client
    let listing := [{ TokenRecord.empty with accessor := some "a" }]
    let listing' := [{ TokenRecord.empty with accessor := some "b" },
      { TokenRecord.empty with accessor := some "a", secret := some "s" }]
    validate {} { id := "a" } = .ok ⟨{}, ({ id := "a" } : TokenSpec).desired⟩ ∧
      Tells client "a" run.exchanges ⟨"1", "8", "0", 180⟩ listing ∧
      Tells client "a" run'.exchanges ⟨"1", "10", "2", 1102⟩ listing' ∧
      run'.result = .error (.refused 500 "rpc error") ∧
      run.requests = run'.requests := by
  intro run run' client listing listing'
  have hvalid : validate {} { id := "a" } = .ok ⟨{}, ({ id := "a" } : TokenSpec).desired⟩ := by
    decide +kernel
  have htells : Tells client "a" run.exchanges ⟨"1", "8", "0", 180⟩ listing := by
    refine ⟨by decide +kernel, by decide +kernel, ?_⟩
    simp only [← failureOf_eq_none_iff]
    decide +kernel
  have htells' : Tells client "a" run'.exchanges ⟨"1", "10", "2", 1102⟩ listing' := by
    refine ⟨by decide +kernel, by decide +kernel, ?_⟩
    simp only [← failureOf_eq_none_iff]
    decide +kernel
  refine ⟨hvalid, htells, htells', by decide +kernel, ?_⟩
  exact requests_eq_of_agreement hvalid htells htells' (fun _ => ⟨rfl, rfl⟩) (by decide +kernel)

end TokenSync
