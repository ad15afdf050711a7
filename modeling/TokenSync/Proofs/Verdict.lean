import TokenSync.Agent.Script
import TokenSync.Proofs.Serving

/-!
# The reply that a run fails on

Whether a reply lets a run go on is decided by the request that it answers and by nothing else: it
has to be there, its status must not refuse the request, and its body has to be what belongs at the
path. A run goes on as long as its replies pass. The first one that does not is the last one it
gets, and is what the run fails with.
-/
namespace TokenSync

open Json

variable {σ ε α β : Type}

/-! ## The verdict on a reply -/

namespace Request

/-- The fault of a body that answers a request, if it is not the document that is asked for. What
comes back from a removal does not matter, and what a new token is answered with need only be a
document that is not nested too deep. -/
def fault? (q : Request) (body : String) : Option Fault :=
  match q.method with
  | .delete => none
  | .get =>
    if q.path = Client.agentPath then
      failureOf ((Document.ofText body).read Client.readAgentSelf)
    else if q.path = Client.listingPath then
      failureOf ((Document.ofText body).read Client.readListing)
    else failureOf ((Document.ofText body).read (TokenRecord.read 0))
  | .put =>
    match (Document.ofText body).read (readValue depthLimit) with
    | .error fault => some fault
    | .ok document =>
      if q.path = Client.newTokenPath then none else failureOf (TokenRecord.read 0 document)

/-- Why the version in a body that answers a request for it cannot be read. -/
def versionError? (q : Request) (body : String) : Option VersionError :=
  if q.method = .get ∧ q.path = Client.agentPath then
    match (Document.ofText body).read Client.readAgentSelf with
    | .ok text => failureOf (Version.parse text)
    | .error _ => none
  else none

end Request

/-- Why a reply ends a run that is held over a connection, if it does. -/
def Connection.failure? (connection : Connection) (q : Request) : Reply → Option Failure
  | .unreachable reason => some (.unreachable connection.host connection.port reason)
  | .answer status body =>
    if 400 ≤ status ∧ status < 600 then some (.refused status body)
    else match q.fault? body with
      | some fault => some (.document q.path fault)
      | none => (q.versionError? body).map .version

/-- The settings are no matter of the replies. -/
theorem Connection.failure?_ne_settings (connection : Connection) (q : Request) (reply : Reply)
    (problems : List Problem) : connection.failure? q reply ≠ some (.settings problems) := by
  cases reply with
  | unreachable reason => simp [failure?]
  | answer status body =>
    simp only [failure?]
    split
    · simp
    · cases q.fault? body <;> simp

/-! ## Dialogues that heed a verdict -/

/-- A dialogue that goes on as long as the replies pass, and fails as soon as one does not. -/
def Heeds (verdict : Request → Reply → Option ε) : Dialogue (Except ε α) → Prop
  | .done result => failureOf result = none
  | .send q next => ∀ reply,
    (verdict q reply = none → Heeds verdict (next reply)) ∧
    ∀ e, verdict q reply = some e → next reply = .done (.error e)

namespace Heeds

/-- **All replies but the last one pass, and the verdict on the last one is that on the run.** -/
theorem run {verdict : Request → Reply → Option ε} {d : Dialogue (Except ε α)}
    (h : Heeds verdict d) (agent : Agent σ) (state : σ) :
    (∀ exchange ∈ (d.run agent state).exchanges.dropLast,
      verdict exchange.1 exchange.2 = none) ∧
    failureOf (d.run agent state).result = (d.run agent state).exchanges.getLast?.bind
      fun exchange => verdict exchange.1 exchange.2 := by
  induction d generalizing state with
  | done result => exact ⟨nofun, h⟩
  | send q next ih =>
    obtain ⟨hpass, hfail⟩ := h (agent.respond q state).1
    rw [Dialogue.run_send]
    cases hverdict : verdict q (agent.respond q state).1 with
    | some e =>
      rw [hfail e hverdict]
      exact ⟨nofun, hverdict.symm⟩
    | none =>
      obtain ⟨hearlier, hlast⟩ := ih _ (hpass hverdict) (agent.respond q state).2
      cases hrest : ((next (agent.respond q state).1).run agent
          (agent.respond q state).2).exchanges with
      | nil =>
        rw [hrest] at hlast
        exact ⟨by simp [hrest], by simp [hrest, hlast, hverdict]⟩
      | cons exchange rest =>
        rw [hrest] at hearlier hlast
        refine ⟨?_, ?_⟩
        · simp only [hrest, List.dropLast_cons_cons]
          exact List.forall_mem_cons.2 ⟨hverdict, hearlier⟩
        · simp only [hrest, List.getLast?_cons_cons]
          exact hlast

variable {verdict : Request → Reply → Option Failure} {q : Request}
  {read : Reply → Except Failure α}

/-- What a conversation comes to when it heeds a verdict. -/
theorem transcript {c : Conversation α} (h : Heeds verdict c.run) (agent : Agent σ) (state : σ) :
    let run := c.transcript agent state
    (∀ exchange ∈ run.exchanges.dropLast, verdict exchange.1 exchange.2 = none) ∧
    failureOf run.result =
      run.exchanges.getLast?.bind fun exchange => verdict exchange.1 exchange.2 :=
  h.run agent state

/-- A dialogue that is over heeds every verdict if it has not failed. -/
theorem ended (a : α) : Heeds verdict (Conversation.ended (.ok a)).run := rfl

/-- An exchange heeds a verdict if its reading fails as the verdict says and what follows heeds the
verdict. -/
theorem exchange_bind (hread : ∀ reply, verdict q reply = failureOf (read reply))
    {f : α → Conversation β} (hf : ∀ a, Heeds verdict (f a).run) :
    Heeds verdict (exchange q read >>= f).run := by
  intro reply
  change (_ → Heeds verdict (Conversation.ended (read reply) >>= f).run) ∧
    ∀ e, _ → (Conversation.ended (read reply) >>= f).run = _
  rw [hread reply]
  cases read reply with
  | ok a => exact ⟨fun _ => hf a, nofun⟩
  | error e => exact ⟨nofun, fun _ he => by cases he; rfl⟩

theorem exchange (hread : ∀ reply, verdict q reply = failureOf (read reply)) :
    Heeds verdict (exchange q read).run := by
  have hbind := exchange_bind hread (f := pure) fun a => rfl
  rwa [bind_pure] at hbind

end Heeds

/-! ## The readings of a client -/

theorem Client.failureOf_decode (path : String) {τ : Type} (read : Node → Except Fault τ)
    (body : String) : failureOf (Client.decode path read body) =
      (failureOf ((Document.ofText body).read read)).map (.document path) :=
  failureOf_mapError _ _

theorem Request.versionError?_of_ne {q : Request} (h : q.path ≠ Client.agentPath) (body : String) :
    q.versionError? body = none := by
  unfold versionError?
  rw [if_neg fun hq => h hq.2]

namespace Connection

open Client

variable (connection : Connection)

/-- A reading fails as the verdict says if it accepts the reply and then finds fault with a body
when the verdict does. -/
theorem failure?_eq {q : Request} {read : String → Except Failure α}
    (hread : ∀ body, failureOf (read body) =
      match q.fault? body with
      | some fault => some (.document q.path fault)
      | none => (q.versionError? body).map .version)
    (reply : Reply) :
    connection.failure? q reply = failureOf (connection.client.accept reply >>= read) := by
  cases reply with
  | unreachable reason => rfl
  | answer status body =>
    have hrefusal : isRefusal status = true ↔ 400 ≤ status ∧ status < 600 := by
      simp [isRefusal]
    simp only [failure?, accept]
    by_cases h : 400 ≤ status ∧ status < 600
    · rw [if_pos h, if_pos (hrefusal.2 h)]
      rfl
    · rw [if_neg h, if_neg (mt hrefusal.1 h)]
      exact (hread body).symm

/-- Only the answer about the agent itself tells a version. -/
theorem failure?_eq_of_ne {q : Request} (hq : q.path ≠ agentPath)
    {read : String → Except Failure α}
    (hread : ∀ body, failureOf (read body) = (q.fault? body).map (.document q.path))
    (reply : Reply) :
    connection.failure? q reply = failureOf (connection.client.accept reply >>= read) := by
  refine connection.failure?_eq (fun body => ?_) reply
  rw [hread, Request.versionError?_of_ne hq]
  cases q.fault? body <;> rfl

theorem failure?_version (reply : Reply) :
    connection.failure? (connection.client.asks .get agentPath) reply =
      failureOf (connection.client.versionOf reply) := by
  refine connection.failure?_eq (fun body => ?_) reply
  simp only [Request.fault?, Request.versionError?, asks, decode, if_true, and_self]
  cases (Document.ofText body).read readAgentSelf with
  | error fault => rfl
  | ok text => exact failureOf_mapError _ _

theorem failure?_listing (reply : Reply) :
    connection.failure? (connection.client.asks .get listingPath) reply =
      failureOf (connection.client.listingOf reply) :=
  connection.failure?_eq_of_ne (by decide : listingPath ≠ agentPath) (failureOf_decode _ _) reply

theorem failure?_record (id : String) (reply : Reply) :
    connection.failure? (connection.client.asks .get (tokenPath id)) reply =
      failureOf (connection.client.recordOf (tokenPath id) reply) := by
  refine connection.failure?_eq_of_ne (tokenPath_ne_agentPath id) (fun body => ?_) reply
  simp only [failureOf_decode, Request.fault?, asks, tokenPath_ne_agentPath,
    tokenPath_ne_listingPath, if_false]

theorem failure?_created (body : Json) (reply : Reply) :
    connection.failure? (connection.client.writes newTokenPath body) reply =
      failureOf (connection.client.documentOf newTokenPath reply) := by
  refine connection.failure?_eq_of_ne (by decide : newTokenPath ≠ agentPath) (fun text => ?_) reply
  simp only [failureOf_decode, Request.fault?, writes, if_true]
  cases (Document.ofText text).read (readValue depthLimit) <;> rfl

theorem failure?_updated (id : String) (before : TokenRecord) (body : Json) (reply : Reply) :
    connection.failure? (connection.client.writes (tokenPath id) body) reply =
      failureOf (connection.client.updateReport id before reply) := by
  have hreport : connection.client.updateReport id before reply =
      connection.client.accept reply >>= fun text => do
        let answer ← decode (tokenPath id) (readValue depthLimit) text
        let after ← viewToken (tokenPath id) answer
        return ⟨before.differsFrom after, .update, some answer⟩ := by
    unfold updateReport documentOf
    rw [bind_assoc]
  rw [hreport]
  refine connection.failure?_eq_of_ne (tokenPath_ne_agentPath id) (fun text => ?_) reply
  simp only [Request.fault?, writes, tokenPath_ne_newTokenPath, if_false, decode,
    viewToken]
  cases (Document.ofText text).read (readValue depthLimit) with
  | error fault => rfl
  | ok document =>
    change failureOf ((TokenRecord.read 0 document).mapError _ >>= _) = Option.map _ (failureOf _)
    cases TokenRecord.read 0 document <;> rfl

theorem failure?_removed (id : String) (reply : Reply) :
    connection.failure? (connection.client.asks .delete (tokenPath id)) reply =
      failureOf (connection.client.accept reply) := by
  have haccept : connection.client.accept reply = connection.client.accept reply >>= .ok := by
    cases connection.client.accept reply <;> rfl
  rw [haccept]
  exact connection.failure?_eq_of_ne (tokenPath_ne_agentPath id) (fun _ => rfl) reply

/-! ## Runs -/

theorem heeds_act (desired : Desired) (version : Version) (found : Option TokenRecord) :
    Heeds connection.failure? (connection.client.act desired version found).run := by
  cases found with
  | none =>
    cases hstate : desired.state with
    | absent =>
      simp only [act, hstate]
      exact Heeds.ended _
    | present =>
      simp only [act, hstate]
      exact Heeds.exchange fun reply => by rw [failureOf_map, failure?_created]
  | some listed =>
    cases hstate : desired.state with
    | absent =>
      simp only [act, hstate]
      exact Heeds.exchange fun reply => by rw [failureOf_map, failure?_removed]
    | present =>
      simp only [act, hstate]
      refine Heeds.exchange_bind (connection.failure?_record desired.id) fun full => ?_
      exact Heeds.exchange (connection.failure?_updated desired.id _ _)

/-- A run heeds the verdicts on its replies. -/
theorem heeds_reconcile (desired : Desired) :
    Heeds connection.failure? (connection.client.reconcile desired).run := by
  rw [reconcile_eq]
  refine Heeds.exchange_bind connection.failure?_version fun version => ?_
  exact Heeds.exchange_bind connection.failure?_listing fun listing =>
    connection.heeds_act desired version (lastNamed listing desired.id)

end Connection

/-- Nothing is known without asking. -/
theorem Client.exchanges_reconcile_ne_nil (client : Client) (desired : Desired) (agent : Agent σ)
    (state : σ) : ((client.reconcile desired).transcript agent state).exchanges ≠ [] := by
  rw [reconcile_eq, transcript_exchange_bind]
  exact List.cons_ne_nil _ _

/-- **A run fails on the first reply that does not pass, and with it.** Settings that pass the check
lead to requests, and all replies but the last one pass. If the last one passes too, the run
succeeds, and otherwise it fails with why that reply does not. -/
theorem last_reply_decides {connection : Connection} {spec : TokenSpec}
    {configuration : Configuration} (hvalid : validate connection spec = .ok configuration)
    (agent : Agent σ) (state : σ) :
    let run := (reconcile connection spec).transcript agent state
    ∃ earlier q reply, run.exchanges = earlier ++ [(q, reply)] ∧
      (∀ exchange ∈ earlier, connection.failure? exchange.1 exchange.2 = none) ∧
      ((∃ report, run.result = .ok report) ↔ connection.failure? q reply = none) ∧
      ∀ failure, run.result = .error failure ↔ connection.failure? q reply = some failure := by
  intro run
  have hrun : run = (connection.client.reconcile spec.desired).transcript agent state := by
    simp only [run, reconcile_of_valid hvalid]
  have hne : run.exchanges ≠ [] :=
    hrun ▸ connection.client.exchanges_reconcile_ne_nil spec.desired agent state
  obtain ⟨hearlier, hlast⟩ := (connection.heeds_reconcile spec.desired).transcript agent state
  rw [← hrun] at hearlier hlast
  rw [List.getLast?_eq_some_getLast hne, Option.bind_some] at hlast
  refine ⟨run.exchanges.dropLast, (run.exchanges.getLast hne).1, (run.exchanges.getLast hne).2,
    (List.dropLast_concat_getLast hne).symm, hearlier, ?_, fun failure => ?_⟩
  · rw [← hlast, failureOf_eq_none_iff]
  · rw [← hlast, failureOf_eq_some_iff]

/-- The replies of an agent that does not list its tokens. -/
def refusingScript : List Cue :=
  [⟨"GET", "/agent/self", .answer 200 "\x7b\"Config\":\x7b\"Version\":\"1.8.0\"\x7d\x7d"⟩,
    ⟨"GET", "/acl/tokens", .answer 403 "ACL not found"⟩]

theorem last_reply_decides_of_script :
    let run := (reconcile {} { id := "a" }).transcript Agent.scripted refusingScript
    validate {} { id := "a" } = .ok ⟨{}, ({ id := "a" } : TokenSpec).desired⟩ ∧
      ∃ earlier q, run.exchanges = earlier ++ [(q, .answer 403 "ACL not found")] ∧
        (∀ exchange ∈ earlier, Connection.failure? {} exchange.1 exchange.2 = none) ∧
        run.result = .error (.refused 403 "ACL not found") := by
  intro run
  have hvalid : validate {} { id := "a" } = .ok ⟨{}, ({ id := "a" } : TokenSpec).desired⟩ := by
    decide +kernel
  obtain ⟨earlier, q, reply, hexchanges, hearlier, -, hfails⟩ :=
    last_reply_decides hvalid Agent.scripted refusingScript
  have hlast : run.exchanges.getLast? =
      some (({} : Connection).client.asks .get Client.listingPath,
        .answer 403 "ACL not found") := by
    decide +kernel
  rw [show run.exchanges = earlier ++ [(q, reply)] from hexchanges, List.getLast?_concat] at hlast
  cases hlast
  exact ⟨hvalid, earlier, _, hexchanges, hearlier, (hfails _).2 rfl⟩

end TokenSync
