import TokenSync.Agent.Script
import TokenSync.Proofs.Course
import TokenSync.Proofs.Serving
import TokenSync.Proofs.Written

/-!
# Where secrets go

Settings have two secrets: the credential of the connection and the secret that a token is created
with. Each of them has one place in a request. What a run sends besides and what it comes to does
not depend on them, as long as the agent does not look at these two places.
-/
namespace TokenSync

open Json

variable {σ α β : Type}

/-! ## Requests without their secrets -/

/-- A request that has a token created. -/
def Request.IsCreation (q : Request) : Prop := q.IsFor .put Client.newTokenPath

instance (q : Request) : Decidable q.IsCreation :=
  inferInstanceAs (Decidable (q.method = .put ∧ q.path = Client.newTokenPath))

/-- A document without what stands under the name of a token's secret. -/
def Json.withoutSecret : Json → Json
  | .object entries =>
    .object (entries.map fun entry => (entry.1, if entry.1 = "SecretID" then .null else entry.2))
  | value => value

/-- The headers besides the one of the credential. -/
def withoutCredential (headers : List (String × String)) : List (String × String) :=
  headers.filter fun header => header.1 != "x-consul-token"

/-- A request without the credential, and without the token's secret if it creates a token. -/
def Request.redacted (q : Request) : Request where
  method := q.method
  path := q.path
  headers := withoutCredential q.headers
  body := if q.IsCreation then q.body.map Json.withoutSecret else q.body

/-- What stands in a request under the name of a token's secret. -/
def Request.secret? (q : Request) : Option Json :=
  match q.body with
  | some (.object entries) => Keyed.get? entries "SecretID"
  | _ => none

@[simp] theorem Request.method_redacted (q : Request) : q.redacted.method = q.method := rfl

@[simp] theorem Request.path_redacted (q : Request) : q.redacted.path = q.path := rfl

theorem Request.isCreation_redacted {q : Request} : q.redacted.IsCreation ↔ q.IsCreation := Iff.rfl

theorem Request.body_redacted {q : Request} (h : ¬ q.IsCreation) : q.redacted.body = q.body :=
  if_neg h

theorem Request.map_body_redacted {requests : List Request} (h : ∀ q ∈ requests, ¬ q.IsCreation) :
    (requests.map redacted).map body = requests.map body := by
  rw [List.map_map]
  exact List.map_congr_left fun q hq => body_redacted (h q hq)

/-! ## Agents that do not look at secrets -/

namespace Agent

/-- The replies to requests that are sent one after another. -/
def replies (agent : Agent σ) : σ → List Request → List Reply
  | _, [] => []
  | state, q :: rest => (agent.respond q state).1 :: agent.replies (agent.respond q state).2 rest

/-- Requests that are the same without their secrets get the same replies in both states. -/
def Alike (agent : Agent σ) (state state' : σ) : Prop :=
  ∀ requests requests' : List Request,
    requests.map Request.redacted = requests'.map Request.redacted →
      agent.replies state requests = agent.replies state' requests'

/-- From this state on, the replies of the agent do not depend on the secrets it is sent. -/
def IgnoresSecrets (agent : Agent σ) (state : σ) : Prop := agent.Alike state state

variable {agent : Agent σ} {state state' : σ} {q q' : Request}

theorem Alike.reply (h : agent.Alike state state') (hq : q.redacted = q'.redacted) :
    (agent.respond q state).1 = (agent.respond q' state').1 :=
  List.head_eq_of_cons_eq (h [q] [q'] (congrArg ([·]) hq))

theorem Alike.next (h : agent.Alike state state') (hq : q.redacted = q'.redacted) :
    agent.Alike (agent.respond q state).2 (agent.respond q' state').2 := by
  intro requests requests' heq
  have hboth : (q :: requests).map Request.redacted = (q' :: requests').map Request.redacted := by
    rw [List.map_cons, List.map_cons, hq, heq]
  exact List.tail_eq_of_cons_eq (h _ _ hboth)

end Agent

/-! ## Two dialogues -/

/-- Two dialogues that come to the same by the same requests, but for the secrets in them. -/
inductive Dialogue.Matches : Dialogue α → Dialogue α → Prop
  | done (result : α) : Matches (.done result) (.done result)
  | send {q q' : Request} {next next' : Reply → Dialogue α} (hq : q.redacted = q'.redacted)
      (hnext : ∀ reply, Matches (next reply) (next' reply)) :
      Matches (.send q next) (.send q' next')

namespace Dialogue.Matches

/-- **An agent that does not look at secrets cannot tell matching dialogues apart.** -/
theorem run {d d' : Dialogue α} (h : Matches d d') {agent : Agent σ} {state state' : σ}
    (halike : agent.Alike state state') :
    (d.run agent state).result = (d'.run agent state').result ∧
    (d.run agent state).requests.map Request.redacted =
      (d'.run agent state').requests.map Request.redacted := by
  -- The states may differ from the first request on, but the agent stays alike in them.
  induction h generalizing state state' with
  | done result => exact ⟨rfl, rfl⟩
  | @send q q' next next' hq _ ih =>
    obtain ⟨hresult, hrequests⟩ := ih (agent.respond q state).1 (halike.next hq)
    have hreply := halike.reply hq
    rw [run_send, run_send]
    constructor
    · rw [← hreply]
      exact hresult
    · rw [← hreply]
      exact congrArg₂ List.cons hq hrequests

variable {q q' : Request}

theorem exchange (hq : q.redacted = q'.redacted) (read : Reply → Except Failure α) :
    Matches (exchange q read).run (exchange q' read).run :=
  .send hq fun reply => .done (read reply)

theorem exchange_bind (hq : q.redacted = q'.redacted) {read : Reply → Except Failure α}
    {f f' : α → Conversation β} (hf : ∀ a, Matches (f a).run (f' a).run) :
    Matches (TokenSync.exchange q read >>= f).run (TokenSync.exchange q' read >>= f').run := by
  refine .send hq fun reply => ?_
  change Matches (Conversation.ended (read reply) >>= f).run
    (Conversation.ended (read reply) >>= f').run
  cases read reply with
  | ok a => exact hf a
  | error e => exact .done (Except.error e)

end Dialogue.Matches

/-! ## Bodies -/

/-- Without the secret, the bodies that create a token are the same for all secrets. -/
theorem Desired.withoutSecret_createBody (desired : Desired) (secret : Option Secret)
    (version : Version) :
    (createBody { desired with secret } version).withoutSecret =
      (desired.createBody version).withoutSecret := by
  have hredacted (desired : Desired) : (desired.createBody version).withoutSecret =
      .object (Keyed.ofList ((desired.identityEntries ++ desired.writeEntries version).map
        fun entry => (entry.1, if entry.1 = "SecretID" then .null else entry.2))) :=
    congrArg Json.object <| Keyed.map_ofList
      (fun key value => if key = "SecretID" then .null else value)
      (desired.identityEntries ++ desired.writeEntries version)
  rw [hredacted, hredacted, List.map_append, List.map_append]
  rfl

/-! ## Two runs -/

theorem Connection.withoutCredential_headers (connection : Connection) :
    withoutCredential connection.headers = [] := by
  rw [headers_eq]
  cases connection.credential <;> rfl

namespace Client

variable {client : Client} {headers : List (String × String)}

section

variable (hheaders : withoutCredential client.headers = withoutCredential headers)
include hheaders

theorem redacted_asks (method : Method) (path : String) :
    (client.asks method path).redacted = (asks { client with headers } method path).redacted := by
  simp only [Request.redacted, asks, hheaders]
  rfl

theorem redacted_writes_update (id : String) (body : Json) :
    (client.writes (tokenPath id) body).redacted =
      (writes { client with headers } (tokenPath id) body).redacted := by
  simp only [Request.redacted, writes, hheaders]
  rfl

theorem redacted_writes_create (desired : Desired) (secret : Option Secret) (version : Version) :
    (client.writes newTokenPath (desired.createBody version)).redacted =
      (writes { client with headers } newTokenPath
        (Desired.createBody { desired with secret } version)).redacted := by
  have hcreation (client : Client) (body : Json) : (client.writes newTokenPath body).redacted =
      ⟨.put, newTokenPath, withoutCredential client.headers, some body.withoutSecret⟩ :=
    congrArg (Request.mk _ _ _) (if_pos ⟨rfl, rfl⟩)
  rw [hcreation, hcreation, hheaders, desired.withoutSecret_createBody secret version]

open Dialogue

theorem matches_act (desired : Desired) (secret : Option Secret) (version : Version)
    (found : Option TokenRecord) :
    Matches (client.act desired version found).run
      (act { client with headers } { desired with secret } version found).run := by
  cases found with
  | none =>
    cases hstate : desired.state with
    | absent =>
      simp only [act, hstate]
      exact .done _
    | present =>
      simp only [act, hstate]
      exact .exchange (redacted_writes_create hheaders desired secret version) _
  | some listed =>
    cases hstate : desired.state with
    | absent =>
      simp only [act, hstate]
      exact .exchange (redacted_asks hheaders _ _) _
    | present =>
      simp only [act, hstate]
      refine .exchange_bind (redacted_asks hheaders _ _) fun full => ?_
      exact .exchange (redacted_writes_update hheaders _ _) _

/-- Runs of one token, but for its secret and the credential, match. -/
theorem matches_reconcile (desired : Desired) (secret : Option Secret) :
    Matches (client.reconcile desired).run
      (reconcile { client with headers } { desired with secret }).run := by
  rw [reconcile_eq, reconcile_eq]
  refine .exchange_bind (redacted_asks hheaders _ _) fun version => ?_
  refine .exchange_bind (redacted_asks hheaders _ _) fun listing => ?_
  exact matches_act hheaders desired secret version _

end

end Client

/-! ## One run -/

/-- The secret that a token is created with; the empty text is none. -/
def TokenSpec.seed? (spec : TokenSpec) : Option String :=
  match spec.secret with
  | some secret => if secret.expose = "" then none else some secret.expose
  | none => none

/-- A request carries the credential in its headers, and nothing else there. Only if it creates a
token there is a secret for it, or null, in its body. -/
structure Request.CarriesSecrets (q : Request) (headers : List (String × String))
    (seed : Option String) : Prop where
  credential : q.headers = headers
  creation : q.IsCreation → q.secret? = some (ofText? seed)
  other : ¬ q.IsCreation → q.secret? = none

theorem Request.carriesSecrets_bare {method : Method} (hmethod : method ≠ .put) (path : String)
    (headers : List (String × String)) (seed : Option String) :
    CarriesSecrets ⟨method, path, headers, none⟩ headers seed :=
  ⟨rfl, fun hcreation => absurd hcreation.1 hmethod, fun _ => rfl⟩

theorem TokenSpec.seed?_eq (spec : TokenSpec) :
    spec.desired.secret.map Secret.expose = spec.seed? := by
  unfold desired seed? Secret.nonempty?
  cases spec.secret with
  | none => rfl
  | some secret => by_cases h : secret.expose = "" <;> simp [h]

namespace Operation

variable {headers : List (String × String)} {desired : Desired} {version : Version}
  {operation : Operation} {q : Request}

/-- A token is created by the last request of the course that is for that. -/
theorem eq_create_of_isCreation {index : Nat}
    (h : (operation.course headers desired version)[index]? = some q) (hq : q.IsCreation) :
    operation = .create ∧ index = 2 := by
  have hne := Client.tokenPath_ne_newTokenPath desired.id
  match operation, index with
  | .create, 2 => exact ⟨rfl, rfl⟩
  | .update, 3 =>
    cases h
    exact absurd hq.2 hne
  | .create, 0 | .create, 1 | .update, 0 | .update, 1 | .update, 2 | .remove, 0 | .remove, 1
  | .remove, 2 =>
    cases h
    exact nomatch hq.1
  | .create, _ + 3 | .update, _ + 4 | .remove, _ + 3 => cases h

/-- The requests of a course carry the secrets. -/
theorem carriesSecrets_of_mem_course (h : q ∈ operation.course headers desired version) :
    q.CarriesSecrets headers (desired.secret.map Secret.expose) := by
  cases operation with
  | create =>
    simp only [course, steps, List.mem_cons, List.not_mem_nil, or_false] at h
    rcases h with rfl | rfl | rfl
    · exact Request.carriesSecrets_bare (by decide) _ _ _
    · exact Request.carriesSecrets_bare (by decide) _ _ _
    · refine ⟨rfl, fun _ => ?_, fun hcreation => absurd ⟨rfl, rfl⟩ hcreation⟩
      have hentry : ("SecretID", ofText? (desired.secret.map Secret.expose)) ∈
          desired.identityEntries ++ desired.writeEntries version := by
        simp [Desired.identityEntries]
      exact Desired.get?_createEntries hentry (by simp [TokenRecord.names])
  | update =>
    simp only [course, steps, List.mem_cons, List.not_mem_nil, or_false] at h
    rcases h with rfl | rfl | rfl | rfl
    · exact Request.carriesSecrets_bare (by decide) _ _ _
    · exact Request.carriesSecrets_bare (by decide) _ _ _
    · exact Request.carriesSecrets_bare (by decide) _ _ _
    · refine ⟨rfl, fun hcreation => ?_, fun _ => ?_⟩
      · exact absurd hcreation.2 (Client.tokenPath_ne_newTokenPath desired.id)
      · exact Desired.get?_updateEntries_of_not_mem (by decide) desired version
  | remove =>
    simp only [course, steps, List.mem_cons, List.not_mem_nil, or_false] at h
    rcases h with rfl | rfl | rfl
    · exact Request.carriesSecrets_bare (by decide) _ _ _
    · exact Request.carriesSecrets_bare (by decide) _ _ _
    · exact Request.carriesSecrets_bare (by decide) _ _ _

end Operation

namespace Client

/-- No token is created that the agent lists or that should not exist. -/
theorem not_isCreation_of_mem {client : Client} {desired : Desired} {agent : Agent σ} {state : σ}
    (h : desired.state = .absent ∨
      ∀ exchange ∈ ((client.reconcile desired).transcript agent state).exchanges,
        exchange.1 = client.asks .get listingPath → ∀ listing,
          client.listingOf exchange.2 = .ok listing →
            ∃ record ∈ listing, record.accessor = some desired.id)
    {q : Request} (hq : q ∈ ((client.reconcile desired).transcript agent state).requests) :
    ¬ q.IsCreation := by
  intro hcreation
  obtain ⟨operation, version, htarget, hprefix, -, hlisting⟩ :=
    client.reconcile_requests desired agent state
  obtain ⟨index, hlength, rfl⟩ := List.mem_iff_getElem.1 hq
  obtain ⟨rfl, rfl⟩ := Operation.eq_create_of_isCreation
    (List.prefix_iff_getElem?.1 hprefix index hlength) hcreation
  obtain ⟨reply, listing, hexchange, hread, hnone⟩ := hlisting hlength
  rcases h with habsent | hnamed
  · cases htarget.trans habsent
  · obtain ⟨record, hrecord, haccessor⟩ :=
      hnamed _ (List.mem_of_getElem? hexchange) rfl listing hread
    exact lastNamed_eq_none_iff.1 (hnone.1 rfl) record hrecord haccessor

end Client

/-- The requests of a run carry the secrets of its settings. -/
theorem carriesSecrets_of_mem_requests {connection : Connection} {spec : TokenSpec}
    {configuration : Configuration} (hvalid : validate connection spec = .ok configuration)
    {agent : Agent σ} {state : σ} {q : Request}
    (hq : q ∈ ((reconcile connection spec).transcript agent state).requests) :
    q.CarriesSecrets connection.headers spec.seed? := by
  rw [reconcile_of_valid hvalid] at hq
  obtain ⟨operation, version, -, hsteps, -⟩ :=
    connection.client.reconcile_requests spec.desired agent state
  rw [← spec.seed?_eq]
  exact Operation.carriesSecrets_of_mem_course (hsteps.subset hq)

/-- **Secrets reach their places and nothing else.** Two runs whose settings differ in the
credential and in the secret of the token, with an agent that does not look at them, come to the
same result by requests that are the same without these secrets. If the token is listed or should
not exist, the bodies of the requests are the same as they are, and none of them holds a secret. -/
theorem runs_match_but_for_secrets {connection : Connection} {spec : TokenSpec}
    {token secret : Option Secret} {configuration configuration' : Configuration}
    (hvalid : validate connection spec = .ok configuration)
    (hvalid' : validate { connection with managementToken := token } { spec with secret } =
      .ok configuration')
    {agent : Agent σ} {state : σ} (hagent : agent.IgnoresSecrets state) :
    let run := (reconcile connection spec).transcript agent state
    let run' := (reconcile { connection with managementToken := token }
      { spec with secret }).transcript agent state
    run.result = run'.result ∧
    run.requests.map Request.redacted = run'.requests.map Request.redacted ∧
    ((spec.state = .absent ∨ ∀ exchange ∈ run.exchanges,
        exchange.1 = connection.client.asks .get Client.listingPath → ∀ listing,
          connection.client.listingOf exchange.2 = .ok listing →
            ∃ record ∈ listing, record.accessor = some spec.id) →
      run.requests.map Request.body = run'.requests.map Request.body ∧
      ∀ q ∈ run.requests, q.secret? = none) ∧
    (∀ q ∈ run.requests, q.CarriesSecrets connection.headers spec.seed?) ∧
    ∀ q ∈ run'.requests, q.CarriesSecrets
      ({ connection with managementToken := token } : Connection).headers
      ({ spec with secret } : TokenSpec).seed? := by
  intro run run'
  have hheaders : withoutCredential connection.client.headers =
      withoutCredential ({ connection with managementToken := token } : Connection).headers := by
    rw [Connection.headers_client, Connection.withoutCredential_headers,
      Connection.withoutCredential_headers]
  have hmatches : (reconcile connection spec).run.Matches (reconcile
      { connection with managementToken := token } { spec with secret }).run := by
    rw [reconcile_of_valid hvalid, reconcile_of_valid hvalid']
    exact Client.matches_reconcile hheaders spec.desired (Secret.nonempty? secret)
  obtain ⟨hresult, hrequests⟩ : run.result = run'.result ∧
      run.requests.map Request.redacted = run'.requests.map Request.redacted := hmatches.run hagent
  refine ⟨hresult, hrequests, fun hlisted => ?_,
    fun q => carriesSecrets_of_mem_requests hvalid,
    fun q => carriesSecrets_of_mem_requests hvalid'⟩
  -- Where no token is created there is nothing to leave out of a body.
  have hnone : ∀ q ∈ run.requests, ¬ q.IsCreation := by
    simp only [run, reconcile_of_valid hvalid] at hlisted ⊢
    exact fun q => Client.not_isCreation_of_mem hlisted
  have hnone' : ∀ q ∈ run'.requests, ¬ q.IsCreation := by
    intro q hq hcreation
    obtain ⟨q₀, hq₀, heq⟩ := List.mem_map.1 (hrequests ▸ List.mem_map_of_mem hq)
    exact hnone q₀ hq₀ (Request.isCreation_redacted.1 (heq ▸ hcreation))
  refine ⟨?_, fun q hq => (carriesSecrets_of_mem_requests hvalid hq).other (hnone q hq)⟩
  rw [← Request.map_body_redacted hnone, ← Request.map_body_redacted hnone', hrequests]

/-! ## A token that is created by a script -/

/-- The replies of an agent that has no tokens and creates one. -/
def creationScript : List Cue :=
  [⟨"GET", "/agent/self", .answer 200 "\x7b\"Config\":\x7b\"Version\":\"1.8.0\"\x7d\x7d"⟩,
    ⟨"GET", "/acl/tokens", .answer 200 "[]"⟩,
    ⟨"PUT", "/acl/token", .answer 200 "\x7b\"AccessorID\":\"a\"\x7d"⟩]

/-- A script looks at methods and paths only. -/
theorem Agent.scripted_ignoresSecrets (script : List Cue) :
    Agent.scripted.IgnoresSecrets script := by
  intro requests requests' heq
  induction requests generalizing requests' script with
  | nil =>
    cases List.map_eq_nil_iff.1 heq.symm
    rfl
  | cons q rest ih =>
    obtain ⟨q', rest', rfl⟩ : ∃ q' rest', requests' = q' :: rest' := by
      cases requests' with
      | nil => cases heq
      | cons q' rest' => exact ⟨q', rest', rfl⟩
    obtain ⟨hq, hrest⟩ := List.cons.inj heq
    have hrespond : Agent.scripted.respond q script = Agent.scripted.respond q' script := by
      have hmethod : q.method = q'.method := by simpa using congrArg Request.method hq
      have hpath : q.path = q'.path := by simpa using congrArg Request.path hq
      simp only [Agent.scripted, Cue.isFor, Reply.unscripted, hmethod, hpath]
    simp only [replies, hrespond, ih _ _ hrest]

theorem runs_match_but_for_secrets_of_script :
    let connection : Connection := { managementToken := some ⟨"m"⟩ }
    let spec : TokenSpec := { id := "a", secret := some ⟨"s"⟩ }
    let run := (reconcile {} { id := "a" }).transcript Agent.scripted creationScript
    let run' := (reconcile connection spec).transcript Agent.scripted creationScript
    validate {} { id := "a" } = .ok ⟨{}, ({ id := "a" } : TokenSpec).desired⟩ ∧
      validate connection spec = .ok ⟨connection, spec.desired⟩ ∧
      Agent.scripted.IgnoresSecrets creationScript ∧
      run.result = .ok ⟨true, .create, some (.object [("AccessorID", .string "a")])⟩ ∧
      run.result = run'.result ∧
      run.requests.map Request.redacted = run'.requests.map Request.redacted ∧
      run'.requests.map Request.secret? = [none, none, some (.string "s")] ∧
      ∀ q ∈ run'.requests, q.CarriesSecrets [("x-consul-token", "m")] (some "s") := by
  intro connection spec run run'
  have hvalid : validate {} { id := "a" } = .ok ⟨{}, ({ id := "a" } : TokenSpec).desired⟩ := by
    decide +kernel
  have hvalid' : validate connection spec = .ok ⟨connection, spec.desired⟩ := by decide +kernel
  have hagent := Agent.scripted_ignoresSecrets creationScript
  obtain ⟨hresult, hrequests, -, -, hcarry'⟩ :=
    runs_match_but_for_secrets hvalid hvalid' hagent
  exact ⟨hvalid, hvalid', hagent, by decide +kernel, hresult, hrequests, by decide +kernel,
    hcarry'⟩

end TokenSync
