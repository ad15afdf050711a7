import TokenSync.Proofs.Directory
import TokenSync.Reconcile

/-!
# Conversations as exchanges

Each request of a client is one exchange: a request, and a reading of its reply that may fail. A
conversation is held exchange by exchange, and the first reading that fails ends it.
-/
namespace TokenSync

open Json

variable {σ α β : Type}

/-! ## Holding a conversation -/

/-- What happens when a conversation is held with an agent. -/
def Conversation.transcript (c : Conversation α) (agent : Agent σ) (state : σ) :
    Transcript σ (Except Failure α) :=
  Dialogue.run agent (ExceptT.run c) state

/-- A transcript with one more exchange in front of it. -/
def Transcript.prepend (q : Request) (reply : Reply) (t : Transcript σ α) : Transcript σ α :=
  { t with exchanges := (q, reply) :: t.exchanges }

@[simp] theorem Transcript.result_prepend (q : Request) (reply : Reply) (t : Transcript σ α) :
    (t.prepend q reply).result = t.result := rfl

@[simp] theorem Transcript.state_prepend (q : Request) (reply : Reply) (t : Transcript σ α) :
    (t.prepend q reply).state = t.state := rfl

@[simp] theorem Transcript.exchanges_prepend (q : Request) (reply : Reply) (t : Transcript σ α) :
    (t.prepend q reply).exchanges = (q, reply) :: t.exchanges := rfl

@[simp] theorem Transcript.requests_prepend (q : Request) (reply : Reply) (t : Transcript σ α) :
    (t.prepend q reply).requests = q :: t.requests := rfl

/-- A conversation that is over before it begins. -/
def Conversation.ended (result : Except Failure α) : Conversation α := ExceptT.mk (.done result)

@[simp] theorem Conversation.transcript_ended (result : Except Failure α) (agent : Agent σ)
    (state : σ) : (Conversation.ended result).transcript agent state = ⟨result, [], state⟩ := rfl

@[simp] theorem Conversation.transcript_pure (a : α) (agent : Agent σ) (state : σ) :
    (pure a : Conversation α).transcript agent state = ⟨.ok a, [], state⟩ := rfl

@[simp] theorem Conversation.ended_ok_bind (a : α) (f : α → Conversation β) :
    (Conversation.ended (.ok a) >>= f) = f a := rfl

@[simp] theorem Conversation.ended_error_bind (e : Failure) (f : α → Conversation β) :
    (Conversation.ended (.error e) >>= f) = Conversation.ended (.error e) := rfl

theorem Conversation.ended_bind_ended (result : Except Failure α) (g : α → Except Failure β) :
    (Conversation.ended result >>= fun a => Conversation.ended (g a)) =
      Conversation.ended (result >>= g) := by
  cases result <;> rfl

/-- One request, and the reading of its reply. -/
def exchange (q : Request) (read : Reply → Except Failure α) : Conversation α :=
  ExceptT.mk (.send q fun reply => .done (read reply))

/-- What is only computed from a reading belongs to the reading. -/
theorem exchange_bind_ended (q : Request) (read : Reply → Except Failure α)
    (g : α → Except Failure β) :
    (exchange q read >>= fun a => Conversation.ended (g a)) =
      exchange q fun reply => read reply >>= g := by
  refine congrArg (ExceptT.mk ∘ Dialogue.send q) (funext fun reply => ?_)
  exact congrArg ExceptT.run (Conversation.ended_bind_ended (read reply) g)

theorem exchange_map (q : Request) (read : Reply → Except Failure α) (g : α → β) :
    (exchange q read >>= fun a => pure (g a)) = exchange q fun reply => (read reply).map g := by
  refine Eq.trans (exchange_bind_ended q read fun a => .ok (g a)) ?_
  refine congrArg (exchange q) (funext fun reply => ?_)
  cases read reply <;> rfl

theorem exchange_map_bind {γ : Type} (q : Request) (read : Reply → Except Failure α) (g : α → β)
    (f : β → Conversation γ) :
    ((exchange q fun reply => (read reply).map g) >>= f) =
      exchange q read >>= fun a => f (g a) := by
  rw [← exchange_map, bind_assoc]
  simp only [pure_bind]

/-- The transcript of an exchange and what follows it. -/
theorem transcript_exchange_bind (q : Request) (read : Reply → Except Failure α)
    (f : α → Conversation β) (agent : Agent σ) (state : σ) :
    (exchange q read >>= f).transcript agent state =
      ((Conversation.ended (read (agent.respond q state).1) >>= f).transcript agent
        (agent.respond q state).2).prepend q (agent.respond q state).1 := rfl

theorem transcript_exchange_bind_ok {q : Request} {read : Reply → Except Failure α}
    {agent : Agent σ} {state : σ} {a : α} (h : read (agent.respond q state).1 = .ok a)
    (f : α → Conversation β) :
    (exchange q read >>= f).transcript agent state =
      ((f a).transcript agent (agent.respond q state).2).prepend q (agent.respond q state).1 := by
  rw [transcript_exchange_bind, h, Conversation.ended_ok_bind]

theorem transcript_exchange_bind_error {q : Request} {read : Reply → Except Failure α}
    {agent : Agent σ} {state : σ} {e : Failure} (h : read (agent.respond q state).1 = .error e)
    (f : α → Conversation β) :
    (exchange q read >>= f).transcript agent state =
      ⟨.error e, [(q, (agent.respond q state).1)], (agent.respond q state).2⟩ := by
  rw [transcript_exchange_bind, h, Conversation.ended_error_bind]
  rfl

theorem transcript_exchange (q : Request) (read : Reply → Except Failure α) (agent : Agent σ)
    (state : σ) : (exchange q read).transcript agent state =
      ⟨read (agent.respond q state).1, [(q, (agent.respond q state).1)],
        (agent.respond q state).2⟩ := rfl

/-! ## Readings of replies -/

namespace Client

/-- The version that a reply reports. -/
def versionOf (client : Client) (reply : Reply) : Except Failure Version := do
  let body ← client.accept reply
  let text ← decode agentPath readAgentSelf body
  (Version.parse text).mapError .version

/-- The tokens that a reply lists. -/
def listingOf (client : Client) (reply : Reply) : Except Failure (List TokenRecord) := do
  decode listingPath readListing (← client.accept reply)

/-- The record that a reply holds. -/
def recordOf (client : Client) (path : String) (reply : Reply) : Except Failure TokenRecord := do
  decode path (TokenRecord.read 0) (← client.accept reply)

/-- The document that a reply holds. -/
def documentOf (client : Client) (path : String) (reply : Reply) : Except Failure Json := do
  decode path (readValue depthLimit) (← client.accept reply)

/-- A request without a body. -/
def asks (client : Client) (method : Method) (path : String) : Request :=
  ⟨method, path, client.headers, none⟩

/-- A request that writes a document. -/
def writes (client : Client) (path : String) (body : Json) : Request :=
  ⟨.put, path, client.headers, some body⟩

theorem negotiateVersion_eq (client : Client) :
    client.negotiateVersion = exchange (client.asks .get agentPath) client.versionOf := by
  have h (text : Except Failure String) :
      (Conversation.ended text >>= fun text =>
        Conversation.ended ((Version.parse text).mapError Failure.version)) =
      Conversation.ended (text >>= fun text => (Version.parse text).mapError .version) :=
    Conversation.ended_bind_ended text _
  calc client.negotiateVersion
      = (exchange (client.asks .get agentPath) client.accept >>= fun body =>
          Conversation.ended (decode agentPath readAgentSelf body) >>= fun text =>
            Conversation.ended ((Version.parse text).mapError .version)) := rfl
    _ = exchange (client.asks .get agentPath) client.versionOf := by
      simp only [h]
      exact exchange_bind_ended _ _ _

theorem listTokens_eq (client : Client) :
    client.listTokens = exchange (client.asks .get listingPath) fun reply =>
      (client.listingOf reply).map Directory.ofListing := by
  have h (reply : Reply) : (client.listingOf reply).map Directory.ofListing =
      client.accept reply >>= fun body =>
        (decode listingPath readListing body).map Directory.ofListing := by
    unfold listingOf
    cases client.accept reply <;> rfl
  simp only [h]
  rw [← exchange_bind_ended]
  refine congrArg (exchange (client.asks .get listingPath) client.accept >>= ·) ?_
  funext body
  cases decode listingPath readListing body <;> rfl

theorem fetchToken_eq (client : Client) (accessor : String) :
    client.fetchToken accessor =
      exchange (client.asks .get (tokenPath accessor)) (client.recordOf (tokenPath accessor)) :=
  exchange_bind_ended _ _ _

theorem createToken_eq (client : Client) (body : Json) :
    client.createToken body =
      exchange (client.writes newTokenPath body) (client.documentOf newTokenPath) :=
  exchange_bind_ended _ _ _

theorem updateToken_eq (client : Client) (accessor : String) (body : Json) :
    client.updateToken accessor body =
      exchange (client.writes (tokenPath accessor) body) (client.documentOf (tokenPath accessor)) :=
  exchange_bind_ended _ _ _

theorem deleteToken_eq (client : Client) (accessor : String) :
    client.deleteToken accessor =
      exchange (client.asks .delete (tokenPath accessor)) (fun reply =>
        (client.accept reply).map fun _ => ()) :=
  exchange_bind_ended _ _ _

/-! ## A run step by step -/

/-- What the answer to an update is reported as. -/
def updateReport (client : Client) (id : String) (before : TokenRecord) (reply : Reply) :
    Except Failure Report := do
  let answer ← client.documentOf (tokenPath id) reply
  let after ← viewToken (tokenPath id) answer
  return ⟨before.differsFrom after, .update, some answer⟩

/-- What is done about a token when the version is known and the last entry of the listing that
names the token, if there is one. -/
def act (client : Client) (desired : Desired) (version : Version) :
    Option TokenRecord → Conversation Report
  | none =>
    match desired.state with
    | .absent => pure ⟨false, .remove, none⟩
    | .present =>
      exchange (client.writes newTokenPath (desired.createBody version)) fun reply =>
        (client.documentOf newTokenPath reply).map fun answer => ⟨true, .create, some answer⟩
  | some listed =>
    match desired.state with
    | .absent =>
      exchange (client.asks .delete (tokenPath desired.id)) fun reply =>
        (client.accept reply).map fun _ => ⟨true, .remove, none⟩
    | .present => do
      let full ← exchange (client.asks .get (tokenPath desired.id))
        (client.recordOf (tokenPath desired.id))
      exchange (client.writes (tokenPath desired.id) (desired.updateBody version))
        (client.updateReport desired.id (.merge listed full))

theorem create_eq (client : Client) (desired : Desired) (version : Version) :
    client.create desired version =
      exchange (client.writes newTokenPath (desired.createBody version)) fun reply =>
        (client.documentOf newTokenPath reply).map fun answer => ⟨true, .create, some answer⟩ := by
  unfold create
  rw [createToken_eq]
  exact exchange_map _ _ _

theorem update_eq (client : Client) (desired : Desired) (version : Version) (listed : TokenRecord)
    (h : listed.accessor = some desired.id) :
    client.update desired version listed =
      (exchange (client.asks .get (tokenPath desired.id))
        (client.recordOf (tokenPath desired.id)) >>= fun full =>
      exchange (client.writes (tokenPath desired.id) (desired.updateBody version))
        (client.updateReport desired.id (.merge listed full))) := by
  unfold update
  simp only [h, Option.getD_some, fetchToken_eq, updateToken_eq]
  refine congrArg (_ >>= ·) (funext fun full => ?_)
  have hview (answer : Json) :
      (Conversation.ended (viewToken (tokenPath desired.id) answer) >>= fun after =>
        (pure ⟨(TokenRecord.merge listed full).differsFrom after, .update, some answer⟩ :
          Conversation Report)) =
      Conversation.ended (viewToken (tokenPath desired.id) answer >>= fun after =>
        return ⟨(TokenRecord.merge listed full).differsFrom after, .update, some answer⟩) :=
    Conversation.ended_bind_ended _ _
  calc _ = (exchange (client.writes (tokenPath desired.id) (desired.updateBody version))
          (client.documentOf (tokenPath desired.id)) >>= fun answer =>
        Conversation.ended (viewToken (tokenPath desired.id) answer) >>= fun after =>
          (pure ⟨(TokenRecord.merge listed full).differsFrom after, .update, some answer⟩ :
            Conversation Report)) := rfl
    _ = _ := by
      simp only [hview]
      exact exchange_bind_ended _ _ _

/-- A run asks for the version and the listing, and then does what is to be done. -/
theorem reconcile_eq (client : Client) (desired : Desired) :
    client.reconcile desired =
      (exchange (client.asks .get agentPath) client.versionOf >>= fun version =>
      exchange (client.asks .get listingPath) client.listingOf >>= fun listing =>
      client.act desired version (lastNamed listing desired.id)) := by
  unfold reconcile
  rw [negotiateVersion_eq]
  refine congrArg (_ >>= ·) (funext fun version => ?_)
  cases h : desired.state with
  | present =>
    simp only [ensurePresent, listTokens_eq, exchange_map_bind, Directory.get?_ofListing]
    refine congrArg (_ >>= ·) (funext fun listing => ?_)
    cases found : lastNamed listing desired.id with
    | none => simpa only [act, h] using create_eq client desired version
    | some listed =>
      simpa only [act, h] using
        update_eq client desired version listed (accessor_of_lastNamed found)
  | absent =>
    simp only [ensureAbsent, listTokens_eq, exchange_map_bind, Directory.get?_ofListing]
    refine congrArg (_ >>= ·) (funext fun listing => ?_)
    cases found : lastNamed listing desired.id with
    | none => simp only [act, h, Option.bind_none]
    | some listed =>
      simp only [act, h, Option.bind_some, accessor_of_lastNamed found, deleteToken_eq,
        exchange_map_bind]
      exact exchange_map _ _ _

/-- A run ends with the version, ends with the listing, or does what is to be done. -/
theorem transcript_reconcile (client : Client) (desired : Desired) (agent : Agent σ) (state : σ) :
    let q₁ := client.asks .get agentPath
    let q₂ := client.asks .get listingPath
    let (r₁, s₁) := agent.respond q₁ state
    let (r₂, s₂) := agent.respond q₂ s₁
    let run := (client.reconcile desired).transcript agent state
    (∃ e, client.versionOf r₁ = .error e ∧ run = ⟨.error e, [(q₁, r₁)], s₁⟩) ∨
    (∃ version e, client.versionOf r₁ = .ok version ∧ client.listingOf r₂ = .error e ∧
      run = ⟨.error e, [(q₁, r₁), (q₂, r₂)], s₂⟩) ∨
    ∃ version listing, client.versionOf r₁ = .ok version ∧ client.listingOf r₂ = .ok listing ∧
      run = (((client.act desired version (lastNamed listing desired.id)).transcript agent
        s₂).prepend q₂ r₂).prepend q₁ r₁ := by
  intro q₁ q₂
  simp only [reconcile_eq]
  cases hversion : client.versionOf (agent.respond q₁ state).1 with
  | error e => exact .inl ⟨e, rfl, transcript_exchange_bind_error hversion _⟩
  | ok version =>
    right
    rw [transcript_exchange_bind_ok hversion]
    cases hlisting : client.listingOf (agent.respond q₂ (agent.respond q₁ state).2).1 with
    | error e =>
      refine .inl ⟨version, e, rfl, rfl, ?_⟩
      rw [transcript_exchange_bind_error hlisting]
      rfl
    | ok listing =>
      refine .inr ⟨version, listing, rfl, rfl, ?_⟩
      rw [transcript_exchange_bind_ok hlisting]

end Client

/-! ## Settings -/

/-- The headers a connection asks for: its credential, unless there is none or an empty one. -/
def Connection.headers (connection : Connection) : List (String × String) :=
  match connection.managementToken with
  | some token => if token.expose = "" then [] else [("x-consul-token", token.expose)]
  | none => []

/-- The client of a connection without problems. -/
def Connection.client (connection : Connection) : Client :=
  ⟨connection.headers, connection.host, connection.port⟩

@[simp] theorem Connection.headers_client (connection : Connection) :
    connection.client.headers = connection.headers := rfl

theorem Connection.headers_eq (connection : Connection) :
    connection.headers =
      (connection.credential.map fun token => ("x-consul-token", token.expose)).toList := by
  unfold headers credential Secret.nonempty?
  cases connection.managementToken with
  | none => rfl
  | some token => by_cases h : token.expose = "" <;> simp [h]

theorem Client.ofConnection_of_problems {connection : Connection}
    (h : connection.problems = []) : Client.ofConnection connection = .ok connection.client := by
  have hc := (List.append_eq_nil_iff.1 h).2
  unfold ofConnection Connection.client
  rw [Connection.headers_eq]
  cases hs : connection.credential with
  | none => rfl
  | some token =>
    have hv : isHeaderValue token.expose = true := by simpa [hs] using hc
    simp [hv]

theorem validate_eq_ok_iff {connection : Connection} {spec : TokenSpec}
    {configuration : Configuration} :
    validate connection spec = .ok configuration ↔
      (connection.problems = [] ∧ spec.problems = []) ∧
        configuration = ⟨connection, spec.desired⟩ := by
  rw [← List.append_eq_nil_iff]
  unfold validate
  split
  · next h => simp [h, eq_comm]
  · next h => exact ⟨nofun, fun hok => absurd hok.1 h⟩

/-- Settings without problems lead to the run of the token they describe. -/
theorem reconcile_of_valid {connection : Connection} {spec : TokenSpec}
    {configuration : Configuration} (h : validate connection spec = .ok configuration) :
    TokenSync.reconcile connection spec = connection.client.reconcile spec.desired := by
  obtain ⟨⟨hc, -⟩, rfl⟩ := validate_eq_ok_iff.1 h
  unfold TokenSync.reconcile
  rw [h]
  change (Conversation.ended (Client.ofConnection connection) >>= fun client =>
    client.reconcile spec.desired) = _
  rw [Client.ofConnection_of_problems hc, Conversation.ended_ok_bind]

/-- Settings with problems end the run before anything is sent. -/
theorem reconcile_of_invalid {connection : Connection} {spec : TokenSpec}
    {problems : List Problem} (h : validate connection spec = .error problems) :
    TokenSync.reconcile connection spec = Conversation.ended (.error (.settings problems)) := by
  unfold TokenSync.reconcile
  rw [h]
  rfl

/-- A run is over before anything is sent, or is the run of the token that the settings describe. -/
theorem reconcile_cases (connection : Connection) (spec : TokenSpec) :
    (∃ problems, TokenSync.reconcile connection spec =
      Conversation.ended (.error (.settings problems))) ∨
    TokenSync.reconcile connection spec = connection.client.reconcile spec.desired := by
  cases hvalid : validate connection spec with
  | error problems => exact .inl ⟨problems, reconcile_of_invalid hvalid⟩
  | ok configuration => exact .inr (reconcile_of_valid hvalid)

end TokenSync
