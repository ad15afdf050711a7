import TokenSync.Proofs.Idempotence

/-!
# Runs that have not ended yet

How far a run has come while the agent serves others too. What is left of a run depends on its own
token alone: as long as nobody else touches that token, every reply takes the run one stage on, and
in the end it has made of the token and reports of it what it would have if it had been alone.
-/
namespace TokenSync

open Json

section

variable (creates : (id : String) → Entries → StoredToken id)
  (updates : (id : String) → StoredToken id → Entries → StoredToken id) (version : Version)

/-- What a run makes of a token and what it reports of it, by what is stored before. -/
def Desired.settle (desired : Desired) :
    Option (StoredToken desired.id) → Option (StoredToken desired.id) × Report
  | none =>
    match desired.state with
    | .absent => (none, ⟨false, .remove, none⟩)
    | .present =>
      let new := creates desired.id (desired.createEntries version)
      (some new, ⟨true, .create, some new.document⟩)
  | some old =>
    match desired.state with
    | .absent => (none, ⟨true, .remove, none⟩)
    | .present =>
      let new := updates desired.id old (desired.updateEntries version)
      (some new, ⟨decide (old.managed ≠ new.managed), .update, some new.document⟩)

/-- What is left of a run that sends so many more requests at most, when its token was `start` at
its beginning and is `now`. -/
inductive Stage (client : Client) (desired : Desired) (start : Option (StoredToken desired.id)) :
    Nat → Option (StoredToken desired.id) → Dialogue (Except Failure Report) → Prop
  | asking : Stage client desired start 4 start (client.reconcile desired).run
  | listing :
      Stage client desired start 3 start
        (exchange (client.asks .get Client.listingPath) client.listingOf >>= fun listing =>
          client.act desired version (lastNamed listing desired.id)).run
  | creating (hstate : desired.state = .present) (hstart : start = none) :
      Stage client desired start 1 start (client.act desired version none).run
  | removing {listed : TokenRecord} (hstate : desired.state = .absent) (hstart : start ≠ none) :
      Stage client desired start 1 start (client.act desired version (some listed)).run
  | fetching {listed : TokenRecord} {old : StoredToken desired.id}
      (hstate : desired.state = .present) (hstart : start = some old)
      (hmerge : (TokenRecord.merge listed old.record).toManaged = old.managed) :
      Stage client desired start 2 start (client.act desired version (some listed)).run
  | updating {listed : TokenRecord} {old : StoredToken desired.id}
      (hstate : desired.state = .present) (hstart : start = some old)
      (hmerge : (TokenRecord.merge listed old.record).toManaged = old.managed) :
      Stage client desired start 1 start
        (exchange (client.writes (Client.tokenPath desired.id) (desired.updateBody version))
          (client.updateReport desired.id (.merge listed old.record))).run
  | ended {now : Option (StoredToken desired.id)} {report : Report}
      (hsettle : desired.settle creates updates version start = (now, report)) :
      Stage client desired start 0 now (.done (.ok report))

end

section

variable {creates : (id : String) → Entries → StoredToken id}
  {updates : (id : String) → StoredToken id → Entries → StoredToken id} {version : Version}
  {client : Client} {desired : Desired}

/-- A dialogue that begins with an exchange goes on with what its reply is read as. -/
theorem exchange_bind_of_send {α β : Type} {q q' : Request}
    {next : Reply → Dialogue (Except Failure β)} {read : Reply → Except Failure α}
    {f : α → Conversation β}
    (h : .send q next = (exchange q' read >>= f).run) :
    q = q' ∧ ∀ reply a, read reply = .ok a → next reply = (f a).run := by
  cases h
  refine ⟨rfl, fun reply a hread => ?_⟩
  change (Conversation.ended (read reply) >>= f).run = _
  rw [hread, Conversation.ended_ok_bind]

/-- A dialogue of one exchange is done with its reply. -/
theorem exchange_of_send {α : Type} {q q' : Request} {next : Reply → Dialogue (Except Failure α)}
    {read : Reply → Except Failure α} (h : .send q next = (exchange q' read).run) :
    q = q' ∧ ∀ reply, next reply = .done (read reply) := by
  cases h
  exact ⟨rfl, fun _ => rfl⟩

/-- A run that is alone makes of its token what its description and the rule say. -/
theorem Settles.eq_settle {before after : Store} {report : Report}
    (h : Settles (.ofFunctions creates updates) version desired before after report) :
    after = Function.update before desired.id
        (desired.settle creates updates version (before desired.id)).1 ∧
      report = (desired.settle creates updates version (before desired.id)).2 := by
  cases h with
  | missing hstate hbefore =>
    simp only [Desired.settle, hbefore, hstate]
    exact ⟨(Function.update_eq_self_iff.2 hbefore.symm).symm, trivial⟩
  | removed hstate hbefore =>
    obtain ⟨old, hold⟩ := Option.ne_none_iff_exists'.1 hbefore
    simp only [Desired.settle, hold, hstate]
    exact ⟨trivial, trivial⟩
  | created new hstate hbefore hnew =>
    obtain rfl : new = creates _ _ := hnew
    simp only [Desired.settle, hbefore, hstate]
    exact ⟨trivial, trivial⟩
  | updated old new hstate hbefore hnew =>
    obtain rfl : new = updates _ _ _ := hnew
    simp only [Desired.settle, hbefore, hstate]
    exact ⟨trivial, trivial⟩

namespace Stage

variable {start now : Option (StoredToken desired.id)} {left : Nat}
  {dialogue : Dialogue (Except Failure Report)}

/-- A run that knows what is listed of its token removes, creates or updates it, or has ended. -/
theorem of_listed {found : Option TokenRecord} (hnone : found = none ↔ start = none)
    (hbacks : ∀ listed, found = some listed → ∃ token, start = some token ∧
      (TokenRecord.merge listed token.record).toManaged = token.managed) :
    ∃ left ≤ 2, Stage creates updates version client desired start left start
      (client.act desired version found).run := by
  cases found with
  | none =>
    obtain rfl := hnone.1 rfl
    cases hstate : desired.state with
    | present => exact ⟨1, by decide, .creating hstate rfl⟩
    | absent =>
      refine ⟨0, by decide, ?_⟩
      simp only [Client.act, hstate]
      exact .ended (by simp only [Desired.settle, hstate])
  | some listed =>
    obtain ⟨old, hstart, hmerge⟩ := hbacks listed rfl
    cases hstate : desired.state with
    | present => exact ⟨2, by decide, .fetching hstate hstart hmerge⟩
    | absent => exact ⟨1, by decide, .removing hstate (by simp [hstart])⟩

/-- A run that has ended has made of its token and reports of it what it would alone. -/
theorem of_done {result : Except Failure Report}
    (h : Stage creates updates version client desired start left now (.done result)) :
    ∃ report, result = .ok report ∧
      desired.settle creates updates version start = (now, report) := by
  generalize hd : Dialogue.done result = d at h
  cases h with
  | asking => rw [Client.reconcile_eq] at hd; cases hd
  | listing => cases hd
  | creating hstate hstart => simp only [Client.act, hstate] at hd; cases hd
  | removing hstate hstart => simp only [Client.act, hstate] at hd; cases hd
  | fetching hstate hstart hmerge => simp only [Client.act, hstate] at hd; cases hd
  | updating => cases hd
  | ended hsettle =>
    cases hd
    exact ⟨_, rfl, hsettle⟩

/-- A run that sends no more requests has ended. -/
theorem exists_done (h : Stage creates updates version client desired start left now dialogue)
    (hleft : left = 0) : ∃ result, dialogue = .done result := by
  cases h with
  | ended => exact ⟨_, rfl⟩
  | _ => cases hleft

/-- **A reply takes a run one stage on and touches no token but its own.** -/
theorem turn {q : Request} {next : Reply → Dialogue (Except Failure Report)}
    (h : Stage creates updates version client desired start left now (.send q next))
    {before after : Store} {reply : Reply} (hnow : before desired.id = now)
    (hanswers : Answers (.ofFunctions creates updates) version before q reply after) :
    (∃ fewer < left, Stage creates updates version client desired start fewer (after desired.id)
      (next reply)) ∧ ∀ id, id ≠ desired.id → after id = before id := by
  generalize hd : Dialogue.send q next = d at h
  cases h with
  | asking =>
    rw [Client.reconcile_eq] at hd
    obtain ⟨rfl, hnext⟩ := exchange_bind_of_send hd
    obtain ⟨hversion, rfl⟩ := hanswers.versionOf_eq
    rw [hnext reply version hversion, hnow]
    exact ⟨⟨3, by decide, .listing⟩, fun _ _ => rfl⟩
  | listing =>
    obtain ⟨rfl, hnext⟩ := exchange_bind_of_send hd
    obtain ⟨records, hrecords, rfl, hbacks, hnone⟩ := hanswers.listingOf_eq
    subst hnow
    rw [hnext reply records hrecords]
    obtain ⟨fewer, hfewer, hstage⟩ := of_listed (hnone desired.id) fun listed hlisted =>
      hbacks listed (mem_of_lastNamed hlisted) desired.id (accessor_of_lastNamed hlisted)
    exact ⟨⟨fewer, by omega, hstage⟩, fun _ _ => rfl⟩
  | creating hstate hstart =>
    simp only [Client.act, hstate] at hd
    obtain ⟨rfl, hnext⟩ := exchange_of_send hd
    obtain ⟨new, rfl, rfl, hdocument⟩ := hanswers.documentOf_create
      (desired.get?_createEntries_accessor version) ⟨_, rfl⟩
    refine ⟨⟨0, by decide, ?_⟩, fun _ hid => Function.update_of_ne hid _ _⟩
    rw [hnext, hdocument, Function.update_self]
    exact .ended (by simp only [hstart, Desired.settle, hstate])
  | removing hstate hstart =>
    simp only [Client.act, hstate] at hd
    obtain ⟨rfl, hnext⟩ := exchange_of_send hd
    obtain ⟨old, hold⟩ := Option.ne_none_iff_exists'.1 hstart
    obtain ⟨rfl, body, hbody⟩ := hanswers.accept_remove (hnow ▸ hstart)
    refine ⟨⟨0, by decide, ?_⟩, fun _ hid => Function.update_of_ne hid _ _⟩
    rw [hnext, hbody, Function.update_self]
    exact .ended (by simp only [hold, Desired.settle, hstate])
  | fetching hstate hstart hmerge =>
    simp only [Client.act, hstate] at hd
    obtain ⟨rfl, hnext⟩ := exchange_bind_of_send hd
    obtain ⟨hrecord, rfl⟩ := hanswers.recordOf_eq (hnow.trans hstart)
    rw [hnext reply _ hrecord, hnow]
    exact ⟨⟨1, by decide, .updating hstate hstart hmerge⟩, fun _ _ => rfl⟩
  | @updating listed old hstate hstart hmerge =>
    obtain ⟨rfl, hnext⟩ := exchange_of_send hd
    obtain ⟨new, rfl, rfl, hdocument⟩ := hanswers.documentOf_update (hnow.trans hstart) ⟨_, rfl⟩
    refine ⟨⟨0, by decide, ?_⟩, fun _ hid => Function.update_of_ne hid _ _⟩
    rw [hnext, client.updateReport_eq _ hdocument (StoredToken.reads _), Function.update_self,
      TokenRecord.differsFrom, hmerge]
    exact .ended (by simp only [hstart, Desired.settle, hstate]; rfl)
  | ended => cases hd

end Stage

end

/-! ## Agents that attend to a token -/

section

variable {σ : Type}

/-- An agent that answers from its store whatever a run asks it about its token. -/
structure Attends (rule : Rule) (version : Version) (agent : Agent σ) (store : σ → Store)
    (client : Client) (desired : Desired) : Prop where
  self (state : σ) :
    Client.AnswersNext rule version agent store (client.asks .get Client.agentPath) state
  listing (state : σ) :
    Client.AnswersNext rule version agent store (client.asks .get Client.listingPath) state
  create (state : σ) (hstate : desired.state = .present) (hstore : store state desired.id = none) :
    Client.AnswersNext rule version agent store
      (client.writes Client.newTokenPath (desired.createBody version)) state
  fetch (state : σ) (hstate : desired.state = .present) (hstore : store state desired.id ≠ none) :
    Client.AnswersNext rule version agent store
      (client.asks .get (Client.tokenPath desired.id)) state
  update (state : σ) (hstate : desired.state = .present) (hstore : store state desired.id ≠ none) :
    Client.AnswersNext rule version agent store
      (client.writes (Client.tokenPath desired.id) (desired.updateBody version)) state
  remove (state : σ) (hstate : desired.state = .absent) (hstore : store state desired.id ≠ none) :
    Client.AnswersNext rule version agent store
      (client.asks .delete (Client.tokenPath desired.id)) state

variable {version : Version} {agent : Agent σ} {store : σ → Store} {client : Client}
  {desired : Desired}

/-- Such an agent serves a run that is alone. -/
theorem Attends.served {rule : Rule} (h : Attends rule version agent store client desired)
    (state : σ) : Served rule version agent store (client.reconcile desired).run state := by
  refine Client.served_reconcile (h.self _) rfl (h.listing _) rfl fun found hfound => ?_
  generalize (agent.respond (client.asks .get Client.listingPath) _).2 = second at hfound ⊢
  cases hstate : desired.state with
  | absent =>
    cases hstore : store second desired.id with
    | none =>
      rw [hfound.2 hstore]
      simp only [Client.act, hstate]
      trivial
    | some old =>
      have hne : store second desired.id ≠ none := by simp [hstore]
      exact Client.served_act_remove hstate hne (h.remove _ hstate hne) hfound
  | present =>
    cases hstore : store second desired.id with
    | none => exact Client.served_act_create hstate hstore (h.create _ hstate hstore) hfound
    | some old =>
      have hne : store second desired.id ≠ none := by simp [hstore]
      have hfetch := h.fetch _ hstate hne
      have hsame := (hfetch.recordOf_eq hstore).2
      refine Client.served_act_update old hstate hstore hfetch rfl (h.update _ hstate ?_) hfound
      rw [hsame]
      exact hne

/-- An agent that attends to the tokens of all runs serves a history of them. -/
theorem served_history {rule : Rule} {runs : List Run} (hvalid : ∀ run ∈ runs, run.Valid)
    (hattends : ∀ run ∈ runs, Attends rule version agent store run.1.client run.2.desired)
    (state : σ) : Served rule version agent store (history runs) state := by
  induction runs generalizing state with
  | nil => trivial
  | cons run rest ih =>
    obtain ⟨⟨configuration, hrun⟩, hrest⟩ := List.forall_mem_cons.1 hvalid
    obtain ⟨hattendsRun, hattendsRest⟩ := List.forall_mem_cons.1 hattends
    refine served_history_cons.2 ⟨?_, ih hrest hattendsRest _⟩
    rw [reconcile_of_valid hrun]
    exact hattendsRun.served state

variable {creates : (id : String) → Entries → StoredToken id}
  {updates : (id : String) → StoredToken id → Entries → StoredToken id}

/-- Such an agent answers the next request of a run, whatever the run's stage. -/
theorem Stage.answersNext
    (hattends : Attends (.ofFunctions creates updates) version agent store client desired)
    {start now : Option (StoredToken desired.id)} {left : Nat} {q : Request}
    {next : Reply → Dialogue (Except Failure Report)}
    (h : Stage creates updates version client desired start left now (.send q next)) {state : σ}
    (hnow : store state desired.id = now) :
    Client.AnswersNext (.ofFunctions creates updates) version agent store q state := by
  generalize hd : Dialogue.send q next = d at h
  cases h with
  | asking =>
    rw [Client.reconcile_eq] at hd
    obtain ⟨rfl, -⟩ := exchange_bind_of_send hd
    exact hattends.self state
  | listing =>
    obtain ⟨rfl, -⟩ := exchange_bind_of_send hd
    exact hattends.listing state
  | creating hstate hstart =>
    simp only [Client.act, hstate] at hd
    obtain ⟨rfl, -⟩ := exchange_of_send hd
    exact hattends.create state hstate (hnow.trans hstart)
  | removing hstate hstart =>
    simp only [Client.act, hstate] at hd
    obtain ⟨rfl, -⟩ := exchange_of_send hd
    exact hattends.remove state hstate (hnow ▸ hstart)
  | fetching hstate hstart =>
    simp only [Client.act, hstate] at hd
    obtain ⟨rfl, -⟩ := exchange_bind_of_send hd
    exact hattends.fetch state hstate (by simp [hnow, hstart])
  | updating hstate hstart =>
    obtain ⟨rfl, -⟩ := exchange_of_send hd
    exact hattends.update state hstate (by simp [hnow, hstart])
  | ended => cases hd

end

end TokenSync
