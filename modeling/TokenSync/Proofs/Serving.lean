import TokenSync.Proofs.RecordText
import TokenSync.Proofs.Store

/-!
# Agents that store tokens

An agent that stores tokens answers what it is asked from its store and changes the store as it is
told, where a rule says which documents it may make of what it is sent. A client reads from such
answers what is stored.
-/
namespace TokenSync

open Json

/-! ## Answers from a store -/

/-- Which documents an agent may store when it is sent a body to create or to update a token. -/
structure Rule where
  creates (id : String) (body : Entries) (new : StoredToken id) : Prop
  updates (id : String) (old : StoredToken id) (body : Entries) (new : StoredToken id) : Prop

/-- A request by a method for a path. -/
def Request.IsFor (q : Request) (method : Method) (path : String) : Prop :=
  q.method = method ∧ q.path = path

/-- The reply to a request comes from the tokens that are stored before it, and leaves the tokens
that are stored after it. Of requests that a store has no answer to nothing is said. -/
structure Answers (rule : Rule) (version : Version) (before : Store) (q : Request) (reply : Reply)
    (after : Store) : Prop where
  self : q.IsFor .get Client.agentPath →
    after = before ∧ ∃ body text, reply = .answer 200 body ∧
      Client.decode Client.agentPath Client.readAgentSelf body = .ok text ∧
      Version.parse text = .ok version
  listing : q.IsFor .get Client.listingPath →
    after = before ∧ ∃ body items, reply = .answer 200 body ∧ TextOfListing body items ∧
      before.Lists items
  fetch : ∀ id token, q.IsFor .get (Client.tokenPath id) → before id = some token →
    after = before ∧ ∃ body, reply = .answer 200 body ∧ TextOfToken body token.document
  create : ∀ id entries, q.IsFor .put Client.newTokenPath → q.body = some (.object entries) →
    Keyed.get? entries "AccessorID" = some (.string id) → (∃ new, rule.creates id entries new) →
    ∃ new, rule.creates id entries new ∧ after = Function.update before id (some new) ∧
      ∃ body, reply = .answer 200 body ∧ Json.ofText body = .ok new.document
  update : ∀ id old entries, q.IsFor .put (Client.tokenPath id) →
    q.body = some (.object entries) → before id = some old →
    (∃ new, rule.updates id old entries new) →
    ∃ new, rule.updates id old entries new ∧ after = Function.update before id (some new) ∧
      ∃ body, reply = .answer 200 body ∧ Json.ofText body = .ok new.document
  remove : ∀ id, q.IsFor .delete (Client.tokenPath id) → before id ≠ none →
    after = Function.update before id none ∧ ∃ body, reply = .answer 200 body

/-! ## Requests and their answers -/

theorem Client.tokenPath_injective {id other : String} (h : tokenPath id = tokenPath other) :
    id = other := by
  have := congrArg String.toList h
  simpa [tokenPath, String.toList_inj] using this

theorem Client.tokenPath_ne_listingPath (id : String) : tokenPath id ≠ listingPath := by
  intro h
  have := congrArg String.toList h
  simp [tokenPath, listingPath] at this

theorem Client.tokenPath_ne_newTokenPath (id : String) : tokenPath id ≠ newTokenPath := by
  intro h
  have := congrArg String.toList h
  simp [tokenPath, newTokenPath] at this

theorem Client.tokenPath_ne_agentPath (id : String) : tokenPath id ≠ agentPath := by
  intro h
  have := congrArg String.toList h
  simp [tokenPath, agentPath] at this

section

variable (rule : Rule) (version : Version) {q : Request} {body : String}

theorem answers_self {version : Version} (hq : q.IsFor .get Client.agentPath) (text : String)
    (htext : Client.decode Client.agentPath Client.readAgentSelf body = .ok text)
    (hparse : Version.parse text = .ok version) (before : Store) :
    Answers rule version before q (.answer 200 body) before where
  self _ := ⟨rfl, body, text, rfl, htext, hparse⟩
  listing h := absurd (hq.2.symm.trans h.2) (by decide)
  fetch id _ h := absurd (h.2.symm.trans hq.2) (Client.tokenPath_ne_agentPath id)
  create _ _ h := nomatch hq.1.symm.trans h.1
  update _ _ _ h := nomatch hq.1.symm.trans h.1
  remove _ h := nomatch hq.1.symm.trans h.1

theorem answers_listing (hq : q.IsFor .get Client.listingPath) {items : List Json}
    (htext : TextOfListing body items) {before : Store} (hlists : before.Lists items) :
    Answers rule version before q (.answer 200 body) before where
  self h := absurd (hq.2.symm.trans h.2) (by decide)
  listing _ := ⟨rfl, body, items, rfl, htext, hlists⟩
  fetch id _ h := absurd (h.2.symm.trans hq.2) (Client.tokenPath_ne_listingPath id)
  create _ _ h := nomatch hq.1.symm.trans h.1
  update _ _ _ h := nomatch hq.1.symm.trans h.1
  remove _ h := nomatch hq.1.symm.trans h.1

theorem answers_fetch {id : String} (hq : q.IsFor .get (Client.tokenPath id)) {before : Store}
    {token : StoredToken id} (hbefore : before id = some token)
    (htext : TextOfToken body token.document) :
    Answers rule version before q (.answer 200 body) before where
  self h := absurd (hq.2.symm.trans h.2) (Client.tokenPath_ne_agentPath id)
  listing h := absurd (hq.2.symm.trans h.2) (Client.tokenPath_ne_listingPath id)
  fetch other stored h hstored := by
    obtain rfl := Client.tokenPath_injective (hq.2.symm.trans h.2)
    obtain rfl : token = stored := Option.some.inj (hbefore.symm.trans hstored)
    exact ⟨rfl, body, rfl, htext⟩
  create _ _ h := nomatch hq.1.symm.trans h.1
  update _ _ _ h := nomatch hq.1.symm.trans h.1
  remove _ h := nomatch hq.1.symm.trans h.1

theorem answers_create (hq : q.IsFor .put Client.newTokenPath) {entries : Entries}
    (hbody : q.body = some (.object entries)) {id : String}
    (hid : entries.get? "AccessorID" = some (.string id)) (new : StoredToken id)
    (hrule : rule.creates id entries new) (htext : Json.ofText body = .ok new.document)
    {before after : Store} (hafter : after = Function.update before id (some new)) :
    Answers rule version before q (.answer 200 body) after where
  self h := nomatch hq.1.symm.trans h.1
  listing h := nomatch hq.1.symm.trans h.1
  fetch _ _ h := nomatch hq.1.symm.trans h.1
  create other sent _ hsent hother _ := by
    obtain rfl : entries = sent := by simpa using hbody.symm.trans hsent
    obtain rfl : id = other := by simpa using hid.symm.trans hother
    exact ⟨new, hrule, hafter, body, rfl, htext⟩
  update other _ _ h := absurd (h.2.symm.trans hq.2) (Client.tokenPath_ne_newTokenPath other)
  remove _ h := nomatch hq.1.symm.trans h.1

theorem answers_update {id : String} (hq : q.IsFor .put (Client.tokenPath id)) {entries : Entries}
    (hbody : q.body = some (.object entries)) {before after : Store} {old : StoredToken id}
    (hbefore : before id = some old) (new : StoredToken id)
    (hrule : rule.updates id old entries new) (htext : Json.ofText body = .ok new.document)
    (hafter : after = Function.update before id (some new)) :
    Answers rule version before q (.answer 200 body) after where
  self h := nomatch hq.1.symm.trans h.1
  listing h := nomatch hq.1.symm.trans h.1
  fetch _ _ h := nomatch hq.1.symm.trans h.1
  create _ _ h := absurd (hq.2.symm.trans h.2) (Client.tokenPath_ne_newTokenPath id)
  update other stored sent h hsent hstored _ := by
    obtain rfl := Client.tokenPath_injective (hq.2.symm.trans h.2)
    obtain rfl : entries = sent := by simpa using hbody.symm.trans hsent
    obtain rfl : old = stored := Option.some.inj (hbefore.symm.trans hstored)
    exact ⟨new, hrule, hafter, body, rfl, htext⟩
  remove _ h := nomatch hq.1.symm.trans h.1

theorem answers_remove {id : String} (hq : q.IsFor .delete (Client.tokenPath id))
    {before after : Store} (hafter : after = Function.update before id none) :
    Answers rule version before q (.answer 200 body) after where
  self h := nomatch hq.1.symm.trans h.1
  listing h := nomatch hq.1.symm.trans h.1
  fetch _ _ h := nomatch hq.1.symm.trans h.1
  create _ _ h := nomatch hq.1.symm.trans h.1
  update _ _ _ h := nomatch hq.1.symm.trans h.1
  remove other h _ := by
    obtain rfl := Client.tokenPath_injective (hq.2.symm.trans h.2)
    exact ⟨hafter, body, rfl⟩

end

/-! ## Dialogues with a store -/

section

variable {σ α β : Type} (rule : Rule) (version : Version) (agent : Agent σ) (store : σ → Store)

/-- In this dialogue the agent answers every request from its store. -/
def Served : Dialogue α → σ → Prop
  | .done _, _ => True
  | .send q next, state =>
    Answers rule version (store state) q (agent.respond q state).1
      (store (agent.respond q state).2) ∧
    Served (next (agent.respond q state).1) (agent.respond q state).2

variable {rule version agent store}

/-- A dialogue after another is served if both are. -/
theorem served_bind {d : Dialogue α} {f : α → Dialogue β} {state : σ} :
    Served rule version agent store (d >>= f) state ↔
      Served rule version agent store d state ∧
        Served rule version agent store (f (d.run agent state).result)
          (d.run agent state).state := by
  induction d generalizing state with
  | done a => exact (iff_of_eq (true_and _)).symm
  | send q next ih => exact (and_congr_right fun _ => ih _).trans and_assoc.symm

theorem served_exchange_bind {q : Request} {read : Reply → Except Failure α}
    {f : α → Conversation β} {state : σ} :
    Served rule version agent store (exchange q read >>= f).run state ↔
      Answers rule version (store state) q (agent.respond q state).1
        (store (agent.respond q state).2) ∧
      Served rule version agent store
        (Conversation.ended (read (agent.respond q state).1) >>= f).run
        (agent.respond q state).2 := Iff.rfl

end

/-! ## What a client reads from the answers -/

namespace Answers

variable {rule : Rule} {version : Version} {before after : Store} {reply : Reply} {client : Client}
  {id : String}

theorem versionOf_eq
    (h : Answers rule version before (client.asks .get Client.agentPath) reply after) :
    client.versionOf reply = .ok version ∧ after = before := by
  obtain ⟨hafter, body, text, rfl, htext, hparse⟩ := h.self ⟨rfl, rfl⟩
  refine ⟨bind_eq_ok_iff.2 ⟨body, rfl, bind_eq_ok_iff.2 ⟨text, htext, ?_⟩⟩, hafter⟩
  exact mapError_eq_ok_iff.2 hparse

theorem listingOf_eq
    (h : Answers rule version before (client.asks .get Client.listingPath) reply after) :
    ∃ records, client.listingOf reply = .ok records ∧ after = before ∧
      (∀ record ∈ records, before.Backs record) ∧
      ∀ id, lastNamed records id = none ↔ before id = none := by
  obtain ⟨hafter, body, items, rfl, htext, hlists⟩ := h.listing ⟨rfl, rfl⟩
  obtain ⟨records, hreads, hbacks, hnone⟩ := hlists.read_listing
  exact ⟨records, client.listingOf_of_text htext hreads, hafter, hbacks, hnone⟩

theorem recordOf_eq {token : StoredToken id} (hbefore : before id = some token)
    (h : Answers rule version before (client.asks .get (Client.tokenPath id)) reply after) :
    client.recordOf (Client.tokenPath id) reply = .ok token.record ∧ after = before := by
  obtain ⟨hafter, body, rfl, htext⟩ := h.fetch id token ⟨rfl, rfl⟩ hbefore
  exact ⟨client.recordOf_of_text _ htext token.reads, hafter⟩

theorem documentOf_create {body : Entries} (hid : body.get? "AccessorID" = some (.string id))
    (hrule : ∃ new, rule.creates id body new)
    (h : Answers rule version before (client.writes Client.newTokenPath (.object body)) reply
      after) :
    ∃ new, rule.creates id body new ∧ after = Function.update before id (some new) ∧
      client.documentOf Client.newTokenPath reply = .ok new.document := by
  obtain ⟨new, hnew, hafter, text, rfl, htext⟩ := h.create id body ⟨rfl, rfl⟩ rfl hid hrule
  exact ⟨new, hnew, hafter, client.documentOf_of_ofText _ htext⟩

theorem documentOf_update {old : StoredToken id} {body : Entries} (hbefore : before id = some old)
    (hrule : ∃ new, rule.updates id old body new)
    (h : Answers rule version before (client.writes (Client.tokenPath id) (.object body)) reply
      after) :
    ∃ new, rule.updates id old body new ∧ after = Function.update before id (some new) ∧
      client.documentOf (Client.tokenPath id) reply = .ok new.document := by
  obtain ⟨new, hnew, hafter, text, rfl, htext⟩ := h.update id old body ⟨rfl, rfl⟩ rfl hbefore hrule
  exact ⟨new, hnew, hafter, client.documentOf_of_ofText _ htext⟩

theorem accept_remove (hbefore : before id ≠ none)
    (h : Answers rule version before (client.asks .delete (Client.tokenPath id)) reply after) :
    after = Function.update before id none ∧ ∃ body, client.accept reply = .ok body := by
  obtain ⟨hafter, body, rfl⟩ := h.remove id ⟨rfl, rfl⟩ hbefore
  exact ⟨hafter, body, rfl⟩

end Answers

end TokenSync
