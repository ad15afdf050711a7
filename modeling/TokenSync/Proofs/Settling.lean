import TokenSync.Proofs.Serving
import TokenSync.Proofs.Written

/-!
# What a run does to a store

A run against an agent that stores tokens succeeds. What it does to the store is one of four things,
and each of them has its own report: a token that was not there stays away or is created, and one
that was there is removed or updated.
-/
namespace TokenSync

open Json

/-- A rule that has a document for every body that is sent about a token. -/
structure Rule.Admits (rule : Rule) (desired : Desired) (version : Version) : Prop where
  creates : ∃ new, rule.creates desired.id (desired.createEntries version) new
  updates : ∀ old, ∃ new, rule.updates desired.id old (desired.updateEntries version) new

/-- What bringing a token to its desired state does to a store, and what is reported of it. -/
inductive Settles (rule : Rule) (version : Version) (desired : Desired) (before : Store) :
    Store → Report → Prop
  | missing (hstate : desired.state = .absent) (hbefore : before desired.id = none) :
      Settles rule version desired before before ⟨false, .remove, none⟩
  | removed (hstate : desired.state = .absent) (hbefore : before desired.id ≠ none) :
      Settles rule version desired before (Function.update before desired.id none)
        ⟨true, .remove, none⟩
  | created (new : StoredToken desired.id) (hstate : desired.state = .present)
      (hbefore : before desired.id = none)
      (hnew : rule.creates desired.id (desired.createEntries version) new) :
      Settles rule version desired before (Function.update before desired.id (some new))
        ⟨true, .create, some new.document⟩
  | updated (old new : StoredToken desired.id) (hstate : desired.state = .present)
      (hbefore : before desired.id = some old)
      (hnew : rule.updates desired.id old (desired.updateEntries version) new) :
      Settles rule version desired before (Function.update before desired.id (some new))
        ⟨decide (old.managed ≠ new.managed), .update, some new.document⟩

namespace Settles

variable {rule : Rule} {version : Version} {desired : Desired} {before after : Store}
  {report : Report}

/-- No other token is touched. -/
theorem other_unchanged (h : Settles rule version desired before after report) {id : String}
    (hid : id ≠ desired.id) : after id = before id := by
  cases h with
  | missing => rfl
  | removed | created | updated => exact Function.update_of_ne hid _ _

/-- What is stored in the end is what is reported. -/
theorem token_eq (h : Settles rule version desired before after report) :
    report.token = (after desired.id).map StoredToken.document := by
  cases h with
  | missing hstate hbefore => rw [hbefore, Option.map_none]
  | removed => rw [Function.update_self, Option.map_none]
  | created new | updated old new => rw [Function.update_self, Option.map_some]

/-- A token is stored in the end if it should be. -/
theorem isSome_iff (h : Settles rule version desired before after report) :
    (after desired.id).isSome = true ↔ desired.state = .present := by
  cases h with
  | missing hstate hbefore => simp [hbefore, hstate]
  | removed hstate => simp [hstate]
  | created new hstate | updated old new hstate => simp [hstate]

/-- A change is reported if the token came or went, or a managed attribute of it has changed. -/
theorem changed_iff (h : Settles rule version desired before after report) :
    report.changed = true ↔ after.managed desired.id ≠ before.managed desired.id := by
  cases h with
  | missing => simp
  | removed hstate hbefore =>
    cases htoken : before desired.id with
    | none => exact absurd htoken hbefore
    | some token => simp [Store.managed, htoken]
  | created new hstate hbefore => simp [Store.managed, hbefore]
  | updated old new hstate hbefore =>
    have hne : old.managed ≠ new.managed ↔ new.managed ≠ old.managed := ne_comm
    simpa [Store.managed, hbefore] using hne

end Settles

namespace Client

variable {σ : Type} {rule : Rule} {version : Version} {agent : Agent σ} {store : σ → Store}

theorem updateReport_eq (client : Client) {id : String} {reply : Reply} {document : Json}
    (before : TokenRecord) {after : TokenRecord}
    (hdocument : client.documentOf (tokenPath id) reply = .ok document)
    (hread : TokenRecord.read 0 document = .ok after) :
    client.updateReport id before reply =
      .ok ⟨before.differsFrom after, .update, some document⟩ := by
  have hview : viewToken (tokenPath id) document = .ok after := mapError_eq_ok_iff.2 hread
  exact bind_eq_ok_iff.2 ⟨document, hdocument, bind_eq_ok_iff.2 ⟨after, hview, rfl⟩⟩

/-- What is done about a token succeeds and settles it, if what the listing tells of the token is
true. -/
theorem act_settles (client : Client) {desired : Desired} (hadmits : rule.Admits desired version)
    {found : Option TokenRecord} {state : σ}
    (hnone : found = none ↔ store state desired.id = none)
    (hbacks : ∀ listed, found = some listed → ∃ token, store state desired.id = some token ∧
      (TokenRecord.merge listed token.record).toManaged = token.managed)
    (hserved : Served rule version agent store (client.act desired version found).run state) :
    ∃ report, ((client.act desired version found).transcript agent state).result = .ok report ∧
      Settles rule version desired (store state)
        (store ((client.act desired version found).transcript agent state).state) report := by
  cases found with
  | none =>
    have hbefore := hnone.1 rfl
    cases hstate : desired.state with
    | absent =>
      refine ⟨⟨false, .remove, none⟩, by simp [act, hstate], ?_⟩
      simpa [act, hstate] using Settles.missing hstate hbefore
    | present =>
      simp only [act, hstate] at hserved ⊢
      obtain ⟨new, hnew, hafter, hdocument⟩ := hserved.1.documentOf_create
        (desired.get?_createEntries_accessor version) hadmits.creates
      refine ⟨⟨true, .create, some new.document⟩, ?_, ?_⟩
      · rw [transcript_exchange, hdocument]
        rfl
      · rw [transcript_exchange, hafter]
        exact .created new hstate hbefore hnew
  | some listed =>
    obtain ⟨old, hbefore, hmerge⟩ := hbacks listed rfl
    cases hstate : desired.state with
    | absent =>
      have hstored : store state desired.id ≠ none := by simp [hbefore]
      simp only [act, hstate] at hserved ⊢
      obtain ⟨hafter, body, hbody⟩ := hserved.1.accept_remove hstored
      refine ⟨⟨true, .remove, none⟩, ?_, ?_⟩
      · rw [transcript_exchange, hbody]
        rfl
      · rw [transcript_exchange, hafter]
        exact .removed hstate hstored
    | present =>
      simp only [act, hstate] at hserved ⊢
      obtain ⟨hfetch, hserved⟩ := served_exchange_bind.1 hserved
      obtain ⟨hrecord, hsame⟩ := hfetch.recordOf_eq hbefore
      rw [hrecord, Conversation.ended_ok_bind] at hserved
      rw [transcript_exchange_bind_ok hrecord]
      obtain ⟨new, hnew, hafter, hdocument⟩ := hserved.1.documentOf_update (hsame ▸ hbefore)
        (hadmits.updates old)
      have hreport := client.updateReport_eq (.merge listed old.record) hdocument new.reads
      -- The listing adds nothing to the full record, so what was stored before is compared.
      have hdiffers : (TokenRecord.merge listed old.record).differsFrom new.record =
          decide (old.managed ≠ new.managed) := by
        rw [TokenRecord.differsFrom, hmerge]
        rfl
      refine ⟨⟨decide (old.managed ≠ new.managed), .update, some new.document⟩, ?_, ?_⟩
      · rw [Transcript.result_prepend, transcript_exchange, hreport, hdiffers]
      · rw [Transcript.state_prepend, transcript_exchange, hafter, hsame]
        exact .updated old new hstate hbefore hnew

/-- **A run succeeds and settles the token.** -/
theorem reconcile_settles (client : Client) {desired : Desired}
    (hadmits : rule.Admits desired version) {state : σ}
    (hserved : Served rule version agent store (client.reconcile desired).run state) :
    ∃ report, ((client.reconcile desired).transcript agent state).result = .ok report ∧
      Settles rule version desired (store state)
        (store ((client.reconcile desired).transcript agent state).state) report := by
  rw [reconcile_eq] at hserved ⊢
  obtain ⟨hself, hserved⟩ := served_exchange_bind.1 hserved
  obtain ⟨hversion, hsame⟩ := hself.versionOf_eq
  rw [hversion, Conversation.ended_ok_bind] at hserved
  rw [transcript_exchange_bind_ok hversion, Transcript.result_prepend, Transcript.state_prepend,
    ← hsame]
  obtain ⟨hlist, hserved⟩ := served_exchange_bind.1 hserved
  obtain ⟨records, hlisting, hsame', hbacks, hnone⟩ := hlist.listingOf_eq
  rw [hlisting, Conversation.ended_ok_bind] at hserved
  rw [transcript_exchange_bind_ok hlisting, Transcript.result_prepend, Transcript.state_prepend,
    ← hsame']
  rw [← hsame'] at hnone hbacks
  exact client.act_settles hadmits (hnone desired.id) (fun listed hlisted =>
    hbacks listed (mem_of_lastNamed hlisted) desired.id (accessor_of_lastNamed hlisted)) hserved

/-! ### Runs that are served -/

/-- An agent that answers this request from its store. -/
abbrev AnswersNext (rule : Rule) (version : Version) (agent : Agent σ) (store : σ → Store)
    (q : Request) (state : σ) : Prop :=
  Answers rule version (store state) q (agent.respond q state).1 (store (agent.respond q state).2)

theorem served_act_create {client : Client} {desired : Desired} {state : σ}
    (hstate : desired.state = .present) (hbefore : store state desired.id = none)
    (h : AnswersNext rule version agent store
      (client.writes newTokenPath (desired.createBody version)) state)
    {found : Option TokenRecord} (hfound : found = none ↔ store state desired.id = none) :
    Served rule version agent store (client.act desired version found).run state := by
  rw [hfound.2 hbefore]
  simp only [act, hstate]
  exact ⟨h, trivial⟩

theorem served_act_update {client : Client} {desired : Desired} {state after : σ}
    (old : StoredToken desired.id) (hstate : desired.state = .present)
    (hbefore : store state desired.id = some old)
    (hfetch : AnswersNext rule version agent store
      (client.asks .get (tokenPath desired.id)) state)
    (hafter : (agent.respond (client.asks .get (tokenPath desired.id)) state).2 = after)
    (hupdate : AnswersNext rule version agent store
      (client.writes (tokenPath desired.id) (desired.updateBody version)) after)
    {found : Option TokenRecord} (hfound : found = none ↔ store state desired.id = none) :
    Served rule version agent store (client.act desired version found).run state := by
  cases found with
  | none => exact nomatch hbefore.symm.trans (hfound.1 rfl)
  | some listed =>
    simp only [act, hstate]
    refine served_exchange_bind.2 ⟨hfetch, ?_⟩
    rw [(hfetch.recordOf_eq hbefore).1, Conversation.ended_ok_bind, hafter]
    exact ⟨hupdate, trivial⟩

theorem served_act_remove {client : Client} {desired : Desired} {state : σ}
    (hstate : desired.state = .absent) (hbefore : store state desired.id ≠ none)
    (h : AnswersNext rule version agent store
      (client.asks .delete (tokenPath desired.id)) state)
    {found : Option TokenRecord} (hfound : found = none ↔ store state desired.id = none) :
    Served rule version agent store (client.act desired version found).run state := by
  cases found with
  | none => exact absurd (hfound.1 rfl) hbefore
  | some listed =>
    simp only [act, hstate]
    exact ⟨h, trivial⟩

/-- A run is served if the version, the listing and what is done about the token are. -/
theorem served_reconcile {client : Client} {desired : Desired} {state first second : σ}
    (hself : AnswersNext rule version agent store (client.asks .get agentPath) state)
    (hfirst : (agent.respond (client.asks .get agentPath) state).2 = first)
    (hlist : AnswersNext rule version agent store (client.asks .get listingPath) first)
    (hsecond : (agent.respond (client.asks .get listingPath) first).2 = second)
    (hact : ∀ found : Option TokenRecord, (found = none ↔ store second desired.id = none) →
      Served rule version agent store (client.act desired version found).run second) :
    Served rule version agent store (client.reconcile desired).run state := by
  rw [reconcile_eq]
  refine served_exchange_bind.2 ⟨hself, ?_⟩
  rw [hself.versionOf_eq.1, Conversation.ended_ok_bind, hfirst]
  refine served_exchange_bind.2 ⟨hlist, ?_⟩
  obtain ⟨records, hlisting, hsame, -, hnone⟩ := hlist.listingOf_eq
  rw [hlisting, Conversation.ended_ok_bind, hsecond]
  refine hact _ ?_
  rw [hnone, ← hsecond, hsame]

end Client

/-- **A run with settings that pass the check succeeds and settles the token.** -/
theorem reconcile_settles {σ : Type} {rule : Rule} {version : Version} {agent : Agent σ}
    {store : σ → Store} {connection : Connection} {spec : TokenSpec} {configuration : Configuration}
    (hvalid : validate connection spec = .ok configuration)
    (hadmits : rule.Admits spec.desired version) {state : σ}
    (hserved : Served rule version agent store (reconcile connection spec).run state) :
    ∃ report, ((reconcile connection spec).transcript agent state).result = .ok report ∧
      Settles rule version spec.desired (store state)
        (store ((reconcile connection spec).transcript agent state).state) report := by
  rw [reconcile_of_valid hvalid] at hserved ⊢
  exact connection.client.reconcile_settles hadmits hserved

end TokenSync
