import Mathlib.Data.List.Nodup
import TokenSync.Proofs.Interleaving
import TokenSync.Proofs.Progress

/-!
# Runs at the same time

Runs for different tokens do not get into each other's way. However their requests are interleaved,
each run reports what it would report if the runs were held one after another, in whatever order,
and the store ends the same.
-/
namespace TokenSync

open Json

/-! ## One after another -/

section

variable {creates : (id : String) → Entries → StoredToken id}
  {updates : (id : String) → StoredToken id → Entries → StoredToken id} {version : Version}

/-- Runs for different tokens that are held one after another: each finds its token as it was before
all of them. -/
theorem Unfolds.eq_settle {runs : List Run} {before after : Store} {reports : List Report}
    (h : Unfolds (.ofFunctions creates updates) version before runs reports after)
    (hids : (runs.map fun run => run.2.id).Nodup) :
    reports = runs.map (fun run =>
        (run.2.desired.settle creates updates version (before run.2.id)).2) ∧
      (∀ run ∈ runs,
        after run.2.id = (run.2.desired.settle creates updates version (before run.2.id)).1) ∧
      ∀ id, (∀ run ∈ runs, run.2.id ≠ id) → after id = before id := by
  induction h with
  | done => exact ⟨rfl, nofun, fun _ _ => rfl⟩
  | @next before between after run rest report reports first _ ih =>
    obtain ⟨hnew, hrest⟩ := List.nodup_cons.1 hids
    have hother : ∀ other ∈ rest, other.2.id ≠ run.2.id := fun other hmem heq =>
      hnew (List.mem_map.2 ⟨other, hmem, heq⟩)
    obtain ⟨hbetween, hreport⟩ := first.eq_settle
    obtain ⟨hreports, hafter, hsame⟩ := ih hrest
    have hkept : ∀ other ∈ rest, between other.2.id = before other.2.id := fun other hmem =>
      first.other_unchanged (hother other hmem)
    refine ⟨?_, ?_, fun id hid => ?_⟩
    · rw [List.map_cons, hreport, hreports]
      congr 1
      exact List.map_congr_left fun other hmem => by rw [hkept other hmem]
    · refine List.forall_mem_cons.2 ⟨?_, fun other hmem => ?_⟩
      · rw [hsame _ hother, hbetween]
        exact Function.update_self _ _ _
      · rw [hafter other hmem, hkept other hmem]
    · obtain ⟨hrun, hothers⟩ := List.forall_mem_cons.1 hid
      rw [hsame id hothers]
      exact first.other_unchanged (Ne.symm hrun)

end

/-! ## At the same time -/

section

variable {ι σ : Type}

/-- Runs that are held at the same time. -/
def together (runs : ι → Run) (state : σ) : Meeting ι σ (Except Failure Report) :=
  ⟨fun i => (reconcile (runs i).1 (runs i).2).run, state⟩

variable (creates : (id : String) → Entries → StoredToken id)
  (updates : (id : String) → StoredToken id → Entries → StoredToken id) (version : Version)

/-- Every run is at some stage with its own token, and no other token has been touched. -/
structure UnderWay (runs : ι → Run) (start : Store) (turns : ι → Nat)
    (dialogue : ι → Dialogue (Except Failure Report)) (now : Store) : Prop where
  stage : ∀ i, ∃ left ≤ turns i, Stage creates updates version (runs i).1.client
    (runs i).2.desired (start (runs i).2.id) left (now (runs i).2.id) (dialogue i)
  untouched : ∀ id, (∀ i, (runs i).2.id ≠ id) → now id = start id

variable {creates updates version} {runs : ι → Run} {start : Store} {turns : ι → Nat}
  {agent : Agent σ} {store : σ → Store}

theorem underWay_together (hvalid : ∀ i, (runs i).Valid) (state : σ) :
    UnderWay creates updates version runs (store state) (fun _ => 4)
      (together runs state).dialogue (store state) where
  stage i := by
    obtain ⟨configuration, h⟩ := hvalid i
    refine ⟨4, Nat.le_refl 4, ?_⟩
    simp only [together, reconcile_of_valid h]
    exact .asking
  untouched _ _ := rfl

/-- A run that has ended reports what it makes of its token, and its token is that. -/
theorem UnderWay.of_result {m : Meeting ι σ (Except Failure Report)}
    (h : UnderWay creates updates version runs start turns m.dialogue (store m.state)) {i : ι}
    {result : Except Failure Report} (hresult : m.result? i = some result) :
    ∃ report, result = .ok report ∧
      (runs i).2.desired.settle creates updates version (start (runs i).2.id) =
        (store m.state (runs i).2.id, report) := by
  obtain ⟨left, -, hstage⟩ := h.stage i
  rw [Meeting.result?_eq_some_iff.1 hresult] at hstage
  exact hstage.of_done

/-- A run that has had all its turns has ended. -/
theorem UnderWay.exists_result {m : Meeting ι σ (Except Failure Report)}
    (h : UnderWay creates updates version runs start turns m.dialogue (store m.state)) {i : ι}
    (hturns : turns i = 0) : ∃ result, m.result? i = some result := by
  obtain ⟨left, hleft, hstage⟩ := h.stage i
  simp only [Meeting.result?_eq_some_iff]
  exact hstage.exists_done (Nat.le_zero.1 (hturns ▸ hleft))

variable [DecidableEq ι]

/-- A turn takes one run on and leaves the others where they are. -/
theorem UnderWay.turn (hids : Function.Injective fun i => (runs i).2.id)
    {m : Meeting ι σ (Except Failure Report)}
    (h : UnderWay creates updates version runs start turns m.dialogue (store m.state)) {i : ι}
    (hserves : m.ServesNext (.ofFunctions creates updates) version agent store i) :
    UnderWay creates updates version runs start (fun j => turns j - [i].count j)
      (m.turn agent i).dialogue (store (m.turn agent i).state) := by
  have count_other {j : ι} (hj : j ≠ i) : turns j - [i].count j = turns j := by
    rw [List.count_singleton, if_neg (by simpa using Ne.symm hj), Nat.sub_zero]
  obtain ⟨left, hleft, hstage⟩ := h.stage i
  cases hd : m.dialogue i with
  | done result =>
    rw [Meeting.turn_of_done hd]
    refine ⟨fun j => ?_, h.untouched⟩
    by_cases hj : j = i
    · subst hj
      rw [hd] at hstage
      obtain ⟨report, rfl, hsettle⟩ := hstage.of_done
      rw [hd]
      exact ⟨0, Nat.zero_le _, .ended hsettle⟩
    · rw [count_other hj]
      exact h.stage j
  | send q next =>
    rw [hd] at hstage
    obtain ⟨⟨fewer, hfewer, hnext⟩, hothers⟩ := hstage.turn rfl (hserves q next hd)
    rw [Meeting.turn_of_send hd]
    refine ⟨fun j => ?_, fun id hid => ?_⟩
    · by_cases hj : j = i
      · subst hj
        refine ⟨fewer, ?_, ?_⟩
        · simp only [List.count_singleton_self]
          omega
        · simp only [Function.update_self]
          exact hnext
      · obtain ⟨left', hleft', hstage'⟩ := h.stage j
        refine ⟨left', ?_, ?_⟩
        · rw [count_other hj]
          exact hleft'
        · simp only [Function.update_of_ne hj]
          rw [hothers _ (hids.ne hj)]
          exact hstage'
    · exact (hothers id (Ne.symm (hid i))).trans (h.untouched id hid)

/-- Many turns take each run on as often as it has a turn. -/
theorem UnderWay.hold (hids : Function.Injective fun i => (runs i).2.id)
    {m : Meeting ι σ (Except Failure Report)}
    (h : UnderWay creates updates version runs start turns m.dialogue (store m.state))
    {schedule : List ι}
    (hserved : m.Served (.ofFunctions creates updates) version agent store schedule) :
    UnderWay creates updates version runs start (fun j => turns j - schedule.count j)
      (m.hold agent schedule).dialogue (store (m.hold agent schedule).state) := by
  induction schedule generalizing m turns with
  | nil => exact h
  | cons i rest ih =>
    obtain ⟨hnext, hrest⟩ := hserved
    have hcount (j : ι) : turns j - (i :: rest).count j =
        turns j - [i].count j - rest.count j := by
      rw [Nat.sub_sub, ← List.count_append, List.singleton_append]
    simp only [hcount]
    exact ih (h.turn hids hnext) hrest

/-- An agent that attends to the tokens of all runs serves them however they are interleaved. -/
theorem UnderWay.served (hids : Function.Injective fun i => (runs i).2.id)
    (hattends : ∀ i, Attends (.ofFunctions creates updates) version agent store (runs i).1.client
      (runs i).2.desired) {m : Meeting ι σ (Except Failure Report)}
    (h : UnderWay creates updates version runs start turns m.dialogue (store m.state))
    (schedule : List ι) :
    m.Served (.ofFunctions creates updates) version agent store schedule := by
  induction schedule generalizing m turns with
  | nil => trivial
  | cons i rest ih =>
    have hserves : m.ServesNext (.ofFunctions creates updates) version agent store i := by
      intro q next hd
      obtain ⟨left, -, hstage⟩ := h.stage i
      rw [hd] at hstage
      exact hstage.answersNext (hattends i) rfl
    exact ⟨hserves, ih (h.turn hids hserves)⟩

/-- **Runs for different tokens are independent.** However their requests are interleaved, no run
takes more than four turns, each reports what it reports when the runs are held one after another in
any order, and when all have ended the store is the same. -/
theorem interleaved_runs_agree (hvalid : ∀ i, (runs i).Valid)
    (hids : Function.Injective fun i => (runs i).2.id) {state : σ} {schedule : List ι}
    (hserved : (together runs state).Served (.ofFunctions creates updates) version agent store
      schedule)
    {state' : σ} (hstart : store state' = store state) {order : List ι} (hnodup : order.Nodup)
    (hall : ∀ i, i ∈ order)
    (hserved' : TokenSync.Served (.ofFunctions creates updates) version agent store
      (history (order.map runs)) state') :
    let interleaved := (together runs state).hold agent schedule
    let ordered := (history (order.map runs)).run agent state'
    ∃ report : ι → Report, ordered.result = order.map (fun i => .ok (report i)) ∧
      (∀ i, 4 ≤ schedule.count i → (interleaved.result? i).isSome) ∧
      (∀ i result, interleaved.result? i = some result → result = .ok (report i)) ∧
      ((∀ i, (interleaved.result? i).isSome) → store interleaved.state = store ordered.state) := by
  intro interleaved ordered
  have hunder : UnderWay creates updates version runs (store state)
      (fun i => 4 - schedule.count i) interleaved.dialogue (store interleaved.state) :=
    (underWay_together hvalid state).hold hids hserved
  have hmem {run : Run} (hrun : run ∈ order.map runs) : ∃ i, runs i = run := by
    obtain ⟨i, -, hi⟩ := List.mem_map.1 hrun
    exact ⟨i, hi⟩
  obtain ⟨reports, hresult, hunfolds⟩ := history_unfolds
    (fun run hrun => by obtain ⟨i, rfl⟩ := hmem hrun; exact hvalid i)
    (fun run _ => Rule.admits_ofFunctions creates updates run.2.desired version) hserved'
  have hdistinct : ((order.map runs).map fun run => run.2.id).Nodup := by
    rw [List.map_map]
    exact List.Nodup.map hids hnodup
  obtain ⟨hreports, hafter, hsame⟩ := hunfolds.eq_settle hdistinct
  rw [hstart] at hreports hafter hsame
  refine ⟨fun i => ((runs i).2.desired.settle creates updates version
    (store state (runs i).2.id)).2, ?_, fun i hturns => ?_, fun i result hdone => ?_,
    fun hdone => funext fun id => ?_⟩
  · rw [hresult, hreports, List.map_map, List.map_map]
    rfl
  · obtain ⟨result, hdone⟩ := hunder.exists_result (Nat.sub_eq_zero_of_le hturns)
    exact Option.isSome_of_eq_some hdone
  · obtain ⟨report, rfl, hsettle⟩ := hunder.of_result hdone
    exact congrArg Except.ok (congrArg Prod.snd hsettle).symm
  · by_cases hid : ∃ i, (runs i).2.id = id
    · obtain ⟨i, rfl⟩ := hid
      obtain ⟨result, hresult⟩ := Option.isSome_iff_exists.1 (hdone i)
      obtain ⟨report, -, hsettle⟩ := hunder.of_result hresult
      exact (congrArg Prod.fst hsettle).symm.trans (hafter _ (List.mem_map_of_mem (hall i))).symm
    · have hne : ∀ i, (runs i).2.id ≠ id := fun i hi => hid ⟨i, hi⟩
      have hrest : ∀ run ∈ order.map runs, run.2.id ≠ id := fun run hrun => by
        obtain ⟨i, rfl⟩ := hmem hrun
        exact hne i
      exact (hunder.untouched id hne).trans (hsame id hrest).symm

end

/-! ## Two runs at the same time -/

/-- One run creates a token and the other one removes another token. -/
def twoRuns : Bool → Run
  | false => ({}, createdSpec)
  | true => ({}, { id := "b", state := .absent })

/-- The listing of an agent that may have each of two tokens. -/
def listingOfTwo : Bool × Bool → String
  | (false, false) => "[]"
  | (true, false) => "[\x7b\"AccessorID\":\"a\"\x7d]"
  | (false, true) => "[\x7b\"AccessorID\":\"b\"\x7d]"
  | (true, true) => "[\x7b\"AccessorID\":\"a\"\x7d,\x7b\"AccessorID\":\"b\"\x7d]"

/-- An agent whose state is which of two tokens it has. The first one can be put and fetched, the
second one deleted. -/
def Agent.ofTwo : Agent (Bool × Bool) where
  respond q kept :=
    match q.method with
    | .put => (.answer 200 createdText, (true, kept.2))
    | .delete => (.answer 200 "", (kept.1, false))
    | .get =>
      if q.path = Client.agentPath then
        (.answer 200 "\x7b\"Config\":\x7b\"Version\":\"1.8.0\"\x7d\x7d", kept)
      else if q.path = Client.listingPath then (.answer 200 (listingOfTwo kept), kept)
      else (.answer 200 createdText, kept)

/-- The second token, if the agent has it. -/
def Store.ofSecond (second : Bool) : Store :=
  Function.update Store.empty "b" (if second then some (.bare "b") else none)

/-- The tokens that this agent has. -/
def Store.ofTwo : Bool × Bool → Store
  | (false, second) => Store.ofSecond second
  | (true, second) => Function.update (Store.ofSecond second) "a" (some .created)

theorem Store.ofTwo_removed (first : Bool) :
    Store.ofTwo (first, false) = Function.update (Store.ofTwo (first, true)) "b" none := by
  cases first with
  | false => exact (Function.update_idem _ _ _).symm
  | true =>
    refine Eq.trans ?_ (Function.update_comm (by decide) _ _ _)
    exact congrArg (Function.update · "a" _) (Function.update_idem _ _ _).symm

theorem Store.lists_ofTwo (kept : Bool × Bool) : ∃ items, TextOfListing (listingOfTwo kept) items ∧
    (Store.ofTwo kept).Lists items := by
  have hempty : Store.ofSecond false = Store.empty := Function.update_eq_self_iff.2 rfl
  have hnone : (Store.ofSecond false).Lists [] := hempty ▸ Store.lists_empty
  have hsecond : (Store.ofSecond true).Lists [.object [("AccessorID", .string "b")]] :=
    Store.lists_empty.update rfl ⟨List.Sublist.refl _, rfl⟩
  have hfirst : StoredToken.created.ShownBy [("AccessorID", .string "a")] :=
    ⟨List.sublist_append_left _ _, rfl⟩
  match kept with
  | (false, false) => exact ⟨[], ⟨by decide +kernel, by decide +kernel⟩, hnone⟩
  | (true, false) => exact ⟨_, ⟨by decide +kernel, by decide +kernel⟩, hnone.update rfl hfirst⟩
  | (false, true) => exact ⟨_, ⟨by decide +kernel, by decide +kernel⟩, hsecond⟩
  | (true, true) => exact ⟨_, ⟨by decide +kernel, by decide +kernel⟩, hsecond.update rfl hfirst⟩

namespace Agent.ofTwo

/-- What is made of what is sent about the two tokens. -/
abbrev rule : Rule := .ofFunctions createsOfScript updatesOfScript

variable (client : Client)

theorem answersNext_self (kept : Bool × Bool) : Client.AnswersNext rule .nodeIdentitiesSince
    Agent.ofTwo Store.ofTwo (client.asks .get Client.agentPath) kept :=
  answers_self _ ⟨rfl, rfl⟩ "1.8.0" (by decide +kernel) rfl _

theorem answersNext_listing (kept : Bool × Bool) : Client.AnswersNext rule .nodeIdentitiesSince
    Agent.ofTwo Store.ofTwo (client.asks .get Client.listingPath) kept := by
  obtain ⟨items, htext, hlists⟩ := Store.lists_ofTwo kept
  exact answers_listing _ _ ⟨rfl, rfl⟩ htext hlists

theorem answersNext_create (second : Bool) : Client.AnswersNext rule .nodeIdentitiesSince
    Agent.ofTwo Store.ofTwo (client.writes Client.newTokenPath
      (createdSpec.desired.createBody .nodeIdentitiesSince)) (false, second) :=
  answers_create _ _ ⟨rfl, rfl⟩ rfl (by decide +kernel) .created rfl
    textOfToken_created.value rfl

theorem answersNext_fetch (second : Bool) : Client.AnswersNext rule .nodeIdentitiesSince
    Agent.ofTwo Store.ofTwo (client.asks .get (Client.tokenPath "a")) (true, second) :=
  answers_fetch _ _ ⟨rfl, rfl⟩ rfl textOfToken_created

theorem answersNext_update (second : Bool) : Client.AnswersNext rule .nodeIdentitiesSince
    Agent.ofTwo Store.ofTwo (client.writes (Client.tokenPath "a")
      (createdSpec.desired.updateBody .nodeIdentitiesSince)) (true, second) :=
  answers_update _ _ ⟨rfl, rfl⟩ rfl rfl .created rfl textOfToken_created.value
    (Function.update_idem _ _ _).symm

theorem answersNext_remove (first : Bool) : Client.AnswersNext rule .nodeIdentitiesSince
    Agent.ofTwo Store.ofTwo (client.asks .delete (Client.tokenPath "b")) (first, true) :=
  answers_remove _ _ ⟨rfl, rfl⟩ (Store.ofTwo_removed first)

end Agent.ofTwo

theorem twoRuns_valid (i : Bool) : (twoRuns i).Valid := by
  cases i with
  | false => exact ⟨_, createdSpec_valid⟩
  | true => exact ⟨⟨{}, (twoRuns true).2.desired⟩, by decide +kernel⟩

theorem Agent.ofTwo.attends (i : Bool) : Attends rule .nodeIdentitiesSince Agent.ofTwo Store.ofTwo
    (twoRuns i).1.client (twoRuns i).2.desired where
  self := answersNext_self _
  listing := answersNext_listing _
  create state hstate hstore := by
    match i, state with
    | false, (false, second) => exact answersNext_create _ second
    | false, (true, true) | false, (true, false) => exact nomatch hstore
    | true, _ => cases hstate
  fetch state hstate hstore := by
    match i, state with
    | false, (true, second) => exact answersNext_fetch _ second
    | false, (false, true) | false, (false, false) => exact absurd rfl hstore
    | true, _ => cases hstate
  update state hstate hstore := by
    match i, state with
    | false, (true, second) => exact answersNext_update _ second
    | false, (false, true) | false, (false, false) => exact absurd rfl hstore
    | true, _ => cases hstate
  remove state hstate hstore := by
    match i, state with
    | false, _ => cases hstate
    | true, (first, true) => exact answersNext_remove _ first
    | true, (true, false) | true, (false, false) => exact absurd rfl hstore

/-- Whose turn it is; the last two turns find both runs ended. -/
def twoTurns : List Bool := [false, true, false, false, true, true, false, true]

theorem interleaved_runs_agree_of_two :
    let interleaved := (together twoRuns (false, true)).hold Agent.ofTwo twoTurns
    let ordered := (history [twoRuns true, twoRuns false]).run Agent.ofTwo (false, true)
    (∀ i, (twoRuns i).Valid) ∧ (Function.Injective fun i => (twoRuns i).2.id) ∧
      (together twoRuns (false, true)).Served Agent.ofTwo.rule .nodeIdentitiesSince Agent.ofTwo
        Store.ofTwo twoTurns ∧
      Served Agent.ofTwo.rule .nodeIdentitiesSince Agent.ofTwo Store.ofTwo
        (history [twoRuns true, twoRuns false]) (false, true) ∧
      (∃ created removed : Report, interleaved.result? false = some (.ok created) ∧
        interleaved.result? true = some (.ok removed) ∧
        ordered.result = [.ok removed, .ok created]) ∧
      Store.ofTwo interleaved.state = Store.ofTwo ordered.state := by
  intro interleaved ordered
  have hids : Function.Injective fun i => (twoRuns i).2.id := by
    intro i j
    revert i j
    decide
  have hserved := (underWay_together twoRuns_valid (false, true)).served hids Agent.ofTwo.attends
    twoTurns
  have hordered : Served Agent.ofTwo.rule .nodeIdentitiesSince Agent.ofTwo Store.ofTwo
      (history [twoRuns true, twoRuns false]) (false, true) :=
    served_history
      (List.forall_mem_cons.2
        ⟨twoRuns_valid true, List.forall_mem_singleton.2 (twoRuns_valid false)⟩)
      (List.forall_mem_cons.2
        ⟨Agent.ofTwo.attends true, List.forall_mem_singleton.2 (Agent.ofTwo.attends false)⟩) _
  have hnodup : [true, false].Nodup := by decide
  obtain ⟨report, hresult, hended, hreport, hstore⟩ :=
    interleaved_runs_agree twoRuns_valid hids hserved rfl hnodup (by decide) hordered
  have hresults (i : Bool) : interleaved.result? i = some (.ok (report i)) := by
    have hturns : 4 ≤ twoTurns.count i := by revert i; decide
    obtain ⟨result, hi⟩ := Option.isSome_iff_exists.1 (hended i hturns)
    rw [← hreport i result hi]
    exact hi
  refine ⟨twoRuns_valid, hids, hserved, hordered,
    ⟨report false, report true, hresults false, hresults true, hresult⟩, hstore fun i => ?_⟩
  exact Option.isSome_of_eq_some (hresults i)

end TokenSync
