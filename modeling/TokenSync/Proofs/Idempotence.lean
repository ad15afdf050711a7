import TokenSync.Proofs.History

/-!
# Repeated runs

The first run of a description settles the token, and every further one finds it settled. This needs
an agent for which writing the same thing once more makes no difference to the managed attributes.
-/
namespace TokenSync

open Json

section

variable (creates : (id : String) → Entries → StoredToken id)
  (updates : (id : String) → StoredToken id → Entries → StoredToken id)

/-- What an agent stores is determined by what it is sent and what it has stored. -/
def Rule.ofFunctions : Rule where
  creates id body new := new = creates id body
  updates id old body new := new = updates id old body

theorem Rule.admits_ofFunctions (desired : Desired) (version : Version) :
    (Rule.ofFunctions creates updates).Admits desired version :=
  ⟨⟨_, rfl⟩, fun _ => ⟨_, rfl⟩⟩

/-- Writing a description once more makes no difference to the managed attributes. -/
structure RewritesAlike (desired : Desired) (version : Version) : Prop where
  update : ∀ old, (updates desired.id (updates desired.id old (desired.updateEntries version))
      (desired.updateEntries version)).managed =
    (updates desired.id old (desired.updateEntries version)).managed
  create : (updates desired.id (creates desired.id (desired.createEntries version))
      (desired.updateEntries version)).managed =
    (creates desired.id (desired.createEntries version)).managed

/-- A store in which nothing is left to do about a token: it is not there and should not be, or
writing it makes no difference. -/
def Store.Settled (desired : Desired) (version : Version) (store : Store) : Prop :=
  match desired.state with
  | .absent => store desired.id = none
  | .present => ∃ token, store desired.id = some token ∧
      (updates desired.id token (desired.updateEntries version)).managed = token.managed

end

/-- The operation of a run that finds a token settled. -/
def Operation.again : Presence → Operation
  | .present => .update
  | .absent => .remove

section

variable {creates : (id : String) → Entries → StoredToken id}
  {updates : (id : String) → StoredToken id → Entries → StoredToken id} {desired : Desired}
  {version : Version} {before after : Store} {report : Report}

/-- After a run a token is settled. -/
theorem Settles.settled (hrewrites : RewritesAlike creates updates desired version)
    (h : Settles (.ofFunctions creates updates) version desired before after report) :
    after.Settled updates desired version := by
  cases h with
  | missing hstate hbefore => simpa only [Store.Settled, hstate] using hbefore
  | removed hstate => simp [Store.Settled, hstate]
  | created new hstate _ hnew =>
    obtain rfl : new = creates _ _ := hnew
    simp only [Store.Settled, hstate]
    exact ⟨_, Function.update_self _ _ _, hrewrites.create⟩
  | updated old new hstate _ hnew =>
    obtain rfl : new = updates _ _ _ := hnew
    simp only [Store.Settled, hstate]
    exact ⟨_, Function.update_self _ _ _, hrewrites.update old⟩

/-- A run that finds a token settled changes nothing about it. -/
theorem Settles.of_settled (hsettled : before.Settled updates desired version)
    (h : Settles (.ofFunctions creates updates) version desired before after report) :
    report.changed = false ∧ report.operation = .again desired.state ∧
      after.managed desired.id = before.managed desired.id := by
  cases h with
  | missing hstate => exact ⟨rfl, by rw [hstate]; rfl, rfl⟩
  | removed hstate hbefore =>
    simp only [Store.Settled, hstate] at hsettled
    exact absurd hsettled hbefore
  | created new hstate hbefore =>
    simp only [Store.Settled, hstate, hbefore] at hsettled
    simp at hsettled
  | updated old new hstate hbefore hnew =>
    obtain rfl : new = updates _ _ _ := hnew
    simp only [Store.Settled, hstate, hbefore] at hsettled
    obtain ⟨token, htoken, hmanaged⟩ := hsettled
    obtain rfl := Option.some.inj htoken
    refine ⟨?_, by rw [hstate]; rfl, ?_⟩
    · simpa using hmanaged.symm
    · simpa [Store.managed, hbefore] using hmanaged

/-- Runs of a token that is settled change nothing about it, however many there are. -/
theorem Unfolds.of_settled {spec : TokenSpec} {connection : Connection}
    (hrewrites : RewritesAlike creates updates spec.desired version) {n : Nat}
    {reports : List Report} (hsettled : before.Settled updates spec.desired version)
    (h : Unfolds (.ofFunctions creates updates) version before
      (List.replicate n (connection, spec)) reports after) :
    (∀ report ∈ reports, report.changed = false ∧ report.operation = .again spec.state) ∧
      after.managed spec.id = before.managed spec.id := by
  induction n generalizing before reports with
  | zero =>
    cases h
    exact ⟨nofun, rfl⟩
  | succ n ih =>
    cases h with
    | next first others =>
      obtain ⟨hchanged, hoperation, hmanaged⟩ := first.of_settled hsettled
      obtain ⟨hreports, hafter⟩ := ih (first.settled hrewrites) others
      exact ⟨List.forall_mem_cons.2 ⟨⟨hchanged, hoperation⟩, hreports⟩, hafter.trans hmanaged⟩

/-- **However often a description is run, every run succeeds, and those after the first change
nothing: they update the token or find it removed, and its managed attributes stay what the first
run has made of them.** -/
theorem repeated_runs_settle {σ : Type} {agent : Agent σ} {store : σ → Store}
    {connection : Connection} {spec : TokenSpec} {configuration : Configuration}
    (hvalid : validate connection spec = .ok configuration)
    (hrewrites : RewritesAlike creates updates spec.desired version) {state : σ} {n : Nat}
    (hserved : Served (.ofFunctions creates updates) version agent store
      (history (List.replicate (n + 1) (connection, spec))) state) :
    let first := (reconcile connection spec).transcript agent state
    let all := (history (List.replicate (n + 1) (connection, spec))).run agent state
    ∃ (report : Report) (later : List Report), first.result = .ok report ∧
      all.result = .ok report :: later.map .ok ∧ later.length = n ∧
      (∀ report ∈ later, report.changed = false ∧ report.operation = .again spec.state) ∧
      (store all.state).managed spec.id = (store first.state).managed spec.id ∧
      ((store all.state spec.id).isSome = true ↔ spec.state = .present) := by
  rw [List.replicate_succ, served_history_cons] at hserved
  obtain ⟨hservedFirst, hservedLater⟩ := hserved
  have hadmits := Rule.admits_ofFunctions creates updates spec.desired version
  obtain ⟨report, hresult, hsettles⟩ := reconcile_settles hvalid hadmits hservedFirst
  obtain ⟨later, hresults, hunfolds⟩ := history_unfolds
    (fun run hrun => List.eq_of_mem_replicate hrun ▸ ⟨configuration, hvalid⟩)
    (fun run hrun => List.eq_of_mem_replicate hrun ▸ hadmits) hservedLater
  obtain ⟨hreports, hmanaged⟩ := hunfolds.of_settled hrewrites (hsettles.settled hrewrites)
  obtain ⟨hall, hstate⟩ :=
    run_history_cons (connection, spec) (List.replicate n (connection, spec)) agent state
  rw [← List.replicate_succ] at hall hstate
  refine ⟨report, later, hresult, ?_, ?_, hreports, ?_, ?_⟩
  · rw [hall, hresult, hresults]
  · rw [hunfolds.length_eq, List.length_replicate]
  · rw [hstate, hmanaged]
  · rw [hstate, ← Store.isSome_managed, hmanaged, Store.isSome_managed]
    exact hsettles.isSome_iff

end

/-- What an agent makes of the body that creates the token of the script. -/
def createsOfScript (id : String) (_ : Entries) : StoredToken id :=
  if h : id = "a" then h ▸ .created else .bare id

/-- What it makes of the body that updates this token, which already has all that is written. -/
def updatesOfScript (id : String) (old : StoredToken id) (_ : Entries) : StoredToken id := old

theorem repeated_runs_settle_of_script :
    let rule := Rule.ofFunctions createsOfScript updatesOfScript
    let all := (history (List.replicate 2 ({}, createdSpec))).run Agent.scripted twiceScript
    validate {} createdSpec = .ok ⟨{}, createdSpec.desired⟩ ∧
      RewritesAlike createsOfScript updatesOfScript createdSpec.desired .nodeIdentitiesSince ∧
      Served rule .nodeIdentitiesSince Agent.scripted twiceScript.store
        (history (List.replicate 2 ({}, createdSpec))) twiceScript ∧
      ∃ first later : Report, all.result = [.ok first, .ok later] ∧ later.changed = false ∧
        later.operation = .update := by
  intro rule all
  have hrewrites : RewritesAlike createsOfScript updatesOfScript createdSpec.desired
      .nodeIdentitiesSince := ⟨fun _ => rfl, rfl⟩
  have hserved : Served rule .nodeIdentitiesSince Agent.scripted twiceScript.store
      (history (List.replicate 2 ({}, createdSpec))) twiceScript := twiceScript.served rfl rfl
  obtain ⟨first, later, -, hresults, hlength, hlater, -⟩ :=
    repeated_runs_settle createdSpec_valid hrewrites hserved
  obtain ⟨report, rfl⟩ := List.length_eq_one_iff.1 hlength
  obtain ⟨hchanged, hoperation⟩ := hlater report List.mem_cons_self
  exact ⟨createdSpec_valid, hrewrites, hserved, first, report, hresults, hchanged, hoperation⟩

end TokenSync
