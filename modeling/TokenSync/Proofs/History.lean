import TokenSync.Agent.Script
import TokenSync.Proofs.Settling

/-!
# Runs one after another

Nothing is remembered between runs, so a history of runs is one dialogue after another with the same
agent. Against an agent that stores tokens every run of it succeeds and does one thing to the store,
which is where the next run begins.
-/
namespace TokenSync

open Json

/-- One run: the connection and the description it is given. -/
abbrev Run := Connection × TokenSpec

/-- Runs one after another. -/
def history (runs : List Run) : Dialogue (List (Except Failure Report)) :=
  runs.mapM fun run => (reconcile run.1 run.2).run

/-- The settings of a run pass the check. -/
def Run.Valid (run : Run) : Prop := ∃ configuration, validate run.1 run.2 = .ok configuration

theorem history_cons (run : Run) (rest : List Run) :
    history (run :: rest) = (reconcile run.1 run.2).run >>= fun result =>
      history rest >>= fun results => .done (result :: results) := List.mapM_cons

section

variable {σ : Type} {rule : Rule} {version : Version} {agent : Agent σ} {store : σ → Store}

theorem run_history_cons (run : Run) (rest : List Run) (agent : Agent σ) (state : σ) :
    ((history (run :: rest)).run agent state).result =
        ((reconcile run.1 run.2).transcript agent state).result ::
          ((history rest).run agent ((reconcile run.1 run.2).transcript agent state).state).result ∧
      ((history (run :: rest)).run agent state).state =
        ((history rest).run agent
          ((reconcile run.1 run.2).transcript agent state).state).state := by
  rw [history_cons]
  simp only [Dialogue.run_bind]
  exact ⟨rfl, rfl⟩

theorem served_history_cons {run : Run} {rest : List Run} {state : σ} :
    Served rule version agent store (history (run :: rest)) state ↔
      Served rule version agent store (reconcile run.1 run.2).run state ∧
        Served rule version agent store (history rest)
          ((reconcile run.1 run.2).transcript agent state).state := by
  rw [history_cons, served_bind, served_bind]
  exact and_congr_right fun _ => and_iff_left trivial

/-- What runs one after another do to a store, and what they report. -/
inductive Unfolds (rule : Rule) (version : Version) :
    Store → List Run → List Report → Store → Prop
  | done (store : Store) : Unfolds rule version store [] [] store
  | next {before between after : Store} {run : Run} {rest : List Run} {report : Report}
      {reports : List Report} (first : Settles rule version run.2.desired before between report)
      (others : Unfolds rule version between rest reports after) :
      Unfolds rule version before (run :: rest) (report :: reports) after

theorem Unfolds.length_eq {before after : Store} {runs : List Run} {reports : List Report}
    (h : Unfolds rule version before runs reports after) : reports.length = runs.length := by
  induction h with
  | done => rfl
  | next _ _ ih => rw [List.length_cons, List.length_cons, ih]

/-- **Every run of a history succeeds and settles its token.** -/
theorem history_unfolds {runs : List Run} (hvalid : ∀ run ∈ runs, run.Valid)
    (hadmits : ∀ run ∈ runs, rule.Admits run.2.desired version) {state : σ}
    (hserved : Served rule version agent store (history runs) state) :
    ∃ reports, ((history runs).run agent state).result = reports.map .ok ∧
      Unfolds rule version (store state) runs reports
        (store ((history runs).run agent state).state) := by
  induction runs generalizing state with
  | nil => exact ⟨[], rfl, .done _⟩
  | cons run rest ih =>
    obtain ⟨⟨configuration, hrun⟩, hrest⟩ := List.forall_mem_cons.1 hvalid
    obtain ⟨hadmitsRun, hadmitsRest⟩ := List.forall_mem_cons.1 hadmits
    obtain ⟨hservedRun, hservedRest⟩ := served_history_cons.1 hserved
    obtain ⟨report, hresult, hsettles⟩ := reconcile_settles hrun hadmitsRun hservedRun
    obtain ⟨reports, hresults, hunfolds⟩ := ih hrest hadmitsRest hservedRest
    obtain ⟨hall, hstate⟩ := run_history_cons run rest agent state
    refine ⟨report :: reports, ?_, ?_⟩
    · rw [hall, hresult, hresults, List.map_cons]
    · rw [hstate]
      exact .next hsettles hunfolds

end

/-! ## Two runs by a script -/

/-- A token as it stands in the store of an agent that has given it a secret. -/
def StoredToken.created : StoredToken "a" where
  entries := [("AccessorID", .string "a"), ("Description", .string ""), ("Local", .bool false),
    ("NodeIdentities", .array []), ("Policies", .array []), ("Roles", .array []),
    ("SecretID", .string "s"), ("ServiceIdentities", .array [])]
  ordered := by decide
  record := ⟨⟨some "", some false, some [], some [], some [], some []⟩, some "a", some "s", []⟩
  reads := by decide +kernel
  named := rfl

/-- The text of this token. -/
def createdText : String :=
  "\x7b\"AccessorID\":\"a\",\"Description\":\"\",\"Local\":false,\"NodeIdentities\":[]," ++
    "\"Policies\":[],\"Roles\":[],\"SecretID\":\"s\",\"ServiceIdentities\":[]\x7d"

theorem textOfToken_created : TextOfToken createdText StoredToken.created.document :=
  ⟨by decide +kernel, by decide +kernel⟩

/-- What this token is made from. -/
def createdSpec : TokenSpec := { id := "a" }

/-- The replies of an agent without tokens, to a client that creates a token and updates it. -/
def twiceScript : List Cue :=
  [⟨"GET", "/agent/self", .answer 200 "\x7b\"Config\":\x7b\"Version\":\"1.8.0\"\x7d\x7d"⟩,
    ⟨"GET", "/acl/tokens", .answer 200 "[]"⟩,
    ⟨"PUT", "/acl/token", .answer 200 createdText⟩,
    ⟨"GET", "/agent/self", .answer 200 "\x7b\"Config\":\x7b\"Version\":\"1.8.0\"\x7d\x7d"⟩,
    ⟨"GET", "/acl/tokens", .answer 200 "[\x7b\"AccessorID\":\"a\"\x7d]"⟩,
    ⟨"GET", "/acl/token/a", .answer 200 createdText⟩,
    ⟨"PUT", "/acl/token/a", .answer 200 createdText⟩]

/-- The token is there as soon as the reply about its creation has been given. -/
def twiceScript.store (script : List Cue) : Store :=
  if script.length ≤ 4 then Function.update Store.empty "a" (some .created) else Store.empty

theorem createdSpec_valid : validate {} createdSpec = .ok ⟨{}, createdSpec.desired⟩ := by
  decide +kernel

/-- Every rule under which the token is made from what is sent serves the two runs. -/
theorem twiceScript.served {rule : Rule}
    (hcreates : rule.creates "a" (createdSpec.desired.createEntries .nodeIdentitiesSince) .created)
    (hupdates : rule.updates "a" .created
      (createdSpec.desired.updateEntries .nodeIdentitiesSince) .created) :
    Served rule .nodeIdentitiesSince Agent.scripted twiceScript.store
      (history (List.replicate 2 ({}, createdSpec))) twiceScript := by
  have hfirst : ((reconcile {} createdSpec).transcript Agent.scripted twiceScript).state =
      twiceScript.drop 3 := by decide +kernel
  have hlists : (store (twiceScript.drop 3)).Lists [.object [("AccessorID", .string "a")]] :=
    Store.lists_empty.update rfl ⟨List.sublist_append_left _ _, rfl⟩
  rw [List.replicate_succ, served_history_cons, List.replicate_one, served_history_cons]
  refine ⟨?_, ?_, trivial⟩
  · rw [reconcile_of_valid createdSpec_valid]
    refine Client.served_reconcile ?_ rfl ?_ rfl fun found hfound =>
      Client.served_act_create rfl rfl ?_ hfound
    · exact answers_self _ ⟨rfl, rfl⟩ "1.8.0" (by decide +kernel) rfl _
    · exact answers_listing _ _ ⟨rfl, rfl⟩ ⟨by decide +kernel, by decide +kernel⟩
        Store.lists_empty
    · exact answers_create _ _ ⟨rfl, rfl⟩ rfl (by decide +kernel) .created hcreates
        textOfToken_created.value rfl
  · rw [hfirst, reconcile_of_valid createdSpec_valid]
    refine Client.served_reconcile ?_ rfl ?_ rfl fun found hfound =>
      Client.served_act_update .created rfl rfl ?_ rfl ?_ hfound
    · exact answers_self _ ⟨rfl, rfl⟩ "1.8.0" (by decide +kernel) rfl _
    · exact answers_listing _ _ ⟨rfl, rfl⟩ ⟨by decide +kernel, by decide +kernel⟩ hlists
    · exact answers_fetch _ _ ⟨rfl, rfl⟩ rfl textOfToken_created
    · exact answers_update _ _ ⟨rfl, rfl⟩ rfl rfl .created hupdates textOfToken_created.value
        (Function.update_idem _ _ _).symm

end TokenSync
