import TokenSync.Program
import TokenSync.Proofs.Arguments
import TokenSync.Proofs.Exchange

/-!
# A run of the program and the conversation in it

A run of the program with an accepted command line is the reconciliation of what its file says, with
the values of the command line and of its variables put in place of those of the file. Everything
that goes wrong before the first request leaves the agent alone, and nothing that goes wrong is
printed as a report.
-/
namespace TokenSync

variable {σ α β : Type}

/-! ## What counts when a program starts -/

/-- The configuration in a file: its octets are UTF-8, and its text with the placeholders filled in
is read as YAML. -/
def Surroundings.written? (start : Surroundings) (path : String) : Option ConfigFile := do
  let content ← start.file? path
  let text ← String.fromUTF8? content
  ConfigFile.ofText? (Template.expand start.value? text)

/-- The connection with another management token, if there is one. -/
def Connection.withToken (connection : Connection) : Option String → Connection
  | some token => { connection with managementToken := some ⟨token⟩ }
  | none => connection

/-- The description with another state, if there is one. -/
def TokenSpec.withState (spec : TokenSpec) : Option Presence → TokenSpec
  | some state => { spec with state := state }
  | none => spec

/-- Whether another configuration is the same but for the management token, the state, or both, and
for what is logged. -/
structure ConfigFile.SameBut (token state : Bool) (file other : ConfigFile) : Prop where
  connection : other.connection =
    { file.connection with managementToken := other.connection.managementToken }
  managementToken : token = false →
    other.connection.managementToken = file.connection.managementToken
  spec : other.token = { file.token with state := other.token.state }
  state : state = false → other.token.state = file.token.state

namespace ConfigFile.SameBut

variable {token? : Option String} {state? : Option Presence} {file other : ConfigFile}

theorem withToken_eq (h : SameBut token?.isSome state?.isSome file other) :
    other.connection.withToken token? = file.connection.withToken token? := by
  cases token? with
  | none =>
    have hc := h.connection
    rwa [h.managementToken rfl] at hc
  | some token =>
    unfold Connection.withToken
    rw [h.connection]

theorem withState_eq (h : SameBut token?.isSome state?.isSome file other) :
    other.token.withState state? = file.token.withState state? := by
  cases state? with
  | none =>
    have hs := h.spec
    rwa [h.state rfl] at hs
  | some state =>
    unfold TokenSpec.withState
    rw [h.spec]

end ConfigFile.SameBut

/-! ## The run -/

/-- A computation on the result changes nothing else of a run. -/
theorem Dialogue.run_map (agent : Agent σ) (f : α → β) (d : Dialogue α) (state : σ) :
    (f <$> d).run agent state =
      ⟨f (d.run agent state).result, (d.run agent state).exchanges, (d.run agent state).state⟩ := by
  rw [map_eq_pure_bind, Dialogue.run_bind]
  simp

namespace Program

variable {start : Surroundings} {given : List (Switch × String)}

theorem configuration?_eq (start : Surroundings) (options : Options) :
    configuration? start options =
      (start.written? (Program.path options)).map fun file => override file options := by
  have hwritten : start.written? (Program.path options) =
      (start.file? (Program.path options)).bind (ConfigFile.ofFile? start.value?) := rfl
  rw [hwritten, configuration?]
  cases start.file? (Program.path options) with
  | none => rfl
  | some content => cases h : ConfigFile.ofFile? start.value? content <;> simp [h]

theorem override_chosen (value? : String → Option String) (file : ConfigFile) :
    override file (.ofSettings (Invocation.chosen value? given)) =
      { connection := file.connection.withToken
          ((given.lookup .managementToken).or (value? "CONSUL_MGMT_TOKEN"))
        logging := file.logging
        token := file.token.withState ((given.lookup .state).bind Presence.ofName?) } := by
  have hstate : Invocation.chosen value? given .state = given.lookup .state := by
    simp [Invocation.chosen, Switch.standIn?]
  have htoken : Invocation.chosen value? given .managementToken =
      (given.lookup .managementToken).or (value? "CONSUL_MGMT_TOKEN") := rfl
  unfold override Options.ofSettings
  rw [hstate, htoken]
  cases (given.lookup .managementToken).or (value? "CONSUL_MGMT_TOKEN") <;>
    cases (given.lookup .state).bind Presence.ofName? <;> rfl

/-- What is done with the configuration of a file, if there is one. -/
def pursue (path : String) (token? : Option String) (state? : Option Presence) :
    Option ConfigFile → Dialogue Ending
  | none => .done ⟨1, none, some ("cannot read the configuration in " ++ path)⟩
  | some file =>
    ending <$> (reconcile (file.connection.withToken token?) (file.token.withState state?)).run

theorem pursue_congr {path : String} {token? : Option String} {state? : Option Presence}
    {file other : ConfigFile} (h : file.SameBut token?.isSome state?.isSome other) :
    pursue path token? state? (some other) = pursue path token? state? (some file) := by
  simp only [pursue, h.withToken_eq, h.withState_eq]

theorem run_of_accepted
    (accepted : Invocation.read start.arguments start.value? =
      .run (.ofSettings (Invocation.chosen start.value? given))) :
    let path := ((given.lookup .config).or (start.value? "CONFIG")).getD defaultPath
    run start = pursue path ((given.lookup .managementToken).or (start.value? "CONSUL_MGMT_TOKEN"))
      ((given.lookup .state).bind Presence.ofName?) (start.written? path) := by
  intro path
  have hpath : Program.path (.ofSettings (Invocation.chosen start.value? given)) = path := rfl
  unfold run plan
  rw [accepted]
  simp only [configuration?_eq, hpath, override_chosen]
  cases start.written? path <;> rfl

/-- **The program is the reconciliation of the overridden file.** Settings that are given once and
understood name a file and may put values over its own. If there is no configuration in the file,
the run ends with status 1, nothing is printed, and the agent is not asked anything. Otherwise the
agent sees exactly what it sees of the reconciliation of the overridden configuration; the report is
printed with status 0 if that succeeds, and nothing with status 1 if it fails. Two files that differ
only in what is overridden, and in what is logged, make no difference at all. -/
theorem run_refines_reconcile (start : Surroundings) (options : Options)
    (accepted : Invocation.read start.arguments start.value? = .run options) :
    ∃ given : List (Switch × String), Spelled given start.arguments ∧
      (∀ other, Spelled other start.arguments → other = given) ∧ (given.map Prod.fst).Nodup ∧
      let path := ((given.lookup .config).or (start.value? "CONFIG")).getD "consul-token.yaml"
      let token? := (given.lookup .managementToken).or (start.value? "CONSUL_MGMT_TOKEN")
      let state? := (given.lookup .state).bind Presence.ofName?
      (∀ (σ : Type) (agent : Agent σ) (state : σ),
        let run := (run start).run agent state
        (start.written? path = none →
          run.result.status = 1 ∧ run.result.output = none ∧ run.exchanges = [] ∧
            run.state = state) ∧
        ∀ file, start.written? path = some file →
          let reconciled := (reconcile (file.connection.withToken token?)
            (file.token.withState state?)).transcript agent state
          run.exchanges = reconciled.exchanges ∧ run.state = reconciled.state ∧
            (∀ report, reconciled.result = .ok report →
              run.result.status = 0 ∧
                run.result.output = some (.object [("changed", .bool report.changed),
                  ("operation", .string report.operation.name),
                  ("token", report.token.getD .null)])) ∧
            ∀ failure, reconciled.result = .error failure →
              run.result.status = 1 ∧ run.result.output = none) ∧
      ∀ other : Surroundings, other.arguments = start.arguments → other.value? = start.value? →
        ∀ file changed, start.written? path = some file → other.written? path = some changed →
          ConfigFile.SameBut token?.isSome state?.isSome file changed → run other = run start := by
  obtain ⟨given, spelled, once, understood, rfl⟩ := Invocation.read_eq_run_iff.1 accepted
  refine ⟨given, spelled, fun _ h => h.unique spelled, once, ?_⟩
  intro path token? state?
  have hrun : run start = pursue path token? state? (start.written? path) :=
    run_of_accepted accepted
  refine ⟨fun σ agent state => ⟨fun hnone => ?_, fun file hfile => ?_⟩, ?_⟩
  · rw [hrun, hnone]
    exact ⟨rfl, rfl, rfl, rfl⟩
  · rw [hrun, hfile, pursue, Dialogue.run_map]
    refine ⟨rfl, rfl, fun report hok => ?_, fun failure herror => ?_⟩
    · rw [Conversation.transcript] at hok
      rw [hok]
      exact ⟨rfl, rfl⟩
    · rw [Conversation.transcript] at herror
      rw [herror]
      exact ⟨rfl, rfl⟩
  · intro other harguments hvariables file changed hfile hchanged same
    have hother : run other = pursue path token? state? (other.written? path) := by
      rw [← harguments, ← hvariables] at accepted
      have hsettings := run_of_accepted accepted
      rw [hvariables] at hsettings
      exact hsettings
    rw [hother, hchanged, hrun, hfile, pursue_congr same]

/-- A start with an empty management token and a state on the command line, where a variable names
another file. -/
def overridingStart (text : String) : Surroundings where
  arguments := ["--management-token=", "-ctoken.yaml", "--state", "absent"]
  value? name := if name = "CONFIG" then some "other.yaml" else none
  file? path := if path = "token.yaml" then some text.toUTF8 else none

theorem run_refines_reconcile_of_texts :
    let start := overridingStart "connection: \x7bmanagement_token: one\x7d\ntoken: \x7bid: X\x7d"
    let other := overridingStart
      "connection: \x7bmanagement_token: two\x7d\ntoken: \x7bid: X, state: absent\x7d"
    Invocation.read start.arguments start.value? =
      .run { config := some "token.yaml", managementToken := some "", state := some .absent } ∧
    run other = run start ∧
    ∀ (σ : Type) (agent : Agent σ) (state : σ),
      ((run start).run agent state).exchanges =
        ((reconcile { managementToken := some ⟨""⟩ } { id := "X", state := .absent }).transcript
          agent state).exchanges := by
  intro start other
  have accepted : Invocation.read start.arguments start.value? =
      .run { config := some "token.yaml", managementToken := some "", state := some .absent } := by
    decide +kernel
  have hstart : start.written? "token.yaml" =
      some ⟨{ managementToken := some ⟨"one"⟩ }, none, { id := "X" }⟩ := by
    decide +kernel
  have hother : other.written? "token.yaml" =
      some ⟨{ managementToken := some ⟨"two"⟩ }, none, { id := "X", state := .absent }⟩ := by
    decide +kernel
  have spelled : Spelled [(.managementToken, ""), (.config, "token.yaml"), (.state, "absent")]
      start.arguments :=
    .attached (.long .managementToken) <| .attached (.short 't' (by decide) (by decide)) <|
      .apart (.long .state) (Argument.isValue_iff.1 rfl) .nil
  obtain ⟨given, -, hunique, -, hrun⟩ := run_refines_reconcile start _ accepted
  cases hunique _ spelled
  obtain ⟨hone, htwo⟩ := hrun
  refine ⟨accepted, ?_, fun σ agent state => ?_⟩
  · exact htwo other rfl rfl _ _ hstart hother ⟨rfl, nofun, rfl, nofun⟩
  · exact ((hone σ agent state).2 _ hstart).1

end Program

end TokenSync
