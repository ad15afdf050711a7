import Mathlib.Logic.Function.Basic
import TokenSync.Proofs.Serving

/-!
# Dialogues side by side

Several dialogues are held with one agent, which answers one request at a time. A schedule says
whose turn it is: a turn is one request and its reply, and a dialogue that is done lets its turn
pass. Every interleaving of the requests is a schedule, and each dialogue's own requests keep their
order.
-/
namespace TokenSync

variable {ι σ α : Type}

/-- Dialogues that are held with one agent, and the state of the agent. -/
structure Meeting (ι σ α : Type) where
  dialogue : ι → Dialogue α
  state : σ

namespace Meeting

section

variable [DecidableEq ι] (agent : Agent σ)

/-- The turn of one dialogue: its next request is answered. -/
def turn (m : Meeting ι σ α) (i : ι) : Meeting ι σ α :=
  match m.dialogue i with
  | .done _ => m
  | .send q next =>
    ⟨Function.update m.dialogue i (next (agent.respond q m.state).1), (agent.respond q m.state).2⟩

/-- All turns of a schedule. -/
def hold (m : Meeting ι σ α) (schedule : List ι) : Meeting ι σ α :=
  schedule.foldl (turn agent) m

end

/-- The result of a dialogue that is done. -/
def result? (m : Meeting ι σ α) (i : ι) : Option α :=
  match m.dialogue i with
  | .done result => some result
  | .send _ _ => none

theorem result?_eq_some_iff {m : Meeting ι σ α} {i : ι} {result : α} :
    m.result? i = some result ↔ m.dialogue i = .done result := by
  unfold result?
  cases m.dialogue i <;> simp

variable [DecidableEq ι] {agent : Agent σ} {m : Meeting ι σ α} {i : ι}

theorem turn_of_done {result : α} (h : m.dialogue i = .done result) : m.turn agent i = m := by
  rw [turn, h]

theorem turn_of_send {q : Request} {next : Reply → Dialogue α} (h : m.dialogue i = .send q next) :
    m.turn agent i =
      ⟨Function.update m.dialogue i (next (agent.respond q m.state).1),
        (agent.respond q m.state).2⟩ := by
  rw [turn, h]

/-! ## Meetings with a store -/

section

variable (rule : Rule) (version : Version) (agent : Agent σ) (store : σ → Store)

/-- If it is the turn of this dialogue, the agent answers its request from the store. -/
def ServesNext (m : Meeting ι σ α) (i : ι) : Prop :=
  ∀ q next, m.dialogue i = .send q next →
    Answers rule version (store m.state) q (agent.respond q m.state).1
      (store (agent.respond q m.state).2)

/-- In all turns of a schedule the agent answers from its store. -/
def Served (m : Meeting ι σ α) : List ι → Prop
  | [] => True
  | i :: rest => m.ServesNext rule version agent store i ∧ (m.turn agent i).Served rest

end

end Meeting

end TokenSync
