import TokenSync.Json.Basic

/-!
# Dialogues with an agent

A program that talks to an agent is a tree: it is done, or it sends a request and goes on as the
reply says. An agent answers requests from a state of its own. Running a dialogue against an agent
gives its result, the exchanges in order, and the state the agent ends in.
-/
namespace TokenSync

/-! ## Requests and replies -/

/-- The kinds of requests. -/
inductive Method where
  | get
  | put
  | delete
deriving DecidableEq, Repr

/-- The name of a method. -/
def Method.name : Method → String
  | .get => "GET"
  | .put => "PUT"
  | .delete => "DELETE"

/-- A request; its path is relative to the address of the agent. -/
structure Request where
  method : Method
  path : String
  headers : List (String × String)
  body : Option Json
deriving DecidableEq

/-- What comes back: an answer, or the reason why there is none. -/
inductive Reply where
  | answer (status : Nat) (body : String)
  | unreachable (reason : String)
deriving DecidableEq, Repr

/-! ## Dialogues -/

/-- A program that talks to an agent. -/
inductive Dialogue (α : Type) where
  | done (result : α)
  | send (request : Request) (next : Reply → Dialogue α)

namespace Dialogue

variable {α β γ : Type}

/-- Goes on with another dialogue when the first one is done. -/
def bind : Dialogue α → (α → Dialogue β) → Dialogue β
  | .done a, f => f a
  | .send q next, f => .send q fun reply => (next reply).bind f

instance : Monad Dialogue where
  pure := .done
  bind := bind

/-- The reply to one request. -/
def ask (request : Request) : Dialogue Reply := .send request .done

@[simp] theorem pure_eq (a : α) : (Pure.pure a : Dialogue α) = .done a := rfl

@[simp] theorem done_bind (a : α) (f : α → Dialogue β) : (Dialogue.done a >>= f) = f a := rfl

@[simp] theorem send_bind (q : Request) (next : Reply → Dialogue α) (f : α → Dialogue β) :
    (Dialogue.send q next >>= f) = .send q fun reply => next reply >>= f := rfl

@[simp] theorem bind_done (d : Dialogue α) : (d >>= Dialogue.done) = d := by
  induction d with
  | done a => rfl
  | send q next ih => rw [send_bind]; exact congrArg _ (funext ih)

theorem bind_assoc (d : Dialogue α) (f : α → Dialogue β) (g : β → Dialogue γ) :
    (d >>= f >>= g) = d >>= fun a => f a >>= g := by
  induction d with
  | done a => rfl
  | send q next ih => simp only [send_bind]; exact congrArg _ (funext ih)

instance : LawfulMonad Dialogue :=
  LawfulMonad.mk' Dialogue (fun d => bind_done d) (fun a f => done_bind a f)
    (fun d f g => bind_assoc d f g)

/-- Holds a dialogue with whoever gives the replies. -/
def holdWith [Monad m] (reply : Request → m Reply) : Dialogue α → m α
  | .done a => pure a
  | .send q next => do holdWith reply (next (← reply q))

end Dialogue

/-! ## Agents -/

/-- An agent with a state of its own. -/
structure Agent (σ : Type) where
  respond : Request → σ → Reply × σ

/-- What happened in a run. -/
structure Transcript (σ α : Type) where
  result : α
  exchanges : List (Request × Reply)
  state : σ

/-- The requests of a run in order. -/
def Transcript.requests (t : Transcript σ α) : List Request := t.exchanges.map Prod.fst

namespace Dialogue

/-- Runs a dialogue against an agent. -/
def run (agent : Agent σ) : Dialogue α → σ → Transcript σ α
  | .done a, state => ⟨a, [], state⟩
  | .send q next, state =>
    let (reply, after) := agent.respond q state
    let rest := run agent (next reply) after
    { rest with exchanges := (q, reply) :: rest.exchanges }

@[simp] theorem run_done (agent : Agent σ) (a : α) (state : σ) :
    (Dialogue.done a).run agent state = ⟨a, [], state⟩ := rfl

@[simp] theorem run_send (agent : Agent σ) (q : Request) (next : Reply → Dialogue α) (state : σ) :
    (Dialogue.send q next).run agent state =
      let rest := (next (agent.respond q state).1).run agent (agent.respond q state).2
      { rest with exchanges := (q, (agent.respond q state).1) :: rest.exchanges } := rfl

/-- A run of two dialogues one after another is a run of the first and then one of the second. -/
theorem run_bind (agent : Agent σ) (d : Dialogue α) (f : α → Dialogue β) (state : σ) :
    (d >>= f).run agent state =
      let first := d.run agent state
      let second := (f first.result).run agent first.state
      { second with exchanges := first.exchanges ++ second.exchanges } := by
  induction d generalizing state with
  | done a => simp
  | send q next ih => simp [ih]

end Dialogue

end TokenSync
