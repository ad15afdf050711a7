import TokenSync.Agent.Dialogue

/-!
# Agents that follow a script

An agent whose replies are laid down beforehand: each is meant for a method and a path, and a
request takes the first one that is left for it. A request for which none is left is refused.
-/
namespace TokenSync

/-- A reply that is laid down for a method and a path. -/
structure Cue where
  method : String
  path : String
  reply : Reply
deriving DecidableEq, Repr

/-- Whether a reply is meant for a request. -/
def Cue.isFor (cue : Cue) (request : Request) : Bool :=
  cue.method == request.method.name && cue.path == request.path

/-- The refusal of a request that the script does not provide for. -/
def Reply.unscripted (request : Request) : Reply :=
  .answer 404 ("no reply scripted for " ++ request.method.name ++ " " ++ request.path)

/-- The agent whose state is what is left of its script. -/
def Agent.scripted : Agent (List Cue) where
  respond request script :=
    match script.find? (·.isFor request) with
    | some cue => (cue.reply, script.eraseP (·.isFor request))
    | none => (.unscripted request, script)

end TokenSync
