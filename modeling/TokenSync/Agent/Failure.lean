import TokenSync.Config.Desired
import TokenSync.Version

/-!
# Why a run fails

A run fails on the settings it is given, on the agent's answer to a request, or because there was
no answer. Each failure has one wording.
-/
namespace TokenSync

/-- Why a run fails. -/
inductive Failure where
  | settings (problems : List Problem)
  /-- The agent refused a request with a status of 400 to 599. -/
  | refused (status : Nat) (body : String)
  | unreachable (host : String) (port : UInt16) (reason : String)
  | version (cause : VersionError)
  /-- The body of an answer is not the document that belongs at the path. -/
  | document (path : String) (fault : Fault)
deriving DecidableEq

/-- The wording of a failure; a text that is no JSON has none. -/
def Failure.message? : Failure → Option String
  | .settings problems => some (Problem.summary problems)
  | .refused status body => some (toString status ++ " " ++ body)
  | .unreachable host port reason =>
    some ("could not connect to consul agent at " ++ host ++ ":" ++ toString port ++
      ", error was " ++ reason)
  | .version cause => some ("unsupported consul version: " ++ cause.message)
  | .document path (.mismatch cause) =>
    some ("invalid JSON document for " ++ path ++ ": " ++ cause.message)
  | .document _ .malformed => none

/-- What a user is told of a failure. -/
def Failure.notice (failure : Failure) : String :=
  failure.message?.getD "an answer is not JSON"

end TokenSync
