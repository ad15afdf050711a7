import TokenSync.Agent.Dialogue
import TokenSync.Agent.Failure
import TokenSync.Agent.WriteBody
import TokenSync.TokenRecord

/-!
# The agent's token requests

The requests a client can make, each with what it accepts as an answer. Every request carries the
same headers. An answer counts by its status first and by its body second, and the first answer
that does not count ends a dialogue.
-/
namespace TokenSync

open Json

/-- A dialogue that may fail. -/
abbrev Conversation (α : Type) := ExceptT Failure Dialogue α

/-- The headers a client sends and the place it names when there is no answer. -/
structure Client where
  headers : List (String × String)
  host : String
  port : UInt16
deriving DecidableEq

/-- The tokens of a listing by their identifiers. -/
abbrev Directory := Keyed TokenRecord

/-- The directory of a listing: entries without identifier are passed over, and of several with one
identifier the last counts. -/
def Directory.ofListing (listing : List TokenRecord) : Directory :=
  Keyed.ofList (listing.filterMap fun record => record.accessor.map (·, record))

namespace Client

/-- The client of a connection. -/
def ofConnection (connection : Connection) : Except Failure Client :=
  match connection.credential with
  | none => .ok ⟨[], connection.host, connection.port⟩
  | some secret =>
    if isHeaderValue secret.expose then
      .ok ⟨[("x-consul-token", secret.expose)], connection.host, connection.port⟩
    else .error (.settings [.managementToken])

/-- Whether a status refuses the request. -/
def isRefusal (status : Nat) : Bool := 400 ≤ status && status < 600

/-- The body of an answer that does not refuse the request. -/
def accept (client : Client) : Reply → Except Failure String
  | .unreachable reason => .error (.unreachable client.host client.port reason)
  | .answer status body => if isRefusal status then .error (.refused status body) else .ok body

/-- Sends a request and waits for its answer. -/
def call (client : Client) (method : Method) (path : String) (body : Option Json) :
    Conversation String :=
  ExceptT.mk do
    let reply ← Dialogue.ask ⟨method, path, client.headers, body⟩
    return client.accept reply

/-- Reads the body of an answer. -/
def decode (path : String) (read : Node → Except Fault τ) (body : String) : Except Failure τ :=
  ((Document.ofText body).read read).mapError (.document path)

/-! ## Documents of the agent -/

section
variable {α : Type} [Source α]

/-- The field of the version's text. -/
def versionField : FieldSpec α String := ⟨"Version", readText, none⟩

/-- Reads the configuration of the agent for its version. -/
def readAgentConfig (a : α) : Except Fault String := do
  let given ← readStructure "AgentConfig" [versionField.check] a
  given.get versionField

/-- The field of the agent's configuration. -/
def configField : FieldSpec α String := ⟨"Config", readAgentConfig, none⟩

/-- Reads what the agent tells of itself for its version. -/
def readAgentSelf (a : α) : Except Fault String := do
  let given ← readStructure "AgentSelf" [configField.check] a
  given.get configField

/-- Reads a listing of tokens. -/
def readListing (a : α) : Except Fault (List TokenRecord) := readList (TokenRecord.read 1) a

end

/-- The path of the listing. -/
def listingPath : String := "/acl/tokens"

/-- The path of new tokens. -/
def newTokenPath : String := "/acl/token"

/-- The path of one token. -/
def tokenPath (accessor : String) : String := "/acl/token/" ++ accessor

/-- The path of the agent itself. -/
def agentPath : String := "/agent/self"

/-! ## Requests -/

/-- Asks the agent for its version. -/
def negotiateVersion (client : Client) : Conversation Version := do
  let body ← client.call .get agentPath none
  let text ← ExceptT.mk (pure (decode agentPath readAgentSelf body))
  ExceptT.mk (pure ((Version.parse text).mapError .version))

/-- Asks for all tokens. -/
def listTokens (client : Client) : Conversation Directory := do
  let body ← client.call .get listingPath none
  Directory.ofListing <$> ExceptT.mk (pure (decode listingPath readListing body))

/-- Asks for the full record of a token. -/
def fetchToken (client : Client) (accessor : String) : Conversation TokenRecord := do
  let path := tokenPath accessor
  let body ← client.call .get path none
  ExceptT.mk (pure (decode path (TokenRecord.read 0) body))

/-- Has a token created; the result is the answer as it is. -/
def createToken (client : Client) (body : Json) : Conversation Json := do
  let answer ← client.call .put newTokenPath (some body)
  ExceptT.mk (pure (decode newTokenPath (readValue depthLimit) answer))

/-- Has a token updated; the result is the answer as it is. -/
def updateToken (client : Client) (accessor : String) (body : Json) : Conversation Json := do
  let path := tokenPath accessor
  let answer ← client.call .put path (some body)
  ExceptT.mk (pure (decode path (readValue depthLimit) answer))

/-- Has a token removed; the body of the answer does not matter. -/
def deleteToken (client : Client) (accessor : String) : Conversation Unit := do
  let _ ← client.call .delete (tokenPath accessor) none
  return ()

/-- The record in a document that came from a path. -/
def viewToken (path : String) (document : Json) : Except Failure TokenRecord :=
  (TokenRecord.read 0 document).mapError (.document path)

end Client

end TokenSync
