import TokenSync.Agent.Client

/-!
# Bringing one token to its desired state

A run asks for the agent's version and for all tokens. A token that should exist is created if the
listing does not have it; otherwise its full record is fetched, it is updated, and what it was
before is compared with what the agent answers. A token that should not exist is removed if the
listing has it. No run changes anything by more than one request, and nothing is remembered between
runs.
-/
namespace TokenSync

/-- What a run did to the token. -/
inductive Operation where
  | create
  | update
  | remove
deriving DecidableEq, Repr

/-- The name of an operation. -/
def Operation.name : Operation → String
  | .create => "create"
  | .update => "update"
  | .remove => "remove"

/-- What a run reports. -/
structure Report where
  changed : Bool
  operation : Operation
  /-- The agent's answer to the request that wrote the token, as it is. -/
  token : Option Json
deriving DecidableEq

/-- The document of a report. -/
def Report.toJson (report : Report) : Json :=
  .object [("changed", .bool report.changed), ("operation", .string report.operation.name),
    ("token", report.token.getD .null)]

namespace Client

/-- Creates a token. -/
def create (client : Client) (desired : Desired) (version : Version) : Conversation Report := do
  let answer ← client.createToken (desired.createBody version)
  return ⟨true, .create, some answer⟩

/-- Updates the token of a listing's entry. -/
def update (client : Client) (desired : Desired) (version : Version) (listed : TokenRecord) :
    Conversation Report := do
  let accessor := listed.accessor.getD desired.id
  let full ← client.fetchToken accessor
  let answer ← client.updateToken accessor (desired.updateBody version)
  let after ← ExceptT.mk (pure (viewToken (tokenPath accessor) answer))
  return ⟨(TokenRecord.merge listed full).differsFrom after, .update, some answer⟩

/-- Sees to it that a token exists as it should. -/
def ensurePresent (client : Client) (desired : Desired) (version : Version) :
    Conversation Report := do
  let directory ← client.listTokens
  match directory.get? desired.id with
  | none => client.create desired version
  | some listed => client.update desired version listed

/-- Sees to it that a token does not exist. -/
def ensureAbsent (client : Client) (desired : Desired) : Conversation Report := do
  let directory ← client.listTokens
  match (directory.get? desired.id).bind (·.accessor) with
  | none => return ⟨false, .remove, none⟩
  | some accessor => do
    client.deleteToken accessor
    return ⟨true, .remove, none⟩

/-- Brings a token to its desired state. -/
def reconcile (client : Client) (desired : Desired) : Conversation Report := do
  let version ← client.negotiateVersion
  match desired.state with
  | .present => client.ensurePresent desired version
  | .absent => client.ensureAbsent desired

end Client

/-- Checks the settings and brings the token they describe to its desired state. Settings with
problems end the run before anything is sent. -/
def reconcile (connection : Connection) (spec : TokenSpec) : Conversation Report := do
  let configuration ← ExceptT.mk (pure ((validate connection spec).mapError .settings))
  let client ← ExceptT.mk (pure (Client.ofConnection configuration.connection))
  client.reconcile configuration.token

end TokenSync
