import TokenSync.Config.Desired
import TokenSync.Version

/-!
# Bodies of writing requests

What is sent to create a token and to update one. Identities are left out for agents that do not
know them and sent in full to all others, an empty list included. The identifier and the secret are
sent only when a token is created.
-/
namespace TokenSync.Desired

open Json

/-- An entry that is sent only if the agent knows it. -/
def entryIf (known : Bool) (name : String) (value : Json) : List (String × Json) :=
  if known then [(name, value)] else []

/-- The entries every writing request has. -/
def writeEntries (desired : Desired) (version : Version) : List (String × Json) :=
  [("Description", .string desired.description),
    ("Policies", Json.ofList Link.toJson desired.policies),
    ("Roles", Json.ofList Link.toJson desired.roles),
    ("Local", .bool desired.isLocal)] ++
  entryIf version.knowsServiceIdentities "ServiceIdentities"
    (Json.ofList ServiceIdentity.toJson desired.serviceIdentities) ++
  entryIf version.knowsNodeIdentities "NodeIdentities"
    (Json.ofList NodeIdentity.toJson desired.nodeIdentities)

/-- The entries that name the token and its secret. -/
def identityEntries (desired : Desired) : List (String × Json) :=
  [("AccessorID", .string desired.id), ("SecretID", ofText? (desired.secret.map Secret.expose))]

/-- The body that updates a token. -/
def updateBody (desired : Desired) (version : Version) : Json :=
  .object (Keyed.ofList (desired.writeEntries version))

/-- The body that creates a token. -/
def createBody (desired : Desired) (version : Version) : Json :=
  .object (Keyed.ofList (desired.identityEntries ++ desired.writeEntries version))

end TokenSync.Desired
