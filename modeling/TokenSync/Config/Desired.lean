import TokenSync.Config.TokenSpec
import TokenSync.Grant.Input
import TokenSync.Text.Blank

/-!
# Checked descriptions

A connection and a description are checked as a whole before anything is sent. The check either
gives the token that should exist, with all its grants in their own types, or every problem there
is, in a fixed order.
-/
namespace TokenSync

/-- The two things a link can refer to. -/
inductive LinkKind where
  | policy
  | role
deriving DecidableEq, Repr

/-- The name of the list in which links of a kind stand. -/
def LinkKind.listName : LinkKind → String
  | .policy => "policies"
  | .role => "roles"

/-- One problem with a caller's settings. -/
inductive Problem where
  | missingId
  | unsupportedScheme (scheme : String)
  | managementToken
  | link (kind : LinkKind) (index : Nat) (reason : Reason)
  | serviceIdentity (index : Nat) (reason : Reason)
  | nodeIdentity (index : Nat) (reason : Reason)
deriving DecidableEq, Repr

namespace Problem

/-- The wording of a problem with one element of a list. -/
def elementMessage (list : String) (index : Nat) (reason : Reason) : String :=
  list ++ "[" ++ toString index ++ "]: " ++ reason.message

/-- The wording of a problem. -/
def message : Problem → String
  | .missingId => "token.id must be provided and not empty"
  | .unsupportedScheme scheme =>
    "connection.scheme '" ++ scheme ++ "' is not supported, expected http or https"
  | .managementToken => "connection.management_token is not a valid header value"
  | .link kind index reason => elementMessage kind.listName index reason
  | .serviceIdentity index reason => elementMessage "service_identities" index reason
  | .nodeIdentity index reason => elementMessage "node_identities" index reason

/-- The wording of several problems. -/
def summary (problems : List Problem) : String :=
  problems.foldl (fun text problem => text ++ "; " ++ problem.message)
    ("configuration error (" ++ toString problems.length ++ " total)")

end Problem

/-- The token that should or should not exist. -/
structure Desired where
  id : String
  secret : Option Secret
  description : String
  isLocal : Bool
  policies : List Link
  roles : List Link
  serviceIdentities : List ServiceIdentity
  nodeIdentities : List NodeIdentity
  state : Presence
deriving DecidableEq

/-- Settings that passed the check. -/
structure Configuration where
  connection : Connection
  token : Desired
deriving DecidableEq

/-- Whether a text can be sent as the value of a header: it has no control character but tabs. This
is what `HeaderValue::from_str` of `http` accepts, where every octet is a tab or at least 32 and not
127, so that characters beyond ASCII pass. -/
def isHeaderValue (text : String) : Bool :=
  text.toList.all fun c => (0x20 ≤ c.toNat && c.toNat != 0x7F) || c == '\t'

/-- Whether a text has nothing but white space. -/
def isBlankText (text : String) : Bool := (Text.trim text.toList).isEmpty

/-- The elements of a list that describe grants. -/
def accepted (ofInput : Json → Except Reason τ) (inputs : List Json) : List τ :=
  inputs.filterMap fun input => (ofInput input).toOption

/-- The problems with the elements of a list, each with its place in the list. -/
def rejected (ofInput : Json → Except Reason τ) (problem : Nat → Reason → Problem)
    (inputs : List Json) : List Problem :=
  inputs.zipIdx.filterMap fun (input, index) =>
    match ofInput input with
    | .ok _ => none
    | .error reason => some (problem index reason)

/-- The problems of a connection. -/
def Connection.problems (connection : Connection) : List Problem :=
  (if connection.scheme = "http" ∨ connection.scheme = "https" then []
    else [.unsupportedScheme connection.scheme]) ++
  match connection.credential with
  | some secret => if isHeaderValue secret.expose then [] else [.managementToken]
  | none => []

/-- The problems of a description. -/
def TokenSpec.problems (spec : TokenSpec) : List Problem :=
  (if isBlankText spec.id then [.missingId] else []) ++
  rejected Link.ofInput (.link .policy) spec.policies ++
  rejected Link.ofInput (.link .role) spec.roles ++
  rejected ServiceIdentity.ofInput .serviceIdentity spec.serviceIdentities ++
  rejected NodeIdentity.ofInput .nodeIdentity spec.nodeIdentities

/-- The token of a description, from the elements that describe grants. -/
def TokenSpec.desired (spec : TokenSpec) : Desired where
  id := spec.id
  secret := Secret.nonempty? spec.secret
  description := spec.description
  isLocal := spec.isLocal
  policies := accepted Link.ofInput spec.policies
  roles := accepted Link.ofInput spec.roles
  serviceIdentities := accepted ServiceIdentity.ofInput spec.serviceIdentities
  nodeIdentities := accepted NodeIdentity.ofInput spec.nodeIdentities
  state := spec.state

/-- Checks a connection and a description: the settings if there is no problem, and otherwise all
problems, those of the connection first. -/
def validate (connection : Connection) (spec : TokenSpec) :
    Except (List Problem) Configuration :=
  match connection.problems ++ spec.problems with
  | [] => .ok ⟨connection, spec.desired⟩
  | problems => .error problems

end TokenSync
