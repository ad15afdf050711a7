import TokenSync.Text.Blank
import TokenSync.Text.Numeral

/-!
# Versions of agents

A version is read from a text of at least three components with points between them. The first
three count, and versions are compared by the number that these three form when they are written
one after another without the points. `1.4.10` is therefore above `1.5.0`, as 1410 is above 150.
-/
namespace TokenSync

/-- Three components of a version and the number they are compared by. -/
structure Version where
  major : String
  minor : String
  patch : String
  key : Nat
deriving DecidableEq, Repr

/-- Why a text is no version; both quote the text as it was given. -/
inductive VersionError where
  | tooFewComponents (text : String)
  | notNumeric (text : String)
deriving DecidableEq, Repr

/-- The wording of an error. -/
def VersionError.message : VersionError → String
  | .tooFewComponents text => "'" ++ text ++ "' must have at least three dot separated components"
  | .notNumeric text => "'" ++ text ++ "' components do not form an integer"

namespace Version

/-- The number of three components, which has to fit into 128 bits. -/
def key? (digits : List Char) : Option Nat := do
  let n ← Text.natural? 10 (Text.dropPlus digits)
  if n < Nat.pow 2 128 then some n else none

/-- The version a text names. Blanks around it and components after the third do not count. -/
def parse (text : String) : Except VersionError Version :=
  match Text.splitAt '.' (Text.trim text.toList) with
  | major :: minor :: patch :: _ =>
    match key? (major ++ minor ++ patch) with
    | some key => .ok ⟨String.ofList major, String.ofList minor, String.ofList patch, key⟩
    | none => .error (.notNumeric text)
  | _ => .error (.tooFewComponents text)

/-- The three components with points between them. -/
def text (v : Version) : String := v.major ++ "." ++ v.minor ++ "." ++ v.patch

/-- Whether a version is not below another one. -/
def isAtLeast (v other : Version) : Bool := decide (other.key ≤ v.key)

/-- Whether a version is not above another one. -/
def isAtMost (v other : Version) : Bool := decide (v.key ≤ other.key)

/-- The first version whose agents know service identities. -/
def serviceIdentitiesSince : Version := ⟨"1", "5", "0", 150⟩

/-- The first version whose agents know node identities. -/
def nodeIdentitiesSince : Version := ⟨"1", "8", "0", 180⟩

/-- Whether an agent of this version knows service identities. -/
def knowsServiceIdentities (v : Version) : Bool := v.isAtLeast serviceIdentitiesSince

/-- Whether an agent of this version knows node identities. -/
def knowsNodeIdentities (v : Version) : Bool := v.isAtLeast nodeIdentitiesSince

theorem parse_serviceIdentitiesSince : parse "1.5.0" = .ok serviceIdentitiesSince := rfl

theorem parse_nodeIdentitiesSince : parse "1.8.0" = .ok nodeIdentitiesSince := rfl

end Version

end TokenSync
