import TokenSync.Text.Word

/-!
# Texts with placeholders

A placeholder names a variable and may give a default: `$` and, in braces, a name of word
characters, then optionally a colon and a default of one or more characters other than a closing
brace. A text is cut into literal pieces and placeholders from left to right; whatever does not
make a whole placeholder is literal. What a placeholder is replaced by is never looked at again.
-/
namespace TokenSync.Template

/-- A piece of a text. -/
inductive Segment where
  | literal (text : List Char)
  | placeholder (name : List Char) (fallback : Option (List Char))
deriving DecidableEq, Repr

/-- The characters a segment was cut from. -/
def Segment.source : Segment → List Char
  | .literal text => text
  | .placeholder name none => '$' :: '\x7b' :: name ++ ['\x7d']
  | .placeholder name (some fallback) => '$' :: '\x7b' :: name ++ ':' :: fallback ++ ['\x7d']

/-- Whether a character may stand in a default. -/
def inFallback (c : Char) : Bool := c != '\x7d'

/-- What follows the name of a placeholder: the default, if there is one, and the closing brace. -/
def closing? : List Char → Option (Option (List Char))
  | '\x7d' :: _ => some none
  | ':' :: rest =>
    match rest.takeWhile inFallback, rest.dropWhile inFallback with
    | [], _ => none
    | _, [] => none
    | fallback, _ :: _ => some (some fallback)
  | _ => none

/-- The placeholder a text starts with. -/
def placeholder? : List Char → Option Segment
  | '$' :: '\x7b' :: rest =>
    match rest.takeWhile Text.isWord with
    | [] => none
    | name => (closing? (rest.dropWhile Text.isWord)).map (.placeholder name)
  | _ => none

/-- Puts a character in front of the literal piece that segments start with. -/
def consLiteral (c : Char) : List Segment → List Segment
  | .literal text :: rest => .literal (c :: text) :: rest
  | rest => .literal [c] :: rest

/-- The segments of a text after so many characters of it. -/
def segmentsAfter : Nat → List Char → List Segment
  | _, [] => []
  | skip + 1, _ :: rest => segmentsAfter skip rest
  | 0, c :: rest =>
    match placeholder? (c :: rest) with
    | some segment => segment :: segmentsAfter (segment.source.length - 1) rest
    | none => consLiteral c (segmentsAfter 0 rest)

/-- The segments of a text. -/
def segments (cs : List Char) : List Segment := segmentsAfter 0 cs

/-- What stands in the place of a segment: a literal piece as it is, the value of a variable that
is set, and otherwise the default or nothing. -/
def Segment.fill (value? : String → Option String) : Segment → List Char
  | .literal text => text
  | .placeholder name fallback =>
    match value? (String.ofList name) with
    | some value => value.toList
    | none => fallback.getD []

/-- The variable a segment asks for. -/
def Segment.name? : Segment → Option String
  | .literal _ => none
  | .placeholder name _ => some (String.ofList name)

/-- The variables a text asks for. -/
def names (text : String) : List String := (segments text.toList).filterMap Segment.name?

/-- The text with all placeholders replaced. -/
def expand (value? : String → Option String) (text : String) : String :=
  String.ofList ((segments text.toList).flatMap (Segment.fill value?))

end TokenSync.Template
