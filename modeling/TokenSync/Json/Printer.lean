import TokenSync.Decimal.Shortest
import TokenSync.Json.Basic

/-!
# The compact text of JSON values

A value is written without blanks, entries in the order an object holds them. Quotes, backslashes
and controls are escaped, every other character stands for itself.
-/
namespace TokenSync

/-- Floating-point numbers always show a point or an exponent, and are written without an exponent
from five places after the point to sixteen before it. -/
def Number.layout : Decimal.Layout :=
  { leastPlain := -5, greatestPlain := 15, wholeEnd := ['.', '0'], mark := 'e' }

/-- The numeral of a number. -/
def Number.text : Number → String
  | .int n => toString n
  | .float x => Number.layout.render x

namespace Json

/-- A hexadecimal digit in lower case. -/
def hexDigit (n : Nat) : Char := Nat.digitChar n

/-- One character as it stands in a string literal. -/
def escape (c : Char) : List Char :=
  if c = '"' then ['\\', '"']
  else if c = '\\' then ['\\', '\\']
  else if c = '\n' then ['\\', 'n']
  else if c = '\r' then ['\\', 'r']
  else if c = '\t' then ['\\', 't']
  else if c = '\x08' then ['\\', 'b']
  else if c = '\x0c' then ['\\', 'f']
  else if c.toNat < 0x20 then
    ['\\', 'u', '0', '0', hexDigit (c.toNat / 16), hexDigit (c.toNat % 16)]
  else [c]

/-- A text as a string literal. -/
def literal (s : String) : List Char := '"' :: s.toList.flatMap escape ++ ['"']

mutual
/-- The characters of a value. -/
def chars : Json → List Char
  | .null => "null".toList
  | .bool true => "true".toList
  | .bool false => "false".toList
  | .number n => n.text.toList
  | .string s => literal s
  | .array items => '[' :: charsOfItems items ++ [']']
  | .object entries => '\x7b' :: charsOfEntries entries ++ ['\x7d']
termination_by structural value => value

/-- The characters of values with commas between them. -/
def charsOfItems : List Json → List Char
  | [] => []
  | [x] => chars x
  | x :: y :: rest => chars x ++ ',' :: charsOfItems (y :: rest)
termination_by structural items => items

/-- The characters of entries with commas between them. -/
def charsOfEntries : List (String × Json) → List Char
  | [] => []
  | [(k, x)] => literal k ++ ':' :: chars x
  | (k, x) :: e :: rest => literal k ++ ':' :: chars x ++ ',' :: charsOfEntries (e :: rest)
termination_by structural entries => entries
end

/-- The text of a value. -/
def text (value : Json) : String := String.ofList value.chars

end Json

end TokenSync
