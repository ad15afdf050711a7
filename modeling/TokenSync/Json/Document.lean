import TokenSync.Json.Numeral

/-!
# The text of a JSON document

A text is read into a tree that says what stands where, up to the place where the text stops being
JSON. What is wrong with a document and which fault comes first is then a matter of walking the
tree in order: entries keep their order and repeated keys, a numeral without a value and a string
literal that names no text are marked, and nothing follows a broken place.
-/
namespace TokenSync.Json

/-- One value in a text. -/
inductive Node where
  | null
  | bool (value : Bool)
  /-- A numeral; no value if it is too large. -/
  | number (value : Option Number)
  /-- A string literal; no value if an escape names half a character. -/
  | string (value : Option String)
  | array (items : List Node)
  /-- An object; a key that is no text is missing. -/
  | object (entries : List (Option String × Node))
  /-- The place where the text stops being JSON. -/
  | broken
deriving Inhabited

/-- A whole text: its value, and whether something other than blanks follows it. -/
structure Document where
  root : Node
  surplus : Bool
deriving Inhabited

/-! ## String literals -/

/-- What one place in a string literal stands for. -/
inductive Piece where
  | char (c : Char)
  /-- An escape for one half of a character beyond the first 65536. -/
  | half (unit : Nat)
deriving DecidableEq

/-- The value of a hexadecimal digit. -/
def hexValue? (c : Char) : Option Nat :=
  if c.isDigit then some (c.toNat - '0'.toNat)
  else if 'a' ≤ c ∧ c ≤ 'f' then some (c.toNat - 'a'.toNat + 10)
  else if 'A' ≤ c ∧ c ≤ 'F' then some (c.toNat - 'A'.toNat + 10)
  else none

/-- What an escape by number stands for. -/
def Piece.ofUnit (unit : Nat) : Piece :=
  if 0xD800 ≤ unit ∧ unit ≤ 0xDFFF then .half unit else .char (Char.ofNat unit)

/-- What an escape by number stands for, from its four digits. -/
def Piece.ofHex? (a b c d : Char) : Option Piece := do
  let (a, b, c, d) := (← hexValue? a, ← hexValue? b, ← hexValue? c, ← hexValue? d)
  some (.ofUnit (((a * 16 + b) * 16 + c) * 16 + d))

/-- What a short escape stands for. -/
def shortEscape? : Char → Option Char
  | '"' => some '"'
  | '\\' => some '\\'
  | '/' => some '/'
  | 'b' => some '\x08'
  | 'f' => some '\x0c'
  | 'n' => some '\n'
  | 'r' => some '\r'
  | 't' => some '\t'
  | _ => none

/-- The pieces of a string literal up to its closing quote, and the text after that. A control
character, an unknown escape and the end of the text break the literal. -/
def pieces : List Char → Option (List Piece × List Char)
  | [] => none
  | c :: rest =>
    if c = '"' then some ([], rest)
    else if c = '\\' then
      match rest with
      | 'u' :: a :: b :: c :: d :: rest => do
        let piece ← Piece.ofHex? a b c d
        let (ps, rest) ← pieces rest
        some (piece :: ps, rest)
      | e :: rest => do
        let c ← shortEscape? e
        let (ps, rest) ← pieces rest
        some (.char c :: ps, rest)
      | [] => none
    else if c.toNat < 0x20 then none
    else do
      let (ps, rest) ← pieces rest
      some (.char c :: ps, rest)

/-- The characters of pieces; two halves that belong together are one character, and a half that
stands alone is none. -/
def joinPieces : List Piece → Option (List Char)
  | [] => some []
  | .char c :: rest => (joinPieces rest).map (c :: ·)
  | .half high :: .half low :: rest =>
    if high < 0xDC00 ∧ 0xDC00 ≤ low then
      (joinPieces rest).map (Char.ofNat (0x10000 + (high - 0xD800) * 1024 + (low - 0xDC00)) :: ·)
    else none
  | .half _ :: _ => none

/-- The text of pieces. -/
def textOfPieces (ps : List Piece) : Option String := (joinPieces ps).map String.ofList

/-! ## Values -/

/-- The blanks between tokens. -/
def isGap (c : Char) : Bool := c == ' ' || c == '\t' || c == '\n' || c == '\r'

/-- The text from the next token on. -/
def skipGap (cs : List Char) : List Char := cs.dropWhile isGap

/-- A value without parts and the text after it. -/
def scanLeaf : List Char → Node × Option (List Char)
  | 'n' :: 'u' :: 'l' :: 'l' :: rest => (.null, some rest)
  | 't' :: 'r' :: 'u' :: 'e' :: rest => (.bool true, some rest)
  | 'f' :: 'a' :: 'l' :: 's' :: 'e' :: rest => (.bool false, some rest)
  | '"' :: rest =>
    match pieces rest with
    | some (ps, rest) => (.string (textOfPieces ps), some rest)
    | none => (.broken, none)
  | cs =>
    match Numeral.scan cs with
    | some (numeral, rest) => (.number numeral.value?, some rest)
    | none => (.broken, none)

mutual
/-- The value a text starts with and the text after it; no text follows a broken place. The first
argument bounds the number of steps. -/
def scanValue : Nat → List Char → Node × Option (List Char)
  | 0, _ => (.broken, none)
  | steps + 1, cs =>
    match skipGap cs with
    | '[' :: rest =>
      match skipGap rest with
      | ']' :: rest => (.array [], some rest)
      | rest =>
        let (items, rest) := scanItems steps rest
        (.array items, rest)
    | '\x7b' :: rest =>
      match skipGap rest with
      | '\x7d' :: rest => (.object [], some rest)
      | rest =>
        let (entries, rest) := scanEntries steps rest
        (.object entries, rest)
    | rest => scanLeaf rest

/-- The items of an array up to its end. -/
def scanItems : Nat → List Char → List Node × Option (List Char)
  | 0, _ => ([.broken], none)
  | steps + 1, cs =>
    match scanValue steps cs with
    | (item, none) => ([item], none)
    | (item, some rest) =>
      match skipGap rest with
      | ']' :: rest => ([item], some rest)
      | ',' :: rest =>
        let (items, rest) := scanItems steps rest
        (item :: items, rest)
      | _ => ([item, .broken], none)

/-- The entries of an object up to its end. -/
def scanEntries : Nat → List Char → List (Option String × Node) × Option (List Char)
  | 0, _ => ([(none, .broken)], none)
  | steps + 1, cs =>
    match skipGap cs with
    | '"' :: rest =>
      match pieces rest with
      | none => ([(none, .broken)], none)
      | some (ps, rest) =>
        let key := textOfPieces ps
        match skipGap rest with
        | ':' :: rest =>
          match scanValue steps rest with
          | (value, none) => ([(key, value)], none)
          | (value, some rest) =>
            match skipGap rest with
            | '\x7d' :: rest => ([(key, value)], some rest)
            | ',' :: rest =>
              let (entries, rest) := scanEntries steps rest
              ((key, value) :: entries, rest)
            | _ => ([(key, value), (none, .broken)], none)
        | _ => ([(key, .broken)], none)
    | _ => ([(none, .broken)], none)
end

/-- The document of a text, by the grammar of `serde_json::from_str`: no mark at the beginning, gaps
of four characters only, and a numeral beyond the floating-point numbers has no value. Every step
but one in two takes a character, so the bound on the steps is never met. -/
def Document.ofText (text : String) : Document :=
  let cs := text.toList
  match scanValue (2 * cs.length + 2) cs with
  | (root, some rest) => ⟨root, !(skipGap rest).isEmpty⟩
  | (root, none) => ⟨root, false⟩

end TokenSync.Json
