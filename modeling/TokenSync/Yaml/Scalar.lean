import TokenSync.Json.Document
import TokenSync.Yaml.Glyph

/-!
# The text of scalars

Plain, quoted and block scalars with their line folding. A single line break between two parts of a
plain or quoted scalar becomes a space, more of them lose the first, and blanks next to a break are
dropped. A block scalar keeps its lines, or folds those that do not start with a blank.
-/
namespace TokenSync.Yaml

/-- The ways a scalar is written. -/
inductive Style where
  | plain
  | single
  | double
  | literal
  | folded
deriving DecidableEq, Repr

/-! ## Blanks and breaks between two parts -/

/-- What has been passed since the last part of a scalar: blanks, or a line break and more breaks
after it. The first break is missing if it was escaped. -/
structure Gap where
  blanks : List Char := []
  broken : Bool := false
  first : Option Char := none
  more : List Char := []
deriving DecidableEq, Repr

namespace Gap

/-- The gap with one more blank or break; blanks after a break do not count. -/
def add (gap : Gap) (g : Glyph) : Gap :=
  if g.isBreak then
    if gap.broken then { gap with more := g.char :: gap.more }
    else { blanks := [], broken := true, first := some g.char, more := [] }
  else if gap.broken then gap
  else { gap with blanks := g.char :: gap.blanks }

/-- The gap of an escaped line break. -/
def escaped : Gap := { broken := true }

/-- What a gap stands for in the text. -/
def text (gap : Gap) : List Char :=
  if gap.broken then
    match gap.first, gap.more with
    | some '\n', [] => [' ']
    | some '\n', more => more.reverse
    | some c, more => c :: more.reverse
    | none, more => more.reverse
  else gap.blanks.reverse

/-- Whether nothing has been passed. -/
def isEmpty (gap : Gap) : Bool := gap.blanks.isEmpty && !gap.broken

end Gap

/-- The text so far, newest character first, with a gap behind it. -/
def closeGap (gap : Gap) (text : List Char) : List Char := gap.text.reverse ++ text

/-! ## Plain scalars -/

/-- The characters that separate and enclose in flow collections. -/
def isFlowMark (c : Char) : Bool := c == ',' || c == '[' || c == ']' || c == '{' || c == '\x7d'

/-- Whether a plain scalar ends where this text starts, given that no gap does. -/
def endsPlain (flow : Bool) : List Glyph → Bool
  | [] => true
  | g :: rest => (g.char == ':' && endsWord rest) || (flow && isFlowMark g.char)

/-- Whether a colon stands before a character of flow collections, which is refused there. -/
def hasStrayColon (flow : Bool) : List Glyph → Bool
  | g :: h :: _ => flow && g.char == ':' && (isFlowMark h.char || h.char == '?')
  | _ => false

/-- Scans a plain scalar: its text, whether a line break follows it, and what comes then. Outside
flow collections its further lines are indented by at least the given columns. -/
def scanPlain (flow : Bool) (indent : Int) (gap : Gap) (text : List Char) :
    List Glyph → Option (List Char × Bool × List Glyph)
  | [] => some (text.reverse, gap.broken, [])
  | g :: rest =>
    if g.isGap then
      if gap.broken && g.char == '\t' && (g.column : Int) < indent then none
      else scanPlain flow indent (gap.add g) text rest
    else if startsSeparator (g :: rest) ||
        (!gap.isEmpty && (g.char == '#' || (!flow && (g.column : Int) < indent))) then
      some (text.reverse, gap.broken, g :: rest)
    else if hasStrayColon flow (g :: rest) then none
    else if endsPlain flow (g :: rest) then some (text.reverse, gap.broken, g :: rest)
    else scanPlain flow indent {} (g.char :: closeGap gap text) rest

/-! ## Quoted scalars -/

/-- Scans a scalar between single quotes, after the opening one; two quotes stand for one. -/
def scanSingle (gap : Gap) (text : List Char) : List Glyph → Option (List Char × List Glyph)
  | [] => none
  | g :: rest =>
    if g.isGap then scanSingle (gap.add g) text rest
    else if startsSeparator (g :: rest) then none
    else if g.char == '\'' then
      match rest with
      | h :: rest' =>
        if h.char == '\'' then scanSingle {} ('\'' :: closeGap gap text) rest'
        else some ((closeGap gap text).reverse, rest)
      | [] => some ((closeGap gap text).reverse, [])
    else scanSingle {} (g.char :: closeGap gap text) rest

/-- What an escape by one character stands for between double quotes. -/
def shortEscape? : Char → Option Char
  | '0' => some (Char.ofNat 0x0)
  | 'a' => some (Char.ofNat 0x7)
  | 'b' => some (Char.ofNat 0x8)
  | 't' => some '\t'
  | '\t' => some '\t'
  | 'n' => some '\n'
  | 'v' => some (Char.ofNat 0xB)
  | 'f' => some (Char.ofNat 0xC)
  | 'r' => some '\r'
  | 'e' => some (Char.ofNat 0x1B)
  | ' ' => some ' '
  | '"' => some '"'
  | '/' => some '/'
  | '\\' => some '\\'
  | 'N' => some (Char.ofNat 0x85)
  | '_' => some (Char.ofNat 0xA0)
  | 'L' => some (Char.ofNat 0x2028)
  | 'P' => some (Char.ofNat 0x2029)
  | _ => none

/-- The number of digits of an escape by code point. -/
def escapeWidth? : Char → Option Nat
  | 'x' => some 2
  | 'u' => some 4
  | 'U' => some 8
  | _ => none

/-- The character of hexadecimal digits; halves of characters and numbers that are too large have
none. -/
def charOfHex? (digits : List Glyph) : Option Char := do
  let n ← digits.foldlM (fun n g => do some (n * 16 + (← Json.hexValue? g.char))) 0
  if n.isValidChar then some (Char.ofNat n) else none

/-- Scans a scalar between double quotes, after the opening one. The number says how many glyphs
belong to an escape that has been read already. -/
def scanDouble (skip : Nat) (gap : Gap) (text : List Char) :
    List Glyph → Option (List Char × List Glyph)
  | [] => none
  | g :: rest =>
    match skip with
    | skip + 1 => scanDouble skip gap text rest
    | 0 =>
      if g.isGap then scanDouble 0 (gap.add g) text rest
      else if startsSeparator (g :: rest) then none
      else
        let text := closeGap gap text
        if g.char == '"' then some (text.reverse, rest)
        else if g.char == '\\' then
          match rest with
          | [] => none
          | h :: more =>
            if h.isBreak then scanDouble 1 .escaped text rest
            else
              match escapeWidth? h.char with
              | some width =>
                if more.length < width then none
                else
                  match charOfHex? (more.take width) with
                  | some c => scanDouble (width + 1) {} (c :: text) rest
                  | none => none
              | none =>
                match shortEscape? h.char with
                | some c => scanDouble 1 {} (c :: text) rest
                | none => none
        else scanDouble 0 {} (g.char :: text) rest

/-! ## Block scalars -/

/-- What becomes of the line breaks at the end of a block scalar. -/
inductive Chomping where
  | strip
  | clip
  | keep
deriving DecidableEq, Repr

/-- The line that introduces a block scalar: what becomes of its end, and by how many columns it is
indented if that is said. -/
structure BlockHeader where
  chomping : Chomping
  increment : Option Nat
deriving DecidableEq, Repr

/-- A chomping indicator at the start of a text. -/
def scanChomping : List Glyph → Option Chomping × List Glyph
  | g :: rest =>
    if g.char == '+' then (some .keep, rest)
    else if g.char == '-' then (some .strip, rest)
    else (none, g :: rest)
  | [] => (none, [])

/-- An indentation indicator at the start of a text; a zero is none and is refused. -/
def scanIncrement : List Glyph → Option (Option Nat × List Glyph)
  | g :: rest =>
    if g.char == '0' then none
    else if g.char.isDigit then some (some (g.char.toNat - '0'.toNat), rest)
    else some (none, g :: rest)
  | [] => some (none, [])

/-- The text after the rest of a line that may hold blanks and a comment but nothing else. -/
def finishLine (gs : List Glyph) : Option (List Glyph) :=
  let gs := skipBlanks gs
  let gs := match gs with
    | g :: _ => if g.char == '#' then skipLine gs else gs
    | [] => gs
  match gs with
  | [] => some []
  | g :: rest => if g.isBreak then some rest else none

/-- The header of a block scalar, after its first character, and the text from the next line on.
The two indicators may stand in either order. -/
def scanBlockHeader (gs : List Glyph) : Option (BlockHeader × List Glyph) := do
  match scanChomping gs with
  | (some chomping, gs) =>
    let (increment, gs) ← scanIncrement gs
    some (⟨chomping, increment⟩, ← finishLine gs)
  | (none, gs) =>
    let (increment, gs) ← scanIncrement gs
    match increment with
    | none => some (⟨.clip, none⟩, ← finishLine gs)
    | some _ =>
      let (chomping, gs) := scanChomping gs
      some (⟨chomping.getD .clip, increment⟩, ← finishLine gs)

/-- A block scalar that is being read. -/
structure Block where
  /-- The columns its lines are indented by, once they are known. -/
  indent : Option Nat
  /-- The most columns of a line without content so far. -/
  widest : Nat := 0
  /-- The text so far, newest character first. -/
  text : List Char := []
  /-- The break at the end of the last line with content. -/
  last : Option Char := none
  /-- The breaks after it, newest first. -/
  more : List Char := []
  /-- Whether the last line with content starts with a blank. -/
  blankLed : Bool := false
deriving DecidableEq, Repr

namespace Block

/-- Whether a column is still within the indentation. -/
def isIndentation (block : Block) (column : Nat) : Bool :=
  match block.indent with
  | none => true
  | some indent => column < indent

/-- The block at the start of a line with content. In a folded block the break between two lines
that do not start with a blank is a space, or nothing if there are empty lines between them. -/
def startLine (block : Block) (folded : Bool) (g : Glyph) : Block :=
  let joined : List Char :=
    if folded && block.last == some '\n' && !block.blankLed && !g.isBlank then
      if block.more.isEmpty then [' '] else []
    else block.last.toList
  { block with
    text := g.char :: (block.more ++ (joined.reverse ++ block.text))
    last := none
    more := []
    blankLed := g.isBlank }

/-- The whole text of a block that has ended. -/
def finish (block : Block) (chomping : Chomping) : List Char :=
  let ending : List Char := match chomping with
    | .strip => []
    | .clip => block.last.toList
    | .keep => block.last.toList ++ block.more.reverse
  block.text.reverse ++ ending

end Block

/-- Scans the lines of a block scalar, which are indented by at least the given columns. The first
truth value says whether lines are folded, the second whether the text starts within a line. -/
def scanBlockLines (folded : Bool) (least : Nat) (inLine : Bool) (block : Block) :
    List Glyph → Option (Block × List Glyph)
  | [] => some (block, [])
  | g :: rest =>
    if inLine then
      if g.isBreak then
        scanBlockLines folded least false { block with last := some g.char } rest
      else scanBlockLines folded least true { block with text := g.char :: block.text } rest
    else if g.char == ' ' && block.isIndentation g.column then
      scanBlockLines folded least false block rest
    else if g.char == '\t' && block.isIndentation g.column then none
    else
      let block := { block with widest := max block.widest g.column }
      if g.isBreak then
        scanBlockLines folded least false { block with more := g.char :: block.more } rest
      else
        let indent := block.indent.getD (max block.widest least)
        if g.column = indent then
          scanBlockLines folded least true
            (Block.startLine { block with indent := some indent } folded g) rest
        else some (block, g :: rest)

/-- Scans a block scalar after its first character, in a collection indented by so many columns. -/
def scanBlock (folded : Bool) (parent : Int) (gs : List Glyph) :
    Option (List Char × List Glyph) := do
  let (header, gs) ← scanBlockHeader gs
  let indent := header.increment.map fun increment => (max parent 0).toNat + increment
  let (block, rest) ← scanBlockLines folded (max (parent + 1) 1).toNat false { indent } gs
  some (block.finish header.chomping, rest)

end TokenSync.Yaml
