/-!
# Characters and their places

A YAML text as a list of glyphs: characters that know their place in the text. The usual line
breaks, a carriage return with its line feed among them, all become one line feed; the two Unicode
separators break lines and stay what they are. Where a glyph stands follows from the text before
it alone, so scanning never counts.

Scanning follows `unsafe-libyaml` 0.2.11, which `serde_yaml` 0.9.33 builds on.
-/
namespace TokenSync.Yaml

/-- A character and its place. -/
structure Glyph where
  char : Char
  index : Nat
  line : Nat
  column : Nat
deriving DecidableEq, Repr

/-- The characters a YAML text may have. -/
def isAllowed (c : Char) : Bool :=
  let n := c.toNat
  n == 0x9 || n == 0xA || n == 0xD || (0x20 ≤ n && n ≤ 0x7E) || n == 0x85 ||
    (0xA0 ≤ n && n ≤ 0xD7FF) || (0xE000 ≤ n && n ≤ 0xFFFD) || (0x10000 ≤ n && n ≤ 0x10FFFF)

/-- The byte order mark. -/
def byteOrderMark : Char := '\ufeff'

namespace Glyph

/-- The glyphs of a text whose first character has this place. -/
def ofCharsAt (index line column : Nat) : List Char → List Glyph
  | [] => []
  | '\r' :: '\n' :: rest => ⟨'\n', index, line, column⟩ :: ofCharsAt (index + 2) (line + 1) 0 rest
  | c :: rest =>
    if c = '\n' ∨ c = '\r' ∨ c = '\u0085' then
      ⟨'\n', index, line, column⟩ :: ofCharsAt (index + 1) (line + 1) 0 rest
    else if c = '\u2028' ∨ c = '\u2029' then
      ⟨c, index, line, column⟩ :: ofCharsAt (index + 1) (line + 1) 0 rest
    else ⟨c, index, line, column⟩ :: ofCharsAt (index + 1) line (column + 1) rest

/-- The glyphs of a text. -/
def ofChars (cs : List Char) : List Glyph := ofCharsAt 0 0 0 cs

/-- Whether a line ends here. -/
def isBreak (g : Glyph) : Bool := g.char == '\n' || g.char == '\u2028' || g.char == '\u2029'

/-- Whether it is a space or a tab. -/
def isBlank (g : Glyph) : Bool := g.char == ' ' || g.char == '\t'

/-- Whether it is a blank or a line break. -/
def isGap (g : Glyph) : Bool := g.isBlank || g.isBreak

/-- Whether it may stand in the name of an anchor, a tag handle or a directive. -/
def isNameChar (g : Glyph) : Bool := g.char.isAlphanum || g.char == '-' || g.char == '_'

end Glyph

/-- Whether a word ends where this text starts. -/
def endsWord : List Glyph → Bool
  | [] => true
  | g :: _ => g.isGap

/-- Whether a text starts with a line of three such characters, alone or with a gap behind them. -/
def startsMarker (mark : Char) : List Glyph → Bool
  | a :: b :: c :: rest =>
    a.column == 0 && a.char == mark && b.char == mark && c.char == mark && endsWord rest
  | _ => false

/-- Whether a text starts with a line that separates documents. -/
def startsSeparator (gs : List Glyph) : Bool := startsMarker '-' gs || startsMarker '.' gs

/-- The text from the first glyph on that is no blank. -/
def skipBlanks (gs : List Glyph) : List Glyph := gs.dropWhile Glyph.isBlank

/-- The text from the next line break on. -/
def skipLine (gs : List Glyph) : List Glyph := gs.dropWhile fun g => !g.isBreak

end TokenSync.Yaml
