import TokenSync.Yaml.Scalar

/-!
# Tokens

The tokens of a YAML text. Block collections have no brackets of their own: they begin and end
where the indentation says so. That a scalar is a key is known only at the colon behind it, so the
scanner keeps, for every open collection, the place where the last possible key began, and puts the
token for a key there afterwards. Such a key is a single line and at most 1024 characters long. The
tokens are those of `yaml_parser_scan`.
-/
namespace TokenSync.Yaml

/-- The octets of a tag. -/
abbrev Octets := List UInt8

/-- A token. -/
inductive Token where
  | versionDirective (major minor : Nat)
  | tagDirective (handle : List Char) (meaning : Octets)
  | documentStart
  | documentEnd
  | blockSequence
  | blockMapping
  | blockEnd
  | openSequence
  | closeSequence
  | openMapping
  | closeMapping
  | blockEntry
  | flowEntry
  | key
  | value
  | alias (name : List Char)
  | anchor (name : List Char)
  | tag (handle : List Char) (suffix : Octets)
  | scalar (text : List Char) (style : Style)
deriving DecidableEq, Repr

/-! ## Names and tags -/

/-- The name characters a text starts with, and the rest of it. -/
def spanName (gs : List Glyph) : List Char × List Glyph :=
  ((gs.takeWhile Glyph.isNameChar).map Glyph.char, gs.dropWhile Glyph.isNameChar)

/-- What may follow the name of an anchor directly, besides gaps. -/
def followsAnchor (c : Char) : Bool :=
  c == '?' || c == ':' || c == ',' || c == ']' || c == '\x7d' || c == '%' || c == '@' ||
    c == '\x60'

/-- The name of an anchor or alias. -/
def scanAnchor (gs : List Glyph) : Option (List Char × List Glyph) :=
  match spanName gs with
  | ([], _) => none
  | (name, []) => some (name, [])
  | (name, g :: rest) => if g.isGap || followsAnchor g.char then some (name, g :: rest) else none

/-- The handle of a tag: an exclamation mark, name characters, and another mark if it is there. -/
def scanHandle : List Glyph → Option (List Char × List Glyph)
  | g :: rest =>
    if g.char == '!' then
      let (name, rest) := spanName rest
      match rest with
      | h :: more =>
        if h.char == '!' then some ('!' :: name ++ ['!'], more) else some ('!' :: name, h :: more)
      | [] => some ('!' :: name, [])
    else none
  | [] => none

/-- The characters of a tag besides name characters and escapes. -/
def isTagMark (c : Char) : Bool :=
  c == ';' || c == '/' || c == '?' || c == ':' || c == '@' || c == '&' || c == '=' || c == '+' ||
    c == '$' || c == '.' || c == '!' || c == '~' || c == '*' || c == '\'' || c == '(' || c == ')'

/-- The characters of a tag that separate and enclose in flow collections. -/
def isVerbatimMark (c : Char) : Bool := c == ',' || c == '[' || c == ']'

/-- The octet of an escape. -/
def escapedOctet? : List Glyph → Option Nat
  | a :: b :: _ => do some ((← Json.hexValue? a.char) * 16 + (← Json.hexValue? b.char))
  | _ => none

/-- How many octets follow the first one of a character; an octet in the middle of a character is
not the first one. -/
def followers? (octet : Nat) : Option Nat :=
  if octet < 0x80 then some 0
  else if octet < 0xC0 then none
  else if octet < 0xE0 then some 1
  else if octet < 0xF0 then some 2
  else if octet < 0xF8 then some 3
  else none

/-- Scans the octets of a tag. The first number says how many glyphs belong to an escape that has
been read already, the second how many octets of a character have to follow as escapes. -/
def scanOctets (verbatim : Bool) (skip owed : Nat) (octets : Octets) :
    List Glyph → Option (Octets × List Glyph)
  | [] => if owed = 0 then some (octets.reverse, []) else none
  | g :: rest =>
    match skip with
    | skip + 1 => scanOctets verbatim skip owed octets rest
    | 0 =>
      if g.char == '%' then
        match escapedOctet? rest with
        | none => none
        | some octet =>
          match owed with
          | owed + 1 =>
            if 0x80 ≤ octet ∧ octet < 0xC0 then
              scanOctets verbatim 2 owed (octet.toUInt8 :: octets) rest
            else none
          | 0 =>
            match followers? octet with
            | some owed => scanOctets verbatim 2 owed (octet.toUInt8 :: octets) rest
            | none => none
      else if owed ≠ 0 then none
      else if g.isNameChar || isTagMark g.char || (verbatim && isVerbatimMark g.char) then
        scanOctets verbatim 0 0 (g.char.toNat.toUInt8 :: octets) rest
      else some (octets.reverse, g :: rest)

/-- The octets of ASCII characters. -/
def octetsOf (cs : List Char) : Octets := cs.map fun c => c.toNat.toUInt8

/-- Whether a tag may end where this text starts. -/
def endsTag (flow : Bool) : List Glyph → Bool
  | [] => true
  | g :: _ => g.isGap || (flow && g.char == ',')

/-- A tag, from its first exclamation mark on. It is given in angle brackets, or as a handle that
stands for the start of a longer tag and the rest of it. -/
def scanTag (flow : Bool) (gs : List Glyph) : Option (Token × List Glyph) := do
  let (token, rest) ← match gs with
    | _ :: h :: more =>
      if h.char == '<' then
        match scanOctets true 0 0 [] more with
        | some (octets, close :: rest) =>
          if octets.isEmpty || close.char != '>' then none else some (.tag [] octets, rest)
        | _ => none
      else scanShort gs
    | _ => scanShort gs
  if endsTag flow rest then some (token, rest) else none
where
  /-- A tag with a handle, or one that only starts with an exclamation mark. -/
  scanShort (gs : List Glyph) : Option (Token × List Glyph) := do
    let (handle, rest) ← scanHandle gs
    let (octets, rest) ← scanOctets false 0 0 [] rest
    if 1 < handle.length && handle.getLast? == some '!' then
      if octets.isEmpty then none else some (.tag handle octets, rest)
    else
      match octetsOf (handle.drop 1) ++ octets with
      | [] => some (.tag [] (octetsOf ['!']), rest)
      | suffix => some (.tag ['!'] suffix, rest)

/-! ## Directives -/

/-- A number of at most nine digits. -/
def scanVersionNumber (gs : List Glyph) : Option (Nat × List Glyph) :=
  let digits := (gs.takeWhile (·.char.isDigit)).map Glyph.char
  if digits.isEmpty || 9 < digits.length then none
  else some (Json.ofDigits digits, gs.dropWhile (·.char.isDigit))

/-- A directive, after its percent sign, and the text from the next line on. -/
def scanDirective (gs : List Glyph) : Option (Token × List Glyph) := do
  let (name, gs) := spanName gs
  if name.isEmpty || !endsWord gs then none
  else if name = ['Y', 'A', 'M', 'L'] then
    let (major, gs) ← scanVersionNumber (skipBlanks gs)
    match gs with
    | point :: gs =>
      if point.char != '.' then none
      else
        let (minor, gs) ← scanVersionNumber gs
        some (.versionDirective major minor, ← finishLine gs)
    | [] => none
  else if name = ['T', 'A', 'G'] then
    let (handle, gs) ← scanHandle (skipBlanks gs)
    if handle ≠ ['!'] && handle.getLast? != some '!' then none
    else
      match gs with
      | [] => none
      | g :: _ =>
        if !g.isBlank then none
        else
          let (meaning, gs) ← scanOctets true 0 0 [] (skipBlanks gs)
          if meaning.isEmpty || !endsWord gs then none
          else some (.tagDirective handle meaning, ← finishLine gs)
  else none

/-! ## The scanner -/

/-- A place where a key may have begun. -/
structure Candidate where
  /-- How many tokens come before it. -/
  position : Nat
  /-- Whether a colon has to follow, because a block mapping goes on here. -/
  required : Bool
  index : Nat
  line : Nat
  column : Nat
deriving DecidableEq, Repr

/-- The state between two tokens. -/
structure Scanner where
  rest : List Glyph
  /-- The tokens so far, newest first. -/
  tokens : List Token := []
  /-- How many they are. -/
  count : Nat := 0
  /-- The column of the innermost block collection. -/
  indent : Int := -1
  /-- The columns of those around it. -/
  outer : List Int := []
  /-- Where a key may have begun in the innermost flow collection. -/
  candidate : Option Candidate := none
  /-- The same for the collections around it, one for each flow collection that is open. -/
  enclosing : List (Option Candidate) := []
  /-- Whether a key may begin here. -/
  keyAllowed : Bool := true
deriving Repr

namespace Scanner

/-- Whether a flow collection is open. -/
def inFlow (s : Scanner) : Bool := !s.enclosing.isEmpty

/-- Adds a token. -/
def emit (s : Scanner) (token : Token) : Scanner :=
  { s with tokens := token :: s.tokens, count := s.count + 1 }

/-- Adds a token and goes on behind it. -/
def emitAt (s : Scanner) (token : Token) (rest : List Glyph) : Scanner :=
  { s.emit token with rest }

/-- Puts a token after the given number of tokens. -/
def emitBefore (s : Scanner) (position : Nat) (token : Token) : Scanner :=
  let newer := s.count - position
  { s with tokens := s.tokens.take newer ++ token :: s.tokens.drop newer, count := s.count + 1 }

/-- Gives up the key that may have begun; one that was required must not be given up. -/
def forget (s : Scanner) : Option Scanner :=
  match s.candidate with
  | some candidate => if candidate.required then none else some { s with candidate := none }
  | none => some s

/-- Keeps in mind that a key may begin at a glyph. -/
def remember (s : Scanner) (g : Glyph) : Option Scanner := do
  if s.keyAllowed then
    let s' ← s.forget
    let required := !s.inFlow && s.indent == (g.column : Int)
    some { s' with candidate := some ⟨s.count, required, g.index, g.line, g.column⟩ }
  else some s

/-- Whether a key that began there can no longer be one: it would span lines or be too long. At the
end of the text no key can be. -/
def isStale (gs : List Glyph) (candidate : Candidate) : Bool :=
  match gs with
  | [] => true
  | g :: _ => candidate.line < g.line || candidate.index + 1024 < g.index

/-- A place after those that are stale are given up, unless one of them was required. -/
def refresh (gs : List Glyph) : Option Candidate → Option (Option Candidate)
  | some candidate =>
    if isStale gs candidate then (if candidate.required then none else some none)
    else some (some candidate)
  | none => some none

/-- Gives up all keys that are stale. -/
def dropStale (s : Scanner) : Option Scanner := do
  let candidate ← refresh s.rest s.candidate
  let enclosing ← s.enclosing.mapM (refresh s.rest)
  some { s with candidate, enclosing }

/-- Begins a block collection at a column if it is deeper than the innermost one. Its token stands
after the given number of tokens. -/
def openBlock (s : Scanner) (column position : Nat) (token : Token) : Scanner :=
  if !s.inFlow && s.indent < (column : Int) then
    { s.emitBefore position token with indent := column, outer := s.indent :: s.outer }
  else s

/-- The number of block collections that lie deeper than a column, the column of the one that is
innermost then, and those around it. -/
def unwind (column : Int) : Int → List Int → Nat × Int × List Int
  | indent, [] => if column < indent then (1, -1, []) else (0, indent, [])
  | indent, next :: outer =>
    if column < indent then
      let (n, rest) := unwind column next outer
      (n + 1, rest)
    else (0, indent, next :: outer)

/-- Ends the block collections that lie deeper than a column. -/
def closeBlocks (s : Scanner) (column : Int) : Scanner :=
  if s.inFlow then s
  else
    let (n, indent, outer) := unwind column s.indent s.outer
    { s with
      tokens := List.replicate n .blockEnd ++ s.tokens
      count := s.count + n
      indent
      outer }

/-- The text from the next token on, and whether a key may begin there. Comments and line breaks are
passed over, and tabs where they cannot be indentation; a new line may begin with a key outside flow
collections. -/
def passGap (flow inComment keyAllowed : Bool) : List Glyph → Bool × List Glyph
  | [] => (keyAllowed, [])
  | g :: rest =>
    if g.isBreak then passGap flow false (keyAllowed || !flow) rest
    else if inComment then passGap flow true keyAllowed rest
    else if g.char == '#' then passGap flow true keyAllowed rest
    else if g.char == ' ' || (g.char == '\t' && (flow || !keyAllowed)) ||
        (g.char == byteOrderMark && g.index == 0) then
      passGap flow false keyAllowed rest
    else (keyAllowed, g :: rest)

/-! ### One token -/

/-- A directive. -/
def directive (s : Scanner) (rest : List Glyph) : Option Scanner := do
  let s ← (s.closeBlocks (-1)).forget
  let (token, rest) ← scanDirective rest
  some ({ s with keyAllowed := false }.emitAt token rest)

/-- A line that separates documents. -/
def separator (s : Scanner) (token : Token) : Option Scanner := do
  let s ← (s.closeBlocks (-1)).forget
  some ({ s with keyAllowed := false }.emitAt token (s.rest.drop 3))

/-- The start of a flow collection, which may be a key itself. -/
def openFlow (s : Scanner) (token : Token) (g : Glyph) (rest : List Glyph) : Option Scanner := do
  let s ← s.remember g
  let s := { s with
    candidate := none, enclosing := s.candidate :: s.enclosing, keyAllowed := true }
  some (s.emitAt token rest)

/-- The end of a flow collection. -/
def closeFlow (s : Scanner) (token : Token) (rest : List Glyph) : Option Scanner := do
  let s ← s.forget
  let s := match s.enclosing with
    | candidate :: enclosing => { s with candidate, enclosing }
    | [] => s
  some ({ s with keyAllowed := false }.emitAt token rest)

/-- A comma in a flow collection. -/
def flowEntry (s : Scanner) (rest : List Glyph) : Option Scanner := do
  let s ← s.forget
  some ({ s with keyAllowed := true }.emitAt .flowEntry rest)

/-- The dash of a block sequence. -/
def blockEntry (s : Scanner) (g : Glyph) (rest : List Glyph) : Option Scanner := do
  if !s.inFlow && !s.keyAllowed then none
  else
    let s ← (s.openBlock g.column s.count .blockSequence).forget
    some ({ s with keyAllowed := true }.emitAt .blockEntry rest)

/-- A question mark before a key. -/
def key (s : Scanner) (g : Glyph) (rest : List Glyph) : Option Scanner := do
  if !s.inFlow && !s.keyAllowed then none
  else
    let s ← (s.openBlock g.column s.count .blockMapping).forget
    some ({ s with keyAllowed := !s.inFlow }.emitAt .key rest)

/-- The colon behind a key. If a key may have begun before it, that was one. -/
def value (s : Scanner) (g : Glyph) (rest : List Glyph) : Option Scanner :=
  match s.candidate with
  | some candidate =>
    let s := (s.emitBefore candidate.position .key).openBlock candidate.column candidate.position
      .blockMapping
    some ({ s with candidate := none, keyAllowed := false }.emitAt .value rest)
  | none =>
    if !s.inFlow && !s.keyAllowed then none
    else
      let s := s.openBlock g.column s.count .blockMapping
      some ({ s with keyAllowed := !s.inFlow }.emitAt .value rest)

/-- Something that may be a key or the start of one. -/
def content (s : Scanner) (g : Glyph) (scanned : Option (Token × List Glyph)) :
    Option Scanner := do
  let s ← s.remember g
  let (token, rest) ← scanned
  some ({ s with keyAllowed := false }.emitAt token rest)

/-- A block scalar, which is never a key. -/
def block (s : Scanner) (style : Style) (rest : List Glyph) : Option Scanner := do
  let s ← s.forget
  let (text, rest) ← scanBlock (style == .folded) s.indent rest
  some ({ s with keyAllowed := true }.emitAt (.scalar text style) rest)

/-- A plain scalar; if a line break follows it a key may begin then. -/
def plain (s : Scanner) (g : Glyph) : Option Scanner := do
  let s ← s.remember g
  let (text, broken, rest) ← scanPlain s.inFlow (s.indent + 1) {} [] s.rest
  some ({ s with keyAllowed := broken }.emitAt (.scalar text .plain) rest)

/-- The characters no plain scalar starts with, unless they stand before other characters. -/
def isIndicator (c : Char) : Bool :=
  c == '-' || c == '?' || c == ':' || c == ',' || c == '[' || c == ']' || c == '{' ||
    c == '\x7d' || c == '#' || c == '&' || c == '*' || c == '!' || c == '|' || c == '>' ||
    c == '\'' || c == '"' || c == '%' || c == '@' || c == '\x60'

/-- Whether a plain scalar may start at a glyph. -/
def startsPlain (flow : Bool) (g : Glyph) (rest : List Glyph) : Bool :=
  !(g.isGap || isIndicator g.char) ||
    (g.char == '-' && !(match rest with | h :: _ => h.isBlank | [] => false)) ||
    (!flow && (g.char == '?' || g.char == ':') && !endsWord rest)

/-- The token at a glyph. -/
def token (s : Scanner) (g : Glyph) (rest : List Glyph) : Option Scanner :=
  if g.column == 0 && g.char == '%' then s.directive rest
  else if startsMarker '-' s.rest then s.separator .documentStart
  else if startsMarker '.' s.rest then s.separator .documentEnd
  else if g.char == '[' then s.openFlow .openSequence g rest
  else if g.char == '{' then s.openFlow .openMapping g rest
  else if g.char == ']' then s.closeFlow .closeSequence rest
  else if g.char == '\x7d' then s.closeFlow .closeMapping rest
  else if g.char == ',' then s.flowEntry rest
  else if g.char == '-' && endsWord rest then s.blockEntry g rest
  else if g.char == '?' && (s.inFlow || endsWord rest) then s.key g rest
  else if g.char == ':' && (s.inFlow || endsWord rest) then s.value g rest
  else if g.char == '*' then
    s.content g ((scanAnchor rest).map fun (name, rest) => (.alias name, rest))
  else if g.char == '&' then
    s.content g ((scanAnchor rest).map fun (name, rest) => (.anchor name, rest))
  else if g.char == '!' then s.content g (scanTag s.inFlow s.rest)
  else if g.char == '|' && !s.inFlow then s.block .literal rest
  else if g.char == '>' && !s.inFlow then s.block .folded rest
  else if g.char == '\'' then
    s.content g ((scanSingle {} [] rest).map fun (text, rest) => (.scalar text .single, rest))
  else if g.char == '"' then
    s.content g ((scanDouble 0 {} [] rest).map fun (text, rest) => (.scalar text .double, rest))
  else if startsPlain s.inFlow g rest then s.plain g
  else none

/-- Everything before the next token, and then the token; nothing is left when the text ends. -/
def advance (s : Scanner) : Option Scanner := do
  let (keyAllowed, rest) := passGap s.inFlow false s.keyAllowed s.rest
  let s ← { s with keyAllowed, rest }.dropStale
  match rest with
  | [] => (s.closeBlocks (-1)).forget
  | g :: more => (s.closeBlocks g.column).token g more

/-- All tokens of a text, newest first. The first argument bounds their number. -/
def scan : Nat → Scanner → Option Scanner
  | 0, _ => none
  | steps + 1, s => do
    let s ← s.advance
    if s.rest.isEmpty then (s.advance) else scan steps s

end Scanner

/-- The tokens of a text. Every token takes a character, so the bound on the steps is never met. -/
def Token.ofText? (text : String) : Option (List Token) :=
  let cs := text.toList
  if cs.all isAllowed then
    (Scanner.scan (cs.length + 1) { rest := Glyph.ofChars cs }).map fun s => s.tokens.reverse
  else none

end TokenSync.Yaml
