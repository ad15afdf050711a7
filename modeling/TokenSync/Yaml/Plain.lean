import TokenSync.Json.Basic
import TokenSync.Json.Numeral
import TokenSync.Text.Numeral

/-!
# What plain scalars mean

A plain scalar may be nothing, a truth value, an integer in one of four bases, or a floating-point
number; anything else is text. Digits with a leading zero are text, and so is a number too large
for a floating-point number.
-/
namespace TokenSync.Yaml.Plain

/-- The spellings of nothing, except for the empty scalar. -/
def isNull (cs : List Char) : Bool :=
  cs == "~".toList || cs == "null".toList || cs == "Null".toList || cs == "NULL".toList

/-- The spellings of truth values. -/
def bool? (cs : List Char) : Option Bool :=
  if cs == "true".toList || cs == "True".toList || cs == "TRUE".toList then some true
  else if cs == "false".toList || cs == "False".toList || cs == "FALSE".toList then some false
  else none

/-! ## Integers -/

/-- The text after a sign. -/
def dropSign : List Char → List Char
  | '+' :: rest => rest
  | '-' :: rest => rest
  | cs => cs

/-- Whether a text is a zero followed by more digits, with or without a sign. -/
def isZeroLed (cs : List Char) : Bool :=
  match dropSign cs with
  | '0' :: d :: rest => (d :: rest).all Char.isDigit
  | _ => false

/-- The number of a text without sign: decimal, or in another base that is named in front. -/
def magnitude? : List Char → Option Nat
  | '0' :: 'x' :: digits => Text.natural? 16 digits
  | '0' :: 'o' :: digits => Text.natural? 8 digits
  | '0' :: 'b' :: digits => Text.natural? 2 digits
  | digits => Text.natural? 10 digits

/-- The natural number of a text, which may have a plus sign. -/
def natural? (cs : List Char) : Option Nat :=
  if isZeroLed cs then none else magnitude? (Text.dropPlus cs)

/-- The size of a number with a minus sign. -/
def negated? : List Char → Option Nat
  | '-' :: rest => if isZeroLed rest then none else magnitude? rest
  | _ => none

/-- The integers a scalar can name: those of 64 bits become numbers, those of up to 128 bits are
refused, and larger ones are no integers. -/
inductive Integer where
  | number (value : Int)
  | refused
deriving DecidableEq, Repr

/-- The integer of a text. -/
def integer? (cs : List Char) : Option Integer :=
  match natural? cs, negated? cs with
  | some n, _ =>
    if n < Nat.pow 2 64 then some (.number n) else if n < Nat.pow 2 128 then some .refused else none
  | none, some n =>
    if n ≤ Nat.pow 2 63 then some (.number (-(n : Int)))
    else if n ≤ Nat.pow 2 127 then some .refused else none
  | none, none => none

/-! ## Floating-point numbers -/

/-- The floating-point numbers a scalar can name; JSON has no place for those that are not
finite. -/
inductive Real where
  | finite (value : Binary64)
  | special
deriving DecidableEq

/-- The spellings of infinity. -/
def isInfinity (cs : List Char) : Bool :=
  cs == ".inf".toList || cs == ".Inf".toList || cs == ".INF".toList

/-- The spellings of what is no number. -/
def isNotANumber (cs : List Char) : Bool :=
  cs == ".nan".toList || cs == ".NaN".toList || cs == ".NAN".toList

/-- The exponent after a number, if there is one, up to the end of the text. -/
def exponent? : List Char → Option Int
  | [] => some 0
  | c :: rest =>
    if c = 'e' ∨ c = 'E' then
      match rest with
      | '-' :: digits => (Text.natural? 10 digits).map fun n => -(n : Int)
      | digits => (Text.natural? 10 (Text.dropPlus digits)).map fun n => (n : Int)
    else none

/-- The number of a text without sign: digits with at most one point among them, and an exponent. -/
def decimal? (negative : Bool) (cs : List Char) : Option Binary64 := do
  let (whole, rest) := Json.spanDigits cs
  let (fraction, rest) := match rest with
    | '.' :: rest => Json.spanDigits rest
    | rest => ([], rest)
  if whole.isEmpty && fraction.isEmpty then none
  else
    let exponent ← exponent? rest
    Binary64.ofDecimal? negative (Json.ofDigits (whole ++ fraction)) (exponent - fraction.length)

/-- The floating-point number of a text, which may have one sign. -/
def real? (cs : List Char) : Option Real :=
  if isNotANumber cs then some .special
  else
    let (negative, size) := match cs with
      | '-' :: rest => (true, rest)
      | '+' :: rest => (false, rest)
      | _ => (false, cs)
    if isInfinity size then some .special
    else (decimal? negative size).map .finite

/-- What JSON makes of a floating-point number. -/
def Real.toJson : Real → Json
  | .finite value => .number (.float value)
  | .special => .null

/-- What JSON makes of an integer. -/
def Integer.toJson? : Integer → Option Json
  | .number value => some (.number (.int value))
  | .refused => none

/-- The value of a plain scalar. -/
def value? (cs : List Char) : Option Json :=
  if cs.isEmpty || isNull cs then some .null
  else
    match bool? cs, integer? cs with
    | some b, _ => some (.bool b)
    | none, some n => n.toJson?
    | none, none =>
      match if isZeroLed cs then none else real? cs with
      | some x => some x.toJson
      | none => some (.string (String.ofList cs))

end TokenSync.Yaml.Plain
