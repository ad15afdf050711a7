import TokenSync.Json.Basic

/-!
# Numerals in JSON documents

A numeral without fraction and exponent that fits into 64 bits is an integer. Every other one is a
floating-point number: its leading digits are gathered as long as they fit into 64 bits, and the
result is scaled by a power of ten, each step rounded. A numeral that is too large has no value.
-/
namespace TokenSync.Json

/-- The parts of a numeral; the fraction and the exponent may be missing. -/
structure Numeral where
  negative : Bool
  whole : List Char
  fraction : List Char
  exponent : Option Int
deriving DecidableEq, Repr

/-- The value of a list of decimal digits. -/
def ofDigits (ds : List Char) : Nat :=
  ds.foldl (fun n d => 10 * n + (d.toNat - '0'.toNat)) 0

/-- The digits a text starts with, and the rest of it. -/
def spanDigits (cs : List Char) : List Char × List Char :=
  (cs.takeWhile Char.isDigit, cs.dropWhile Char.isDigit)

namespace Numeral

/-- The digits after a point, if there is one; a point without digits is no numeral. -/
def scanFraction : List Char → Option (List Char × List Char)
  | '.' :: rest =>
    match spanDigits rest with
    | ([], _) => none
    | (ds, rest) => some (ds, rest)
  | rest => some ([], rest)

/-- A sign and the text behind it. -/
def scanSign : List Char → Bool × List Char
  | '-' :: rest => (true, rest)
  | '+' :: rest => (false, rest)
  | rest => (false, rest)

/-- The exponent, if there is a mark for one; a mark without digits is no numeral. -/
def scanExponent (cs : List Char) : Option (Option Int × List Char) :=
  match cs with
  | c :: rest =>
    if c = 'e' ∨ c = 'E' then
      let (negative, rest) := scanSign rest
      match spanDigits rest with
      | ([], _) => none
      | (ds, rest) => some (some (if negative then -(ofDigits ds : Int) else ofDigits ds), rest)
    else some (none, cs)
  | [] => some (none, cs)

/-- The numeral a text starts with and the rest of the text; nothing if no numeral stands there.
A zero in front of other digits is no numeral. -/
def scan (cs : List Char) : Option (Numeral × List Char) :=
  let (negative, cs) := match cs with
    | '-' :: rest => (true, rest)
    | _ => (false, cs)
  match spanDigits cs with
  | ([], _) => none
  | ('0' :: _ :: _, _) => none
  | (whole, rest) => do
    let (fraction, rest) ← scanFraction rest
    let (exponent, rest) ← scanExponent rest
    some (⟨negative, whole, fraction, exponent⟩, rest)

/-- Digits gathered so far, and the power of ten they are scaled by. -/
structure Gathered where
  significand : Nat
  scale : Int
  full : Bool
deriving DecidableEq, Repr

/-- Appends a digit to a significand if the result fits into 64 bits. -/
def appendDigit? (significand : Nat) (d : Char) : Option Nat :=
  let next := 10 * significand + (d.toNat - '0'.toNat)
  if next < Nat.pow 2 64 then some next else none

/-- A digit before the point that finds no place multiplies the scale. -/
def Gathered.whole (g : Gathered) (d : Char) : Gathered :=
  match g.full, appendDigit? g.significand d with
  | false, some next => { g with significand := next }
  | _, _ => { g with scale := g.scale + 1, full := true }

/-- A digit after the point that finds no place is dropped, with all that follow it. -/
def Gathered.fraction (g : Gathered) (d : Char) : Gathered :=
  match g.full, appendDigit? g.significand d with
  | false, some next => { g with significand := next, scale := g.scale - 1 }
  | _, _ => { g with full := true }

/-- The leading digits of a numeral. -/
def gathered (n : Numeral) : Gathered :=
  let before := n.whole.foldl Gathered.whole ⟨0, 0, false⟩
  n.fraction.foldl Gathered.fraction { before with full := false }

/-- A power of ten, rounded; nothing above the 308th. -/
def powerOfTen? (n : Nat) : Option Binary64 :=
  if n ≤ 308 then Binary64.ofNat? (Nat.pow 10 n) else none

/-- A significand below 2^64 times a power of ten. Powers down to the -308th are one division, those
below take a division by the 308th power first, and two of these leave zero. -/
def scaled? (significand : Nat) (scale : Int) : Option Binary64 := do
  let x ← Binary64.ofNat? significand
  if x.isZero then some x
  else if 0 ≤ scale then x.mul? (← powerOfTen? scale.toNat)
  else
    let n := (-scale).toNat
    if n ≤ 308 then x.div? (← powerOfTen? n)
    else if n ≤ 616 then (← x.div? (← powerOfTen? 308)).div? (← powerOfTen? (n - 308))
    else some (Binary64.zero false)

/-- The floating-point number of a numeral. -/
def float? (n : Numeral) : Option Number := do
  let g := n.gathered
  let x ← scaled? g.significand (g.scale + n.exponent.getD 0)
  some (.float (if n.negative then x.neg else x))

/-- The value of a numeral; nothing if it is too large. Minus zero is a floating-point number. -/
def value? (n : Numeral) : Option Number :=
  if n.fraction.isEmpty && n.exponent.isNone then
    let whole := ofDigits n.whole
    if n.negative then
      if whole ≠ 0 ∧ whole ≤ Nat.pow 2 63 then some (.int (-(whole : Int))) else n.float?
    else if whole < Nat.pow 2 64 then some (.int whole) else n.float?
  else n.float?

end Numeral

end TokenSync.Json
