/-!
# Finite binary floating point

Finite 64-bit binary floating-point numbers as a sign, a 53-bit significand and a power of two,
each number in exactly one form, and rounding of exact quotients to them. A half goes to the even
neighbour, and what lies beyond the largest number has no image.
-/
namespace TokenSync

/-- A finite number: the significand times two to the exponent, negated if the sign says so. The
significand is as large as fits, except that no exponent is below -1074. -/
structure Binary64 where
  /-- Whether the number carries a minus sign; zero has two forms. -/
  negative : Bool
  /-- The significand. -/
  significand : Nat
  /-- The power of two it is scaled by. -/
  exponent : Int
  significand_lt : significand < Nat.pow 2 53
  normal : Nat.pow 2 52 ≤ significand ∨ exponent = -1074
  exponent_le : exponent ≤ 971
deriving DecidableEq

namespace Binary64

/-- The number with these parts, if they are in the one form a number has. -/
def ofParts? (negative : Bool) (significand : Nat) (exponent : Int) : Option Binary64 :=
  if h : significand < Nat.pow 2 53 ∧ (Nat.pow 2 52 ≤ significand ∨ exponent = -1074) ∧
      exponent ≤ 971 then
    some ⟨negative, significand, exponent, h.1, h.2.1, h.2.2⟩
  else none

/-- Zero with a sign. -/
def zero (negative : Bool) : Binary64 :=
  ⟨negative, 0, -1074, by decide, .inr rfl, by decide⟩

instance : Inhabited Binary64 := ⟨zero false⟩

/-- Whether the number is one of the two zeros. -/
def isZero (x : Binary64) : Bool := x.significand == 0

/-- The number with the other sign. -/
def neg (x : Binary64) : Binary64 := { x with negative := !x.negative }

/-- The size of the number as an exact quotient. -/
def magnitude (x : Binary64) : Nat × Nat :=
  (x.significand * Nat.pow 2 x.exponent.toNat, Nat.pow 2 (-x.exponent).toNat)

/-- The integer next to a quotient; of two at the same distance the even one. -/
def nearest (num den : Nat) : Nat :=
  let below := num / den
  let twice := 2 * (num % den)
  if den < twice || (den == twice && below % 2 == 1) then below + 1 else below

/-- The number next to the quotient of two naturals, the divisor not zero; nothing if the quotient
is beyond the largest number. -/
def ofRatio? (negative : Bool) (num den : Nat) : Option Binary64 :=
  if num = 0 then some (zero negative)
  else
    -- The quotient lies strictly between the powers `scale - 1` and `scale + 1` of two.
    let scale : Int := (num.log2 : Int) - den.log2
    let start : Int :=
      if num * Nat.pow 2 (-scale).toNat < den * Nat.pow 2 scale.toNat then scale - 1 else scale
    let exponent := max (start - 52) (-1074)
    let significand := nearest (num * Nat.pow 2 (-exponent).toNat) (den * Nat.pow 2 exponent.toNat)
    if significand = Nat.pow 2 53 then ofParts? negative (Nat.pow 2 52) (exponent + 1)
    else ofParts? negative significand exponent

/-- The number next to a natural. -/
def ofNat? (n : Nat) : Option Binary64 := ofRatio? false n 1

/-- The rounded product; nothing if it is too large. -/
def mul? (x y : Binary64) : Option Binary64 :=
  let (a, b) := x.magnitude
  let (c, d) := y.magnitude
  ofRatio? (x.negative != y.negative) (a * c) (b * d)

/-- The rounded quotient; nothing if it is too large or the divisor is zero. -/
def div? (x y : Binary64) : Option Binary64 :=
  let (a, b) := x.magnitude
  let (c, d) := y.magnitude
  if y.isZero then none else ofRatio? (x.negative != y.negative) (a * d) (b * c)

/-- The number next to `digits` times ten to the power; nothing if that is too large. -/
def ofDecimal? (negative : Bool) (digits : Nat) (power : Int) : Option Binary64 :=
  if digits = 0 then some (zero negative)
  else
    -- Far outside the range of numbers the exact power of ten is not needed.
    let size : Int := (digits.log2 * 3 : Int) / 10 + power
    if 310 < size then none
    else if size + (digits.log2 : Int) / 10 < -330 then some (zero negative)
    else ofRatio? negative (digits * Nat.pow 10 power.toNat) (Nat.pow 10 (-power).toNat)

theorem ofParts?_parts (x : Binary64) :
    ofParts? x.negative x.significand x.exponent = some x := by
  simp only [ofParts?, x.significand_lt, x.normal, x.exponent_le, and_self, dite_true]

@[simp] theorem neg_neg (x : Binary64) : x.neg.neg = x := by simp [neg]

end Binary64

end TokenSync
