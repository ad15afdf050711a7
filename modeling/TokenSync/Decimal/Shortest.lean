import TokenSync.Decimal.Binary64

/-!
# Shortest decimal text

The decimal numeral with the fewest digits among those that round to a given number; of several
such numerals the one next to the number. The search runs over decimal grids from coarse to fine in
exact arithmetic. How the digits are laid out is a separate record.
-/
namespace TokenSync.Decimal

/-- The digits of a numeral and the power of ten of its last digit. -/
structure Digits where
  digits : Nat
  power : Int
deriving DecidableEq, Repr

/-- The reals that round to a number, all as multiples of two to the power `scale`. The two ends
belong to them exactly when `closed` holds. -/
structure Basin where
  low : Nat
  middle : Nat
  high : Nat
  scale : Int
  closed : Bool
deriving DecidableEq, Repr

/-- The reals that round to a number: half way to each neighbour, and the neighbour below a power
of two is twice as close. -/
def Basin.of (x : Binary64) : Basin :=
  let tight := x.significand == Nat.pow 2 52 && x.exponent != -1074
  { low := 4 * x.significand - (if tight then 1 else 2)
    middle := 4 * x.significand
    high := 4 * x.significand + 2
    scale := x.exponent - 2
    closed := x.significand % 2 == 0 }

/-- The multiple of ten to the power that is in the basin and next to its middle, if any is. -/
def Basin.onGrid? (b : Basin) (power : Int) : Option Nat :=
  -- A multiple `n` of the grid is compared as `n * unit` with `bound * step`.
  let unit := Nat.pow 10 power.toNat * Nat.pow 2 (-b.scale).toNat
  let step := Nat.pow 10 (-power).toNat * Nat.pow 2 b.scale.toNat
  let inside (n : Nat) : Bool :=
    let (l, m, h) := (b.low * step, n * unit, b.high * step)
    if b.closed then l ≤ m && m ≤ h else l < m && m < h
  let below := b.middle * step / unit
  let above := below + 1
  if inside below && inside above then
    some (if 2 * (b.middle * step) ≤ (below + above) * unit then below else above)
  else if inside below then some below
  else if inside above then some above
  else none

/-- The first grid with a hit, from a power of ten downwards. -/
def Basin.search (b : Basin) : Nat → Int → Option Digits
  | 0, _ => none
  | steps + 1, power =>
    match b.onGrid? power with
    | some n => some ⟨n, power⟩
    | none => b.search steps (power - 1)

/-- The digits of the shortest numeral of a number, without its sign. The first grid tried is
coarser than the number itself, and seventeen digits always suffice. -/
def shortest (x : Binary64) : Digits :=
  if x.isZero then ⟨0, 0⟩
  else
    let size : Int := (x.significand.log2 : Int) + x.exponent
    ((Basin.of x).search 24 (size * 30103 / 100000 + 2)).getD ⟨0, 0⟩

/-- How a numeral is laid out. -/
structure Layout where
  /-- The decimal exponents of the first digit that are written without an exponent. -/
  leastPlain : Int
  greatestPlain : Int
  /-- What a whole number written without an exponent ends in. -/
  wholeEnd : List Char
  /-- The mark before an exponent. -/
  mark : Char
deriving DecidableEq, Repr

/-- The text of a number in a layout. -/
def Layout.render (layout : Layout) (x : Binary64) : String :=
  let found := shortest x
  let ds := (Nat.toDigits 10 found.digits)
  let lead : Int := ds.length - 1 + found.power
  let body : List Char :=
    if layout.leastPlain ≤ lead && lead ≤ layout.greatestPlain then
      if 0 ≤ found.power then
        ds ++ List.replicate found.power.toNat '0' ++ layout.wholeEnd
      else if 0 ≤ lead then
        ds.take (lead.toNat + 1) ++ '.' :: ds.drop (lead.toNat + 1)
      else
        '0' :: '.' :: List.replicate (-lead - 1).toNat '0' ++ ds
    else
      let tail := ds.drop 1
      ds.take 1 ++ (if tail.isEmpty then [] else '.' :: tail) ++ layout.mark ::
        (toString lead).toList
  String.ofList (if x.negative then '-' :: body else body)

end TokenSync.Decimal
