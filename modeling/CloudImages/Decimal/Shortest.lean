import CloudImages.Text.Numeral

set_option autoImplicit false

/-! # The shortest decimal of a double

A finite double stands for an interval of reals: those nearer to it than to its neighbours, with the
two ends when its significand is even. `shortest` picks a decimal from that interval: one with
as few digits as any, and among the decimals with that many digits the one nearest to the double.

The interval is kept in exact arithmetic, in quarters of the last place of the significand, so that
a decimal is compared with its ends by multiplying natural numbers only. -/

namespace CloudImages.Decimal

/-! ## Doubles as natural numbers -/

/-- The magnitude of a finite double: `significand * 2 ^ power`. -/
structure Binary where
  significand : Nat
  power : Int
  /-- Whether the neighbour below is half as far away as the one above, as it is where the
  significand is the least of its binade. -/
  narrowBelow : Bool
deriving DecidableEq, Repr

/-- The magnitude of a double, unless it is infinite or no number. -/
def Binary.ofFloat? (x : Float) : Option Binary :=
  let bits := x.toBits.toNat % 0x8000000000000000
  let fraction := bits % 0x10000000000000
  match bits / 0x10000000000000 with
  | 0 => some ⟨fraction, -1074, false⟩
  | 2047 => none
  | field => some ⟨0x10000000000000 + fraction, (field : Int) - 1075, fraction == 0 && 1 < field⟩

/-- Whether the sign bit of a double is set. -/
def isNegative (x : Float) : Bool :=
  0x8000000000000000 ≤ x.toBits.toNat

namespace Binary

/-- The double in quarters of its last place. -/
def quarters (b : Binary) : Nat :=
  4 * b.significand

/-- The lower end of the interval that the double stands for. -/
def lowerEnd (b : Binary) : Nat :=
  b.quarters - if b.narrowBelow then 1 else 2

/-- The upper end of the interval that the double stands for. -/
def upperEnd (b : Binary) : Nat :=
  b.quarters + 2

/-! ## Grids of decimals

The multiples of `10 ^ grid` are compared with counts of quarters after both are multiplied by the
denominators of the other. -/

/-- A count of quarters, ready to be compared on a grid. -/
def scaled (b : Binary) (grid : Int) (count : Nat) : Nat :=
  count * Nat.pow 2 (b.power - 2).toNat * Nat.pow 10 (-grid).toNat

/-- One step of a grid, ready to be compared with `scaled` counts. -/
def step (b : Binary) (grid : Int) : Nat :=
  Nat.pow 10 grid.toNat * Nat.pow 2 (2 - b.power).toNat

/-- Whether the decimal `coefficient * 10 ^ grid` lies in the interval of the double. -/
def covers (b : Binary) (grid : Int) (coefficient : Nat) : Bool :=
  let here := coefficient * b.step grid
  let low := b.scaled grid b.lowerEnd
  let high := b.scaled grid b.upperEnd
  if b.significand % 2 = 0 then low ≤ here && here ≤ high else low < here && here < high

/-- The greater of the two multiples next to the double on a grid is nearer to it, or as near and
even. -/
def roundsUp (b : Binary) (grid : Int) (below : Nat) : Bool :=
  let down := b.scaled grid b.quarters - below * b.step grid
  let up := (below + 1) * b.step grid - b.scaled grid b.quarters
  up < down || (up == down && below % 2 == 1)

/-- The multiple of a grid at or below the double. -/
def below (b : Binary) (grid : Int) : Nat :=
  b.scaled grid b.quarters / b.step grid

/-- The multiple of a grid nearest to the double. -/
def nearest (b : Binary) (grid : Int) : Nat :=
  let below := b.below grid
  if b.roundsUp grid below then below + 1 else below

/-- A multiple of a grid that lies in the interval of the double, the nearest one if there are
several next to it. -/
def coveredOn? (b : Binary) (grid : Int) : Option Nat :=
  let below := b.below grid
  match b.covers grid below, b.covers grid (below + 1) with
  | true, true => some (b.nearest grid)
  | true, false => some below
  | false, true => some (below + 1)
  | false, false => none

/-! ## The first grid with a hit -/

/-- The power of ten of the leading digit of a positive double. -/
def leading (b : Binary) : Int :=
  let numerator := b.scaled 0 b.quarters
  let denominator := b.step 0
  if denominator ≤ numerator then (Text.digits (numerator / denominator)).length - 1
  else -(Text.digits ((denominator - 1) / numerator)).length

end Binary

/-- A positive decimal `d.ddd × 10 ^ exponent`: its digits, the last of them not zero. -/
structure Scientific where
  digits : List Char
  exponent : Int
deriving DecidableEq, Repr

/-- The decimal `coefficient * 10 ^ grid` without the zeros at the end of its coefficient. -/
def Scientific.ofGrid (coefficient : Nat) (grid : Int) : Scientific :=
  let all := Text.digits coefficient
  { digits := (all.reverse.dropWhile (· == '0')).reverse
    exponent := grid + all.length - 1 }

/-- The shortest decimal of a positive double. Sixteen digits may not be enough to single a double
out; seventeen are. -/
def shortest (b : Binary) : Scientific :=
  let gridOf (count : Nat) : Int := b.leading - count
  let hit := (List.range 16).findSome? fun count =>
    (b.coveredOn? (gridOf count)).map fun coefficient => (coefficient, gridOf count)
  let (coefficient, grid) := hit.getD (b.nearest (gridOf 16), gridOf 16)
  Scientific.ofGrid coefficient grid

end CloudImages.Decimal
