set_option autoImplicit false

/-! # Doubles from decimals by scaling

A decimal is turned into a double in two steps: as many of its leading digits as fit a word of 64
bits become a significand, and the significand, as a double, is multiplied or divided by a power of
ten. Each step rounds, so the result is near the decimal but not always the double nearest to it. -/

namespace CloudImages.Decimal

/-! ## The significand -/

/-- The largest significand. -/
def significandLimit : Nat :=
  0xFFFFFFFFFFFFFFFF

/-- Appends digits to a significand while it stays within its limit; also gives the digits that are
left from the first one that does not fit. -/
def absorb (significand : Nat) : List Char → Nat × List Char
  | [] => (significand, [])
  | d :: rest =>
    let next := significand * 10 + (d.toNat - '0'.toNat)
    if next ≤ significandLimit then absorb next rest else (significand, d :: rest)

theorem absorb_le {significand : Nat} (h : significand ≤ significandLimit) (ds : List Char) :
    (absorb significand ds).1 ≤ significandLimit := by
  fun_induction absorb significand ds <;> simp_all

/-- A decimal cut down to a significand that fits a word, and a power of ten. -/
structure Scaled where
  significand : Nat
  power : Int
  fits : significand ≤ significandLimit
deriving DecidableEq, Repr

/-- The significand of a decimal fraction. A whole digit that does not fit counts in the power
instead; a fraction is cut off from the first of its digits that does not fit. -/
def Scaled.ofDigits (whole fraction : List Char) : Scaled :=
  let read := absorb 0 whole
  let all := absorb read.1 fraction
  { significand := all.1
    power := (read.2.length : Int) - ((fraction.length : Int) - all.2.length)
    fits := absorb_le (absorb_le (Nat.zero_le _) whole) fraction }

/-! ## Powers of ten -/

/-- The largest power of ten that is a double. -/
def largestPower : Nat :=
  308

/-- The double nearest to a power of ten. -/
def powerOfTen (exponent : Nat) : Float :=
  Float.ofScientific 1 false exponent

/-- Multiplies by a power of ten; `none` if the product is beyond the doubles. -/
def scaleUp? (x : Float) (exponent : Nat) : Option Float :=
  if exponent ≤ largestPower then
    let product := x * powerOfTen exponent
    if product.isInf then none else some product
  else if x == 0 then some x
  else none

/-- Divides by a power of ten, by the largest one as often as it is needed; zero is not divided any
further. -/
def scaleDown (x : Float) (exponent : Nat) : Float :=
  if exponent ≤ largestPower then x / powerOfTen exponent
  else if x == 0 then x
  else scaleDown (x / powerOfTen largestPower) (exponent - largestPower)
termination_by exponent
decreasing_by simp only [largestPower] at *; omega

/-- The significand as a word. -/
def Scaled.word (s : Scaled) : UInt64 :=
  UInt64.ofNatLT s.significand (Nat.lt_of_le_of_lt s.fits (by decide))

/-- The double for a significand and a power of ten; `none` if it is beyond the doubles. -/
def Scaled.toFloat? (s : Scaled) : Option Float :=
  let x := s.word.toFloat
  match s.power with
  | .ofNat exponent => scaleUp? x exponent
  | .negSucc exponent => some (scaleDown x (exponent + 1))

end CloudImages.Decimal
