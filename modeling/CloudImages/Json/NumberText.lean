import CloudImages.Decimal.Scaling
import CloudImages.Decimal.Shortest
import CloudImages.Json.Value

set_option autoImplicit false

/-! # The text of a number

A number of a document is a sign, whole digits, and perhaps a fraction and an exponent. `NumberText`
holds these parts. `toNumber?` reads them as a number and `ofNumber?` chooses them for one; integers
are read back as they were (`toNumber?_ofInteger`). -/

namespace CloudImages.Json

/-- The parts of a number as it is written. -/
structure NumberText where
  negative : Bool
  /-- The digits before the point, one at least. -/
  whole : List Char
  /-- The digits after the point; no point is written when there are none. -/
  fraction : List Char
  /-- Whether the exponent is negative, and its digits. -/
  exponent : Option (Bool × List Char)
deriving DecidableEq, Repr

namespace NumberText

/-- The characters of a number. -/
def text (t : NumberText) : List Char :=
  (if t.negative then ['-'] else []) ++ t.whole ++
    (if t.fraction = [] then [] else '.' :: t.fraction) ++
    match t.exponent with
    | none => []
    | some (negative, digits) => 'e' :: (if negative then '-' else '+') :: digits

/-! ## Reading -/

/-- The integer of a number written without fraction and exponent. Minus zero is none: its sign
would be lost. -/
def toInt? (t : NumberText) : Option Int :=
  let n := Text.digitsValue t.whole
  if t.fraction ≠ [] ∨ t.exponent ≠ none then none
  else if t.negative then if n = 0 then none else some (-(n : Int))
  else some n

/-- The greatest exponent that is taken at its word. -/
def greatestExponent : Nat :=
  2147483647

/-- The magnitude of a number read as a double; `none` if it is beyond the doubles. An exponent past
`greatestExponent` gives zero if it is negative or if the digits before it are zeros. -/
def magnitude? (t : NumberText) : Option Float :=
  let scaled := Decimal.Scaled.ofDigits t.whole t.fraction
  match t.exponent with
  | none => scaled.toFloat?
  | some (negative, digits) =>
    let n := Text.digitsValue digits
    if n ≤ greatestExponent then
      { scaled with power := if negative then scaled.power - n else scaled.power + n }.toFloat?
    else if negative ∨ scaled.significand = 0 then some 0
    else none

/-- The number that is written: an integer if it has neither fraction nor exponent and can be kept
exactly, else a double. `none` if it is beyond the doubles. -/
def toNumber? (t : NumberText) : Option Number :=
  match t.toInt?.bind Number.ofInt? with
  | some n => some n
  | none => t.magnitude?.map fun x => .double (if t.negative then -x else x)

/-! ## Writing -/

/-- The text of an integer. -/
def ofInt (n : Int) : NumberText :=
  { negative := n < 0, whole := Text.digits n.natAbs, fraction := [], exponent := none }

/-- Which powers of ten of the leading digit are written without an exponent. -/
structure Layout where
  least : Int
  greatest : Int

/-- Doubles from `0.00001` up to below `1e+16` are written without an exponent. -/
def layout : Layout := ⟨-5, 15⟩

/-- Writes `d.ddd × 10 ^ exponent` without an exponent; there is always a point with a digit after
it. -/
def positional (negative : Bool) (digits : List Char) (exponent : Int) : NumberText :=
  let (whole, fraction) :=
    match exponent with
    | .ofNat shift =>
      (digits.take (shift + 1) ++ List.replicate (shift + 1 - digits.length) '0',
        digits.drop (shift + 1))
    | .negSucc shift => (['0'], List.replicate shift '0' ++ digits)
  { negative, whole, fraction := if fraction = [] then ['0'] else fraction, exponent := none }

/-- Writes `d.ddd × 10 ^ exponent` with its exponent; a single digit has no point after it. -/
def exponential (negative : Bool) (digits : List Char) (exponent : Int) : NumberText :=
  { negative
    whole := digits.take 1
    fraction := digits.drop 1
    exponent := some (exponent < 0, Text.digits exponent.natAbs) }

/-- The text of a finite double: its shortest digits. -/
def ofFloat? (x : Float) : Option NumberText :=
  (Decimal.Binary.ofFloat? x).map fun binary =>
    let negative := Decimal.isNegative x
    if binary.significand = 0 then positional negative ['0'] 0
    else
      let decimal := Decimal.shortest binary
      if layout.least ≤ decimal.exponent ∧ decimal.exponent ≤ layout.greatest then
        positional negative decimal.digits decimal.exponent
      else exponential negative decimal.digits decimal.exponent

/-- The text of a number; `none` for a double that is not finite. -/
def ofNumber? : Number → Option NumberText
  | .integer n => some (ofInt n.val)
  | .double x => ofFloat? x

/-! ## What is written is read back -/

theorem toInt?_ofInt (n : Int) : (ofInt n).toInt? = some n := by
  have size : Text.digitsValue (Text.digits n.natAbs) = n.natAbs := Text.digitsValue_digits _
  simp only [toInt?, ofInt, size]
  by_cases negative : n < 0
  · rw [if_neg (by simp), if_pos (by simpa using negative), if_neg (by omega)]
    congr 1
    omega
  · rw [if_neg (by simp), if_neg (by simpa using negative)]
    congr 1
    omega

theorem toNumber?_ofInteger (n : Integer) : (ofInt n.val).toNumber? = some (.integer n) := by
  have inRange : Number.ofInt? n.val = some (.integer n) := by
    rw [Number.ofInt?, dif_pos n.property]
  simp [toNumber?, toInt?_ofInt, inRange]

example : ((ofFloat? 0.00001).map text, (ofFloat? 1e15).map text, (ofFloat? (-0.0)).map text)
    = (some "0.00001".toList, some "1000000000000000.0".toList, some "-0.0".toList) := by
  decide +kernel

example : ((ofFloat? 1e16).map text, (ofFloat? 1.5e-7).map text, (ofFloat? 5e-324).map text)
    = (some "1e+16".toList, some "1.5e-7".toList, some "5e-324".toList) := by
  decide +kernel

end NumberText

end CloudImages.Json
