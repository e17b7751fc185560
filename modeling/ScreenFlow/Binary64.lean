/-!
# Binary64 numbers

A finite binary64 number, held as its bits so that equality is decided and a negative zero differs
from zero. `ofDecimal` reads a scaled integer, `shortest` finds the fewest digits that read back,
and `text` writes them.
-/

namespace ScreenFlow

/-- A binary64 number by its bit pattern. -/
structure Binary64 where
  bits : UInt64
  deriving DecidableEq, Inhabited

namespace Binary64

/-! ## From decimal -/

/-- The largest power of ten below the range of binary64. -/
def maxScale : Nat := 308

/-- Scale `value` by `10 ^ exponent`, in steps of at most `10 ^ 308`; `none` when it overflows.
`steps` bounds the steps downwards: after three of them every number is zero. -/
def scale (value : Float) (exponent : Int) : (steps : Nat) → Option Float
  | 0 => some value
  | steps + 1 =>
    if exponent.natAbs ≤ maxScale then
      let power := Float.ofScientific 1 false exponent.natAbs
      if exponent < 0 then some (value / power)
      else
        let scaled := value * power
        if scaled.isInf then none else some scaled
    else if value == 0 then some value
    else if exponent ≥ 0 then none
    else scale (value / Float.ofScientific 1 false maxScale) (exponent + maxScale) steps

/-- The number of `± significand · 10 ^ exponent`: the significand is rounded, and then each scaling
step; `none` beyond the range. -/
def ofDecimal (negative : Bool) (significand : UInt64) (exponent : Int) : Option Binary64 :=
  (scale significand.toFloat exponent 8).map fun value =>
    ⟨(if negative then -value else value).toBits⟩

/-! ## Shortest decimal -/

/-- The sign bit. -/
def isNegative (number : Binary64) : Bool := number.bits >>> 63 == 1

/-- `mantissa` and `exponent` with the number's magnitude being `mantissa · 2 ^ exponent`. -/
def parts (number : Binary64) : Nat × Int :=
  let fraction : Nat := number.bits.toNat % Nat.pow 2 52
  let biased : Nat := number.bits.toNat / Nat.pow 2 52 % Nat.pow 2 11
  if biased = 0 then (fraction, -1074) else (fraction + Nat.pow 2 52, (biased : Int) - 1075)

/-- A fraction of naturals. -/
structure Ratio where
  num : Nat
  den : Nat

/-- `num · 2 ^ exponent`. -/
def Ratio.ofBinary (num : Nat) (exponent : Int) : Ratio :=
  ⟨num * Nat.pow 2 exponent.toNat, Nat.pow 2 (-exponent).toNat⟩

/-- The fraction times `10 ^ exponent`. -/
def Ratio.shift (ratio : Ratio) (exponent : Int) : Ratio :=
  ⟨ratio.num * Nat.pow 10 exponent.toNat, ratio.den * Nat.pow 10 (-exponent).toNat⟩

/-- The numbers that round to one binary64 number: the interval from `low` to `high` around `value`,
with its ends when `closed`. -/
structure Interval where
  low : Ratio
  value : Ratio
  high : Ratio
  closed : Bool

/-- The rounding interval of a positive number. The gap below a power of two is half as wide. -/
def interval (number : Binary64) : Interval :=
  let (mantissa, exponent) := number.parts
  let below := if mantissa = Nat.pow 2 52 ∧ exponent ≠ -1074 then 1 else 2
  { low := .ofBinary (4 * mantissa - below) (exponent - 2)
    value := .ofBinary (4 * mantissa) (exponent - 2)
    high := .ofBinary (4 * mantissa + 2) (exponent - 2)
    closed := mantissa % 2 == 0 }

/-- The place of the leading digit of a positive fraction: the greatest `place` with
`10 ^ place ≤ ratio`, looked for downwards from `place`. -/
def leadingPlace (ratio : Ratio) (place : Int) : (steps : Nat) → Int
  | 0 => place
  | steps + 1 =>
    let shifted := ratio.shift (-place)
    if shifted.den ≤ shifted.num then place else leadingPlace ratio (place - 1) steps

/-- The point of the grid of multiples of `10 ^ place` that rounds to the number, the nearer one of
two, the even one of two as near. -/
def Interval.onGrid (range : Interval) (place : Int) : Option Nat :=
  let value := range.value.shift (-place)
  let low := range.low.shift (-place)
  let high := range.high.shift (-place)
  let floor := value.num / value.den
  let floorFits :=
    if range.closed then low.num ≤ floor * low.den else low.num < floor * low.den
  let ceilFits :=
    if range.closed then (floor + 1) * high.den ≤ high.num else (floor + 1) * high.den < high.num
  let twice := 2 * (value.num % value.den)
  if floorFits ∧ ceilFits then
    if twice < value.den ∨ twice = value.den ∧ floor % 2 = 0 then some floor else some (floor + 1)
  else if floorFits then some floor
  else if ceilFits then some (floor + 1)
  else none

/-- The first grid, from the coarsest on, that has a point for the number. -/
def Interval.firstGrid (range : Interval) (place : Int) : (steps : Nat) → Nat × Int
  | 0 => (0, place)
  | steps + 1 =>
    match range.onGrid place with
    | some digits => (digits, place)
    | none => firstGrid range (place - 1) steps

/-- Drop trailing zeros of a digit string into its exponent. -/
def dropZeros (digits : Nat) (exponent : Int) : (steps : Nat) → Nat × Int
  | 0 => (digits, exponent)
  | steps + 1 =>
    if digits ≠ 0 ∧ digits % 10 = 0 then dropZeros (digits / 10) (exponent + 1) steps
    else (digits, exponent)

/-- The fewest decimal digits that read back as the magnitude, with the exponent of the last one. -/
def shortest (number : Binary64) : Nat × Int :=
  if number.parts.1 = 0 then (0, 0)
  else
    let range := number.interval
    let (digits, exponent) := range.firstGrid (leadingPlace range.value 309 700) 18
    dropZeros digits exponent 20

/-! ## Text -/

/-- Whether a leading digit at `place` is written without an exponent. -/
def isPositional (place : Int) : Bool := -5 ≤ place ∧ place ≤ 15

/-- The magnitude `digits · 10 ^ exponent` in text: positional for moderate sizes, and always with a
point or an exponent. -/
def layout (digits : Nat) (exponent : Int) : String :=
  let text := toString digits
  let place := exponent + text.length - 1
  if isPositional place then
    if 0 ≤ exponent then text ++ String.ofList (List.replicate exponent.toNat '0') ++ ".0"
    else if 0 ≤ place then
      String.ofList (text.toList.take (place + 1).toNat) ++ "." ++
        String.ofList (text.toList.drop (place + 1).toNat)
    else "0." ++ String.ofList (List.replicate (-place - 1).toNat '0') ++ text
  else
    let point := if text.length = 1 then "" else "."
    String.ofList (text.toList.take 1) ++ point ++ String.ofList (text.toList.drop 1) ++ "e" ++
      (if place < 0 then "-" else "+") ++ toString place.natAbs

/-- The shortest text that reads back. -/
def text (number : Binary64) : String :=
  let (digits, exponent) := number.shortest
  (if number.isNegative then "-" else "") ++ layout digits exponent

end Binary64

end ScreenFlow
