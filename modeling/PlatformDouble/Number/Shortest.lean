import PlatformDouble.Number.Binary64

namespace PlatformDouble.Number

/-!
# The shortest decimal of a floating-point number

A finite number is written with the fewest digits that read back as it, and of
those with the nearest; an exact tie goes to the even last digit.  The reals that
round to a number form an interval, so the digits are found by trying, for one,
two, up to seventeen digits, the number's two neighbours on that decimal grid.

How digits are laid out is a record of its own, `DecimalLayout`.
-/

open PlatformDouble.Text

/-- A decimal `digits * 10 ^ exponent`. -/
structure Decimal where
  digits : Nat
  exponent : Int
  deriving Repr, DecidableEq

/-- The exponent of the first decimal digit of a positive ratio. -/
def decimalOrder (numerator denominator : Nat) : Int :=
  let guess := (digitCount numerator : Int) - digitCount denominator
  let reached :=
    match guess with
    | .ofNat e => decide (denominator * tenTo e ≤ numerator)
    | .negSucc e => decide (denominator ≤ numerator * tenTo (e + 1))
  if reached then guess else guess - 1

/-- A positive number as a ratio, with the ends of the interval that rounds to it. -/
structure RoundingInterval where
  value : Nat
  low : Nat
  high : Nat
  unit : Nat
  closed : Bool

/--
The interval of a finite positive number: half a step each way, a quarter step
below a power of two.  All three points share the denominator `unit`; the ends
belong to the interval when the significand is even.
-/
def roundingInterval (significand : Nat) (exponent : Int) : RoundingInterval :=
  let narrow := decide (significand = twoTo 52) && decide (Binary64.leastExponent < exponent)
  let (scale, unit) :=
    match exponent with
    | .ofNat e => (twoTo e, 4)
    | .negSucc e => (1, 4 * twoTo (e + 1))
  { value := 4 * significand * scale
    low := (4 * significand - (if narrow then 1 else 2)) * scale
    high := (4 * significand + 2) * scale
    unit := unit
    closed := significand % 2 == 0 }

/-- Whether `digits * 10 ^ exponent` lies in an interval. -/
def RoundingInterval.covers (interval : RoundingInterval) (decimal : Decimal) : Bool :=
  let (point, scale) :=
    match decimal.exponent with
    | .ofNat e => (decimal.digits * interval.unit * tenTo e, 1)
    | .negSucc e => (decimal.digits * interval.unit, tenTo (e + 1))
  let low := interval.low * scale
  let high := interval.high * scale
  if interval.closed then
    decide (low ≤ point ∧ point ≤ high)
  else
    decide (low < point ∧ point < high)

/-- The nearest point of the grid of `10 ^ exponent` that lies in an interval. -/
def RoundingInterval.nearest? (interval : RoundingInterval) (exponent : Int) : Option Decimal :=
  let (numerator, denominator) :=
    match exponent with
    | .ofNat e => (interval.value, interval.unit * tenTo e)
    | .negSucc e => (interval.value * tenTo (e + 1), interval.unit)
  let below := numerator / denominator
  let preferred := roundRatio numerator denominator
  let other := if preferred = below then below + 1 else below
  ([preferred, other].map fun digits => Decimal.mk digits exponent).find? interval.covers

/-- Try ever finer grids, from a first exponent downwards. -/
def RoundingInterval.search (interval : RoundingInterval) : Nat → Int → Option Decimal
  | 0, _ => none
  | tries + 1, exponent =>
      match interval.nearest? exponent with
      | some decimal => some decimal
      | none => interval.search tries (exponent - 1)

/-- The decimal with the fewest digits that reads back as a positive finite number. -/
def shortestDecimal (significand : Nat) (exponent : Int) : Decimal :=
  let interval := roundingInterval significand exponent
  let order := decimalOrder interval.value interval.unit
  (interval.search 17 order).getD { digits := 0, exponent := 0 }

/-- How the digits of a number are laid out. -/
structure DecimalLayout where
  /-- The least exponent of the first digit that is written positionally. -/
  leastPositional : Int
  /-- The first exponent of the first digit that is no longer written positionally. -/
  firstScientific : Int
  /-- What follows the digits of a whole number. -/
  wholeEnding : String
  exponentMark : String
  /-- The least number of digits of the exponent. -/
  exponentDigits : Nat
  nanText : String
  infinityText : String

/--
Positional from `0.0001` to below ten to the sixteenth, with `.0` after whole
numbers; otherwise an exponent with a sign and at least two digits.
-/
def plainLayout : DecimalLayout where
  leastPositional := -4
  firstScientific := 16
  wholeEnding := ".0"
  exponentMark := "e"
  exponentDigits := 2
  nanText := "nan"
  infinityText := "inf"

/-- Digits without the zeros at their end. -/
def significantDigits (digits : Nat) : List Char :=
  trimEnd (· == '0') (decimalDigits digits)

/-- Digits with a point behind the first of them, unless there is only one. -/
def pointAfterFirst : List Char → String
  | [] => ""
  | [c] => String.ofList [c]
  | c :: rest => String.ofList (c :: '.' :: rest)

/-- Fill up with zeros on the left. -/
def padZeros (width : Nat) (cs : List Char) : List Char :=
  List.replicate (width - cs.length) '0' ++ cs

namespace DecimalLayout

/-- An exponent with its sign. -/
def exponentText (layout : DecimalLayout) (exponent : Int) : String :=
  let sign := if exponent < 0 then "-" else "+"
  layout.exponentMark ++ sign ++
    String.ofList (padZeros layout.exponentDigits (decimalDigits exponent.natAbs))

/-- Significant digits whose first one stands for `10 ^ order`, written positionally. -/
def positional (layout : DecimalLayout) (digits : List Char) : Int → String
  | .ofNat order =>
      let whole := digits.take (order + 1)
      let padded := whole ++ List.replicate (order + 1 - whole.length) '0'
      let fraction := digits.drop (order + 1)
      if fraction.isEmpty then
        String.ofList padded ++ layout.wholeEnding
      else
        String.ofList (padded ++ '.' :: fraction)
  | .negSucc order =>
      String.ofList ('0' :: '.' :: (List.replicate order '0' ++ digits))

/-- A positive decimal. -/
def decimalText (layout : DecimalLayout) (decimal : Decimal) : String :=
  let digits := significantDigits decimal.digits
  let order := decimal.exponent + digitCount decimal.digits - 1
  if layout.leastPositional ≤ order ∧ order < layout.firstScientific then
    layout.positional digits order
  else
    pointAfterFirst digits ++ layout.exponentText order

/-- The text of a floating-point number. -/
def text (layout : DecimalLayout) : Binary64 → String
  | .nan => layout.nanText
  | .infinite negative => (if negative then "-" else "") ++ layout.infinityText
  | .finite negative significand exponent =>
      (if negative then "-" else "") ++
        if significand = 0 then
          "0" ++ layout.wholeEnding
        else
          layout.decimalText (shortestDecimal significand exponent)

end DecimalLayout

/-- The text of a floating-point number in the plain layout. -/
def Binary64.text (x : Binary64) : String :=
  plainLayout.text x

end PlatformDouble.Number
