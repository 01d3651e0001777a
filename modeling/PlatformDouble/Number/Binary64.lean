import PlatformDouble.Number.Numeral

namespace PlatformDouble.Number

/-!
# Binary floating-point numbers of 64 bits

A finite number is a significand below `2 ^ 53` times a power of two not below
`2 ^ (-1074)`, in the one normal form in which the significand is at least
`2 ^ 52` unless the exponent is least.  Numbers are made by rounding a ratio of
naturals, half to even, all in exact integer arithmetic.
-/

open PlatformDouble.Text

/-- A binary floating-point number of 64 bits. -/
inductive Binary64 where
  | nan
  | infinite (negative : Bool)
  | finite (negative : Bool) (significand : Nat) (exponent : Int)
  deriving Repr, DecidableEq

/-- A power of two. -/
def twoTo (exponent : Nat) : Nat := Nat.pow 2 exponent

/-- A power of ten. -/
def tenTo (exponent : Nat) : Nat := Nat.pow 10 exponent

/-- The quotient nearest to a ratio; a half goes to the even neighbour. -/
def roundRatio (numerator denominator : Nat) : Nat :=
  let quotient := numerator / denominator
  let rest := 2 * (numerator % denominator)
  if rest < denominator then quotient
  else if denominator < rest then quotient + 1
  else if quotient % 2 = 0 then quotient
  else quotient + 1

/-- A ratio divided by a power of two, as numerator and denominator. -/
def scaleDown (numerator denominator : Nat) (exponent : Int) : Nat × Nat :=
  match exponent with
  | .ofNat e => (numerator, denominator * twoTo e)
  | .negSucc e => (numerator * twoTo (e + 1), denominator)

namespace Binary64

/-- The least exponent of a finite number. -/
def leastExponent : Int := -1074

/-- The greatest exponent of a finite number. -/
def greatestExponent : Int := 971

/-- Zero with a sign. -/
def zero (negative : Bool) : Binary64 :=
  .finite negative 0 leastExponent

/-- The exponent in which a positive ratio has a significand of 53 bits, or the least one. -/
def exponentFor (numerator denominator : Nat) : Int :=
  let guess := (numerator.log2 : Int) - denominator.log2 - 52
  let (scaledNumerator, scaledDenominator) := scaleDown numerator denominator guess
  let exact := if scaledNumerator < scaledDenominator * twoTo 52 then guess - 1 else guess
  max exact leastExponent

/-- The number nearest to a ratio, with the sign of a flag. -/
def ofRatio (negative : Bool) (numerator denominator : Nat) : Binary64 :=
  if numerator = 0 then
    zero negative
  else
    let exponent := exponentFor numerator denominator
    let (scaledNumerator, scaledDenominator) := scaleDown numerator denominator exponent
    let rounded := roundRatio scaledNumerator scaledDenominator
    let (significand, exponent) :=
      if rounded = twoTo 53 then (twoTo 52, exponent + 1) else (rounded, exponent)
    if greatestExponent < exponent then
      .infinite negative
    else
      .finite negative significand exponent

/-- The number nearest to `digits * 10 ^ exponent`; far outside the range no power is formed. -/
def ofDecimal (negative : Bool) (digits : Nat) (exponent : Int) : Binary64 :=
  let magnitude := exponent + digitCount digits
  if digits = 0 ∨ magnitude < -400 then
    zero negative
  else if 400 < magnitude then
    .infinite negative
  else
    match exponent with
    | .ofNat e => ofRatio negative (digits * tenTo e) 1
    | .negSucc e => ofRatio negative digits (tenTo (e + 1))

/-- The digits of a part of a numeral that may be left out. -/
def partDigits? (cs : List Char) : Option (List Nat) :=
  if cs.isEmpty then some [] else digitValues? cs

/-- The exponent part of a numeral, behind its mark. -/
def readExponent? (cs : List Char) : Option Int :=
  let (negative, digits) := splitSign cs
  (digitValues? digits).map fun values => withSign negative (ofDigitValues values)

/-- The number a numeral without sign denotes. -/
def readUnsigned? (negative : Bool) (cs : List Char) : Option Binary64 :=
  let isMark (c : Char) : Bool := c == 'e' || c == 'E'
  let mantissa := cs.takeWhile fun c => !isMark c
  let whole := mantissa.takeWhile (· != '.')
  let fraction := (mantissa.dropWhile (· != '.')).drop 1
  let exponent? :=
    match cs.dropWhile fun c => !isMark c with
    | [] => some 0
    | _ :: rest => readExponent? rest
  match partDigits? whole, partDigits? fraction, exponent? with
  | some wholeDigits, some fractionDigits, some exponent =>
      if wholeDigits.isEmpty && fractionDigits.isEmpty then
        none
      else
        some (ofDecimal negative (ofDigitValues (wholeDigits ++ fractionDigits))
          (exponent - fractionDigits.length))
  | _, _, _ => none

/-- The number that a numeral, `inf`, `infinity` or `nan` denotes, with blanks around it. -/
def read? (text : String) : Option Binary64 :=
  let (negative, cs) := splitSign (trim isNumeralBlank text.toList)
  let word := String.ofList (cs.map Char.toLower)
  if word = "inf" ∨ word = "infinity" then some (.infinite negative)
  else if word = "nan" then some .nan
  else readUnsigned? negative cs

/-- Whether a number is zero of either sign. -/
def isZero : Binary64 → Bool
  | .finite _ significand _ => significand == 0
  | _ => false

/-- A natural number times a power of two, without its fraction. -/
def truncateScaled (significand : Nat) : Int → Nat
  | .ofNat e => significand * twoTo e
  | .negSucc e => significand / twoTo (e + 1)

/-- The integer between zero and a finite number that is nearest to it. -/
def truncate? : Binary64 → Option Int
  | .finite negative significand exponent =>
      some (withSign negative (truncateScaled significand exponent))
  | _ => none

/-- Whether a finite number has no fraction. -/
def isWhole (significand : Nat) : Int → Bool
  | .ofNat _ => true
  | .negSucc e => significand % twoTo (e + 1) == 0

/-- Whether a number is exactly an integer. -/
def equalsInt (x : Binary64) (i : Int) : Bool :=
  match x with
  | .finite _ significand exponent =>
      isWhole significand exponent && x.truncate? == some i
  | _ => false

/-- Numeric equality: the zeros are equal, and `nan` equals nothing. -/
def equals (x y : Binary64) : Bool :=
  match x, y with
  | .nan, _ => false
  | .finite _ 0 _, .finite _ 0 _ => true
  | x, y => x == y

end Binary64

end PlatformDouble.Number
