import PlatformDouble.Text.Blank
import PlatformDouble.Text.DecimalDigit

namespace PlatformDouble.Number

/-!
# Decimal numerals of integers

`integerText` is an integer without leading zeros.  `readInteger?` reads more
than is ever written: whitespace around the numeral, one sign, leading zeros,
digits of any script, and single underscores between digits.  A numeral of more
than `digitLimit` digits is refused, and so is an integer that would need one.
-/

open PlatformDouble.Text

/-- The decimal digits of a number, most significant first. -/
def decimalDigits (n : Nat) : List Char :=
  if n < 10 then
    [asciiDigit n]
  else
    decimalDigits (n / 10) ++ [asciiDigit (n % 10)]
termination_by n

/-- How many decimal digits a number has. -/
def digitCount (n : Nat) : Nat :=
  (decimalDigits n).length

/-- The decimal numeral of a natural number. -/
def naturalText (n : Nat) : String :=
  String.ofList (decimalDigits n)

/-- The decimal numeral of an integer, with a minus sign below zero. -/
def integerText : Int → String
  | .ofNat n => naturalText n
  | .negSucc n => String.ofList ('-' :: decimalDigits (n + 1))

/-- The most digits a numeral may have; leading zeros count, underscores do not. -/
def digitLimit : Nat := 4300

/-- Whether an integer can be written, for its numeral must not have too many digits. -/
def isWritable (i : Int) : Bool :=
  decide (digitCount i.natAbs ≤ digitLimit)

/-- The values of one or more digits, with single underscores allowed between them. -/
def digitValues? : List Char → Option (List Nat)
  | [] => none
  | [c] => (decimalDigit? c).map ([·])
  | c :: '_' :: rest =>
      match decimalDigit? c, digitValues? rest with
      | some value, some values => some (value :: values)
      | _, _ => none
  | c :: rest =>
      match decimalDigit? c, digitValues? rest with
      | some value, some values => some (value :: values)
      | _, _ => none

/-- The number that digit values spell in base ten. -/
def ofDigitValues (values : List Nat) : Nat :=
  values.foldl (fun number value => 10 * number + value) 0

/-- Split a leading sign off; the flag says whether it is a minus sign. -/
def splitSign : List Char → Bool × List Char
  | '-' :: rest => (true, rest)
  | '+' :: rest => (false, rest)
  | cs => (false, cs)

/-- A natural number with the sign of a flag. -/
def withSign (negative : Bool) (n : Nat) : Int :=
  if negative then -(n : Int) else n

/-- The integer a numeral denotes, if it is a numeral. -/
def readInteger? (text : String) : Option Int :=
  let (negative, digits) := splitSign (trim isNumeralBlank text.toList)
  match digitValues? digits with
  | some values =>
      if values.length ≤ digitLimit then
        some (withSign negative (ofDigitValues values))
      else
        none
  | none => none

end PlatformDouble.Number
