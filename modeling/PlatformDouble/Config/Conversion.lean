import PlatformDouble.Config.Field
import PlatformDouble.Text.Uppercase
import PlatformDouble.Value.Text

namespace PlatformDouble.Config

/-!
# Conversion to the type of a setting

A raw value is converted to the type of its field: to an integer, to a truth
value, to one of the options, or to a text.  What cannot be converted is refused, as is
a value without a text where a text is needed.  An infinite number is a third case, for
it has no integer and is not refused either.
-/

/-- What comes of reading a value as an integer. -/
inductive IntegerReading where
  | integer (number : Int)
  | unreadable
  | infinite
  deriving Repr, DecidableEq

/-- Read a value as an integer; a number loses its fraction, a text has to be a numeral. -/
def IntegerReading.ofValue : Value → IntegerReading
  | .bool b => .integer b.toNat
  | .int i => .integer i
  | .float (.infinite _) => .infinite
  | .float x =>
      match x.truncate? with
      | some i => .integer i
      | none => .unreadable
  | .text s => ofNumeral s
  | .constant c => ofNumeral c.value
  | _ => .unreadable
where
  ofNumeral (s : String) : IntegerReading :=
    match Number.readInteger? s with
    | some i => .integer i
    | none => .unreadable

/-- What comes of converting a value to the type of a setting. -/
inductive Conversion where
  | converted (value : Value)
  | refused
  | infinite

def trueWords : List String := ["true", "1", "yes", "on"]

/--
Whether a text is one of the words for true, in any case.  Lower-casing ASCII is
enough, for no other letter has one of these letters as its lower case.
-/
def isTrueWord (s : String) : Bool :=
  trueWords.contains (String.ofList (s.toList.map Char.toLower))

/-- The first option that equals a text up to case. -/
def matchingOption? (options : List String) (s : String) : Option String :=
  options.find? fun option => Text.uppercase s == Text.uppercase option

namespace Field

/-- Convert a value that is not null to the type of a field. -/
def convertPresent (field : Field) (value : Value) : Conversion :=
  match field.type with
  | .integer =>
      match IntegerReading.ofValue value with
      | .integer i => .converted (.int i)
      | .unreadable => .refused
      | .infinite => .infinite
  | .boolean =>
      match value with
      | .bool b => .converted (.bool b)
      | value =>
          if value.isDisplayable then
            .converted (.bool (isTrueWord value.display))
          else
            .refused
  | .text =>
      if !value.isDisplayable then
        .refused
      else if field.choices.isEmpty then
        .converted (.text value.display)
      else
        match matchingOption? field.choices value.display with
        | some option => .converted (.text option)
        | none => .refused

/-- Convert a value to the type of a field; null stays null. -/
def convert (field : Field) (value : Value) : Conversion :=
  match value with
  | .null => .converted .null
  | value => field.convertPresent value

end Field

end PlatformDouble.Config
