import PlatformDouble.Value.Basic
import PlatformDouble.Number.Shortest
import PlatformDouble.Text.Quoted

namespace PlatformDouble

/-!
# Texts of values

A value has two texts.  `Value.shown` is unambiguous: texts are quoted and
enumeration members stand in angle brackets with what they carry.
`Value.display` is for reading: a text is itself and a member is its name.  They
differ only at the top, for what is inside a list or an object is always shown.

An integer whose numeral would be too long has no text, and neither has anything with
such an integer in it.  `Value.isShowable` and `Value.isDisplayable` tell which values
have a text of each kind, and only these may be shown or displayed.
-/

namespace Value

/-- The word for a truth value. -/
def boolWord (b : Bool) : String :=
  if b then "True" else "False"

/-- The name of a member of an enumeration, behind that of its family. -/
def memberName (family label : String) : String :=
  family ++ "." ++ label

/-- A member of an enumeration with what it carries. -/
def bracketed (label shownValue : String) : String :=
  "<" ++ label ++ ": " ++ shownValue ++ ">"

mutual

def shown : Value → String
  | null => "None"
  | bool b => boolWord b
  | int i => Number.integerText i
  | float x => x.text
  | text s => Text.quoted s
  | list items => "[" ++ ", ".intercalate (shownItems items) ++ "]"
  | object fields => "\x7b" ++ ", ".intercalate (shownFields fields) ++ "\x7d"
  | constant c => bracketed c.label (Text.quoted c.value)
  | member family label carried => bracketed (memberName family label) (shown carried)

/-- The unambiguous texts of the items of a list. -/
def shownItems : List Value → List String
  | [] => []
  | item :: rest => shown item :: shownItems rest

/-- The unambiguous texts of the fields of an object. -/
def shownFields : List (String × Value) → List String
  | [] => []
  | (name, value) :: rest => (Text.quoted name ++ ": " ++ shown value) :: shownFields rest

end

def display : Value → String
  | text s => s
  | constant c => c.label
  | member family label _ => memberName family label
  | value => shown value

mutual

/-- Whether no integer in a value has too long a numeral. -/
def isShowable : Value → Bool
  | int i => Number.isWritable i
  | list items => areItemsShowable items
  | object fields => areFieldsShowable fields
  | member _ _ carried => isShowable carried
  | _ => true

def areItemsShowable : List Value → Bool
  | [] => true
  | item :: rest => isShowable item && areItemsShowable rest

def areFieldsShowable : List (String × Value) → Bool
  | [] => true
  | (_, value) :: rest => isShowable value && areFieldsShowable rest

end

/-- Whether a value can be displayed; a member can, whatever it carries. -/
def isDisplayable : Value → Bool
  | member _ _ _ => true
  | value => value.isShowable

/-- A value that cannot be displayed cannot be shown either. -/
theorem isDisplayable_of_isShowable
    {value : Value}
    (showable : value.isShowable = true) :
    value.isDisplayable = true := by
  cases value with
  | member _ _ _ =>
      rfl
  | _ =>
      exact showable

def typeWord : Value → String
  | null => "NoneType"
  | bool _ => "bool"
  | int _ => "int"
  | float _ => "float"
  | text _ => "str"
  | list _ => "list"
  | object _ => "dict"
  | constant c => c.family
  | member family _ _ => family

def shownTexts (texts : List String) : String :=
  shown (.list (texts.map Value.text))

end Value

end PlatformDouble
