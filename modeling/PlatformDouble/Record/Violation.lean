import PlatformDouble.Value.Text

namespace PlatformDouble.Record

/-!
# Violations of a record's shape

A record is built from fields of any value.  Every field is checked, and all
violations are reported together, in the order of the record's fields, each with
the path to the offending place.  A field that takes a text from a value that has none
breaks the check off instead.
-/

/-- Why a value is refused at its place. -/
inductive ViolationCause where
  | missing
  | notText
  | notRecord (className : String)
  | frozen
  deriving Repr, DecidableEq

/-- A refused value and the path to it. -/
structure Violation where
  path : List String
  cause : ViolationCause
  deriving Repr, DecidableEq

namespace ViolationCause

def tag : ViolationCause → String
  | missing => "missing"
  | notText => "string_type"
  | notRecord _ => "model_type"
  | frozen => "frozen_instance"

/-- What is wrong, in words. -/
def message : ViolationCause → String
  | missing => "Field required"
  | notText => "Input should be a valid string"
  | notRecord className =>
      "Input should be a valid dictionary or instance of " ++ className
  | frozen => "Instance is frozen"

end ViolationCause

/-- Why a record is refused. -/
inductive Refusal where
  | violations (found : List Violation)
  /-- A value in the place of a text has no text. -/
  | unwritable
  deriving Repr, DecidableEq

/-- The outcome of a check: a checked value, or why it is refused. -/
abbrev Checked (α : Type) := Except Refusal α

/-- A violation seen from one record further out. -/
def Violation.under (name : String) (violation : Violation) : Violation :=
  { violation with path := name :: violation.path }

namespace Refusal

/-- A refusal seen from one record further out. -/
def under (name : String) : Refusal → Refusal
  | violations found => violations (found.map (Violation.under name))
  | unwritable => unwritable

/-- What two refusals come to: all their violations, unless the check was broken off. -/
def join : Refusal → Refusal → Refusal
  | violations first, violations second => violations (first ++ second)
  | _, _ => unwritable

end Refusal

namespace Checked

/-- A single violation right here. -/
def violated {α : Type} (cause : ViolationCause) : Checked α :=
  .error (.violations [{ path := [], cause := cause }])

/-- Put the name of a field in front of the violations found in it. -/
def under {α : Type} (name : String) : Checked α → Checked α
  | .ok value => .ok value
  | .error refusal => .error (refusal.under name)

/-- Two checks at once; the violations of both are kept, the first ones in front. -/
def both {α β : Type} : Checked α → Checked β → Checked (α × β)
  | .ok a, .ok b => .ok (a, b)
  | .error refusal, .ok _ => .error refusal
  | .ok _, .error refusal => .error refusal
  | .error first, .error second => .error (first.join second)

/-- A text: a text itself, the text of a platform constant, or what a member carries. -/
def text : Value → Checked String
  | .text s => .ok s
  | .constant c => .ok c.value
  | .member _ _ carried =>
      if carried.isDisplayable then .ok carried.display else .error .unwritable
  | _ => violated .notText

def nullable {α : Type} (check : Value → Checked α) : Value → Checked (Option α)
  | .null => .ok none
  | value => (check value).map some

def required {α : Type}
    (fields : List (String × Value))
    (name : String)
    (check : Value → Checked α) :
    Checked α :=
  under name <|
    match Value.fieldOf? name fields with
    | some value => check value
    | none => violated .missing

/-- A field with a value of its own where it is left out. -/
def withDefault {α : Type}
    (fields : List (String × Value))
    (name : String)
    (default : α)
    (check : Value → Checked α) :
    Checked α :=
  under name <|
    match Value.fieldOf? name fields with
    | some value => check value
    | none => .ok default

/-- A field that holds a record of its own. -/
def nested {α : Type}
    (className : String)
    (check : List (String × Value) → Checked α) :
    Value → Checked α
  | .object fields => check fields
  | _ => violated (.notRecord className)

end Checked

/--
What takes a text from a value, wherever a record holds one.  Records rely on no more than
that a text is taken as it is, a platform constant as its plain text and any other member
of an enumeration as the text of what it carries, while null is no text.  Whether a number
is taken is up to the validator.
-/
class Validator where
  text : Value → Checked String
  text_text (s : String) : text (.text s) = .ok s
  text_constant (c : PlatformConstant) : text (.constant c) = .ok c.value
  text_member (family label : String) (carried : Value) :
    text (.member family label carried) =
      if carried.isDisplayable then .ok carried.display else .error .unwritable
  text_null : text .null = Checked.violated .notText

attribute [simp] Validator.text_text Validator.text_constant Validator.text_member
  Validator.text_null

/-- The validator that takes no number for a text. -/
instance Validator.standard : Validator where
  text := Checked.text
  text_text _ := rfl
  text_constant _ := rfl
  text_member _ _ _ := rfl
  text_null := rfl

end PlatformDouble.Record
