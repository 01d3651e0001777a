import PlatformDouble.Fault

namespace PlatformDouble

/-!
# Action keys

A service is listed under an action, and an action is any value that can be a
key.  A member of an enumeration counts as the text of what it carries, if that has one.  Keys are
compared as values are: truth values and numbers by number, so that one, true and
a floating one are the same key; nothing is the same as a number that is not one.
-/

/-- A value under which services are listed. -/
inductive ActionKey where
  | absent
  | truth (b : Bool)
  | integer (i : Int)
  | float (x : Number.Binary64)
  | text (s : String)
  deriving Repr

namespace ActionKey

/-- The key of an action; a list, an object or a member without a text has none. -/
def ofValue : Value → Except Fault ActionKey
  | .null => .ok absent
  | .bool b => .ok (truth b)
  | .int i => .ok (integer i)
  | .float x => .ok (float x)
  | .text s => .ok (text s)
  | .constant c => .ok (text c.value)
  | .member _ _ carried =>
      if carried.isDisplayable then .ok (text carried.display) else .error .numeralTooLong
  | .list _ => .error (.unusableKey .list)
  | .object _ => .error (.unusableKey .object)

/-- The value a key shows itself as. -/
def toValue : ActionKey → Value
  | absent => .null
  | truth b => .bool b
  | integer i => .int i
  | float x => .float x
  | text s => .text s

/-- The text of a key, which has to have one. -/
def display (key : ActionKey) : String :=
  key.toValue.display

/-- Whether a key has a text, as an integer has not whose numeral is too long. -/
def isDisplayable (key : ActionKey) : Bool :=
  key.toValue.isDisplayable

/-- The integer that a truth value or an integer is. -/
def asInteger? : ActionKey → Option Int
  | truth b => some b.toNat
  | integer i => some i
  | _ => none

/-- Whether two keys are the same. -/
def same : ActionKey → ActionKey → Bool
  | absent, absent => true
  | text s, text t => s == t
  | float x, float y => x.equals y
  | float x, key | key, float x =>
      match key.asInteger? with
      | some i => x.equalsInt i
      | none => false
  | first, second =>
      match first.asInteger?, second.asInteger? with
      | some i, some j => i == j
      | _, _ => false

instance : BEq ActionKey := ⟨same⟩

/-- Texts are the same key exactly when they are the same text. -/
@[simp] theorem text_beq_text (s t : String) :
    (text s == text t) = (s == t) :=
  rfl

end ActionKey

end PlatformDouble
