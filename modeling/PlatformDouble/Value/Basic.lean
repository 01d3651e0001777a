import PlatformDouble.Number.Binary64
import PlatformDouble.Platform

namespace PlatformDouble

/-!
# Values

What a test may hand to the double where no type is fixed: plain data, a constant
of the platform, or a member of some enumeration the double knows nothing about.
Such a member has the names of its family and of itself, and carries a value of its
own.
-/

/-- A value of no fixed type. -/
inductive Value where
  | null
  | bool (b : Bool)
  | int (i : Int)
  | float (x : Number.Binary64)
  | text (s : String)
  | list (items : List Value)
  | object (fields : List (String × Value))
  | constant (c : PlatformConstant)
  | member (family label : String) (carried : Value)
  deriving Repr, Inhabited

namespace Value

/-- A text, or null for none. -/
def ofText? : Option String → Value
  | some s => .text s
  | none => .null

/-- The text a value is: a text itself or the plain text of a platform constant. -/
def plainText? : Value → Option String
  | text s => some s
  | constant c => some c.value
  | _ => none

def isUnset : Value → Bool
  | null => true
  | text s => s.isEmpty
  | _ => false

/-- Whether a value counts as true: everything but null, false, zeros and empty things. -/
def isTruthy : Value → Bool
  | null => false
  | bool b => b
  | int i => i != 0
  | float x => !x.isZero
  | text s => !s.isEmpty
  | list items => !items.isEmpty
  | object fields => !fields.isEmpty
  | constant _ => true
  | member _ _ _ => true

def fieldOf? (name : String) (fields : List (String × Value)) : Option Value :=
  fields.lookup name

end Value

end PlatformDouble
