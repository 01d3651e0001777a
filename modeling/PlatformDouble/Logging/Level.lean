import PlatformDouble.Fault
import PlatformDouble.Text.Uppercase

namespace PlatformDouble.Logging

/-!
# Log levels

A level is an integer rank, or a truth value that counts as the rank one or zero;
five ranks have names of their own.  A level to be set may also be given as a
word, in any case.

The name of any other rank has the rank's numeral in it.  Ranks at which records are
written are taken to be short enough for that.
-/

/-- A level as it was given: a rank, or a truth value in the place of one. -/
inductive Level where
  | number (rank : Int)
  | truth (b : Bool)
  deriving Repr, DecidableEq

namespace Level

def rank : Level → Int
  | number i => i
  | truth b => b.toNat

/-- The value a level shows itself as. -/
def toValue : Level → Value
  | number i => .int i
  | truth b => .bool b

/-- The level a value is, if it is an integer or a truth value. -/
def ofValue? : Value → Option Level
  | .int i => some (number i)
  | .bool b => some (truth b)
  | _ => none

end Level

/-- The level of a logger that was given none. -/
def unsetLevel : Level := .number 0

/-- The level from which records are written where no level is set at all. -/
def fallbackLevel : Level := .number 30

def rootLevel : Level := .number 20

/-- A rank together with the name under which it is written. -/
structure Severity where
  rank : Int
  name : String
  deriving Repr, DecidableEq

namespace Severity

/-- Details of what is done. -/
def debug : Severity := ⟨10, "DEBUG"⟩

/-- What is done. -/
def info : Severity := ⟨20, "INFO"⟩

/-- Something that was refused or ignored. -/
def warning : Severity := ⟨30, "WARNING"⟩

/-- A failure. -/
def error : Severity := ⟨40, "ERROR"⟩

/-- A failure after which nothing can go on. -/
def critical : Severity := ⟨50, "CRITICAL"⟩

def named : List Severity :=
  [⟨0, "NOTSET"⟩, debug, info, warning, error, critical]

def ofLevel (level : Level) : Severity :=
  (named.find? fun severity => severity.rank == level.rank).getD
    ⟨level.rank, "Level " ++ level.toValue.display⟩

/-- The severity a value stands for, if it is a level. -/
def ofValue? (value : Value) : Option Severity :=
  (Level.ofValue? value).map ofLevel

end Severity

/-- The words for a level, with their ranks. -/
def levelWords : List (String × Int) :=
  [("CRITICAL", 50), ("FATAL", 50), ("ERROR", 40), ("WARN", 30), ("WARNING", 30),
    ("INFO", 20), ("DEBUG", 10), ("NOTSET", 0)]

/-- What a value asks for when it is given as a level. -/
inductive LevelChoice where
  /-- A level to be set. -/
  | level (level : Level)
  /-- A word that names no level. -/
  | unknownWord (shown : String)
  deriving Repr, DecidableEq

namespace LevelChoice

/-- Read a word as a level; case does not matter. -/
def ofWord (word shown : String) : LevelChoice :=
  match levelWords.lookup (Text.uppercase word) with
  | some rank => .level (.number rank)
  | none => .unknownWord shown

/-- The fault of a value that is neither a level nor a text: it is shown, if it can be. -/
def refusal (value : Value) : Fault :=
  if value.isShowable then .unreadableLevel value.shown else .numeralTooLong

/-- Read a value as a level; what is neither a level nor a text is a fault. -/
def ofValue (value : Value) : Except Fault LevelChoice :=
  match value.plainText?, Level.ofValue? value with
  | some word, _ => .ok (ofWord word value.shown)
  | none, some found => .ok (.level found)
  | none, none => .error (refusal value)

end LevelChoice

end PlatformDouble.Logging
