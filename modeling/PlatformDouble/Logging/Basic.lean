import PlatformDouble.Logging.Hierarchy
import PlatformDouble.Logging.Level
import PlatformDouble.Table
import PlatformDouble.Traced

namespace PlatformDouble

/-!
# Logging

A logger at rank zero takes the nearest level above it that is not at rank zero.
A record is written when its rank is positive and reaches that of the logger's
effective level, and only while the root has a handler.

Whether a logger writes at a rank is decided at its first record there.  The
decision stands until a level is set anywhere, even if a logger that comes to be
known meanwhile stands between it and those above.

Computations do not touch this state: they emit `LogAction`s, and the state
`Logging` takes the actions of a trace one after another.
-/

/-- Something a computation asks of logging. -/
inductive LogAction where
  /-- Ask for a logger, which is known from then on. -/
  | mention (logger : String)
  /-- Write a record. -/
  | record (logger : String) (severity : Logging.Severity) (message : String)
  | setLevel (logger : String) (level : Logging.Level)
  /-- Configure the root anew, with or without dropping its handlers first. -/
  | reconfigure (configured dropHandlers : Bool)
  deriving Repr, DecidableEq

/-- The state of logging. -/
structure Logging where
  /-- The known loggers with their own levels. -/
  levels : Table String Logging.Level
  /-- Whether a logger writes at a rank, where that has been decided. -/
  decisions : Table (String × Int) Bool
  /-- Whether the root has its handler. -/
  hasHandler : Bool
  /-- Whether the root counts as configured. -/
  configured : Bool
  deriving Repr, DecidableEq

namespace Logging

/--
Logging at the start: the root at its first level, with a handler, and the logger
of the gate without a name, which puts the root above all names that begin with a
dot.
-/
def initial : Logging where
  levels := (Table.empty.insert rootLogger rootLevel).insert (gateLogger "") unsetLevel
  decisions := Table.empty
  hasHandler := true
  configured := true

def isKnown (logging : Logging) (logger : String) : Bool :=
  logging.levels.contains logger

/-- The level a logger was given, or rank zero. -/
def ownLevel (logging : Logging) (logger : String) : Level :=
  (logging.levels.get? logger).getD unsetLevel

/-- A logger and the loggers above it, nearest first. -/
def ancestry (logging : Logging) (logger : String) : List String :=
  logger :: loggersAbove logging.isKnown logger

/-- The nearest level, of a logger and those above it, that is not at rank zero. -/
def effectiveLevel (logging : Logging) (logger : String) : Level :=
  (((logging.ancestry logger).map logging.ownLevel).find? (·.rank != 0)).getD fallbackLevel

/-- Whether a rank is positive and reaches the effective level of a logger. -/
def reaches (logging : Logging) (logger : String) (rank : Int) : Bool :=
  decide (0 < rank) && decide ((logging.effectiveLevel logger).rank ≤ rank)

/-- Whether a logger writes at a rank: as decided before, or else by its level. -/
def admits (logging : Logging) (logger : String) (rank : Int) : Bool :=
  (logging.decisions.get? (logger, rank)).getD (logging.reaches logger rank)

/-- Whether a record of a severity is written by a logger. -/
def writes (logging : Logging) (logger : String) (severity : Severity) : Bool :=
  logging.hasHandler && logging.admits logger severity.rank

def recordLine (logger : String) (severity : Severity) (message : String) : String :=
  "[" ++ logger ++ "] " ++ severity.name ++ ": " ++ message ++ "\n"

/-- Know a logger, at rank zero if it is new. -/
def withLogger (logging : Logging) (logger : String) : Logging :=
  if logging.isKnown logger then
    logging
  else
    { logging with levels := logging.levels.insert logger unsetLevel }

/-- Knowing a logger leaves every own level as it is. -/
theorem ownLevel_withLogger
    (logging : Logging)
    (logger other : String) :
    (logging.withLogger logger).ownLevel other = logging.ownLevel other := by
  by_cases known : logging.isKnown logger
  · simp [withLogger, known]
  · have absent : logging.levels.get? logger = none := by
      simpa [isKnown, Table.contains] using known
    by_cases same : logger = other
    · subst same
      simp [withLogger, known, ownLevel, absent]
    · simp [withLogger, known, ownLevel, Table.get?_insert_of_ne, same]

/-- Let what is decided for a logger and a rank stand. -/
def withDecision (logging : Logging) (logger : String) (rank : Int) : Logging :=
  { logging with
    decisions := logging.decisions.insert (logger, rank) (logging.admits logger rank) }

/-- Give a logger a level; whatever was decided is open again. -/
def withLevel (logging : Logging) (logger : String) (level : Level) : Logging :=
  { logging with
    levels := logging.levels.insert logger level
    decisions := Table.empty }

/-- Give a root that lost its handler a new one, and its first level. -/
def configure (logging : Logging) : Logging :=
  if logging.configured then
    logging
  else if logging.hasHandler then
    { logging with configured := true }
  else
    { logging.withLevel rootLogger rootLevel with hasHandler := true, configured := true }

/-- The state after one action. -/
def after (logging : Logging) : LogAction → Logging
  | .mention logger => logging.withLogger logger
  | .record logger severity _ =>
      (logging.withLogger logger).withDecision logger severity.rank
  | .setLevel logger level => logging.withLevel logger level
  | .reconfigure configured dropHandlers =>
      configure { logging with
        configured := configured
        hasHandler := logging.hasHandler && !dropHandlers }

def written (logging : Logging) : LogAction → String
  | .record logger severity message =>
      if logging.writes logger severity then
        recordLine logger severity message
      else
        ""
  | _ => ""

end Logging

namespace Traced

variable {σ : Type}

/-- Ask for a record. -/
def log (logger : String) (severity : Logging.Severity) (message : String) :
    Traced LogAction σ Unit :=
  emit (.record logger severity message)

end Traced

namespace Logging

variable {σ : Type}

/-- Write a record at a level given as a value, which has to be an integer. -/
def recordAt (logger : String) (level : Value) (message : String) :
    Traced LogAction σ Unit := do
  Traced.emit (.mention logger)
  match Severity.ofValue? level with
  | some severity => Traced.log logger severity message
  | none => Traced.fail .levelNotInteger

/-- Set the level of a logger to what a value asks for; an unknown word only warns. -/
def setLevel (logger : String) (value : Value) : Traced LogAction σ Unit :=
  match LevelChoice.ofValue value with
  | .ok (.level level) => Traced.emit (.setLevel logger level)
  | .ok (.unknownWord shown) =>
      Traced.log levelLogger .warning ("Ignoring unknown log level: " ++ shown)
  | .error fault => do
      Traced.emit (.mention logger)
      Traced.fail fault

end Logging

end PlatformDouble
