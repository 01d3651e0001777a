import PlatformDouble.Identity
import PlatformDouble.Record.Basic

namespace PlatformDouble

/-!
# Faults

Every way in which an operation can fail, with its message.  All faults are
ordinary but exceptions of some classes that a test may raise, such as an interrupt or
an exit, which nothing that handles failures may swallow.
-/

/-- The class of an exception a test can raise from its callbacks. -/
structure ExceptionClass where
  name : String
  /-- Whether what handles failures may handle it, as it may not handle an interrupt. -/
  isOrdinary : Bool := true
  /-- Whether the text of an exception is its message in quotes. -/
  quotesMessage : Bool := false
  deriving Repr, DecidableEq

namespace ExceptionClass

/-- The class of failures of no more special class. -/
def runtime : ExceptionClass where
  name := "RuntimeError"

/-- The class of an interrupt from the keyboard. -/
def interrupt : ExceptionClass where
  name := "KeyboardInterrupt"
  isOrdinary := false

end ExceptionClass

/-- An exception a test raises, with or without a message. -/
structure Raised where
  kind : ExceptionClass
  message : Option String
  deriving Repr, DecidableEq

/-- Values that cannot be keys because they can change. -/
inductive Container where
  | list
  | object
  deriving Repr, DecidableEq

def Container.word : Container → String
  | list => "list"
  | object => "dict"

/-- Why an operation failed. -/
inductive Fault where
  /-- A callback raised an exception of its own. -/
  | raised (exception : Raised)
  | alreadyBound (connection : ConnectionId)
  /-- The connection has no session. -/
  | notBound (connection : ConnectionId)
  | unknownService (component : Option ComponentName)
  /-- A record was refused. -/
  | invalidRecord (violations : List Record.Violation)
  /-- A list or an object was used as a key. -/
  | unusableKey (container : Container)
  | infiniteInteger
  /-- A level is neither an integer nor a text; the argument is the level's text. -/
  | unreadableLevel (level : String)
  /-- A record was logged at a level that is no integer. -/
  | levelNotInteger
  /-- A path is not a text; the argument is the word for what it is. -/
  | notPath (typeWord : String)
  /-- There is no such category of settings. -/
  | unknownCategory (category : Value)
  /-- Nothing was kept under this name. -/
  | unknownName (name : String)
  | noSuchField (className field : String)
  /-- Something was asked of a value that does not have it, or refuses to change it. -/
  | attributeRefused
  /-- The kind of a record was to become what is no kind; the argument says what it is. -/
  | notKind (typeWord : String)
  /-- The fields of a record were to become what is no object; the argument says what it is. -/
  | notFields (typeWord : String)
  /-- Something that is no part of a session was to be changed in it. -/
  | noPartOfSession
  /-- The name of an environment variable holds an equals sign. -/
  | illegalVariableName
  | emptyVariableName
  /-- The name or the value of an environment variable holds a null character. -/
  | nullInVariable
  /-- A text was asked for of a value that has none, for a numeral in it is too long. -/
  | numeralTooLong
  deriving Repr

namespace Raised

def isOrdinary (exception : Raised) : Bool :=
  exception.kind.isOrdinary

def text (exception : Raised) : String :=
  match exception.message with
  | some message =>
      if exception.kind.quotesMessage then Text.quoted message else message
  | none => ""

end Raised

namespace Fault

/-- The fault that a refused record comes to. -/
def ofRefusal : Record.Refusal → Fault
  | .violations found => invalidRecord found
  | .unwritable => numeralTooLong

/-- Whether a fault is ordinary, so that a failing bind or a handler may act on it. -/
def isOrdinary : Fault → Bool
  | raised exception => exception.isOrdinary
  | _ => true

def componentText : Option ComponentName → String
  | some component => component.display
  | none => Value.null.display

/-- The message of a fault, where it has one. -/
def message? : Fault → Option String
  | raised exception => some exception.text
  | alreadyBound connection =>
      some ("ServiceConnection already bound: " ++ connection.display)
  | notBound connection =>
      some ("ServiceConnection not found: " ++ connection.display)
  | unknownService component =>
      some ("ServiceConnection not found: " ++ componentText component)
  | invalidRecord _ => none
  | unusableKey container =>
      some ("unhashable type: '" ++ container.word ++ "'")
  | infiniteInteger => some "cannot convert float infinity to integer"
  | unreadableLevel level =>
      some ("Level not an integer or a valid string: " ++ level)
  | levelNotInteger => some "level must be an integer"
  | notPath typeWord =>
      some ("expected str, bytes or os.PathLike object, not " ++ typeWord)
  | unknownCategory category =>
      some (category.shown ++ " is not a valid ConfigCategory")
  | unknownName name => some (Text.quoted name)
  | noSuchField className field =>
      some ("\"" ++ className ++ "\" object has no field \"" ++ field ++ "\"")
  | attributeRefused => none
  | notKind typeWord =>
      some ("__class__ must be set to a class, not '" ++ typeWord ++ "' object")
  | notFields typeWord =>
      some ("__dict__ must be set to a dictionary, not a '" ++ typeWord ++ "'")
  | noPartOfSession => some "super(type, obj): obj must be an instance or subtype of type"
  | illegalVariableName => some "illegal environment variable name"
  | emptyVariableName => some "[Errno 22] Invalid argument"
  | nullInVariable => some "embedded null byte"
  | numeralTooLong =>
      some ("Exceeds the limit (" ++ Number.naturalText Number.digitLimit ++
        " digits) for integer string conversion; use sys.set_int_max_str_digits() to " ++
        "increase the limit")

end Fault

end PlatformDouble
