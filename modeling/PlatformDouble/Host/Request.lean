import PlatformDouble.Context.Holder
import PlatformDouble.Gate.Registering
import PlatformDouble.Guard

namespace PlatformDouble

/-!
# Requests

Everything a test can ask of the double, one constructor each.  Requests carry
values as they were given: component names and intents are checked only when the
request is performed, so that a refused record is an answer like any other.
-/

/-- A component name given by its two members, or none. -/
abbrev GivenComponent := Option (Value × Value)

/-- An intent given by its action, null for none, and its component. -/
structure GivenIntent where
  action : Value
  component : GivenComponent

/-- The fields a record is built from. -/
abbrev Fields := List (String × Value)

/-- The kinds of records. -/
inductive RecordKind where
  | componentName
  | serviceInfo
  | resolveInfo
  | intent
  | configuration
  deriving Repr, DecidableEq

/-- Requests about records alone. -/
inductive RecordRequest where
  /-- The texts of a component name. -/
  | spell (component : GivenComponent)
  /-- The component name a text stands for. -/
  | read (text : Value)
  | build (kind : RecordKind) (fields : Fields)
  | assign (kind : RecordKind) (fields : Fields) (field : String) (value : Value)
  /-- Build two records and compare them. -/
  | compare (firstKind : RecordKind) (first : Fields) (secondKind : RecordKind) (second : Fields)
  /-- The different ones among component names. -/
  | distinct (components : List GivenComponent)
  | intentForComponent (component : GivenComponent)
  | intentForAction (action : Value)
  /-- The constants of the platform. -/
  | constants

/-- Requests about logging, guarded operations and health reports. -/
inductive ReportRequest where
  /-- Build a health report. -/
  | health (gate initialized dependencies checks details : Value)
  | handle (report : FailureReport) (failure : Raised) (fallback : Value)
  /-- Run a guarded operation whose body is given by how it ends. -/
  | guarded
      (report : FailureReport)
      (arguments named : Value)
      (ending : Except Raised Value)
      (fallback : Value)
      (raiseAgain : Bool)
  /-- The levels of a logger. -/
  | logger (gate : String)
  /-- Set the level of a gate's logger, or of the root. -/
  | setLevel (level : Value) (gate : Option String)
  /-- Write a record. -/
  | log (gate : String) (level : Value) (message : String)
  | rootLevel
  /-- Configure the root anew. -/
  | reconfigure (configured dropHandlers : Bool)

/-- Requests about settings and the environment. -/
inductive ConfigRequest where
  /-- Build settings and keep them under a name. -/
  | create (name : String) (overrides : Config.Overrides) (file : Option String)
  | get (name key : String) (substitute : Value)
  | set (name key : String) (value : Value)
  | all (name : String)
  | validate (name : String)
  | sharedGet (key : String) (substitute : Value)
  | sharedSet (key : String) (value : Value)
  | sharedAll
  | sharedValidate
  /-- Build the global settings anew. -/
  | reload (file : Option String)
  /-- Forget the global settings. -/
  | forgetShared
  | setVariable (name value : String)
  | unsetVariable (name : String)
  /-- Put a file of some content where one is found, or take it away. -/
  | placeFile (content : Option String)
  | variableValue (name : String)
  | environment
  | schema
  | field (key : String)
  | category (word : Value)

/-- A registration as it was given. -/
structure GivenRegistration where
  action : Value
  component : GivenComponent
  service : Option ServiceId
  permission : Value := .null
  packageName : Value := .null
  className : Value := .null

/-- Requests to a holder that call nobody back. -/
inductive ContextRequest where
  /-- Make a new holder, from settings kept under a name or from the global ones. -/
  | holder (settings : Option String) (injections : Context.Injections)
  /-- Register a service through the holder. -/
  | register (registration : GivenRegistration)
  /-- Register a service at the gate, without the holder's report. -/
  | registerAtGate (registration : GivenRegistration)
  /-- Register a service in the directory with a descriptor of its own. -/
  | registerInDirectory
      (action : Value)
      (component : GivenComponent)
      (service : Option ServiceId)
      (descriptor : Option Fields)
  /-- Register a service under one of the platform's actions, with its permission. -/
  | addConnectionService (component : GivenComponent) (service : Option ServiceId)
  | addInCallService (component : GivenComponent) (service : Option ServiceId)
  | isBound (connection : ConnectionId)
  | session (connection : ConnectionId)
  /-- Change a part of a session, which is refused whatever the new value is. -/
  | changeSession (connection : ConnectionId) (part : String)
  | sizes
  /-- The descriptors of what answers an action. -/
  | query (action : Value)
  /-- What answers an action. -/
  | resolve (action : Value)
  /-- What answers an intent. -/
  | queryIntent (intent : GivenIntent)
  /-- Open a cursor over what answers an action. -/
  | openCursor (name : String) (action : Value)
  | advanceCursor (name : String)
  | serviceOf (component : GivenComponent)
  | descriptorOf (component : GivenComponent)
  | ownerOf (service : Option ServiceId)
  | listed (action : Value)
  | contains (component : GivenComponent)
  | putResource (id : Int) (value : Value)
  | resource (id : Int)
  | fixedAnswers
  | systemService (name : Value)
  | contentResolver
  | contexts
  /-- Send a broadcast, which nobody receives. -/
  | broadcast (intent : GivenIntent)
  | registerReceiver
  /-- The directory for files, given the system's temporary directory. -/
  | filesDirectory (temporary : Value)
  | contextHealth
  | gateHealth

/-- Something that may or may not be a connection. -/
inductive Candidate where
  | connection (connection : ConnectionId)
  | service (service : Option ServiceId)

/-- A request to the double. -/
inductive Request where
  | records (request : RecordRequest)
  | reports (request : ReportRequest)
  | config (request : ConfigRequest)
  | context (request : ContextRequest)
  | bind (connection : ConnectionId) (intent : GivenIntent)
  | unbind (connection : ConnectionId)
  /-- Whether something has both callbacks of a connection. -/
  | isConnection (candidate : Candidate)

variable [Record.Validator]

namespace GivenComponent

def check : GivenComponent → Record.Checked (Option ComponentName)
  | none => .ok none
  | some (package, className) => (ComponentName.ofValues package className).map some

/-- A component that is given by the two texts of its name is that component. -/
theorem check_text
    (component : ComponentName) :
    check (some (.text component.packageName, .text component.className)) =
      .ok (some component) :=
  congrArg (Except.map some) (ComponentName.ofValues_text _ _)

end GivenComponent

namespace GivenIntent

/-- Check a given intent: its component first, then the intent itself. -/
def check (intent : GivenIntent) : Record.Checked Intent :=
  match intent.component.check with
  | .error refusal => .error refusal
  | .ok component => Intent.ofAction intent.action component

end GivenIntent

namespace GivenRegistration

def check (given : GivenRegistration) : Record.Checked ServiceRegistration :=
  given.component.check.map fun component => {
    action := given.action
    component := component
    service := given.service
    permission := given.permission
    packageName := given.packageName
    className := given.className }

/-- A registration with the two texts of a component's name is one of that component. -/
theorem check_text
    {given : GivenRegistration}
    (component : ComponentName)
    (named :
      given.component =
        some (.text component.packageName, .text component.className)) :
    given.check = .ok {
      action := given.action
      component := some component
      service := given.service
      permission := given.permission
      packageName := given.packageName
      className := given.className } := by
  rw [check, named, GivenComponent.check_text]
  rfl

end GivenRegistration

end PlatformDouble
