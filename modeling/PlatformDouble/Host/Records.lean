import PlatformDouble.Host.Reply
import PlatformDouble.Host.Request

namespace PlatformDouble

/-!
# Performing requests about records

These requests touch no state.
-/

/-- A record of any kind. -/
inductive AnyRecord where
  | componentName (component : ComponentName)
  | serviceInfo (info : ServiceInfo)
  | resolveInfo (result : ResolveInfo)
  | intent (request : Intent)
  | configuration (resources : ResourceConfiguration)
  deriving Repr, DecidableEq

variable [Record.Validator]

namespace AnyRecord

def build (fields : Fields) : RecordKind → Record.Checked AnyRecord
  | .componentName => (ComponentName.ofFields fields).map componentName
  | .serviceInfo => (ServiceInfo.ofFields fields).map serviceInfo
  | .resolveInfo => (ResolveInfo.ofFields fields).map resolveInfo
  | .intent => (Intent.ofFields fields).map intent
  | .configuration => (ResourceConfiguration.ofFields fields).map configuration

/-- The fields of a record. -/
def toValue : AnyRecord → Value
  | componentName component => component.toValue
  | serviceInfo info => info.toValue
  | resolveInfo result => result.toValue
  | intent request => request.toValue
  | configuration resources => resources.toValue

end AnyRecord

namespace RecordKind

/-- The fields of the records that can be changed, with the name of their kind. -/
def changeable? : RecordKind → Option (String × List String)
  | resolveInfo => some ("ResolveInfo", ["service_info", "component"])
  | configuration => some ("Configuration", ["locale"])
  | _ => none

/-- What a record tells of its own fields, which it works out and never stores. -/
def derivedNames : List String :=
  ["model_extra", "model_fields_set"]

/-- Whether a name is private, so that no field can have it. -/
def isPrivate (name : String) : Bool :=
  name.toList.head? == some '_'

/-- The private names that every record keeps for itself. -/
def reservedNames : List String :=
  ["__weakref__", "__fields_set__", "__signature__", "__class_vars__",
    "__private_attributes__"]

/--
What comes of assigning a private name.  Under two of them a record keeps its kind
and its fields, a few are reserved, and any other takes any value.
-/
def assignPrivate (name : String) (value : Value) : Except Fault Value :=
  if name = "__class__" then
    .error (.notKind value.typeWord)
  else if name = "__dict__" then
    match value with
    | .object _ => .ok value
    | _ => .error (.notFields value.typeWord)
  else if reservedNames.contains name then
    .error .attributeRefused
  else
    .ok value

/-- What comes of assigning a name that is not private: a changeable record takes any value. -/
def assignField (kind : RecordKind) (field : String) (value : Value) : Except Fault Value :=
  match kind.changeable? with
  | none =>
      .error (.invalidRecord [{ path := [field], cause := .frozen }])
  | some (className, known) =>
      if derivedNames.contains field then
        .error .attributeRefused
      else if known.contains field then
        .ok value
      else
        .error (.noSuchField className field)

/-- What comes of an assignment to a record; private names are not subject to its kind. -/
def assign (kind : RecordKind) (name : String) (value : Value) : Except Fault Value :=
  if isPrivate name then
    assignPrivate name value
  else
    kind.assignField name value

end RecordKind

namespace RecordRequest

def checked {α : Type} (check : Record.Checked α) : Except Fault α :=
  check.mapError Fault.ofRefusal

/-- Check given component names one after another, up to the first refused one. -/
def checkAll : List GivenComponent → Except Fault (List (Option ComponentName))
  | [] => .ok []
  | given :: rest =>
      match checked given.check with
      | .error fault => .error fault
      | .ok component => (checkAll rest).map (component :: ·)

/-- The component name that a value stands for, which has to be a text. -/
def readComponent (value : Value) : Except Fault (Option ComponentName) :=
  match value.plainText? with
  | some text => .ok (ComponentName.ofText? text)
  | none => .error .attributeRefused

def answer : RecordRequest → Except Fault Reply
  | spell given =>
      match checked given.check with
      | .error fault => .error fault
      | .ok none => .error .attributeRefused
      | .ok (some component) => .ok (.spellings component)
  | read text => (readComponent text).map Reply.readComponent
  | build kind fields =>
      (checked (AnyRecord.build fields kind)).map fun record => .value record.toValue
  | assign kind fields field value => do
      let _ ← checked (AnyRecord.build fields kind)
      (kind.assign field value).map Reply.value
  | compare firstKind first secondKind second => do
      let a ← checked (AnyRecord.build first firstKind)
      let b ← checked (AnyRecord.build second secondKind)
      pure (.flag (a == b))
  | distinct components =>
      (checkAll components).map fun found => .components found.eraseDups
  | intentForComponent given =>
      (checked given.check).map fun component =>
        .value (Intent.forComponent component).toValue
  | intentForAction action =>
      (checked (Intent.forAction action)).map fun intent => .value intent.toValue
  | constants => .ok (.constants version PlatformConstant.all)

end RecordRequest

end PlatformDouble
