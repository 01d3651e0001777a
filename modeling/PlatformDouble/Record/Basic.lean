import PlatformDouble.ComponentName
import PlatformDouble.Record.Violation

namespace PlatformDouble

/-!
# Records exchanged with the platform

Besides component names there are four records: the descriptor of a registered
service, one result of discovery, a request naming an action or a component, and
the configuration of resources.  Each is built from fields of any value by a
check that reports every violation.  Which values are texts is up to a validator.
-/

open Record

/-- What is known about a service when it is registered. -/
structure ServiceInfo where
  permission : Option String
  packageName : String
  name : String
  deriving Repr, DecidableEq

/-- One result of discovery: a component and its descriptor. -/
structure ResolveInfo where
  serviceInfo : Option ServiceInfo
  component : ComponentName
  deriving Repr, DecidableEq

/-- A request to bind or to discover, by action or by component. -/
structure Intent where
  action : Option String
  component : Option ComponentName
  deriving Repr, DecidableEq

/-- The configuration of resources, of which only the locale is kept. -/
structure ResourceConfiguration where
  locale : String
  deriving Repr, DecidableEq

variable [Validator]

namespace ComponentName

/-- Check a component name given by its two members. -/
def ofValues (package className : Value) : Checked ComponentName :=
  (((Validator.text package).under "package_name").both
    ((Validator.text className).under "class_name")).map fun (p, k) =>
      { packageName := p, className := k }

/-- Two texts are a component name. -/
@[simp] theorem ofValues_text
    (package className : String) :
    ofValues (.text package) (.text className) =
      .ok { packageName := package, className := className } := by
  simp [ofValues, Checked.under, Checked.both, Except.map]

def ofFields (fields : List (String × Value)) : Checked ComponentName :=
  ((Checked.required fields "package_name" Validator.text).both
    (Checked.required fields "class_name" Validator.text)).map fun (p, k) =>
      { packageName := p, className := k }

/-- Check a value that stands for a component name inside another record. -/
def ofValue : Value → Checked ComponentName :=
  Checked.nested "ComponentName" ofFields

def toValue (component : ComponentName) : Value :=
  .object [
    ("package_name", .text component.packageName),
    ("class_name", .text component.className)]

end ComponentName

namespace ServiceInfo

/-- Check a descriptor given by its three members. -/
def ofValues (permission package name : Value) : Checked ServiceInfo :=
  ((((Checked.nullable Validator.text permission).under "permission").both
    ((Validator.text package).under "package_name")).both
    ((Validator.text name).under "name")).map fun ((permission, package), name) =>
      { permission := permission, packageName := package, name := name }

/-- A platform constant and two texts are a descriptor. -/
@[simp] theorem ofValues_constant
    (permission : PlatformConstant)
    (package name : String) :
    ofValues (.constant permission) (.text package) (.text name) =
      .ok { permission := some permission.value, packageName := package, name := name } := by
  simp [ofValues, Checked.nullable, Checked.under, Checked.both, Except.map]

def ofFields (fields : List (String × Value)) : Checked ServiceInfo :=
  (((Checked.withDefault fields "permission" none (Checked.nullable Validator.text)).both
    (Checked.required fields "package_name" Validator.text)).both
    (Checked.required fields "name" Validator.text)).map fun ((permission, package), name) =>
      { permission := permission, packageName := package, name := name }

/-- The fields of a descriptor. -/
def toValue (info : ServiceInfo) : Value :=
  .object [
    ("permission", Value.ofText? info.permission),
    ("package_name", .text info.packageName),
    ("name", .text info.name)]

end ServiceInfo

namespace ResolveInfo

/-- Check the fields of a result of discovery. -/
def ofFields (fields : List (String × Value)) : Checked ResolveInfo :=
  ((Checked.withDefault fields "service_info" none
      (Checked.nullable (Checked.nested "ServiceInfo" ServiceInfo.ofFields))).both
    (Checked.required fields "component" ComponentName.ofValue)).map fun (info, component) =>
      { serviceInfo := info, component := component }

/-- The result of discovery for a listed component, which has to be there. -/
def ofListing
    (info : Option ServiceInfo) :
    Option ComponentName → Checked ResolveInfo
  | some component => .ok { serviceInfo := info, component := component }
  | none => (Checked.violated (.notRecord "ComponentName")).under "component"

/-- The fields of a result of discovery. -/
def toValue (result : ResolveInfo) : Value :=
  .object [
    ("service_info", (result.serviceInfo.map ServiceInfo.toValue).getD .null),
    ("component", result.component.toValue)]

end ResolveInfo

namespace Intent

/-- A request for a component. -/
def forComponent (component : Option ComponentName) : Intent :=
  { action := none, component := component }

/-- A request for whatever answers an action. -/
def forAction (action : Value) : Checked Intent :=
  ((Checked.nullable Validator.text action).under "action").map fun action =>
    { action := action, component := none }

def ofAction (action : Value) (component : Option ComponentName) : Checked Intent :=
  (forAction action).map fun intent => { intent with component := component }

def ofFields (fields : List (String × Value)) : Checked Intent :=
  ((Checked.withDefault fields "action" none (Checked.nullable Validator.text)).both
    (Checked.withDefault fields "component" none
      (Checked.nullable ComponentName.ofValue))).map fun (action, component) =>
        { action := action, component := component }

/-- The fields of a request. -/
def toValue (intent : Intent) : Value :=
  .object [
    ("action", Value.ofText? intent.action),
    ("component", (intent.component.map ComponentName.toValue).getD .null)]

end Intent

namespace ResourceConfiguration

/-- The locale of a configuration that does not name one. -/
def defaultLocale : String := "zh_TW"

def ofLocale (locale : Value) : Checked ResourceConfiguration :=
  ((Validator.text locale).under "locale").map fun locale => { locale := locale }

def ofFields (fields : List (String × Value)) : Checked ResourceConfiguration :=
  (Checked.withDefault fields "locale" defaultLocale Validator.text).map fun locale =>
    { locale := locale }

/-- The fields of a configuration. -/
def toValue (configuration : ResourceConfiguration) : Value :=
  .object [("locale", .text configuration.locale)]

end ResourceConfiguration

end PlatformDouble
