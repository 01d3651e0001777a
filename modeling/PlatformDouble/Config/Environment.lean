import PlatformDouble.Logging.Basic

namespace PlatformDouble.Config

/-!
# The environment

The variables of the process.  A name must be neither empty nor hold an equals
sign, and neither a name nor a value may hold a null character; a variable may be
empty.
-/

/-- Environment variables by name. -/
abbrev Environment := Table String String

namespace Environment

/-- Whether a text has no null character in it. -/
def isNullFree (text : String) : Bool :=
  !text.toList.contains '\x00'

/-- Whether a variable may have this name and this value. -/
def checkVariable (name value : String) : Except Fault Unit :=
  if !isNullFree name || !isNullFree value then
    .error .nullInVariable
  else if name.toList.contains '=' then
    .error .illegalVariableName
  else if name.isEmpty then
    .error .emptyVariableName
  else
    .ok ()

/-- Set a variable. -/
def assign (name value : String) : Traced LogAction Environment Unit := do
  Traced.ofResult (checkVariable name value)
  Traced.update fun environment => environment.insert name value

/-- Set a variable that is not there yet; a variable that is there keeps its value. -/
def assignIfAbsent (name value : String) : Traced LogAction Environment Unit := do
  let environment ← Traced.current
  if environment.contains name then
    Traced.done ()
  else
    assign name value

end Environment

end PlatformDouble.Config
