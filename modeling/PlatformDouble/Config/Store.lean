import PlatformDouble.Config.Settings

namespace PlatformDouble.Config

/-!
# The store of settings

Besides settings kept under names there is one global instance.  It is made when
it is first needed, and again on request; both times its log level is applied to
the root logger, and at no other time.

Settings are built from the file that is given, or else from one that is found.  How it is
found is left open: the store holds what is in it.  The global instances are counted as
they are put in place, so that one can be told from another that holds the same.
-/

/-- The environment, the schema in force and all settings made so far. -/
structure Store where
  loader : EnvFile.Loader
  schema : Schema
  environment : Environment
  /-- The content of the file that is found where none is given, if there is one. -/
  found : Option String
  /-- Settings kept under a name. -/
  named : Table String Settings
  /-- The global settings, if they exist. -/
  shared : Option Settings
  /-- How many times global settings were put in place. -/
  placed : Nat

namespace Store

/-- A store at the start: nothing has been resolved yet. -/
def initial
    (schema : Schema)
    (environment : Environment)
    (found : Option String := none)
    (loader : EnvFile.Loader := .standard) :
    Store where
  loader := loader
  schema := schema
  environment := environment
  found := found
  named := Table.empty
  shared := none
  placed := 0

def environmentPart : StatePart Store Environment where
  get := environment
  put environment store := { store with environment := environment }
  get_put _ _ := rfl

/-- The content that settings are built from: that of the given file, else what is found. -/
def contentOf (store : Store) (file : Option String) : Option String :=
  file.or store.found

def build (file : Option String) (overrides : Overrides) : Traced LogAction Store Settings := do
  let store ← Traced.current
  Traced.within environmentPart
    (Settings.build store.loader store.schema (store.contentOf file) overrides)

/-- Build settings and keep them under a name. -/
def create (name : String) (file : Option String) (overrides : Overrides) :
    Traced LogAction Store Settings := do
  let settings ← build file overrides
  Traced.update fun store => { store with named := store.named.insert name settings }
  Traced.done settings

/-- The settings kept under a name. -/
def settingsOf (name : String) : Traced LogAction Store Settings := do
  let store ← Traced.current
  match store.named.get? name with
  | some settings => Traced.done settings
  | none => Traced.fail (.unknownName name)

/-- Set a value in the settings kept under a name; answer whether it is declared. -/
def setIn (name key : String) (value : Value) : Traced LogAction Store (Bool × Settings) := do
  let settings ← settingsOf name
  let store ← Traced.current
  let (known, changed) ← settings.set store.schema key value
  Traced.update fun store => { store with named := store.named.insert name changed }
  Traced.done (known, changed)

/-- Put global settings in place. -/
def place (settings : Settings) (store : Store) : Store :=
  { store with shared := some settings, placed := store.placed + 1 }

/-- Build the global settings anew and apply their log level to the root logger. -/
def reload (file : Option String) : Traced LogAction Store Settings := do
  let settings ← build file Table.empty
  Traced.update (place settings)
  Logging.setLevel Logging.rootLogger (settings.get Schema.logLevelKey .null)
  Traced.done settings

/-- The global settings, built on first need. -/
def sharedSettings : Traced LogAction Store Settings := do
  let store ← Traced.current
  match store.shared with
  | some settings => Traced.done settings
  | none => reload none

/-- Set a value in the global settings; answer whether it is declared. -/
def setShared (key : String) (value : Value) : Traced LogAction Store Bool := do
  let settings ← sharedSettings
  let store ← Traced.current
  let (known, changed) ← settings.set store.schema key value
  Traced.update fun store => { store with shared := some changed }
  Traced.done known

end Store

end PlatformDouble.Config
