import PlatformDouble.Config.Conversion
import PlatformDouble.EnvFile.Loader

namespace PlatformDouble.Config

/-!
# Resolved settings

Settings are resolved field by field: from an override, else from the
environment, else from the field's default.  A value that conversion refuses
gives way to the default, with a warning that shows it.  The environment takes in a file
first, if there is one.
-/

/-- The values of settings, by key. -/
structure Settings where
  values : Table String Value := Table.empty
  deriving Repr

/-- Values given explicitly, by key. -/
abbrev Overrides := Table String Value

/-- The value a field starts from: an override if its key has one, else its variable. -/
def rawValue (environment : Environment) (overrides : Overrides) (field : Field) : Value :=
  match overrides.get? field.key with
  | some value => value
  | none => Value.ofText? (environment.get? field.variableName)

/-- The value a field is resolved from: null and the empty text count as unset. -/
def Field.effectiveValue (field : Field) (raw : Value) : Value :=
  if raw.isUnset then field.default else raw

/--
Convert a value, or fall back to the default of the field with a warning.  The warning
fails if the value cannot be shown.
-/
def Field.settle {σ : Type} (field : Field) (value : Value) : Traced LogAction σ Value :=
  match field.convert value with
  | .converted result => Traced.done result
  | .infinite => Traced.fail .infiniteInteger
  | .refused =>
      if value.isShowable then do
        Traced.log Logging.configLogger .warning
          ("Invalid value for " ++ field.key ++ ": " ++ value.shown ++ ", using default")
        Traced.done field.default
      else
        Traced.fail .numeralTooLong

namespace Settings

def resolveFields {σ : Type} (raw : Field → Value) :
    List Field → Settings → Traced LogAction σ Settings
  | [], settings => Traced.done settings
  | field :: rest, settings => do
      let value ← field.settle (field.effectiveValue (raw field))
      resolveFields raw rest { values := settings.values.insert field.key value }

/-- The keys of overrides that no field has, sorted. -/
def unknownKeys (schema : Schema) (overrides : Overrides) : List String :=
  (overrides.keys.filter fun key => (schema.field? key).isNone).mergeSort
    fun first second => !decide (second < first)

/-- Warn about overrides that no field has. -/
def warnUnknownKeys {σ : Type} (keys : List String) : Traced LogAction σ Unit :=
  if keys.isEmpty then
    Traced.done ()
  else
    Traced.log Logging.configLogger .warning
      ("Ignoring unknown config keys: " ++ Value.shownTexts keys)

/-- Load a file and resolve every field of a schema. -/
def build
    (loader : EnvFile.Loader)
    (schema : Schema)
    (file : Option String)
    (overrides : Overrides) :
    Traced LogAction Environment Settings := do
  loader.load file
  let environment ← Traced.current
  let settings ← resolveFields (rawValue environment overrides) schema {}
  warnUnknownKeys (unknownKeys schema overrides)
  Traced.done settings

/-- The value of a setting, or a substitute where there is none. -/
def get (settings : Settings) (key : String) (substitute : Value) : Value :=
  (settings.values.get? key).getD substitute

/-- Set the value of a setting; answer whether the schema declares it, and the settings then. -/
def set {σ : Type}
    (settings : Settings)
    (schema : Schema)
    (key : String)
    (value : Value) :
    Traced LogAction σ (Bool × Settings) :=
  match schema.field? key with
  | none => Traced.done (false, settings)
  | some field => do
      let settled ← field.settle value
      Traced.done (true, { values := settings.values.insert key settled })

def all (settings : Settings) (schema : Schema) : Table String Value :=
  Table.ofList (schema.map fun field => (field.key, settings.get field.key .null))

/-- What is wrong with the value of one setting, which has a text if it has options. -/
def complaint? (settings : Settings) (field : Field) : Option String :=
  match settings.get field.key .null with
  | .null => some ("Config missing: " ++ field.key)
  | value =>
      let choices := field.choices
      if choices.isEmpty || choices.contains (Text.uppercase value.display) then
        none
      else
        some ("Invalid option for " ++ field.key ++ ": " ++ value.display)

/-- What is wrong with settings, in the order of the schema. -/
def complaints (settings : Settings) (schema : Schema) : List String :=
  schema.filterMap settings.complaint?

/-- Whether every setting with options has a value with a text. -/
def isDisplayable (settings : Settings) (schema : Schema) : Bool :=
  schema.all fun field =>
    field.choices.isEmpty || (settings.get field.key .null).isDisplayable

/-- Whether settings are valid, with what is wrong where they are not. -/
def validate (settings : Settings) (schema : Schema) : Except Fault (Bool × List String) :=
  let complaints := settings.complaints schema
  if settings.isDisplayable schema then
    .ok (complaints.isEmpty, complaints)
  else
    .error .numeralTooLong

end Settings

end PlatformDouble.Config
