import PlatformDouble.Value.Basic

namespace PlatformDouble.Config

/-!
# Settings that are declared

A setting is declared once, by a field that gives its key, its type, its default,
the environment variable it is read from and the options it admits.  A schema is
the list of the fields; its order is the order in which settings are resolved and
reported.
-/

/-- The type of a setting. -/
inductive FieldType where
  | text
  | integer
  | boolean
  deriving Repr, DecidableEq

/-- What a setting is about. -/
inductive Category where
  | logging
  | context
  | telephony
  deriving Repr, DecidableEq

def FieldType.word : FieldType → String
  | text => "string"
  | integer => "integer"
  | boolean => "boolean"

namespace Category

/-- The categories in the order in which a schema is reported. -/
def all : List Category := [logging, context, telephony]

def word : Category → String
  | logging => "logging"
  | context => "context"
  | telephony => "telephony"

def ofWord? (word : String) : Option Category :=
  all.find? fun category => category.word == word

end Category

/-- The declaration of a setting. -/
structure Field where
  key : String
  description : String := ""
  type : FieldType
  category : Category := .context
  default : Value := .null
  /-- The environment variable the setting is read from. -/
  variableName : String
  options : Option (List String) := none
  deriving Repr

/-- The options of a field, where it has any. -/
def Field.choices (field : Field) : List String :=
  field.options.getD []

/-- Declared settings, in order. -/
abbrev Schema := List Field

namespace Schema

def field? (schema : Schema) (key : String) : Option Field :=
  schema.find? fun field => field.key == key

/-- The fields of a category, in order. -/
def inCategory (schema : Schema) (category : Category) : List Field :=
  schema.filter fun field => field.category == category

/-- The key of the setting that gives the log level. -/
def logLevelKey : String := "TELEHOST_LOG_LEVEL"

/-- The key of the setting that gives the locale of resources. -/
def localeKey : String := "TELEHOST_LOCALE"

/-- The key of the setting that gives the package reported for app operations. -/
def opPackageKey : String := "TELEHOST_OP_PACKAGE_NAME"

/-- The key of the setting that gives the subscription of every phone account. -/
def subscriptionKey : String := "TELEHOST_SUB_ID"

/-- The key of the setting that says whether a wired headset is on. -/
def headsetKey : String := "TELEHOST_WIRED_HEADSET_ON"

/-- The settings of the double. -/
def shipped : Schema := [
  { key := logLevelKey
    description := "Log level for the telehost logger tree"
    type := .text
    category := .logging
    default := .text "INFO"
    variableName := logLevelKey
    options := some ["DEBUG", "INFO", "WARNING", "ERROR"] },
  { key := localeKey
    description := "Locale reported by the fake resource configuration"
    type := .text
    category := .context
    default := .text "zh_TW"
    variableName := localeKey },
  { key := opPackageKey
    description := "Package name the application context reports for app-ops"
    type := .text
    category := .context
    default := .text "test"
    variableName := opPackageKey },
  { key := subscriptionKey
    description := "Subscription id returned for every phone account"
    type := .integer
    category := .telephony
    default := .int 1
    variableName := subscriptionKey },
  { key := headsetKey
    description := "Whether the fake audio manager reports a wired headset"
    type := .boolean
    category := .telephony
    default := .bool false
    variableName := headsetKey }]

end Schema

end PlatformDouble.Config
