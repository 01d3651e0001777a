import PlatformDouble.Config.Store
import PlatformDouble.Context.Holder
import PlatformDouble.Gate.Discovery
import PlatformDouble.Health

namespace PlatformDouble

/-!
# Replies

The answers to requests.  An operation never sees the state of logging, so a
request that asks about it is answered with an inquiry, `Response.inquiry`, which
is settled where the state of logging is known.
-/

/-- An answer to a request. -/
inductive Reply where
  | nothing
  | flag (b : Bool)
  | text (s : String)
  | value (value : Value)
  /-- A component name, to be written in all its forms. -/
  | spellings (component : ComponentName)
  /-- The component name that a text stands for, with its short form. -/
  | readComponent (component : Option ComponentName)
  | component (component : Option ComponentName)
  | components (components : List (Option ComponentName))
  | constants (version : String) (constants : List PlatformConstant)
  | health (report : HealthReport)
  | settings (values : Table String Value)
  /-- Whether a setting is declared, and the value it has now. -/
  | stored (known : Bool) (value : Value)
  /-- What is wrong with settings; nothing is wrong where the list is empty. -/
  | complaints (complaints : List String)
  | environment (environment : Config.Environment)
  /-- A schema, by category. -/
  | schema (schema : Config.Schema)
  | field (field : Option Config.Field)
  | keys (keys : List String)
  | descriptor (descriptor : Option ServiceInfo)
  | descriptors (descriptors : List ServiceInfo)
  | resolutions (results : List ResolveInfo)
  /-- The next result of a cursor, or its end. -/
  | next (result : Option ResolveInfo)
  | service (service : Option ServiceId)
  | session (session : Option Session)
  /-- How many components are registered and how many sessions are live. -/
  | sizes (components sessions : Nat)
  | fixedAnswers (locale : String) (opPackage headset subscription : Value)
  | systemService (service : Context.SystemService)
  | provider (answers : Context.ProviderAnswers)
  | contexts (facts : Context.ContextFacts)
  | level (level : Logging.Level)
  /-- The name of a logger, its own level and its effective level. -/
  | logger (name : String) (own effective : Logging.Level)
  /-- How many handlers the root has, its level, and whether it counts as configured. -/
  | root (handlers : Nat) (level : Logging.Level) (configured : Bool)

/-- A question about the state of logging. -/
inductive LoggingInquiry where
  | rootLevel
  | logger (name : String)
  | root
  deriving Repr, DecidableEq

/-- What an operation answers: a reply, or a question about logging. -/
inductive Response where
  | known (reply : Reply)
  | inquiry (inquiry : LoggingInquiry)

namespace Logging

/-- The answer to a question about logging. -/
def settle (logging : Logging) : LoggingInquiry → Reply
  | .rootLevel => .level (logging.ownLevel rootLogger)
  | .logger name => .logger name (logging.ownLevel name) (logging.effectiveLevel name)
  | .root =>
      .root (if logging.hasHandler then 1 else 0) (logging.ownLevel rootLogger)
        logging.configured

end Logging

namespace Response

/-- The reply that a response comes to in a state of logging. -/
def settle (logging : Logging) : Response → Reply
  | known reply => reply
  | inquiry question => logging.settle question

end Response

end PlatformDouble
