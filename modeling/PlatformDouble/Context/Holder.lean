import PlatformDouble.Config.Settings
import PlatformDouble.Trace

namespace PlatformDouble.Context

/-!
# Context holders

A holder stands for everything a platform would hand to a component: fixed
answers taken from settings when the holder is made, text resources put in by the
test, and two injected functions that are asked for what is not there.  The
services bound through a holder live in a gate of its own.
-/

/-- The number of a holder; every holder has its own gate. -/
structure HolderId where
  number : Nat
  deriving Repr, DecidableEq

/-- What an injected function answers for one argument. -/
inductive InjectedAnswer where
  | value (value : Value)
  | raises (exception : Raised)

/-- An injected function: its answers by argument, and null for every other one. -/
abbrev Injection := Table String InjectedAnswer

def Injection.ask {ε σ : Type} (injection : Injection) (argument : String) :
    Traced ε σ Value :=
  match injection.get? argument with
  | some (.value value) => Traced.done value
  | some (.raises exception) => Traced.fail (.raised exception)
  | none => Traced.done .null

/-- The fixed answers of a holder and what a test put into it. -/
structure Holder where
  id : HolderId
  configuration : ResourceConfiguration
  /-- The package reported for app operations. -/
  opPackage : Value
  /-- The subscription of every phone account. -/
  subscription : Value
  /-- Whether a wired headset is on. -/
  headset : Value
  /-- Text resources put in by the test. -/
  resources : Table Int Value := Table.empty
  /-- Asked for resources that were not put in. -/
  lookup : Option Injection
  /-- Asked for system services before the built-in ones. -/
  locator : Option Injection

/-- The functions a test injects into a holder. -/
structure Injections where
  lookup : Option Injection := none
  locator : Option Injection := none

namespace Holder

open PlatformDouble.Config

variable [Record.Validator]

/-- A holder with the answers that settings give now; the locale has to be a text. -/
def ofSettings (id : HolderId) (settings : Settings) (injections : Injections) :
    Record.Checked Holder :=
  (ResourceConfiguration.ofLocale
    (settings.get Schema.localeKey (.text ResourceConfiguration.defaultLocale))).map
      fun configuration => {
        id := id
        configuration := configuration
        opPackage := settings.get Schema.opPackageKey (.text "test")
        subscription := settings.get Schema.subscriptionKey (.int 1)
        headset := settings.get Schema.headsetKey (.bool false)
        lookup := injections.lookup
        locator := injections.locator }

/-- A holder has the number it was made for. -/
theorem id_of_ofSettings
    {id : HolderId}
    {settings : Settings}
    {injections : Injections}
    {holder : Holder}
    (built : ofSettings id settings injections = .ok holder) :
    holder.id = id := by
  unfold ofSettings at built
  generalize ResourceConfiguration.ofLocale _ = locale at built
  cases locale with
  | error refusal =>
      cases built
  | ok configuration =>
      cases built
      rfl

def putResource (holder : Holder) (id : Int) (value : Value) : Holder :=
  { holder with resources := holder.resources.insert id value }

/-- A text resource: what was put in, else what the injected lookup answers, else null. -/
def resource {ρ σ : Type} (holder : Holder) (id : Int) : Traced (Entry ρ) σ Value :=
  match holder.resources.get? id, holder.lookup with
  | some value, _ => Traced.done value
  | none, some lookup => do
      Traced.observe (.resourceSought id)
      lookup.ask (Number.integerText id)
  | none, none => Traced.done .null

end Holder

/-- What comes of asking for a system service. -/
inductive SystemService where
  /-- What the injected locator answered, or null where there is no such service. -/
  | located (value : Value)
  /-- The audio manager of the holder. -/
  | audio (headset : Value)
  /-- The telephony manager of the holder. -/
  | telephony (subscription : Value)

namespace Holder

def names (value : Value) (service : PlatformConstant) : Bool :=
  value.plainText? == some service.value

def builtInService (holder : Holder) (name : Value) : SystemService :=
  if names name .audio then .audio holder.headset
  else if names name .telephony then .telephony holder.subscription
  else .located .null

/-- Ask the injected locator, if there is one. -/
def locate {ρ σ : Type} (holder : Holder) (name : Value) : Traced (Entry ρ) σ Value :=
  match holder.locator with
  | none => Traced.done .null
  | some locator => do
      Traced.observe (.systemServiceSought name)
      match name.plainText? with
      | some argument => locator.ask argument
      | none => Traced.done .null

/-- A system service: what the locator answers unless that is null, else the built-in one. -/
def systemService {ρ σ : Type} (holder : Holder) (name : Value) :
    Traced (Entry ρ) σ SystemService := do
  let located ← holder.locate name
  match located with
  | .null => Traced.done (holder.builtInService name)
  | value => Traced.done (.located value)

end Holder

/-- What a content resolver answers when no provider stands behind it. -/
structure ProviderAnswers where
  contextIsApplication : Bool := true
  acquired : Value := .null
  released : Bool := false
  acquiredUnstable : Value := .null
  releasedUnstable : Bool := false
  died : Value := .null
  sameResolverAgain : Bool := false

/-- How the contexts of a holder hang together. -/
structure ContextFacts where
  /-- The context handed out is hollow. -/
  isHollow : Bool := true
  sameContextAgain : Bool := true
  bindsServices : Bool := false
  /-- Its application context is the holder's. -/
  applicationIsHolders : Bool := true
  /-- The application context is its own application context. -/
  applicationIsOwn : Bool := true
  samePackageManagerAgain : Bool := true
  resourcesAreHolders : Bool := true

end PlatformDouble.Context
