import PlatformDouble.Host.Configuring
import PlatformDouble.Proofs.Traced.Keeps

namespace PlatformDouble

/-!
# What requests about settings uphold

Requests about settings do few things to a store: they build settings and settle values,
which only warns, replace settings under names, the environment and the file that is found,
and make, change or forget the global settings.  A property of what was logged so far and of the store that
all of these uphold is upheld by every request.
-/

open Config

/-- A property is upheld by all that is done to a store but to the global settings. -/
structure Config.Store.Upkeep (holds : List LogAction → Store → Prop) : Prop where
  build : ∀ file overrides, Traced.Keeps holds (build file overrides)
  set :
    ∀ (settings : Settings) schema key value,
      Traced.Keeps holds (settings.set schema key value)
  named : ∀ past store named, holds past store → holds past { store with named := named }
  environment :
    ∀ past store environment,
      holds past store → holds past { store with environment := environment }
  found : ∀ past store content, holds past store → holds past { store with found := content }

namespace Config.Store

variable {holds : List LogAction → Store → Prop}

/-- To look settings up does nothing. -/
theorem settingsOf_keeps
    (name : String) :
    Traced.Keeps holds (settingsOf name) := by
  refine .bind .current fun store => ?_
  cases store.named.get? name with
  | some settings =>
      exact .done settings
  | none =>
      exact .fail _

/-- Where there are no global settings, to ask for them is to make them. -/
theorem sharedSettings_keeps
    (makes : Traced.Keeps holds (reload none)) :
    Traced.Keeps holds sharedSettings := by
  refine .bind .current fun store => ?_
  cases store.shared with
  | some settings =>
      exact .done settings
  | none =>
      exact makes

namespace Upkeep

variable (upkeep : Upkeep holds)

include upkeep

theorem create
    (name : String)
    (file : Option String)
    (overrides : Overrides) :
    Traced.Keeps holds (Store.create name file overrides) := by
  refine .bind (upkeep.build file overrides) fun settings => ?_
  exact .bind (.update fun _ _ => upkeep.named _ _ _) fun _ => .done _

theorem setIn
    (name key : String)
    (value : Value) :
    Traced.Keeps holds (Store.setIn name key value) := by
  refine .bind (settingsOf_keeps name) fun settings => ?_
  refine .bind .current fun store => ?_
  refine .bind (upkeep.set settings store.schema key value) fun changed => ?_
  exact .bind (.update fun _ _ => upkeep.named _ _ _) fun _ => .done _

/-- What follows when the global settings that are to be changed were asked for. -/
theorem changeShared
    (puts :
      ∀ past store settings,
        holds past store → holds past { store with shared := some settings })
    (key : String)
    (value : Value)
    (settings : Settings) :
    Traced.Keeps holds (do
      let store ← (Traced.current : Traced LogAction Store Store)
      let (known, changed) ← settings.set store.schema key value
      Traced.update fun store => { store with shared := some changed }
      Traced.done known) := by
  refine .bind .current fun store => ?_
  refine .bind (upkeep.set settings store.schema key value) fun changed => ?_
  exact .bind (.update fun _ _ => puts _ _ _) fun _ => .done _

/-- Nothing is logged about variables that are written. -/
theorem onEnvironment
    {α : Type}
    {action : Traced LogAction Environment α}
    (silent : ∀ environment, (action environment).trace = []) :
    Traced.Keeps holds (ConfigRequest.onEnvironment action) := by
  intro past store holding
  show holds (past ++ (action store.environment).trace) _
  rw [silent, List.append_nil]
  exact upkeep.environment past store _ holding

end Upkeep

end Config.Store

namespace ConfigRequest

/-- Whether a request asks for the global settings. -/
def asksShared : ConfigRequest → Bool
  | sharedGet _ _ => true
  | sharedSet _ _ => true
  | sharedAll => true
  | sharedValidate => true
  | _ => false

/-- A request upholds a property if so does what it does to the global settings, if anything. -/
theorem answer_keeps
    {holds : List LogAction → Store → Prop}
    (upkeep : Store.Upkeep holds)
    {request : ConfigRequest}
    (asks : request.asksShared = true → Traced.Keeps holds Store.sharedSettings)
    (changes :
      ∀ key value, request = .sharedSet key value → Traced.Keeps holds (Store.setShared key value))
    (makes : ∀ file, request = .reload file → Traced.Keeps holds (Store.reload file))
    (forgets :
      request = .forgetShared →
        ∀ past store, holds past store → holds past { store with shared := none }) :
    Traced.Keeps holds request.answer := by
  cases request with
  | create name overrides file =>
      refine .bind (upkeep.create name file overrides) fun settings => ?_
      exact .bind .current fun _ => .done _
  | get name key substitute =>
      exact .bind (Store.settingsOf_keeps name) fun _ => .done _
  | set name key value =>
      exact .bind (upkeep.setIn name key value) fun _ => .done _
  | all name =>
      refine .bind (Store.settingsOf_keeps name) fun settings => ?_
      exact .bind .current fun _ => .done _
  | validate name =>
      refine .bind (Store.settingsOf_keeps name) fun settings => ?_
      exact .bind .current fun _ => .bind (.ofResult _) fun _ => .done _
  | sharedGet key substitute =>
      exact .bind (asks rfl) fun _ => .done _
  | sharedSet key value =>
      exact .bind (changes key value rfl) fun _ => .done _
  | sharedAll =>
      refine .bind (asks rfl) fun settings => ?_
      exact .bind .current fun _ => .done _
  | sharedValidate =>
      refine .bind (asks rfl) fun settings => ?_
      exact .bind .current fun _ => .bind (.ofResult _) fun _ => .done _
  | reload file =>
      exact .bind (makes file rfl) fun _ => .done _
  | forgetShared =>
      exact .bind (.update (forgets rfl)) fun _ => .done _
  | setVariable name value =>
      refine .bind (upkeep.onEnvironment ?_) fun _ => .done _
      exact Traced.trace_bind_of_silent (fun _ => rfl) (fun _ _ => rfl)
  | unsetVariable name =>
      exact .bind (upkeep.onEnvironment fun _ => rfl) fun _ => .done _
  | placeFile content =>
      exact .bind (.update fun past store => upkeep.found past store content) fun _ => .done _
  | variableValue name | environment | schema | field key =>
      exact .bind .current fun _ => .done _
  | category word =>
      exact .bind .current fun _ => .bind (.ofResult _) fun _ => .done _

end ConfigRequest

end PlatformDouble
