import PlatformDouble.Host.Reply
import PlatformDouble.Host.Request

namespace PlatformDouble

/-!
# Performing requests about settings

These requests work on the store of settings alone.
-/

namespace ConfigRequest

open Config

/-- The category of a value, which has to be the word for one. -/
def categoryOf (value : Value) : Except Fault Category :=
  match value.plainText?.bind Category.ofWord? with
  | some found => .ok found
  | none =>
      .error (if value.isShowable then .unknownCategory value else .numeralTooLong)

def onEnvironment {α : Type} (action : Traced LogAction Environment α) :
    Traced LogAction Store α :=
  Traced.within Store.environmentPart action

def answer : ConfigRequest → Traced LogAction Store Response
  | create name overrides file => do
      let settings ← Store.create name file overrides
      let store ← Traced.current
      pure (.known (.settings (settings.all store.schema)))
  | get name key substitute => do
      let settings ← Store.settingsOf name
      pure (.known (.value (settings.get key substitute)))
  | set name key value => do
      let (known, settings) ← Store.setIn name key value
      pure (.known (.stored known (settings.get key .null)))
  | all name => do
      let settings ← Store.settingsOf name
      let store ← Traced.current
      pure (.known (.settings (settings.all store.schema)))
  | validate name => do
      let settings ← Store.settingsOf name
      let store ← Traced.current
      let (_, complaints) ← Traced.ofResult (settings.validate store.schema)
      pure (.known (.complaints complaints))
  | sharedGet key substitute => do
      let settings ← Store.sharedSettings
      pure (.known (.value (settings.get key substitute)))
  | sharedSet key value => do
      let known ← Store.setShared key value
      pure (.known (.flag known))
  | sharedAll => do
      let settings ← Store.sharedSettings
      let store ← Traced.current
      pure (.known (.settings (settings.all store.schema)))
  | sharedValidate => do
      let settings ← Store.sharedSettings
      let store ← Traced.current
      let (_, complaints) ← Traced.ofResult (settings.validate store.schema)
      pure (.known (.complaints complaints))
  | reload file => do
      let _ ← Store.reload file
      pure (.inquiry .rootLevel)
  | forgetShared => do
      Traced.update fun store => { store with shared := none }
      pure (.known .nothing)
  | setVariable name value => do
      onEnvironment (Environment.assign name value)
      pure (.known .nothing)
  | unsetVariable name => do
      onEnvironment (Traced.update fun environment => environment.erase name)
      pure (.known .nothing)
  | placeFile content => do
      Traced.update fun store => { store with found := content }
      pure (.known .nothing)
  | variableValue name => do
      let store ← Traced.current
      pure (.known (.value (Value.ofText? (store.environment.get? name))))
  | environment => do
      let store ← Traced.current
      pure (.known (.environment store.environment))
  | schema => do
      let store ← Traced.current
      pure (.known (.schema store.schema))
  | field key => do
      let store ← Traced.current
      pure (.known (.field (store.schema.field? key)))
  | category word => do
      let store ← Traced.current
      let found ← Traced.ofResult (categoryOf word)
      pure (.known (.keys ((store.schema.inCategory found).map Field.key)))

end ConfigRequest

end PlatformDouble
