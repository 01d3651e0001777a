import PlatformDouble.Proofs.Host.ConfigRuns
import PlatformDouble.Proofs.Host.Loads

namespace PlatformDouble

/-!
# The schema in force

A schema is declared once.  Nothing that is asked for replaces it, neither by a request
nor by a callback in the midst of one.
-/

open Config

namespace Config.Store

variable {schema : Schema}

theorem upkeep_schema :
    Upkeep (fun _ store => store.schema = schema) where
  build _ _ := .bind .current fun _ => fun _ _ inForce => inForce
  set settings given key value past store inForce := by
    rw [Settings.state_set]
    exact inForce
  named _ _ _ inForce := inForce
  environment _ _ _ inForce := inForce
  found _ _ _ inForce := inForce

theorem keepsSchema_reload
    (file : Option String) :
    Traced.Keeps (fun _ store => store.schema = schema) (reload file) :=
  fun _ store inForce => (schema_reload file store).trans inForce

theorem keepsSchema_sharedSettings :
    Traced.Keeps (fun _ store => store.schema = schema) sharedSettings :=
  sharedSettings_keeps (keepsSchema_reload none)

end Config.Store

/-- No request about settings replaces the schema. -/
theorem ConfigRequest.keepsSchema
    {schema : Schema}
    (request : ConfigRequest) :
    Traced.Keeps (fun _ store => store.schema = schema) request.answer :=
  answer_keeps Store.upkeep_schema
    (fun _ => Store.keepsSchema_sharedSettings)
    (fun key value _ =>
      .bind Store.keepsSchema_sharedSettings
        (Store.upkeep_schema.changeShared (fun _ _ _ inForce => inForce) key value))
    (fun file _ => Store.keepsSchema_reload file)
    (fun _ _ _ inForce => inForce)

/-- Every request leaves the schema in force, whatever callbacks do. -/
theorem Stage.upkeep_schema
    [Record.Validator]
    {schema : Schema} :
    Upkeep (Host.OfConfig fun _ store => store.schema = schema) (fun _ => True) (fun _ => True)
      (fun _ => true) (Act.asksOnly fun _ => true) :=
  upkeep_ofConfig
    (fun _ _ _ _ inForce => inForce)
    Store.keepsSchema_sharedSettings
    (fun request _ => request.keepsSchema)
    (fun _ _ _ _ _ _ inForce => inForce)

/-- In every run the schema stays what it is at the start. -/
theorem World.schema_after
    [Record.Validator]
    (world : World)
    (requests : List Request) :
    (world.after requests).stage.host.config.schema = world.stage.host.config.schema := by
  have scripts : world.stage.cast.Allows (Act.asksOnly fun _ => true) := by
    intro callback turn _ act _
    cases act <;> rfl
  obtain ⟨actions, -, inForce⟩ :=
    after_upholds Stage.upkeep_schema (fun _ (_ : _ ∈ requests) => rfl) [] world rfl scripts
  exact inForce

end PlatformDouble
