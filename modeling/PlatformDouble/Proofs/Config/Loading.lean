import PlatformDouble.Proofs.Config.Conformity

namespace PlatformDouble.Config

/-!
# What building settings leaves behind

Settings are built in an environment that has loaded the file, and nothing else changes
it: not the fields that are resolved, and not a field that fails.
-/

namespace Settings

variable {σ : Type}

@[simp] theorem state_resolveFields
    (raw : Field → Value)
    (fields : List Field)
    (settings : Settings)
    (state : σ) :
    (resolveFields raw fields settings state).state = state := by
  induction fields generalizing settings with
  | nil =>
      rfl
  | cons field rest inductionHypothesis =>
      cases ended : ((field.settle (field.effectiveValue (raw field)) state)).result with
      | ok value =>
          refine (congrArg Outcome.state (Traced.bind_of_ok ended)).trans ?_
          rw [Field.state_settle]
          exact inductionHypothesis _
      | error fault =>
          refine (congrArg Outcome.state (Traced.bind_of_error ended)).trans ?_
          exact Field.state_settle state

@[simp] theorem state_warnUnknownKeys
    (keys : List String)
    (state : σ) :
    (warnUnknownKeys keys state).state = state := by
  unfold warnUnknownKeys
  split <;> rfl

/-- However building ends, the environment is left as loading the file left it. -/
theorem state_build
    (loader : EnvFile.Loader)
    (schema : Schema)
    (file : Option String)
    (overrides : Overrides)
    (environment : Environment) :
    (build loader schema file overrides environment).state =
      (loader.load file environment).state := by
  refine Traced.state_bind_of_unchanged (fun _ reached => ?_) environment
  rw [Traced.current_bind, Traced.state_bind_of_unchanged, state_resolveFields]
  intro settings loaded
  rw [Traced.state_bind_of_unchanged, state_warnUnknownKeys]
  intro _ warned
  rfl

end Settings

namespace Store

variable
  {store : Store}
  {name : String}
  {file : Option String}
  {overrides : Overrides}
  {settings : Settings}
  {fault : Fault}

/-- The environment once the file that is given is loaded, or else the one that is found. -/
def environmentAfter (store : Store) (file : Option String) : Environment :=
  (store.loader.load (store.contentOf file) store.environment).state

/-- Whether the environment accepts the file that settings would be built from. -/
def Accepts (store : Store) (file : Option String) : Prop :=
  store.loader.Accepts store.environment (store.contentOf file)

theorem state_build
    (file : Option String)
    (overrides : Overrides)
    (store : Store) :
    (build file overrides store).state =
      { store with environment := store.environmentAfter file } := by
  rw [environmentAfter,
    ← Settings.state_build store.loader store.schema (store.contentOf file) overrides]
  rfl

/-- Settings that are created are kept, in a store that has loaded their file. -/
theorem state_create_of_ok
    (creates : (create name file overrides store).result = .ok settings) :
    (create name file overrides store).state =
      { store with
        environment := store.environmentAfter file
        named := store.named.insert name settings } := by
  obtain ⟨built, -, stores, reached⟩ := Traced.of_bind_ok creates
  cases stores
  rw [create, reached, state_build]
  rfl

/-- Apply the log level of settings to the root logger. -/
def applyLevel (settings : Settings) : Traced LogAction Store Settings := do
  Logging.setLevel Logging.rootLogger (settings.get Schema.logLevelKey .null)
  Traced.done settings

/-- What is logged when settings apply their level, and whether that fails, is up to them. -/
theorem applyLevel_elsewhere
    (settings : Settings)
    (store other : Store) :
    applyLevel settings other = { applyLevel settings store with state := other } := by
  simp only [applyLevel, Logging.setLevel]
  cases Logging.LevelChoice.ofValue (settings.get Schema.logLevelKey .null) with
  | error fault =>
      rfl
  | ok choice =>
      cases choice <;> rfl

/-- Global settings are in place before their log level is applied, whatever becomes of that. -/
theorem reload_of_built
    (builds : (build file Table.empty store).result = .ok settings) :
    reload file store =
      { trace := (build file Table.empty store).trace ++ (applyLevel settings store).trace
        state := place settings (build file Table.empty store).state
        result := (applyLevel settings store).result } := by
  refine (Traced.bind_of_ok builds).trans ?_
  rw [Traced.update_bind, ← applyLevel, applyLevel_elsewhere settings store]

theorem reload_of_unbuilt
    (fails : (build file Table.empty store).result = .error fault) :
    reload file store =
      { trace := (build file Table.empty store).trace
        state := (build file Table.empty store).state
        result := .error fault } :=
  Traced.bind_of_error fails

/-- Where there are no global settings, to ask for them is to make them without a given file. -/
theorem sharedSettings_of_none
    (isAbsent : store.shared = none) :
    sharedSettings store = reload none store := by
  rw [sharedSettings, Traced.current_bind, isAbsent]

theorem sharedSettings_of_some
    (isShared : store.shared = some settings) :
    sharedSettings store = Traced.done settings store := by
  rw [sharedSettings, Traced.current_bind, isShared]

end Store

end PlatformDouble.Config
