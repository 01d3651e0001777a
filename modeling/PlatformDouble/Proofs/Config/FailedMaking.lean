import PlatformDouble.Proofs.Config.AppliedLevel

namespace PlatformDouble

/-!
# Global settings that fail to be made

To make global settings can fail in two places.  If they cannot be built, the ones from
before stay.  But they are in place before their level is applied, so if they hold nothing
that can be taken for a level, making them fails and they are handed out from then on, while
the root keeps the level it had.  A schema whose log level has a level for its default never
comes to that.
-/

namespace Logging.LevelChoice

/-- Whether a value is taken for a level: a word, known or not, an integer or a truth value. -/
def accepts : Value → Bool
  | .text _ | .constant _ | .int _ | .bool _ => true
  | _ => false

variable {value : Value}

theorem exists_ofValue_of_accepts
    (accepted : accepts value = true) :
    ∃ choice, ofValue value = .ok choice := by
  cases value with
  | text | constant | int | bool =>
      exact ⟨_, rfl⟩
  | _ =>
      cases accepted

theorem ofValue_of_not_accepts
    (refused : accepts value = false) :
    ofValue value = .error (refusal value) := by
  cases value with
  | text | constant | int | bool =>
      cases refused
  | _ =>
      rfl

end Logging.LevelChoice

namespace Config

open Logging (LevelChoice)

namespace Field

variable {field : Field} {value result : Value}

/-- What conversion makes of a value that is not null is taken for a level. -/
theorem accepts_of_convertPresent
    (converts : field.convertPresent value = .converted result) :
    LevelChoice.accepts result = true := by
  unfold convertPresent at converts
  cases isType : field.type with
  | integer =>
      rw [isType] at converts
      simp only at converts
      split at converts <;> cases converts
      rfl
  | boolean =>
      rw [isType] at converts
      simp only at converts
      split at converts
      · cases converts
        rfl
      · split at converts <;> cases converts
        rfl
  | text =>
      rw [isType] at converts
      simp only at converts
      split at converts
      · cases converts
      · split at converts
        · cases converts
          rfl
        · split at converts <;> cases converts
          rfl

/-- A field gives a level if it has a value, unless both this and its default are unfit. -/
def GivesLevel (field : Field) (value : Value) : Prop :=
  value ≠ .null ∧
    ((∃ result, field.convert value = .converted result) ∨
      LevelChoice.accepts field.default = true)

theorem accepts_valueFor_iff :
    LevelChoice.accepts (field.valueFor value) = true ↔ field.GivesLevel value := by
  unfold GivesLevel
  by_cases isNull : value = .null
  · subst isNull
    refine iff_of_false ?_ (fun gives => gives.1 rfl)
    exact Bool.false_ne_true
  · rw [and_iff_right isNull, valueFor]
    cases converts : field.convert value with
    | converted result =>
        have isPresent := converts
        rw [convert_of_present isNull] at isPresent
        exact iff_of_true (accepts_of_convertPresent isPresent) (.inl ⟨result, rfl⟩)
    | refused | infinite =>
        simp

/-- A level for a default makes up for whatever else a field is given. -/
theorem givesLevel_effectiveValue
    (fallsBack : LevelChoice.accepts field.default = true)
    (raw : Value) :
    field.GivesLevel (field.effectiveValue raw) := by
  refine ⟨?_, .inr fallsBack⟩
  unfold effectiveValue
  split
  next isUnset =>
    intro isNull
    rw [isNull] at fallsBack
    cases fallsBack
  next isSet =>
    rintro rfl
    exact isSet rfl

end Field

/-- Whether the level that settings hold can be applied. -/
def Settings.HoldsLevel (settings : Settings) : Prop :=
  LevelChoice.accepts (settings.get Schema.logLevelKey .null) = true

/-- A schema of which the log level has a level for its default. -/
def Schema.DefaultsToLevel (schema : Schema) : Prop :=
  ∃ field,
    lastBy Field.key schema logLevelKey = some field ∧
      LevelChoice.accepts field.default = true

theorem Schema.shipped_defaultsToLevel :
    shipped.DefaultsToLevel :=
  ⟨_, rfl, rfl⟩

/-- Whether the log level is declared, and its field is given what makes a level. -/
def Sources.GiveLevel (sources : Sources) (schema : Schema) : Prop :=
  ∃ field,
    lastBy Field.key schema Schema.logLevelKey = some field ∧
      field.GivesLevel (sources.start field)

namespace Sources

variable {sources : Sources} {schema : Schema} {built : Settings}

/-- Settings hold a level exactly if what they were built from gives one. -/
theorem holdsLevel_iff
    (builds : (sources.build schema).result = .ok built) :
    built.HoldsLevel ↔ sources.GiveLevel schema := by
  rw [Settings.HoldsLevel, GiveLevel, get_of_build builds]
  cases isLast : lastBy Field.key schema Schema.logLevelKey with
  | none =>
      simp [LevelChoice.accepts]
  | some field =>
      simpa using Field.accepts_valueFor_iff

theorem giveLevel_of_defaultsToLevel
    (defaults : schema.DefaultsToLevel) :
    sources.GiveLevel schema := by
  obtain ⟨field, isLast, fallsBack⟩ := defaults
  exact ⟨field, isLast, Field.givesLevel_effectiveValue fallsBack _⟩

end Sources

namespace Store

variable {store : Store} {file : Option String} {made : Settings} {fault : Fault}

theorem result_reload_of_holdsLevel
    (builds : (build file Table.empty store).result = .ok made)
    (holds : made.HoldsLevel) :
    (reload file store).result = .ok made := by
  obtain ⟨choice, isChoice⟩ := LevelChoice.exists_ofValue_of_accepts holds
  rw [reload_of_built builds, applyLevel, Logging.setLevel, isChoice]
  cases choice <;> rfl

/-- Settings without a level are in place when it turns out that they have none. -/
theorem reload_of_not_holdsLevel
    (builds : (build file Table.empty store).result = .ok made)
    (lacks : ¬ made.HoldsLevel) :
    reload file store =
      { trace := (build file Table.empty store).trace ++ [.mention Logging.rootLogger]
        state := (build file Table.empty store).state.place made
        result := .error (LevelChoice.refusal (made.get Schema.logLevelKey .null)) } := by
  have refused := LevelChoice.ofValue_of_not_accepts (Bool.eq_false_iff.mpr lacks)
  rw [reload_of_built builds, applyLevel, Logging.setLevel, refused]
  rfl

/--
A reload that fails has done no more than building did, or it has put settings without a level
in place.
-/
theorem reload_of_failed
    (fails : (reload file store).result = .error fault) :
    reload file store =
        { trace := (build file Table.empty store).trace
          state := (build file Table.empty store).state
          result := .error fault } ∨
      ∃ made,
        (build file Table.empty store).result = .ok made ∧
          ¬ made.HoldsLevel ∧
            reload file store =
              { trace := (build file Table.empty store).trace ++ [.mention Logging.rootLogger]
                state := (build file Table.empty store).state.place made
                result := .error fault } := by
  cases builds : (build file Table.empty store).result with
  | error unbuilt =>
      have isReload := reload_of_unbuilt builds
      rw [isReload] at fails
      cases fails
      exact .inl isReload
  | ok made =>
      by_cases holds : made.HoldsLevel
      · rw [result_reload_of_holdsLevel builds holds] at fails
        cases fails
      · have isReload := reload_of_not_holdsLevel builds holds
        rw [isReload] at fails
        cases fails
        exact .inr ⟨made, rfl, holds, isReload⟩

/-- However making global settings fails, the root keeps its level. -/
theorem ownLevel_root_of_failed
    (fails : (reload file store).result = .error fault)
    (logging : Logging) :
    (logging.afterAll (reload file store).trace).ownLevel Logging.rootLogger =
      logging.ownLevel Logging.rootLogger := by
  have left := (upkeep_leaveLevels.build file Table.empty).sameLevels_afterAll logging store
  rcases reload_of_failed fails with unbuilt | ⟨made, -, -, unapplied⟩
  · rw [unbuilt]
    exact left.own _
  · rw [unapplied, Logging.afterAll_append]
    exact (Logging.ownLevel_withLogger _ _ _).trans (left.own _)

/-- Global settings were not made, and nothing that matters to them has changed. -/
structure LeavesShared (outcome : Outcome LogAction Store Settings) (store : Store) : Prop where
  shared : outcome.state.shared = store.shared
  /-- They are the very settings that were in place before, and not others that are the same. -/
  placed : outcome.state.placed = store.placed
  /-- What is handed out later was in place before; if nothing was, settings are made anew. -/
  later :
    sharedSettings outcome.state =
      match store.shared with
      | some settings => Traced.done settings outcome.state
      | none => reload none outcome.state
  root :
    ∀ logging : Logging,
      (logging.afterAll outcome.trace).ownLevel Logging.rootLogger =
        logging.ownLevel Logging.rootLogger

/-- If global settings fail to be made, nothing has changed. -/
def FailsCleanly (make : Traced LogAction Store Settings) (store : Store) : Prop :=
  ∀ fault, (make store).result = .error fault → LeavesShared (make store) store

theorem leavesShared_of_failed
    (fails : (reload file store).result = .error fault)
    (same : (reload file store).state.shared = store.shared)
    (samePlace : (reload file store).state.placed = store.placed) :
    LeavesShared (reload file store) store where
  shared := same
  placed := samePlace
  later := by
    cases isShared : store.shared with
    | some settings =>
        exact sharedSettings_of_some (same.trans isShared)
    | none =>
        exact sharedSettings_of_none (same.trans isShared)
  root := ownLevel_root_of_failed fails

theorem failsCleanly_reload_iff
    (file : Option String)
    (store : Store) :
    FailsCleanly (reload file) store ↔
      ∀ made,
        (build file Table.empty store).result = .ok made →
          (store.sourcesOf file Table.empty).GiveLevel store.schema := by
  have holdsLevel_iff
      {made : Settings}
      (builds : (build file Table.empty store).result = .ok made) :
      made.HoldsLevel ↔ (store.sourcesOf file Table.empty).GiveLevel store.schema :=
    Sources.holdsLevel_iff builds
  constructor
  · intro clean made builds
    by_contra givesNone
    have isReload := reload_of_not_holdsLevel builds (mt (holdsLevel_iff builds).mp givesNone)
    -- Settings without a level are put in place, be they the same as those before or not.
    have samePlace := (clean _ (congrArg Outcome.result isReload)).placed
    rw [isReload, state_build] at samePlace
    exact Nat.succ_ne_self store.placed samePlace
  · intro applies fault fails
    rcases reload_of_failed fails with unbuilt | ⟨made, builds, lacks, -⟩
    · refine leavesShared_of_failed fails ?_ ?_ <;> rw [unbuilt, state_build]
    · exact absurd ((holdsLevel_iff builds).mpr (applies made builds)) lacks

theorem failsCleanly_sharedSettings_iff
    (store : Store) :
    FailsCleanly sharedSettings store ↔
      store.shared = none →
        ∀ made,
          (build none Table.empty store).result = .ok made →
            (store.sourcesOf none Table.empty).GiveLevel store.schema := by
  cases isShared : store.shared with
  | some settings =>
      refine iff_of_true (fun fault fails => ?_) nofun
      rw [sharedSettings_of_some isShared] at fails
      cases fails
  | none =>
      have isReload : FailsCleanly sharedSettings store ↔ FailsCleanly (reload none) store := by
        rw [FailsCleanly, FailsCleanly, sharedSettings_of_none isShared]
      rw [isReload, failsCleanly_reload_iff]
      exact ⟨fun applies _ => applies, fun applies => applies rfl⟩

/--
If global settings fail to be made, on first need or anew, nothing has changed, unless they
were built without a level that can be applied.  So nothing ever changes if the default of
the log level is a level.
-/
theorem failsCleanly_iff
    (store : Store) :
    (∀ file,
      FailsCleanly (reload file) store ↔
        ∀ made,
          (build file Table.empty store).result = .ok made →
            (store.sourcesOf file Table.empty).GiveLevel store.schema) ∧
      (FailsCleanly sharedSettings store ↔
        store.shared = none →
          ∀ made,
            (build none Table.empty store).result = .ok made →
              (store.sourcesOf none Table.empty).GiveLevel store.schema) ∧
        (store.schema.DefaultsToLevel →
          (∀ file, FailsCleanly (reload file) store) ∧ FailsCleanly sharedSettings store) := by
  refine ⟨fun file => failsCleanly_reload_iff file store, failsCleanly_sharedSettings_iff store,
    fun defaults => ⟨fun file => ?_, ?_⟩⟩
  · rw [failsCleanly_reload_iff]
    exact fun _ _ => Sources.giveLevel_of_defaultsToLevel defaults
  · rw [failsCleanly_sharedSettings_iff]
    exact fun _ _ _ => Sources.giveLevel_of_defaultsToLevel defaults

/-- A file that gives a value to what no variable can be called leaves the settings in place. -/
theorem failsCleanly_illegalName :
    let settings : Settings := { values := ⟨[(Schema.logLevelKey, .text "DEBUG")]⟩ }
    let store := { initial Schema.shipped Table.empty with shared := some settings }
    let file := some "'A=B'=x"
    (reload file store).result = .error .illegalVariableName ∧
      store.schema.DefaultsToLevel ∧ FailsCleanly (reload file) store := by
  intro settings store file
  have defines :
      store.loader.definitions store.environment file = ⟨[("A=B", some "x")]⟩ := by
    decide +kernel
  have notLoaded :
      (store.loader.load file store.environment).result = .error .illegalVariableName := by
    rw [EnvFile.Loader.load_apply, defines]
    rfl
  have unbuilt : (build file Table.empty store).result = .error .illegalVariableName := by
    show (Settings.build store.loader Schema.shipped file Table.empty
      store.environment).result = _
    rw [Settings.build, Traced.bind_of_error notLoaded]
  have defaults : store.schema.DefaultsToLevel := Schema.shipped_defaultsToLevel
  exact ⟨congrArg Outcome.result (reload_of_unbuilt unbuilt), defaults,
    ((failsCleanly_iff store).2.2 defaults).1 file⟩

/--
Where a log level is declared without a default and its variable is not set, making global
settings fails, and still they are handed out when they are asked for again.
-/
theorem not_failsCleanly_undefaulted :
    let level : Field := {
      key := Schema.logLevelKey
      type := .text
      variableName := Schema.logLevelKey
      options := some ["DEBUG", "INFO"] }
    let store := initial [level] Table.empty
    (sharedSettings store).result = .error (.unreadableLevel "None") ∧
      (∃ made, (sharedSettings (sharedSettings store).state).result = .ok made) ∧
        ¬ FailsCleanly sharedSettings store := by
  intro level store
  let made : Settings := { values := ⟨[(Schema.logLevelKey, .null)]⟩ }
  have builds : (build none Table.empty store).result = .ok made := by
    show (Settings.build .standard [level] none Table.empty Table.empty).result = _
    rw [Settings.result_build_none]
    rfl
  have lacks : ¬ made.HoldsLevel :=
    Bool.false_ne_true
  have fails := (sharedSettings_of_none rfl).trans (reload_of_not_holdsLevel builds lacks)
  refine ⟨congrArg Outcome.result fails, ⟨made, ?_⟩, fun clean => ?_⟩
  · rw [fails, sharedSettings_of_some rfl]
    rfl
  · have same := (clean _ (congrArg Outcome.result fails)).shared
    rw [fails] at same
    cases same

end Store

end Config

end PlatformDouble
