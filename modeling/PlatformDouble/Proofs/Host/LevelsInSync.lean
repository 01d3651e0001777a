import PlatformDouble.Proofs.Config.AppliedLevel
import PlatformDouble.Proofs.Host.ConfigRuns
import PlatformDouble.Proofs.Host.Loads

namespace PlatformDouble

/-!
# Levels over runs

As long as nobody sets a level otherwise, the root has the level that the global settings
hold, whoever made them, and all other loggers keep theirs.  As long as the global settings
are there and are not made anew, no logger is given another level at all, not even if the
level that they hold is changed.
-/

open Config
open Logging (LeaveLevels)

/-- Only setting a level or configuring the root gives a logger a level of its own. -/
theorem Logging.ownLevel_after
    (logging : Logging)
    {action : LogAction}
    (leaves : action.leavesLevels = true)
    (logger : String) :
    (logging.after action).ownLevel logger = logging.ownLevel logger := by
  cases action with
  | mention known =>
      exact ownLevel_withLogger logging known logger
  | record known severity message =>
      exact ownLevel_withLogger logging known logger
  | setLevel known level =>
      cases leaves
  | reconfigure configured dropHandlers =>
      cases leaves

namespace Config

/-- To set anything else leaves the rank of the log level. -/
theorem Settings.logRank?_of_set
    {σ : Type}
    {settings changed : Settings}
    {schema : Schema}
    {key : String}
    (isOther : key ≠ Schema.logLevelKey)
    {value : Value}
    {state : σ}
    {known : Bool}
    (answers :
      (settings.set schema key value state : Outcome LogAction σ (Bool × Settings)).result =
        .ok (known, changed)) :
    changed.logRank? = settings.logRank? := by
  rcases of_set answers with ⟨-, rfl⟩ | ⟨field, result, -, -, -, rfl⟩
  · rfl
  · unfold logRank? Settings.get
    rw [Table.get?_insert_of_ne _ _ isOther]

namespace Store

variable {store : Store} {settings : Settings} {file : Option String}

theorem shared_of_reload
    (answers : (reload file store).result = .ok settings) :
    (reload file store).state.shared = some settings := by
  obtain ⟨made, builds, adopts, -⟩ := Traced.of_bind_ok answers
  rw [Traced.update_bind] at adopts
  obtain ⟨-, -, isMade, -⟩ := Traced.of_bind_ok adopts
  cases isMade
  rw [reload_of_built builds]
  rfl

theorem shared_of_sharedSettings
    (answers : (sharedSettings store).result = .ok settings) :
    (sharedSettings store).state.shared = some settings := by
  cases isShared : store.shared with
  | some found =>
      rw [sharedSettings_of_some isShared] at answers ⊢
      cases answers
      exact isShared
  | none =>
      rw [sharedSettings_of_none isShared] at answers ⊢
      exact shared_of_reload answers

/--
A property of the own levels after log actions, of the schema in force and of the global
settings.
-/
def OfOwnLevels
    (holds : (String → Logging.Level) → Schema → Option Settings → Prop)
    (start : Logging)
    (past : List LogAction)
    (store : Store) : Prop :=
  holds (start.afterAll past).ownLevel store.schema store.shared

section

variable
  {holds : (String → Logging.Level) → Schema → Option Settings → Prop}
  {start : Logging}

theorem OfOwnLevels.append
    {past : List LogAction}
    (holding : OfOwnLevels holds start past store)
    {action : LogAction}
    (leaves : action.leavesLevels = true) :
    OfOwnLevels holds start (past ++ [action]) store := by
  have same : (start.afterAll (past ++ [action])).ownLevel = (start.afterAll past).ownLevel := by
    rw [Logging.afterAll_append]
    exact funext (Logging.ownLevel_after _ leaves)
  unfold OfOwnLevels
  rw [same]
  exact holding

/-- What leaves levels, the schema and the global settings has no bearing. -/
theorem OfOwnLevels.of_leaveLevels
    {α : Type}
    {code : Traced LogAction Store α}
    (leave : Traced.Keeps LeaveLevels code)
    (schema : ∀ store, (code store).state.schema = store.schema)
    (shared : ∀ store, (code store).state.shared = store.shared) :
    Traced.Keeps (OfOwnLevels holds start) code := by
  intro past store holding
  have same :
      (start.afterAll (past ++ (code store).trace)).ownLevel =
        (start.afterAll past).ownLevel := by
    rw [Logging.afterAll_append]
    exact funext (leave.sameLevels_afterAll _ store).own
  unfold OfOwnLevels
  rw [same, schema, shared]
  exact holding

theorem upkeep_ofOwnLevels :
    Upkeep (OfOwnLevels holds start) where
  build file overrides :=
    .of_leaveLevels (upkeep_leaveLevels.build file overrides) (fun _ => rfl) (fun _ => rfl)
  set settings schema key value :=
    .of_leaveLevels (settings.set_leavesLevels schema key value)
      (fun _ => by rw [Settings.state_set])
      (fun _ => by rw [Settings.state_set])
  named _ _ _ holding := holding
  environment _ _ _ holding := holding
  found _ _ _ holding := holding

end

/-- The root has the level that the global settings hold, if these exist. -/
def IsInSync (store : Store) (logging : Logging) : Prop :=
  ∀ settings,
    store.shared = some settings →
      ∃ rank,
        settings.logRank? = some rank ∧ logging.ownLevel Logging.rootLogger = .number rank

/-- The root has the level of the global settings, and all others have that of the start. -/
structure HaveSynced
    (start : Logging)
    (own : String → Logging.Level)
    (schema : Schema)
    (shared : Option Settings) : Prop where
  isShipped : schema = Schema.shipped
  root :
    ∀ settings,
      shared = some settings →
        ∃ rank, settings.logRank? = some rank ∧ own Logging.rootLogger = .number rank
  others : ∀ logger, logger ≠ Logging.rootLogger → own logger = start.ownLevel logger

/-- Besides, the global settings are there and hold the level that certain settings hold. -/
structure HaveSyncedWith
    (settings : Settings)
    (start : Logging)
    (own : String → Logging.Level)
    (schema : Schema)
    (shared : Option Settings) : Prop
    extends HaveSynced start own schema shared where
  holds : ∃ found, shared = some found ∧ found.logRank? = settings.logRank?

/-- The global settings exist, and all levels are those of the start. -/
structure HaveStayed
    (start : Logging)
    (own : String → Logging.Level)
    (shared : Option Settings) : Prop where
  exists_shared : ∃ settings, shared = some settings
  same : ∀ logger, own logger = start.ownLevel logger

section

variable {start : Logging}

/-- New global settings come with their level, and where none are built nothing is done. -/
theorem haveSynced_reload
    (file : Option String) :
    Traced.Keeps (OfOwnLevels (HaveSynced start) start) (reload file) := by
  intro past store synced
  cases ended : (build file Table.empty store).result with
  | error fault =>
      have fails : reload file store = _ := Traced.bind_of_error ended
      rw [fails]
      exact upkeep_ofOwnLevels.build file Table.empty past store synced
  | ok made =>
      obtain ⟨word, rank, applies⟩ := appliesLevel_of_build synced.isShipped ended
      refine {
        isShipped := (schema_reload file store).trans synced.isShipped
        root := fun settings isShared => ?_
        others := fun logger notRoot => ?_ }
      · rw [applies.shared] at isShared
        cases isShared
        rw [Logging.afterAll_append]
        exact ⟨rank, applies.logRank?, applies.root _⟩
      · rw [Logging.afterAll_append]
        exact (applies.others _ logger notRoot).trans (synced.others logger notRoot)

theorem haveSynced_sharedSettings :
    Traced.Keeps (OfOwnLevels (HaveSynced start) start) sharedSettings :=
  sharedSettings_keeps (haveSynced_reload none)

/-- What follows when the global settings were asked for of which another value is set. -/
theorem haveSynced_changeShared
    {key : String}
    (isOther : key ≠ Schema.logLevelKey)
    (value : Value)
    (settings : Settings) :
    Traced.Keeps (OfOwnLevels (HaveSyncedWith settings start) start)
      (do
        let store ← (Traced.current : Traced LogAction Store Store)
        let (known, changed) ← settings.set store.schema key value
        Traced.update fun store => { store with shared := some changed }
        Traced.done known) := by
  refine .bind .current fun store => ?_
  refine
    .bind_of_answers (upkeep_ofOwnLevels.set settings store.schema key value)
      (fun _ _ _ _ answers => Settings.logRank?_of_set isOther answers)
      fun changed sameRank => ?_
  refine .bind (.update fun past reached synced => ?_) fun _ => .done _
  obtain ⟨found, isShared, isRank⟩ := synced.holds
  refine ⟨⟨synced.isShipped, fun final isFinal => ?_, synced.others⟩, _, rfl, sameRank⟩
  cases isFinal
  rw [sameRank, ← isRank]
  exact synced.root found isShared

/-- To set anything but the log level leaves the level that the global settings hold. -/
theorem haveSynced_setShared
    {key : String}
    (isOther : key ≠ Schema.logLevelKey)
    (value : Value) :
    Traced.Keeps (OfOwnLevels (HaveSynced start) start) (setShared key value) := by
  intro past store synced
  have asked := haveSynced_sharedSettings past store synced
  cases ended : (sharedSettings store).result with
  | error fault =>
      have fails : setShared key value store = _ := Traced.bind_of_error ended
      rw [fails]
      exact asked
  | ok settings =>
      have isShared := shared_of_sharedSettings ended
      have continues : setShared key value store = _ := Traced.bind_of_ok ended
      rw [continues, ← List.append_assoc]
      have changes :
          Traced.Keeps (OfOwnLevels (HaveSyncedWith settings start) start) _ :=
        haveSynced_changeShared isOther value settings
      exact (changes _ _ ⟨asked, settings, isShared, rfl⟩).toHaveSynced

/-- Where the global settings exist, asking for them does nothing. -/
theorem haveStayed_sharedSettings :
    Traced.Keeps (OfOwnLevels (fun own _ => HaveStayed start own) start) sharedSettings := by
  intro past store stayed
  obtain ⟨settings, isShared⟩ := stayed.exists_shared
  rw [sharedSettings_of_some isShared]
  exact Traced.Keeps.done settings past store stayed

theorem haveStayed_setShared
    (key : String)
    (value : Value) :
    Traced.Keeps (OfOwnLevels (fun own _ => HaveStayed start own) start)
      (setShared key value) := by
  refine .bind haveStayed_sharedSettings (upkeep_ofOwnLevels.changeShared ?_ key value)
  intro past store settings stayed
  exact HaveStayed.mk ⟨settings, rfl⟩ stayed.same

end

end Store

end Config

namespace Request

/-- Whether a request sets no level, neither of a logger nor in the global settings. -/
def setsNoLevel : Request → Bool
  | reports request => !request.setsLevels
  | config (.sharedSet key _) => key != Schema.logLevelKey
  | _ => true

/-- Whether a request neither sets the level of a logger nor replaces the global settings. -/
def replacesNothing : Request → Bool
  | reports request => !request.setsLevels
  | config (.reload _) => false
  | config .forgetShared => false
  | _ => true

end Request

namespace ConfigRequest

variable {start : Logging}

theorem haveSynced_answer
    {request : ConfigRequest}
    (setsNone : Request.setsNoLevel (.config request) = true) :
    Traced.Keeps (Store.OfOwnLevels (Store.HaveSynced start) start) request.answer := by
  refine
    answer_keeps Store.upkeep_ofOwnLevels (fun _ => Store.haveSynced_sharedSettings)
      (fun key value isSet => ?_) (fun file _ => Store.haveSynced_reload file)
      (fun _ past store synced => ?_)
  · subst isSet
    exact Store.haveSynced_setShared (bne_iff_ne.mp setsNone) value
  · refine ⟨synced.isShipped, fun settings isShared => ?_, synced.others⟩
    cases isShared

theorem haveStayed_answer
    {request : ConfigRequest}
    (replacesNone : Request.replacesNothing (.config request) = true) :
    Traced.Keeps (Store.OfOwnLevels (fun own _ => Store.HaveStayed start own) start)
      request.answer := by
  refine
    answer_keeps Store.upkeep_ofOwnLevels (fun _ => Store.haveStayed_sharedSettings)
      (fun key value _ => Store.haveStayed_setShared key value)
      (fun file isReload => ?_) (fun isForget => ?_)
  · subst isReload
    cases replacesNone
  · subst isForget
    cases replacesNone

end ConfigRequest

namespace Stage

variable {start : Logging}

variable [Record.Validator]

theorem upkeep_haveSynced :
    Upkeep (Host.OfConfig (Store.OfOwnLevels (Store.HaveSynced start) start)) (fun _ => True)
      (fun _ => True) Request.setsNoLevel (Act.asksOnly Request.setsNoLevel) := by
  refine
    upkeep_ofConfig (fun _ _ _ leaves synced => synced.append leaves)
      Store.haveSynced_sharedSettings (fun _ => ConfigRequest.haveSynced_answer)
      fun request setsNone sets => ?_
  simp [Request.setsNoLevel, sets] at setsNone

theorem upkeep_haveStayed :
    Upkeep (Host.OfConfig (Store.OfOwnLevels (fun own _ => Store.HaveStayed start own) start))
      (fun _ => True) (fun _ => True) Request.replacesNothing
      (Act.asksOnly Request.replacesNothing) := by
  refine
    upkeep_ofConfig (fun _ _ _ leaves stayed => stayed.append leaves)
      Store.haveStayed_sharedSettings (fun _ => ConfigRequest.haveStayed_answer)
      fun request replacesNone sets => ?_
  simp [Request.replacesNothing, sets] at replacesNone

end Stage

namespace World

variable [Record.Validator] {world : World} {requests : List Request}

/-- In a run in which nobody sets a level, the root has that of the global settings. -/
theorem isInSync_after
    (isShipped : world.stage.host.config.schema = Schema.shipped)
    (inSync : world.stage.host.config.IsInSync world.logging)
    (setNone : ∀ request ∈ requests, request.setsNoLevel = true)
    (scripts : world.stage.cast.Allows (Act.asksOnly Request.setsNoLevel)) :
    let last := world.after requests
    last.stage.host.config.IsInSync last.logging ∧
      ∀ logger,
        logger ≠ Logging.rootLogger →
          last.logging.ownLevel logger = world.logging.ownLevel logger := by
  intro last
  have starts :
      Store.OfOwnLevels (Store.HaveSynced world.logging) world.logging []
        world.stage.host.config :=
    ⟨isShipped, inSync, fun _ _ => rfl⟩
  obtain ⟨actions, leads, synced⟩ :=
    after_upholds Stage.upkeep_haveSynced setNone [] world starts scripts
  unfold last
  rw [leads]
  exact ⟨synced.root, synced.others⟩

/-- In a run in which the global settings stay the same ones, all levels do. -/
theorem ownLevel_after_of_shared
    {settings : Settings}
    (isShared : world.stage.host.config.shared = some settings)
    (replaceNone : ∀ request ∈ requests, request.replacesNothing = true)
    (scripts : world.stage.cast.Allows (Act.asksOnly Request.replacesNothing))
    (logger : String) :
    (world.after requests).logging.ownLevel logger = world.logging.ownLevel logger := by
  have starts :
      Store.OfOwnLevels (fun own _ => Store.HaveStayed world.logging own) world.logging []
        world.stage.host.config :=
    ⟨⟨settings, isShared⟩, fun _ => rfl⟩
  obtain ⟨actions, leads, stayed⟩ :=
    after_upholds Stage.upkeep_haveStayed replaceNone [] world starts scripts
  rw [leads]
  exact stayed.same logger

end World

end PlatformDouble
