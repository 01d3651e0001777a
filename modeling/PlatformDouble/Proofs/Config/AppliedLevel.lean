import PlatformDouble.Proofs.Config.Fallback
import PlatformDouble.Proofs.Config.Upkeep
import PlatformDouble.Proofs.Config.Validity
import PlatformDouble.Proofs.EnvFile.Repetition
import PlatformDouble.Proofs.Logging.Levels

namespace PlatformDouble

/-!
# The level that settings apply

Whenever the global settings are made, the root gets the level that they hold then.  They
always hold one, once the file is loaded: what the environment and the file say is one of
the options, or the default stands in for it.  Nothing else that is done with settings touches a level; all it
does to logging is that warnings are written.
-/

open Logging (LeaveLevels)

namespace Config

theorem configLogger_noDotLast :
    Logging.configLogger.toList.getLast? ≠ some '.' := by
  decide

section Operations

variable {σ : Type}

theorem Field.settle_leavesLevels
    (field : Field)
    (value : Value) :
    Traced.Keeps LeaveLevels (field.settle value : Traced LogAction σ Value) := by
  unfold Field.settle
  split
  · exact .done _
  · exact .fail _
  · split
    · exact .bind (.log_leaveLevels configLogger_noDotLast _ _) fun _ => .done _
    · exact .fail _

namespace Settings

theorem resolveFields_leavesLevels
    (raw : Field → Value)
    (fields : List Field)
    (settings : Settings) :
    Traced.Keeps LeaveLevels (resolveFields raw fields settings : Traced LogAction σ Settings) := by
  induction fields generalizing settings with
  | nil =>
      exact .done settings
  | cons field rest inductionHypothesis =>
      exact .bind (field.settle_leavesLevels _) fun _ => inductionHypothesis _

theorem warnUnknownKeys_leavesLevels
    (keys : List String) :
    Traced.Keeps LeaveLevels (warnUnknownKeys keys : Traced LogAction σ Unit) := by
  unfold warnUnknownKeys
  split
  · exact .done ()
  · exact .log_leaveLevels configLogger_noDotLast _ _

theorem build_leavesLevels
    (loader : EnvFile.Loader)
    (schema : Schema)
    (file : Option String)
    (overrides : Overrides) :
    Traced.Keeps LeaveLevels (build loader schema file overrides) := by
  refine .bind (.leaveLevels_of_silent (EnvFile.Loader.trace_load loader file)) fun _ => ?_
  refine .bind .current fun environment => ?_
  refine .bind (resolveFields_leavesLevels _ _ _) fun settings => ?_
  exact .bind (warnUnknownKeys_leavesLevels _) fun _ => .done _

theorem set_leavesLevels
    (settings : Settings)
    (schema : Schema)
    (key : String)
    (value : Value) :
    Traced.Keeps LeaveLevels
      (settings.set schema key value : Traced LogAction σ (Bool × Settings)) := by
  unfold set
  split
  · exact .done _
  · exact .bind (Field.settle_leavesLevels _ _) fun _ => .done _

end Settings

/-- As long as no global settings are made, levels are left. -/
theorem Store.upkeep_leaveLevels :
    Upkeep LeaveLevels where
  build _ _ := .bind .current fun _ => .within_leaveLevels (Settings.build_leavesLevels _ _ _ _)
  set settings schema key value := settings.set_leavesLevels schema key value
  named _ _ _ leave := leave
  environment _ _ _ leave := leave
  found _ _ _ leave := leave

end Operations

/-- The words for a level that settings may hold, with their ranks. -/
def Schema.levelRanks : List (String × Int) :=
  [("DEBUG", 10), ("INFO", 20), ("WARNING", 30), ("ERROR", 40)]

namespace Schema

/-- The options for the log level are words that have a rank. -/
theorem exists_levelRank :
    ∃ field ∈ shipped,
      field.key = logLevelKey ∧
        field.type = .text ∧
          field.choices ≠ [] ∧
            ∀ option ∈ field.choices, ∃ entry ∈ levelRanks, entry.1 = option := by
  decide

theorem lookup_levelRanks :
    ∀ entry ∈ levelRanks, levelRanks.lookup entry.1 = some entry.2 := by
  decide

/-- A level that is given by one of these words is understood. -/
theorem ofValue_levelRanks :
    ∀ entry ∈ levelRanks,
      Logging.LevelChoice.ofValue (.text entry.1) = .ok (.level (.number entry.2)) := by
  simp only [levelRanks, List.forall_mem_cons]
  refine ⟨rfl, rfl, rfl, rfl, ?_⟩
  exact fun _ member => absurd member List.not_mem_nil

end Schema

/-- Whatever the environment and a file that it accepts say, settings are built. -/
theorem Sources.exists_build
    (sources : Sources)
    (accepts : sources.loader.Accepts sources.environment sources.file)
    (noOverrides : sources.overrides = Table.empty) :
    ∃ settings, (sources.build Schema.shipped).result = .ok settings := by
  have loaded := EnvFile.Loader.result_load_eq_ok_iff.mpr accepts
  have fallBack : sources.FallBack Schema.shipped := by
    refine (fallBack_iff Schema.shipped_convertsDefaults).mpr ⟨loaded, ?_⟩
    intro field member value overridden
    rw [noOverrides, Table.get?_empty] at overridden
    cases overridden
  exact ⟨_, fallBack.result⟩

namespace Settings

variable {settings : Settings}

/-- The rank of the level that settings hold. -/
def logRank? (settings : Settings) : Option Int :=
  match settings.get Schema.logLevelKey .null with
  | .text word => Schema.levelRanks.lookup word
  | _ => none

/-- Settings that were built hold one of the words for the log level. -/
theorem exists_logLevel
    {sources : Sources}
    (builds : (sources.build Schema.shipped).result = .ok settings) :
    ∃ entry ∈ Schema.levelRanks, settings.get Schema.logLevelKey .null = .text entry.1 := by
  have valid := Schema.shipped_isValidByDefault
  obtain ⟨field, member, isLogLevel, isText, isLimited, areRanked⟩ := Schema.exists_levelRank
  have present := isNull_build valid builds member
  have admitted := (build_conformTo valid.distinct valid.defaults builds).admits_get member
  rw [isLogLevel] at present admitted
  rcases Field.text_of_admits isText admitted with isNull | ⟨word, isWord, isOption⟩
  · rw [isNull] at present
    cases present
  · obtain ⟨entry, isRanked, rfl⟩ := areRanked word (isOption isLimited)
    exact ⟨entry, isRanked, isWord⟩

end Settings

/-- New global settings were made, and the root got the rank of the level they hold. -/
structure Store.AppliesLevel
    (outcome : Outcome LogAction Store Settings)
    (made : Settings)
    (word : String)
    (rank : Int) : Prop where
  result : outcome.result = .ok made
  shared : outcome.state.shared = some made
  holds : made.get Schema.logLevelKey .null = .text word
  isRanked : (word, rank) ∈ Schema.levelRanks
  root :
    ∀ logging : Logging,
      (logging.afterAll outcome.trace).ownLevel Logging.rootLogger = .number rank
  others :
    ∀ (logging : Logging) (logger : String),
      logger ≠ Logging.rootLogger →
        (logging.afterAll outcome.trace).ownLevel logger = logging.ownLevel logger

namespace Store

variable {store : Store} {file : Option String}

theorem AppliesLevel.logRank?
    {outcome : Outcome LogAction Store Settings}
    {made : Settings}
    {word : String}
    {rank : Int}
    (applies : AppliesLevel outcome made word rank) :
    made.logRank? = some rank := by
  rw [Settings.logRank?, applies.holds]
  exact Schema.lookup_levelRanks _ applies.isRanked

/-- A level that settings hold is one that the root can be given. -/
theorem applyLevel_of_levelRank
    {settings : Settings}
    {entry : String × Int}
    (isRanked : entry ∈ Schema.levelRanks)
    (holds : settings.get Schema.logLevelKey .null = .text entry.1)
    (store : Store) :
    applyLevel settings store =
      { trace := [.setLevel Logging.rootLogger (.number entry.2)]
        state := store
        result := .ok settings } := by
  rw [applyLevel, holds, Logging.setLevel, Schema.ofValue_levelRanks entry isRanked]
  rfl

/-- As soon as new global settings are built, their level is applied. -/
theorem appliesLevel_of_build
    (isShipped : store.schema = Schema.shipped)
    {made : Settings}
    (ends : (build file Table.empty store).result = .ok made) :
    ∃ word rank, AppliesLevel (reload file store) made word rank := by
  have builds :
      ((store.sourcesOf file Table.empty).build Schema.shipped).result = .ok made := by
    rw [← isShipped]
    exact ends
  obtain ⟨⟨word, rank⟩, isRanked, holds⟩ := Settings.exists_logLevel builds
  have reloads := reload_of_built ends
  rw [applyLevel_of_levelRank isRanked holds] at reloads
  have levels (logging : Logging) (logger : String) :
      (logging.afterAll (reload file store).trace).ownLevel logger =
        if Logging.rootLogger = logger then .number rank else logging.ownLevel logger := by
    have left := (upkeep_leaveLevels.build file Table.empty).sameLevels_afterAll logging store
    rw [reloads, Logging.afterAll_append, ← left.own logger]
    exact Logging.ownLevel_withLevel _ _ _ logger
  exact ⟨word, rank, {
    result := by rw [reloads]
    shared := by rw [reloads]; rfl
    holds := holds
    isRanked := isRanked
    root := fun logging => (levels logging _).trans (if_pos rfl)
    others := fun logging logger notRoot => (levels logging logger).trans (if_neg notRoot.symm) }⟩

/-- Whatever the environment and a file that it accepts say, this comes about. -/
theorem appliesLevel_reload
    (isShipped : store.schema = Schema.shipped)
    (accepts : store.Accepts file) :
    ∃ made word rank, AppliesLevel (reload file store) made word rank := by
  obtain ⟨made, builds⟩ :=
    (store.sourcesOf file Table.empty).exists_build accepts rfl
  rw [← isShipped] at builds
  exact ⟨made, appliesLevel_of_build isShipped builds⟩

/-- Where the environment refuses the file, nothing is made and nothing is said. -/
theorem exists_reload_of_refused
    (refused : ¬ store.Accepts file) :
    ∃ fault,
      reload file store =
        { trace := []
          state := { store with environment := store.environmentAfter file }
          result := .error fault } := by
  cases loads : (store.loader.load (store.contentOf file) store.environment).result with
  | ok answer =>
      exact absurd (EnvFile.Loader.result_load_eq_ok_iff.mp loads) refused
  | error fault =>
      have fails : (build file Table.empty store).result = .error fault :=
        congrArg Outcome.result (Traced.bind_of_error loads)
      have silent : (build file Table.empty store).trace = [] :=
        (congrArg Outcome.trace (Traced.bind_of_error loads)).trans
          (EnvFile.Loader.trace_load _ _ _)
      refine ⟨fault, ?_⟩
      rw [reload_of_unbuilt fails, silent, state_build]

end Store

end Config

end PlatformDouble
