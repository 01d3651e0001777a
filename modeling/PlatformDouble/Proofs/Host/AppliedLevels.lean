import PlatformDouble.Proofs.Host.LevelsInSync
import PlatformDouble.Proofs.Host.SchemaInForce

namespace PlatformDouble

/-!
# When the log level of settings is applied

The schema in force stays what it is at the start, whatever is asked for.  So in every run
the global settings can be made from any file that the environment accepts, and hold a level
that the root is then given.  Where the environment refuses the file they are not made, and
no level changes.  Requests about settings that make no new global ones leave all levels,
also if they set the log level of settings, the global ones or others.  So it is for requests
that callbacks perform, as whole runs show.
-/

open Config
open Logging (LeaveLevels)

namespace ConfigRequest

/-- The file of which a request makes new global settings, if it makes any. -/
def adopts? (store : Store) : ConfigRequest → Option (Option String)
  | reload file => some file
  | request => if request.asksShared && store.shared.isNone then some none else none

/-- A request that asks for the global settings does no more to levels than asking does. -/
theorem sameLevels_of_asksShared
    {request : ConfigRequest}
    (asks : request.asksShared = true)
    (logging : Logging)
    (store : Store) :
    (logging.afterAll (request.answer store).trace).SameLevels
      (logging.afterAll (Store.sharedSettings store).trace) := by
  cases request with
  | sharedGet key substitute =>
      exact Traced.Keeps.sameLevels_afterAll_bind (fun settings => .done _) logging store
  | sharedAll =>
      exact Traced.Keeps.sameLevels_afterAll_bind
        (fun settings => .bind .current fun _ => .done _) logging store
  | sharedValidate =>
      exact Traced.Keeps.sameLevels_afterAll_bind
        (fun settings => .bind .current fun _ => .bind (.ofResult _) fun _ => .done _)
        logging store
  | sharedSet key value =>
      have changed :
          (logging.afterAll (Store.setShared key value store).trace).SameLevels
            (logging.afterAll (Store.sharedSettings store).trace) :=
        Traced.Keeps.sameLevels_afterAll_bind
          (Store.upkeep_leaveLevels.changeShared (fun _ _ _ leave => leave) key value)
          logging store
      refine Logging.SameLevels.trans ?_ changed
      exact Traced.Keeps.sameLevels_afterAll_bind (fun known => .done _) logging store
  | _ =>
      cases asks

theorem of_adopts?
    {request : ConfigRequest}
    {store : Store}
    {file : Option String}
    (adopts : request.adopts? store = some file) :
    request = .reload file ∨
      request.asksShared = true ∧ store.shared = none ∧ file = none := by
  unfold adopts? at adopts
  split at adopts
  · cases adopts
    exact .inl rfl
  · split at adopts
    next asks =>
      cases adopts
      obtain ⟨asksShared, isAbsent⟩ := Bool.and_eq_true_iff.mp asks
      exact .inr ⟨asksShared, Option.isNone_iff_eq_none.mp isAbsent, rfl⟩
    next =>
      cases adopts

/-- Where asking for the global settings makes no new ones, they are there. -/
theorem exists_shared_of_adopts?_none
    {request : ConfigRequest}
    {store : Store}
    (adoptsNone : request.adopts? store = none)
    (asks : request.asksShared = true) :
    ∃ settings, store.shared = some settings := by
  cases isShared : store.shared with
  | some settings =>
      exact ⟨settings, rfl⟩
  | none =>
      unfold adopts? at adoptsNone
      split at adoptsNone
      · cases adoptsNone
      · simp [asks, isShared] at adoptsNone

/-- A request that makes new global settings leaves the levels that making them leads to. -/
theorem sameLevels_of_adopts
    {request : ConfigRequest}
    {store : Store}
    {file : Option String}
    (adopts : request.adopts? store = some file)
    (logging : Logging) :
    (logging.afterAll (request.answer store).trace).SameLevels
      (logging.afterAll (Store.reload file store).trace) := by
  rcases of_adopts? adopts with rfl | ⟨asks, isAbsent, rfl⟩
  · exact Traced.Keeps.sameLevels_afterAll_bind (fun _ => .done _) logging store
  · rw [← Store.sharedSettings_of_none isAbsent]
    exact sameLevels_of_asksShared asks logging store

/-- Every other request leaves all levels. -/
theorem sameLevels_of_adopts_none
    {request : ConfigRequest}
    {store : Store}
    (adoptsNone : request.adopts? store = none)
    (logging : Logging) :
    (logging.afterAll (request.answer store).trace).SameLevels logging := by
  cases asks : request.asksShared with
  | true =>
      obtain ⟨settings, isShared⟩ := exists_shared_of_adopts?_none adoptsNone asks
      have asked := sameLevels_of_asksShared asks logging store
      rw [Store.sharedSettings_of_some isShared] at asked
      exact asked
  | false =>
      have keeps : Traced.Keeps LeaveLevels request.answer := by
        refine
          answer_keeps Store.upkeep_leaveLevels (fun asksToo => ?_) (fun key value isSet => ?_)
            (fun file isReload => ?_) (fun _ _ _ leave => leave)
        · cases asks.symm.trans asksToo
        · subst isSet
          cases asks
        · subst isReload
          cases adoptsNone
      exact keeps.sameLevels_afterAll logging store

/-- The ranks of the levels that new global settings hold which requests make, in order. -/
def adoptedRanks : List ConfigRequest → Store → List Int
  | [], _ => []
  | request :: rest, store =>
      let later := adoptedRanks rest (request.answer store).state
      match request.adopts? store with
      | some file =>
          ((Store.reload file store).result.toOption.bind Settings.logRank?).toList ++ later
      | none => later

theorem adoptedRanks_cons
    (request : ConfigRequest)
    (rest : List ConfigRequest)
    (store : Store) :
    adoptedRanks (request :: rest) store =
      adoptedRanks [request] store ++ adoptedRanks rest (request.answer store).state := by
  simp only [adoptedRanks]
  cases request.adopts? store <;> simp

end ConfigRequest

/-- A request about settings works on the store alone, whatever callbacks there are. -/
theorem Stage.perform_config
    [Record.Validator]
    (request : ConfigRequest)
    (stage : Stage) :
    let answered := request.answer stage.host.config
    perform (.config request) stage =
      { trace := answered.trace.map Entry.log
        state := { stage with host := { stage.host with config := answered.state } }
        result := answered.result } := by
  unfold perform
  cases stage.cast.turnsLeft <;> rfl

namespace World

variable [Record.Validator]

/-- What a request about settings leaves of a world. -/
theorem next_config
    (world : World)
    (request : ConfigRequest) :
    let answered := request.answer world.stage.host.config
    (world.next (.config request)).stage.host.config = answered.state ∧
      (world.next (.config request)).logging = world.logging.afterAll answered.trace := by
  intro answered
  refine ⟨?_, ?_⟩
  · simp only [next, answer, Stage.perform_config]
    rfl
  · rw [logging_next, Stage.perform_config]
    exact congrArg world.logging.afterAll (LogAction.ofTrace_map_log answered.trace)

/--
The log level of settings is applied when global settings are made, and at no other time
that something is done with settings.
-/
structure AppliesLevels (world : World) : Prop where
  /-- They can be made from every file that is accepted, also in the midst of a request. -/
  makes :
    ∀ (store : Store) (file : Option String),
      store.schema = world.stage.host.config.schema →
        store.Accepts file →
          ∃ made word rank, Store.AppliesLevel (Store.reload file store) made word rank
  /-- From any other file they are not made, and nothing is logged. -/
  refuses :
    ∀ (store : Store) (file : Option String),
      ¬ store.Accepts file →
        ∃ fault,
          (Store.reload file store).result = .error fault ∧ (Store.reload file store).trace = []
  /-- Global settings are made when they are first asked for, from a file that is found. -/
  created :
    world.stage.host.config.shared = none →
      world.stage.host.config.Accepts none →
        ∃ made word rank,
          Store.AppliesLevel (Store.sharedSettings world.stage.host.config) made word rank
  /-- They are made anew from a file, and the answer is the level that the root has then. -/
  reloaded :
    ∀ file,
      world.stage.host.config.Accepts file →
        ∃ made word rank,
          Store.AppliesLevel (Store.reload file world.stage.host.config) made word rank ∧
            (world.answer (.config (.reload file))).1.result = .ok (.level (.number rank))
  /-- A request that makes them does nothing else to any level. -/
  adopting :
    ∀ request file,
      request.adopts? world.stage.host.config = some file →
        (world.next (.config request)).logging.SameLevels
          (world.logging.afterAll (Store.reload file world.stage.host.config).trace)
  /-- A request that makes none leaves all levels, whatever it sets or builds. -/
  otherwise :
    ∀ request,
      request.adopts? world.stage.host.config = none →
        (world.next (.config request)).logging.SameLevels world.logging
  /-- So after any number of requests the root has the level of those that were made last. -/
  run :
    ∀ requests : List ConfigRequest,
      let last := (world.after (requests.map Request.config)).logging
      last.ownLevel Logging.rootLogger =
          (ConfigRequest.adoptedRanks requests world.stage.host.config).getLast?.elim
            (world.logging.ownLevel Logging.rootLogger) .number ∧
        ∀ logger,
          logger ≠ Logging.rootLogger → last.ownLevel logger = world.logging.ownLevel logger
  /--
  In a run in which nobody sets a level, callbacks included, it has the level of the global
  settings, whoever made them.
  -/
  inSync :
    world.stage.host.config.IsInSync world.logging →
      ∀ requests : List Request,
        (∀ request ∈ requests, request.setsNoLevel = true) →
          world.stage.cast.Allows (Act.asksOnly Request.setsNoLevel) →
            let last := world.after requests
            last.stage.host.config.IsInSync last.logging ∧
              ∀ logger,
                logger ≠ Logging.rootLogger →
                  last.logging.ownLevel logger = world.logging.ownLevel logger
  /-- In a run in which these stay the same ones, no level changes, whatever is set in them. -/
  stayed :
    world.stage.host.config.shared ≠ none →
      ∀ requests : List Request,
        (∀ request ∈ requests, request.replacesNothing = true) →
          world.stage.cast.Allows (Act.asksOnly Request.replacesNothing) →
            ∀ logger,
              (world.after requests).logging.ownLevel logger = world.logging.ownLevel logger

section Shipped

variable
  {world : World}
  (isShipped : world.stage.host.config.schema = Schema.shipped)

theorem sameLevels_next_of_adopts
    {request : ConfigRequest}
    {file : Option String}
    (adopts : request.adopts? world.stage.host.config = some file) :
    (world.next (.config request)).logging.SameLevels
      (world.logging.afterAll (Store.reload file world.stage.host.config).trace) := by
  rw [(world.next_config request).2]
  exact ConfigRequest.sameLevels_of_adopts adopts world.logging

theorem sameLevels_next_of_adopts_none
    {request : ConfigRequest}
    (adoptsNone : request.adopts? world.stage.host.config = none) :
    (world.next (.config request)).logging.SameLevels world.logging := by
  rw [(world.next_config request).2]
  exact ConfigRequest.sameLevels_of_adopts_none adoptsNone world.logging

include isShipped

/-- After each request the root has the level of the settings it made, if it made any. -/
theorem ownLevel_next
    (request : ConfigRequest) :
    let next := (world.next (.config request)).logging
    next.ownLevel Logging.rootLogger =
        (ConfigRequest.adoptedRanks [request] world.stage.host.config).getLast?.elim
          (world.logging.ownLevel Logging.rootLogger) .number ∧
      ∀ logger,
        logger ≠ Logging.rootLogger → next.ownLevel logger = world.logging.ownLevel logger := by
  intro next
  cases adopts : request.adopts? world.stage.host.config with
  | none =>
      have same := sameLevels_next_of_adopts_none adopts
      refine ⟨?_, fun logger _ => same.own logger⟩
      simp only [ConfigRequest.adoptedRanks, adopts, List.getLast?_nil, Option.elim_none]
      exact same.own _
  | some file =>
      have same := sameLevels_next_of_adopts adopts
      by_cases accepts : world.stage.host.config.Accepts file
      · obtain ⟨made, word, rank, applies⟩ := Store.appliesLevel_reload isShipped accepts
        refine ⟨?_, fun logger notRoot => ?_⟩
        · simp only [ConfigRequest.adoptedRanks, adopts, applies.result]
          refine ((same.own _).trans (applies.root world.logging)).trans ?_
          simp [Except.toOption, applies.logRank?]
        · exact (same.own logger).trans (applies.others world.logging logger notRoot)
      · obtain ⟨fault, isRefused⟩ := Store.exists_reload_of_refused accepts
        rw [isRefused] at same
        refine ⟨?_, fun logger _ => same.own logger⟩
        simp only [ConfigRequest.adoptedRanks, adopts, isRefused]
        exact same.own _

/-- After any number of requests it has the level of the settings that were made last. -/
theorem ownLevel_after
    (requests : List ConfigRequest) :
    let last := (world.after (requests.map Request.config)).logging
    last.ownLevel Logging.rootLogger =
        (ConfigRequest.adoptedRanks requests world.stage.host.config).getLast?.elim
          (world.logging.ownLevel Logging.rootLogger) .number ∧
      ∀ logger,
        logger ≠ Logging.rootLogger → last.ownLevel logger = world.logging.ownLevel logger := by
  induction requests generalizing world with
  | nil =>
      exact ⟨rfl, fun _ _ => rfl⟩
  | cons request rest inductionHypothesis =>
      have stillShipped : (world.next (.config request)).stage.host.config.schema = .shipped :=
        (world.schema_after [.config request]).trans isShipped
      obtain ⟨root, others⟩ := ownLevel_next isShipped request
      obtain ⟨lastRoot, lastOthers⟩ := inductionHypothesis stillShipped
      rw [(world.next_config request).1] at lastRoot
      refine ⟨?_, fun logger notRoot => ?_⟩
      · refine lastRoot.trans ?_
        rw [root, ConfigRequest.adoptedRanks_cons request rest, List.getLast?_append]
        cases (ConfigRequest.adoptedRanks rest
          (request.answer world.stage.host.config).state).getLast? <;> rfl
      · exact (lastOthers logger notRoot).trans (others logger notRoot)

theorem appliesLevels_of_shipped :
    world.AppliesLevels where
  makes _ _ inForce := Store.appliesLevel_reload (inForce.trans isShipped)
  refuses store file refused := by
    obtain ⟨fault, isRefused⟩ := Store.exists_reload_of_refused refused
    rw [isRefused]
    exact ⟨fault, rfl, rfl⟩
  created := by
    intro isAbsent accepts
    rw [Store.sharedSettings_of_none isAbsent]
    exact Store.appliesLevel_reload isShipped accepts
  reloaded := by
    intro file accepts
    obtain ⟨made, word, rank, applies⟩ := Store.appliesLevel_reload isShipped accepts
    refine ⟨made, word, rank, applies, ?_⟩
    let request : ConfigRequest := .reload file
    have ends : (request.answer world.stage.host.config).result = .ok (.inquiry .rootLevel) :=
      Traced.result_bind_eq_ok_iff.mpr ⟨made, applies.result, rfl⟩
    have performed :=
      congrArg Outcome.result (Stage.perform_config request world.stage)
    have isRoot :
        (world.next (.config request)).logging.ownLevel Logging.rootLogger = .number rank :=
      ((sameLevels_next_of_adopts rfl).own _).trans (applies.root world.logging)
    show (Stage.perform (.config request) world.stage).result.map _ = _
    rw [performed, ends]
    exact congrArg (fun level => Except.ok (Reply.level level)) isRoot
  adopting _ _ := sameLevels_next_of_adopts
  otherwise _ := sameLevels_next_of_adopts_none
  run := ownLevel_after isShipped
  inSync isInSync _ := isInSync_after isShipped isInSync
  stayed isThere requests replaceNone scripts := by
    obtain ⟨settings, isShared⟩ := Option.ne_none_iff_exists'.mp isThere
    exact ownLevel_after_of_shared isShared replaceNone scripts

end Shipped

/--
Whatever was asked for before in a run, from whatever environment it started, whatever file is
found, whoever reads it, and whatever callbacks did, the log level of settings is applied when
global settings are made, and only then.
-/
theorem appliesLevels_after
    (environment : Environment)
    (cast : Cast)
    (found : Option String)
    (loader : EnvFile.Loader)
    (requests : List Request) :
    ((initial Schema.shipped environment cast found loader).after requests).AppliesLevels :=
  appliesLevels_of_shipped (schema_after _ requests)

end World

namespace World

/-- What is found is applied once; what is set and built afterwards is not. -/
theorem appliesLevels_after_debug :
    let found := some "TELEHOST_LOG_LEVEL=debug\n"
    let requests : List ConfigRequest :=
      [.sharedSet Schema.logLevelKey (.text "error"), .create "c" Table.empty none]
    let world := initial Schema.shipped Table.empty {} found
    let last := world.after (requests.map Request.config)
    last.logging.ownLevel Logging.rootLogger = .number 10 ∧
      last.logging.ownLevel Logging.configLogger = Logging.unsetLevel := by
  intro found requests world last
  have adopted : ConfigRequest.adoptedRanks requests world.stage.host.config = [10] := by
    decide +kernel
  obtain ⟨root, others⟩ :=
    (appliesLevels_after Table.empty {} found .standard []).run requests
  refine ⟨?_, others Logging.configLogger (by decide)⟩
  change _ = (ConfigRequest.adoptedRanks requests world.stage.host.config).getLast?.elim _ _
    at root
  rw [adopted] at root
  exact root

/--
A value with a null character is no value of a variable, whatever its name.  From a file
with one no settings are made, and the root keeps its level whatever the file says of it.
-/
theorem not_reloaded_null :
    let file := "A=x\x00y\nTELEHOST_LOG_LEVEL=debug\n"
    let world := initial Schema.shipped Table.empty {}
    let reload : Request := .config (.reload (some file))
    (∀ binding ∈ EnvFile.ofContent file, Environment.checkVariable binding.name "" = .ok ()) ∧
      (world.answer reload).1.result = .error .nullInVariable ∧
        (world.next reload).logging.ownLevel Logging.rootLogger = Logging.rootLevel := by
  intro file world reload
  refine ⟨by decide +kernel, ?_, by decide +kernel⟩
  -- Replies have no decidable equality, so the fault is found by a check that has.
  have isNull :
      (match (world.answer reload).1.result with
        | .error .nullInVariable => true
        | _ => false) = true := by
    decide +kernel
  split at isNull
  next isFault =>
    exact isFault
  next =>
    cases isNull

end World

end PlatformDouble
