import PlatformDouble.Proofs.Config.Upkeep
import PlatformDouble.Proofs.Host.LevelRuns
import PlatformDouble.Proofs.Host.RunUpkeep
import PlatformDouble.Proofs.Logging.Levels

namespace PlatformDouble

/-!
# Settings and levels over runs

What a run does to levels is told by the log actions of its traces, and the store is
changed only by requests about settings and where a holder is made.  So a property of the
log actions so far and of the store that these uphold is upheld by every run, whatever
callbacks do in the midst of it.
-/

open Config
open Context (Holder)

/-- The log action that an entry asks for, if it is one. -/
def Entry.logAction? {ρ : Type} : Entry ρ → Option LogAction
  | .log action => some action
  | _ => none

namespace LogAction

variable {ρ : Type}

/-- The log actions of a trace, in order. -/
def ofTrace (trace : List (Entry ρ)) : List LogAction :=
  trace.filterMap Entry.logAction?

@[simp] theorem ofTrace_append
    (earlier later : List (Entry ρ)) :
    ofTrace (earlier ++ later) = ofTrace earlier ++ ofTrace later :=
  List.filterMap_append

theorem ofTrace_of_none
    {entry : Entry ρ}
    (noLog : entry.logAction? = none) :
    ofTrace [entry] = [] :=
  List.filterMap_cons_none noLog

@[simp] theorem ofTrace_map_log
    (actions : List LogAction) :
    ofTrace (actions.map (Entry.log : LogAction → Entry ρ)) = actions := by
  induction actions with
  | nil =>
      rfl
  | cons action rest inductionHypothesis =>
      exact congrArg (action :: ·) inductionHypothesis

end LogAction

/-- The log actions of a trace take effect one after another. -/
theorem Transcript.logging_ofTrace
    (logging : Logging)
    (trace : List (Entry Response)) :
    (ofTrace logging trace).logging = logging.afterAll (LogAction.ofTrace trace) := by
  induction trace generalizing logging with
  | nil =>
      rfl
  | cons entry rest inductionHypothesis =>
      cases entry with
      | log action =>
          exact inductionHypothesis (logging.after action)
      | _ =>
          exact inductionHypothesis logging

/-- Whether an act asks for nothing but what is permitted. -/
def Act.asksOnly (permits : Request → Bool) : Act → Bool
  | raise _ => true
  | perform request => permits request
  | attempt request => permits request

/-- A property of the log actions so far and of the store. -/
def Host.OfConfig
    (holds : List LogAction → Store → Prop)
    (past : List (Entry Response))
    (host : Host) : Prop :=
  holds (LogAction.ofTrace past) host.config

section

variable
  {holds : List LogAction → Store → Prop}
  (ignores :
    ∀ past store action,
      action.leavesLevels = true → holds past store → holds (past ++ [action]) store)
  (asks : Traced.Keeps holds Store.sharedSettings)

namespace Host

variable {past : List (Entry Response)} {host : Host}

/-- Only log actions have a bearing, and the store. -/
theorem OfConfig.append
    (holding : OfConfig holds past host)
    {entry : Entry Response}
    (noLog : entry.logAction? = none)
    {reached : Host}
    (same : reached.config = host.config) :
    OfConfig holds (past ++ [entry]) reached := by
  unfold OfConfig
  rw [LogAction.ofTrace_append, LogAction.ofTrace_of_none noLog, List.append_nil, same]
  exact holding

theorem OfConfig.logged
    {α : Type}
    {code : Traced LogAction Host α}
    (keeps : Traced.Keeps (fun actions host => holds actions host.config) code) :
    Traced.Keeps (OfConfig holds) (Traced.logged code) := by
  intro past host holding
  have kept := keeps (LogAction.ofTrace past) host holding
  rw [← LogAction.ofTrace_map_log (code host).trace, ← LogAction.ofTrace_append] at kept
  exact kept

variable [Record.Validator]

include asks

theorem newHolder_keeps
    (chosen : Option String)
    (injections : Context.Injections) :
    Traced.Keeps (fun actions host => holds actions host.config)
      (newHolder chosen injections) := by
  refine .bind (fun past host holding => ?_) fun settings => ?_
  · cases chosen with
    | some name =>
        exact Store.settingsOf_keeps name past host.config holding
    | none =>
        exact asks past host.config holding
  · refine .bind .current fun host => ?_
    refine .bind (.ofResult _) fun held => ?_
    exact .bind (.update fun _ _ holding => holding) fun _ => .done _

include ignores

/-- All that requests to a holder do to the store is to ask for the global settings. -/
theorem upkeep_ofConfig :
    Upkeep (OfConfig holds) (fun _ => True) where
  idle past host entry isIdle holding := by
    cases entry with
    | log action =>
        unfold OfConfig
        rw [LogAction.ofTrace_append]
        exact ignores _ _ action isIdle holding
    | _ =>
        exact holding.append rfl rfl
  holder := by
    have keeps : Traced.Keeps (fun actions host => holds actions host.config) holder := by
      refine .bind .current fun host => ?_
      cases host.current with
      | some held =>
          exact .done held
      | none =>
          exact newHolder_keeps asks none {}
    exact OfConfig.logged keeps
  fits _ _ _ _ _ := trivial
  gate _ _ _ _ _ holding _ := holding
  registered _ _ _ _ _ holding := holding.append rfl rfl
  opened _ _ _ _ _ _ holding := holding.append rfl rfl
  advanced _ _ _ _ holding _ := holding.append rfl rfl
  putResource _ _ _ _ _ _ holding := holding

end Host

include ignores asks

/-- What requests about settings uphold is upheld by all requests, whatever callbacks do. -/
theorem Stage.upkeep_ofConfig
    [Record.Validator]
    {permits : Request → Bool}
    (answers :
      ∀ request, permits (.config request) = true → Traced.Keeps holds request.answer)
    (levels :
      ∀ request : ReportRequest,
        permits (.reports request) = true →
          request.setsLevels = true →
            ∀ past store action, holds past store → holds (past ++ [action]) store) :
    Upkeep (Host.OfConfig holds) (fun _ => True) (fun _ => True) permits
      (Act.asksOnly permits) where
  host := Host.upkeep_ofConfig ignores asks
  makes settings injections _ := Host.OfConfig.logged (Host.newHolder_keeps asks _ _)
  config request isPermitted past host holding := by
    have kept := answers request isPermitted (LogAction.ofTrace past) host.config holding
    rw [← LogAction.ofTrace_map_log (request.answer host.config).trace,
      ← LogAction.ofTrace_append] at kept
    exact kept
  levels request isPermitted sets past host action holding := by
    unfold Host.OfConfig
    rw [LogAction.ofTrace_append]
    exact levels request isPermitted sets _ _ action holding
  performs _ isPermitted := isPermitted
  attempts _ isPermitted := isPermitted
  told _ _ _ _ holding := holding.append rfl rfl
  answers _ _ _ _ _ _ _ _ := trivial

end

namespace World

variable [Record.Validator]

/-- What a request leaves of a world: the log actions of its trace have taken effect. -/
theorem logging_next
    (world : World)
    (request : Request) :
    (world.next request).logging =
      world.logging.afterAll (LogAction.ofTrace (Stage.perform request world.stage).trace) :=
  Transcript.logging_ofTrace _ _

/-- What all requests uphold still holds at the end of a run. -/
theorem after_upholds
    {holds : List LogAction → Store → Prop}
    {permits : Request → Bool}
    {allowed : Act → Bool}
    (upkeep :
      Stage.Upkeep (Host.OfConfig holds) (fun _ => True) (fun _ => True) permits allowed)
    {requests : List Request}
    (permitted : ∀ request ∈ requests, permits request = true)
    (past : List LogAction)
    (world : World)
    (holding : holds past world.stage.host.config)
    (scripts : world.stage.cast.Allows allowed) :
    ∃ actions,
      (world.after requests).logging = world.logging.afterAll actions ∧
        holds (past ++ actions) (world.after requests).stage.host.config := by
  induction requests generalizing past world with
  | nil =>
      refine ⟨[], rfl, ?_⟩
      rw [List.append_nil]
      exact holding
  | cons request rest inductionHypothesis =>
      have starts :
          Stage.Upholds (Host.OfConfig holds) allowed (past.map Entry.log) world.stage := by
        refine ⟨?_, scripts⟩
        unfold Host.OfConfig
        rw [LogAction.ofTrace_map_log]
        exact holding
      have reached :=
        upkeep.perform.keeps request (permitted request List.mem_cons_self) _ _ starts
      have left := reached.host
      unfold Host.OfConfig at left
      rw [LogAction.ofTrace_append, LogAction.ofTrace_map_log] at left
      obtain ⟨actions, leads, last⟩ :=
        inductionHypothesis
          (fun other member => permitted other (List.mem_cons_of_mem request member))
          _ (world.next request) left reached.scripts
      refine ⟨LogAction.ofTrace (Stage.perform request world.stage).trace ++ actions, ?_, ?_⟩
      · rw [Logging.afterAll_append, ← logging_next]
        exact leads
      · rw [← List.append_assoc]
        exact last

end World

end PlatformDouble
