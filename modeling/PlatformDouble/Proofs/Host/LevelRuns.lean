import Mathlib.Data.List.Forall2
import PlatformDouble.Proofs.Host.LevelCalls

namespace PlatformDouble

/-!
# Runs that differ in the levels that are set

Requests never look at logging, and traces are gone through only once they are complete.
So what a run comes to is told by its traces, and all that the levels have a bearing on
is what is written and which levels are reported in answers.
-/

/-- An answer without the levels it reports. -/
def Reply.withoutLevels : Reply → Reply
  | level _ => level Logging.unsetLevel
  | logger name _ _ => logger name Logging.unsetLevel Logging.unsetLevel
  | root handlers _ configured => root handlers Logging.unsetLevel configured
  | reply => reply

/-- What a callback tells when it has set a level. -/
inductive IsLevelAnswer : List (Event Reply) → Prop
  | performed : IsLevelAnswer [.performed .nothing]
  | attempted : IsLevelAnswer [.attempted (.ok .nothing)]

namespace Logging

/-- States of logging that differ in levels and what follows from them. -/
structure SameButLevels (first second : Logging) : Prop where
  hasHandler : first.hasHandler = second.hasHandler
  configured : first.configured = second.configured

namespace SameButLevels

variable {first second : Logging}

theorem withLogger
    (logging : Logging)
    (logger : String) :
    (logging.withLogger logger).SameButLevels logging := by
  unfold Logging.withLogger
  split <;> exact ⟨rfl, rfl⟩

theorem trans
    {third : Logging}
    (same : first.SameButLevels second)
    (sameToo : second.SameButLevels third) :
    first.SameButLevels third :=
  ⟨same.hasHandler.trans sameToo.hasHandler, same.configured.trans sameToo.configured⟩

theorem symm
    (same : first.SameButLevels second) :
    second.SameButLevels first :=
  ⟨same.hasHandler.symm, same.configured.symm⟩

/-- Only to configure the root anew changes more than levels. -/
theorem after_self
    (logging : Logging)
    {action : LogAction}
    (notConfigured : ∀ configured dropHandlers, action ≠ .reconfigure configured dropHandlers) :
    (logging.after action).SameButLevels logging := by
  cases action with
  | mention logger =>
      exact withLogger logging logger
  | record logger severity message =>
      have known := withLogger logging logger
      exact ⟨known.hasHandler, known.configured⟩
  | setLevel logger level =>
      exact ⟨rfl, rfl⟩
  | reconfigure configured dropHandlers =>
      exact absurd rfl (notConfigured configured dropHandlers)

/-- A call that sets a level changes no more than levels. -/
theorem after_of_isOfLevelCall
    (logging : Logging)
    {action : LogAction}
    (ofLevelCall : action.isOfLevelCall = true) :
    (logging.after action).SameButLevels logging := by
  apply after_self
  rintro configured dropHandlers rfl
  cases ofLevelCall

theorem configure
    (same : first.SameButLevels second) :
    first.configure.SameButLevels second.configure := by
  unfold Logging.configure
  rw [same.hasHandler, same.configured]
  split
  · exact same
  · split <;> exact ⟨by simp, rfl⟩

theorem after
    (same : first.SameButLevels second)
    (action : LogAction) :
    (first.after action).SameButLevels (second.after action) := by
  cases action with
  | reconfigure configured dropHandlers =>
      exact configure ⟨by rw [same.hasHandler], rfl⟩
  | _ =>
      refine ((after_self first ?_).trans same).trans (after_self second ?_).symm <;> nofun

/-- A question about logging is answered alike but for levels. -/
theorem settle
    (same : first.SameButLevels second)
    (response : Response) :
    (response.settle first).withoutLevels = (response.settle second).withoutLevels := by
  cases response with
  | known reply =>
      rfl
  | inquiry question =>
      cases question <;>
        simp [Response.settle, Logging.settle, Reply.withoutLevels, same.hasHandler,
          same.configured]

theorem settle_result
    (same : first.SameButLevels second)
    (result : Except Fault Response) :
    (result.map (Response.settle first)).map Reply.withoutLevels =
      (result.map (Response.settle second)).map Reply.withoutLevels := by
  cases result with
  | ok response =>
      exact congrArg Except.ok (same.settle response)
  | error fault =>
      rfl

theorem settle_event
    (same : first.SameButLevels second)
    (event : Event Response) :
    (event.map (Response.settle first)).map Reply.withoutLevels =
      (event.map (Response.settle second)).map Reply.withoutLevels := by
  cases event with
  | performed answer =>
      exact congrArg Event.performed (same.settle answer)
  | attempted outcome =>
      exact congrArg Event.attempted (same.settle_result outcome)
  | _ =>
      rfl

end SameButLevels

end Logging

/-- What is observed in a trace is the same but for levels, and for the calls that set them. -/
theorem Transcript.sameButLevels_ofTrace
    {trace traceToo : List (Entry Response)}
    (sameTrace : SameBut IsLevelCall trace traceToo)
    {first second : Logging}
    (same : first.SameButLevels second) :
    (ofTrace first trace).logging.SameButLevels (ofTrace second traceToo).logging ∧
      SameBut IsLevelAnswer
        ((ofTrace first trace).events.map (Event.map Reply.withoutLevels))
        ((ofTrace second traceToo).events.map (Event.map Reply.withoutLevels)) := by
  induction sameTrace generalizing first second with
  | nil =>
      exact ⟨same, .nil⟩
  | cons entry rest inductionHypothesis =>
      cases entry with
      | log action =>
          exact inductionHypothesis (same.after action)
      | gate change =>
          exact inductionHypothesis same
      | cursor change =>
          exact inductionHypothesis same
      | event event =>
          obtain ⟨sameLogging, sameEvents⟩ := inductionHypothesis same
          refine ⟨sameLogging, ?_⟩
          simp only [ofTrace, List.map_cons]
          rw [same.settle_event event]
          exact .cons _ sameEvents
  | left isLevelCall rest inductionHypothesis =>
      cases isLevelCall with
      | performed ofLevelCall =>
          have unchanged := Logging.SameButLevels.after_of_isOfLevelCall first ofLevelCall
          obtain ⟨sameLogging, sameEvents⟩ := inductionHypothesis (unchanged.trans same)
          exact ⟨sameLogging, .left .performed sameEvents⟩
      | attempted ofLevelCall =>
          have unchanged := Logging.SameButLevels.after_of_isOfLevelCall first ofLevelCall
          obtain ⟨sameLogging, sameEvents⟩ := inductionHypothesis (unchanged.trans same)
          exact ⟨sameLogging, .left .attempted sameEvents⟩
  | right isLevelCall rest inductionHypothesis =>
      cases isLevelCall with
      | performed ofLevelCall =>
          have unchanged := Logging.SameButLevels.after_of_isOfLevelCall second ofLevelCall
          obtain ⟨sameLogging, sameEvents⟩ := inductionHypothesis (same.trans unchanged.symm)
          exact ⟨sameLogging, .right .performed sameEvents⟩
      | attempted ofLevelCall =>
          have unchanged := Logging.SameButLevels.after_of_isOfLevelCall second ofLevelCall
          obtain ⟨sameLogging, sameEvents⟩ := inductionHypothesis (same.trans unchanged.symm)
          exact ⟨sameLogging, .right .attempted sameEvents⟩

/-- What there is to be seen of a request, but for what is written. -/
structure Sighting where
  result : Except Fault Reply
  /-- What was observed during the request. -/
  events : List (Event Reply)
  /-- All that was done, with the changes of gates and of cursors. -/
  trace : List (Entry Response)
  /-- All state after the request: gates, holders, cursors, settings, environment. -/
  host : Host

namespace Sighting

/-- Two sightings differ at most in the levels that are set and reported. -/
structure SameButLevels (first second : Sighting) : Prop where
  result : first.result.map Reply.withoutLevels = second.result.map Reply.withoutLevels
  events :
    SameBut IsLevelAnswer
      (first.events.map (Event.map Reply.withoutLevels))
      (second.events.map (Event.map Reply.withoutLevels))
  trace : SameBut IsLevelCall first.trace second.trace
  host : first.host = second.host

end Sighting

namespace World

variable [Record.Validator]

/-- A world after a request. -/
def next (world : World) (request : Request) : World :=
  (world.answer request).2

def after (world : World) (requests : List Request) : World :=
  requests.foldl next world

/-- What is seen of a request. -/
def sighting (world : World) (request : Request) : Sighting where
  result := (world.answer request).1.result
  events := (world.answer request).1.events
  trace := (Stage.perform request world.stage).trace
  host := (world.next request).stage.host

/-- Worlds that differ in levels, and in calls of their scripts that set levels. -/
structure SameButLevels (first second : World) : Prop where
  stage : first.stage.SameButLevelCalls second.stage
  logging : first.logging.SameButLevels second.logging

variable {first second : World}

/-- A request is seen alike in two worlds that differ in levels, and they differ in no more then. -/
theorem SameButLevels.step
    (same : first.SameButLevels second)
    (request : Request) :
    (first.sighting request).SameButLevels (second.sighting request) ∧
      (first.next request).SameButLevels (second.next request) := by
  have outcomes := Stage.perform_goAlike request first.stage second.stage same.stage
  obtain ⟨sameLogging, sameEvents⟩ :=
    Transcript.sameButLevels_ofTrace outcomes.trace same.logging
  refine ⟨{
    result := ?_
    events := sameEvents
    trace := outcomes.trace
    host := outcomes.state.host }, ⟨outcomes.state, sameLogging⟩⟩
  simp only [sighting, answer]
  rw [outcomes.result]
  exact sameLogging.settle_result _

end World

namespace World

section Example

/-- A connection that ends its session as soon as it is told that it stands. -/
def restless : ConnectionId :=
  ⟨"restless"⟩

/-- What it does then. -/
def leaving : Turn :=
  [.attempt (.unbind restless)]

/-- It is bound to a service that was registered before. -/
def meeting : List Request :=
  [.context (.registerInDirectory (.text "call") (some (.text "a", .text "b")) (some ⟨"s"⟩) none),
    .bind restless { action := .null, component := some (.text "a", .text "b") }]

end Example

end World

end PlatformDouble
