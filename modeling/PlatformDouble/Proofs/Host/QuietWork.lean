import PlatformDouble.Context.Holder
import PlatformDouble.Host.Reports
import PlatformDouble.Proofs.Gate.Reading
import PlatformDouble.Proofs.Traced.Keeps

namespace PlatformDouble

/-!
# Quiet work

Much of what a host does changes no state and leaves quiet entries only, none of which
tells how a request of a callback ended or gives a logger a level.  Such work keeps every
property on which these idle entries have no bearing.
-/

variable {ρ σ α : Type}

/-- Quiet entries have no bearing on a property. -/
def IgnoresQuiet (holds : List (Entry ρ) → σ → Prop) : Prop :=
  ∀ past state entry,
    entry.isQuiet = true → holds past state → holds (past ++ [entry]) state

/-- Whether an action neither gives a logger a level nor configures the root. -/
def LogAction.leavesLevels : LogAction → Bool
  | mention _ => true
  | record _ _ _ => true
  | _ => false

/--
Whether an entry is quiet and neither tells how a request of a callback ended nor gives a
logger a level.
-/
def Entry.isIdle : Entry ρ → Bool
  | .event (.performed _) => false
  | .event (.attempted _) => false
  | .log action => action.leavesLevels
  | entry => entry.isQuiet

/-- Idle entries have no bearing on a property. -/
def IgnoresIdle (holds : List (Entry ρ) → σ → Prop) : Prop :=
  ∀ past state entry,
    entry.isIdle = true → holds past state → holds (past ++ [entry]) state

theorem IgnoresQuiet.idle
    {holds : List (Entry ρ) → σ → Prop}
    (ignores : IgnoresQuiet holds) :
    IgnoresIdle holds := by
  intro past state entry isIdle held
  refine ignores past state entry ?_ held
  cases entry with
  | event event =>
      rfl
  | log action =>
      rfl
  | _ =>
      exact isIdle

/-- No log action has a bearing on a property, not even one that gives a logger a level. -/
def IgnoresLog (holds : List (Entry ρ) → σ → Prop) : Prop :=
  ∀ past state action, holds past state → holds (past ++ [.log action]) state

theorem IgnoresQuiet.log
    {holds : List (Entry ρ) → σ → Prop}
    (ignores : IgnoresQuiet holds) :
    IgnoresLog holds :=
  fun past state action held => ignores past state (.log action) rfl held

theorem IgnoresLog.append
    {holds : List (Entry ρ) → σ → Prop}
    (ignores : IgnoresLog holds)
    (actions : List LogAction)
    {past : List (Entry ρ)}
    {state : σ}
    (held : holds past state) :
    holds (past ++ actions.map Entry.log) state := by
  induction actions generalizing past with
  | nil =>
      rw [List.map_nil, List.append_nil]
      exact held
  | cons action rest inductionHypothesis =>
      rw [List.map_cons, ← List.singleton_append, ← List.append_assoc]
      exact inductionHypothesis (ignores past state action held)

/-- Work that only has log actions take effect keeps a property on which these have none. -/
theorem IgnoresLog.logged
    {holds : List (Entry ρ) → σ → Prop}
    (ignores : IgnoresLog holds)
    {action : Traced LogAction σ α}
    (same : ∀ state, (action state).state = state) :
    Traced.Keeps holds (Traced.logged action) := by
  intro past state held
  show holds (past ++ (action state).trace.map Entry.log) (action state).state
  rw [same]
  exact ignores.append _ held

namespace IgnoresIdle

variable {holds : List (Entry ρ) → σ → Prop}

theorem append
    (ignores : IgnoresIdle holds)
    {past more : List (Entry ρ)}
    {state : σ}
    (idle : ∀ entry ∈ more, entry.isIdle = true)
    (held : holds past state) :
    holds (past ++ more) state := by
  induction more generalizing past with
  | nil =>
      rw [List.append_nil]
      exact held
  | cons entry rest inductionHypothesis =>
      have next : holds (past ++ [entry]) state :=
        ignores past state entry (idle entry List.mem_cons_self) held
      rw [← List.singleton_append, ← List.append_assoc]
      apply inductionHypothesis _ next
      intro other member
      exact idle other (List.mem_cons_of_mem entry member)

theorem emit
    (ignores : IgnoresIdle holds)
    {entry : Entry ρ}
    (isIdle : entry.isIdle = true) :
    Traced.Keeps holds (Traced.emit entry) :=
  fun past state held => ignores past state entry isIdle held

/-- Writing a record is idle. -/
theorem log
    (ignores : IgnoresIdle holds)
    (logger : String)
    (severity : Logging.Severity)
    (message : String) :
    Traced.Keeps holds (Traced.logged (Traced.log logger severity message)) :=
  fun past state held => ignores past state (.log (.record logger severity message)) rfl held

end IgnoresIdle

namespace Logging

@[simp] theorem state_recordAt
    (logger : String)
    (level : Value)
    (message : String)
    (state : σ) :
    (recordAt logger level message state).state = state := by
  unfold recordAt
  cases Severity.ofValue? level with
  | some severity =>
      rfl
  | none =>
      rfl

/-- Writing a record gives no logger a level, whether or not the value is one. -/
theorem leavesLevels_of_mem_recordAt
    {logger : String}
    {level : Value}
    {message : String}
    {state : σ}
    {action : LogAction}
    (member : action ∈ (recordAt logger level message state).trace) :
    action.leavesLevels = true := by
  unfold recordAt at member
  cases found : Severity.ofValue? level with
  | some severity =>
      rw [found] at member
      rcases List.mem_cons.mp member with rfl | isRecord
      · rfl
      · rw [List.mem_singleton.mp isRecord]
        rfl
  | none =>
      rw [found] at member
      rw [List.mem_singleton.mp member]
      rfl

@[simp] theorem state_setLevel
    (logger : String)
    (value : Value)
    (state : σ) :
    (setLevel logger value state).state = state := by
  unfold setLevel
  cases LevelChoice.ofValue value with
  | error fault =>
      rfl
  | ok choice =>
      cases choice <;> rfl

end Logging

/-- Writing a record at a level given as a value is idle. -/
theorem IgnoresIdle.recordAt
    {holds : List (Entry ρ) → σ → Prop}
    (ignores : IgnoresIdle holds)
    (logger : String)
    (level : Value)
    (message : String) :
    Traced.Keeps holds (Traced.logged (Logging.recordAt logger level message)) := by
  intro past state held
  let recorded := Logging.recordAt logger level message state
  show holds (past ++ recorded.trace.map Entry.log) recorded.state
  rw [Logging.state_recordAt]
  refine ignores.append (fun entry member => ?_) held
  obtain ⟨action, isRecorded, rfl⟩ := List.mem_map.mp member
  exact Logging.leavesLevels_of_mem_recordAt isRecorded

section

variable
  {holds : List (Entry ρ) → σ → Prop}
  (ignores : IgnoresIdle holds)

include ignores

theorem FailureReport.guarding_keeps
    (report : FailureReport)
    (raiseAgain : Bool)
    (fallback : α)
    {operation : Traced (Entry ρ) σ α}
    (keeps : Traced.Keeps holds operation) :
    Traced.Keeps holds (report.guarding Entry.log raiseAgain fallback operation) := by
  refine .bind (.attempt keeps) fun outcome => ?_
  cases outcome with
  | ok answer =>
      exact .done answer
  | error fault =>
      dsimp only
      split
      · refine .bind (ignores.recordAt _ _ _) fun _ => ?_
        cases raiseAgain with
        | true =>
            exact .fail fault
        | false =>
            exact .done fallback
      · exact .fail fault

namespace Context

omit ignores in
theorem Injection.ask_keeps
    (injection : Injection)
    (argument : String) :
    Traced.Keeps holds (injection.ask argument) := by
  unfold Injection.ask
  split
  · exact .done _
  · exact .fail _
  · exact .done _

theorem Holder.resource_keeps
    (holder : Holder)
    (id : Int) :
    Traced.Keeps holds (holder.resource id) := by
  unfold Holder.resource
  split
  · exact .done _
  · exact .bind (ignores.emit rfl) fun _ => Injection.ask_keeps _ _
  · exact .done _

theorem Holder.locate_keeps
    (holder : Holder)
    (name : Value) :
    Traced.Keeps holds (holder.locate name) := by
  unfold Holder.locate
  split
  · exact .done _
  · refine .bind (ignores.emit rfl) fun _ => ?_
    split
    · exact Injection.ask_keeps _ _
    · exact .done _

theorem Holder.systemService_keeps
    (holder : Holder)
    (name : Value) :
    Traced.Keeps holds (holder.systemService name) := by
  refine .bind (Holder.locate_keeps ignores holder name) fun located => ?_
  cases located <;> exact .done _

end Context

end

/-- Whether a request may give a logger a level. -/
def ReportRequest.setsLevels : ReportRequest → Bool
  | setLevel _ _ => true
  | reconfigure _ _ => true
  | _ => false

/-- Requests about reports are idle but for those that may give a logger a level. -/
theorem ReportRequest.answer_keeps
    {holds : List (Entry Response) → σ → Prop}
    (ignores : IgnoresIdle holds)
    {request : ReportRequest}
    (levels : request.setsLevels = true → IgnoresLog holds) :
    Traced.Keeps holds request.answer := by
  cases request with
  | health gate initialized dependencies checks details =>
      exact .bind (.ofResult _) fun _ => .done _
  | handle report failure fallback =>
      exact .bind (ignores.recordAt _ _ _) fun _ => .done _
  | guarded report arguments named ending fallback raiseAgain =>
      refine .bind (report.guarding_keeps ignores _ _ ?_) fun _ => .done _
      exact .bind (ignores.emit rfl) fun _ => .ofResult _
  | logger gate =>
      exact .bind (ignores.emit rfl) fun _ => .done _
  | setLevel level gate =>
      refine .bind ((levels rfl).logged fun _ => ?_) fun _ => .done _
      exact Logging.state_setLevel _ _ _
  | log gate level message =>
      exact .bind (ignores.recordAt _ _ _) fun _ => .done _
  | rootLevel =>
      exact .done _
  | reconfigure configured dropHandlers =>
      refine .bind (fun past state held => ?_) fun _ => .done _
      exact levels rfl past state (.reconfigure configured dropHandlers) held

end PlatformDouble
