import PlatformDouble.Host.Stage
import PlatformDouble.Proofs.Traced.SideBySide

namespace PlatformDouble

/-!
# Stages side by side

A request goes alike on two stages with the same host whose casts look the same, if
their callbacks do.  Nothing else of the two stages matters to it, since a request
looks at a cast only to see what a service hands out and whether a connection listens.
-/

open Traced (GoAlike)

section Reports

variable
  {σ : Type}
  {extra : List (Entry Response) → Prop}
  {alike : σ → σ → Prop}

namespace Logging

theorem recordAt_goAlike
    (logger : String)
    (level : Value)
    (message : String) :
    GoAlike extra alike
      (Traced.logged (recordAt logger level message))
      (Traced.logged (recordAt logger level message)) := by
  unfold recordAt
  cases Severity.ofValue? level with
  | some severity =>
      exact .bind (.emit (Entry.log (.mention logger))) fun _ => .emit _
  | none =>
      exact .bind (.emit (Entry.log (.mention logger))) fun _ => .fail _

theorem setLevel_goAlike
    (logger : String)
    (value : Value) :
    GoAlike extra alike
      (Traced.logged (setLevel logger value))
      (Traced.logged (setLevel logger value)) := by
  unfold setLevel
  cases LevelChoice.ofValue value with
  | error fault =>
      exact .bind (.emit (Entry.log (.mention logger))) fun _ => .fail fault
  | ok choice =>
      cases choice <;> exact .emit _

end Logging

theorem FailureReport.guarding_goAlike
    {α : Type}
    (report : FailureReport)
    (raiseAgain : Bool)
    (fallback : α)
    {first second : Traced (Entry Response) σ α}
    (goAlike : GoAlike extra alike first second) :
    GoAlike extra alike
      (report.guarding Entry.log raiseAgain fallback first)
      (report.guarding Entry.log raiseAgain fallback second) := by
  refine .bind (.attempt goAlike) fun outcome => ?_
  cases outcome with
  | ok answer =>
      exact .done answer
  | error fault =>
      dsimp only
      split
      · refine .bind (Logging.recordAt_goAlike _ _ _) fun _ => ?_
        cases raiseAgain with
        | true =>
            exact .fail fault
        | false =>
            exact .done fallback
      · exact .fail fault

/-- Requests about reports look at no state. -/
theorem ReportRequest.answer_goAlike
    (request : ReportRequest) :
    GoAlike extra alike request.answer request.answer := by
  cases request with
  | health gate initialized dependencies checks details =>
      exact .bind (.ofResult _) fun _ => .done _
  | handle report failure fallback =>
      exact .bind (Logging.recordAt_goAlike _ _ _) fun _ => .done _
  | guarded report arguments named ending fallback raiseAgain =>
      refine .bind (report.guarding_goAlike _ _ ?_) fun _ => .done _
      exact .bind (.emit _) fun _ => .ofResult _
  | logger gate =>
      exact .bind (.emit _) fun _ => .done _
  | setLevel level gate =>
      exact .bind (Logging.setLevel_goAlike _ _) fun _ => .done _
  | log gate level message =>
      exact .bind (Logging.recordAt_goAlike _ _ _) fun _ => .done _
  | rootLevel =>
      exact .done _
  | reconfigure configured dropHandlers =>
      exact .bind (.emit _) fun _ => .done _

end Reports

namespace Binding

section Gate

variable
  {σ : Type}
  {extra : List (Entry Response) → Prop}
  {alike : σ → σ → Prop}
  {gate : StatePart σ Gate}

theorem refuse_goAlike
    {α : Type}
    (fault : Fault) :
    GoAlike extra alike (refuse fault : Traced (Entry Response) σ α) (refuse fault) :=
  .bind (.emit (Entry.log (.record Logging.bindingLogger .warning (refusalText fault)))) fun _ =>
    .fail fault

theorem openSession_goAlike
    (shared : gate.IsShared alike)
    (connection : ConnectionId)
    (component : Option ComponentName) :
    GoAlike extra alike
      (openSession gate connection component)
      (openSession gate connection component) := by
  refine .current_bind fun state other stateAlike => ?_
  rw [shared.get state other stateAlike]
  cases (gate.get other).openSession connection component with
  | error fault =>
      exact refuse_goAlike fault state other stateAlike
  | ok answer =>
      obtain ⟨session, opened⟩ := answer
      exact {
        trace := .refl _
        state := shared.put opened state other stateAlike
        result := rfl }

theorem withdraw_goAlike
    (shared : gate.IsShared alike)
    (failed : Session) :
    GoAlike extra alike (withdraw gate failed) (withdraw gate failed) := by
  refine .current_bind fun state other stateAlike => ?_
  rw [shared.get state other stateAlike]
  exact {
    trace := .refl _
    state := shared.put _ state other stateAlike
    result := rfl }

/-- Callbacks that listen to the same and go alike. -/
structure Callbacks.CallAlike
    (extra : List (Entry Response) → Prop)
    (alike : σ → σ → Prop)
    (first second : Callbacks Response σ) : Prop where
  listens : ∀ connection, first.listens connection = second.listens connection
  binderOf :
    ∀ service, GoAlike extra alike (first.binderOf service) (second.binderOf service)
  connected :
    ∀ connection component handle,
      GoAlike extra alike
        (first.connected connection component handle)
        (second.connected connection component handle)
  disconnected :
    ∀ connection named,
      GoAlike extra alike
        (first.disconnected connection named)
        (second.disconnected connection named)

variable {callbacks callbacksToo : Callbacks Response σ}

theorem deliver_goAlike
    (callAlike : callbacks.CallAlike extra alike callbacksToo)
    (session : Session) :
    GoAlike extra alike (deliver callbacks session) (deliver callbacksToo session) := by
  unfold deliver
  rw [callAlike.listens]
  split
  · refine .bind (callAlike.binderOf _) fun handle => ?_
    exact .bind (.emit _) fun _ => callAlike.connected _ _ _
  · exact .fail _

theorem bind_goAlike
    (shared : gate.IsShared alike)
    (callAlike : callbacks.CallAlike extra alike callbacksToo)
    (connection : ConnectionId)
    (component : Option ComponentName) :
    GoAlike extra alike
      (bind gate callbacks connection component)
      (bind gate callbacksToo connection component) := by
  refine .bind (openSession_goAlike shared connection component) fun session => ?_
  refine .bind (.attempt (deliver_goAlike callAlike session)) fun delivery => ?_
  cases delivery with
  | ok _ =>
      refine .bind (.emit _) fun _ => ?_
      exact .bind (.emit (Entry.log (.record Logging.bindingLogger .debug _))) fun _ => .done true
  | error fault =>
      dsimp only
      split
      · exact .bind (withdraw_goAlike shared session) fun _ => .fail fault
      · exact .bind (.emit _) fun _ => .fail fault

theorem unbind_goAlike
    (shared : gate.IsShared alike)
    (callAlike : callbacks.CallAlike extra alike callbacksToo)
    (connection : ConnectionId) :
    GoAlike extra alike
      (unbind gate callbacks connection)
      (unbind gate callbacksToo connection) := by
  refine .current_bind fun state other stateAlike => ?_
  rw [shared.get state other stateAlike]
  cases (gate.get other).sessions.get? connection with
  | none =>
      exact refuse_goAlike _ state other stateAlike
  | some session =>
      let named := (gate.get other).directory.owner? (some session.service)
      let text := "Unbound " ++ session.component.flatText
      have tells :=
        GoAlike.bind (.emit (.gate (.closed session))) fun _ =>
          GoAlike.bind (.emit (.log (.record Logging.bindingLogger .debug text))) fun _ =>
            GoAlike.bind (.emit (.event (.disconnected session named))) fun _ =>
              callAlike.disconnected connection named
      exact tells _ _ (shared.put _ state other stateAlike)

end Gate

end Binding

/-- Casts of which the same services and connections are seen. -/
structure Cast.LooksLike (first second : Cast) : Prop where
  kind : ∀ service, (first.service service).kind = (second.service service).kind
  listens :
    ∀ connection,
      (first.connection connection).listens = (second.connection connection).listens

namespace Stage

/-- Stages that are alike have the same host, and casts that look the same. -/
structure IsLikeness (alike : Stage → Stage → Prop) : Prop where
  host : hostPart.IsShared alike
  cast : ∀ stage other, alike stage other → stage.cast.LooksLike other.cast

variable
  {extra : List (Entry Response) → Prop}
  {alike : Stage → Stage → Prop}
  {play playToo : Callback → Step Unit}

/-- The gate of a holder is shared where the host is. -/
theorem IsLikeness.gate
    (likeness : IsLikeness alike)
    (holder : Context.HolderId) :
    (gatePart holder).IsShared alike where
  get stage other stageAlike :=
    congrArg (fun host => host.gate holder) (likeness.host.get stage other stageAlike)
  put gate stage other stageAlike := by
    have sameHost : stage.host = other.host := likeness.host.get stage other stageAlike
    have put :=
      likeness.host.put ((Host.gatePart holder).put gate stage.host) stage other stageAlike
    simpa [hostPart, gatePart, sameHost] using put

theorem binderOf_goAlike
    (plays : ∀ callback, GoAlike extra alike (play callback) (playToo callback))
    {cast castToo : Cast}
    (looksLike : cast.LooksLike castToo)
    (service : ServiceId) :
    GoAlike extra alike (binderOf cast play service) (binderOf castToo playToo service) := by
  unfold binderOf
  rw [looksLike.kind]
  cases (castToo.service service).kind with
  | bare =>
      exact .done _
  | binder =>
      refine .bind (.emit _) fun _ => ?_
      exact .bind (plays _) fun _ => .done _
  | emptyBinder =>
      refine .bind (.emit _) fun _ => ?_
      exact .bind (plays _) fun _ => .done _

theorem callbacks_callAlike
    (plays : ∀ callback, GoAlike extra alike (play callback) (playToo callback))
    {cast castToo : Cast}
    (looksLike : cast.LooksLike castToo) :
    (callbacks cast play).CallAlike extra alike (callbacks castToo playToo) where
  listens := looksLike.listens
  binderOf := binderOf_goAlike plays looksLike
  connected _ _ _ := plays _
  disconnected _ _ := plays _

/-- A request goes alike where its callbacks do. -/
theorem performWith_goAlike
    [Record.Validator]
    (likeness : IsLikeness alike)
    (plays : ∀ callback, GoAlike extra alike (play callback) (playToo callback))
    (request : Request) :
    GoAlike extra alike (performWith play request) (performWith playToo request) := by
  cases request with
  | records request =>
      exact .bind (.ofResult _) fun _ => .done _
  | reports request =>
      exact request.answer_goAlike
  | config request =>
      exact .within likeness.host _
  | context request =>
      exact .bind (.within likeness.host _) fun _ => .done _
  | bind connection intent =>
      refine .bind (.within likeness.host _) fun held => ?_
      refine .bind (.ofResult _) fun checked => ?_
      refine .current_bind fun stage other stageAlike => ?_
      have callAlike := callbacks_callAlike plays (likeness.cast stage other stageAlike)
      have binds :=
        Binding.bind_goAlike (likeness.gate held.id) callAlike connection checked.component
      exact binds.answer (fun bound => Response.known (.flag bound)) stage other stageAlike
  | unbind connection =>
      refine .bind (.within likeness.host _) fun held => ?_
      refine .current_bind fun stage other stageAlike => ?_
      have callAlike := callbacks_callAlike plays (likeness.cast stage other stageAlike)
      have unbinds :=
        Binding.unbind_goAlike (likeness.gate held.id) callAlike connection
      exact unbinds.answer (fun _ => Response.known .nothing) stage other stageAlike
  | isConnection candidate =>
      refine .current_bind fun stage other stageAlike => ?_
      have looksLike := likeness.cast stage other stageAlike
      have sameAnswer : isConnection stage.cast candidate = isConnection other.cast candidate := by
        cases candidate with
        | connection connection =>
            exact looksLike.listens connection
        | service service =>
            rfl
      rw [sameAnswer]
      exact ⟨.nil, stageAlike, rfl⟩

end Stage

end PlatformDouble
