import PlatformDouble.Proofs.Gate.Client

namespace PlatformDouble

/-!
# What a failing bind leaves behind

A bind of a connection without a session is refused, or it opens a session and
tells the connection.  If that fails with an ordinary fault, the session is taken
back and the sessions are what they were.  If it is interrupted, the session
stays, and every later bind of the connection is refused on account of it.

Services and connections leave the gate alone here.  What becomes of sessions
when they come back to it is told by the protocol.
-/

variable {ρ σ : Type}

namespace Binding

/-- Services and connections that leave a gate alone while a connection is bound. -/
structure Callbacks.LeaveAlone
    (gate : GatePlace σ)
    (callbacks : Callbacks ρ σ) :
    Prop where
  asked :
    ∀ service, LeavesAlone gate (callbacks.binderOf service)
  told :
    ∀ connection component handle,
      LeavesAlone gate (callbacks.connected connection component handle)

/-- A bind that does nothing but warn that the connection has a session. -/
def IsRefusedAsBound
    (gate : StatePart σ Gate)
    (callbacks : Callbacks ρ σ)
    (connection : ConnectionId)
    (intent : Intent)
    (state : σ) :
    Prop :=
  bind gate callbacks connection intent.component state =
    { trace := [refusalEntry (.alreadyBound connection)]
      state := state
      result := .error (.alreadyBound connection) }

/--
If a bind fails, the sessions are afterwards what they were, and no later bind of
the connection is refused as a second one.
-/
def RestoresOnFailure
    (gate : StatePart σ Gate)
    (callbacks : Callbacks ρ σ)
    (connection : ConnectionId)
    (intent : Intent)
    (state : σ) :
    Prop :=
  let outcome := bind gate callbacks connection intent.component state
  ∀ fault,
    outcome.result = .error fault →
      (gate.get outcome.state).sessions = (gate.get state).sessions ∧
        ∀ (later : Callbacks ρ σ) (again : Intent),
          ¬ IsRefusedAsBound gate later connection again outcome.state

section Refusal

variable
  {gate : StatePart σ Gate}
  {callbacks : Callbacks ρ σ}
  {connection : ConnectionId}
  {intent : Intent}
  {state : σ}

/-- A bind that opens a session starts with that. -/
theorem exists_trace_of_opening
    (callbacks : Callbacks ρ σ)
    {session : Session}
    {opened : Gate}
    (opens :
      (gate.get state).openSession connection intent.component = .ok (session, opened)) :
    ∃ rest,
      (bind gate callbacks connection intent.component state).trace =
        .gate (.opened session) :: rest := by
  rcases delivers : deliver callbacks session (gate.put opened state) with
    ⟨trace, reached, result⟩
  cases result with
  | ok _ =>
      rw [bind_established state opens delivers]
      exact ⟨_, rfl⟩
  | error fault =>
      cases ordinary : fault.isOrdinary with
      | true =>
          rw [bind_withdrawn state opens delivers ordinary]
          exact ⟨_, rfl⟩
      | false =>
          rw [bind_abandoned state opens delivers ordinary]
          exact ⟨_, rfl⟩

/-- A bind is refused as a second one exactly while the connection has a session. -/
theorem isRefusedAsBound_iff :
    IsRefusedAsBound gate callbacks connection intent state ↔
      (gate.get state).sessions.get? connection ≠ none := by
  constructor
  · intro refused absent
    unfold IsRefusedAsBound at refused
    cases opens : (gate.get state).openSession connection intent.component with
    | error fault =>
        have isUnknown := Gate.fault_of_openSession absent opens
        subst isUnknown
        rw [bind_refused state opens] at refused
        cases congrArg Outcome.result refused
    | ok answer =>
        rcases answer with ⟨session, opened⟩
        obtain ⟨rest, starts⟩ :=
          exists_trace_of_opening callbacks opens
        rw [refused] at starts
        cases starts
  · intro bound
    obtain ⟨session, held⟩ := Option.ne_none_iff_exists'.mp bound
    exact bind_refused state (Gate.openSession_of_bound held intent.component)

end Refusal

section Failure

variable
  {gate : GatePlace σ}
  {callbacks : Callbacks ρ σ}
  {state : σ}
  {connection : ConnectionId}
  {intent : Intent}

/-- A delivery by callbacks that leave the gate alone leaves it alone, however it ends. -/
theorem get_deliver
    (alone : callbacks.LeaveAlone gate)
    (relied : gate.relied state)
    (session : Session) :
    gate.get (deliver callbacks session state).state = gate.get state := by
  cases listens : callbacks.listens session.connection with
  | false =>
      rw [deliver_unheard listens]
  | true =>
      have asked := alone.asked session.service
      rcases asks : callbacks.binderOf session.service state with
        ⟨asking, reached, answer⟩
      have reachedSame : gate.get reached = gate.get state := by
        simpa [asks] using asked.untouched state relied
      have reachedRelied : gate.relied reached := by
        simpa [asks] using asked.relied state relied
      cases answer with
      | error fault =>
          rw [deliver_unanswered listens asks]
          exact reachedSame
      | ok handle =>
          have told := alone.told session.connection session.component handle
          rcases tells :
              callbacks.connected session.connection session.component handle reached with
            ⟨telling, left, ending⟩
          have leftSame : gate.get left = gate.get reached := by
            simpa [tells] using told.untouched reached reachedRelied
          rw [deliver_told listens asks tells]
          exact leftSame.trans reachedSame

/--
A bind that fails with an ordinary fault leaves the sessions as they were; one that
is interrupted leaves them with the session that it opened.
-/
theorem sessions_of_failed
    (alone : callbacks.LeaveAlone gate)
    (relied : gate.relied state)
    (unbound : (gate.get state).sessions.get? connection = none)
    {fault : Fault}
    (fails :
      (bind gate.toStatePart callbacks connection intent.component state).result =
        .error fault) :
    let outcome := bind gate.toStatePart callbacks connection intent.component state
    (fault.isOrdinary = true ∧
        (gate.get outcome.state).sessions = (gate.get state).sessions) ∨
      (fault.isOrdinary = false ∧
        ∃ session : Session,
          session.connection = connection ∧
            intent.component = some session.component ∧
            (gate.get outcome.state).sessions =
              (gate.get state).sessions.insert connection session) := by
  intro outcome
  cases opens : (gate.get state).openSession connection intent.component with
  | error refusal =>
      -- Without a session the refusal can only be that the component is unknown.
      have isOutcome :
          bind gate.toStatePart callbacks connection intent.component state = _ :=
        bind_refused state opens
      have isUnknown := Gate.fault_of_openSession unbound opens
      rw [isOutcome] at fails
      cases fails
      subst isUnknown
      exact .inl ⟨rfl, by rw [show outcome = _ from isOutcome]⟩
  | ok answer =>
      rcases answer with ⟨session, opened⟩
      obtain ⟨-, carried, absent, -, isOpened⟩ := Gate.of_openSession opens
      have ofComponent := Gate.component_of_openSession opens
      subst carried isOpened
      let started : σ := gate.put ((gate.get state).addSession session) state
      have startedRelied : gate.relied started :=
        gate.relied_put _ state relied
      have startedGate : gate.get started = (gate.get state).addSession session :=
        gate.get_put _ state
      have same := get_deliver alone startedRelied session
      rcases delivers : deliver callbacks session started with ⟨trace, reached, result⟩
      rw [delivers, startedGate] at same
      have reachedGate : gate.get reached = (gate.get state).addSession session :=
        same
      cases result with
      | ok _ =>
          rw [bind_established state opens delivers] at fails
          cases fails
      | error raised =>
          cases ordinary : raised.isOrdinary with
          | true =>
              have isOutcome := bind_withdrawn state opens delivers ordinary
              rw [isOutcome] at fails
              cases fails
              refine .inl ⟨ordinary, ?_⟩
              rw [show outcome = _ from isOutcome]
              -- What is taken back is what was opened: nothing came in between.
              simp only [gate.get_put, reachedGate]
              rw [Gate.dropSession_addSession absent]
          | false =>
              have isOutcome := bind_abandoned state opens delivers ordinary
              rw [isOutcome] at fails
              cases fails
              refine .inr ⟨ordinary, session, rfl, ofComponent, ?_⟩
              rw [show outcome = _ from isOutcome]
              simp only [reachedGate]
              rfl

/--
A bind of a connection without a session, with services and connections that leave
the gate alone, restores the sessions whenever it fails, unless it is interrupted.
-/
theorem restoresOnFailure_iff
    (alone : callbacks.LeaveAlone gate)
    (relied : gate.relied state)
    (unbound : (gate.get state).sessions.get? connection = none) :
    RestoresOnFailure gate.toStatePart callbacks connection intent state ↔
      ∀ fault,
        (bind gate.toStatePart callbacks connection intent.component state).result =
            .error fault →
          fault.isOrdinary = true := by
  constructor
  · intro restores fault fails
    obtain ⟨-, notRefused⟩ := restores fault fails
    rcases sessions_of_failed alone relied unbound fails with
      ⟨ordinary, -⟩ | ⟨-, session, -, -, left⟩
    · exact ordinary
    · refine absurd (isRefusedAsBound_iff.mpr ?_) (notRefused callbacks intent)
      rw [left, Table.get?_insert_self]
      exact Option.some_ne_none session
  · intro allOrdinary fault fails
    have ordinary := allOrdinary fault fails
    rcases sessions_of_failed alone relied unbound fails with
      ⟨-, same⟩ | ⟨interrupt, -⟩
    · refine ⟨same, fun later again refused => ?_⟩
      apply isRefusedAsBound_iff.mp refused
      rw [same]
      exact unbound
    · rw [ordinary] at interrupt
      cases interrupt

end Failure

/-- Callbacks of a connection that takes being bound badly. -/
def Callbacks.failing (fault : Fault) : Callbacks ρ σ where
  listens _ := true
  binderOf _ := Traced.done none
  connected _ _ _ := Traced.fail fault
  disconnected _ _ := Traced.done ()

theorem Callbacks.failing_leaveAlone
    (gate : GatePlace σ)
    (fault : Fault) :
    (failing fault : Callbacks ρ σ).LeaveAlone gate where
  asked _ := .ofResult (.ok none)
  told _ _ _ := .ofResult (.error fault)

/-- A gate with one service, as a registration leaves it. -/
def gateWithService : Gate :=
  (Traced.within Gate.directoryPart
    (Directory.register (.text "A") (some ⟨"p", "C"⟩) (some ⟨"s"⟩)
        (some ⟨none, "p", "C"⟩) :
      Traced (Entry Unit) Directory Unit) Gate.empty).state

/-- What is raised on being told is taken care of, and the bind fails with it. -/
theorem restoresOnFailure_of_runtime_fault :
    let callbacks : Callbacks Unit Gate := .failing (.raised ⟨.runtime, none⟩)
    let intent : Intent := .forComponent (some ⟨"p", "C"⟩)
    (bind GatePlace.bare.toStatePart callbacks ⟨"c"⟩ intent.component
          gateWithService).result =
        .error (.raised ⟨.runtime, none⟩) ∧
      RestoresOnFailure GatePlace.bare.toStatePart callbacks ⟨"c"⟩ intent
        gateWithService := by
  intro callbacks intent
  have fails :
      (bind GatePlace.bare.toStatePart callbacks ⟨"c"⟩ intent.component
          gateWithService).result =
        .error (.raised ⟨.runtime, none⟩) :=
    rfl
  refine ⟨fails, ?_⟩
  apply (restoresOnFailure_iff (Callbacks.failing_leaveAlone _ _) trivial rfl).mpr
  intro fault isFault
  rw [fails] at isFault
  cases isFault
  rfl

/--
A connection that is interrupted while it is told of its first session keeps the
session, and is refused when it is bound again.
-/
theorem not_restoresOnFailure_of_interrupt :
    let callbacks : Callbacks Unit Gate := .failing (.raised ⟨.interrupt, none⟩)
    let intent : Intent := .forComponent (some ⟨"p", "C"⟩)
    callbacks.LeaveAlone GatePlace.bare ∧
      gateWithService.sessions.get? ⟨"c"⟩ = none ∧
      ¬ RestoresOnFailure GatePlace.bare.toStatePart callbacks ⟨"c"⟩ intent
        gateWithService := by
  intro callbacks intent
  have fails :
      (bind GatePlace.bare.toStatePart callbacks ⟨"c"⟩ intent.component
          gateWithService).result =
        .error (.raised ⟨.interrupt, none⟩) :=
    rfl
  refine ⟨Callbacks.failing_leaveAlone _ _, rfl, fun restores => ?_⟩
  have sameSessions := (restores _ fails).1
  revert sameSessions
  decide

end Binding

end PlatformDouble
