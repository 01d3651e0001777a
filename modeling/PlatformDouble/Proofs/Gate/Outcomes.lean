import PlatformDouble.Gate.Binding
import PlatformDouble.Gate.Registering
import PlatformDouble.Proofs.Table.Order

namespace PlatformDouble

/-!
# Outcomes of the operations of a gate

What a registration, a bind and an unbind leave behind, one equation for each way
they can go.  The callbacks stay as they are: an outcome is told in terms of what
they left behind.  Nothing else unfolds these operations.
-/

variable {ρ σ : Type}

namespace Registration

/-- The line that reports an entry, which needs a component and a key with a text. -/
def reportLine (entry : Registration) : Except Fault String :=
  match entry.component with
  | none => .error .attributeRefused
  | some name =>
      if entry.key.isDisplayable then
        .ok ("Registered " ++ name.flatText ++ " for " ++ entry.key.display)
      else
        .error .numeralTooLong

/-- What is logged when an entry is reported. -/
def reportTrace (entry : Registration) : List (Entry ρ) :=
  match entry.reportLine with
  | .ok line => [.log (.record Logging.directoryLogger .debug line)]
  | .error _ => []

/-- A report is a line of its own in the log, and nothing else. -/
theorem of_mem_reportTrace
    {registration : Registration}
    {entry : Entry ρ}
    (member : entry ∈ registration.reportTrace) :
    ∃ line, entry = .log (.record Logging.directoryLogger .debug line) := by
  unfold reportTrace at member
  split at member
  · exact ⟨_, List.mem_singleton.mp member⟩
  · cases member

end Registration

namespace Directory

theorem register_unusable
    {action : Value}
    {fault : Fault}
    (unusable : ActionKey.ofValue action = .error fault)
    (component : Option ComponentName)
    (service : Option ServiceId)
    (descriptor : Option ServiceInfo)
    (directory : Directory) :
    (register action component service descriptor :
        Traced (Entry ρ) Directory Unit) directory =
      { trace := [], state := directory, result := .error fault } := by
  simp only [register, unusable, bind, Traced.andThen, Traced.ofResult]

/-- A registration under a key is written, and reported if it can be. -/
theorem register_usable
    {action : Value}
    {key : ActionKey}
    (usable : ActionKey.ofValue action = .ok key)
    (component : Option ComponentName)
    (service : Option ServiceId)
    (descriptor : Option ServiceInfo)
    (directory : Directory) :
    (register action component service descriptor :
        Traced (Entry ρ) Directory Unit) directory =
      let entry : Registration := ⟨key, component, service, descriptor⟩
      { trace := .gate (.registered entry) :: entry.reportTrace
        state := directory.write entry
        result := entry.reportLine.map fun _ => () } := by
  simp only [register, usable, bind, Traced.andThen, Traced.ofResult, Traced.update,
    Traced.mark, Traced.emit, report, Registration.reportTrace, Registration.reportLine]
  cases component with
  | none =>
      rfl
  | some name =>
      cases key.isDisplayable <;> rfl

/-- A registration of a component under a key with a text is written and reported. -/
theorem register_named
    {action : Value}
    {key : ActionKey}
    (usable : ActionKey.ofValue action = .ok key)
    (hasText : key.isDisplayable = true)
    (name : ComponentName)
    (service : Option ServiceId)
    (descriptor : Option ServiceInfo)
    (directory : Directory) :
    (register action (some name) service descriptor :
        Traced (Entry ρ) Directory Unit) directory =
      { trace := [
          .gate (.registered ⟨key, some name, service, descriptor⟩),
          .log (.record Logging.directoryLogger .debug
            ("Registered " ++ name.flatText ++ " for " ++ key.display))]
        state := directory.write ⟨key, some name, service, descriptor⟩
        result := .ok () } := by
  rw [register_usable usable]
  simp [Registration.reportTrace, Registration.reportLine, hasText, Except.map]

end Directory

namespace ServiceRegistration

variable [Record.Validator]

/-- A registration whose descriptor is refused changes nothing. -/
theorem perform_refused
    {registration : ServiceRegistration}
    {fault : Fault}
    (refused : registration.descriptor = .error fault)
    (directory : Directory) :
    (registration.perform : Traced (Entry ρ) Directory ServiceInfo) directory =
      { trace := [], state := directory, result := .error fault } :=
  Traced.andThen_of_error
    (by simp only [Traced.ofResult, refused])

/-- A registration with a descriptor is written as any other, and answers it. -/
theorem perform_described
    {registration : ServiceRegistration}
    {descriptor : ServiceInfo}
    (described : registration.descriptor = .ok descriptor)
    (directory : Directory) :
    (registration.perform : Traced (Entry ρ) Directory ServiceInfo) directory =
      let written :=
        (Directory.register registration.action registration.component
          registration.service (some descriptor) :
            Traced (Entry ρ) Directory Unit) directory
      { written with result := written.result.map fun _ => descriptor } := by
  have answered :
      (Traced.ofResult registration.descriptor :
        Traced (Entry ρ) Directory ServiceInfo) directory =
        { trace := [], state := directory, result := .ok descriptor } := by
    simp only [Traced.ofResult, described]
  apply (Traced.andThen_of_ok (congrArg Outcome.result answered)).trans
  rw [answered]
  exact Traced.bind_pure _ (fun _ => descriptor) directory

end ServiceRegistration

namespace Gate

/-- A connection with a session is refused before anything else is looked at. -/
theorem openSession_of_bound
    {gate : Gate}
    {connection : ConnectionId}
    {session : Session}
    (bound : gate.sessions.get? connection = some session)
    (component : Option ComponentName) :
    gate.openSession connection component = .error (.alreadyBound connection) := by
  simp [openSession, isBound, Table.contains, bound]

/-- Without a component there is nothing to open a session to. -/
theorem openSession_of_unnamed
    {gate : Gate}
    {connection : ConnectionId}
    (free : gate.sessions.get? connection = none) :
    gate.openSession connection none = .error (.unknownService none) := by
  simp [openSession, isBound, Table.contains, free]

theorem openSession_of_unknown
    {gate : Gate}
    {connection : ConnectionId}
    {name : ComponentName}
    (free : gate.sessions.get? connection = none)
    (unknown : gate.directory.service? (some name) = none) :
    gate.openSession connection (some name) =
      .error (.unknownService (some name)) := by
  simp [openSession, isBound, Table.contains, free, unknown]

theorem openSession_of_known
    {gate : Gate}
    {connection : ConnectionId}
    {name : ComponentName}
    {service : ServiceId}
    (free : gate.sessions.get? connection = none)
    (known : gate.directory.service? (some name) = some service) :
    let session : Session := ⟨gate.opened, connection, name, service⟩
    gate.openSession connection (some name) =
      .ok (session, gate.addSession session) := by
  simp [openSession, isBound, Table.contains, free, known]

/-- Whatever session is opened, it is the next one, and its connection had none. -/
theorem of_openSession
    {gate opened : Gate}
    {connection : ConnectionId}
    {component : Option ComponentName}
    {session : Session}
    (opens : gate.openSession connection component = .ok (session, opened)) :
    session.serial = gate.opened ∧
      session.connection = connection ∧
      gate.sessions.get? connection = none ∧
      gate.directory.service? (some session.component) = some session.service ∧
      opened = gate.addSession session := by
  cases found : gate.sessions.get? connection with
  | some held =>
      rw [openSession_of_bound found] at opens
      cases opens
  | none =>
      cases component with
      | none =>
          rw [openSession_of_unnamed found] at opens
          cases opens
      | some name =>
          cases known : gate.directory.service? (some name) with
          | none =>
              rw [openSession_of_unknown found known] at opens
              cases opens
          | some service =>
              rw [openSession_of_known found known] at opens
              cases opens
              exact ⟨rfl, rfl, rfl, known, rfl⟩

/-- A session is opened to the component that was asked for. -/
theorem component_of_openSession
    {gate opened : Gate}
    {connection : ConnectionId}
    {component : Option ComponentName}
    {session : Session}
    (opens : gate.openSession connection component = .ok (session, opened)) :
    component = some session.component := by
  unfold openSession at opens
  split at opens
  · cases opens
  · split at opens
    · cases opens
      rfl
    · cases opens

/-- A connection without a session is refused only for want of a service. -/
theorem fault_of_openSession
    {gate : Gate}
    {connection : ConnectionId}
    {component : Option ComponentName}
    {fault : Fault}
    (free : gate.sessions.get? connection = none)
    (refused : gate.openSession connection component = .error fault) :
    fault = .unknownService component := by
  cases component with
  | none =>
      rw [openSession_of_unnamed free] at refused
      cases refused
      rfl
  | some name =>
      cases known : gate.directory.service? (some name) with
      | none =>
          rw [openSession_of_unknown free known] at refused
          cases refused
          rfl
      | some service =>
          rw [openSession_of_known free known] at refused
          cases refused

/-- Of a session that is added and dropped again only its number is left. -/
theorem dropSession_addSession
    {gate : Gate}
    {session : Session}
    (absent : gate.sessions.get? session.connection = none) :
    (gate.addSession session).dropSession session.connection =
      { gate with opened := gate.opened + 1 } := by
  unfold dropSession addSession
  rw [Table.erase_insert_of_absent session absent]

end Gate

namespace Binding

/-- The warning of a refused session. -/
def refusalEntry (fault : Fault) : Entry ρ :=
  .log (.record Logging.bindingLogger .warning (refusalText fault))

/-- The line for a session that stands. -/
def boundEntry (session : Session) : Entry ρ :=
  .log (.record Logging.bindingLogger .debug
    ("Bound " ++ session.component.flatText))

/-- The line for a session that is over. -/
def unboundEntry (session : Session) : Entry ρ :=
  .log (.record Logging.bindingLogger .debug
    ("Unbound " ++ session.component.flatText))

section Deliver

variable
  {callbacks : Callbacks ρ σ}
  {session : Session}
  {state asked told : σ}
  {asking telling : List (Entry ρ)}

/-- A connection that cannot be told is found out before the service is asked. -/
theorem deliver_unheard
    (deaf : callbacks.listens session.connection = false) :
    deliver callbacks session state =
      { trace := [], state := state, result := .error .attributeRefused } := by
  simp [deliver, deaf, Traced.fail]

/-- A service that hands out no binder keeps the connection from being told. -/
theorem deliver_unanswered
    {fault : Fault}
    (listens : callbacks.listens session.connection = true)
    (asks :
      callbacks.binderOf session.service state =
        { trace := asking, state := asked, result := .error fault }) :
    deliver callbacks session state =
      { trace := asking, state := asked, result := .error fault } := by
  unfold deliver
  rw [if_pos listens]
  apply (Traced.andThen_of_error (congrArg Outcome.result asks)).trans
  rw [asks]

theorem deliver_told
    {handle : Option Handle}
    {result : Except Fault Unit}
    (listens : callbacks.listens session.connection = true)
    (asks :
      callbacks.binderOf session.service state =
        { trace := asking, state := asked, result := .ok handle })
    (tells :
      callbacks.connected session.connection session.component handle asked =
        { trace := telling, state := told, result := result }) :
    deliver callbacks session state =
      { trace := asking ++ .event (.connected session handle) :: telling
        state := told
        result := result } := by
  unfold deliver
  rw [if_pos listens]
  apply (Traced.andThen_of_ok (congrArg Outcome.result asks)).trans
  rw [asks]
  simp [Bind.bind, Traced.andThen, Traced.observe, Traced.emit, tells]

end Deliver

section Bind

variable
  {gate : StatePart σ Gate}
  {callbacks : Callbacks ρ σ}
  {connection : ConnectionId}
  {component : Option ComponentName}
  {session : Session}
  {opened : Gate}
  (state : σ)
  {reached : σ}
  {trace : List (Entry ρ)}
  {fault : Fault}

/-- A bind that is refused changes nothing and calls nobody. -/
theorem bind_refused
    (refused :
      (gate.get state).openSession connection component = .error fault) :
    bind gate callbacks connection component state =
      { trace := [refusalEntry fault], state := state, result := .error fault } := by
  simp [bind, openSession, Bind.bind, Traced.andThen, Traced.current, refused,
    refuse, refusalEntry, Traced.logged, Traced.retrace, Traced.log, Traced.emit,
    Traced.fail]

/-- A bind whose connection was told answers true. -/
theorem bind_established
    (opens :
      (gate.get state).openSession connection component = .ok (session, opened))
    (delivers :
      deliver callbacks session (gate.put opened state) =
        { trace := trace, state := reached, result := .ok () }) :
    bind gate callbacks connection component state =
      { trace :=
          .gate (.opened session) ::
            (trace ++ [.gate (.established session), boundEntry session])
        state := reached
        result := .ok true } := by
  simp [bind, openSession, Bind.bind, Traced.andThen, Traced.current, opens,
    Traced.attempt, delivers, Traced.update, Traced.mark, boundEntry,
    Traced.logged, Traced.retrace, Traced.log, Traced.emit, Traced.done]

/-- A bind that fails with an ordinary fault drops the session of its connection. -/
theorem bind_withdrawn
    (opens :
      (gate.get state).openSession connection component = .ok (session, opened))
    (delivers :
      deliver callbacks session (gate.put opened state) =
        { trace := trace, state := reached, result := .error fault })
    (ordinary : fault.isOrdinary = true) :
    bind gate callbacks connection component state =
      { trace :=
          .gate (.opened session) ::
            (trace ++
              [.gate (.withdrawn session
                ((gate.get reached).sessions.get? session.connection))])
        state := gate.put ((gate.get reached).dropSession session.connection) reached
        result := .error fault } := by
  simp [bind, openSession, Bind.bind, Traced.andThen, Traced.current, opens,
    Traced.attempt, delivers, ordinary, withdraw, Traced.update, Traced.mark,
    Traced.emit, Traced.done, Traced.fail]

/-- A bind that is interrupted leaves its session standing. -/
theorem bind_abandoned
    (opens :
      (gate.get state).openSession connection component = .ok (session, opened))
    (delivers :
      deliver callbacks session (gate.put opened state) =
        { trace := trace, state := reached, result := .error fault })
    (interrupt : fault.isOrdinary = false) :
    bind gate callbacks connection component state =
      { trace :=
          .gate (.opened session) :: (trace ++ [.gate (.abandoned session)])
        state := reached
        result := .error fault } := by
  simp [bind, openSession, Bind.bind, Traced.andThen, Traced.current, opens,
    Traced.attempt, delivers, interrupt, Traced.update, Traced.mark, Traced.emit,
    Traced.done, Traced.fail]

/-- An unbind of a connection without a session changes nothing and calls nobody. -/
theorem unbind_refused
    (absent : (gate.get state).sessions.get? connection = none) :
    unbind gate callbacks connection state =
      { trace := [refusalEntry (.notBound connection)]
        state := state
        result := .error (.notBound connection) } := by
  simp [unbind, Bind.bind, Traced.andThen, Traced.current, absent, refuse,
    refusalEntry, Traced.logged, Traced.retrace, Traced.log, Traced.emit,
    Traced.fail]

/-- An unbind drops the session and then tells the connection, however that ends. -/
theorem unbind_closed
    {named : Option ComponentName}
    {result : Except Fault Unit}
    (found : (gate.get state).sessions.get? connection = some session)
    (owns : (gate.get state).directory.owner? (some session.service) = named)
    (tells :
      callbacks.disconnected connection named
          (gate.put ((gate.get state).dropSession connection) state) =
        { trace := trace, state := reached, result := result }) :
    unbind gate callbacks connection state =
      { trace :=
          .gate (.closed session) :: unboundEntry session ::
            .event (.disconnected session named) :: trace
        state := reached
        result := result } := by
  simp [unbind, Bind.bind, Traced.andThen, Traced.current, found, owns,
    unboundEntry, Traced.update, Traced.mark, Traced.observe, Traced.logged,
    Traced.retrace, Traced.log, Traced.emit, tells]

end Bind

end Binding

end PlatformDouble
