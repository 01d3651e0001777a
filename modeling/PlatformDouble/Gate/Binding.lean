import PlatformDouble.Trace

namespace PlatformDouble

/-!
# Binding and unbinding

Binding opens a session and tells the connection, before it returns; unbinding
closes the session and tells the connection, before it returns.  What the service
and the connection do when they are called is up to them: they are given as
callbacks over the whole state, of which the gate is a part, and may come back to
the gate.

A bind that fails with an ordinary fault takes back what the connection has then;
an interrupt leaves it standing.
-/

namespace Binding

/-- What services and connections do when they are called. -/
@[ext] structure Callbacks (ρ σ : Type) where
  /-- Whether a connection can be told that its session stands. -/
  listens : ConnectionId → Bool
  /-- The binder a service hands out. -/
  binderOf : ServiceId → Traced (Entry ρ) σ (Option Handle)
  /-- What a connection does on hearing that a component is bound, by which binder. -/
  connected : ConnectionId → ComponentName → Option Handle → Traced (Entry ρ) σ Unit
  /-- What a connection does on hearing that its session is over. -/
  disconnected : ConnectionId → Option ComponentName → Traced (Entry ρ) σ Unit

variable {ρ σ : Type}

/-- What is logged when a session is refused. -/
def refusalText : Fault → String
  | .alreadyBound connection => "Rejecting second bind on " ++ connection.display
  | .unknownService component => "No service registered for " ++ Fault.componentText component
  | .notBound connection => "Rejecting unbind of unknown connection " ++ connection.display
  | _ => ""

/-- Refuse a session with a warning. -/
def refuse {α : Type} (fault : Fault) : Traced (Entry ρ) σ α := do
  Traced.logged (Traced.log Logging.bindingLogger .warning (refusalText fault))
  Traced.fail fault

/-- Open a session, or refuse it. -/
def openSession
    (gate : StatePart σ Gate)
    (connection : ConnectionId)
    (component : Option ComponentName) :
    Traced (Entry ρ) σ Session := do
  let state ← Traced.current
  match (gate.get state).openSession connection component with
  | .error fault => refuse fault
  | .ok (session, opened) => do
      Traced.update (gate.put opened)
      Traced.mark (.opened session)
      Traced.done session

/-- Tell a connection that its session stands, with the binder of the service. -/
def deliver (callbacks : Callbacks ρ σ) (session : Session) : Traced (Entry ρ) σ Unit :=
  if callbacks.listens session.connection then do
    let handle ← callbacks.binderOf session.service
    Traced.observe (.connected session handle)
    callbacks.connected session.connection session.component handle
  else
    Traced.fail .attributeRefused

/-- Take back whatever session the connection of a failed bind has now. -/
def withdraw (gate : StatePart σ Gate) (failed : Session) : Traced (Entry ρ) σ Unit := do
  let state ← Traced.current
  let current := gate.get state
  Traced.update (gate.put (current.dropSession failed.connection))
  Traced.mark (.withdrawn failed (current.sessions.get? failed.connection))

/-- Bind a connection to a component; it is told before this answers true. -/
def bind
    (gate : StatePart σ Gate)
    (callbacks : Callbacks ρ σ)
    (connection : ConnectionId)
    (component : Option ComponentName) :
    Traced (Entry ρ) σ Bool := do
  let session ← openSession gate connection component
  let delivery ← Traced.attempt (deliver callbacks session)
  match delivery with
  | .ok () => do
      Traced.mark (.established session)
      Traced.logged (Traced.log Logging.bindingLogger .debug
        ("Bound " ++ session.component.flatText))
      Traced.done true
  | .error fault => do
      if fault.isOrdinary then
        withdraw gate session
      else
        Traced.mark (.abandoned session)
      Traced.fail fault

/-- Bind on behalf of a user.  Users are not told apart, so this is to bind. -/
def bindAsUser
    (gate : StatePart σ Gate)
    (callbacks : Callbacks ρ σ)
    (connection : ConnectionId)
    (component : Option ComponentName)
    (_user : Value) :
    Traced (Entry ρ) σ Bool :=
  bind gate callbacks connection component

theorem bindAsUser_eq
    (gate : StatePart σ Gate)
    (callbacks : Callbacks ρ σ)
    (connection : ConnectionId)
    (component : Option ComponentName)
    (user : Value) :
    bindAsUser gate callbacks connection component user =
      bind gate callbacks connection component :=
  rfl

/--
Unbind a connection; it is told before this returns.  It is told the component
under which the service of its session was last registered.
-/
def unbind
    (gate : StatePart σ Gate)
    (callbacks : Callbacks ρ σ)
    (connection : ConnectionId) :
    Traced (Entry ρ) σ Unit := do
  let state ← Traced.current
  let current := gate.get state
  match current.sessions.get? connection with
  | none => refuse (.notBound connection)
  | some session => do
      Traced.update (gate.put (current.dropSession connection))
      Traced.mark (.closed session)
      Traced.logged (Traced.log Logging.bindingLogger .debug
        ("Unbound " ++ session.component.flatText))
      let named := current.directory.owner? (some session.service)
      Traced.observe (.disconnected session named)
      callbacks.disconnected connection named

end Binding

end PlatformDouble
