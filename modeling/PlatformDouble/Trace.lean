import PlatformDouble.Gate.Session

namespace PlatformDouble

/-!
# Traces

What a run of operations leaves behind, in order: what it asked of logging, the
callbacks it delivered with what they did, and how a gate changed.  The changes
are those of directories and of sessions, so what a gate held at any point of a
run can be told from the trace up to there.  So can how far a cursor had come, since
its opening and all it answered are in the trace.  Answers to requests have a type of
their own there, since such an answer may depend on logging and be known only later.
-/

/-- How a gate changed. -/
inductive GateChange where
  /-- A registration was written. -/
  | registered (entry : Registration)
  /-- A bind opened the session. -/
  | opened (session : Session)
  /-- The bind that opened the session succeeded. -/
  | established (session : Session)
  /-- The failing bind that opened `failed` took a session of the connection back. -/
  | withdrawn (failed : Session) (removed : Option Session)
  /-- The bind that opened the session was interrupted; the session stays. -/
  | abandoned (session : Session)
  /-- An unbind closed the session. -/
  | closed (session : Session)
  deriving Repr

/-- What was done with a cursor. -/
inductive CursorChange where
  /-- A cursor for an action was opened under a name, in place of any other of that name. -/
  | opened (name : String) (action : Value)
  /-- A cursor was advanced, with this answer. -/
  | advanced (name : String) (answer : Except Fault (Option ResolveInfo))

/-- Something a test can observe besides answers and log lines. -/
inductive Event (ρ : Type) where
  /-- A service was asked for its binder. -/
  | binderRequested (service : ServiceId)
  /-- A connection was told that its session stands. -/
  | connected (session : Session) (handle : Option Handle)
  /-- A connection was told that its session is over, with the component it was given. -/
  | disconnected (session : Session) (named : Option ComponentName)
  /-- A callback performed a request and went on with its answer. -/
  | performed (answer : ρ)
  /-- A callback performed a request and caught how it ended. -/
  | attempted (outcome : Except Fault ρ)
  /-- The body of a guarded operation ran. -/
  | bodyRan (arguments named : Value)
  /-- A resource was looked up through the injected lookup. -/
  | resourceSought (id : Int)
  /-- A system service was looked up through the injected locator. -/
  | systemServiceSought (name : Value)

/-- One entry of a trace. -/
inductive Entry (ρ : Type) where
  | log (action : LogAction)
  | event (event : Event ρ)
  | gate (change : GateChange)
  | cursor (change : CursorChange)

namespace Event

def map {ρ π : Type} (change : ρ → π) : Event ρ → Event π
  | binderRequested service => binderRequested service
  | connected session handle => connected session handle
  | disconnected session named => disconnected session named
  | performed answer => performed (change answer)
  | attempted outcome => attempted (outcome.map change)
  | bodyRan arguments named => bodyRan arguments named
  | resourceSought id => resourceSought id
  | systemServiceSought name => systemServiceSought name

end Event

namespace Traced

variable {ρ σ α : Type}

/-- A computation that only asks for log actions, as part of a larger trace. -/
def logged (action : Traced LogAction σ α) : Traced (Entry ρ) σ α :=
  retrace Entry.log action

def observe (event : Event ρ) : Traced (Entry ρ) σ Unit :=
  emit (.event event)

def mark (change : GateChange) : Traced (Entry ρ) σ Unit :=
  emit (.gate change)

def note (change : CursorChange) : Traced (Entry ρ) σ Unit :=
  emit (.cursor change)

end Traced

end PlatformDouble
