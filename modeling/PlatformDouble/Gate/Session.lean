import PlatformDouble.Gate.Directory

namespace PlatformDouble

/-!
# Sessions

A session records that a connection is bound to a component and to the service
the component had at that time.  A gate holds a directory and the sessions of its
connections, at most one for each, in the order in which they were opened.

Sessions of one gate are numbered as they are opened, so that a session can be
told from a later one of the same connection.
-/

/-- A live session of a connection. -/
structure Session where
  serial : Nat
  connection : ConnectionId
  component : ComponentName
  service : ServiceId
  deriving Repr, DecidableEq

namespace Session

/-- The parts of a session that a test sees. -/
def partNames : List String := ["connection", "component", "service"]

/--
Why a part of a session cannot be changed: a session keeps its parts, and where
there is no such part or no session at all there is nothing to change.
-/
def changeRefusal (session : Option Session) (part : String) : Fault :=
  if session.isSome && !partNames.contains part then
    .noPartOfSession
  else
    .attributeRefused

end Session

/-- A directory and the sessions bound through it. -/
structure Gate where
  directory : Directory := {}
  sessions : Table ConnectionId Session := Table.empty
  /-- How many sessions were ever opened. -/
  opened : Nat := 0
  deriving Repr

namespace Gate

/-- The gate at the start. -/
def empty : Gate := {}

def directoryPart : StatePart Gate Directory where
  get := directory
  put directory gate := { gate with directory := directory }
  get_put _ _ := rfl

/-- Whether a connection has a session. -/
def isBound (gate : Gate) (connection : ConnectionId) : Bool :=
  gate.sessions.contains connection

/-- A gate with one more session. -/
def addSession (gate : Gate) (session : Session) : Gate :=
  { gate with
    sessions := gate.sessions.insert session.connection session
    opened := gate.opened + 1 }

/--
Open a session for a connection that has none, to the service registered for a
component.  An existing session is noticed before the component is looked at.
-/
def openSession
    (gate : Gate)
    (connection : ConnectionId)
    (component : Option ComponentName) :
    Except Fault (Session × Gate) :=
  if gate.isBound connection then
    .error (.alreadyBound connection)
  else
    match component, gate.directory.service? component with
    | some name, some service =>
        let session := ⟨gate.opened, connection, name, service⟩
        .ok (session, gate.addSession session)
    | _, _ => .error (.unknownService component)

/-- Forget the session of a connection. -/
def dropSession (gate : Gate) (connection : ConnectionId) : Gate :=
  { gate with sessions := gate.sessions.erase connection }

end Gate

end PlatformDouble
