import PlatformDouble.Host.Request

namespace PlatformDouble

/-!
# The cast

What a test brings along: services and connections, each with a script for its
callbacks.  A script is a list of turns; every call of a callback plays the next
turn, and nothing once there is none.  A turn is a list of acts, and an act raises
an exception or performs a request.
-/

/-- One act of a callback. -/
inductive Act where
  | raise (exception : Raised)
  /-- Perform a request and go on with its answer; a fault goes up. -/
  | perform (request : Request)
  /-- Perform a request and catch how it ends. -/
  | attempt (request : Request)

/-- What one call of a callback does. -/
abbrev Turn := List Act

/-- The turns of a callback that are still to come. -/
abbrev Script := List Turn

/-- What a service hands to a connection. -/
inductive ServiceKind where
  /-- The service itself. -/
  | bare
  /-- A binder that it makes. -/
  | binder
  /-- Nothing, after being asked for a binder. -/
  | emptyBinder
  deriving Repr, DecidableEq

/-- A service and what it does when it is asked for a binder. -/
structure ServiceRole where
  kind : ServiceKind := .bare
  onBinder : Script := []

/-- A connection and what it does when it is called. -/
structure ConnectionRole where
  /-- Whether it can be told that its session stands. -/
  listens : Bool := true
  onConnected : Script := []
  onDisconnected : Script := []

/-- A callback that can be called. -/
inductive Callback where
  | binderOf (service : ServiceId)
  | connected (connection : ConnectionId)
  | disconnected (connection : ConnectionId)
  deriving Repr, DecidableEq

/-- Services and connections with what is left of their scripts. -/
structure Cast where
  services : Table ServiceId ServiceRole := Table.empty
  connections : Table ConnectionId ConnectionRole := Table.empty

namespace Cast

/-- The role of a service; one without a role hands out itself. -/
def service (cast : Cast) (id : ServiceId) : ServiceRole :=
  (cast.services.get? id).getD {}

/-- The role of a connection; one without a role listens and does nothing. -/
def connection (cast : Cast) (id : ConnectionId) : ConnectionRole :=
  (cast.connections.get? id).getD {}

def script (cast : Cast) : Callback → Script
  | .binderOf id => (cast.service id).onBinder
  | .connected id => (cast.connection id).onConnected
  | .disconnected id => (cast.connection id).onDisconnected

/-- Put a script in the place of that of a callback. -/
def withScript (cast : Cast) (callback : Callback) (script : Script) : Cast :=
  match callback with
  | .binderOf id =>
      { cast with services := cast.services.insert id { cast.service id with onBinder := script } }
  | .connected id =>
      { cast with
        connections :=
          cast.connections.insert id { cast.connection id with onConnected := script } }
  | .disconnected id =>
      { cast with
        connections :=
          cast.connections.insert id { cast.connection id with onDisconnected := script } }

/-- Take the next turn of a callback, which is empty once none is left. -/
def takeTurn (cast : Cast) (callback : Callback) : Turn × Cast :=
  match cast.script callback with
  | [] => ([], cast)
  | turn :: rest => (turn, cast.withScript callback rest)

/-- How many turns are left in all scripts. -/
def turnsLeft (cast : Cast) : Nat :=
  let services := cast.services.values.map fun role => role.onBinder.length
  let connections := cast.connections.values.map fun role =>
    role.onConnected.length + role.onDisconnected.length
  (services ++ connections).foldl (· + ·) 0

end Cast

end PlatformDouble
