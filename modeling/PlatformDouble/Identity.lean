namespace PlatformDouble

/-!
# Identities

Connections and services are told apart by who they are, never by what they are
equal to.  An identity is a label; distinct labels are distinct objects.
-/

/-- A connection, the receiver of bind and unbind callbacks. -/
structure ConnectionId where
  label : String
  deriving Repr, DecidableEq

/-- A service that a test puts in place of a real one. -/
structure ServiceId where
  label : String
  deriving Repr, DecidableEq

/-- The text by which a connection shows itself. -/
def ConnectionId.display (connection : ConnectionId) : String :=
  "<" ++ connection.label ++ ">"

/-- What a connection is handed: a service itself, or the binder that a service made. -/
inductive Handle where
  | service (service : ServiceId)
  | binder (service : ServiceId)
  deriving Repr, DecidableEq

end PlatformDouble
