import PlatformDouble.Gate.Session
import PlatformDouble.Health

namespace PlatformDouble.Context

/-!
# The health of gates

The service gate reports its directory and sessions as details; the context gate
passes these on and depends on the service gate alone.
-/

/-- The details of a gate: components, action keys and live sessions. -/
def gateDetails (gate : Gate) : Value :=
  .object [
    ("registered_components", .int gate.directory.size),
    ("actions", .list (gate.directory.actions.map ActionKey.toValue)),
    ("live_sessions", .int gate.sessions.size)]

def serviceGateHealth (gate : Gate) : Except Fault HealthReport :=
  HealthReport.build (.text "ServiceGate") (.bool true) (.list [])
    (.object [("directory_ready", .bool true)])
    (gateDetails gate)

def contextGateHealth (gate : Gate) : Except Fault HealthReport := do
  let services ← serviceGateHealth gate
  HealthReport.build (.text "ContextGate") (.bool true) (.list [.text "ServiceGate"])
    (.object [("service_gate", services.healthy)])
    services.details

end PlatformDouble.Context
