import PlatformDouble.Fault

namespace PlatformDouble

/-!
# Health reports

A gate reports whether it is initialized, what it depends on and which of its
checks passed.  It is healthy when it is initialized and all checks passed; where
it is not initialized, what it gave for that is reported as it is.
-/

/-- The health of a gate. -/
structure HealthReport where
  gate : Value
  healthy : Value
  initialized : Value
  dependencies : Value
  checks : Value
  details : Value

namespace HealthReport

/-- Whether all checks passed; an empty value stands for no checks. -/
def allPassed (checks : Value) : Except Fault Bool :=
  match checks with
  | .object fields => .ok (fields.all fun field => field.2.isTruthy)
  | checks => if checks.isTruthy then .error .attributeRefused else .ok true

/-- Whether a gate is healthy. -/
def health (initialized : Value) (passed : Bool) : Value :=
  if initialized.isTruthy then .bool passed else initialized

def build (gate initialized dependencies checks details : Value) :
    Except Fault HealthReport :=
  (allPassed checks).map fun passed => {
    gate := gate
    healthy := health initialized passed
    initialized := initialized
    dependencies := dependencies
    checks := checks
    details := if details.isTruthy then details else .object [] }

/-- The fields of a report. -/
def toValue (report : HealthReport) : Value :=
  .object [
    ("gate", report.gate),
    ("healthy", report.healthy),
    ("initialized", report.initialized),
    ("dependencies", report.dependencies),
    ("checks", report.checks),
    ("details", report.details)]

end HealthReport

end PlatformDouble
