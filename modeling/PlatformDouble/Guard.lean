import PlatformDouble.Logging.Basic

namespace PlatformDouble

/-!
# Guarded operations

The stand-ins around the double do not let an ordinary failure out unseen: it is
logged, and then either raised again or replaced by a fallback.  Interrupts and
exits pass as they are.
-/

/-- How failures of an operation are reported. -/
structure FailureReport where
  gate : String
  operation : String
  /-- The level to log at, which has to be an integer. -/
  level : Value

namespace FailureReport

/-- The level at which failures are logged unless another is given. -/
def ordinaryLevel : Value := .int Logging.Severity.error.rank

def message (report : FailureReport) (failure : String) : String :=
  report.operation ++ " failed: " ++ failure

/-- Log a failure with the given text. -/
def log {σ : Type} (report : FailureReport) (failure : String) : Traced LogAction σ Unit :=
  Logging.recordAt (Logging.gateLogger report.gate) report.level (report.message failure)

/-- Run an operation; its ordinary failures are logged, and raised again if asked for. -/
def guarding {ε σ α : Type}
    (report : FailureReport)
    (embed : LogAction → ε)
    (raiseAgain : Bool)
    (fallback : α)
    (operation : Traced ε σ α) :
    Traced ε σ α := do
  let outcome ← Traced.attempt operation
  match outcome with
  | .ok answer => Traced.done answer
  | .error fault =>
      if fault.isOrdinary then do
        Traced.retrace embed (report.log (fault.message?.getD ""))
        if raiseAgain then
          Traced.fail fault
        else
          Traced.done fallback
      else
        Traced.fail fault

end FailureReport

end PlatformDouble
