import PlatformDouble.Host.Reply
import PlatformDouble.Host.Request

namespace PlatformDouble

/-!
# Performing requests about reports

Logging, guarded operations and health reports touch no state but that of
logging, so these requests can be performed over any state.
-/

namespace ReportRequest

variable {σ : Type}

/-- The body of a guarded operation: it is seen to run, and then ends as given. -/
def body (arguments named : Value) (ending : Except Raised Value) :
    Traced (Entry Response) σ Value := do
  Traced.observe (.bodyRan arguments named)
  Traced.ofResult (ending.mapError Fault.raised)

/-- The logger whose level is set: that of a gate with a name, else the root. -/
def levelTarget : Option String → String
  | some gate => if gate.isEmpty then Logging.rootLogger else Logging.gateLogger gate
  | none => Logging.rootLogger

def answer : ReportRequest → Traced (Entry Response) σ Response
  | health gate initialized dependencies checks details => do
      let report ←
        Traced.ofResult (HealthReport.build gate initialized dependencies checks details)
      pure (.known (.health report))
  | handle report failure fallback => do
      Traced.logged (report.log failure.text)
      pure (.known (.value fallback))
  | guarded report arguments named ending fallback raiseAgain => do
      let value ← report.guarding Entry.log raiseAgain fallback (body arguments named ending)
      pure (.known (.value value))
  | logger gate => do
      Traced.emit (.log (.mention (Logging.gateLogger gate)))
      pure (.inquiry (.logger (Logging.gateLogger gate)))
  | setLevel level gate => do
      Traced.logged (Logging.setLevel (levelTarget gate) level)
      pure (.known .nothing)
  | log gate level message => do
      Traced.logged (Logging.recordAt (Logging.gateLogger gate) level message)
      pure (.known .nothing)
  | rootLevel => pure (.inquiry .rootLevel)
  | reconfigure configured dropHandlers => do
      Traced.emit (.log (.reconfigure configured dropHandlers))
      pure (.inquiry .root)

end ReportRequest

end PlatformDouble
