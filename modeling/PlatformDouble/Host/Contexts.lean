import PlatformDouble.Context.FilePath
import PlatformDouble.Context.GateHealth
import PlatformDouble.Host.Basic
import PlatformDouble.Host.Reply
import PlatformDouble.Host.Request

namespace PlatformDouble

/-!
# Performing requests to a holder

These requests go to the current holder, which is made first if there is none.
They read or write the holder, its gate or the cursors, and call nobody back.
-/

namespace ContextRequest

open Context (Holder)

/-- A step of performing a request. -/
abbrev Step (α : Type) := Traced (Entry Response) Host α

variable [Record.Validator]

/-- The current holder, made on first need. -/
def currentHolder : Step Holder :=
  Traced.logged Host.holder

/-- A holder that is there is not made anew. -/
theorem currentHolder_of_some
    {host : Host}
    {held : Holder}
    (isCurrent : host.current = some held) :
    currentHolder host = { trace := [], state := host, result := .ok held } := by
  simp [currentHolder, Traced.logged, Traced.retrace, Host.holder, Bind.bind,
    Traced.andThen, Traced.current, isCurrent, Traced.done]

/-- What is asked of the current holder is asked of the one that is there. -/
theorem currentHolder_bind_of_some
    {α : Type}
    {host : Host}
    {held : Holder}
    (isCurrent : host.current = some held)
    (next : Holder → Step α) :
    (currentHolder >>= next) host = next held host := by
  have isHeld := currentHolder_of_some isCurrent
  refine (Traced.andThen_of_ok (congrArg Outcome.result isHeld)).trans ?_
  rw [isHeld]
  rfl

def gateOf (held : Holder) : Step Gate := do
  let host ← Traced.current
  pure (host.gate held.id)

def onDirectory {α : Type}
    (held : Holder)
    (action : Traced (Entry Response) Directory α) :
    Step α :=
  Traced.within (Host.directoryPart held.id) action

/-- Register a service at the gate of a holder. -/
def registerAt (held : Holder) (given : GivenRegistration) :
    Step (Option ComponentName × ServiceInfo) := do
  let registration ← Traced.ofChecked given.check
  let descriptor ← onDirectory held registration.perform
  pure (registration.component, descriptor)

def reportAdded : Option ComponentName → Step Unit
  | some name =>
      Traced.logged (Traced.log Logging.contextLogger .info
        ("Added service " ++ name.shortText))
  | none => Traced.fail .attributeRefused

/-- Register a service through the current holder, which reports it. -/
def registerAndReport (given : GivenRegistration) : Step Reply := do
  let held ← currentHolder
  let (component, descriptor) ← registerAt held given
  reportAdded component
  pure (.descriptor (some descriptor))

/-- The descriptor given for a registration in the directory, if one is given. -/
def checkDescriptor : Option Fields → Record.Checked (Option ServiceInfo)
  | none => .ok none
  | some fields => (ServiceInfo.ofFields fields).map some

/-- Advance a cursor over the directory it was opened on. -/
def advance (name : String) : Step Reply := do
  let host ← Traced.current
  match host.cursors.get? name with
  | none => Traced.fail (.unknownName name)
  | some opened => do
      let (result, cursor) := opened.cursor.advance (host.gate opened.holder).directory
      Traced.update fun host => {
        host with cursors := host.cursors.insert name { opened with cursor := cursor } }
      Traced.note (.advanced name result)
      let next ← Traced.ofResult result
      pure (.next next)

/-- How the lookup of the directory for files is guarded. -/
def filesReport : FailureReport where
  gate := "ContextGate"
  operation := "get_files_dir"
  level := FailureReport.ordinaryLevel

def answer : ContextRequest → Step Reply
  | holder settings injections => do
      let _ ← Traced.logged (Host.newHolder settings injections)
      pure .nothing
  | register registration => registerAndReport registration
  | registerAtGate registration => do
      let held ← currentHolder
      let (_, descriptor) ← registerAt held registration
      pure (.descriptor (some descriptor))
  | registerInDirectory action component service fields => do
      let descriptor ← Traced.ofChecked (checkDescriptor fields)
      let held ← currentHolder
      let name ← Traced.ofChecked component.check
      onDirectory held (Directory.register action name service descriptor)
      pure .nothing
  | addConnectionService component service =>
      registerAndReport {
        action := .constant .connectionService
        component := component
        service := service
        permission := .constant .bindConnectionService }
  | addInCallService component service =>
      registerAndReport {
        action := .constant .inCallService
        component := component
        service := service
        permission := .constant .bindInCallService }
  | isBound connection => do
      let gate ← gateOf (← currentHolder)
      pure (.flag (gate.isBound connection))
  | session connection => do
      let gate ← gateOf (← currentHolder)
      pure (.session (gate.sessions.get? connection))
  | changeSession connection part => do
      let gate ← gateOf (← currentHolder)
      Traced.fail (Session.changeRefusal (gate.sessions.get? connection) part)
  | sizes => do
      let gate ← gateOf (← currentHolder)
      pure (.sizes gate.directory.size gate.sessions.size)
  | query action => do
      let gate ← gateOf (← currentHolder)
      let found ← Traced.ofResult (gate.directory.descriptorsFor action)
      pure (.descriptors found)
  | resolve action => do
      let gate ← gateOf (← currentHolder)
      let found ← Traced.ofResult (gate.directory.resolve action)
      pure (.resolutions found)
  | queryIntent intent => do
      let held ← currentHolder
      let checked ← Traced.ofChecked intent.check
      let found ← onDirectory held (Traced.logged (Directory.queryIntent checked))
      pure (.resolutions found)
  | openCursor name action => do
      let held ← currentHolder
      let opened : OpenCursor := { holder := held.id, cursor := .waiting action }
      Traced.update fun host => { host with cursors := host.cursors.insert name opened }
      Traced.note (.opened name action)
      pure .nothing
  | advanceCursor name => advance name
  | serviceOf component => do
      let gate ← gateOf (← currentHolder)
      let name ← Traced.ofChecked component.check
      pure (.service (gate.directory.service? name))
  | descriptorOf component => do
      let gate ← gateOf (← currentHolder)
      let name ← Traced.ofChecked component.check
      pure (.descriptor (gate.directory.descriptor? name))
  | ownerOf service => do
      let gate ← gateOf (← currentHolder)
      pure (.component (gate.directory.owner? service))
  | listed action => do
      let gate ← gateOf (← currentHolder)
      let found ← Traced.ofResult (gate.directory.listed action)
      pure (.components found)
  | contains component => do
      let name ← Traced.ofChecked component.check
      let gate ← gateOf (← currentHolder)
      pure (.flag (gate.directory.contains name))
  | putResource id value => do
      let held ← currentHolder
      Traced.update fun host => { host with current := some (held.putResource id value) }
      pure .nothing
  | resource id => do
      let held ← currentHolder
      let value ← held.resource id
      pure (.value value)
  | fixedAnswers => do
      let held ← currentHolder
      pure (.fixedAnswers held.configuration.locale held.opPackage held.headset
        held.subscription)
  | systemService name => do
      let held ← currentHolder
      let service ← held.systemService name
      pure (.systemService service)
  | contentResolver => do
      let _ ← currentHolder
      pure (.provider {})
  | contexts => do
      let _ ← currentHolder
      pure (.contexts {})
  | broadcast intent => do
      let _ ← currentHolder
      let checked ← Traced.ofChecked intent.check
      Traced.logged (Traced.log Logging.contextLogger .debug
        ("Dropped broadcast " ++ (Value.ofText? checked.action).display))
      pure .nothing
  | registerReceiver => do
      let _ ← currentHolder
      pure .nothing
  | filesDirectory temporary => do
      let _ ← currentHolder
      let path ← filesReport.guarding Entry.log true ""
        (Traced.ofResult (Context.pathOf temporary))
      pure (.text path)
  | contextHealth => do
      let gate ← gateOf (← currentHolder)
      let report ← Traced.ofResult (Context.contextGateHealth gate)
      pure (.health report)
  | gateHealth => do
      let gate ← gateOf (← currentHolder)
      let report ← Traced.ofResult (Context.serviceGateHealth gate)
      pure (.health report)

end ContextRequest

end PlatformDouble
