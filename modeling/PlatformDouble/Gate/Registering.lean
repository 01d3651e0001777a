import PlatformDouble.Trace

namespace PlatformDouble

/-!
# Registering services

A registration is checked, written and then reported.  What is wrong with an
action or a descriptor is found before anything is written.  That a component is
missing, or that the key of the action has no text, may be found only by the report,
after everything was written.
-/

/-- A request to register a service, with what its descriptor is made of. -/
structure ServiceRegistration where
  action : Value
  component : Option ComponentName
  service : Option ServiceId
  permission : Value := .null
  packageName : Value := .null
  className : Value := .null

variable [Record.Validator]

namespace ServiceRegistration

/-- A part of a name that is given, or taken from the component where it is not. -/
def givenOr
    (given : Value)
    (component : Option ComponentName)
    (part : ComponentName → String) :
    Except Fault Value :=
  if given.isTruthy then
    .ok given
  else
    match component with
    | some name => .ok (.text (part name))
    | none => .error .attributeRefused

/-- The descriptor of a registration; package and class default to those of the component. -/
def descriptor (registration : ServiceRegistration) : Except Fault ServiceInfo := do
  let package ←
    givenOr registration.packageName registration.component ComponentName.packageName
  let name ←
    givenOr registration.className registration.component ComponentName.className
  (ServiceInfo.ofValues registration.permission package name).mapError Fault.ofRefusal

end ServiceRegistration

namespace Directory

variable {ρ : Type}

/-- Report a registration by the name of its component and the text of its key. -/
def report (entry : Registration) : Traced (Entry ρ) Directory Unit :=
  match entry.component with
  | some name =>
      if entry.key.isDisplayable then
        Traced.logged (Traced.log Logging.directoryLogger .debug
          ("Registered " ++ name.flatText ++ " for " ++ entry.key.display))
      else
        Traced.fail .numeralTooLong
  | none => Traced.fail .attributeRefused

/-- Register a component with its service and descriptor under an action. -/
def register
    (action : Value)
    (component : Option ComponentName)
    (service : Option ServiceId)
    (descriptor : Option ServiceInfo) :
    Traced (Entry ρ) Directory Unit := do
  let key ← Traced.ofResult (ActionKey.ofValue action)
  let entry : Registration := ⟨key, component, service, descriptor⟩
  Traced.update fun directory => directory.write entry
  Traced.mark (.registered entry)
  report entry

end Directory

namespace ServiceRegistration

/-- Check the descriptor of a registration and register it. -/
def perform {ρ : Type} (registration : ServiceRegistration) :
    Traced (Entry ρ) Directory ServiceInfo := do
  let descriptor ← Traced.ofResult registration.descriptor
  Directory.register registration.action registration.component registration.service
    (some descriptor)
  Traced.done descriptor

end ServiceRegistration

end PlatformDouble
