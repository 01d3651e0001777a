import PlatformDouble.Gate.Registering
import PlatformDouble.Proofs.Gate.Deliveries
import PlatformDouble.Proofs.Gate.History

namespace PlatformDouble

/-!
# The ledger of a gate

A gate whose callbacks do not come back to it can be told in two lists: all
registrations so far, and the bound connections in the order in which they were
bound, each with its component and its service.  The ledger is that machine.  It
knows neither tables nor serial numbers nor a reverse index; what it answers, it
reads off the two lists.

Services and connections are bystanders here.  They have a state of their own,
may do anything to it, and may fail with any ordinary fault.
-/

variable {ρ ε : Type}

/-- Code that has nothing to do with a gate and fails only with ordinary faults. -/
structure Aloof {α : Type} (code : Traced (Entry ρ) ε α) : Prop where
  apart : ∀ own, ∀ entry ∈ (code own).trace, entry.isApart = true
  ordinary : ∀ own fault, (code own).result = .error fault → fault.isOrdinary = true

/-- Services and connections that never call the gate. -/
structure Bystanders (ρ ε : Type) extends Binding.Callbacks ρ ε where
  services : ∀ service, Aloof (binderOf service)
  hearers : ∀ connection component handle, Aloof (connected connection component handle)
  leavers : ∀ connection named, Aloof (disconnected connection named)

/--
A callback that goes by a list: it raises the next exception there, and answers where there
is none next.
-/
def falter {φ α : Type} (exception : φ → Raised) (answer : α) :
    Traced (Entry ρ) (List (Option φ)) α
  | some next :: later =>
      { trace := [], state := later, result := .error (.raised (exception next)) }
  | none :: later => { trace := [], state := later, result := .ok answer }
  | [] => { trace := [], state := [], result := .ok answer }

/-- An exception of no special class, with a message. -/
def Raised.saying (message : String) : Raised :=
  ⟨.runtime, some message⟩

theorem aloof_falter
    {α : Type}
    (answer : α) :
    Aloof (falter Raised.saying answer : Traced (Entry ρ) (List (Option String)) α) where
  apart own := by
    rcases own with _ | ⟨_ | message, later⟩ <;> simp [falter]
  ordinary own fault fails := by
    rcases own with _ | ⟨_ | message, later⟩ <;> cases fails
    rfl

/-- Bystanders that fail by one list of messages, and services that hand out their binders. -/
def Bystanders.faltering : Bystanders ρ (List (Option String)) where
  listens _ := true
  binderOf service := falter Raised.saying (some (.binder service))
  connected _ _ _ := falter Raised.saying ()
  disconnected _ _ := falter Raised.saying ()
  services _ := aloof_falter _
  hearers _ _ _ := aloof_falter ()
  leavers _ _ := aloof_falter ()

/-- A call of a gate. -/
inductive GateCall where
  /-- Register in the directory, with a descriptor. -/
  | register
      (action : Value)
      (component : ComponentName)
      (service : Option ServiceId)
      (descriptor : Option ServiceInfo)
  /-- Register with what the descriptor is made of. -/
  | registerService
      (action : Value)
      (component : ComponentName)
      (service : Option ServiceId)
      (permission packageName className : Value)
  | bind (connection : ConnectionId) (intent : Intent)
  /-- Bind on behalf of a user. -/
  | bindAsUser (connection : ConnectionId) (intent : Intent) (user : Value)
  | unbind (connection : ConnectionId)

/-- What a call answers. -/
inductive GateAnswer where
  | nothing
  | flag (b : Bool)
  | descriptor (descriptor : ServiceInfo)
  deriving Repr, DecidableEq

/-- What is seen of a call: how it ended, what it delivered, who is bound after it. -/
structure CallReport where
  result : Except Fault GateAnswer
  deliveries : List Delivery
  bound : List (ConnectionId × ComponentName × ServiceId)

variable [Record.Validator]

namespace GateCall

/-- The registration that a call asks for. -/
def registration
    (action : Value)
    (component : ComponentName)
    (service : Option ServiceId)
    (permission packageName className : Value) :
    ServiceRegistration where
  action := action
  component := some component
  service := service
  permission := permission
  packageName := packageName
  className := className

def gatePart : StatePart (Gate × ε) Gate where
  get := Prod.fst
  put gate whole := (gate, whole.2)
  get_put _ _ := rfl

def onDirectory {α : Type} (code : Traced (Entry ρ) Directory α) :
    Traced (Entry ρ) (Gate × ε) α :=
  Traced.within gatePart (Traced.within Gate.directoryPart code)

/-- What belongs to the bystanders as a part of the whole. -/
def ownPart : StatePart (Gate × ε) ε where
  get := Prod.snd
  put own whole := (whole.1, own)
  get_put _ _ := rfl

def callbacks (bystanders : Bystanders ρ ε) : Binding.Callbacks ρ (Gate × ε) where
  listens := bystanders.listens
  binderOf service := Traced.within ownPart (bystanders.binderOf service)
  connected connection component handle :=
    Traced.within ownPart (bystanders.connected connection component handle)
  disconnected connection named :=
    Traced.within ownPart (bystanders.disconnected connection named)

/-- Perform a call at a gate. -/
def perform (bystanders : Bystanders ρ ε) :
    GateCall → Traced (Entry ρ) (Gate × ε) GateAnswer
  | register action component service descriptor => do
      onDirectory (Directory.register action (some component) service descriptor)
      pure .nothing
  | registerService action component service permission packageName className => do
      let descriptor ← onDirectory
        (registration action component service permission packageName className).perform
      pure (.descriptor descriptor)
  | bind connection intent => do
      let answer ← Binding.bind gatePart (callbacks bystanders) connection intent.component
      pure (.flag answer)
  | bindAsUser connection intent user => do
      let answer ←
        Binding.bindAsUser gatePart (callbacks bystanders) connection intent.component user
      pure (.flag answer)
  | unbind connection => do
      Binding.unbind gatePart (callbacks bystanders) connection
      pure .nothing

/-- Who is bound at a gate, in order. -/
def boundAt (gate : Gate) : List (ConnectionId × ComponentName × ServiceId) :=
  gate.sessions.values.map fun session =>
    (session.connection, session.component, session.service)

/-- Perform calls one after another, each whatever became of those before. -/
def reports (bystanders : Bystanders ρ ε) : List GateCall → Gate × ε → List CallReport
  | [], _ => []
  | call :: rest, whole =>
      let outcome := call.perform bystanders whole
      { result := outcome.result
        deliveries := Delivery.ofTrace outcome.trace
        bound := boundAt outcome.state.1 } ::
          reports bystanders rest outcome.state

end GateCall

/-- All registrations so far, and who is bound, in order. -/
structure Ledger where
  registrations : List Registration := []
  bound : List (ConnectionId × ComponentName × ServiceId) := []

/-- What a call makes of a ledger and of what belongs to the bystanders. -/
structure Turnout (ε : Type) where
  ledger : Ledger
  own : ε
  result : Except Fault GateAnswer
  deliveries : List Delivery

namespace Ledger

/-- What a connection is bound to. -/
def binding? (ledger : Ledger) (connection : ConnectionId) :
    Option (ComponentName × ServiceId) :=
  (ledger.bound.find? fun entry => entry.1 = connection).map Prod.snd

/-- The service of the latest registration of a component, if there is one. -/
def service? (ledger : Ledger) (component : ComponentName) : Option ServiceId :=
  (Registration.lastOf ledger.registrations (some component)).bind Registration.service

/-- The component of the latest registration with a service, if there is one. -/
def owner? (ledger : Ledger) (service : ServiceId) : Option ComponentName :=
  (Registration.lastWith ledger.registrations (some service)).bind Registration.component

/-- Refuse a call: nothing changes and nobody hears of it. -/
def refuse (ledger : Ledger) (own : ε) (fault : Fault) : Turnout ε :=
  { ledger := ledger, own := own, result := .error fault, deliveries := [] }

/--
Put a registration last, under an action that can be a key.  It stays there even if it
turns out that the key has no text to report it with.
-/
def register
    (ledger : Ledger)
    (own : ε)
    (action : Value)
    (component : ComponentName)
    (service : Option ServiceId)
    (descriptor : Option ServiceInfo)
    (answer : GateAnswer) :
    Turnout ε :=
  match ActionKey.ofValue action with
  | .error fault => ledger.refuse own fault
  | .ok key =>
      { ledger := { ledger with
          registrations :=
            ledger.registrations ++ [⟨key, some component, service, descriptor⟩] }
        own := own
        result := if key.isDisplayable then .ok answer else .error .numeralTooLong
        deliveries := [] }

/--
Ask the service for its binder and tell the connection, once.  The connection is
put last if it takes that well, and is not put there at all if not.
-/
def connect
    (bystanders : Bystanders ρ ε)
    (ledger : Ledger)
    (own : ε)
    (connection : ConnectionId)
    (component : ComponentName)
    (service : ServiceId) :
    Turnout ε :=
  if bystanders.listens connection then
    let asked := bystanders.binderOf service own
    match asked.result with
    | .error fault => ledger.refuse asked.state fault
    | .ok handle =>
        let told := bystanders.connected connection component handle asked.state
        { ledger :=
            match told.result with
            | .ok () => { ledger with
                bound := ledger.bound ++ [(connection, component, service)] }
            | .error _ => ledger
          own := told.state
          result := told.result.map fun _ => .flag true
          deliveries := [.connected connection component handle] }
  else
    ledger.refuse own .attributeRefused

/-- Bind a connection; that it is bound already is noticed before anything else. -/
def bind
    (bystanders : Bystanders ρ ε)
    (ledger : Ledger)
    (own : ε)
    (connection : ConnectionId)
    (component : Option ComponentName) :
    Turnout ε :=
  match ledger.binding? connection with
  | some _ => ledger.refuse own (.alreadyBound connection)
  | none =>
      match component with
      | none => ledger.refuse own (.unknownService none)
      | some name =>
          match ledger.service? name with
          | none => ledger.refuse own (.unknownService (some name))
          | some service => ledger.connect bystanders own connection name service

/-- Strike a connection out and tell it, once, however it takes that. -/
def unbind
    (bystanders : Bystanders ρ ε)
    (ledger : Ledger)
    (own : ε)
    (connection : ConnectionId) :
    Turnout ε :=
  match ledger.binding? connection with
  | none => ledger.refuse own (.notBound connection)
  | some (_, service) =>
      let named := ledger.owner? service
      let told := bystanders.disconnected connection named own
      { ledger := { ledger with
          bound := ledger.bound.filter fun entry => entry.1 ≠ connection }
        own := told.state
        result := told.result.map fun _ => .nothing
        deliveries := [.disconnected connection named] }

/-- Take a call. -/
def take (bystanders : Bystanders ρ ε) (ledger : Ledger) (own : ε) :
    GateCall → Turnout ε
  | .register action component service descriptor =>
      ledger.register own action component service descriptor .nothing
  | .registerService action component service permission packageName className =>
      match (GateCall.registration action component service permission packageName
          className).descriptor with
      | .error fault => ledger.refuse own fault
      | .ok descriptor =>
          ledger.register own action component service (some descriptor)
            (.descriptor descriptor)
  | .bind connection intent => ledger.bind bystanders own connection intent.component
  | .bindAsUser connection intent _ =>
      ledger.bind bystanders own connection intent.component
  | .unbind connection => ledger.unbind bystanders own connection

/-- Take calls one after another, each whatever became of those before. -/
def reports (bystanders : Bystanders ρ ε) : List GateCall → Ledger → ε → List CallReport
  | [], _, _ => []
  | call :: rest, ledger, own =>
      let turnout := ledger.take bystanders own call
      { result := turnout.result
        deliveries := turnout.deliveries
        bound := turnout.ledger.bound } ::
          reports bystanders rest turnout.ledger turnout.own

end Ledger

end PlatformDouble
