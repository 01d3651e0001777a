import Mathlib.Logic.Function.Basic
import PlatformDouble.Proofs.Gate.Alternation
import PlatformDouble.Proofs.Gate.LedgerSimulation

namespace PlatformDouble

/-!
# Connections do not meet

Connections of one gate share its directory and nothing else.  What one of them is
answered, hears and is bound to does not depend on whether others bind and unbind
in between, even if they fail halfway.

This is a statement about two runs, one of which lacks the visits of the others, with
callbacks that are secluded: each connection keeps to what belongs to it.  The runs are
compared through `AgreeFor`, which a visit of the connection and a registration keep in
both, and a visit of another in the one that has it.
-/

variable {ρ ε : Type}

/-- A gate, and what belongs to each connection. -/
abbrev GateAmong (ε : Type) := Gate × (ConnectionId → ε)

/-- What belongs to one connection. -/
def ownPart (connection : ConnectionId) : StatePart (GateAmong ε) ε where
  get among := among.2 connection
  put own among := (among.1, Function.update among.2 connection own)
  get_put own among := by simp

/--
Code that works on what belongs to a connection, and on nothing else, and has nothing to
do with a gate.  It may fail in any way.
-/
def KeepsTo (connection : ConnectionId) (code : Traced (Entry ρ) (GateAmong ε) Unit) : Prop :=
  ∃ work : Traced (Entry ρ) ε Unit,
    code = Traced.within (ownPart connection) work ∧
      ∀ own, ∀ entry ∈ (work own).trace, entry.isApart = true

/--
Services do nothing when they are asked for a binder, and hand out the same whenever they
are.  Each connection keeps to what belongs to it; it may fail in any way, interrupts
included.
-/
structure Binding.Callbacks.AreSecluded (callbacks : Binding.Callbacks ρ (GateAmong ε)) :
    Prop where
  asked :
    ∀ service, ∃ trace handle,
      (∀ entry ∈ trace, entry.isApart = true) ∧
        ∀ among,
          callbacks.binderOf service among =
            { trace := trace, state := among, result := .ok handle }
  connected :
    ∀ connection component handle,
      KeepsTo connection (callbacks.connected connection component handle)
  disconnected :
    ∀ connection named, KeepsTo connection (callbacks.disconnected connection named)

/-- What secluded callbacks consist of, with the work of each connection. -/
structure Loners (ρ ε : Type) where
  /-- Whether a connection can be told that its session stands. -/
  listens : ConnectionId → Bool
  binder : ServiceId → Option Handle
  /-- What is seen of a service that is asked for its binder. -/
  asked : ServiceId → List (Entry ρ)
  connected : ConnectionId → ComponentName → Option Handle → Traced (Entry ρ) ε Unit
  disconnected : ConnectionId → Option ComponentName → Traced (Entry ρ) ε Unit
  asked_apart :
    ∀ service, ∀ entry ∈ asked service, entry.isApart = true
  connected_apart :
    ∀ connection component handle own,
      ∀ entry ∈ (connected connection component handle own).trace, entry.isApart = true
  disconnected_apart :
    ∀ connection named own,
      ∀ entry ∈ (disconnected connection named own).trace, entry.isApart = true

/-- What comes to a gate: a registration, whatever it names, or a connection. -/
inductive GateVisit where
  /-- Register in the directory, with a descriptor. -/
  | register
      (action : Value)
      (component : Option ComponentName)
      (service : Option ServiceId)
      (descriptor : Option ServiceInfo)
  /-- Register with what the descriptor is made of. -/
  | registerService (registration : ServiceRegistration)
  | bind (connection : ConnectionId) (intent : Intent)
  | unbind (connection : ConnectionId)

/-- An outcome of which only what was delivered is left in the trace. -/
def Outcome.heard {σ α : Type} (outcome : Outcome (Entry ρ) σ α) : Outcome Delivery σ α :=
  { trace := Delivery.ofTrace outcome.trace
    state := outcome.state
    result := outcome.result }

/-- What a connection sees of one visit. -/
structure VisitSighting where
  result : Except Fault GateAnswer
  heard : List Delivery
  /-- Its session after the visit. -/
  session : Option (ConnectionId × ComponentName × ServiceId)

/-- What a connection sees of a run. -/
structure RunSighting where
  /-- Its own visits and the registrations, one after another. -/
  visits : List VisitSighting
  /-- All that it hears, during whichever visit. -/
  heard : List Delivery

/-- The session of a connection, as far as it can be seen. -/
def Gate.sessionOf (gate : Gate) (connection : ConnectionId) :
    Option (ConnectionId × ComponentName × ServiceId) :=
  (gate.sessions.get? connection).map fun session =>
    (session.connection, session.component, session.service)

namespace Loners

def callbacks (loners : Loners ρ ε) : Binding.Callbacks ρ (GateAmong ε) where
  listens := loners.listens
  binderOf service := fun among =>
    { trace := loners.asked service, state := among, result := .ok (loners.binder service) }
  connected connection component handle :=
    Traced.within (ownPart connection) (loners.connected connection component handle)
  disconnected connection named :=
    Traced.within (ownPart connection) (loners.disconnected connection named)

end Loners

/-- Connections that fail each by a list of its own, and services that hand out their binders. -/
def Binding.Callbacks.falterApart :
    Binding.Callbacks ρ (GateAmong (List (Option Raised))) where
  listens _ := true
  binderOf service := Traced.done (some (.binder service))
  connected connection _ _ := Traced.within (ownPart connection) (falter id ())
  disconnected connection _ := Traced.within (ownPart connection) (falter id ())

theorem Binding.Callbacks.areSecluded_falterApart :
    (falterApart : Binding.Callbacks ρ (GateAmong (List (Option Raised)))).AreSecluded := by
  have apart :
      ∀ own, ∀ entry ∈ (falter id () own : Outcome (Entry ρ) (List (Option Raised)) Unit).trace,
        entry.isApart = true := by
    rintro (_ | ⟨_ | exception, later⟩) <;> simp [falter]
  exact {
    asked := fun service => ⟨[], _, by simp, fun _ => rfl⟩
    connected := fun _ _ _ => ⟨_, rfl, apart⟩
    disconnected := fun _ _ => ⟨_, rfl, apart⟩ }

theorem Binding.Callbacks.AreSecluded.exists_loners
    {callbacks : Binding.Callbacks ρ (GateAmong ε)}
    (areSecluded : callbacks.AreSecluded) :
    ∃ loners : Loners ρ ε, loners.callbacks = callbacks := by
  choose trace handle asked_apart asks using areSecluded.asked
  choose connected isConnected connected_apart using areSecluded.connected
  choose disconnected isDisconnected disconnected_apart using areSecluded.disconnected
  let loners : Loners ρ ε := {
    listens := callbacks.listens
    binder := handle
    asked := trace
    connected := connected
    disconnected := disconnected
    asked_apart := asked_apart
    connected_apart := connected_apart
    disconnected_apart := disconnected_apart }
  refine ⟨loners, Binding.Callbacks.ext rfl ?_ ?_ ?_⟩
  · funext service among
    exact (asks service among).symm
  · funext connection component given
    exact (isConnected connection component given).symm
  · funext connection named
    exact (isDisconnected connection named).symm

namespace GateVisit

/-- Whether a visit is that of another connection. -/
def isForeignTo (connection : ConnectionId) : GateVisit → Bool
  | bind other _ => other ≠ connection
  | unbind other => other ≠ connection
  | _ => false

variable [Record.Validator]

def perform (callbacks : Binding.Callbacks ρ (GateAmong ε)) :
    GateVisit → Traced (Entry ρ) (GateAmong ε) GateAnswer
  | register action component service descriptor => do
      GateCall.onDirectory (Directory.register action component service descriptor)
      pure .nothing
  | registerService registration => do
      let descriptor ← GateCall.onDirectory registration.perform
      pure (.descriptor descriptor)
  | bind connection intent => do
      let answer ←
        Binding.bind GateCall.gatePart callbacks connection intent.component
      pure (.flag answer)
  | unbind connection => do
      Binding.unbind GateCall.gatePart callbacks connection
      pure .nothing

/-- What a connection sees when visits are made one after another, whatever becomes of each. -/
def seenBy (callbacks : Binding.Callbacks ρ (GateAmong ε)) (connection : ConnectionId) :
    List GateVisit → GateAmong ε → RunSighting
  | [], _ => { visits := [], heard := [] }
  | visit :: rest, among =>
      let outcome := visit.perform callbacks among
      let heard := Delivery.heardBy connection (Delivery.ofTrace outcome.trace)
      let later := seenBy callbacks connection rest outcome.state
      let sighting : VisitSighting := {
        result := outcome.result
        heard := heard
        session := outcome.state.1.sessionOf connection }
      { visits :=
          if visit.isForeignTo connection then later.visits else sighting :: later.visits
        heard := heard ++ later.heard }

end GateVisit

namespace Loners

variable (loners : Loners ρ ε)

/-- What becomes of telling a connection of its session: what it hears and how it ends. -/
def tell
    (connection : ConnectionId)
    (component : ComponentName)
    (service : ServiceId)
    (own : ε) :
    Outcome Delivery ε Unit :=
  if loners.listens connection then
    let handle := loners.binder service
    let told := loners.connected connection component handle own
    { trace := [.connected connection component handle]
      state := told.state
      result := told.result }
  else
    { trace := [], state := own, result := .error .attributeRefused }

/-- What is left of a gate that opened a session, once its connection was told. -/
def settle (opened : Gate) (connection : ConnectionId) : Except Fault Unit → Gate
  | .ok _ => opened
  | .error fault => if fault.isOrdinary then opened.dropSession connection else opened

/-- A delivery is heard by its own connection, and leaves the gate and all others alone. -/
theorem heard_deliver
    (session : Session)
    (gate : Gate)
    (own : ConnectionId → ε) :
    let told := loners.tell session.connection session.component session.service
      (own session.connection)
    (Binding.deliver loners.callbacks session (gate, own)).heard =
      { trace := told.trace
        state := (gate, Function.update own session.connection told.state)
        result := told.result } := by
  cases listens : loners.listens session.connection with
  | false =>
      have delivers :
          Binding.deliver loners.callbacks session (gate, own) =
            { trace := [], state := (gate, own), result := .error .attributeRefused } :=
        Binding.deliver_unheard listens
      rw [delivers]
      simp [tell, listens, Outcome.heard]
  | true =>
      have asks :
          loners.callbacks.binderOf session.service (gate, own) =
            { trace := loners.asked session.service
              state := (gate, own)
              result := .ok (loners.binder session.service) } :=
        rfl
      have silentAsking :=
        Delivery.ofTrace_of_apart (loners.asked_apart session.service)
      have silentTelling :=
        Delivery.ofTrace_of_apart
          (loners.connected_apart session.connection session.component
            (loners.binder session.service) (own session.connection))
      rw [Binding.deliver_told listens asks rfl]
      simp [tell, listens, Outcome.heard, silentAsking, silentTelling, ownPart]

/-- Only a connection itself hears of its session. -/
theorem heardBy_tell_of_ne
    {connection other : ConnectionId}
    (different : other ≠ connection)
    (component : ComponentName)
    (service : ServiceId)
    (own : ε) :
    Delivery.heardBy connection (loners.tell other component service own).trace = [] := by
  unfold tell
  split <;> simp [Delivery.heardBy, different]

/-- Whether a new session stands or falls, each is under its own connection. -/
theorem isKeyed_settle
    {gate : Gate}
    (keyed : gate.IsKeyed)
    (session : Session)
    (connection : ConnectionId)
    (result : Except Fault Unit) :
    (settle (gate.addSession session) connection result).IsKeyed := by
  have added := keyed.addSession session
  unfold settle
  split
  · exact added
  · split
    · exact added.dropSession connection
    · exact added

/-- A session that is opened stands or falls with what its own connection makes of it. -/
theorem heard_bind
    {gate opened : Gate}
    {connection : ConnectionId}
    {component : Option ComponentName}
    {session : Session}
    (opens : gate.openSession connection component = .ok (session, opened))
    (own : ConnectionId → ε) :
    let told := loners.tell connection session.component session.service (own connection)
    (Binding.bind GateCall.gatePart loners.callbacks connection component
        (gate, own)).heard =
      { trace := told.trace
        state :=
          (settle opened connection told.result,
            Function.update own connection told.state)
        result := told.result.map fun _ => true } := by
  intro told
  have isOwn : session.connection = connection :=
    (Gate.of_openSession opens).2.1
  have delivered := loners.heard_deliver session opened own
  rw [isOwn] at delivered
  rcases delivers : Binding.deliver loners.callbacks session (opened, own) with
    ⟨trace, reached, result⟩
  rw [delivers] at delivered
  obtain ⟨sameTrace, sameState, sameResult⟩ := Outcome.mk.inj delivered
  dsimp only at sameState
  subst sameState
  change result = told.result at sameResult
  rw [← sameResult]
  change Delivery.ofTrace trace = told.trace at sameTrace
  cases result with
  | ok answer =>
      rw [Binding.bind_established (gate, own) opens delivers]
      simp [Outcome.heard, Binding.boundEntry, sameTrace, settle, Except.map]
      rfl
  | error fault =>
      cases ordinary : fault.isOrdinary with
      | true =>
          rw [Binding.bind_withdrawn (gate, own) opens delivers ordinary]
          simp [Outcome.heard, sameTrace, settle, ordinary, isOwn, Except.map,
            GateCall.gatePart]
          rfl
      | false =>
          rw [Binding.bind_abandoned (gate, own) opens delivers ordinary]
          simp [Outcome.heard, sameTrace, settle, ordinary, Except.map]
          rfl

/-- A session that is closed is closed for its own connection. -/
theorem heard_unbind
    {gate : Gate}
    {connection : ConnectionId}
    {session : Session}
    (found : gate.sessions.get? connection = some session)
    (own : ConnectionId → ε) :
    let named := gate.directory.owner? (some session.service)
    let told := loners.disconnected connection named (own connection)
    (Binding.unbind GateCall.gatePart loners.callbacks connection (gate, own)).heard =
      { trace := [.disconnected session.connection named]
        state :=
          (gate.dropSession connection, Function.update own connection told.state)
        result := told.result } := by
  intro named told
  have silent :=
    Delivery.ofTrace_of_apart
      (loners.disconnected_apart connection named (own connection))
  have tells :
      loners.callbacks.disconnected connection named (gate.dropSession connection, own) =
        { trace := told.trace
          state :=
            (gate.dropSession connection, Function.update own connection told.state)
          result := told.result } :=
    rfl
  have closes :
      Binding.unbind GateCall.gatePart loners.callbacks connection (gate, own) = _ :=
    Binding.unbind_closed (gate, own) found rfl tells
  rw [closes]
  simp [Outcome.heard, Binding.unboundEntry, silent, told, named, GateCall.gatePart]

end Loners

@[simp] theorem Gate.sessionOf_addSession_self
    (gate : Gate)
    (session : Session) :
    (gate.addSession session).sessionOf session.connection =
      some (session.connection, session.component, session.service) := by
  simp [sessionOf, addSession]

theorem Gate.sessionOf_addSession_of_ne
    (gate : Gate)
    {session : Session}
    {connection : ConnectionId}
    (other : session.connection ≠ connection) :
    (gate.addSession session).sessionOf connection = gate.sessionOf connection := by
  simp [sessionOf, addSession, Table.get?_insert_of_ne _ _ other]

@[simp] theorem Gate.sessionOf_dropSession_self
    (gate : Gate)
    (connection : ConnectionId) :
    (gate.dropSession connection).sessionOf connection = none := by
  simp [sessionOf, dropSession]

theorem Gate.sessionOf_dropSession_of_ne
    (gate : Gate)
    {dropped connection : ConnectionId}
    (other : dropped ≠ connection) :
    (gate.dropSession dropped).sessionOf connection = gate.sessionOf connection := by
  simp [sessionOf, dropSession, Table.get?_erase_of_ne _ other]

/-- What two gates have in common for a connection; only the others can tell them apart. -/
structure AgreeFor
    (connection : ConnectionId)
    (first second : GateAmong ε) : Prop where
  directory : first.1.directory = second.1.directory
  session : first.1.sessionOf connection = second.1.sessionOf connection
  own : first.2 connection = second.2 connection

namespace AgreeFor

variable {connection : ConnectionId} {first second third : GateAmong ε}

theorem refl
    (among : GateAmong ε) :
    AgreeFor connection among among :=
  ⟨rfl, rfl, rfl⟩

theorem trans
    (agree : AgreeFor connection first second)
    (agreeOn : AgreeFor connection second third) :
    AgreeFor connection first third where
  directory := agree.directory.trans agreeOn.directory
  session := agree.session.trans agreeOn.session
  own := agree.own.trans agreeOn.own

/-- Either both have a session of the connection, to the same service, or neither has. -/
theorem get?_cases
    (agree : AgreeFor connection first second) :
    (first.1.sessions.get? connection = none ∧
        second.1.sessions.get? connection = none) ∨
      ∃ session same,
        first.1.sessions.get? connection = some session ∧
          second.1.sessions.get? connection = some same ∧
          session.connection = same.connection ∧
          session.component = same.component ∧
          session.service = same.service := by
  have sameSession := agree.session
  unfold Gate.sessionOf at sameSession
  cases found : first.1.sessions.get? connection with
  | none =>
      rw [found, Option.map_none, eq_comm, Option.map_eq_none_iff] at sameSession
      exact .inl ⟨rfl, sameSession⟩
  | some session =>
      rw [found, Option.map_some, eq_comm, Option.map_eq_some_iff] at sameSession
      obtain ⟨same, foundSame, alike⟩ := sameSession
      simp only [Prod.mk.injEq] at alike
      exact .inr ⟨session, same, rfl, foundSame, alike.1.symm, alike.2.1.symm,
        alike.2.2.symm⟩

/-- Either both open a session, to the same service, or both refuse for the same reason. -/
theorem openSession_cases
    (agree : AgreeFor connection first second)
    (component : Option ComponentName) :
    (∃ fault,
        first.1.openSession connection component = .error fault ∧
          second.1.openSession connection component = .error fault) ∨
      ∃ session same,
        first.1.openSession connection component =
            .ok (session, first.1.addSession session) ∧
          second.1.openSession connection component =
            .ok (same, second.1.addSession same) ∧
          session.component = same.component ∧
          session.service = same.service := by
  rcases agree.get?_cases with ⟨free, freeToo⟩ | ⟨session, same, found, foundToo, -⟩
  · cases component with
    | none =>
        exact .inl ⟨_, Gate.openSession_of_unnamed free,
          Gate.openSession_of_unnamed freeToo⟩
    | some name =>
        cases known : first.1.directory.service? (some name) with
        | none =>
            have knownToo := agree.directory ▸ known
            exact .inl ⟨_, Gate.openSession_of_unknown free known,
              Gate.openSession_of_unknown freeToo knownToo⟩
        | some service =>
            have knownToo := agree.directory ▸ known
            exact .inr ⟨_, _, Gate.openSession_of_known free known,
              Gate.openSession_of_known freeToo knownToo, rfl, rfl⟩
  · exact .inl ⟨_, Gate.openSession_of_bound found component,
      Gate.openSession_of_bound foundToo component⟩

/-- The same becomes of two sessions that were opened alike and told alike. -/
theorem settle
    (agree : AgreeFor connection first second)
    {session same : Session}
    (isOwn : session.connection = connection)
    (isOwnToo : same.connection = connection)
    (sameComponent : session.component = same.component)
    (sameService : session.service = same.service)
    (result : Except Fault Unit)
    (own : ε) :
    AgreeFor connection
      (Loners.settle (first.1.addSession session) connection result,
        Function.update first.2 connection own)
      (Loners.settle (second.1.addSession same) connection result,
        Function.update second.2 connection own) := by
  have standing :
      (first.1.addSession session).sessionOf connection =
        (second.1.addSession same).sessionOf connection := by
    subst isOwn
    rw [Gate.sessionOf_addSession_self, ← isOwnToo, Gate.sessionOf_addSession_self]
    simp [isOwnToo, sameComponent, sameService]
  unfold Loners.settle
  split
  · exact ⟨agree.directory, standing, by simp⟩
  · split
    · exact ⟨agree.directory, by simp, by simp⟩
    · exact ⟨agree.directory, standing, by simp⟩

/-- What becomes of the session of another makes no difference. -/
theorem settle_other
    {gate : Gate}
    {own : ConnectionId → ε}
    {session : Session}
    (other : session.connection ≠ connection)
    (result : Except Fault Unit)
    (told : ε) :
    AgreeFor connection
      (Loners.settle (gate.addSession session) session.connection result,
        Function.update own session.connection told)
      (gate, own) := by
  have standing :
      (gate.addSession session).sessionOf connection = gate.sessionOf connection :=
    gate.sessionOf_addSession_of_ne other
  have aside : Function.update own session.connection told connection = own connection :=
    Function.update_of_ne other.symm told own
  unfold Loners.settle
  split
  · exact ⟨rfl, standing, aside⟩
  · split
    · exact ⟨rfl, (Gate.sessionOf_dropSession_of_ne _ other).trans standing, aside⟩
    · exact ⟨rfl, standing, aside⟩

end AgreeFor

/-- What a connection could tell two outcomes apart by is the same in both. -/
structure AlikeFor
    {α : Type}
    (connection : ConnectionId)
    (first second : Outcome (Entry ρ) (GateAmong ε) α) : Prop where
  result : first.result = second.result
  heard : Delivery.ofTrace first.trace = Delivery.ofTrace second.trace
  agree : AgreeFor connection first.state second.state

namespace AlikeFor

variable {α β : Type} {connection : ConnectionId} {first second : GateAmong ε}

/-- Outcomes that are heard alike are alike, if what they leave is. -/
theorem of_heard
    {one other : Outcome (Entry ρ) (GateAmong ε) α}
    {trace : List Delivery}
    {result : Except Fault α}
    (goes : one.heard = { trace := trace, state := first, result := result })
    (goesToo : other.heard = { trace := trace, state := second, result := result })
    (agree : AgreeFor connection first second) :
    AlikeFor connection one other := by
  obtain ⟨heard, reached, ended⟩ := Outcome.mk.inj goes
  obtain ⟨heardToo, reachedToo, endedToo⟩ := Outcome.mk.inj goesToo
  exact {
    result := ended.trans endedToo.symm
    heard := heard.trans heardToo.symm
    agree := by rwa [reached, reachedToo] }

theorem of_answer
    {code : Traced (Entry ρ) (GateAmong ε) α}
    (alike : AlikeFor connection (code first) (code second))
    (change : α → β) :
    AlikeFor connection
      ((code >>= fun answer => pure (change answer) :
        Traced (Entry ρ) (GateAmong ε) β) first)
      ((code >>= fun answer => pure (change answer) :
        Traced (Entry ρ) (GateAmong ε) β) second) := by
  rw [Traced.bind_pure, Traced.bind_pure]
  exact ⟨congrArg (Except.map change) alike.result, alike.heard, alike.agree⟩

/-- Whatever is done to a directory is done alike to the same directory. -/
theorem onDirectory
    (agree : AgreeFor connection first second)
    (code : Traced (Entry ρ) Directory α) :
    AlikeFor connection
      (GateCall.onDirectory code first)
      (GateCall.onDirectory code second) := by
  have same := congrArg code agree.directory
  exact {
    result := (congrArg Outcome.result same :)
    heard := (congrArg (fun outcome => Delivery.ofTrace outcome.trace) same :)
    agree := {
      directory := (congrArg Outcome.state same :)
      session := agree.session
      own := agree.own } }

variable (loners : Loners ρ ε)

theorem bind
    (agree : AgreeFor connection first second)
    (component : Option ComponentName) :
    AlikeFor connection
      (Binding.bind GateCall.gatePart loners.callbacks connection component first)
      (Binding.bind GateCall.gatePart loners.callbacks connection component second) := by
  rcases agree.openSession_cases component with
    ⟨fault, refuses, refusesToo⟩ |
      ⟨session, same, opens, opensToo, sameComponent, sameService⟩
  · rw [Binding.bind_refused first refuses, Binding.bind_refused second refusesToo]
    exact ⟨rfl, rfl, agree⟩
  · have isOwn := (Gate.of_openSession opens).2.1
    have isOwnToo := (Gate.of_openSession opensToo).2.1
    have goes := loners.heard_bind opens first.2
    have goesToo := loners.heard_bind opensToo second.2
    rw [← sameComponent, ← sameService, ← agree.own] at goesToo
    have settled := agree.settle isOwn isOwnToo sameComponent sameService
      (loners.tell connection session.component session.service
        (first.2 connection)).result
      (loners.tell connection session.component session.service
        (first.2 connection)).state
    exact .of_heard goes goesToo settled

theorem unbind
    (agree : AgreeFor connection first second) :
    AlikeFor connection
      (Binding.unbind GateCall.gatePart loners.callbacks connection first)
      (Binding.unbind GateCall.gatePart loners.callbacks connection second) := by
  rcases agree.get?_cases with
    ⟨free, freeToo⟩ |
      ⟨session, same, found, foundToo, sameConnection, -, sameService⟩
  · rw [Binding.unbind_refused first free, Binding.unbind_refused second freeToo]
    exact ⟨rfl, rfl, agree⟩
  · have goes := loners.heard_unbind found first.2
    have goesToo := loners.heard_unbind foundToo second.2
    rw [← sameConnection, ← sameService, ← agree.directory, ← agree.own] at goesToo
    exact .of_heard goes goesToo ⟨agree.directory, by simp, by simp⟩

end AlikeFor

namespace GateVisit

variable [Record.Validator] (loners : Loners ρ ε) {connection : ConnectionId}

/-- A visit that is not that of another is the same to a connection in both runs. -/
theorem alikeFor_perform
    {visit : GateVisit}
    (own : visit.isForeignTo connection = false)
    {first second : GateAmong ε}
    (agree : AgreeFor connection first second) :
    AlikeFor connection (visit.perform loners.callbacks first) (visit.perform loners.callbacks second) := by
  cases visit with
  | register action component service descriptor =>
      exact (AlikeFor.onDirectory agree _).of_answer fun _ => GateAnswer.nothing
  | registerService registration =>
      exact (AlikeFor.onDirectory agree _).of_answer GateAnswer.descriptor
  | bind visitor intent =>
      obtain rfl : visitor = connection := by simpa [isForeignTo] using own
      exact (AlikeFor.bind loners agree _).of_answer GateAnswer.flag
  | unbind visitor =>
      obtain rfl : visitor = connection := by simpa [isForeignTo] using own
      exact (AlikeFor.unbind loners agree).of_answer fun _ => GateAnswer.nothing

/-- A visit leaves every session under its own connection. -/
theorem isKeyed_perform
    (visit : GateVisit)
    {among : GateAmong ε}
    (keyed : among.1.IsKeyed) :
    (visit.perform loners.callbacks among).state.1.IsKeyed := by
  cases visit with
  | register action component service descriptor =>
      simp only [perform, Traced.bind_pure]
      exact keyed
  | registerService registration =>
      simp only [perform, Traced.bind_pure]
      exact keyed
  | bind visitor intent =>
      simp only [perform, Traced.bind_pure]
      cases opens : among.1.openSession visitor intent.component with
      | error fault =>
          rw [Binding.bind_refused among opens]
          exact keyed
      | ok answer =>
          obtain ⟨session, opened⟩ := answer
          have reached := congrArg Outcome.state (loners.heard_bind opens among.2)
          change (Binding.bind _ _ _ _ _).state = _ at reached
          obtain ⟨-, -, -, -, rfl⟩ := Gate.of_openSession opens
          rw [reached]
          exact Loners.isKeyed_settle keyed session visitor _
  | unbind visitor =>
      simp only [perform, Traced.bind_pure]
      cases found : among.1.sessions.get? visitor with
      | none =>
          rw [Binding.unbind_refused among found]
          exact keyed
      | some session =>
          have reached := congrArg Outcome.state (loners.heard_unbind found among.2)
          change (Binding.unbind _ _ _ _).state = _ at reached
          rw [reached]
          exact keyed.dropSession visitor

/-- A visit of another is not heard, and leaves no trace that a connection could see. -/
theorem agreeFor_perform_foreign
    {visit : GateVisit}
    (foreign : visit.isForeignTo connection = true)
    {among : GateAmong ε}
    (keyed : among.1.IsKeyed) :
    Delivery.heardBy connection (Delivery.ofTrace (visit.perform loners.callbacks among).trace) = [] ∧
      AgreeFor connection (visit.perform loners.callbacks among).state among := by
  cases visit with
  | register action component service descriptor =>
      simp [isForeignTo] at foreign
  | registerService registration =>
      simp [isForeignTo] at foreign
  | bind visitor intent =>
      have other : visitor ≠ connection := by simpa [isForeignTo] using foreign
      simp only [perform, Traced.bind_pure]
      cases opens : among.1.openSession visitor intent.component with
      | error fault =>
          rw [Binding.bind_refused among opens]
          exact ⟨rfl, .refl among⟩
      | ok answer =>
          obtain ⟨session, opened⟩ := answer
          obtain ⟨heard, reached, -⟩ :=
            Outcome.mk.inj (loners.heard_bind opens among.2)
          obtain ⟨-, rfl, -, -, rfl⟩ := Gate.of_openSession opens
          rw [heard, reached]
          exact ⟨loners.heardBy_tell_of_ne other _ _ _, .settle_other other _ _⟩
  | unbind visitor =>
      have other : visitor ≠ connection := by simpa [isForeignTo] using foreign
      simp only [perform, Traced.bind_pure]
      cases found : among.1.sessions.get? visitor with
      | none =>
          rw [Binding.unbind_refused among found]
          exact ⟨rfl, .refl among⟩
      | some session =>
          obtain ⟨heard, reached, -⟩ :=
            Outcome.mk.inj (loners.heard_unbind found among.2)
          have notOwn : session.connection ≠ connection := keyed visitor session found ▸ other
          rw [heard, reached]
          exact ⟨by simp [Delivery.heardBy, notOwn], rfl,
            Gate.sessionOf_dropSession_of_ne _ other, Function.update_of_ne other.symm _ _⟩

/-- Two runs that agree for a connection go on alike, with and without the visits of others. -/
theorem seenBy_filter_of_agreeFor
    (visits : List GateVisit)
    {first second : GateAmong ε}
    (keyed : first.1.IsKeyed)
    (agree : AgreeFor connection first second) :
    seenBy loners.callbacks connection visits first =
      seenBy loners.callbacks connection
        (visits.filter fun visit => !visit.isForeignTo connection) second := by
  induction visits generalizing first second with
  | nil =>
      rfl
  | cons visit rest inductionHypothesis =>
      have keptKeyed := isKeyed_perform loners visit keyed
      cases foreign : visit.isForeignTo connection with
      | true =>
          obtain ⟨unheard, unseen⟩ := agreeFor_perform_foreign loners foreign keyed
          have later := inductionHypothesis keptKeyed (unseen.trans agree)
          simp [seenBy, foreign, unheard, later]
      | false =>
          have alike := alikeFor_perform loners foreign agree
          have later := inductionHypothesis keptKeyed alike.agree
          simp [seenBy, foreign, alike.result, alike.heard, alike.agree.session, later]

/--
What a connection sees of a run is what it sees when all the others stay away: how
its binds and unbinds end, what it is told by which callback, and its session after
each of them.
-/
theorem seenBy_eq_seenBy_filter
    {callbacks : Binding.Callbacks ρ (GateAmong ε)}
    (areSecluded : callbacks.AreSecluded)
    (connection : ConnectionId)
    (visits : List GateVisit)
    (own : ConnectionId → ε) :
    seenBy callbacks connection visits (Gate.empty, own) =
      seenBy callbacks connection
        (visits.filter fun visit => !visit.isForeignTo connection) (Gate.empty, own) := by
  obtain ⟨loners, rfl⟩ := areSecluded.exists_loners
  have keyed : Gate.empty.IsKeyed := by
    intro other session found
    cases found
  exact seenBy_filter_of_agreeFor loners visits keyed (.refl _)

end GateVisit

namespace GateVisit

/-- What two connections make of what they are told. -/
def twoMoods (connection : ConnectionId) : List (Option Raised) :=
  if connection = ⟨"c"⟩ then [none, some ⟨.interrupt, none⟩] else [some (.saying "refused")]

/-- Visits of two connections to one component. -/
def meeting (component : ComponentName) : List GateVisit :=
  [.register (.text "A") component (some ⟨"s"⟩) none, .bind ⟨"d"⟩ ⟨none, some component⟩,
    .bind ⟨"c"⟩ ⟨none, some component⟩, .bind ⟨"d"⟩ ⟨none, some component⟩, .unbind ⟨"c"⟩,
    .unbind ⟨"c"⟩]

/-- Another fails to bind, and binds then; an interrupt still reaches the connection alone. -/
theorem seenBy_meeting :
    (Binding.Callbacks.falterApart :
        Binding.Callbacks Unit (GateAmong (List (Option Raised)))).AreSecluded ∧
      seenBy (.falterApart : Binding.Callbacks Unit (GateAmong (List (Option Raised)))) ⟨"c"⟩
          (meeting ⟨"p", "p.C"⟩) (Gate.empty, twoMoods) =
        { visits :=
            [{ result := .ok .nothing, heard := [], session := none },
              { result := .ok (.flag true)
                heard := [.connected ⟨"c"⟩ ⟨"p", "p.C"⟩ (some (.binder ⟨"s"⟩))]
                session := some (⟨"c"⟩, ⟨"p", "p.C"⟩, ⟨"s"⟩) },
              { result := .error (.raised ⟨.interrupt, none⟩)
                heard := [.disconnected ⟨"c"⟩ (some ⟨"p", "p.C"⟩)]
                session := none },
              { result := .error (.notBound ⟨"c"⟩), heard := [], session := none }]
          heard :=
            [.connected ⟨"c"⟩ ⟨"p", "p.C"⟩ (some (.binder ⟨"s"⟩)),
              .disconnected ⟨"c"⟩ (some ⟨"p", "p.C"⟩)] } := by
  refine ⟨Binding.Callbacks.areSecluded_falterApart, ?_⟩
  rw [seenBy_eq_seenBy_filter Binding.Callbacks.areSecluded_falterApart]
  rfl

end GateVisit

end PlatformDouble
