import PlatformDouble.Proofs.Gate.Ledger
import PlatformDouble.Proofs.Gate.Outcomes

namespace PlatformDouble

/-!
# A gate keeps its ledger

Every call of a gate ends as the ledger says, delivers what the ledger says and
leaves the connections bound that the ledger lists.  `Ledger.Describes` is what a
gate and its ledger have in common; one call keeps it, and so does any number of
calls.
-/

variable {ρ ε : Type}

namespace Ledger

/-- A ledger describes a gate: same registrations, same connections in the same order. -/
structure Describes (ledger : Ledger) (gate : Gate) : Prop where
  directory :
    gate.directory = Directory.ofHistory ledger.registrations
  bound :
    gate.sessions.entries.map
        (fun entry => (entry.1, entry.2.component, entry.2.service)) =
      ledger.bound
  carries :
    ∀ entry ∈ gate.sessions.entries, entry.2.connection = entry.1

/-- The empty ledger describes the gate at the start. -/
theorem describes_empty :
    Describes {} Gate.empty where
  directory := rfl
  bound := rfl
  carries := by
    intro entry member
    cases member

namespace Describes

variable {ledger : Ledger} {gate : Gate} (describes : ledger.Describes gate)

include describes

/-- A described gate looks services up where its ledger does. -/
theorem service?_eq
    (name : ComponentName) :
    gate.directory.service? (some name) = ledger.service? name := by
  rw [describes.directory]
  exact Directory.service?_ofHistory ledger.registrations name

/-- A described gate looks owners up where its ledger does. -/
theorem owner?_eq
    (service : ServiceId) :
    gate.directory.owner? (some service) = ledger.owner? service := by
  rw [describes.directory]
  exact Directory.owner?_ofHistory ledger.registrations (some service)

/-- What a connection is bound to is told by its session. -/
theorem binding?_eq
    (connection : ConnectionId) :
    ledger.binding? connection =
      (gate.sessions.get? connection).map fun session =>
        (session.component, session.service) := by
  unfold binding?
  rw [← describes.bound, List.find?_map, Table.get?_eq_find?, Option.map_map,
    Option.map_map]
  rfl

theorem get?_of_unlisted
    {connection : ConnectionId}
    (unlisted : ledger.binding? connection = none) :
    gate.sessions.get? connection = none := by
  rw [describes.binding?_eq] at unlisted
  exact Option.map_eq_none_iff.mp unlisted

theorem get?_of_listed
    {connection : ConnectionId}
    {component : ComponentName}
    {service : ServiceId}
    (listed : ledger.binding? connection = some (component, service)) :
    ∃ session,
      gate.sessions.get? connection = some session ∧
        session.connection = connection ∧
        session.component = component ∧
        session.service = service := by
  rw [describes.binding?_eq] at listed
  obtain ⟨session, found, told⟩ := Option.map_eq_some_iff.mp listed
  obtain ⟨sameComponent, sameService⟩ := Prod.mk.inj told
  have carried := describes.carries _ (Table.mem_entries_of_get? found)
  exact ⟨session, found, carried, sameComponent, sameService⟩

/-- Both tell the same connections, in the same order. -/
theorem boundAt_eq :
    GateCall.boundAt gate = ledger.bound := by
  rw [← describes.bound]
  unfold GateCall.boundAt Table.values
  rw [List.map_map]
  apply List.map_congr_left
  intro entry member
  simp [describes.carries entry member]

/-- A registration is put last in both. -/
theorem write
    (entry : Registration) :
    Describes
      { ledger with registrations := ledger.registrations ++ [entry] }
      { gate with directory := gate.directory.write entry } where
  directory := by
    simp [describes.directory]
  bound :=
    describes.bound
  carries :=
    describes.carries

/-- A connection without a session is put last in both. -/
theorem addSession
    (session : Session)
    (absent : gate.sessions.get? session.connection = none) :
    Describes
      { ledger with
        bound := ledger.bound ++
          [(session.connection, session.component, session.service)] }
      (gate.addSession session) where
  directory := describes.directory
  bound := by
    simp [Gate.addSession, Table.entries_insert_of_absent session absent, describes.bound]
  carries := by
    intro entry member
    unfold Gate.addSession at member
    rw [Table.entries_insert_of_absent session absent] at member
    rcases List.mem_append.mp member with before | last
    · exact describes.carries entry before
    · rw [List.mem_singleton.mp last]

/-- A connection is struck out of both. -/
theorem dropSession
    (connection : ConnectionId) :
    Describes
      { ledger with
        bound := ledger.bound.filter fun entry => entry.1 ≠ connection }
      (gate.dropSession connection) where
  directory := describes.directory
  bound := by
    simp [Gate.dropSession, Table.entries_erase, ← describes.bound,
      List.filter_map, Function.comp_def]
  carries := by
    intro entry member
    unfold Gate.dropSession at member
    rw [Table.entries_erase] at member
    exact describes.carries entry (List.mem_filter.mp member).1

/-- Putting a new connection last and striking it out again leaves the ledger. -/
theorem dropSession_addSession
    (session : Session)
    (absent : gate.sessions.get? session.connection = none) :
    ledger.Describes ((gate.addSession session).dropSession session.connection) := by
  rw [Gate.dropSession_addSession absent]
  exact {
    directory := describes.directory
    bound := describes.bound
    carries := describes.carries }

end Describes

end Ledger

/-- A call did to a gate what it does to the ledger. -/
structure Turnout.Matches
    (turnout : Turnout ε)
    (outcome : Outcome (Entry ρ) (Gate × ε) GateAnswer) :
    Prop where
  result : outcome.result = turnout.result
  deliveries : Delivery.ofTrace outcome.trace = turnout.deliveries
  own : outcome.state.2 = turnout.own
  describes : turnout.ledger.Describes outcome.state.1

theorem Turnout.Matches.of_answer
    {α : Type}
    {turnout : Turnout ε}
    {code : Traced (Entry ρ) (Gate × ε) α}
    {change : α → GateAnswer}
    {whole : Gate × ε}
    (same :
      turnout.Matches
        { code whole with result := (code whole).result.map change }) :
    turnout.Matches
      ((code >>= fun answer => pure (change answer) :
        Traced (Entry ρ) (Gate × ε) GateAnswer) whole) := by
  rw [Traced.bind_pure]
  exact same

namespace GateCall

/-- What is done to the directory leaves the bystanders alone. -/
theorem onDirectory_apply
    {α : Type}
    {code : Traced (Entry ρ) Directory α}
    {gate : Gate}
    {own : ε}
    {outcome : Outcome (Entry ρ) Directory α}
    (does : code gate.directory = outcome) :
    onDirectory code (gate, own) =
      { outcome with state := ({ gate with directory := outcome.state }, own) } := by
  rw [← does]
  rfl

/-- What bystanders do leaves the gate beside them alone. -/
theorem within_ownPart
    {α : Type}
    {code : Traced (Entry ρ) ε α}
    (gate : Gate)
    {own reached : ε}
    {trace : List (Entry ρ)}
    {result : Except Fault α}
    (does : code own = { trace := trace, state := reached, result := result }) :
    Traced.within ownPart code (gate, own) =
      { trace := trace, state := (gate, reached), result := result } := by
  simp only [Traced.within, ownPart, does]

end GateCall

section Delivery

variable
  [Record.Validator]
  {bystanders : Bystanders ρ ε}
  {ledger : Ledger}
  {gate opened : Gate}
  {own reached : ε}
  {connection : ConnectionId}
  {intent : Intent}
  {session : Session}
  {trace : List (Entry ρ)}

/-- A delivery that fails leaves the gate to a ledger without the session. -/
theorem Turnout.Matches.of_failed_delivery
    {fault : Fault}
    (opens :
      gate.openSession connection intent.component = .ok (session, opened))
    (delivers :
      Binding.deliver (GateCall.callbacks bystanders) session (opened, own) =
        { trace := trace, state := (opened, reached), result := .error fault })
    (ordinary : fault.isOrdinary = true)
    (rolledBack : ledger.Describes (opened.dropSession session.connection)) :
    Turnout.Matches
      { ledger := ledger
        own := reached
        result := .error fault
        deliveries := Delivery.ofTrace trace }
      ((GateCall.bind connection intent).perform bystanders (gate, own)) := by
  apply Turnout.Matches.of_answer
  rw [Binding.bind_withdrawn (gate, own) opens delivers ordinary]
  exact {
    result := rfl
    deliveries := by simp
    own := rfl
    describes := rolledBack }

/-- A delivery that succeeds leaves the gate to a ledger with the session. -/
theorem Turnout.Matches.of_delivery
    (opens :
      gate.openSession connection intent.component = .ok (session, opened))
    (delivers :
      Binding.deliver (GateCall.callbacks bystanders) session (opened, own) =
        { trace := trace, state := (opened, reached), result := .ok () })
    (standing : ledger.Describes opened) :
    Turnout.Matches
      { ledger := ledger
        own := reached
        result := .ok (.flag true)
        deliveries := Delivery.ofTrace trace }
      ((GateCall.bind connection intent).perform bystanders (gate, own)) := by
  apply Turnout.Matches.of_answer
  rw [Binding.bind_established (gate, own) opens delivers]
  exact {
    result := rfl
    deliveries := by simp [Binding.boundEntry]
    own := rfl
    describes := standing }

end Delivery

namespace Ledger.Describes

variable
  {ledger : Ledger}
  {gate : Gate}
  (describes : ledger.Describes gate)
  (bystanders : Bystanders ρ ε)
  (own : ε)

include describes

theorem refuse
    {trace : List (Entry ρ)}
    (silent : Delivery.ofTrace trace = [])
    (fault : Fault) :
    (ledger.refuse own fault).Matches
      { trace := trace, state := (gate, own), result := .error fault } where
  result := rfl
  deliveries := silent
  own := rfl
  describes := describes

/-- A registration goes into both, unless its action is no key. -/
theorem register
    (action : Value)
    (component : ComponentName)
    (service : Option ServiceId)
    (descriptor : Option ServiceInfo)
    (answer : GateAnswer) :
    (ledger.register own action component service descriptor answer).Matches
      (let written :=
        (Directory.register action (some component) service descriptor :
          Traced (Entry ρ) Directory Unit) gate.directory
      { trace := written.trace
        state := ({ gate with directory := written.state }, own)
        result := written.result.map fun _ => answer }) := by
  cases usable : ActionKey.ofValue action with
  | error fault =>
      rw [Directory.register_unusable usable]
      simp only [Ledger.register, usable]
      exact describes.refuse own rfl fault
  | ok key =>
      rw [Directory.register_usable usable]
      simp only [Ledger.register, usable, Registration.reportLine, Registration.reportTrace]
      exact {
        result := by
          cases key.isDisplayable <;> rfl
        deliveries := by
          cases key.isDisplayable <;> rfl
        own := rfl
        describes := describes.write _ }

/--
A connection without a session is told by both, once, and stays bound in both
exactly if that went well.
-/
theorem connect
    [Record.Validator]
    {connection : ConnectionId}
    {intent : Intent}
    {component : ComponentName}
    {service : ServiceId}
    (absent : gate.sessions.get? connection = none)
    (names : intent.component = some component)
    (known : gate.directory.service? (some component) = some service) :
    (ledger.connect bystanders own connection component service).Matches
      ((GateCall.bind connection intent).perform bystanders (gate, own)) := by
  let session : Session := ⟨gate.opened, connection, component, service⟩
  let opened : Gate := gate.addSession session
  have opens :
      gate.openSession connection intent.component = .ok (session, opened) := by
    rw [names]
    exact Gate.openSession_of_known absent known
  have standing :
      Describes
        { ledger with bound := ledger.bound ++ [(connection, component, service)] }
        opened :=
    describes.addSession session absent
  have rolledBack :
      ledger.Describes (opened.dropSession connection) :=
    describes.dropSession_addSession session absent
  cases listens : bystanders.listens connection with
  | false =>
      simp only [Ledger.connect, listens]
      exact .of_failed_delivery opens (Binding.deliver_unheard listens) rfl rolledBack
  | true =>
      rcases asks : bystanders.binderOf service own with ⟨asking, asked, answer⟩
      have asksBeside :=
        GateCall.within_ownPart opened asks
      have askingSilent : Delivery.ofTrace asking = [] :=
        Delivery.ofTrace_of_apart
          (by simpa [asks] using (bystanders.services service).apart own)
      cases answer with
      | error fault =>
          have ordinary : fault.isOrdinary = true :=
            (bystanders.services service).ordinary own fault (by rw [asks])
          have failed :=
            Turnout.Matches.of_failed_delivery opens
              (Binding.deliver_unanswered listens asksBeside) ordinary rolledBack
          simp only [Ledger.connect, listens, asks]
          rw [askingSilent] at failed
          exact failed
      | ok handle =>
          rcases tells : bystanders.connected connection component handle asked with
            ⟨telling, told, result⟩
          have tellsBeside :=
            GateCall.within_ownPart opened tells
          have tellingSilent : Delivery.ofTrace telling = [] :=
            Delivery.ofTrace_of_apart
              (by
                simpa [tells] using
                  (bystanders.hearers connection component handle).apart asked)
          have deliversOnce :
              Delivery.ofTrace
                  (asking ++ .event (.connected session handle) :: telling) =
                [.connected connection component handle] := by
            simp [askingSilent, tellingSilent, session]
          cases result with
          | error fault =>
              have ordinary : fault.isOrdinary = true :=
                (bystanders.hearers connection component handle).ordinary asked fault
                  (by rw [tells])
              have failed :=
                Turnout.Matches.of_failed_delivery opens
                  (Binding.deliver_told listens asksBeside tellsBeside) ordinary
                  rolledBack
              simp only [Ledger.connect, listens, asks, tells]
              rw [deliversOnce] at failed
              exact failed
          | ok answer =>
              have succeeded :=
                Turnout.Matches.of_delivery opens
                  (Binding.deliver_told listens asksBeside tellsBeside) standing
              simp only [Ledger.connect, listens, asks, tells]
              rw [deliversOnce] at succeeded
              exact succeeded

/-- Both bind the same connections, and refuse the others for the same reason. -/
theorem bind
    [Record.Validator]
    (connection : ConnectionId)
    (intent : Intent) :
    (ledger.bind bystanders own connection intent.component).Matches
      ((GateCall.bind connection intent).perform bystanders (gate, own)) := by
  cases listed : ledger.binding? connection with
  | some binding =>
      obtain ⟨session, found, -⟩ := describes.get?_of_listed listed
      simp only [Ledger.bind, listed]
      refine .of_answer ?_
      rw [Binding.bind_refused (gate, own)
        (Gate.openSession_of_bound found intent.component)]
      exact describes.refuse own rfl _
  | none =>
      have absent := describes.get?_of_unlisted listed
      cases names : intent.component with
      | none =>
          simp only [Ledger.bind, listed]
          refine .of_answer ?_
          rw [names, Binding.bind_refused (gate, own)
            (Gate.openSession_of_unnamed absent)]
          exact describes.refuse own rfl _
      | some component =>
          have lookedUp := describes.service?_eq component
          cases known : ledger.service? component with
          | none =>
              simp only [Ledger.bind, listed, known]
              refine .of_answer ?_
              rw [names, Binding.bind_refused (gate, own)
                (Gate.openSession_of_unknown absent (lookedUp.trans known))]
              exact describes.refuse own rfl _
          | some service =>
              simp only [Ledger.bind, listed, known]
              exact describes.connect bystanders own absent names
                (lookedUp.trans known)

/-- Both unbind the same connections, and tell them the same component. -/
theorem unbind
    [Record.Validator]
    (connection : ConnectionId) :
    (ledger.unbind bystanders own connection).Matches
      ((GateCall.unbind connection).perform bystanders (gate, own)) := by
  cases listed : ledger.binding? connection with
  | none =>
      simp only [Ledger.unbind, listed]
      refine .of_answer ?_
      rw [Binding.unbind_refused (gate, own)
        (describes.get?_of_unlisted listed)]
      exact describes.refuse own rfl _
  | some binding =>
      rcases binding with ⟨component, service⟩
      obtain ⟨session, found, carried, -, sameService⟩ :=
        describes.get?_of_listed listed
      have owns :
          gate.directory.owner? (some session.service) = ledger.owner? service := by
        rw [sameService]
        exact describes.owner?_eq service
      rcases tells :
          bystanders.disconnected connection (ledger.owner? service) own with
        ⟨telling, told, result⟩
      have tellsBeside :=
        GateCall.within_ownPart (gate.dropSession connection) tells
      have tellingSilent : Delivery.ofTrace telling = [] :=
        Delivery.ofTrace_of_apart
          (by
            simpa [tells] using
              (bystanders.leavers connection (ledger.owner? service)).apart own)
      simp only [Ledger.unbind, listed, tells]
      refine .of_answer ?_
      rw [Binding.unbind_closed (gate, own) found owns tellsBeside]
      exact {
        result := rfl
        deliveries := by
          simp [Binding.unboundEntry, tellingSilent, carried]
        own := rfl
        describes := describes.dropSession connection }

/-- What a call does to a gate is what it does to the ledger. -/
theorem take
    [Record.Validator]
    (call : GateCall) :
    (ledger.take bystanders own call).Matches (call.perform bystanders (gate, own)) := by
  cases call with
  | register action component service descriptor =>
      exact .of_answer
        (describes.register own action component service descriptor .nothing)
  | registerService action component service permission packageName className =>
      refine .of_answer ?_
      cases described :
          (GateCall.registration action component service permission packageName
            className).descriptor with
      | error fault =>
          have unchanged :=
            ServiceRegistration.perform_refused (ρ := ρ) described gate.directory
          rw [GateCall.onDirectory_apply unchanged]
          simp only [Ledger.take, described]
          exact describes.refuse own rfl fault
      | ok descriptor =>
          have written :=
            ServiceRegistration.perform_described (ρ := ρ) described gate.directory
          have registered :=
            describes.register (ρ := ρ) own action component service
              (some descriptor) (.descriptor descriptor)
          rw [GateCall.onDirectory_apply written]
          simp only [Ledger.take, described]
          have answered
              (result : Except Fault Unit) :
              (result.map fun _ => descriptor).map GateAnswer.descriptor =
                result.map fun _ => .descriptor descriptor := by
            cases result <;> rfl
          exact { registered with
            result := (answered _).trans registered.result }
  | bind connection intent =>
      exact describes.bind bystanders own connection intent
  | bindAsUser connection intent user =>
      rw [GateCall.perform, Binding.bindAsUser_eq]
      exact describes.bind bystanders own connection intent
  | unbind connection =>
      exact describes.unbind bystanders own connection

end Ledger.Describes

/-- Any number of calls at a gate are reported as by the ledger that describes it. -/
theorem GateCall.reports_eq_of_describes
    [Record.Validator]
    (bystanders : Bystanders ρ ε)
    (calls : List GateCall)
    {ledger : Ledger}
    {gate : Gate}
    (describes : ledger.Describes gate)
    (own : ε) :
    GateCall.reports bystanders calls (gate, own) =
      Ledger.reports bystanders calls ledger own := by
  induction calls generalizing ledger gate own with
  | nil =>
      rfl
  | cons call rest inductionHypothesis =>
      have matched := describes.take bystanders own call
      rcases performed : call.perform bystanders (gate, own) with
        ⟨trace, ⟨reached, ownReached⟩, result⟩
      rw [performed] at matched
      have sameResult :
          result = (ledger.take bystanders own call).result :=
        matched.result
      have sameOwn :
          ownReached = (ledger.take bystanders own call).own :=
        matched.own
      have sameBound :
          GateCall.boundAt reached = (ledger.take bystanders own call).ledger.bound :=
        matched.describes.boundAt_eq
      have sameLater :
          GateCall.reports bystanders rest (reached, ownReached) =
            Ledger.reports bystanders rest (ledger.take bystanders own call).ledger
              ownReached :=
        inductionHypothesis matched.describes ownReached
      simp only [GateCall.reports, Ledger.reports, performed]
      rw [sameResult, matched.deliveries, sameBound, sameLater, sameOwn]

/--
From the start, any sequence of registrations, binds and unbinds at a gate ends,
delivers and leaves connections bound, call by call, exactly as in the ledger.
-/
theorem GateCall.reports_eq_ledger_reports
    [Record.Validator]
    (bystanders : Bystanders ρ ε)
    (calls : List GateCall)
    (own : ε) :
    GateCall.reports bystanders calls (Gate.empty, own) =
      Ledger.reports bystanders calls {} own :=
  GateCall.reports_eq_of_describes bystanders calls Ledger.describes_empty own

/-- A bind that fails is taken back, and an unbind that fails is not. -/
theorem GateCall.reports_faltering :
    let component : ComponentName := ⟨"p", "p.C"⟩
    let intent : Intent := ⟨none, some component⟩
    GateCall.reports (.faltering : Bystanders Unit (List (Option String)))
        [.register (.text "A") component (some ⟨"s"⟩) none, .bind ⟨"c"⟩ intent,
          .bindAsUser ⟨"c"⟩ intent .null, .bind ⟨"c"⟩ ⟨none, none⟩, .unbind ⟨"c"⟩,
          .unbind ⟨"c"⟩]
        (Gate.empty, [none, some "refused", none, none, some "late"]) =
      [{ result := .ok .nothing, deliveries := [], bound := [] },
        { result := .error (.raised (.saying "refused"))
          deliveries := [.connected ⟨"c"⟩ component (some (.binder ⟨"s"⟩))]
          bound := [] },
        { result := .ok (.flag true)
          deliveries := [.connected ⟨"c"⟩ component (some (.binder ⟨"s"⟩))]
          bound := [(⟨"c"⟩, component, ⟨"s"⟩)] },
        { result := .error (.alreadyBound ⟨"c"⟩)
          deliveries := []
          bound := [(⟨"c"⟩, component, ⟨"s"⟩)] },
        { result := .error (.raised (.saying "late"))
          deliveries := [.disconnected ⟨"c"⟩ (some component)]
          bound := [] },
        { result := .error (.notBound ⟨"c"⟩), deliveries := [], bound := [] }] :=
  (GateCall.reports_eq_ledger_reports _ _ _).trans rfl

end PlatformDouble
