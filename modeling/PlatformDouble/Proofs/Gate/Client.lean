import PlatformDouble.Proofs.Gate.Protocol

namespace PlatformDouble

/-!
# Clients of a gate

A client is code that goes to a gate only through its operations.  It may look at
everything, do anything to the rest of the state, catch faults or let them pass,
and the callbacks of its binds and unbinds are clients again, to any depth.

Whatever a client does, its trace is a path of the protocol.
-/

variable {ρ σ α β : Type}

/-- A gate as a part of a state, and what its clients rely on in the rest of the state. -/
structure GatePlace (σ : Type) extends StatePart σ Gate where
  relied : σ → Prop
  relied_put : ∀ part state, relied state → relied (put part state)

/-- A gate with nothing around it. -/
def GatePlace.bare : GatePlace Gate where
  get := id
  put part _ := part
  get_put _ _ := rfl
  relied _ := True
  relied_put _ _ := id

/-- Code that opens and closes no session and fails only with ordinary faults. -/
structure IsReserved (gate : GatePlace σ) (code : Traced (Entry ρ) σ α) : Prop where
  entries : ∀ state, gate.relied state → ∀ entry ∈ (code state).trace, entry.IsReserved
  ordinary :
    ∀ state fault,
      gate.relied state → (code state).result = .error fault → fault.isOrdinary = true

/-- Code that leaves a gate alone, though it may look at it. -/
structure LeavesAlone (gate : GatePlace σ) (code : Traced (Entry ρ) σ α) : Prop where
  untouched :
    ∀ state, gate.relied state → gate.get (code state).state = gate.get state
  relied : ∀ state, gate.relied state → gate.relied (code state).state
  silent :
    ∀ state, gate.relied state → ∀ entry ∈ (code state).trace, entry.isApart = true

/-- A result that is already known leaves the gate alone. -/
theorem LeavesAlone.ofResult
    {gate : GatePlace σ}
    (result : Except Fault α) :
    LeavesAlone gate (Traced.ofResult result : Traced (Entry ρ) σ α) where
  untouched _ _ := rfl
  relied _ relied := relied
  silent _ _ := List.forall_mem_nil _

/-- Code that goes to a gate only through its operations, and whose callbacks do. -/
inductive Client (gate : GatePlace σ) (manners : Manners) :
    {α : Type} → Traced (Entry ρ) σ α → Prop where
  | apart
      {α : Type}
      {code : Traced (Entry ρ) σ α}
      (leavesAlone : LeavesAlone gate code) :
      Client gate manners code
  /-- Code that goes on with any answer it can get. -/
  | andThen
      {α β : Type}
      {first : Traced (Entry ρ) σ α}
      {next : α → Traced (Entry ρ) σ β}
      (leads : Client gate manners first)
      (continues :
        ∀ state answer,
          gate.relied state →
            (first state).result = .ok answer → Client gate manners (next answer)) :
      Client gate manners (Traced.andThen first next)
  | attempt
      {α : Type}
      {code : Traced (Entry ρ) σ α}
      (tries : Client gate manners code) :
      Client gate manners (Traced.attempt code)
  | register
      (action : Value)
      (component : Option ComponentName)
      (service : Option ServiceId)
      (descriptor : Option ServiceInfo) :
      Client gate manners
        (Traced.within gate.toStatePart
          (Traced.within Gate.directoryPart
            (Directory.register action component service descriptor)))
  | bind
      (callbacks : Binding.Callbacks ρ σ)
      (connection : ConnectionId)
      (component : Option ComponentName)
      (asks : ∀ service, Client gate manners (callbacks.binderOf service))
      (asksMannered :
        manners = .reserved → ∀ service, IsReserved gate (callbacks.binderOf service))
      (tells :
        ∀ listener name handle,
          Client gate manners (callbacks.connected listener name handle)) :
      Client gate manners
        (Binding.bind gate.toStatePart callbacks connection component)
  | unbind
      (callbacks : Binding.Callbacks ρ σ)
      (connection : ConnectionId)
      (tells :
        ∀ listener named,
          Client gate manners (callbacks.disconnected listener named)) :
      Client gate manners (Binding.unbind gate.toStatePart callbacks connection)

variable
  {gate : GatePlace σ}
  {manners : Manners}

/-- From any moment that permits it, the code is a path of the protocol. -/
def Obeys
    (gate : GatePlace σ)
    (manners : Manners)
    (code : Traced (Entry ρ) σ α) :
    Prop :=
  ∀ state pending,
    gate.relied state →
      manners.Permits pending →
        (gate.get state).IsKeyed →
          gate.relied (code state).state ∧
            Path manners
              ⟨gate.get state, pending, none⟩
              (code state).trace
              ⟨gate.get (code state).state, pending, none⟩

namespace Obeys

theorem apart
    {code : Traced (Entry ρ) σ α}
    (leavesAlone : LeavesAlone gate code) :
    Obeys gate manners code := by
  intro state pending relied permitted keyed
  rw [leavesAlone.untouched state relied]
  exact ⟨leavesAlone.relied state relied,
    Path.of_apart _ (leavesAlone.silent state relied)⟩

theorem andThen
    {first : Traced (Entry ρ) σ α}
    {next : α → Traced (Entry ρ) σ β}
    (leads : Obeys gate manners first)
    (continues :
      ∀ state answer,
        gate.relied state →
          (first state).result = .ok answer → Obeys gate manners (next answer)) :
    Obeys gate manners (Traced.andThen first next) := by
  intro state pending relied permitted keyed
  obtain ⟨reachedRelied, leading⟩ := leads state pending relied permitted keyed
  cases ended : (first state).result with
  | error fault =>
      rw [Traced.andThen_of_error ended]
      exact ⟨reachedRelied, leading⟩
  | ok answer =>
      rw [Traced.andThen_of_ok ended]
      obtain ⟨leftRelied, trailing⟩ :=
        continues state answer relied ended _ pending reachedRelied permitted
          (leading.keyed keyed)
      exact ⟨leftRelied, leading.append trailing⟩

theorem attempt
    {code : Traced (Entry ρ) σ α}
    (tries : Obeys gate manners code) :
    Obeys gate manners (Traced.attempt code) :=
  tries

theorem register
    (action : Value)
    (component : Option ComponentName)
    (service : Option ServiceId)
    (descriptor : Option ServiceInfo) :
    Obeys gate manners
      (Traced.within gate.toStatePart
        (Traced.within Gate.directoryPart
          (Directory.register action component service descriptor) :
            Traced (Entry ρ) Gate Unit)) := by
  intro state pending relied permitted keyed
  refine ⟨gate.relied_put _ state relied, ?_⟩
  unfold Traced.within
  simp only [gate.get_put]
  cases usable : ActionKey.ofValue action with
  | error fault =>
      rw [Directory.register_unusable usable]
      exact .nil _
  | ok key =>
      have written
          (moment : Moment)
          (idle : moment.leaving = none) :
          Step manners moment
            (.gate (.registered ⟨key, component, service, descriptor⟩) : Entry ρ)
            { moment with
              gate := moment.gate.enter ⟨key, component, service, descriptor⟩ } := by
        rcases moment with ⟨gate, pending, leaving⟩
        cases idle
        exact .registered _
      rw [Directory.register_usable usable]
      refine .cons (written _ rfl) (Path.of_apart _ fun entry member => ?_)
      obtain ⟨line, rfl⟩ := Registration.of_mem_reportTrace member
      rfl

/--
A delivery starts while the service of the innermost bind is being asked.  If it
goes well, the connection has been told; if it is interrupted, interrupts may pass.
-/
theorem deliver
    {callbacks : Binding.Callbacks ρ σ}
    {session : Session}
    {pending : List PendingBind}
    (asks : ∀ service, Obeys gate manners (callbacks.binderOf service))
    (asksMannered :
      manners = .reserved → ∀ service, IsReserved gate (callbacks.binderOf service))
    (tells :
      ∀ listener name handle,
        Obeys gate manners (callbacks.connected listener name handle))
    (permitted : manners.Permits pending)
    {state reached : σ}
    {trace : List (Entry ρ)}
    {result : Except Fault Unit}
    (relied : gate.relied state)
    (keyed : (gate.get state).IsKeyed)
    (delivers :
      Binding.deliver callbacks session state =
        { trace := trace, state := reached, result := result }) :
    ∃ inner : PendingBind,
      inner.session = session ∧
        gate.relied reached ∧
        Path manners
          ⟨gate.get state, .asking session :: pending, none⟩
          trace
          ⟨gate.get reached, inner :: pending, none⟩ ∧
        (result = .ok () → inner = .telling session) ∧
        (∀ fault,
          result = .error fault →
            fault.isOrdinary = false →
              manners.Permits (inner :: pending)) := by
  rcases session with ⟨serial, connection, component, service⟩
  let session : Session := ⟨serial, connection, component, service⟩
  let asking : PendingBind := .asking session
  cases listens : callbacks.listens connection with
  | false =>
      rw [Binding.deliver_unheard listens] at delivers
      cases delivers
      refine ⟨asking, rfl, relied, .nil _, ?_, ?_⟩
      · intro told
        cases told
      · intro fault failed interrupt
        cases failed
        cases interrupt
  | true =>
      rcases answers : callbacks.binderOf service state with ⟨asked, told, answer⟩
      have askingPath :
          gate.relied told ∧
            Path manners
              ⟨gate.get state, asking :: pending, none⟩
              asked
              ⟨gate.get told, asking :: pending, none⟩ := by
        cases manners with
        | free =>
            have anything : Manners.Permits .free (asking :: pending) :=
              nofun
            simpa [answers] using
              asks service state (asking :: pending) relied anything keyed
        | reserved =>
            -- The service itself may not come back while it is asked, so its path
            -- is taken where nothing is being asked and put under this bind.
            obtain ⟨toldRelied, outside⟩ := asks service state pending relied permitted keyed
            have inside :=
              outside.under ((asksMannered rfl service).entries state relied)
                (asking :: pending)
            simpa [answers] using And.intro toldRelied inside
      obtain ⟨toldRelied, askingPath⟩ := askingPath
      cases answer with
      | error fault =>
          rw [Binding.deliver_unanswered listens answers] at delivers
          cases delivers
          refine ⟨asking, rfl, toldRelied, askingPath, ?_, ?_⟩
          · intro succeeded
            cases succeeded
          · intro other failed interrupt isReserved
            cases failed
            have ordinary :=
              (asksMannered isReserved service).ordinary state fault relied
                (by rw [answers])
            rw [ordinary] at interrupt
            cases interrupt
      | ok handle =>
          rcases hears : callbacks.connected connection component handle told with
            ⟨telling, left, ending⟩
          rw [Binding.deliver_told listens answers hears] at delivers
          cases delivers
          obtain ⟨leftRelied, tellingPath⟩ :=
            tells connection component handle told (.telling session :: pending) toldRelied
              (manners.permits_telling session pending) (askingPath.keyed keyed)
          rw [hears] at leftRelied tellingPath
          exact ⟨.telling session, rfl, leftRelied,
            askingPath.append (.cons (.connected handle) tellingPath),
            fun _ => rfl,
            fun _ _ _ => manners.permits_telling session pending⟩

theorem bind
    (callbacks : Binding.Callbacks ρ σ)
    (connection : ConnectionId)
    (component : Option ComponentName)
    (asks : ∀ service, Obeys gate manners (callbacks.binderOf service))
    (asksMannered :
      manners = .reserved → ∀ service, IsReserved gate (callbacks.binderOf service))
    (tells :
      ∀ listener name handle,
        Obeys gate manners (callbacks.connected listener name handle)) :
    Obeys gate manners
      (Binding.bind gate.toStatePart callbacks connection component) := by
  intro state pending relied permitted keyed
  cases opens : (gate.get state).openSession connection component with
  | error fault =>
      rw [Binding.bind_refused state opens]
      exact ⟨relied, Path.of_apart _ (by simp [Binding.refusalEntry, Entry.isApart])⟩
  | ok answer =>
      rcases answer with ⟨session, opened⟩
      obtain ⟨serial, carried, absent, known, isOpened⟩ := Gate.of_openSession opens
      subst carried isOpened
      have opening :
          Step manners
            ⟨gate.get state, pending, none⟩
            (.gate (.opened session) : Entry ρ)
            ⟨(gate.get state).addSession session, .asking session :: pending, none⟩ :=
        .opened permitted absent known serial
      rcases delivers :
          Binding.deliver callbacks session
            (gate.put ((gate.get state).addSession session) state) with
        ⟨trace, reached, result⟩
      have putKeyed :
          (gate.get (gate.put ((gate.get state).addSession session) state)).IsKeyed := by
        rw [gate.get_put]
        exact keyed.addSession session
      obtain ⟨inner, ofSession, reachedRelied, delivering, onSuccess, onInterrupt⟩ :=
        deliver asks asksMannered tells permitted (gate.relied_put _ state relied)
          putKeyed delivers
      rw [gate.get_put] at delivering
      cases result with
      | ok _ =>
          rw [Binding.bind_established state opens delivers]
          have isTelling := onSuccess rfl
          subst isTelling
          refine ⟨reachedRelied, ?_⟩
          exact .cons opening
            (delivering.append
              (.cons .established
                (Path.of_apart _ (by simp [Binding.boundEntry, Entry.isApart]))))
      | error fault =>
          subst ofSession
          cases ordinary : fault.isOrdinary with
          | true =>
              rw [Binding.bind_withdrawn state opens delivers ordinary]
              refine ⟨gate.relied_put _ reached reachedRelied, ?_⟩
              simp only [gate.get_put]
              exact .cons opening (delivering.append (Step.withdrawn inner).path)
          | false =>
              rw [Binding.bind_abandoned state opens delivers ordinary]
              refine ⟨reachedRelied, ?_⟩
              exact .cons opening
                (delivering.append
                  (Step.abandoned (onInterrupt fault rfl ordinary)).path)

theorem unbind
    (callbacks : Binding.Callbacks ρ σ)
    (connection : ConnectionId)
    (tells :
      ∀ listener named,
        Obeys gate manners (callbacks.disconnected listener named)) :
    Obeys gate manners (Binding.unbind gate.toStatePart callbacks connection) := by
  intro state pending relied permitted keyed
  cases found : (gate.get state).sessions.get? connection with
  | none =>
      rw [Binding.unbind_refused state found]
      exact ⟨relied, Path.of_apart _ (by simp [Binding.refusalEntry, Entry.isApart])⟩
  | some session =>
      have carried := keyed connection session found
      subst carried
      let dropped : σ :=
        gate.put ((gate.get state).dropSession session.connection) state
      rcases hears :
          callbacks.disconnected session.connection
            ((gate.get state).directory.owner? (some session.service)) dropped with
        ⟨trace, reached, result⟩
      rw [Binding.unbind_closed state found rfl hears]
      have droppedKeyed : (gate.get dropped).IsKeyed := by
        rw [gate.get_put]
        exact keyed.dropSession session.connection
      obtain ⟨reachedRelied, telling⟩ :=
        tells session.connection
          ((gate.get state).directory.owner? (some session.service)) dropped pending
          (gate.relied_put _ state relied) permitted droppedKeyed
      rw [hears] at reachedRelied
      rw [hears, gate.get_put] at telling
      refine ⟨reachedRelied, ?_⟩
      exact
        .cons (.closed permitted found)
          (.cons (.apart rfl)
            (.cons .disconnected telling))

end Obeys

/-- Whatever a client does, it is a path of the protocol. -/
theorem Client.obeys
    {code : Traced (Entry ρ) σ α}
    (client : Client gate manners code) :
    Obeys gate manners code := by
  induction client with
  | apart leavesAlone =>
      exact .apart leavesAlone
  | andThen leads continues leadsObeys continuesObeys =>
      exact .andThen leadsObeys continuesObeys
  | attempt tries triesObeys =>
      exact .attempt triesObeys
  | register action component service descriptor =>
      exact .register action component service descriptor
  | bind callbacks connection component asks asksMannered tells asksObeys tellsObeys =>
      exact .bind callbacks connection component asksObeys asksMannered tellsObeys
  | unbind callbacks connection tells tellsObeys =>
      exact .unbind callbacks connection tellsObeys

/-- From an empty gate, a client takes a path that starts with nothing pending. -/
theorem Client.path
    {code : Traced (Entry ρ) σ α}
    (client : Client gate manners code)
    {state : σ}
    (relied : gate.relied state)
    (starts : gate.get state = Gate.empty) :
    Path manners
      ⟨Gate.empty, [], none⟩
      (code state).trace
      ⟨gate.get (code state).state, [], none⟩ := by
  have obeyed := client.obeys state [] relied manners.permits_nil
  rw [starts] at obeyed
  exact (obeyed nofun).2

namespace Client

theorem ofResult
    (result : Except Fault α) :
    Client gate manners (Traced.ofResult result : Traced (Entry ρ) σ α) :=
  .apart (.ofResult result)

theorem done
    (answer : α) :
    Client gate manners (Traced.done answer : Traced (Entry ρ) σ α) :=
  ofResult (.ok answer)

theorem fail
    (fault : Fault) :
    Client gate manners (Traced.fail fault : Traced (Entry ρ) σ α) :=
  ofResult (.error fault)

/-- Looking at the whole state leaves the gate alone. -/
theorem current :
    Client gate manners (Traced.current : Traced (Entry ρ) σ σ) :=
  .apart {
    untouched := fun _ _ => rfl
    relied := fun _ relied => relied
    silent := fun _ _ => List.forall_mem_nil _ }

theorem emit
    {entry : Entry ρ}
    (isApart : entry.isApart = true) :
    Client gate manners (Traced.emit entry : Traced (Entry ρ) σ Unit) :=
  .apart {
    untouched := fun _ _ => rfl
    relied := fun _ relied => relied
    silent := fun _ _ other member => by
      rw [List.mem_singleton.mp member]
      exact isApart }

theorem forEach
    {ι : Type}
    (items : List ι)
    {action : ι → Traced (Entry ρ) σ α}
    (acts : ∀ item ∈ items, Client gate manners (action item)) :
    Client gate manners (Traced.forEach items action) := by
  induction items with
  | nil =>
      exact done []
  | cons item rest inductionHypothesis =>
      refine .andThen (acts item List.mem_cons_self) fun _ _ _ _ => ?_
      refine .andThen (inductionHypothesis ?_) fun _ _ _ _ => done _
      intro other member
      exact acts other (List.mem_cons_of_mem item member)

/-- A registration with a descriptor of its own is made by a client. -/
theorem perform
    [Record.Validator]
    (registration : ServiceRegistration) :
    Client gate manners
      (Traced.within gate.toStatePart
        (Traced.within Gate.directoryPart registration.perform) :
          Traced (Entry ρ) σ ServiceInfo) := by
  cases described : registration.descriptor with
  | error fault =>
      refine .apart {
        untouched := ?_
        relied := fun state relied => gate.relied_put _ state relied
        silent := ?_ }
      · intro state relied
        simp only [Traced.within, ServiceRegistration.perform_refused described,
          gate.get_put]
        rfl
      · intro state relied
        simp only [Traced.within, ServiceRegistration.perform_refused described]
        exact List.forall_mem_nil _
  | ok descriptor =>
      have registers :
          (Traced.within gate.toStatePart
            (Traced.within Gate.directoryPart registration.perform) :
              Traced (Entry ρ) σ ServiceInfo) =
            Traced.andThen
              (Traced.within gate.toStatePart
                (Traced.within Gate.directoryPart
                  (Directory.register registration.action registration.component
                    registration.service (some descriptor))))
              fun _ => Traced.done descriptor := by
        funext state
        refine Eq.trans ?_ (Traced.bind_pure _ (fun _ => descriptor) state).symm
        simp only [Traced.within, ServiceRegistration.perform_described described]
      rw [registers]
      exact .andThen (.register _ _ _ _) fun _ _ _ _ => done descriptor

def idle : Binding.Callbacks ρ σ where
  listens _ := true
  binderOf _ := Traced.done none
  connected _ _ _ := Traced.done ()
  disconnected _ _ := Traced.done ()

/-- Callbacks that, once bound, unbind, bind again and then fail. -/
def relapsing (gate : StatePart σ Gate) (fault : Fault) : Binding.Callbacks ρ σ where
  listens _ := true
  binderOf _ := Traced.done none
  connected connection component _ :=
    Traced.andThen (Binding.unbind gate idle connection) fun _ =>
      Traced.andThen (Binding.bind gate idle connection (some component)) fun _ =>
        Traced.fail fault
  disconnected _ _ := Traced.done ()

/-- Register a service and bind a connection to it that relapses. -/
def relapse
    (gate : StatePart σ Gate)
    (fault : Fault)
    (connection : ConnectionId)
    (component : ComponentName)
    (service : ServiceId) :
    Traced (Entry ρ) σ (Except Fault Bool) :=
  Traced.andThen
    (Traced.within gate
      (Traced.within Gate.directoryPart
        (Directory.register .null (some component) (some service) none)))
    fun _ =>
      Traced.attempt
        (Binding.bind gate (relapsing gate fault) connection (some component))

theorem isReserved_done
    (answer : α) :
    IsReserved gate (Traced.done answer : Traced (Entry ρ) σ α) where
  entries _ _ := List.forall_mem_nil _
  ordinary _ _ _ fails := by
    cases fails

theorem bind_idle
    (connection : ConnectionId)
    (component : Option ComponentName) :
    Client gate manners
      (Binding.bind gate.toStatePart idle connection component :
        Traced (Entry ρ) σ Bool) :=
  .bind idle connection component
    (fun _ => done none)
    (fun _ _ => isReserved_done none)
    (fun _ _ _ => done ())

/-- A relapse is code of a client, whatever services may do when they are asked. -/
theorem relapse_isClient
    (gate : GatePlace σ)
    (manners : Manners)
    (fault : Fault)
    (connection : ConnectionId)
    (component : ComponentName)
    (service : ServiceId) :
    Client gate manners
      (relapse gate.toStatePart fault connection component service :
        Traced (Entry ρ) σ (Except Fault Bool)) := by
  have tells
      (listener : ConnectionId)
      (name : ComponentName)
      (handle : Option Handle) :
      Client gate manners
        ((relapsing gate.toStatePart fault : Binding.Callbacks ρ σ).connected listener
          name handle) := by
    refine .andThen (.unbind idle listener fun _ _ => done ()) fun _ _ _ _ => ?_
    exact .andThen (bind_idle listener (some name)) fun _ _ _ _ => fail fault
  refine .andThen (.register .null (some component) (some service) none) fun _ _ _ _ => ?_
  exact .attempt
    (.bind (relapsing gate.toStatePart fault) connection (some component)
      (fun _ => done none)
      (fun _ _ => isReserved_done none)
      tells)

/-- A relapse at a gate with nothing around it. -/
def bareRelapse (kind : ExceptionClass) : Traced (Entry Unit) Gate (Except Fault Bool) :=
  relapse GatePlace.bare.toStatePart (.raised ⟨kind, none⟩) ⟨"c"⟩ ⟨"p", "C"⟩ ⟨"s"⟩

theorem bareRelapse_isClient
    (manners : Manners)
    (kind : ExceptionClass) :
    Client GatePlace.bare manners (bareRelapse kind) :=
  relapse_isClient GatePlace.bare manners _ _ _ _

end Client

end PlatformDouble
