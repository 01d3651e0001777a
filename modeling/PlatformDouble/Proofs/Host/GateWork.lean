import PlatformDouble.Host.Stage
import PlatformDouble.Proofs.Gate.Naming
import PlatformDouble.Proofs.Gate.Retention
import PlatformDouble.Proofs.Host.Scripts

namespace PlatformDouble

/-!
# Scripted clients

The callbacks of a cast come back to the gate through requests, as often as their
scripts tell them to.  As long as requests register, bind, unbind and look at
sessions, all of them go to the gate of one holder, and whatever the scripts, a
run of such requests is a client of that gate.  So what holds of every client
holds of every such run.

That requests nest no deeper than there are turns left does not matter here: the
induction is on any bound of the depth.
-/

namespace ContextRequest

/-- Whether a request registers or looks at sessions. -/
def isGateWork : ContextRequest → Bool
  | register _ => true
  | registerAtGate _ => true
  | registerInDirectory _ _ _ _ => true
  | addConnectionService _ _ => true
  | addInCallService _ _ => true
  | isBound _ => true
  | session _ => true
  | _ => false

end ContextRequest

/-- Whether a request registers, binds, unbinds or looks at sessions. -/
def Request.isGateWork : Request → Bool
  | bind _ _ => true
  | unbind _ => true
  | context request => request.isGateWork
  | _ => false

/-- Whether an act asks for nothing but work on a gate. -/
def Act.isGateWork : Act → Bool
  | raise _ => true
  | perform request => request.isGateWork
  | attempt request => request.isGateWork

/-- All acts in all scripts are allowed ones. -/
def Cast.Allows (cast : Cast) (allowed : Act → Bool) : Prop :=
  ∀ callback, ∀ turn ∈ cast.script callback, ∀ act ∈ turn, allowed act = true

/-- All scripts ask for nothing but work on a gate. -/
def Cast.IsGateWork (cast : Cast) : Prop :=
  ∀ callback, ∀ turn ∈ cast.script callback, ∀ act ∈ turn, act.isGateWork = true

namespace Cast

/-- A script in the place of another changes no script but that one. -/
theorem of_mem_script_withScript
    {cast : Cast}
    {callback other : Callback}
    {script : Script}
    {turn : Turn}
    (member : turn ∈ (cast.withScript callback script).script other) :
    turn ∈ script ∨ turn ∈ cast.script other := by
  rw [script_withScript] at member
  split at member
  · exact .inl member
  · exact .inr member

/-- A turn that is taken is one of the script, or empty. -/
theorem Allows.takeTurn
    {cast : Cast}
    {allowed : Act → Bool}
    (allows : cast.Allows allowed)
    (callback : Callback) :
    (∀ act ∈ (cast.takeTurn callback).1, allowed act = true) ∧
      (cast.takeTurn callback).2.Allows allowed := by
  unfold Cast.takeTurn
  cases left : cast.script callback with
  | nil =>
      exact ⟨List.forall_mem_nil _, allows⟩
  | cons turn rest =>
      have ofScript := allows callback
      rw [left] at ofScript
      refine ⟨ofScript turn List.mem_cons_self, ?_⟩
      intro other later member
      rcases of_mem_script_withScript member with isLater | isOther
      · exact ofScript later (List.mem_cons_of_mem turn isLater)
      · exact allows other later isOther

theorem IsGateWork.takeTurn
    {cast : Cast}
    (gateWork : cast.IsGateWork)
    (callback : Callback) :
    (∀ act ∈ (cast.takeTurn callback).1, act.isGateWork = true) ∧
      (cast.takeTurn callback).2.IsGateWork :=
  Allows.takeTurn gateWork callback

end Cast

namespace Stage

/-- The gate of the current holder, among scripts that only work on it. -/
def place (holder : Context.HolderId) : GatePlace Stage where
  toStatePart := gatePart holder
  relied stage :=
    (∃ held, stage.host.current = some held ∧ held.id = holder) ∧
      stage.cast.IsGateWork
  relied_put _ _ relied := relied

variable
  {holder : Context.HolderId}
  {α β : Type}

/-- Code on the host goes on as the code it is made of. -/
theorem within_hostPart_andThen
    (first : Traced (Entry Response) Host α)
    (next : α → Traced (Entry Response) Host β) :
    Traced.within hostPart (Traced.andThen first next) =
      Traced.andThen (Traced.within hostPart first) fun answer =>
        Traced.within hostPart (next answer) := by
  funext stage
  rcases ended : first stage.host with ⟨trace, reached, result⟩
  cases result with
  | ok answer =>
      simp only [Traced.within, Traced.andThen, hostPart, ended]
  | error fault =>
      simp only [Traced.within, Traced.andThen, hostPart, ended]

/-- Code that leaves the host as it is leaves its gates alone. -/
theorem within_hostPart_isClient
    {code : Traced (Entry Response) Host α}
    (same : ∀ host, (code host).state = host)
    (silent : ∀ host, ∀ entry ∈ (code host).trace, entry.isApart = true) :
    Client (place holder) .free (Traced.within hostPart code) := by
  have sameStage
      (stage : Stage) :
      (Traced.within hostPart code stage).state = stage := by
    show hostPart.put (code stage.host).state stage = stage
    rw [same]
    rfl
  exact .apart {
    untouched := fun stage _ => by rw [sameStage]
    relied := fun stage relied => by
      rw [sameStage]
      exact relied
    silent := fun stage _ => silent stage.host }

/-- Work on the host is done by a client when all of its parts are. -/
theorem within_hostPart_bind
    {first : Traced (Entry Response) Host α}
    {next : α → Traced (Entry Response) Host β}
    (leads : Client (place holder) .free (Traced.within hostPart first))
    (continues :
      ∀ answer, Client (place holder) .free (Traced.within hostPart (next answer))) :
    Client (place holder) .free (Traced.within hostPart (first >>= next)) := by
  show Client (place holder) .free (Traced.within hostPart (Traced.andThen first next))
  rw [within_hostPart_andThen]
  exact .andThen leads fun _ answer _ _ => continues answer

theorem within_ofResult
    (result : Except Fault α) :
    Client (place holder) .free
      (Traced.within hostPart (Traced.ofResult result : Traced (Entry Response) Host α)) :=
  within_hostPart_isClient (fun _ => rfl) fun _ => List.forall_mem_nil _

/-- Reporting what was added leaves the gate alone. -/
theorem reportAdded_isClient
    (component : Option ComponentName) :
    Client (place holder) .free
      (Traced.within hostPart (ContextRequest.reportAdded component)) := by
  cases component with
  | none =>
      exact within_ofResult (.error _)
  | some name =>
      refine within_hostPart_isClient (fun _ => rfl) fun _ entry member => ?_
      rw [List.mem_singleton.mp member]
      rfl

/-- Taking a turn leaves the gate alone. -/
theorem takeTurn_leavesAlone
    (callback : Callback) :
    LeavesAlone (place holder) (takeTurn callback) where
  untouched _ _ := rfl
  relied _ relied := ⟨relied.1, (relied.2.takeTurn callback).2⟩
  silent _ _ := List.forall_mem_nil _

theorem playTurn_isClient
    {perform : Request → Step Response}
    (performs :
      ∀ request,
        request.isGateWork = true → Client (place holder) .free (perform request))
    (turn : Turn)
    (gateWork : ∀ act ∈ turn, act.isGateWork = true) :
    Client (place holder) .free (playTurn perform turn) := by
  induction turn with
  | nil =>
      exact .done ()
  | cons act rest inductionHypothesis =>
      have actWork : act.isGateWork = true :=
        gateWork act List.mem_cons_self
      have restPlays : Client (place holder) .free (playTurn perform rest) := by
        apply inductionHypothesis
        intro other member
        exact gateWork other (List.mem_cons_of_mem act member)
      cases act with
      | raise exception =>
          exact .fail (.raised exception)
      | perform request =>
          refine .andThen (performs request actWork) fun _ _ _ _ => ?_
          exact .andThen (.emit rfl) fun _ _ _ _ => restPlays
      | attempt request =>
          unfold playTurn
          refine .andThen (.attempt (performs request actWork)) fun _ _ _ _ => ?_
          exact .andThen (.emit rfl) fun _ _ _ _ => restPlays

theorem binderOf_isClient
    (cast : Cast)
    {play : Callback → Step Unit}
    (plays : ∀ callback, Client (place holder) .free (play callback))
    (service : ServiceId) :
    Client (place holder) .free (binderOf cast play service) := by
  unfold binderOf
  cases (cast.service service).kind with
  | bare =>
      exact .done _
  | binder =>
      refine .andThen (.emit rfl) fun _ _ _ _ => ?_
      exact .andThen (plays _) fun _ _ _ _ => .done _
  | emptyBinder =>
      refine .andThen (.emit rfl) fun _ _ _ _ => ?_
      exact .andThen (plays _) fun _ _ _ _ => .done _

variable [Record.Validator]

/-- A current holder is there for code on the host. -/
theorem within_currentHolder_of_some
    {stage : Stage}
    {held : Context.Holder}
    (isCurrent : stage.host.current = some held) :
    Traced.within hostPart ContextRequest.currentHolder stage =
      { trace := [], state := stage, result := .ok held } := by
  simp only [Traced.within, hostPart, ContextRequest.currentHolder_of_some isCurrent]

/-- The current holder is the one whose gate is worked on. -/
theorem within_currentHolder
    {stage : Stage}
    (relied : (place holder).relied stage) :
    ∃ held : Context.Holder,
      held.id = holder ∧
        Traced.within hostPart ContextRequest.currentHolder stage =
          { trace := [], state := stage, result := .ok held } := by
  obtain ⟨⟨held, isCurrent, isHolder⟩, -⟩ := relied
  exact ⟨held, isHolder, within_currentHolder_of_some isCurrent⟩

/-- Work for the current holder goes on with the holder in question. -/
theorem currentHolder_andThen
    {next : Context.Holder → Step α}
    (continues :
      ∀ held : Context.Holder, held.id = holder → Client (place holder) .free (next held)) :
    Client (place holder) .free
      (Traced.andThen (Traced.within hostPart ContextRequest.currentHolder) next) := by
  refine .andThen (.apart ?_) ?_
  · exact {
      untouched := fun stage relied => by
        obtain ⟨held, -, answers⟩ := within_currentHolder relied
        rw [answers]
      relied := fun stage relied => by
        obtain ⟨held, -, answers⟩ := within_currentHolder relied
        rw [answers]
        exact relied
      silent := fun stage relied => by
        obtain ⟨held, -, answers⟩ := within_currentHolder relied
        rw [answers]
        exact List.forall_mem_nil _ }
  · intro stage answer relied answered
    obtain ⟨held, isHolder, answers⟩ := within_currentHolder relied
    rw [answers] at answered
    cases answered
    exact continues _ isHolder

/-- The same for work on the host. -/
theorem within_currentHolder_bind
    {next : Context.Holder → Traced (Entry Response) Host α}
    (continues :
      ∀ held : Context.Holder,
        held.id = holder → Client (place holder) .free (Traced.within hostPart (next held))) :
    Client (place holder) .free
      (Traced.within hostPart (ContextRequest.currentHolder >>= next)) := by
  show
    Client (place holder) .free
      (Traced.within hostPart (Traced.andThen ContextRequest.currentHolder next))
  rw [within_hostPart_andThen]
  exact currentHolder_andThen continues

/-- A registration through a holder is one at its gate. -/
theorem registerAt_isClient
    {held : Context.Holder}
    (isHolder : held.id = holder)
    (given : GivenRegistration) :
    Client (place holder) .free
      (Traced.within hostPart (ContextRequest.registerAt held given)) := by
  subst isHolder
  refine within_hostPart_bind (within_ofResult _) fun registration => ?_
  have performs :
      Client (place held.id) .free
        (Traced.within hostPart
          (ContextRequest.onDirectory held
            (registration.perform : Traced (Entry Response) Directory ServiceInfo))) :=
    Client.perform registration
  exact within_hostPart_bind performs fun _ => within_ofResult (.ok _)

theorem registerAndReport_isClient
    (given : GivenRegistration) :
    Client (place holder) .free
      (Traced.within hostPart (ContextRequest.registerAndReport given)) := by
  refine within_currentHolder_bind fun held isHolder => ?_
  refine within_hostPart_bind (registerAt_isClient isHolder given) fun answer => ?_
  rcases answer with ⟨component, descriptor⟩
  exact within_hostPart_bind (reportAdded_isClient component) fun _ =>
    within_ofResult (.ok _)

/-- Work on a gate that calls nobody back is done by a client. -/
theorem answer_isClient
    {request : ContextRequest}
    (gateWork : request.isGateWork = true) :
    Client (place holder) .free (Traced.within hostPart request.answer) := by
  cases request with
  | register given =>
      exact registerAndReport_isClient given
  | registerAtGate given =>
      refine within_currentHolder_bind fun held isHolder => ?_
      exact within_hostPart_bind (registerAt_isClient isHolder given) fun _ =>
        within_ofResult (.ok _)
  | registerInDirectory action component service fields =>
      refine within_hostPart_bind (within_ofResult _) fun descriptor => ?_
      refine within_currentHolder_bind fun held isHolder => ?_
      refine within_hostPart_bind (within_ofResult _) fun name => ?_
      subst isHolder
      have registers :
          Client (place held.id) .free
            (Traced.within hostPart
              (ContextRequest.onDirectory held
                (Directory.register action name service descriptor))) :=
        Client.register action name service descriptor
      exact within_hostPart_bind registers fun _ => within_ofResult (.ok _)
  | addConnectionService component service =>
      exact registerAndReport_isClient _
  | addInCallService component service =>
      exact registerAndReport_isClient _
  | isBound connection =>
      refine within_currentHolder_bind fun held _ => ?_
      exact within_hostPart_isClient (fun _ => rfl) fun _ => List.forall_mem_nil _
  | session connection =>
      refine within_currentHolder_bind fun held _ => ?_
      exact within_hostPart_isClient (fun _ => rfl) fun _ => List.forall_mem_nil _
  | _ =>
      cases gateWork

theorem performWith_isClient
    {play : Callback → Step Unit}
    (plays : ∀ callback, Client (place holder) .free (play callback))
    {request : Request}
    (gateWork : request.isGateWork = true) :
    Client (place holder) .free (performWith play request) := by
  cases request with
  | context request =>
      exact .andThen (answer_isClient gateWork) fun _ _ _ _ => .done _
  | bind connection intent =>
      refine currentHolder_andThen fun held isHolder => ?_
      subst isHolder
      refine .andThen (.ofResult _) fun _ checked _ _ => ?_
      refine .andThen .current fun _ stage _ _ => ?_
      refine .andThen ?_ fun _ _ _ _ => .done _
      exact .bind (callbacks stage.cast play) connection checked.component
        (binderOf_isClient stage.cast plays) nofun
        (fun listener _ _ => plays (.connected listener))
  | unbind connection =>
      refine currentHolder_andThen fun held isHolder => ?_
      subst isHolder
      refine .andThen .current fun _ stage _ _ => ?_
      refine .andThen ?_ fun _ _ _ _ => .done _
      exact .unbind (callbacks stage.cast play) connection
        (fun listener _ => plays (.disconnected listener))
  | _ =>
      cases gateWork

/-- Work on the gate is done by a client, whatever depth its callbacks may nest to. -/
theorem performWithin_isClient
    (depth : Nat)
    {request : Request}
    (gateWork : request.isGateWork = true) :
    Client (place holder) .free (performWithin depth request) := by
  induction depth generalizing request with
  | zero =>
      exact performWith_isClient (fun _ => .done ()) gateWork
  | succ depth inductionHypothesis =>
      refine performWith_isClient (fun callback => ?_) gateWork
      refine .andThen (.apart (takeTurn_leavesAlone callback)) ?_
      intro stage turn relied taken
      cases taken
      exact playTurn_isClient (fun _ => inductionHypothesis) _
        (relied.2.takeTurn callback).1

/-- Perform requests one after another, each whatever became of those before. -/
def performAll (requests : List Request) : Step (List (Except Fault Response)) :=
  Traced.forEach requests fun request => Traced.attempt (perform request)

/-- A run of requests that work on the gate of one holder is a client of that gate. -/
theorem performAll_isClient
    {requests : List Request}
    (gateWork : ∀ request ∈ requests, request.isGateWork = true) :
    Client (place holder) .free (performAll requests) := by
  refine .forEach requests fun request member => .attempt ?_
  have looksFirst :
      perform request =
        Traced.andThen Traced.current fun stage =>
          performWithin stage.cast.turnsLeft request :=
    rfl
  rw [looksFirst]
  exact .andThen .current fun _ stage _ _ =>
    performWithin_isClient stage.cast.turnsLeft (gateWork request member)

section Run

variable
  {requests : List Request}
  {stage : Stage}
  (gateWork : ∀ request ∈ requests, request.isGateWork = true)
  (relied : (place holder).relied stage)
  (starts : stage.host.gate holder = Gate.empty)

include gateWork relied starts

/-- A run of such requests is sound when every registration names its component. -/
theorem performAll_isSoundRun
    (registrationsNamed :
      ∀ written,
        .gate (.registered written) ∈ (performAll requests stage).trace →
          written.component ≠ none) :
    IsSoundRun
      (performAll requests stage).trace
      ((performAll requests stage).state.host.gate holder) :=
  ((performAll_isClient gateWork).path relied starts).isSoundRun registrationsNamed

/-- A run of such requests loses established sessions in one way only. -/
theorem performAll_keeps_iff :
    KeepsEstablished (performAll requests stage).trace ↔
      ¬ LosesEstablished (performAll requests stage).trace :=
  ((performAll_isClient gateWork).path relied starts).keeps_iff

/-- At the end of a session its connection hears of the latest component of its service. -/
theorem performAll_namesLatest :
    NamesLatestComponents (performAll requests stage).trace :=
  ((performAll_isClient gateWork).path relied starts).namesLatest

end Run

end Stage

end PlatformDouble
