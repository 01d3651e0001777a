import PlatformDouble.Proofs.Host.GateWork
import PlatformDouble.Proofs.Host.Upkeep

namespace PlatformDouble

/-!
# What runs uphold

Callbacks perform requests of their own, so a request that binds or unbinds may do
whatever scripts ask for.  A property of the trace so far and of the host that is upheld
by requests to a holder and by requests about settings is upheld by every request, and
so by every run, as long as scripts ask for nothing else.

The property may also be told by the answers that callbacks get, if answers are sound
wherever it holds.
-/

open Context (Holder)

/-- Whether a request leaves the current holder in its place. -/
def Request.keepsHolder : Request → Bool
  | context request => request.keepsHolder
  | _ => true

/-- Whether an act asks for nothing that replaces the current holder. -/
def Act.keepsHolder : Act → Bool
  | raise _ => true
  | perform request => request.keepsHolder
  | attempt request => request.keepsHolder

namespace Stage

/-- A request to a holder is work on the host, whatever callbacks do. -/
theorem performWith_context
    [Record.Validator]
    (play : Callback → Step Unit)
    (request : ContextRequest)
    (stage : Stage) :
    let answered := request.answer stage.host
    performWith play (.context request) stage =
      { trace := answered.trace
        state := { stage with host := answered.state }
        result := answered.result.map Response.known } :=
  Traced.bind_pure (Traced.within hostPart request.answer) Response.known stage

theorem perform_context
    [Record.Validator]
    (request : ContextRequest)
    (stage : Stage) :
    let answered := request.answer stage.host
    perform (.context request) stage =
      { trace := answered.trace
        state := { stage with host := answered.state }
        result := answered.result.map Response.known } := by
  unfold perform
  cases stage.cast.turnsLeft <;> exact performWith_context _ request stage

end Stage

/-- The answer that an entry tells a callback got. -/
def Entry.answer? {ρ : Type} : Entry ρ → Option ρ
  | .event (.performed answer) => some answer
  | .event (.attempted (.ok answer)) => some answer
  | _ => none

/-- A property of the host holds, and scripts ask for nothing but what is allowed. -/
structure Stage.Upholds
    (holds : List (Entry Response) → Host → Prop)
    (allowed : Act → Bool)
    (past : List (Entry Response))
    (stage : Stage) : Prop where
  host : holds past stage.host
  scripts : stage.cast.Allows allowed

/-- A property is upheld by all requests that are permitted, which have sound answers. -/
structure Stage.Upkeep
    [Record.Validator]
    (holds : List (Entry Response) → Host → Prop)
    (fit : Holder → Prop)
    (sound : Response → Prop)
    (permits : Request → Bool)
    (allowed : Act → Bool) : Prop where
  host : Host.Upkeep holds fit
  makes :
    ∀ settings injections,
      permits (.context (.holder settings injections)) = true →
        Traced.Keeps holds (Traced.logged (Host.newHolder settings injections))
  config :
    ∀ request,
      permits (.config request) = true →
        Traced.Keeps holds (Traced.within Host.configPart (Traced.logged request.answer))
  /-- Where a level may be set, no log action has a bearing. -/
  levels :
    ∀ request : ReportRequest,
      permits (.reports request) = true → request.setsLevels = true → IgnoresLog holds
  performs : ∀ request, allowed (.perform request) = true → permits request = true
  attempts : ∀ request, allowed (.attempt request) = true → permits request = true
  /-- Events have no bearing, if they tell of sound answers only. -/
  told :
    ∀ past host (event : Event Response),
      (∀ answer, (Entry.event event).answer? = some answer → sound answer) →
        holds past host → holds (past ++ [.event event]) host
  answers :
    ∀ play request past stage answer,
      permits request = true →
        holds past stage.host →
          (Stage.performWith play request stage).result = .ok answer → sound answer

namespace Stage.Upkeep

variable
  {holds : List (Entry Response) → Host → Prop}
  {fit : Holder → Prop}
  {sound : Response → Prop}
  {permits : Request → Bool}
  {allowed : Act → Bool}
  {α : Type}

theorem within_hostPart
    {code : Traced (Entry Response) Host α}
    (keeps : Traced.Keeps holds code) :
    Traced.Keeps (Upholds holds allowed) (Traced.within hostPart code) :=
  fun past stage held => {
    host := keeps past stage.host held.host
    scripts := held.scripts }

theorem takeTurn_bind
    {next : Turn → Step α}
    (callback : Callback)
    (keeps :
      ∀ turn : Turn,
        (∀ act ∈ turn, allowed act = true) →
          Traced.Keeps (Upholds holds allowed) (next turn)) :
    Traced.Keeps (Upholds holds allowed) (takeTurn callback >>= next) := by
  intro past stage holding
  obtain ⟨turnAllowed, scriptsAllowed⟩ := holding.scripts.takeTurn callback
  exact keeps _ turnAllowed past _ ⟨holding.host, scriptsAllowed⟩

/-- Requests that are permitted uphold the property, and their answers are sound. -/
structure Answers
    (holds : List (Entry Response) → Host → Prop)
    (sound : Response → Prop)
    (permits : Request → Bool)
    (allowed : Act → Bool)
    (perform : Request → Step Response) : Prop where
  keeps :
    ∀ request,
      permits request = true → Traced.Keeps (Upholds holds allowed) (perform request)
  sound :
    ∀ request past stage answer,
      permits request = true →
        Upholds holds allowed past stage →
          (perform request stage).result = .ok answer → sound answer

/-- If a request was caught with an answer, that is sound. -/
theorem Answers.sound_of_attempt
    {perform : Request → Step Response}
    (performing : Answers holds sound permits allowed perform)
    {request : Request}
    (isPermitted : permits request = true)
    {past : List (Entry Response)}
    {stage : Stage}
    {outcome : Except Fault Response}
    (holding : Upholds holds allowed past stage)
    (ended : (Traced.attempt (perform request) stage).result = .ok outcome)
    (answer : Response)
    (isTold : (Entry.event (Event.attempted outcome)).answer? = some answer) :
    sound answer := by
  cases ended
  cases answered : (perform request stage).result with
  | error fault =>
      rw [answered] at isTold
      cases isTold
  | ok reply =>
      rw [answered] at isTold
      cases isTold
      exact performing.sound request past stage answer isPermitted holding answered

variable [Record.Validator] (upkeep : Upkeep holds fit sound permits allowed)

include upkeep

theorem idle :
    IgnoresIdle (Upholds holds allowed) :=
  fun past stage entry isIdle held => {
    host := upkeep.host.idle past stage.host entry isIdle held.host
    scripts := held.scripts }

/-- Nothing of the gate of a fit holder has a bearing but its directory. -/
theorem putGate
    {held : Holder}
    (isFit : fit held)
    {past : List (Entry Response)}
    {stage : Stage}
    (holding : Upholds holds allowed past stage)
    {gate : Gate}
    (same : gate.directory = (stage.host.gate held.id).directory) :
    Upholds holds allowed past ((gatePart held.id).put gate stage) where
  host := upkeep.host.gate past stage.host held gate isFit holding.host same
  scripts := holding.scripts

theorem refuse
    (fault : Fault) :
    Traced.Keeps (Upholds holds allowed)
      (Binding.refuse fault : Traced (Entry Response) Stage α) := by
  refine .bind (upkeep.idle.log _ _ _) fun _ => ?_
  exact .fail fault

theorem openSession
    {held : Holder}
    (isFit : fit held)
    (connection : ConnectionId)
    (component : Option ComponentName) :
    Traced.Keeps (Upholds holds allowed)
      (Binding.openSession (gatePart held.id) connection component) := by
  apply Traced.Keeps.current_bind
  intro past stage holding
  cases opens : ((gatePart held.id).get stage).openSession connection component with
  | error fault =>
      exact upkeep.refuse fault past stage holding
  | ok opened =>
      rcases opened with ⟨session, gate⟩
      obtain ⟨-, -, -, -, rfl⟩ := Gate.of_openSession opens
      exact upkeep.idle past _ _ rfl (upkeep.putGate isFit holding rfl)

theorem withdraw
    {held : Holder}
    (isFit : fit held)
    (failed : Session) :
    Traced.Keeps (Upholds holds allowed) (Binding.withdraw (gatePart held.id) failed) := by
  apply Traced.Keeps.current_bind
  intro past stage holding
  exact upkeep.idle past _ _ rfl (upkeep.putGate isFit holding rfl)

section Callbacks

variable
  {callbacks : Binding.Callbacks Response Stage}
  (asked :
    ∀ service, Traced.Keeps (Upholds holds allowed) (callbacks.binderOf service))
  (told :
    ∀ connection component handle,
      Traced.Keeps (Upholds holds allowed) (callbacks.connected connection component handle))

include asked told

theorem deliver
    (session : Session) :
    Traced.Keeps (Upholds holds allowed) (Binding.deliver callbacks session) := by
  unfold Binding.deliver
  split
  · refine .bind (asked _) fun handle => ?_
    exact .bind (upkeep.idle.emit rfl) fun _ => told _ _ _
  · exact .fail _

theorem bind
    {held : Holder}
    (isFit : fit held)
    (connection : ConnectionId)
    (component : Option ComponentName) :
    Traced.Keeps (Upholds holds allowed)
      (Binding.bind (gatePart held.id) callbacks connection component) := by
  refine .bind (upkeep.openSession isFit connection component) fun session => ?_
  refine .bind (.attempt (upkeep.deliver asked told session)) fun delivery => ?_
  cases delivery with
  | ok _ =>
      refine .bind (upkeep.idle.emit rfl) fun _ => ?_
      exact .bind (upkeep.idle.log _ _ _) fun _ => .done true
  | error fault =>
      dsimp only
      split
      · exact .bind (upkeep.withdraw isFit session) fun _ => .fail fault
      · exact .bind (upkeep.idle.emit rfl) fun _ => .fail fault

end Callbacks

theorem unbind
    {callbacks : Binding.Callbacks Response Stage}
    (told :
      ∀ connection named,
        Traced.Keeps (Upholds holds allowed) (callbacks.disconnected connection named))
    {held : Holder}
    (isFit : fit held)
    (connection : ConnectionId) :
    Traced.Keeps (Upholds holds allowed)
      (Binding.unbind (gatePart held.id) callbacks connection) := by
  apply Traced.Keeps.current_bind
  intro past stage holding
  cases bound : ((gatePart held.id).get stage).sessions.get? connection with
  | none =>
      exact upkeep.refuse _ past stage holding
  | some session =>
      have closes :
          Traced.Keeps (Upholds holds allowed)
            (do
              Traced.mark (.closed session)
              Traced.logged (Traced.log Logging.bindingLogger .debug
                ("Unbound " ++ session.component.flatText))
              let named :=
                ((gatePart held.id).get stage).directory.owner? (some session.service)
              Traced.observe (.disconnected session named)
              callbacks.disconnected connection named) := by
        refine .bind (upkeep.idle.emit rfl) fun _ => ?_
        refine .bind (upkeep.idle.log _ _ _) fun _ => ?_
        exact .bind (upkeep.idle.emit rfl) fun _ => told _ _
      exact closes past _ (upkeep.putGate isFit holding rfl)

/-- Binding and unbinding go to a holder that is fit. -/
theorem currentHolder_bind
    {next : Holder → Step α}
    (keeps : ∀ held, fit held → Traced.Keeps (Upholds holds allowed) (next held)) :
    Traced.Keeps (Upholds holds allowed)
      (Traced.within hostPart ContextRequest.currentHolder >>= next) := by
  refine .bind_of_answers (within_hostPart upkeep.host.holder) ?_ keeps
  exact fun past stage held holding => upkeep.host.fits past stage.host held holding.host

/-- A callback is told of a sound answer, and goes on. -/
theorem observe_bind
    {event : Event Response}
    (sounds : ∀ answer, (Entry.event event).answer? = some answer → sound answer)
    {next : Step Unit}
    (continues : Traced.Keeps (Upholds holds allowed) next) :
    Traced.Keeps (Upholds holds allowed) (Traced.observe event >>= fun _ => next) := by
  refine .bind (fun past stage holding => ?_) fun _ => continues
  exact ⟨upkeep.told past stage.host event sounds holding.host, holding.scripts⟩

theorem playTurn
    {perform : Request → Step Response}
    (performing : Answers holds sound permits allowed perform)
    (turn : Turn)
    (turnAllowed : ∀ act ∈ turn, allowed act = true) :
    Traced.Keeps (Upholds holds allowed) (Stage.playTurn perform turn) := by
  induction turn with
  | nil =>
      exact .done ()
  | cons act rest inductionHypothesis =>
      have actAllowed : allowed act = true :=
        turnAllowed act List.mem_cons_self
      have restPlays : Traced.Keeps (Upholds holds allowed) (Stage.playTurn perform rest) := by
        apply inductionHypothesis
        intro other member
        exact turnAllowed other (List.mem_cons_of_mem act member)
      cases act with
      | raise exception =>
          exact .fail (.raised exception)
      | perform request =>
          have isPermitted := upkeep.performs request actAllowed
          refine .bind_of_answers (performing.keeps request isPermitted)
            (fun past stage answer => performing.sound request past stage answer isPermitted)
            fun answer isSound => ?_
          refine upkeep.observe_bind (fun told isTold => ?_) restPlays
          cases isTold
          exact isSound
      | attempt request =>
          have isPermitted := upkeep.attempts request actAllowed
          refine .bind_of_answers (performing.keeps request isPermitted).attempt
            (fun past stage outcome => performing.sound_of_attempt isPermitted)
            fun outcome areSound => ?_
          exact upkeep.observe_bind areSound restPlays

theorem binderOf
    (cast : Cast)
    {play : Callback → Step Unit}
    (plays : ∀ callback, Traced.Keeps (Upholds holds allowed) (play callback))
    (service : ServiceId) :
    Traced.Keeps (Upholds holds allowed) (Stage.binderOf cast play service) := by
  unfold Stage.binderOf
  cases (cast.service service).kind with
  | bare =>
      exact .done _
  | binder =>
      refine .bind (upkeep.idle.emit rfl) fun _ => ?_
      exact .bind (plays _) fun _ => .done _
  | emptyBinder =>
      refine .bind (upkeep.idle.emit rfl) fun _ => ?_
      exact .bind (plays _) fun _ => .done _

theorem performWith
    {play : Callback → Step Unit}
    (plays : ∀ callback, Traced.Keeps (Upholds holds allowed) (play callback)) :
    Answers holds sound permits allowed (Stage.performWith play) where
  sound request past stage answer isPermitted holding :=
    upkeep.answers play request past stage answer isPermitted holding.host
  keeps request isPermitted := by
    cases request with
    | records request =>
        exact .bind (.ofResult _) fun _ => .done _
    | reports request =>
        refine request.answer_keeps upkeep.idle fun sets past stage action holding => ?_
        have ignores := upkeep.levels request isPermitted sets
        exact ⟨ignores past stage.host action holding.host, holding.scripts⟩
    | config request =>
        exact within_hostPart (upkeep.config request isPermitted)
    | context request =>
        have answers : Traced.Keeps holds request.answer := by
          apply upkeep.host.answer
          rintro settings injections rfl
          exact upkeep.makes settings injections isPermitted
        exact .bind (within_hostPart answers) fun _ => .done _
    | bind connection intent =>
        refine upkeep.currentHolder_bind fun held isFit => ?_
        refine .bind (.ofResult _) fun checked => ?_
        refine .bind .current fun stage => ?_
        refine .bind ?_ fun _ => .done _
        exact upkeep.bind (upkeep.binderOf stage.cast plays) (fun _ _ _ => plays _) isFit
          connection checked.component
    | unbind connection =>
        refine upkeep.currentHolder_bind fun held isFit => ?_
        refine .bind .current fun stage => ?_
        refine .bind ?_ fun _ => .done _
        exact upkeep.unbind (fun _ _ => plays _) isFit connection
    | isConnection candidate =>
        exact .bind .current fun _ => .done _

/-- Requests uphold the property, whatever depth their callbacks may nest to. -/
theorem performWithin
    (depth : Nat) :
    Answers holds sound permits allowed (Stage.performWithin depth) := by
  induction depth with
  | zero =>
      exact upkeep.performWith fun _ => .done ()
  | succ depth inductionHypothesis =>
      refine upkeep.performWith fun callback => ?_
      exact takeTurn_bind callback fun turn turnAllowed =>
        upkeep.playTurn inductionHypothesis turn turnAllowed

theorem perform :
    Answers holds sound permits allowed Stage.perform where
  keeps request isPermitted past stage holding :=
    (upkeep.performWithin stage.cast.turnsLeft).keeps request isPermitted past stage holding
  sound request past stage :=
    (upkeep.performWithin stage.cast.turnsLeft).sound request past stage

theorem performAll
    {requests : List Request}
    (permitted : ∀ request ∈ requests, permits request = true) :
    Traced.Keeps (Upholds holds allowed) (Stage.performAll requests) :=
  .forEach fun request member =>
    .attempt (upkeep.perform.keeps request (permitted request member))

/-- A run is gone through to its end, and whoever asked got a sound answer or none. -/
theorem sound_performAll
    {requests : List Request}
    (permitted : ∀ request ∈ requests, permits request = true)
    {past : List (Entry Response)}
    {stage : Stage}
    (holding : Upholds holds allowed past stage) :
    ∃ outcomes,
      (Stage.performAll requests stage).result = .ok outcomes ∧
        ∀ answer, .ok answer ∈ outcomes → sound answer := by
  induction requests generalizing past stage with
  | nil =>
      exact ⟨[], rfl, fun _ member => absurd member List.not_mem_nil⟩
  | cons request rest inductionHypothesis =>
      have isPermitted := permitted request List.mem_cons_self
      obtain ⟨others, continues, areSound⟩ :=
        inductionHypothesis (fun other member => permitted other (List.mem_cons_of_mem _ member))
          (upkeep.perform.keeps request isPermitted past stage holding)
      refine ⟨(Stage.perform request stage).result :: others, ?_, ?_⟩
      · exact congrArg Outcome.result (Traced.forEach_cons_of_ok rfl continues)
      · intro answer member
        rcases List.mem_cons.mp member with isFirst | isLater
        · exact upkeep.perform.sound request past stage answer isPermitted holding isFirst.symm
        · exact areSound answer isLater

end Stage.Upkeep

end PlatformDouble
