import PlatformDouble.Host.Contexts
import PlatformDouble.Proofs.Gate.Outcomes
import PlatformDouble.Proofs.Host.QuietWork

namespace PlatformDouble

/-!
# What requests to a holder uphold

Requests to a holder do few things to a host: they have a holder made, write
registrations, open and advance cursors, and put in resources.  A property of the trace
so far and of the host that all of these uphold is upheld by every request.  It may rely
on what is known of the holder that requests go to.
-/

open Context (Holder)

/-- A property is upheld by all that requests to a holder do, if that holder is fit for it. -/
structure Host.Upkeep
    [Record.Validator]
    (holds : List (Entry Response) → Host → Prop)
    (fit : Holder → Prop) : Prop where
  idle : IgnoresIdle holds
  holder : Traced.Keeps holds ContextRequest.currentHolder
  fits :
    ∀ past host held,
      holds past host →
        (ContextRequest.currentHolder host).result = .ok held → fit held
  /-- Nothing of a gate has a bearing but its directory. -/
  gate :
    ∀ past (host : Host) (held : Holder) (gate : Gate),
      fit held →
        holds past host →
          gate.directory = (host.gate held.id).directory →
            holds past ((Host.gatePart held.id).put gate host)
  registered :
    ∀ past (host : Host) (held : Holder) (entry : Registration),
      fit held →
        holds past host →
          holds (past ++ [.gate (.registered entry)])
            ((Host.directoryPart held.id).put
              ((host.gate held.id).directory.write entry) host)
  opened :
    ∀ past (host : Host) (held : Holder) (name : String) (action : Value),
      fit held →
        holds past host →
          holds (past ++ [.cursor (.opened name action)])
            { host with cursors := host.cursors.insert name ⟨held.id, .waiting action⟩ }
  advanced :
    ∀ past (host : Host) (name : String) (opened : OpenCursor),
      holds past host →
        host.cursors.get? name = some opened →
          let advanced := opened.cursor.advance (host.gate opened.holder).directory
          holds (past ++ [.cursor (.advanced name advanced.1)])
            { host with
              cursors := host.cursors.insert name { opened with cursor := advanced.2 } }
  putResource :
    ∀ past (host : Host) (held : Holder) (id : Int) (value : Value),
      fit held →
        holds past host →
          holds past { host with current := some (held.putResource id value) }

namespace ContextRequest

variable {α : Type}

/-- What comes of advancing a cursor that is open: nothing changes but how far it has come. -/
theorem advance_of_opened
    {host : Host}
    {name : String}
    {opened : OpenCursor}
    (found : host.cursors.get? name = some opened) :
    let advanced := opened.cursor.advance (host.gate opened.holder).directory
    advance name host =
      { trace := [.cursor (.advanced name advanced.1)]
        state := {
          host with
          cursors := host.cursors.insert name { opened with cursor := advanced.2 } }
        result := advanced.1.map Reply.next } := by
  intro advanced
  unfold advance
  rw [Traced.bind_of_ok rfl]
  simp only [Traced.current, found]
  rw [Traced.bind_of_ok rfl, Traced.bind_of_ok rfl, Traced.bind_pure]
  rfl

/-- Whether a request leaves the current holder in its place. -/
def keepsHolder : ContextRequest → Bool
  | .holder _ _ => false
  | _ => true

end ContextRequest

namespace Host.Upkeep

open ContextRequest

variable
  [Record.Validator]
  {holds : List (Entry Response) → Host → Prop}
  {fit : Holder → Prop}
  (upkeep : Upkeep holds fit)
  {α : Type}

include upkeep

/-- Requests go to a holder that is fit. -/
theorem currentHolder_bind
    {next : Holder → Traced (Entry Response) Host α}
    (keeps : ∀ held, fit held → Traced.Keeps holds (next held)) :
    Traced.Keeps holds (currentHolder >>= next) :=
  .bind_of_answers upkeep.holder upkeep.fits keeps

theorem gateOf_bind
    {next : Gate → Traced (Entry Response) Host α}
    (keeps : ∀ gate, Traced.Keeps holds (next gate)) :
    Traced.Keeps holds (currentHolder >>= fun held => gateOf held >>= next) := by
  refine upkeep.currentHolder_bind fun held _ => ?_
  exact .bind (.bind .current fun host => .done _) keeps

/-- What is done to the directory of a holder is kept if the directory stays and is quiet. -/
theorem onDirectory_of_unchanged
    {held : Holder}
    (isFit : fit held)
    {action : Traced (Entry Response) Directory α}
    {past : List (Entry Response)}
    {host : Host}
    (same : (action (host.gate held.id).directory).state = (host.gate held.id).directory)
    (idle : ∀ entry ∈ (action (host.gate held.id).directory).trace, entry.isIdle = true)
    (holding : holds past host) :
    holds (past ++ (onDirectory held action host).trace) (onDirectory held action host).state := by
  have put :=
    upkeep.gate past host held
      { host.gate held.id with directory := (action (host.gate held.id).directory).state }
      isFit holding same
  exact upkeep.idle.append idle put

theorem register
    {held : Holder}
    (isFit : fit held)
    (action : Value)
    (component : Option ComponentName)
    (service : Option ServiceId)
    (descriptor : Option ServiceInfo) :
    Traced.Keeps holds
      (onDirectory held (Directory.register action component service descriptor)) := by
  intro past host holding
  cases isKey : ActionKey.ofValue action with
  | error fault =>
      have refused :=
        Directory.register_unusable (ρ := Response) isKey component service descriptor
          (host.gate held.id).directory
      exact upkeep.onDirectory_of_unchanged isFit (by rw [refused]) (by simp [refused]) holding
  | ok key =>
      have written :=
        upkeep.registered past host held ⟨key, component, service, descriptor⟩ isFit holding
      have registers :=
        Directory.register_usable (ρ := Response) isKey component service descriptor
          (host.gate held.id).directory
      have reportIsIdle :
          ∀ entry ∈ (Registration.reportTrace ⟨key, component, service, descriptor⟩ :
              List (Entry Response)),
            entry.isIdle = true := by
        intro entry member
        obtain ⟨line, rfl⟩ := Registration.of_mem_reportTrace member
        rfl
      have reported := upkeep.idle.append reportIsIdle written
      simpa [onDirectory, Traced.within, Host.directoryPart, registers] using reported

/-- A registration with a descriptor that is made of parts is one with a descriptor. -/
theorem perform
    {held : Holder}
    (isFit : fit held)
    (registration : ServiceRegistration) :
    Traced.Keeps holds (onDirectory held registration.perform) := by
  intro past host holding
  cases described : registration.descriptor with
  | error fault =>
      have refused :=
        ServiceRegistration.perform_refused (ρ := Response) described
          (host.gate held.id).directory
      exact upkeep.onDirectory_of_unchanged isFit (by rw [refused]) (by simp [refused]) holding
  | ok descriptor =>
      have performs :=
        ServiceRegistration.perform_described (ρ := Response) described
          (host.gate held.id).directory
      have registers :=
        upkeep.register isFit registration.action registration.component registration.service
          (some descriptor) past host holding
      simpa [onDirectory, Traced.within, Host.directoryPart, performs] using registers

theorem queryIntent
    {held : Holder}
    (isFit : fit held)
    (intent : Intent) :
    Traced.Keeps holds
      (onDirectory held (Traced.logged (Directory.queryIntent intent))) := by
  intro past host holding
  have reports :
      Traced.Keeps
        (fun past directory =>
          directory = (host.gate held.id).directory ∧
            ∀ action ∈ past, action.leavesLevels = true)
        (Directory.queryIntent intent) := by
    refine .bind .current fun directory => ?_
    refine .bind (.ofResult _) fun results => ?_
    refine .bind (fun past state reported => ⟨reported.1, fun action member => ?_⟩) fun _ =>
      .done results
    rcases List.mem_append.mp member with isPast | isReport
    · exact reported.2 action isPast
    · rw [List.mem_singleton.mp isReport]
      rfl
  obtain ⟨same, leave⟩ := reports [] _ ⟨rfl, fun _ member => absurd member List.not_mem_nil⟩
  refine upkeep.onDirectory_of_unchanged isFit same (fun entry member => ?_) holding
  obtain ⟨action, isReported, rfl⟩ := List.mem_map.mp member
  exact leave action isReported

theorem registerAt
    {held : Holder}
    (isFit : fit held)
    (given : GivenRegistration) :
    Traced.Keeps holds (registerAt held given) := by
  refine .bind (.ofResult _) fun registration => ?_
  exact .bind (upkeep.perform isFit registration) fun _ => .done _

theorem reportAdded
    (component : Option ComponentName) :
    Traced.Keeps holds (reportAdded component) := by
  cases component with
  | none =>
      exact .fail _
  | some name =>
      exact upkeep.idle.log _ _ _

theorem registerAndReport
    (given : GivenRegistration) :
    Traced.Keeps holds (registerAndReport given) := by
  refine upkeep.currentHolder_bind fun held isFit => ?_
  refine .bind (upkeep.registerAt isFit given) fun answer => ?_
  exact .bind (upkeep.reportAdded answer.1) fun _ => .done _

theorem advance
    (name : String) :
    Traced.Keeps holds (advance name) := by
  intro past host holding
  cases found : host.cursors.get? name with
  | none =>
      have fails : ContextRequest.advance name host = Traced.fail (.unknownName name) host := by
        simp [ContextRequest.advance, found]
      rw [fails]
      exact Traced.Keeps.fail _ past host holding
  | some opened =>
      rw [advance_of_opened found]
      exact upkeep.advanced past host name opened holding found

/-- Every request upholds the property, if to make a new holder does. -/
theorem answer
    {request : ContextRequest}
    (makes :
      ∀ settings injections,
        request = .holder settings injections →
          Traced.Keeps holds (Traced.logged (Host.newHolder settings injections))) :
    Traced.Keeps holds request.answer := by
  cases request with
  | holder settings injections =>
      exact .bind (makes settings injections rfl) fun _ => .done _
  | register given =>
      exact upkeep.registerAndReport given
  | registerAtGate given =>
      refine upkeep.currentHolder_bind fun held isFit => ?_
      exact .bind (upkeep.registerAt isFit given) fun _ => .done _
  | registerInDirectory action component service fields =>
      refine .bind (.ofResult _) fun descriptor => ?_
      refine upkeep.currentHolder_bind fun held isFit => ?_
      refine .bind (.ofResult _) fun name => ?_
      exact .bind (upkeep.register isFit action name service descriptor) fun _ => .done _
  | addConnectionService component service =>
      exact upkeep.registerAndReport _
  | addInCallService component service =>
      exact upkeep.registerAndReport _
  | isBound connection =>
      exact upkeep.gateOf_bind fun gate => .done _
  | session connection =>
      exact upkeep.gateOf_bind fun gate => .done _
  | changeSession connection part =>
      exact upkeep.gateOf_bind fun gate => .fail _
  | sizes =>
      exact upkeep.gateOf_bind fun gate => .done _
  | query action =>
      exact upkeep.gateOf_bind fun gate => .bind (.ofResult _) fun _ => .done _
  | resolve action =>
      exact upkeep.gateOf_bind fun gate => .bind (.ofResult _) fun _ => .done _
  | queryIntent intent =>
      refine upkeep.currentHolder_bind fun held isFit => ?_
      refine .bind (.ofResult _) fun checked => ?_
      exact .bind (upkeep.queryIntent isFit checked) fun _ => .done _
  | openCursor name action =>
      refine upkeep.currentHolder_bind fun held isFit => ?_
      intro past host holding
      exact upkeep.opened past host held name action isFit holding
  | advanceCursor name =>
      exact upkeep.advance name
  | serviceOf component =>
      exact upkeep.gateOf_bind fun gate => .bind (.ofResult _) fun _ => .done _
  | descriptorOf component =>
      exact upkeep.gateOf_bind fun gate => .bind (.ofResult _) fun _ => .done _
  | ownerOf service =>
      exact upkeep.gateOf_bind fun gate => .done _
  | listed action =>
      exact upkeep.gateOf_bind fun gate => .bind (.ofResult _) fun _ => .done _
  | contains component =>
      refine .bind (.ofResult _) fun name => ?_
      exact upkeep.gateOf_bind fun gate => .done _
  | putResource id value =>
      refine upkeep.currentHolder_bind fun held isFit => ?_
      refine .bind (.update fun past host holding => ?_) fun _ => .done _
      exact upkeep.putResource past host held id value isFit holding
  | resource id =>
      refine upkeep.currentHolder_bind fun held _ => ?_
      exact .bind (held.resource_keeps upkeep.idle id) fun _ => .done _
  | fixedAnswers =>
      exact upkeep.currentHolder_bind fun held _ => .done _
  | systemService name =>
      refine upkeep.currentHolder_bind fun held _ => ?_
      exact .bind (held.systemService_keeps upkeep.idle name) fun _ => .done _
  | contentResolver =>
      exact upkeep.currentHolder_bind fun held _ => .done _
  | contexts =>
      exact upkeep.currentHolder_bind fun held _ => .done _
  | broadcast intent =>
      refine upkeep.currentHolder_bind fun held _ => ?_
      refine .bind (.ofResult _) fun checked => ?_
      exact .bind (upkeep.idle.log _ _ _) fun _ => .done _
  | registerReceiver =>
      exact upkeep.currentHolder_bind fun held _ => .done _
  | filesDirectory temporary =>
      refine upkeep.currentHolder_bind fun held _ => ?_
      refine .bind ?_ fun _ => .done _
      exact filesReport.guarding_keeps upkeep.idle _ _ (.ofResult _)
  | contextHealth =>
      exact upkeep.gateOf_bind fun gate => .bind (.ofResult _) fun _ => .done _
  | gateHealth =>
      exact upkeep.gateOf_bind fun gate => .bind (.ofResult _) fun _ => .done _

end Host.Upkeep

end PlatformDouble
