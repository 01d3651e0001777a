import PlatformDouble.Host.Contexts
import PlatformDouble.Proofs.Gate.Enrolment

namespace PlatformDouble

/-!
# Services in the roles of the platform

For each of two roles the platform has an action and a permission.  A service is
added in a role under its action and with its permission.  Listings go by action,
but a descriptor belongs to the component: a component that is added in both roles is
found under both actions, with the permission of the role it was added in last.
-/

open Context (Holder)

namespace ContextRequest

/-- A registration of a component with a good descriptor is written and answers it. -/
theorem registerAndReport_described
    [Record.Validator]
    {host : Host}
    {held : Holder}
    {given : GivenRegistration}
    {registration : ServiceRegistration}
    {key : ActionKey}
    {component : ComponentName}
    {descriptor : ServiceInfo}
    (isCurrent : host.current = some held)
    (checked : given.check = .ok registration)
    (usable : ActionKey.ofValue registration.action = .ok key)
    (hasText : key.isDisplayable = true)
    (named : registration.component = some component)
    (described : registration.descriptor = .ok descriptor) :
    let outcome := registerAndReport given host
    let directory := (host.gate held.id).directory
    outcome.state =
        (Host.directoryPart held.id).put
          (directory.write ⟨key, some component, registration.service, some descriptor⟩)
          host ∧
      outcome.result = .ok (.descriptor (some descriptor)) := by
  have registers :=
    ServiceRegistration.perform_described (ρ := Response) described
      (host.gate held.id).directory
  rw [named, Directory.register_named usable hasText] at registers
  simp [registerAndReport, registerAt, onDirectory, reportAdded, Bind.bind, Traced.andThen,
    currentHolder_of_some isCurrent, checked, Traced.ofChecked_ok, Traced.within,
    Host.directoryPart, registers, named, Except.map, pure, Traced.done, Traced.logged,
    Traced.retrace, Traced.log, Traced.emit]

end ContextRequest

/-- The roles for which the platform has an action and a permission. -/
inductive PlatformRole where
  | connection
  | inCall
  deriving Repr, DecidableEq

namespace PlatformRole

/-- The action under which services in a role are listed. -/
def action : PlatformRole → PlatformConstant
  | connection => .connectionService
  | inCall => .inCallService

/-- The permission that guards services in a role. -/
def permission : PlatformRole → PlatformConstant
  | connection => .bindConnectionService
  | inCall => .bindInCallService

theorem action_value_beq
    (first second : PlatformRole) :
    (first.action.value == second.action.value) = (first == second) := by
  cases first <;> cases second <;> decide

theorem permission_value_inj
    {first second : PlatformRole} :
    first.permission.value = second.permission.value ↔ first = second := by
  cases first <;> cases second <;> decide

end PlatformRole

/-- The request to add a service in a role. -/
structure Addition where
  role : PlatformRole
  component : ComponentName
  service : Option ServiceId

namespace Addition

def request (addition : Addition) : ContextRequest :=
  let component : GivenComponent :=
    some (.text addition.component.packageName, .text addition.component.className)
  match addition.role with
  | .connection => .addConnectionService component addition.service
  | .inCall => .addInCallService component addition.service

/-- The descriptor of an added service: it has the permission of its role. -/
def descriptor (addition : Addition) : ServiceInfo where
  permission := some addition.role.permission.value
  packageName := addition.component.packageName
  name := addition.component.className

/-- An addition is an enrolment under the action of its role. -/
def enrolment (addition : Addition) : Enrolment where
  key := addition.role.action.value
  component := addition.component
  service := addition.service
  descriptor := addition.descriptor

/-- The additions in a role. -/
def inRole (role : PlatformRole) (additions : List Addition) : List Addition :=
  additions.filter fun addition => addition.role == role

theorem enrolment_inRole
    (role : PlatformRole)
    (additions : List Addition) :
    Enrolment.under role.action.value (additions.map enrolment) =
      (inRole role additions).map enrolment := by
  unfold Enrolment.under inRole
  rw [List.filter_map]
  congr 1
  exact List.filter_congr fun addition _ =>
    PlatformRole.action_value_beq addition.role role

theorem enrolment_lastBy
    (additions : List Addition)
    (name : ComponentName) :
    lastBy Enrolment.component (additions.map enrolment) name =
      (lastBy component additions name).map enrolment :=
  lastBy_map Enrolment.component enrolment additions name

/-- What an addition asks to be registered. -/
def registration (addition : Addition) : ServiceRegistration where
  action := .constant addition.role.action
  component := some addition.component
  service := addition.service
  permission := .constant addition.role.permission

variable [Record.Validator]

theorem descriptor_registration
    (addition : Addition) :
    addition.registration.descriptor = .ok addition.descriptor :=
  congrArg (Except.mapError Fault.ofRefusal) (ServiceInfo.ofValues_constant _ _ _)

/-- An addition is written to the directory of the current holder and answers its descriptor. -/
theorem answer_request
    (addition : Addition)
    {host : Host}
    {held : Holder}
    (isCurrent : host.current = some held) :
    let outcome := addition.request.answer host
    let directory := (host.gate held.id).directory
    outcome.state =
        (Host.directoryPart held.id).put (directory.write addition.enrolment.registration)
          host ∧
      outcome.result = .ok (.descriptor (some addition.descriptor)) := by
  have described := descriptor_registration addition
  rcases addition with ⟨role, component, service⟩
  cases role with
  | connection =>
      exact ContextRequest.registerAndReport_described isCurrent
        (GivenRegistration.check_text component rfl) rfl rfl rfl described
  | inCall =>
      exact ContextRequest.registerAndReport_described isCurrent
        (GivenRegistration.check_text component rfl) rfl rfl rfl described

/-- Add services one after another. -/
def performAll (additions : List Addition) :
    ContextRequest.Step (List (Except Fault Reply)) :=
  Traced.forEach additions fun addition => Traced.attempt addition.request.answer

/-- Added services are all written to the directory of the current holder, in order. -/
theorem performAll_writes
    {host : Host}
    {held : Holder}
    (isCurrent : host.current = some held)
    (starts : (host.gate held.id).directory = {})
    (additions : List Addition) :
    let outcome := performAll additions host
    (outcome.state.current = some held ∧
      (outcome.state.gate held.id).directory =
        Directory.ofHistory ((additions.map enrolment).map Enrolment.registration)) ∧
      outcome.result =
        .ok (additions.map fun addition => .ok (.descriptor (some addition.descriptor))) := by
  refine Traced.forEach_attempt
    (fun performed (host : Host) =>
      host.current = some held ∧
        (host.gate held.id).directory =
          Directory.ofHistory ((performed.map enrolment).map Enrolment.registration))
    ?_ [] additions ⟨isCurrent, starts⟩
  -- An addition goes to the holder that is current, and leaves it current.
  rintro earlier addition state ⟨stillCurrent, written⟩
  obtain ⟨left, result⟩ := addition.answer_request stillCurrent
  refine ⟨⟨?_, ?_⟩, result⟩
  · rw [left]
    exact stillCurrent
  · have directory :=
      (Host.directoryPart held.id).get_put
        ((state.gate held.id).directory.write addition.enrolment.registration) state
    rw [left, List.map_append, List.map_append, List.map_singleton, List.map_singleton,
      Directory.ofHistory_append_singleton, ← written]
    exact directory

end Addition

namespace PlatformRole

/-- The request for what is found in a role. -/
def query (role : PlatformRole) : ContextRequest :=
  .query (.constant role.action)

/-- A query is answered from the directory of the current holder. -/
theorem answer_query
    [Record.Validator]
    (role : PlatformRole)
    {host : Host}
    {held : Holder}
    {found : List ServiceInfo}
    (isCurrent : host.current = some held)
    (finds :
      (host.gate held.id).directory.descriptorsFor (.constant role.action) = .ok found) :
    (role.query.answer host).result = .ok (.descriptors found) := by
  simp [query, ContextRequest.answer, ContextRequest.gateOf, Bind.bind, Traced.andThen,
    ContextRequest.currentHolder_of_some isCurrent, Traced.current, Traced.ofResult, finds,
    pure, Traced.done]

end PlatformRole

/-- Whatever is found in a role has the permission of the role. -/
def PlatformRole.KeepsPermission [Record.Validator] (role : PlatformRole) (host : Host) : Prop :=
  ∀ found,
    (role.query.answer host).result = .ok (.descriptors found) →
      ∀ descriptor ∈ found, descriptor.permission = some role.permission.value

namespace Addition

/-- Every component that was added in a role was last added in that role. -/
def StayIn (role : PlatformRole) (additions : List Addition) : Prop :=
  ∀ addition ∈ additions, addition.role = role →
    ∀ last, lastBy component additions addition.component = some last → last.role = role

instance (role : PlatformRole) (additions : List Addition) :
    Decidable (StayIn role additions) :=
  inferInstanceAs <|
    Decidable <|
      ∀ addition ∈ additions, addition.role = role →
        ∀ last, lastBy component additions addition.component = some last → last.role = role

/-- The descriptors found in a role are those of the last additions of its components. -/
def Describe (role : PlatformRole) (additions : List Addition) (found : List ServiceInfo) :
    Prop :=
  found.map some =
    (inRole role additions).map fun addition =>
      (lastBy component additions addition.component).map descriptor

variable {role : PlatformRole} {additions : List Addition} {found : List ServiceInfo}

theorem Describe.mem_iff
    (describe : Describe role additions found)
    (info : ServiceInfo) :
    info ∈ found ↔
      ∃ addition ∈ additions, addition.role = role ∧
        ∃ last, lastBy component additions addition.component = some last ∧
          last.descriptor = info := by
  rw [← List.mem_map_of_injective (Option.some_injective ServiceInfo), describe]
  simp [inRole, and_assoc]

theorem Describe.permission_iff
    (describe : Describe role additions found) :
    (∀ info ∈ found, info.permission = some role.permission.value) ↔
      StayIn role additions := by
  constructor
  · intro keeps addition member inThisRole last isLast
    have isFound : last.descriptor ∈ found :=
      (describe.mem_iff _).mpr ⟨addition, member, inThisRole, last, isLast, rfl⟩
    exact PlatformRole.permission_value_inj.mp (Option.some.inj (keeps _ isFound))
  · intro stays info member
    obtain ⟨addition, isAdded, inThisRole, last, isLast, rfl⟩ :=
      (describe.mem_iff info).mp member
    rw [descriptor, stays addition isAdded inThisRole last isLast]

/-- After any additions a query in a role finds the descriptors of their components. -/
theorem exists_found
    [Record.Validator]
    {host : Host}
    {held : Holder}
    (isCurrent : host.current = some held)
    (starts : (host.gate held.id).directory = {})
    (additions : List Addition)
    (role : PlatformRole) :
    ∃ found,
      (role.query.answer (performAll additions host).state).result =
          .ok (.descriptors found) ∧
        Describe role additions found := by
  obtain ⟨⟨stillCurrent, written⟩, -⟩ := performAll_writes isCurrent starts additions
  obtain ⟨found, finds, each⟩ :=
    Directory.descriptorsFor_ofEnrolments (additions.map enrolment) (.constant role.action)
      role.action.value rfl
  rw [← written] at finds
  refine ⟨found, role.answer_query stillCurrent finds, ?_⟩
  rw [Describe, each, enrolment_inRole, List.map_map]
  refine List.map_congr_left fun addition _ => ?_
  show (lastBy Enrolment.component (additions.map enrolment) addition.component).map _ = _
  rw [enrolment_lastBy, Option.map_map]
  rfl

/--
After any additions a query in a role finds one descriptor for each addition in the
role, in order: that of the last addition of its component.  So all of them have the
permission of the role exactly if every component that was added in the role was last
added in that role.
-/
theorem performAll_finds
    [Record.Validator]
    {host : Host}
    {held : Holder}
    (isCurrent : host.current = some held)
    (starts : (host.gate held.id).directory = {})
    (additions : List Addition)
    (role : PlatformRole) :
    let left := (performAll additions host).state
    (∃ found,
      (role.query.answer left).result = .ok (.descriptors found) ∧
        Describe role additions found) ∧
      (role.KeepsPermission left ↔ StayIn role additions) := by
  obtain ⟨found, answered, describe⟩ := exists_found isCurrent starts additions role
  refine ⟨⟨found, answered, describe⟩, ?_⟩
  rw [← describe.permission_iff]
  constructor
  · intro keeps
    exact keeps found answered
  · intro keeps others othersAnswered
    rw [answered] at othersAnswered
    cases othersAnswered
    exact keeps

/-- One component, added in both roles one after the other. -/
def inBothRoles : List Addition :=
  [⟨.connection, ⟨"p", "C"⟩, some ⟨"s"⟩⟩, ⟨.inCall, ⟨"p", "C"⟩, some ⟨"s"⟩⟩]

/-- A host with a holder that was just made. -/
def freshHost : Host :=
  (Host.makeHolder {} {} (Host.initial (.initial [] Table.empty))).state

/-- A component added in both roles is found in both, with the permission of the later one. -/
theorem performAll_finds_inBothRoles :
    let left := (performAll inBothRoles freshHost).state
    (∃ found,
      (PlatformRole.connection.query.answer left).result = .ok (.descriptors found) ∧
        found.map some = [some ⟨some PlatformRole.inCall.permission.value, "p", "C"⟩]) ∧
      PlatformRole.inCall.KeepsPermission left := by
  intro left
  obtain ⟨isCurrent, isEmpty⟩ :=
    Host.makeHolder_isFresh {} {} (Host.initial (.initial [] Table.empty)) rfl
  have starts := congrArg Gate.directory isEmpty
  refine ⟨(performAll_finds isCurrent starts inBothRoles .connection).1, ?_⟩
  refine (performAll_finds isCurrent starts inBothRoles .inCall).2.mpr ?_
  decide

/-- What is found in the earlier role then lacks the permission of that role. -/
theorem not_keepsPermission_inBothRoles :
    ¬ PlatformRole.connection.KeepsPermission (performAll inBothRoles freshHost).state := by
  intro keeps
  have kept :=
    keeps [⟨some PlatformRole.inCall.permission.value, "p", "C"⟩] rfl _ List.mem_cons_self
  revert kept
  decide

end Addition

end PlatformDouble
