import PlatformDouble.Host.Contexts
import PlatformDouble.Proofs.Gate.Outcomes
import PlatformDouble.Proofs.Number.Numeral
import PlatformDouble.Proofs.Traced.Keeps

namespace PlatformDouble

/-!
# Registrations that fail

Whatever is wrong with an action or a descriptor is found before anything is written, so
a registration that fails for it leaves everything as it was.  That there is no component
is found on the way only where a part of the descriptor is taken from it.  Where all parts
are given, a registration without a component is written, and then fails to be reported.
So does one under an integer of which the numeral is too long.
-/

open Context (Holder HolderId)

/-- Whatever is written, the directory is another one: there is more in a listing. -/
theorem Directory.write_ne
    (directory : Directory)
    (entry : Registration) :
    directory.write entry ≠ directory := by
  intro same
  have found := Table.get?_of_insert_eq (congrArg Directory.listings same)
  have longer :
      directory.listing entry.key = directory.listing entry.key ++ [entry.component] :=
    congrArg (fun stored => stored.getD []) found
  have sameLength := congrArg List.length longer
  simp at sameLength

/-- What is turned into a fault is what was wrong; what was right stays. -/
theorem Record.Checked.mapError_eq_ok_iff
    {α : Type}
    {checked : Record.Checked α}
    {answer : α} :
    checked.mapError Fault.ofRefusal = .ok answer ↔ checked = .ok answer := by
  cases checked with
  | error refusal =>
      refine iff_of_false ?_ ?_ <;> rintro ⟨⟩
  | ok value =>
      constructor <;>
        · rintro ⟨⟩
          rfl

namespace ServiceRegistration

/-- Of all that can be a key, only an integer can be without a text. -/
theorem isTooLong_iff
    {action : Value}
    {key : ActionKey}
    (usable : ActionKey.ofValue action = .ok key) :
    key.isDisplayable = false ↔
      ∃ number, action = .int number ∧ Number.isWritable number = false := by
  constructor
  · intro hasNoText
    cases action with
    | int number =>
        cases usable
        exact ⟨number, rfl, hasNoText⟩
    | member family label carried =>
        simp only [ActionKey.ofValue] at usable
        split at usable <;> cases usable
        cases hasNoText
    | null | bool | float | text | constant =>
        cases usable
        cases hasNoText
    | list | object =>
        cases usable
  · rintro ⟨number, rfl, isTooLong⟩
    cases usable
    exact isTooLong

/-- Without a component a part of a descriptor has to be given. -/
theorem givenOr_none
    (given : Value)
    (part : ComponentName → String) :
    givenOr given none part =
      if given.isTruthy then .ok given else .error .attributeRefused :=
  rfl

variable [Record.Validator]

/-- A registration with which nothing is wrong but that it has no component. -/
structure LacksOnlyComponent (registration : ServiceRegistration) : Prop where
  unnamed : registration.component = none
  namesPackage : registration.packageName.isTruthy = true
  namesClass : registration.className.isTruthy = true
  usable : ∃ key, ActionKey.ofValue registration.action = .ok key
  described :
    ∃ descriptor,
      ServiceInfo.ofValues registration.permission registration.packageName
        registration.className = .ok descriptor

/-- A registration of a component with which nothing is wrong but that its key has no text. -/
structure LacksOnlyText (registration : ServiceRegistration) : Prop where
  named : ∃ name, registration.component = some name
  isTooLong :
    ∃ number, registration.action = .int number ∧ Number.isWritable number = false
  described : ∃ descriptor, registration.descriptor = .ok descriptor

/-- A registration with which nothing is wrong but that it cannot be reported. -/
def LacksOnlyReport (registration : ServiceRegistration) : Prop :=
  registration.LacksOnlyComponent ∨ registration.LacksOnlyText

variable {ρ : Type} {registration : ServiceRegistration}

/-- Without a component there is a descriptor only if all parts of one are given. -/
theorem descriptor_of_unnamed
    (unnamed : registration.component = none)
    {descriptor : ServiceInfo} :
    registration.descriptor = .ok descriptor ↔
      registration.packageName.isTruthy = true ∧
        registration.className.isTruthy = true ∧
          ServiceInfo.ofValues registration.permission registration.packageName
            registration.className = .ok descriptor := by
  unfold ServiceRegistration.descriptor
  rw [unnamed, givenOr_none, givenOr_none]
  cases registration.packageName.isTruthy with
  | false =>
      simp [bind, Except.bind]
  | true =>
      cases registration.className.isTruthy with
      | false =>
          simp [bind, Except.bind]
      | true =>
          simp [bind, Except.bind, Record.Checked.mapError_eq_ok_iff]

/-- A registration lacks only a component if its action and its descriptor are good. -/
theorem lacksOnlyComponent_of_good
    {key : ActionKey}
    {descriptor : ServiceInfo}
    (unnamed : registration.component = none)
    (usable : ActionKey.ofValue registration.action = .ok key)
    (described : registration.descriptor = .ok descriptor) :
    registration.LacksOnlyComponent := by
  obtain ⟨namesPackage, namesClass, valid⟩ := (descriptor_of_unnamed unnamed).mp described
  exact ⟨unnamed, namesPackage, namesClass, ⟨key, usable⟩, ⟨descriptor, valid⟩⟩

theorem LacksOnlyComponent.exists_descriptor
    (lacks : registration.LacksOnlyComponent) :
    ∃ descriptor, registration.descriptor = .ok descriptor := by
  obtain ⟨descriptor, valid⟩ := lacks.described
  have described :=
    (descriptor_of_unnamed lacks.unnamed).mpr ⟨lacks.namesPackage, lacks.namesClass, valid⟩
  exact ⟨descriptor, described⟩

namespace LacksOnlyReport

theorem exists_descriptor
    (lacks : registration.LacksOnlyReport) :
    ∃ descriptor, registration.descriptor = .ok descriptor :=
  lacks.elim LacksOnlyComponent.exists_descriptor LacksOnlyText.described

theorem exists_key
    (lacks : registration.LacksOnlyReport) :
    ∃ key, ActionKey.ofValue registration.action = .ok key := by
  rcases lacks with unnamed | textless
  · exact unnamed.usable
  · obtain ⟨number, isAction, -⟩ := textless.isTooLong
    rw [isAction]
    exact ⟨_, rfl⟩

/-- What lacks only its report is not reported. -/
theorem not_reported
    (lacks : registration.LacksOnlyReport)
    {key : ActionKey}
    {name : ComponentName}
    (usable : ActionKey.ofValue registration.action = .ok key)
    (named : registration.component = some name) :
    key.isDisplayable = false := by
  rcases lacks with unnamed | textless
  · rw [unnamed.unnamed] at named
    cases named
  · exact (isTooLong_iff usable).mpr textless.isTooLong

end LacksOnlyReport

/-- The ways in which a registration can go. -/
inductive Goes
    (registration : ServiceRegistration)
    (directory : Directory)
    (outcome : Outcome (Entry ρ) Directory ServiceInfo) :
    Prop where
  | refused
      {fault : Fault}
      (isFaulty : ¬ registration.LacksOnlyReport)
      (fails : outcome.result = .error fault)
      (same : outcome.state = directory)
  | written
      {name : ComponentName}
      {descriptor : ServiceInfo}
      (named : registration.component = some name)
      (isReported : ¬ registration.LacksOnlyReport)
      (answers : outcome.result = .ok descriptor)
  /-- It fails, but it was written. -/
  | halfDone
      {fault : Fault}
      (lacks : registration.LacksOnlyReport)
      (fails : outcome.result = .error fault)
      (differs : outcome.state ≠ directory)

theorem perform_goes
    (registration : ServiceRegistration)
    (directory : Directory) :
    registration.Goes directory
      ((registration.perform : Traced (Entry ρ) Directory ServiceInfo) directory) := by
  cases described : registration.descriptor with
  | error fault =>
      rw [perform_refused described]
      refine .refused (fun lacks => ?_) rfl rfl
      obtain ⟨descriptor, isDescribed⟩ := lacks.exists_descriptor
      rw [described] at isDescribed
      cases isDescribed
  | ok descriptor =>
      rw [perform_described described]
      cases usable : ActionKey.ofValue registration.action with
      | error fault =>
          rw [Directory.register_unusable usable]
          refine .refused (fun lacks => ?_) rfl rfl
          obtain ⟨key, isUsable⟩ := lacks.exists_key
          rw [usable] at isUsable
          cases isUsable
      | ok key =>
          rw [Directory.register_usable usable]
          cases named : registration.component with
          | none =>
              have lacks := lacksOnlyComponent_of_good named usable described
              exact .halfDone (.inl lacks) rfl (directory.write_ne _)
          | some name =>
              cases hasText : key.isDisplayable with
              | true =>
                  refine .written named (fun lacks => ?_) (?_ : _ = Except.ok descriptor)
                  · rw [lacks.not_reported usable named] at hasText
                    cases hasText
                  · simp only [Registration.reportLine, hasText]
                    rfl
              | false =>
                  have lacks : registration.LacksOnlyText :=
                    ⟨⟨name, named⟩, (isTooLong_iff usable).mp hasText, ⟨descriptor, described⟩⟩
                  refine .halfDone (.inr lacks) (?_ : _ = Except.error Fault.numeralTooLong)
                    (directory.write_ne _)
                  simp only [Registration.reportLine, hasText]
                  rfl

/-- A registration that succeeds has a component. -/
theorem Goes.exists_component
    {directory : Directory}
    {outcome : Outcome (Entry ρ) Directory ServiceInfo}
    {descriptor : ServiceInfo}
    (goes : registration.Goes directory outcome)
    (succeeds : outcome.result = .ok descriptor) :
    ∃ name, registration.component = some name := by
  cases goes with
  | refused isFaulty fails same =>
      rw [fails] at succeeds
      cases succeeds
  | written named isReported answers =>
      exact ⟨_, named⟩
  | halfDone lacks fails differs =>
      rw [fails] at succeeds
      cases succeeds

end ServiceRegistration

/-- Hosts that have the same settings, the same holder, the same gates and the same cursors. -/
structure Host.SameAs (host other : Host) : Prop where
  config : other.config = host.config
  current : other.current = host.current
  gate : ∀ id, other.gate id = host.gate id
  cursors : other.cursors = host.cursors

/-- To put a directory changes a host exactly if it is not the one that was there. -/
theorem Host.sameAs_put_iff
    {host : Host}
    {id : HolderId}
    {directory : Directory} :
    host.SameAs ((directoryPart id).put directory host) ↔
      directory = (host.gate id).directory := by
  constructor
  · intro same
    have read := (directoryPart id).get_put directory host
    exact read.symm.trans (congrArg Gate.directory (same.gate id))
  · rintro rfl
    refine ⟨rfl, rfl, fun other => ?_, rfl⟩
    by_cases isOther : id = other
    · subst isOther
      exact (gatePart id).get_put (host.gate id) host
    · show Option.getD ((host.gates.insert id _).get? other) Gate.empty = _
      rw [Table.get?_insert_of_ne _ _ isOther]
      rfl

namespace ContextRequest

variable
  [Record.Validator]
  {host : Host}
  {held : Holder}
  {given : GivenRegistration}
  {registration : ServiceRegistration}

/-- A request that fails leaves the host as it was. -/
def AllOrNothing (request : ContextRequest) (host : Host) : Prop :=
  (∃ fault, (request.answer host).result = .error fault) →
    host.SameAs (request.answer host).state

/-- What a registration comes to in the directory of a holder. -/
def outcomeAt (registration : ServiceRegistration) (held : Holder) (host : Host) :
    Outcome (Entry Response) Directory ServiceInfo :=
  registration.perform (host.gate held.id).directory

/-- What is registered at the gate of a holder is registered in its directory. -/
theorem registerAt_eq
    (checked : given.check = .ok registration)
    (held : Holder)
    (host : Host) :
    registerAt held given host =
      { trace := (outcomeAt registration held host).trace
        state := (Host.directoryPart held.id).put (outcomeAt registration held host).state host
        result :=
          (outcomeAt registration held host).result.map fun descriptor =>
            (registration.component, descriptor) } := by
  unfold registerAt
  rw [checked, Traced.ofChecked_ok, Traced.done_bind, Traced.bind_pure]
  rfl

/-- All that a request does is to register, and it fails if that fails. -/
structure Registers
    (request : ContextRequest)
    (registration : ServiceRegistration)
    (held : Holder)
    (host : Host) :
    Prop where
  state :
    (request.answer host).state =
      (Host.directoryPart held.id).put (outcomeAt registration held host).state host
  fails :
    (∃ fault, (request.answer host).result = .error fault) ↔
      ∃ fault, (outcomeAt registration held host).result = .error fault

theorem Registers.allOrNothing_iff
    {request : ContextRequest}
    (registers : request.Registers registration held host) :
    request.AllOrNothing host ↔ ¬ registration.LacksOnlyReport := by
  unfold AllOrNothing
  rw [registers.state, Host.sameAs_put_iff, registers.fails, outcomeAt]
  cases registration.perform_goes (ρ := Response) (host.gate held.id).directory with
  | refused isFaulty fails same =>
      exact iff_of_true (fun _ => same) isFaulty
  | written named isReported answers =>
      refine iff_of_true (fun ⟨fault, fails⟩ => ?_) isReported
      rw [answers] at fails
      cases fails
  | halfDone lacks fails differs =>
      exact iff_of_false (fun same => differs (same ⟨_, fails⟩)) (not_not_intro lacks)

theorem registerAtGate_registers
    (isCurrent : host.current = some held)
    (checked : given.check = .ok registration) :
    (ContextRequest.registerAtGate given).Registers registration held host := by
  have answers :
      (ContextRequest.registerAtGate given).answer host =
        (registerAt held given >>= fun answer =>
          pure (Reply.descriptor (some answer.2)) : Step Reply) host :=
    currentHolder_bind_of_some isCurrent _
  rw [Traced.bind_pure, registerAt_eq checked] at answers
  constructor
  · rw [answers]
  · rw [answers]
    cases (outcomeAt registration held host).result <;> simp [Except.map]

theorem register_registers
    (isCurrent : host.current = some held)
    (checked : given.check = .ok registration) :
    (ContextRequest.register given).Registers registration held host := by
  have answers :
      (ContextRequest.register given).answer host =
        (registerAt held given >>= fun answer => reportAdded answer.1 >>= fun _ =>
          pure (Reply.descriptor (some answer.2)) : Step Reply) host :=
    currentHolder_bind_of_some isCurrent _
  have registers := registerAt_eq checked held host
  cases ended : (outcomeAt registration held host).result with
  | error fault =>
      have fails : (registerAt held given host).result = .error fault := by
        rw [registers, ended]
        rfl
      rw [Traced.bind_of_error fails, registers] at answers
      constructor
      · rw [answers]
      · rw [answers, ended]
        exact iff_of_true ⟨fault, rfl⟩ ⟨fault, rfl⟩
  | ok descriptor =>
      -- A registration is reported by the name of its component, and this one has a name.
      obtain ⟨name, named⟩ :=
        ServiceRegistration.Goes.exists_component (registration.perform_goes _) ended
      have succeeds :
          (registerAt held given host).result = .ok (some name, descriptor) := by
        rw [registers, ended, named]
        rfl
      rw [Traced.bind_of_ok succeeds, Traced.bind_pure, registers] at answers
      constructor
      · rw [answers]
        rfl
      · rw [answers, ended]
        refine iff_of_false ?_ ?_ <;> rintro ⟨fault, ⟨⟩⟩

/--
A registration that fails, through a holder or at its gate, leaves everything as it was,
unless nothing was wrong with it but that it cannot be reported: that it has no component,
or that its action is an integer without a text.
-/
theorem registration_allOrNothing_iff
    (isCurrent : host.current = some held)
    (checked : given.check = .ok registration) :
    ((ContextRequest.register given).AllOrNothing host ↔ ¬ registration.LacksOnlyReport) ∧
      ((ContextRequest.registerAtGate given).AllOrNothing host ↔
        ¬ registration.LacksOnlyReport) :=
  ⟨(register_registers isCurrent checked).allOrNothing_iff,
    (registerAtGate_registers isCurrent checked).allOrNothing_iff⟩

end ContextRequest

namespace ContextRequest

/-- A registration without a component, of which the descriptor is given in full. -/
def unnamed (action : Value) : GivenRegistration where
  action := action
  component := none
  service := some ⟨"s"⟩
  packageName := .text "p"
  className := .text "p.C"

/-- Under an action that cannot be a key it is refused, and nothing is written. -/
theorem registration_allOrNothing_unusable :
    let host := (Host.makeHolder {} {} (Host.initial (.initial [] Table.empty))).state
    (∃ held, host.current = some held) ∧
      (∃ registration, (unnamed (.list [])).check = .ok registration) ∧
        (ContextRequest.register (unnamed (.list []))).AllOrNothing host ∧
          (ContextRequest.registerAtGate (unnamed (.list []))).AllOrNothing host := by
  intro host
  obtain ⟨isCurrent, -⟩ :=
    Host.makeHolder_isFresh {} {} (Host.initial (.initial [] Table.empty)) rfl
  obtain ⟨throughHolder, atGate⟩ :=
    registration_allOrNothing_iff isCurrent (rfl : (unnamed (.list [])).check = _)
  refine ⟨⟨_, isCurrent⟩, ⟨_, rfl⟩, throughHolder.mpr ?_, atGate.mpr ?_⟩ <;>
    · intro lacks
      obtain ⟨key, ⟨⟩⟩ := lacks.exists_key

/-- Under any other it is written, though it fails. -/
theorem not_allOrNothing_unnamed :
    let host := (Host.makeHolder {} {} (Host.initial (.initial [] Table.empty))).state
    ¬ (ContextRequest.register (unnamed (.text "A"))).AllOrNothing host ∧
      ¬ (ContextRequest.registerAtGate (unnamed (.text "A"))).AllOrNothing host := by
  intro host
  obtain ⟨isCurrent, -⟩ :=
    Host.makeHolder_isFresh {} {} (Host.initial (.initial [] Table.empty)) rfl
  have checked : (unnamed (.text "A")).check = _ := rfl
  have throughHolder := (register_registers isCurrent checked).allOrNothing_iff
  have atGate := (registerAtGate_registers isCurrent checked).allOrNothing_iff
  rw [throughHolder, atGate]
  constructor <;>
    exact not_not_intro (.inl ⟨rfl, rfl, rfl, ⟨_, rfl⟩, ⟨_, rfl⟩⟩)

/-- So is any other under an integer that is too long to be written out. -/
theorem not_allOrNothing_textless :
    let host := (Host.makeHolder {} {} (Host.initial (.initial [] Table.empty))).state
    let given : GivenRegistration :=
      { unnamed (.int (Nat.pow 10 Number.digitLimit)) with
        component := some (.text "p", .text "p.C") }
    ¬ (ContextRequest.register given).AllOrNothing host ∧
      ¬ (ContextRequest.registerAtGate given).AllOrNothing host := by
  intro host given
  obtain ⟨isCurrent, -⟩ :=
    Host.makeHolder_isFresh {} {} (Host.initial (.initial [] Table.empty)) rfl
  have checked : given.check = _ := rfl
  have isTooLong : Number.isWritable (Nat.pow 10 Number.digitLimit) = false := by
    rw [Number.isWritable, Int.natAbs_natCast, Number.digitCount_pow_ten]
    exact decide_eq_false (Nat.not_succ_le_self _)
  have throughHolder := (register_registers isCurrent checked).allOrNothing_iff
  have atGate := (registerAtGate_registers isCurrent checked).allOrNothing_iff
  rw [throughHolder, atGate]
  constructor <;>
    exact not_not_intro (.inr ⟨⟨_, rfl⟩, ⟨_, rfl, isTooLong⟩, ⟨_, rfl⟩⟩)

end ContextRequest

end PlatformDouble
