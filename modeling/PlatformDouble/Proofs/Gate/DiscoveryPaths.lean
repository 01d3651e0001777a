import PlatformDouble.Proofs.Gate.Enrolment

namespace PlatformDouble

/-!
# Paths of discovery

What answers an action can be asked in three ways: by an intent for the action, for the
descriptors under it, and for the components listed under it.  An intent spells the action
by the rule for texts in records and a listing by the rule for keys, and these are the same
for every action that has a name.  So the three find the same, each in its own form; and
where the action has no key, all of them fail.

There is one set of services for all users, so to ask as one of them is to ask.
-/

/-- The value of an action that may be missing. -/
def ActionName.valueOf : Option ActionName → Value
  | some action => action.toValue
  | none => .null

/-- The text of an action that may be missing, if it has one. -/
def ActionName.keyOf : Option ActionName → Except Fault (Option String)
  | some action => action.key.map some
  | none => .ok none

namespace Directory

variable {directory : Directory} {components : List ComponentName}

/-- The text of an action lists what the action itself lists. -/
theorem listed_text
    (directory : Directory)
    {action : Option ActionName}
    {key : Option String}
    (isKey : ActionName.keyOf action = .ok key) :
    directory.listed (Value.ofText? key) = directory.listed (ActionName.valueOf action) := by
  cases action with
  | none =>
      cases isKey
      rfl
  | some action =>
      have isListed := listed_toValue directory action
      cases named : action.key with
      | ok text =>
          rw [ActionName.keyOf, named] at isKey
          cases isKey
          rw [named] at isListed
          exact isListed.symm
      | error fault =>
          rw [ActionName.keyOf, named] at isKey
          cases isKey

/-- The result for a component that is listed. -/
def resultFor (directory : Directory) (component : ComponentName) : ResolveInfo where
  serviceInfo := directory.descriptor? (some component)
  component := component

theorem resolve_of_listed
    {action : Value}
    (isListed : directory.listed action = .ok (components.map some)) :
    directory.resolve action = .ok (components.map directory.resultFor) := by
  unfold resolve
  rw [isListed]
  exact directory.resolveAll_map_some components

/-- An intent is answered by what its action resolves to, and changes nothing. -/
theorem queryIntent_of_resolve
    {intent : Intent}
    {results : List ResolveInfo}
    (resolves : directory.resolve (Value.ofText? intent.action) = .ok results) :
    queryIntent intent directory =
      { trace := [.record Logging.resolverLogger .debug
          ("Resolved " ++ (Value.ofText? intent.action).display ++ " to " ++
            Number.naturalText results.length ++ " service(s)")]
        state := directory
        result := .ok results } := by
  simp [queryIntent, Bind.bind, Traced.andThen, Traced.current, Traced.ofResult, resolves,
    Traced.log, Traced.emit, Traced.done]

end Directory

variable [Record.Validator]

/-- An intent for an action has the text under which the action lists components. -/
theorem ActionName.forAction_valueOf
    (action : Option ActionName) :
    (Intent.forAction (valueOf action)).mapError Fault.ofRefusal =
      (keyOf action).map fun key => { action := key, component := none } := by
  rcases action with - | ⟨text⟩ | ⟨constant⟩ | ⟨family, label, carried⟩
  · rfl
  · simp only [valueOf, toValue, Intent.forAction, Record.Checked.nullable,
      Record.Validator.text_text]
    rfl
  · simp only [valueOf, toValue, Intent.forAction, Record.Checked.nullable,
      Record.Validator.text_constant]
    rfl
  · simp only [valueOf, toValue, keyOf, key, Intent.forAction, Record.Checked.nullable,
      Record.Validator.text_member]
    split <;> rfl

namespace Directory

/-- What an intent finds for an action agrees with what is listed and what is described. -/
structure Discovers
    (directory : Directory)
    (action : Value)
    (intent : Intent)
    (results : List ResolveInfo) :
    Prop where
  isFor : Intent.forAction action = .ok intent
  answers : (queryIntent intent directory).result = .ok results
  /-- To ask changes nothing, so it can be asked again. -/
  keeps : (queryIntent intent directory).state = directory
  /-- To ask as a user is to ask. -/
  answersUser :
    ∀ user,
      (queryIntentAsUser intent user directory).result = .ok results ∧
        (queryIntentAsUser intent user directory).state = directory
  listed :
    directory.listed action = .ok ((results.map ResolveInfo.component).map some)
  /-- There is a descriptor for every result, and these are all that are found. -/
  described :
    ∃ found,
      directory.descriptorsFor action = .ok found ∧
        results.map ResolveInfo.serviceInfo = found.map some

/-- All paths of discovery find the same for an action, or fail in the same way. -/
structure PathsAgree (directory : Directory) (action : Option ActionName) : Prop where
  found :
    ∀ key,
      ActionName.keyOf action = .ok key →
        ∃ results,
          directory.Discovers (ActionName.valueOf action) { action := key, component := none }
            results
  failed :
    ∀ fault,
      ActionName.keyOf action = .error fault →
        (Intent.forAction (ActionName.valueOf action)).mapError Fault.ofRefusal =
            .error fault ∧
          directory.listed (ActionName.valueOf action) = .error fault ∧
            directory.descriptorsFor (ActionName.valueOf action) = .error fault

variable {directory : Directory} {components : List ComponentName}

/-- Where every listed component has a descriptor, all paths of discovery agree. -/
theorem discovers_of_described
    {action : Option ActionName}
    {key : Option String}
    (isKey : ActionName.keyOf action = .ok key)
    (isListed : directory.listed (ActionName.valueOf action) = .ok (components.map some))
    (areDescribed :
      ∀ component ∈ components, (directory.descriptor? (some component)).isSome = true) :
    directory.Discovers (ActionName.valueOf action)
      { action := key, component := none }
      (components.map directory.resultFor) := by
  let intent : Intent := { action := key, component := none }
  have resolves :
      directory.resolve (Value.ofText? intent.action) =
        .ok (components.map directory.resultFor) :=
    resolve_of_listed ((listed_text directory isKey).trans isListed)
  have asks := queryIntent_of_resolve resolves
  obtain ⟨found, isFound, each⟩ := exists_descriptorsFor isListed areDescribed
  have isFor := ActionName.forAction_valueOf action
  rw [isKey] at isFor
  exact {
    isFor := by
      cases made : Intent.forAction (ActionName.valueOf action) with
      | ok intent =>
          rw [made] at isFor
          cases isFor
          rfl
      | error refusal =>
          rw [made] at isFor
          cases isFor
    answers := congrArg Outcome.result asks
    keeps := congrArg Outcome.state asks
    answersUser := by
      intro user
      rw [queryIntentAsUser_eq]
      exact ⟨congrArg Outcome.result asks, congrArg Outcome.state asks⟩
    listed := by
      rw [isListed, List.map_map]
      simp [resultFor, Function.comp_def]
    described := by
      refine ⟨found, isFound, ?_⟩
      rw [each, List.map_map]
      rfl }

theorem not_discovered_of_keyless
    (directory : Directory)
    {action : Option ActionName}
    {fault : Fault}
    (isKeyless : ActionName.keyOf action = .error fault) :
    (Intent.forAction (ActionName.valueOf action)).mapError Fault.ofRefusal = .error fault ∧
      directory.listed (ActionName.valueOf action) = .error fault ∧
        directory.descriptorsFor (ActionName.valueOf action) = .error fault := by
  refine ⟨by rw [ActionName.forAction_valueOf, isKeyless]; rfl, ?_⟩
  cases action with
  | none =>
      cases isKeyless
  | some action =>
      have named : action.key = .error fault := by
        cases named : action.key with
        | ok key =>
            rw [ActionName.keyOf, named] at isKeyless
            cases isKeyless
        | error other =>
            rw [ActionName.keyOf, named] at isKeyless
            cases isKeyless
            rfl
      have isListed := listed_toValue directory action
      rw [named] at isListed
      exact ⟨isListed, descriptorsFor_of_keyless directory action fault named⟩

end Directory

/--
After any calls that enrol, an intent for an action finds the components listed under the
action, in their order, each with its descriptor, and these are the descriptors that are
found for the action.  So does an intent of a user.
-/
theorem EnrolmentCall.performAll_discovers
    {ρ : Type}
    (calls : List EnrolmentCall)
    (action : Option ActionName) :
    ((performAll calls : Traced (Entry ρ) Directory _) {}).state.PathsAgree action where
  found := by
    intro key isKey
    rw [(performAll_writes calls).1]
    cases action with
    | none =>
        have noneDescribed :
            ∀ component ∈ ([] : List ComponentName),
              ((Directory.ofHistory
                ((enrolments calls).map Enrolment.registration)).descriptor?
                  (some component)).isSome = true := by
          simp
        exact ⟨_, Directory.discovers_of_described isKey rfl noneDescribed⟩
    | some action =>
        have isListed := Directory.listed_ofEnrolments (enrolments calls) action
        cases named : action.key with
        | ok text =>
            rw [named] at isListed
            exact ⟨_, Directory.discovers_of_described isKey isListed
              (Directory.isSome_descriptor?_ofEnrolments (enrolments calls) text)⟩
        | error fault =>
            rw [ActionName.keyOf, named] at isKey
            cases isKey
  failed _ isKeyless := Directory.not_discovered_of_keyless _ isKeyless

end PlatformDouble
