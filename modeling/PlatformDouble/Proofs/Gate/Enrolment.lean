import Mathlib.Data.Option.Basic
import PlatformDouble.Gate.Discovery
import PlatformDouble.Proofs.Gate.History
import PlatformDouble.Proofs.Gate.Outcomes

namespace PlatformDouble

/-!
# What a directory tells of enrolments

An enrolment is a registration as it is meant: a component with its descriptor,
under the text of an action that is a text or a member of an enumeration.  After any calls
that enrol, every look-up in the directory answers from the enrolments alone.  A member
that carries something without a text has no key: neither can anything be enrolled under
it nor is it looked up.

Listings go by action, services and descriptors by component and owners by service.
So what is found under an action is described by the latest enrolments of its
components, under whatever action these were.
-/

/-- An action that has a name: a text, or a member of an enumeration. -/
inductive ActionName where
  | text (action : String)
  | constant (action : PlatformConstant)
  | member (family label : String) (carried : Value)

namespace ActionName

def toValue : ActionName → Value
  | text action => .text action
  | constant action => .constant action
  | member family label carried => .member family label carried

/-- The text under which an action lists components, if it has one. -/
def key : ActionName → Except Fault String
  | text action => .ok action
  | constant action => .ok action.value
  | member _ _ carried =>
      if carried.isDisplayable then .ok carried.display else .error .numeralTooLong

@[simp] theorem ofValue_toValue
    (action : ActionName) :
    ActionKey.ofValue action.toValue = action.key.map ActionKey.text := by
  cases action with
  | text | constant =>
      rfl
  | member family label carried =>
      simp only [toValue, ActionKey.ofValue, key]
      split <;> rfl

end ActionName

/-- A component with its service and its descriptor, under the text of an action. -/
structure Enrolment where
  key : String
  component : ComponentName
  service : Option ServiceId
  descriptor : ServiceInfo

namespace Enrolment

/-- What is written for an enrolment. -/
def registration (enrolment : Enrolment) : Registration where
  key := .text enrolment.key
  component := some enrolment.component
  service := enrolment.service
  descriptor := some enrolment.descriptor

/-- The enrolments under the text of an action, however the action was spelled. -/
def under (key : String) (history : List Enrolment) : List Enrolment :=
  history.filter fun enrolment => enrolment.key == key

theorem registration_under
    (history : List Enrolment)
    (key : String) :
    ((history.map registration).filter fun entry => entry.key == .text key) =
      (under key history).map registration := by
  rw [List.filter_map]
  rfl

theorem registration_lastOf
    (history : List Enrolment)
    (name : ComponentName) :
    Registration.lastOf (history.map registration) (some name) =
      (lastBy component history name).map registration :=
  lastBy_map Registration.component registration history (some name)

theorem registration_lastWith
    (history : List Enrolment)
    (id : Option ServiceId) :
    Registration.lastWith (history.map registration) id =
      (lastBy service history id).map registration :=
  lastBy_map Registration.service registration history id

end Enrolment

/-- Every look-up in a directory answers from a history of enrolments. -/
structure Directory.Tells (directory : Directory) (history : List Enrolment) : Prop where
  /-- Under an action are listed the components enrolled under it, each as often as it was. -/
  listed :
    ∀ action : ActionName,
      directory.listed action.toValue =
        action.key.map fun key =>
          (Enrolment.under key history).map fun enrolment => some enrolment.component
  service :
    ∀ component,
      directory.service? (some component) =
        (lastBy Enrolment.component history component).bind Enrolment.service
  descriptor :
    ∀ component,
      directory.descriptor? (some component) =
        (lastBy Enrolment.component history component).map Enrolment.descriptor
  owner :
    ∀ service,
      directory.owner? service =
        (lastBy Enrolment.service history service).map Enrolment.component
  /-- What was never enrolled itself has no owner, whatever it may be equal to. -/
  stranger :
    ∀ service,
      (∀ enrolment ∈ history, enrolment.service ≠ service) →
        directory.owner? service = none
  /-- Every key is there once, in order of first use. -/
  actions :
    directory.actions =
      (history.map Enrolment.key).eraseDups.map ActionKey.text
  size :
    directory.size = (history.map Enrolment.component).eraseDups.length
  contains_iff :
    ∀ component,
      directory.contains (some component) = true ↔
        component ∈ history.map Enrolment.component
  /-- There is a descriptor for each enrolment under an action: the latest of its component. -/
  queried :
    ∀ (action : ActionName) key,
      action.key = .ok key →
        ∃ found,
          directory.descriptorsFor action.toValue = .ok found ∧
            found.map some =
              (Enrolment.under key history).map fun enrolment =>
                (lastBy Enrolment.component history enrolment.component).map
                  Enrolment.descriptor
  /-- What cannot be a key is not looked up. -/
  unqueried :
    ∀ (action : ActionName) fault,
      action.key = .error fault → directory.descriptorsFor action.toValue = .error fault

namespace Directory

theorem resolveListed_some
    (directory : Directory)
    (component : ComponentName) :
    directory.resolveListed (some component) =
      .ok ⟨directory.descriptor? (some component), component⟩ :=
  rfl

theorem resolveAll_map_some
    (directory : Directory)
    (components : List ComponentName) :
    directory.resolveAll (components.map some) =
      .ok (components.map fun component =>
        ⟨directory.descriptor? (some component), component⟩) := by
  induction components with
  | nil =>
      rfl
  | cons component rest inductionHypothesis =>
      simp [resolveAll, resolveListed_some, inductionHypothesis, Except.map]

theorem listed_toValue
    (directory : Directory)
    (action : ActionName) :
    directory.listed action.toValue =
      action.key.map fun key => directory.listing (.text key) := by
  have isListed :
      directory.listed action.toValue =
        (ActionKey.ofValue action.toValue).map directory.listing := by
    cases action <;> rfl
  rw [isListed, ActionName.ofValue_toValue]
  cases action.key <;> rfl

/-- If every listed component has a descriptor, none is missing from what is found. -/
theorem exists_descriptorsFor
    {directory : Directory}
    {action : Value}
    {components : List ComponentName}
    (listed : directory.listed action = .ok (components.map some))
    (described :
      ∀ component ∈ components, (directory.descriptor? (some component)).isSome = true) :
    ∃ found,
      directory.descriptorsFor action = .ok found ∧
        found.map some =
          components.map fun component => directory.descriptor? (some component) := by
  refine ⟨components.filterMap fun component => directory.descriptor? (some component), ?_, ?_⟩
  · simp only [descriptorsFor, resolve, listed, resolveAll_map_some, Except.map,
      List.filterMap_map]
    rfl
  · rw [List.map_filterMap_some_eq_filter_map_isSome, List.filter_eq_self]
    intro descriptor member
    obtain ⟨component, isListed, same⟩ := List.mem_map.mp member
    rw [← same]
    exact described component isListed

section History

variable (history : List Enrolment)

theorem listed_ofEnrolments
    (action : ActionName) :
    (ofHistory (history.map Enrolment.registration)).listed action.toValue =
      action.key.map fun key =>
        ((Enrolment.under key history).map Enrolment.component).map some := by
  rw [listed_toValue]
  congr 1
  funext key
  rw [listing_ofHistory, Enrolment.registration_under, List.map_map, List.map_map]
  rfl

theorem service?_ofEnrolments
    (component : ComponentName) :
    (ofHistory (history.map Enrolment.registration)).service? (some component) =
      (lastBy Enrolment.component history component).bind Enrolment.service := by
  rw [service?_ofHistory, Enrolment.registration_lastOf, Option.bind_map]
  rfl

theorem descriptor?_ofEnrolments
    (component : ComponentName) :
    (ofHistory (history.map Enrolment.registration)).descriptor? (some component) =
      (lastBy Enrolment.component history component).map Enrolment.descriptor := by
  rw [descriptor?_ofHistory, Enrolment.registration_lastOf, Option.bind_map]
  exact (Option.map_eq_bind ..).symm

theorem owner?_ofEnrolments
    (service : Option ServiceId) :
    (ofHistory (history.map Enrolment.registration)).owner? service =
      (lastBy Enrolment.service history service).map Enrolment.component := by
  rw [owner?_ofHistory, Enrolment.registration_lastWith, Option.bind_map]
  exact (Option.map_eq_bind ..).symm

/-- A listed component was enrolled, if only under this action, so it has a descriptor. -/
theorem isSome_descriptor?_ofEnrolments
    (key : String)
    (component : ComponentName)
    (isListed : component ∈ (Enrolment.under key history).map Enrolment.component) :
    ((ofHistory (history.map Enrolment.registration)).descriptor?
      (some component)).isSome = true := by
  obtain ⟨enrolment, isUnder, same⟩ := List.mem_map.mp isListed
  obtain ⟨last, isLast⟩ :
      ∃ last, lastBy Enrolment.component history enrolment.component = some last :=
    exists_lastBy (List.mem_filter.mp isUnder).1
  rw [descriptor?_ofEnrolments, ← same, isLast]
  rfl

theorem descriptorsFor_ofEnrolments
    (action : ActionName)
    (key : String)
    (isKey : action.key = .ok key) :
    ∃ found,
      (ofHistory (history.map Enrolment.registration)).descriptorsFor action.toValue =
          .ok found ∧
        found.map some =
          (Enrolment.under key history).map fun enrolment =>
            (lastBy Enrolment.component history enrolment.component).map
              Enrolment.descriptor := by
  have isListed := listed_ofEnrolments history action
  rw [isKey] at isListed
  obtain ⟨found, isFound, same⟩ :=
    exists_descriptorsFor isListed (isSome_descriptor?_ofEnrolments history key)
  refine ⟨found, isFound, ?_⟩
  rw [same, List.map_map]
  exact List.map_congr_left fun enrolment _ =>
    descriptor?_ofEnrolments history enrolment.component

theorem descriptorsFor_of_keyless
    (directory : Directory)
    (action : ActionName)
    (fault : Fault)
    (isKeyless : action.key = .error fault) :
    directory.descriptorsFor action.toValue = .error fault := by
  have isListed := directory.listed_toValue action
  rw [isKeyless] at isListed
  simp only [descriptorsFor, resolve, isListed]
  rfl

/-- The keys of the listings are the texts of the actions, each once. -/
theorem actions_ofEnrolments :
    (ofHistory (history.map Enrolment.registration)).actions =
      (history.map Enrolment.key).eraseDups.map ActionKey.text := by
  -- Not every key is equal to itself, so keys of listings cannot be counted as others are.
  induction history using List.reverseRecOn with
  | nil =>
      rfl
  | append_singleton earlier enrolment inductionHypothesis =>
      have isKnown :
          (ofHistory (earlier.map Enrolment.registration)).listings.contains
              (.text enrolment.key) =
            (earlier.map Enrolment.key).contains enrolment.key := by
        rw [contains_listings_ofHistory, Bool.eq_iff_iff]
        simp [Enrolment.registration]
      have isStart :
          (ofHistory (earlier.map Enrolment.registration)).listings.keys =
            (earlier.map Enrolment.key).eraseDups.map ActionKey.text :=
        inductionHypothesis
      simp only [List.map_append, List.map_singleton, ofHistory_append_singleton, actions,
        write, Enrolment.registration, Table.keys_insert, isKnown, isStart,
        Table.eraseDups_append_singleton]
      split
      · rfl
      · rw [List.map_append, List.map_singleton]

/-- The components that have a service are those of the history, each once. -/
theorem keys_services_ofEnrolments :
    (ofHistory (history.map Enrolment.registration)).services.keys =
      (history.map Enrolment.component).eraseDups.map some := by
  rw [services_ofHistory, Table.keys_ofList,
    ← Table.eraseDups_map (Option.some_injective ComponentName), List.map_map, List.map_map,
    List.map_map]
  rfl

theorem size_ofEnrolments :
    (ofHistory (history.map Enrolment.registration)).size =
      (history.map Enrolment.component).eraseDups.length := by
  have counted := congrArg List.length (keys_services_ofEnrolments history)
  simpa [Table.keys, size, Table.size] using counted

theorem contains_ofEnrolments
    (component : ComponentName) :
    (ofHistory (history.map Enrolment.registration)).contains (some component) = true ↔
      component ∈ history.map Enrolment.component := by
  rw [contains, Table.contains_iff, keys_services_ofEnrolments,
    List.mem_map_of_injective (Option.some_injective ComponentName), List.mem_eraseDups]

theorem tells_ofEnrolments :
    (ofHistory (history.map Enrolment.registration)).Tells history where
  listed action := by
    rw [listed_ofEnrolments]
    congr 1
    funext key
    rw [List.map_map]
    rfl
  service := service?_ofEnrolments history
  descriptor := descriptor?_ofEnrolments history
  owner := owner?_ofEnrolments history
  stranger service isStranger := by
    rw [owner?_ofEnrolments, lastBy_eq_none isStranger]
    rfl
  actions := actions_ofEnrolments history
  size := size_ofEnrolments history
  contains_iff := contains_ofEnrolments history
  queried := descriptorsFor_ofEnrolments history
  unqueried := descriptorsFor_of_keyless _

end History

end Directory

/-- What a descriptor is made of, for a component under a named action. -/
structure EnrolmentParts where
  action : ActionName
  component : ComponentName
  service : Option ServiceId
  permission : Value
  packageName : Value
  className : Value

namespace EnrolmentParts

def registration (parts : EnrolmentParts) : ServiceRegistration where
  action := parts.action.toValue
  component := some parts.component
  service := parts.service
  permission := parts.permission
  packageName := parts.packageName
  className := parts.className

/-- The enrolment with a given key and descriptor. -/
def describedBy (parts : EnrolmentParts) (key : String) (descriptor : ServiceInfo) :
    Enrolment where
  key := key
  component := parts.component
  service := parts.service
  descriptor := descriptor

end EnrolmentParts

/-- A call that enrols: with a descriptor of its own, or with what one is made of. -/
inductive EnrolmentCall where
  | direct
      (action : ActionName)
      (component : ComponentName)
      (service : Option ServiceId)
      (descriptor : ServiceInfo)
  | described (parts : EnrolmentParts)

namespace EnrolmentCall

variable {ρ : Type}

/-- A component is enrolled under an action that has a key, and not under any other. -/
theorem register_toValue
    (action : ActionName)
    (component : ComponentName)
    (service : Option ServiceId)
    (descriptor : ServiceInfo)
    (directory : Directory) :
    let outcome :=
      (Directory.register action.toValue (some component) service (some descriptor) :
        Traced (Entry ρ) Directory Unit) directory
    outcome.state =
        (match action.key with
        | .ok key => directory.write ⟨.text key, some component, service, some descriptor⟩
        | .error _ => directory) ∧
      outcome.result = action.key.map fun _ => () := by
  have isKey := ActionName.ofValue_toValue action
  cases named : action.key with
  | ok key =>
      rw [named] at isKey
      rw [Directory.register_named isKey rfl]
      exact ⟨rfl, rfl⟩
  | error fault =>
      rw [named] at isKey
      rw [Directory.register_unusable isKey]
      exact ⟨rfl, rfl⟩

variable [Record.Validator]

/-- The enrolment a call comes to, unless its descriptor is refused or its action has no key. -/
def enrolled : EnrolmentCall → Except Fault Enrolment
  | direct action component service descriptor => do
      let key ← action.key
      return ⟨key, component, service, descriptor⟩
  | described parts => do
      let descriptor ← parts.registration.descriptor
      let key ← parts.action.key
      return parts.describedBy key descriptor

/-- Register what a call enrols. -/
def perform : EnrolmentCall → Traced (Entry ρ) Directory Unit
  | direct action component service descriptor =>
      Directory.register action.toValue (some component) service (some descriptor)
  | described parts => do
      let _ ← parts.registration.perform
      pure ()

/-- A call writes the enrolment it comes to and succeeds, or writes nothing and fails. -/
theorem perform_enrolled
    (call : EnrolmentCall)
    (directory : Directory) :
    let outcome := (call.perform : Traced (Entry ρ) Directory Unit) directory
    outcome.state =
        (match call.enrolled with
        | .ok enrolment => directory.write enrolment.registration
        | .error _ => directory) ∧
      outcome.result = call.enrolled.map fun _ => () := by
  cases call with
  | direct action component service descriptor =>
      obtain ⟨written, ends⟩ :=
        register_toValue (ρ := ρ) action component service descriptor directory
      simp only [perform, enrolled, written, ends]
      cases action.key <;> exact ⟨rfl, rfl⟩
  | described parts =>
      simp only [perform, enrolled]
      rw [Traced.bind_pure]
      cases described : parts.registration.descriptor with
      | error fault =>
          rw [ServiceRegistration.perform_refused described]
          exact ⟨rfl, rfl⟩
      | ok descriptor =>
          obtain ⟨written, ends⟩ :=
            register_toValue (ρ := ρ) parts.action parts.component parts.service descriptor
              directory
          rw [ServiceRegistration.perform_described described]
          simp only [EnrolmentParts.registration, written, ends]
          cases parts.action.key <;> exact ⟨rfl, rfl⟩

/-- The enrolments that calls come to, in order. -/
def enrolments (calls : List EnrolmentCall) : List Enrolment :=
  calls.filterMap fun call => call.enrolled.toOption

theorem enrolments_append_singleton
    (calls : List EnrolmentCall)
    (call : EnrolmentCall) :
    enrolments (calls ++ [call]) = enrolments calls ++ call.enrolled.toOption.toList := by
  unfold enrolments
  rw [List.filterMap_append, List.filterMap_cons, List.filterMap_nil]
  cases call.enrolled.toOption <;> rfl

/-- Perform calls one after another, each whatever became of those before. -/
def performAll (calls : List EnrolmentCall) :
    Traced (Entry ρ) Directory (List (Except Fault Unit)) :=
  Traced.forEach calls fun call => Traced.attempt call.perform

theorem performAll_writes
    (calls : List EnrolmentCall) :
    let outcome := (performAll calls : Traced (Entry ρ) Directory _) {}
    outcome.state =
        Directory.ofHistory ((enrolments calls).map Enrolment.registration) ∧
      outcome.result = .ok (calls.map fun call => call.enrolled.map fun _ => ()) := by
  refine Traced.forEach_attempt
    (fun performed directory =>
      directory = Directory.ofHistory ((enrolments performed).map Enrolment.registration))
    ?_ [] calls rfl
  -- The directory so far is that of the enrolments so far; a refused call adds none.
  intro earlier call directory written
  obtain ⟨state, result⟩ := call.perform_enrolled (ρ := ρ) directory
  refine ⟨?_, result⟩
  rw [state, written, enrolments_append_singleton, List.map_append]
  cases call.enrolled with
  | ok enrolment =>
      exact (Directory.ofHistory_append_singleton _ _).symm
  | error fault =>
      simp [Except.toOption]

/--
After any calls that enrol, a directory tells the enrolments the calls came to, and a
call has failed exactly if its descriptor was refused or its action has no key.
-/
theorem performAll_tells
    (calls : List EnrolmentCall) :
    let outcome := (performAll calls : Traced (Entry ρ) Directory _) {}
    outcome.state.Tells (enrolments calls) ∧
      outcome.result = .ok (calls.map fun call => call.enrolled.map fun _ => ()) := by
  obtain ⟨state, result⟩ := performAll_writes (ρ := ρ) calls
  refine ⟨?_, result⟩
  rw [state]
  exact Directory.tells_ofEnrolments (enrolments calls)

end EnrolmentCall

end PlatformDouble
