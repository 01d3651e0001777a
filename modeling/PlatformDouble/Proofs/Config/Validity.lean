import Mathlib.Data.List.Basic
import PlatformDouble.Host.Configuring
import PlatformDouble.Proofs.Config.Export
import PlatformDouble.Proofs.Config.Loading

namespace PlatformDouble

/-!
# When settings are valid

A field whose default is present and whose options are spelled in capitals has nothing
wrong with it unless it holds null.  It comes to hold null in one way only: null is set.
-/

def Value.isNull : Value → Bool
  | .null => true
  | _ => false

theorem Value.isNull_iff
    {value : Value} :
    value.isNull = true ↔ value = .null := by
  cases value <;> simp [isNull]

theorem Value.isNull_eq_false
    {value : Value}
    (isPresent : value ≠ .null) :
    value.isNull = false := by
  cases value with
  | null =>
      exact absurd rfl isPresent
  | _ =>
      rfl

namespace Config

/-- A schema that has no complaint about what its fields admit, except for null. -/
structure Schema.IsValidByDefault (schema : Schema) : Prop where
  distinct : (schema.map Field.key).Nodup
  defaults : schema.AdmitsDefaults
  present : ∀ field ∈ schema, field.default.isNull = false
  /-- A value is looked up among the options by its capital form, which has to be there. -/
  capitals :
    ∀ field ∈ schema,
      field.choices ≠ [] →
        field.type = .text ∧ ∀ option ∈ field.choices, Text.uppercase option = option

theorem Schema.shipped_isValidByDefault : Schema.shipped.IsValidByDefault where
  distinct := by
    decide
  defaults := by
    unfold Schema.AdmitsDefaults
    decide +kernel
  present := by
    decide +kernel
  capitals := by
    decide +kernel

namespace Field

variable {field : Field} {value result : Value}

/-- Where the default is present, null comes of null alone. -/
theorem Converts.isNull_eq
    (present : field.default.isNull = false)
    (converts : field.Converts value result) :
    result.isNull = value.isNull := by
  cases converts with
  | null =>
      rfl
  | integer _ reads =>
      cases value with
      | null =>
          cases reads
      | _ =>
          rfl
  | truth _ _ =>
      rfl
  | word _ isPresent _ _ =>
      exact (Value.isNull_eq_false isPresent).symm
  | text _ isPresent _ _ =>
      exact (Value.isNull_eq_false isPresent).symm
  | option _ isPresent _ _ =>
      exact (Value.isNull_eq_false isPresent).symm
  | unreadable _ isPresent _ _ =>
      rw [present, Value.isNull_eq_false isPresent]
  | unmatched _ isPresent _ _ _ =>
      rw [present, Value.isNull_eq_false isPresent]

theorem isNull_effectiveValue
    (present : field.default.isNull = false)
    (raw : Value) :
    (field.effectiveValue raw).isNull = false := by
  cases isUnset : raw.isUnset with
  | true =>
      simpa [effectiveValue, isUnset] using present
  | false =>
      have isPresent : raw ≠ .null := by
        rintro rfl
        cases isUnset
      simpa [effectiveValue, isUnset] using Value.isNull_eq_false isPresent

/-- A text that a field with options admits is its own capital form, and an option. -/
theorem contains_of_admits
    (capitals :
      field.choices ≠ [] →
        field.type = .text ∧ ∀ option ∈ field.choices, Text.uppercase option = option)
    (admitted : field.Admits value)
    (present : value.isNull = false) :
    field.choices = [] ∨ Text.uppercase value.display ∈ field.choices := by
  by_cases isFree : field.choices = []
  · exact .inl isFree
  obtain ⟨isText, areCapitals⟩ := capitals isFree
  rcases text_of_admits isText admitted with rfl | ⟨s, rfl, isOption⟩
  · cases present
  · have member := isOption isFree
    refine .inr ?_
    rw [show (Value.text s).display = s from rfl, areCapitals s member]
    exact member

end Field

namespace Settings

variable {schema : Schema} {settings changed : Settings}

/-- The messages for the fields of a schema that are missing, in its order. -/
def missing (schema : Schema) (isMissing : Field → Bool) : List String :=
  (schema.filter isMissing).map fun field => "Config missing: " ++ field.key

theorem complaint?_of_null
    {field : Field}
    (isNull : (settings.get field.key .null).isNull = true) :
    settings.complaint? field = some ("Config missing: " ++ field.key) := by
  unfold complaint?
  cases stored : settings.get field.key .null with
  | null =>
      rfl
  | _ =>
      rw [stored] at isNull
      cases isNull

theorem complaint?_of_present
    (valid : schema.IsValidByDefault)
    (conforms : settings.ConformTo schema)
    {field : Field}
    (member : field ∈ schema)
    (present : (settings.get field.key .null).isNull = false) :
    settings.complaint? field = none := by
  have offered :
      (field.choices.isEmpty ||
        field.choices.contains
          (Text.uppercase (settings.get field.key .null).display)) = true := by
    rcases field.contains_of_admits (valid.capitals field member)
        (conforms.admits_get member) present with isFree | isOption
    · simp [isFree]
    · simp [isOption]
  unfold complaint?
  split
  next isNull =>
    rw [isNull] at present
    cases present
  next =>
    exact if_pos offered

/-- What conforms to such a schema has a text wherever there are options. -/
theorem isDisplayable_of_conformTo
    (valid : schema.IsValidByDefault)
    (conforms : settings.ConformTo schema) :
    settings.isDisplayable schema = true := by
  refine List.all_eq_true.mpr fun field member => ?_
  by_cases isFree : field.choices = []
  · simp [isFree]
  · have isText := (valid.capitals field member isFree).1
    rcases Field.text_of_admits isText (conforms.admits_get member) with isNull | ⟨s, isText, -⟩
    · rw [isNull]
      exact Bool.or_true _
    · rw [isText]
      exact Bool.or_true _

/-- Nothing but null is wrong with settings that conform to such a schema. -/
theorem complaints_eq_missing
    (valid : schema.IsValidByDefault)
    (conforms : settings.ConformTo schema)
    {isMissing : Field → Bool}
    (tells :
      ∀ field ∈ schema, isMissing field = (settings.get field.key .null).isNull) :
    settings.complaints schema = missing schema isMissing := by
  unfold complaints missing
  rw [← List.filterMap_eq_map, List.filterMap_filter]
  refine List.filterMap_congr fun field member => ?_
  rw [tells field member]
  cases isNull : (settings.get field.key .null).isNull with
  | true =>
      simpa using complaint?_of_null isNull
  | false =>
      simpa using complaint?_of_present valid conforms member isNull

/-- Settings that were just built have nothing missing. -/
theorem isNull_build
    (valid : schema.IsValidByDefault)
    {sources : Sources}
    (builds : (sources.build schema).result = .ok settings)
    {field : Field}
    (member : field ∈ schema) :
    (settings.get field.key .null).isNull = false := by
  obtain ⟨value, found, settles⟩ :=
    Sources.exists_settled_of_build valid.distinct builds member
  have present := valid.present field member
  rw [get, found, Option.getD_some,
    (Field.settled_eq_ok_iff.mp settles).isNull_eq present]
  exact Field.isNull_effectiveValue present _

end Settings

namespace Store

/-- A set that was tried, with how it ended. -/
abbrev SetAttempt := (String × Value) × Except Fault (Bool × Settings)

/-- The value that a set stored under a key; only a set that answers true stores any. -/
def storedUnder? (key : String) : SetAttempt → Option Value
  | ((written, _), .ok (true, changed)) =>
      if written = key then changed.values.get? key else none
  | _ => none

/-- The value that the last set to store any under a key stored there. -/
def lastStored? (key : String) (attempts : List SetAttempt) : Option Value :=
  (attempts.filterMap (storedUnder? key)).getLast?

theorem lastStored?_cons
    (key : String)
    (attempt : SetAttempt)
    (attempts : List SetAttempt) :
    lastStored? key (attempt :: attempts) =
      (lastStored? key attempts).or (storedUnder? key attempt) := by
  unfold lastStored?
  cases stored : storedUnder? key attempt with
  | none =>
      simp [List.filterMap_cons_none stored]
  | some value =>
      rw [List.filterMap_cons_some stored, List.getLast?_cons]
      cases (attempts.filterMap (storedUnder? key)).getLast? <;> rfl

variable {store : Store} {name : String} {settings created : Settings}

/-- One set leaves every key the value it stored there, else the one the key had. -/
theorem get?_setIn
    (found : store.named.get? name = some settings)
    (key : String)
    (value : Value) :
    let outcome := setIn name key value store
    ∃ changed,
      outcome.state.named.get? name = some changed ∧
        ∀ other,
          changed.values.get? other =
            (storedUnder? other ((key, value), outcome.result)).or
              (settings.values.get? other) := by
  intro outcome
  have isOutcome : outcome = _ := setIn_of_named found
  cases ended : (settings.set store.schema key value store).result with
  | ok answer =>
      rcases answer with ⟨known, changed⟩
      rw [Traced.bind_of_ok ended] at isOutcome
      refine ⟨changed, ?_, fun other => ?_⟩
      · rw [isOutcome]
        exact Table.get?_insert_self _ _ _
      · rw [show outcome.result = .ok (known, changed) by rw [isOutcome]; rfl]
        rcases Settings.of_set ended with
          ⟨rfl, rfl⟩ | ⟨field, result, rfl, -, -, rfl⟩
        · rfl
        · by_cases isKey : key = other
          · subst isKey
            simp [storedUnder?]
          · simp [storedUnder?, isKey, Table.get?_insert_of_ne _ _ isKey]
  | error fault =>
      rw [Traced.bind_of_error ended, Settings.state_set] at isOutcome
      refine ⟨settings, ?_, fun other => ?_⟩
      · rw [isOutcome]
        exact found
      · rw [isOutcome]
        rfl

/-- Sets, one after another, leave every key the value last stored there, if any was. -/
theorem get?_setAll
    (found : store.named.get? name = some settings)
    (assignments : List (String × Value)) :
    let outcome := setAll name assignments store
    ∃ answers stored,
      outcome.result = .ok answers ∧
        outcome.state.named.get? name = some stored ∧
          ∀ key,
            stored.values.get? key =
              (lastStored? key (assignments.zip answers)).or (settings.values.get? key) := by
  induction assignments generalizing store settings with
  | nil =>
      exact ⟨[], settings, rfl, found, fun _ => rfl⟩
  | cons assignment rest inductionHypothesis =>
      obtain ⟨changed, foundChanged, isStored⟩ :=
        get?_setIn found assignment.1 assignment.2
      obtain ⟨answers, stored, restEnds, foundStored, isLast⟩ :=
        inductionHypothesis foundChanged
      have reaches :
          setAll name (assignment :: rest) store = _ :=
        Traced.forEach_cons_of_ok rfl restEnds
      refine ⟨(setIn name assignment.1 assignment.2 store).result :: answers, stored, ?_, ?_,
        fun key => ?_⟩
      · rw [reaches]
      · rw [reaches]
        exact foundStored
      · rw [isLast key, isStored key, List.zip_cons_cons, lastStored?_cons, Option.or_assoc]

/-- Of settings that were built and then set, the fields that hold null are those last set to it. -/
theorem isNull_get_setAll
    (valid : store.schema.IsValidByDefault)
    {file : Option String}
    {overrides : Overrides}
    (creates : (create name file overrides store).result = .ok created)
    (assignments : List (String × Value)) :
    let outcome := setAll name assignments (create name file overrides store).state
    ∃ answers stored,
      outcome.result = .ok answers ∧
        outcome.state.named.get? name = some stored ∧
          ∀ field ∈ store.schema,
            (lastStored? field.key (assignments.zip answers)).any Value.isNull =
              (stored.get field.key .null).isNull := by
  intro outcome
  obtain ⟨-, found⟩ := of_create creates
  obtain ⟨answers, stored, ends, foundStored, isLast⟩ := get?_setAll found assignments
  refine ⟨answers, stored, ends, foundStored, fun field member => ?_⟩
  have present := Settings.isNull_build valid (result_create_eq_ok_iff.mp creates) member
  rw [Settings.get, isLast field.key]
  cases lastStored? field.key (assignments.zip answers) with
  | none =>
      exact present.symm
  | some value =>
      rfl

/-- Settings that are kept under a name are asked what is wrong with them. -/
theorem answer_validate
    (found : store.named.get? name = some settings)
    {isValid : Bool}
    {complaints : List String}
    (validates : settings.validate store.schema = .ok (isValid, complaints)) :
    (ConfigRequest.validate name).answer store =
      { trace := []
        state := store
        result := .ok (.known (.complaints complaints)) } := by
  have isStored := settingsOf_of_named found
  refine (Traced.bind_of_ok (congrArg Outcome.result isStored)).trans ?_
  rw [isStored]
  simp only [Traced.done, Traced.current_bind, validates]
  rfl

/--
Whatever was set in settings of the shipped schema after they were built, the messages
about them are those for the fields that were last set to null, in the order of the schema.
-/
theorem validate_setAll
    (isShipped : store.schema = Schema.shipped)
    {file : Option String}
    {overrides : Overrides}
    (creates : (create name file overrides store).result = .ok created)
    (assignments : List (String × Value)) :
    let reached := setAll name assignments (create name file overrides store).state
    ∃ answers stored,
      let missing :=
        Settings.missing Schema.shipped fun field =>
          (lastStored? field.key (assignments.zip answers)).any Value.isNull
      reached.result = .ok answers ∧
        reached.state.named.get? name = some stored ∧
          stored.validate Schema.shipped = .ok (missing.isEmpty, missing) ∧
            (ConfigRequest.validate name).answer reached.state =
              { trace := []
                state := reached.state
                result := .ok (.known (.complaints missing)) } := by
  intro reached
  have valid : store.schema.IsValidByDefault := by
    rw [isShipped]
    exact Schema.shipped_isValidByDefault
  obtain ⟨answers, stored, ends, found, isMissing⟩ :=
    isNull_get_setAll valid creates assignments
  obtain ⟨inForce, stored', found', conforms⟩ :=
    holdsConforming_setAll valid.distinct valid.defaults creates assignments
  rw [found] at found'
  cases found'
  rw [isShipped] at valid conforms isMissing inForce
  have complaints := Settings.complaints_eq_missing valid conforms isMissing
  let missing :=
    Settings.missing Schema.shipped fun field =>
      (lastStored? field.key (assignments.zip answers)).any Value.isNull
  have validates : stored.validate Schema.shipped = .ok (missing.isEmpty, missing) := by
    rw [Settings.validate, if_pos (Settings.isDisplayable_of_conformTo valid conforms),
      complaints]
  refine ⟨answers, stored, ends, found, validates, ?_⟩
  rw [← inForce] at validates
  exact answer_validate found validates

/-- Null that was set is missing, unless something else was set after it. -/
theorem validate_setAll_null :
    let store := initial Schema.shipped Table.empty
    let assignments : List (String × Value) :=
      [(Schema.localeKey, .null), (Schema.subscriptionKey, .null),
        (Schema.localeKey, .text "de")]
    let reached := setAll "c" assignments (create "c" none sampleOverrides store).state
    (create "c" none sampleOverrides store).result = .ok (sampleSettings 1) ∧
      (ConfigRequest.validate "c").answer reached.state =
        { trace := []
          state := reached.state
          result := .ok (.known (.complaints ["Config missing: TELEHOST_SUB_ID"])) } := by
  intro store assignments reached
  obtain ⟨answers, -, ends, -, -, answered⟩ :=
    validate_setAll rfl create_sampleOverrides assignments
  have isAnswers :
      let cleared := (sampleSettings 1).values.insert Schema.localeKey .null
      let emptied := cleared.insert Schema.subscriptionKey .null
      answers =
        [.ok (true, ⟨cleared⟩), .ok (true, ⟨emptied⟩),
          .ok (true, ⟨emptied.insert Schema.localeKey (.text "de")⟩)] := by
    rw [state_create_of_ok create_sampleOverrides] at ends
    cases ends
    rfl
  rw [isAnswers] at answered
  exact ⟨create_sampleOverrides, answered⟩

end Store

end Config

end PlatformDouble
