import PlatformDouble.Proofs.Config.Conformity
import PlatformDouble.Proofs.EnvFile.Repetition
import PlatformDouble.Proofs.Number.Numeral

namespace PlatformDouble.Config

/-!
# Settings survive the environment

A stored value that is written to its variable is read back as the value it was.  So
settings that are built in an environment to which others were written are the others.
-/

namespace Field

variable {field : Field} {value : Value}

/-- The text of a value that a field admits is converted back to the value. -/
theorem convert_display
    (admitted : field.Admits value)
    (isSet : value.isUnset = false)
    (isShort :
      ∀ number, value = .int number → Number.digitCount number.natAbs ≤ Number.digitLimit) :
    field.convert (.text value.display) = .converted value ∧ value.display ≠ "" := by
  cases value with
  | null =>
      cases isSet
  | bool b =>
      have isBoolean : field.type = .boolean := admitted
      refine ⟨?_, by cases b <;> decide⟩
      refine (convertPresent_boolean isBoolean fun _ => Value.noConfusion).trans ?_
      cases b <;> rfl
  | int number =>
      have isInteger : field.type = .integer := admitted
      have isRead := Number.readInteger?_integerText (isShort number rfl)
      refine ⟨?_, Number.integerText_ne_empty (isShort number rfl)⟩
      refine (convertPresent_integer isInteger).trans ?_
      simp only [IntegerReading.ofValue, IntegerReading.ofValue.ofNumeral, Value.display,
        Value.shown, isRead]
  | text s =>
      refine ⟨convert_of_admits admitted, fun isEmpty => ?_⟩
      have notEmpty : s.isEmpty = false := isSet
      rw [show s = "" from isEmpty] at notEmpty
      cases notEmpty
  | float | list | object | constant | member =>
      cases admitted

end Field

namespace Settings

variable {σ : Type} {schema : Schema} {settings : Settings}

/-- Fields that all convert are resolved without a word. -/
theorem resolveFields_of_converted
    {raw : Field → Value}
    {fields : List Field}
    (valueOf : Field → Value)
    (converts :
      ∀ field ∈ fields,
        field.convert (field.effectiveValue (raw field)) = .converted (valueOf field))
    (start : Settings) :
    ∃ resolved,
      (resolveFields raw fields start : Traced LogAction σ Settings) =
        Traced.done resolved := by
  induction fields generalizing start with
  | nil =>
      exact ⟨start, rfl⟩
  | cons field rest inductionHypothesis =>
      obtain ⟨resolved, restResolves⟩ :=
        inductionHypothesis
          (fun later member => converts later (List.mem_cons_of_mem field member))
          { values := start.values.insert field.key (valueOf field) }
      refine ⟨resolved, ?_⟩
      funext state
      simp only [resolveFields, Field.settle, converts field List.mem_cons_self]
      rw [Traced.bind_of_ok rfl]
      simp [restResolves, Traced.done]

section Loads

variable {loader : EnvFile.Loader} {environment : Environment} {content : Option String}

/-- Without a file, fields are resolved from the environment as it is. -/
theorem build_none
    (loader : EnvFile.Loader)
    (schema : Schema)
    (overrides : Overrides)
    (environment : Environment) :
    build loader schema none overrides environment =
      (do
        let settings ← resolveFields (rawValue environment overrides) schema {}
        warnUnknownKeys (unknownKeys schema overrides)
        Traced.done settings : Traced LogAction Environment Settings) environment := by
  unfold build
  rw [Traced.bind_of_ok rfl]
  rfl

theorem result_build_none
    (loader : EnvFile.Loader)
    (schema : Schema)
    (overrides : Overrides)
    (environment : Environment) :
    (build loader schema none overrides environment).result =
      (resolveFields (rawValue environment overrides) schema {} environment).result := by
  rw [build_none]
  cases ended :
      (resolveFields (rawValue environment overrides) schema {} environment).result with
  | ok settings =>
      rw [Traced.bind_of_ok ended]
      exact congrArg Outcome.result (Traced.bind_of_ok (result_warnUnknownKeys _ _))
  | error fault =>
      rw [Traced.bind_of_error ended]

/-- From a file that is accepted, settings are built as without it where it is loaded. -/
theorem build_of_accepts
    (accepts : loader.Accepts environment content)
    (schema : Schema)
    (overrides : Overrides) :
    build loader schema content overrides environment =
      build loader schema none overrides (loader.load content environment).state := by
  have loaded := EnvFile.Loader.load_of_accepts accepts
  rw [build_none, build, Traced.bind_of_ok (congrArg Outcome.result loaded),
    EnvFile.Loader.trace_load]
  rfl

end Loads

/-- Settings are the same for a schema if each of its fields has the same value in both. -/
theorem all_congr
    {other : Settings}
    (same :
      ∀ field ∈ schema, settings.get field.key .null = other.get field.key .null) :
    settings.all schema = other.all schema := by
  unfold all
  congr 1
  refine List.map_congr_left fun field member => ?_
  rw [same field member]

/-- Settings without unset values and without numbers too long to be read. -/
structure IsWritable (settings : Settings) (schema : Schema) : Prop where
  isSet :
    ∀ field ∈ schema, (settings.get field.key .null).isUnset = false
  isShort :
    ∀ field ∈ schema,
      ∀ number,
        settings.get field.key .null = .int number →
          Number.digitCount number.natAbs ≤ Number.digitLimit

/-- An environment in which the variable of every field has the text of its value. -/
def IsWrittenTo (settings : Settings) (schema : Schema) (environment : Environment) : Prop :=
  ∀ field ∈ schema,
    environment.get? field.variableName = some (settings.get field.key .null).display

/-- A value that was written to its variable is what the variable is converted to. -/
theorem convert_effectiveValue
    (conforms : settings.ConformTo schema)
    (isWritable : settings.IsWritable schema)
    {environment : Environment}
    (isWritten : settings.IsWrittenTo schema environment)
    {field : Field}
    (member : field ∈ schema) :
    field.convert (field.effectiveValue (rawValue environment Table.empty field)) =
      .converted (settings.get field.key .null) := by
  obtain ⟨converts, notEmpty⟩ :=
    field.convert_display (conforms.admits_get member) (isWritable.isSet field member)
      (isWritable.isShort field member)
  have isRaw :
      rawValue environment Table.empty field =
        .text (settings.get field.key .null).display := by
    rw [rawValue, Table.get?_empty, isWritten field member]
    rfl
  have isSet : (Value.text (settings.get field.key .null).display).isUnset = false := by
    simpa [Value.isUnset] using notEmpty
  rw [isRaw, Field.effectiveValue, isSet]
  exact converts

/-- Variables that are there keep their values when a file is loaded. -/
theorem IsWrittenTo.load
    {environment : Environment}
    (isWritten : settings.IsWrittenTo schema environment)
    (loader : EnvFile.Loader)
    (content : Option String) :
    settings.IsWrittenTo schema (loader.load content environment).state :=
  fun field member => EnvFile.Loader.get?_load_of_some (isWritten field member) content

theorem build_of_isWrittenTo
    (distinct : (schema.map Field.key).Nodup)
    (conforms : settings.ConformTo schema)
    (isWritable : settings.IsWritable schema)
    {environment : Environment}
    (isWritten : settings.IsWrittenTo schema environment)
    (loader : EnvFile.Loader) :
    ∃ copy,
      build loader schema none Table.empty environment =
          { trace := [], state := environment, result := .ok copy } ∧
        ∀ field ∈ schema,
          copy.values.get? field.key = some (settings.get field.key .null) := by
  have converts :
      ∀ field ∈ schema,
        field.convert (field.effectiveValue (rawValue environment Table.empty field)) =
          .converted (settings.get field.key .null) :=
    fun field member => convert_effectiveValue conforms isWritable isWritten member
  obtain ⟨copy, resolves⟩ :=
    resolveFields_of_converted (σ := Environment) _ converts {}
  refine ⟨copy, ?_, fun field member => ?_⟩
  · have noneUnknown : unknownKeys schema Table.empty = [] := by
      simp [unknownKeys, Table.keys, Table.empty]
    rw [build_none, resolves, Traced.bind_of_ok rfl, noneUnknown]
    rfl
  · have resolved :
        (resolveFields (rawValue environment Table.empty) schema {} environment).result =
          .ok copy := by
      rw [resolves]
      rfl
    obtain ⟨value, found, settles⟩ := (of_resolveFields distinct resolved).1 field member
    rw [Field.settled, converts field member] at settles
    cases settles
    exact found

end Settings

namespace Store

/-- Fields of the shipped schema other than that of the subscription hold no integers. -/
theorem key_eq_subscriptionKey
    {field : Field}
    (member : field ∈ Schema.shipped)
    {number : Int}
    (admitted : field.Admits (.int number)) :
    field.key = Schema.subscriptionKey := by
  have onlyInteger :
      ∀ field ∈ Schema.shipped,
        field.type = .integer → field.key = Schema.subscriptionKey := by
    decide
  exact onlyInteger field member admitted

/--
Whatever was set in settings of the shipped schema, once they are written to the
environment they are built from it as they were, value by value, and nothing is logged.  A
file that is found there makes no difference, if it is accepted.
-/
theorem build_of_stored
    {store : Store}
    (isShipped : store.schema = Schema.shipped)
    {name : String}
    {file : Option String}
    {overrides : Overrides}
    {created : Settings}
    (creates : (create name file overrides store).result = .ok created)
    (assignments : List (String × Value))
    {settings : Settings}
    (stored :
      (setAll name assignments (create name file overrides store).state).state.named.get?
          name =
        some settings)
    (areSet :
      ∀ field ∈ Schema.shipped, (settings.get field.key .null).isUnset = false)
    (isShort :
      ∀ number,
        settings.get Schema.subscriptionKey .null = .int number →
          Number.digitCount number.natAbs ≤ Number.digitLimit)
    {environment : Environment}
    (isWritten : settings.IsWrittenTo Schema.shipped environment)
    {loader : EnvFile.Loader}
    {content : Option String}
    (accepts : loader.Accepts environment content) :
    ∃ copy,
      Settings.build loader Schema.shipped content Table.empty environment =
          { trace := []
            state := (loader.load content environment).state
            result := .ok copy } ∧
        (∀ field ∈ Schema.shipped,
          copy.values.get? field.key = some (settings.get field.key .null)) ∧
          copy.all Schema.shipped = settings.all Schema.shipped := by
  have distinct : (Schema.shipped.map Field.key).Nodup := by
    decide
  have defaults : Schema.shipped.AdmitsDefaults := by
    unfold Schema.AdmitsDefaults
    decide +kernel
  rw [← isShipped] at distinct defaults
  obtain ⟨-, reached, found, conforms⟩ :=
    holdsConforming_setAll distinct defaults creates assignments
  rw [stored] at found
  cases found
  rw [isShipped] at distinct conforms
  have allShort :
      ∀ field ∈ Schema.shipped,
        ∀ number,
          settings.get field.key .null = .int number →
            Number.digitCount number.natAbs ≤ Number.digitLimit := by
    intro field member number isNumber
    have admitted : field.Admits (settings.get field.key .null) :=
      conforms.admits_get member
    rw [isNumber] at admitted
    rw [key_eq_subscriptionKey member admitted] at isNumber
    exact isShort number isNumber
  obtain ⟨copy, builds, sameValues⟩ :=
    Settings.build_of_isWrittenTo distinct conforms ⟨areSet, allShort⟩
      (isWritten.load loader content) loader
  refine ⟨copy, (Settings.build_of_accepts accepts _ _).trans builds, sameValues, ?_⟩
  refine Settings.all_congr fun field member => ?_
  rw [Settings.get, sameValues field member, Option.getD_some]

/-- Overrides of which each takes another conversion. -/
def sampleOverrides : Overrides :=
  ⟨[(Schema.logLevelKey, .text "warning"), (Schema.localeKey, .text " de "),
    (Schema.headsetKey, .text "YES")]⟩

/-- What these overrides come to, with a subscription. -/
def sampleSettings (subscription : Int) : Settings :=
  ⟨⟨[(Schema.logLevelKey, .text "WARNING"), (Schema.localeKey, .text " de "),
    (Schema.opPackageKey, .text "test"), (Schema.subscriptionKey, .int subscription),
    (Schema.headsetKey, .bool true)]⟩⟩

theorem create_sampleOverrides :
    (create "c" none sampleOverrides (initial Schema.shipped Table.empty)).result =
      .ok (sampleSettings 1) := by
  refine result_create_eq_ok_iff.mpr ?_
  rw [Sources.build]
  refine (congrArg Outcome.result (Settings.build_none _ _ _ _)).trans ?_
  refine Traced.result_bind_eq_ok_iff.mpr ⟨sampleSettings 1, rfl, ?_⟩
  exact Traced.result_bind_eq_ok_iff.mpr
    ⟨(), Settings.result_warnUnknownKeys _ _, rfl⟩

theorem build_of_stored_sample :
    let created := create "c" none sampleOverrides (initial Schema.shipped Table.empty)
    let assignments := [(Schema.subscriptionKey, Value.text " -0_42 ")]
    let settings := sampleSettings (-42)
    let environment : Environment :=
      ⟨[(Schema.logLevelKey, "WARNING"), (Schema.localeKey, " de "),
        (Schema.opPackageKey, "test"), (Schema.subscriptionKey, "-42"),
        (Schema.headsetKey, "True")]⟩
    (setAll "c" assignments created.state).state.named.get? "c" = some settings ∧
      settings.IsWrittenTo Schema.shipped environment ∧
        (∃ copy,
          Settings.build .standard Schema.shipped none Table.empty environment =
              { trace := [], state := environment, result := .ok copy } ∧
            (∀ field ∈ Schema.shipped,
              copy.values.get? field.key = some (settings.get field.key .null)) ∧
              copy.all Schema.shipped = settings.all Schema.shipped) ∧
          settings.all Schema.shipped =
              ⟨[(Schema.logLevelKey, .text "WARNING"), (Schema.localeKey, .text " de "),
                (Schema.opPackageKey, .text "test"), (Schema.subscriptionKey, .int (-42)),
                (Schema.headsetKey, .bool true)]⟩ := by
  intro created assignments settings environment
  have stored :
      (setAll "c" assignments created.state).state.named.get? "c" = some settings := by
    obtain ⟨inForce, found⟩ := of_create create_sampleOverrides
    have sets :
        ((sampleSettings 1).set created.state.schema Schema.subscriptionKey
            (.text " -0_42 ") created.state).result =
          .ok (true, settings) := by
      rw [inForce]
      rfl
    change
      (setIn "c" Schema.subscriptionKey (.text " -0_42 ") created.state).state.named.get?
          "c" =
        some settings
    rw [setIn_of_named found, Traced.bind_of_ok sets]
    exact Table.get?_insert_self _ _ _
  have areSet :
      ∀ field ∈ Schema.shipped, (settings.get field.key .null).isUnset = false := by
    decide +kernel
  have isShort :
      ∀ number,
        settings.get Schema.subscriptionKey .null = .int number →
          Number.digitCount number.natAbs ≤ Number.digitLimit := by
    rintro number ⟨⟩
    decide +kernel
  have isWritten : settings.IsWrittenTo Schema.shipped environment := by
    unfold Settings.IsWrittenTo
    decide +kernel
  have accepts : EnvFile.Loader.standard.Accepts environment none := nofun
  exact ⟨stored, isWritten,
    build_of_stored rfl create_sampleOverrides assignments stored areSet isShort isWritten
      accepts,
    rfl⟩

end Store

end PlatformDouble.Config
