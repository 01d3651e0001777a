import PlatformDouble.Proofs.Config.Conformity
import PlatformDouble.Proofs.Config.Loading
import PlatformDouble.Proofs.EnvFile.Repetition
import PlatformDouble.Proofs.Table.Latest

namespace PlatformDouble.Config

/-!
# Falling back to defaults

A value that cannot be converted gives way to the default of its field, with a warning.
There are two that do not: an infinite number is neither an integer nor refused as one, and
a refused value with too long an integer in it cannot be shown in the warning.  Everything
else that settings are built from or set to is settled, as soon as the file is loaded.
-/

/-- Only an infinite number is read as infinite. -/
theorem IntegerReading.ofValue_eq_infinite_iff
    {value : Value} :
    ofValue value = .infinite ↔ ∃ isNegative, value = .float (.infinite isNegative) := by
  constructor
  · intro reads
    unfold ofValue at reads
    split at reads
    case h_3 isNegative =>
      exact ⟨isNegative, rfl⟩
    case h_4 x _ =>
      cases isWhole : x.truncate? <;> simp [isWhole] at reads
    case h_5 s =>
      unfold ofValue.ofNumeral at reads
      cases isNumeral : Number.readInteger? s <;> simp [isNumeral] at reads
    case h_6 c =>
      unfold ofValue.ofNumeral at reads
      cases isNumeral : Number.readInteger? c.value <;> simp [isNumeral] at reads
    all_goals cases reads
  · rintro ⟨isNegative, rfl⟩
    rfl

namespace Field

variable {σ : Type} {field : Field} {value : Value}

/-- Whether a field asks for an integer and is given an infinite number. -/
def Overflows (field : Field) (value : Value) : Prop :=
  field.type = .integer ∧ ∃ isNegative, value = .float (.infinite isNegative)

/--
Whether a field settles a value: it is not infinite where an integer is asked for, and it
can be shown where it is refused.
-/
structure Settles (field : Field) (value : Value) : Prop where
  isFinite : ¬ field.Overflows value
  isShown : field.convert value = .refused → value.isShowable = true

/-- Of values that can be shown, only an infinite one is not settled. -/
theorem settles_iff_of_isShowable
    (isShowable : value.isShowable = true) :
    field.Settles value ↔ ¬ field.Overflows value :=
  ⟨Settles.isFinite, fun isFinite => ⟨isFinite, fun _ => isShowable⟩⟩

/-- What a field should hold for a value: its conversion, or else the default. -/
def valueFor (field : Field) (value : Value) : Value :=
  match field.convert value with
  | .converted result => result
  | _ => field.default

/-- What should be logged about a value: a warning, if it has no conversion. -/
def warnings (field : Field) (value : Value) : List LogAction :=
  match field.convert value with
  | .converted _ => []
  | _ =>
      [.record Logging.configLogger .warning
        ("Invalid value for " ++ field.key ++ ": " ++ value.shown ++ ", using default")]

theorem convert_eq_infinite_iff :
    field.convert value = .infinite ↔ field.Overflows value := by
  constructor
  · intro converts
    have isPresent : value ≠ .null := by
      rintro rfl
      cases converts
    rw [convert_of_present isPresent] at converts
    cases isType : field.type with
    | integer =>
        rw [convertPresent_integer isType] at converts
        cases reads : IntegerReading.ofValue value with
        | infinite =>
            exact ⟨isType, IntegerReading.ofValue_eq_infinite_iff.mp reads⟩
        | _ =>
            rw [reads] at converts
            cases converts
    | boolean =>
        by_cases isTruth : ∃ b, value = .bool b
        · obtain ⟨b, rfl⟩ := isTruth
          simp only [convertPresent, isType] at converts
          cases converts
        · rw [convertPresent_boolean isType (not_exists.mp isTruth)] at converts
          split at converts <;> cases converts
    | text =>
        by_cases hasText : value.isDisplayable = true
        · by_cases isFree : field.choices = []
          · rw [convertPresent_free isType hasText isFree] at converts
            cases converts
          · rw [convertPresent_limited isType hasText isFree] at converts
            cases isFirst : matchingOption? field.choices value.display <;>
              simp [isFirst] at converts
        · rw [convertPresent_textless isType (Bool.eq_false_iff.mpr hasText)] at converts
          cases converts
  · rintro ⟨isInteger, isNegative, rfl⟩
    rw [convert_of_present (by rintro ⟨⟩), convertPresent_integer isInteger]
    rfl

theorem settles_of_converted
    {result : Value}
    (converts : field.convert value = .converted result) :
    field.Settles value where
  isFinite := by
    intro overflows
    rw [convert_eq_infinite_iff.mpr overflows] at converts
    cases converts
  isShown := by
    intro refused
    rw [refused] at converts
    cases converts

/-- A value that is settled is settled as it should be. -/
theorem settle_of_settles
    (settles : field.Settles value)
    (state : σ) :
    field.settle value state =
      { trace := field.warnings value
        state := state
        result := .ok (field.valueFor value) } := by
  unfold settle warnings valueFor
  cases converts : field.convert value with
  | converted result =>
      rfl
  | refused =>
      simp only [settles.isShown converts, if_true]
      rfl
  | infinite =>
      exact absurd (convert_eq_infinite_iff.mp converts) settles.isFinite

/-- With a value that is not settled a field fails. -/
theorem exists_fault_of_not_settles
    (fails : ¬ field.Settles value)
    (state : σ) :
    ∃ fault, (field.settle value state).result = .error fault := by
  rw [result_settle]
  cases converts : field.convert value with
  | converted result =>
      exact absurd (settles_of_converted converts) fails
  | infinite =>
      exact ⟨.infiniteInteger, by rw [settled, converts]⟩
  | refused =>
      have isHidden : ¬ value.isShowable = true := by
        intro isShown
        refine fails ⟨fun overflows => ?_, fun _ => isShown⟩
        rw [convert_eq_infinite_iff.mpr overflows] at converts
        cases converts
      exact ⟨.numeralTooLong, by rw [settled, converts, if_neg isHidden]⟩

/-- A field whose default is converted fails only with what it is given. -/
theorem settles_effectiveValue_iff
    {result : Value}
    (isConverted : field.convert field.default = .converted result)
    (raw : Value) :
    field.Settles (field.effectiveValue raw) ↔ field.Settles raw := by
  by_cases isUnset : raw = .null ∨ raw = .text ""
  · rw [effectiveValue_of_unset field isUnset]
    refine iff_of_true (settles_of_converted isConverted) ⟨?_, fun _ => ?_⟩
    · rintro ⟨-, isNegative, rfl⟩
      rcases isUnset with isNull | isEmpty <;> contradiction
    · rcases isUnset with rfl | rfl <;> rfl
  · obtain ⟨isPresent, isSome⟩ := not_or.mp isUnset
    rw [effectiveValue_of_set field isPresent isSome]

theorem settles_ofText?
    (text : Option String) :
    field.Settles (Value.ofText? text) where
  isFinite := by
    rintro ⟨-, isNegative, isInfinite⟩
    cases text <;> cases isInfinite
  isShown := by
    intro _
    cases text <;> rfl

end Field

namespace Settings

variable {σ : Type} {raw : Field → Value} {fields : List Field}

/-- Fields of which each settles its value are all resolved as they should be. -/
theorem resolveFields_of_settles
    (settle : ∀ field ∈ fields, field.Settles (field.effectiveValue (raw field)))
    (settings : Settings)
    (state : σ) :
    resolveFields raw fields settings state =
      { trace := fields.flatMap fun field => field.warnings (field.effectiveValue (raw field))
        state := state
        result :=
          .ok {
            values :=
              fields.foldl
                (fun values field =>
                  values.insert field.key (field.valueFor (field.effectiveValue (raw field))))
                settings.values } } := by
  induction fields generalizing settings with
  | nil =>
      rfl
  | cons field rest inductionHypothesis =>
      have settles :=
        Field.settle_of_settles (settle field List.mem_cons_self) state
      have restResolves :=
        inductionHypothesis
          (fun later member => settle later (List.mem_cons_of_mem field member))
          { values :=
              settings.values.insert field.key
                (field.valueFor (field.effectiveValue (raw field))) }
      refine (Traced.bind_of_ok (congrArg Outcome.result settles)).trans ?_
      rw [settles, restResolves]
      rfl

/-- One field that does not settle its value is enough for all of them to fail. -/
theorem exists_fault_resolveFields
    {field : Field}
    (member : field ∈ fields)
    (fails : ¬ field.Settles (field.effectiveValue (raw field)))
    (settings : Settings)
    (state : σ) :
    ∃ fault, (resolveFields raw fields settings state).result = .error fault := by
  induction fields generalizing settings with
  | nil =>
      cases member
  | cons first rest inductionHypothesis =>
      by_cases firstSettles : first.Settles (first.effectiveValue (raw first))
      · have settles := Field.settle_of_settles firstSettles state
        have inRest : field ∈ rest := by
          rcases List.mem_cons.mp member with isFirst | inRest
          · subst isFirst
            exact absurd firstSettles fails
          · exact inRest
        obtain ⟨fault, restFails⟩ := inductionHypothesis inRest _
        refine ⟨fault, (congrArg Outcome.result
          (Traced.bind_of_ok (congrArg Outcome.result settles))).trans ?_⟩
        rw [settles]
        exact restFails
      · obtain ⟨fault, firstFails⟩ := Field.exists_fault_of_not_settles firstSettles state
        exact ⟨fault, congrArg Outcome.result (Traced.bind_of_error firstFails)⟩

/-- What should be logged about overrides that no field has. -/
def unknownKeyWarnings (keys : List String) : List LogAction :=
  if keys.isEmpty then
    []
  else
    [.record Logging.configLogger .warning
      ("Ignoring unknown config keys: " ++ Value.shownTexts keys)]

theorem warnUnknownKeys_eq
    (keys : List String)
    (state : σ) :
    warnUnknownKeys keys state =
      { trace := unknownKeyWarnings keys, state := state, result := .ok () } := by
  unfold warnUnknownKeys unknownKeyWarnings
  split <;> rfl

end Settings

/-- A schema of which every default is converted by its own field. -/
def Schema.ConvertsDefaults (schema : Schema) : Prop :=
  ∀ field ∈ schema, ∃ result, field.convert field.default = .converted result

theorem Schema.shipped_convertsDefaults :
    shipped.ConvertsDefaults := by
  intro field member
  simp only [shipped, List.mem_cons, List.not_mem_nil, or_false] at member
  rcases member with rfl | rfl | rfl | rfl | rfl <;> exact ⟨_, rfl⟩

namespace Sources

variable {sources : Sources} {schema : Schema}

/-- The value from which a field is resolved. -/
def start (sources : Sources) (field : Field) : Value :=
  field.effectiveValue (sources.raw field)

/-- The settings that should be built: each field has its conversion or its default. -/
def settings (sources : Sources) (schema : Schema) : Settings where
  values :=
    Table.ofList (schema.map fun field => (field.key, field.valueFor (sources.start field)))

/-- What should be logged when settings are built: what has no conversion, and no field. -/
def warnings (sources : Sources) (schema : Schema) : List LogAction :=
  (schema.flatMap fun field => field.warnings (sources.start field)) ++
    Settings.unknownKeyWarnings (Settings.unknownKeys schema sources.overrides)

/-- Settings are built, and whatever cannot be converted is replaced with a warning. -/
structure FallBack (sources : Sources) (schema : Schema) : Prop where
  result : (sources.build schema).result = .ok (sources.settings schema)
  trace : (sources.build schema).trace = sources.warnings schema

theorem fallBack_of_settles
    (loaded : (sources.loader.load sources.file sources.environment).result = .ok ())
    (settle : ∀ field ∈ schema, field.Settles (sources.start field)) :
    sources.FallBack schema := by
  have resolves :=
    Settings.resolveFields_of_settles settle {}
      (sources.loader.load sources.file sources.environment).state
  have isBuild :
      sources.build schema =
        { trace := sources.warnings schema
          state := (sources.loader.load sources.file sources.environment).state
          result := .ok (sources.settings schema) } := by
    unfold build Settings.build
    rw [Traced.bind_of_ok loaded, Traced.current_bind, rawValue_load loaded,
      Traced.bind_of_ok (congrArg Outcome.result resolves), resolves]
    have warns :=
      Settings.warnUnknownKeys_eq (Settings.unknownKeys schema sources.overrides)
        (sources.loader.load sources.file sources.environment).state
    rw [Traced.bind_of_ok (congrArg Outcome.result warns), warns, EnvFile.Loader.trace_load]
    simp [Traced.done, warnings, settings, start, Table.ofList, List.foldl_map, Table.empty]
  constructor <;> rw [isBuild]

/-- If settings are built at all, then each of their fields settled its value. -/
theorem settles_of_build
    {built : Settings}
    (builds : (sources.build schema).result = .ok built) :
    ∀ field ∈ schema, field.Settles (sources.start field) := by
  intro field member
  by_contra fails
  obtain ⟨-, resolves⟩ := result_build_eq_ok_iff.mp builds
  obtain ⟨fault, notResolved⟩ :=
    Settings.exists_fault_resolveFields member fails {}
      (sources.loader.load sources.file sources.environment).state
  rw [notResolved] at resolves
  cases resolves

/-- Settings that are built are those that should be. -/
theorem eq_settings_of_build
    {built : Settings}
    (builds : (sources.build schema).result = .ok built) :
    built = sources.settings schema := by
  have loaded := (result_build_eq_ok_iff.mp builds).1
  have meant := (fallBack_of_settles loaded (settles_of_build builds)).result
  rw [builds] at meant
  cases meant
  rfl

/-- Of several fields with one key, settings that are built hold the value of the last. -/
theorem get_of_build
    {built : Settings}
    (builds : (sources.build schema).result = .ok built)
    (key : String)
    (substitute : Value) :
    built.get key substitute =
      ((lastBy Field.key schema key).map fun field =>
        field.valueFor (sources.start field)).getD substitute := by
  rw [eq_settings_of_build builds, Settings.get, settings, Table.get?_ofList_map]

/-- Only an override can keep a field from settling, as long as defaults are converted. -/
theorem settles_start_iff
    (converts : schema.ConvertsDefaults)
    {field : Field}
    (member : field ∈ schema) :
    field.Settles (sources.start field) ↔
      ∀ value, sources.overrides.get? field.key = some value → field.Settles value := by
  obtain ⟨result, isConverted⟩ := converts field member
  rw [start, Field.settles_effectiveValue_iff isConverted, raw]
  cases overridden : sources.overrides.get? field.key with
  | some value =>
      simp
  | none =>
      simp [Field.settles_ofText?]

/-- Settings are built as they should, unless loading fails or an override is not settled. -/
theorem fallBack_iff
    (converts : schema.ConvertsDefaults) :
    sources.FallBack schema ↔
      (sources.loader.load sources.file sources.environment).result = .ok () ∧
        ∀ field ∈ schema, ∀ value,
          sources.overrides.get? field.key = some value → field.Settles value := by
  constructor
  · rintro ⟨builds, -⟩
    refine ⟨(result_build_eq_ok_iff.mp builds).1, fun field member => ?_⟩
    exact (settles_start_iff converts member).mp (settles_of_build builds field member)
  · rintro ⟨loaded, settle⟩
    refine fallBack_of_settles loaded fun field member => ?_
    exact (settles_start_iff converts member).mpr (settle field member)

end Sources

namespace Settings

variable {σ : Type} {settings : Settings} {schema : Schema} {key : String} {value : Value}

/-- What a set of a value should leave: a declared key has its conversion or its default. -/
def afterSet (settings : Settings) (schema : Schema) (key : String) (value : Value) :
    Bool × Settings :=
  match schema.field? key with
  | none => (false, settings)
  | some field => (true, { values := settings.values.insert key (field.valueFor value) })

/-- What should be logged about a set. -/
def setWarnings (schema : Schema) (key : String) (value : Value) : List LogAction :=
  match schema.field? key with
  | none => []
  | some field => field.warnings value

theorem set_of_settles
    (settle : ∀ field, schema.field? key = some field → field.Settles value)
    (state : σ) :
    settings.set schema key value state =
      { trace := setWarnings schema key value
        state := state
        result := .ok (settings.afterSet schema key value) } := by
  unfold set setWarnings afterSet
  cases declared : schema.field? key with
  | none =>
      rfl
  | some field =>
      have settles := Field.settle_of_settles (settle field declared) state
      refine (Traced.bind_of_ok (congrArg Outcome.result settles)).trans ?_
      rw [settles]
      simp [Traced.done]

theorem exists_fault_set
    (settings : Settings)
    {field : Field}
    (declared : schema.field? key = some field)
    (fails : ¬ field.Settles value)
    (state : σ) :
    ∃ fault, (settings.set schema key value state).result = .error fault := by
  obtain ⟨fault, notSettled⟩ := Field.exists_fault_of_not_settles fails state
  unfold set
  rw [declared]
  exact ⟨fault, congrArg Outcome.result (Traced.bind_of_error notSettled)⟩

end Settings

namespace Store

variable {store : Store} {name key : String} {value : Value} {settings : Settings}

/-- Settings are created, and whatever cannot be converted is replaced with a warning. -/
def CreateFallsBack
    (name : String)
    (file : Option String)
    (overrides : Overrides)
    (store : Store) :
    Prop :=
  let sources := store.sourcesOf file overrides
  let outcome := create name file overrides store
  outcome.result = .ok (sources.settings store.schema) ∧
    outcome.trace = sources.warnings store.schema

/-- A set succeeds, and what cannot be converted is replaced with a warning. -/
def SetFallsBack (name key : String) (value : Value) (store : Store) : Prop :=
  ∃ settings,
    store.named.get? name = some settings ∧
      setIn name key value store =
        let answer := settings.afterSet store.schema key value
        { trace := Settings.setWarnings store.schema key value
          state := { store with named := store.named.insert name answer.2 }
          result := .ok answer }

/-- Creating settings is building them, with the same outcome. -/
theorem trace_create
    (name : String)
    (file : Option String)
    (overrides : Overrides)
    (store : Store) :
    (create name file overrides store).trace =
      ((store.sourcesOf file overrides).build store.schema).trace := by
  have isBuild :
      (build file overrides store).trace =
        ((store.sourcesOf file overrides).build store.schema).trace :=
    rfl
  rw [← isBuild]
  unfold create
  cases ended : (build file overrides store).result with
  | ok settings =>
      rw [Traced.bind_of_ok ended]
      simp [Traced.done]
  | error fault =>
      rw [Traced.bind_of_error ended]

theorem createFallsBack_iff
    {file : Option String}
    {overrides : Overrides} :
    CreateFallsBack name file overrides store ↔
      (store.sourcesOf file overrides).FallBack store.schema := by
  have sameTrace := trace_create name file overrides store
  constructor
  · rintro ⟨creates, warns⟩
    exact ⟨result_create_eq_ok_iff.mp creates, sameTrace.symm.trans warns⟩
  · rintro ⟨builds, warns⟩
    exact ⟨result_create_eq_ok_iff.mpr builds, sameTrace.trans warns⟩

theorem setFallsBack_iff
    (found : store.named.get? name = some settings) :
    SetFallsBack name key value store ↔
      ∀ field, store.schema.field? key = some field → field.Settles value := by
  constructor
  · rintro ⟨others, -, sets⟩ field declared
    by_contra notSettled
    obtain ⟨fault, fails⟩ :=
      Settings.exists_fault_set settings declared notSettled store
    have setFails : (setIn name key value store).result = .error fault := by
      rw [setIn_of_named found]
      exact congrArg Outcome.result (Traced.bind_of_error fails)
    rw [sets] at setFails
    cases setFails
  · intro settle
    refine ⟨settings, found, ?_⟩
    have sets :
        settings.set store.schema key value store =
          { trace := Settings.setWarnings store.schema key value
            state := store
            result := .ok (settings.afterSet store.schema key value) } :=
      Settings.set_of_settles settle store
    rw [setIn_of_named found, Traced.bind_of_ok (congrArg Outcome.result sets), sets]
    simp [Traced.done]

/-- Settings stay where they are kept, and the schema in force, whatever is set. -/
theorem named_setAll
    (found : store.named.get? name = some settings)
    (assignments : List (String × Value)) :
    let reached := (setAll name assignments store).state
    reached.schema = store.schema ∧ ∃ stored, reached.named.get? name = some stored := by
  have keeps :
      Traced.Keeps
        (fun _ (reached : Store) =>
          reached.schema = store.schema ∧
            ∃ stored, reached.named.get? name = some stored ∧ True)
        (setAll name assignments) :=
    Traced.Keeps.forEach fun assignment _ =>
      (keeps_setIn (fun _ _ _ _ _ _ _ _ => trivial) name assignment.1 assignment.2).attempt
  obtain ⟨inForce, stored, foundStored, -⟩ :=
    keeps [] store ⟨rfl, settings, found, trivial⟩
  exact ⟨inForce, stored, foundStored⟩

/--
Settings are created from whatever is given, and set to whatever is given later, as long
as the file is loaded and every value is settled: what cannot be converted is then replaced
by the default, with a warning.  Of the values that can be shown, only an infinite number
for an integer is not settled.
-/
theorem fallsBackThroughout_iff
    (converts : store.schema.ConvertsDefaults)
    (name : String)
    (file : Option String)
    (overrides : Overrides) :
    (CreateFallsBack name file overrides store ↔
      store.loader.Accepts store.environment (store.contentOf file) ∧
        ∀ field ∈ store.schema, ∀ value,
          overrides.get? field.key = some value → field.Settles value) ∧
      (∀ created,
        (create name file overrides store).result = .ok created →
          ∀ assignments key value,
            SetFallsBack name key value
                (setAll name assignments (create name file overrides store).state).state ↔
              ∀ field, store.schema.field? key = some field → field.Settles value) ∧
        ∀ (field : Field) value,
          value.isShowable = true → (field.Settles value ↔ ¬ field.Overflows value) := by
  refine ⟨?_, ?_, fun field value => Field.settles_iff_of_isShowable⟩
  · rw [createFallsBack_iff, Sources.fallBack_iff converts, EnvFile.Loader.result_load_eq_ok_iff]
    rfl
  intro created creates assignments key value
  obtain ⟨inForce, found⟩ := of_create creates
  obtain ⟨stillInForce, stored, foundStored⟩ := named_setAll found assignments
  rw [setFallsBack_iff foundStored, stillInForce, inForce]

/-- A text that is no integer, a set that fails, and one of a number that is no option. -/
theorem fallsBackThroughout_sample :
    let store := initial Schema.shipped Sources.sample.environment
    let file := Sources.sample.file
    let overrides := Sources.sample.overrides
    let left :=
      (setAll "c" [(Schema.subscriptionKey, .float (.infinite true))]
        (create "c" file overrides store).state).state
    store.schema.ConvertsDefaults ∧
      CreateFallsBack "c" file overrides store ∧
        SetFallsBack "c" Schema.logLevelKey (.int 5) left := by
  intro store file overrides left
  have accepts : store.loader.Accepts store.environment (store.contentOf file) :=
    EnvFile.Loader.result_load_eq_ok_iff.mp
      (Sources.result_build_eq_ok_iff.mp Sources.build_sample).1
  have converts : store.schema.ConvertsDefaults := Schema.shipped_convertsDefaults
  obtain ⟨createdAsMeant, setsAsMeant, settles_iff⟩ :=
    fallsBackThroughout_iff converts "c" file overrides
  refine ⟨converts, createdAsMeant.mpr ⟨accepts, ?_⟩, ?_⟩
  · intro field _ value overridden
    have given := Table.mem_entries_of_get? overridden
    simp only [overrides, Sources.sample, List.mem_cons, Prod.mk.injEq, List.not_mem_nil,
      or_false] at given
    rcases given with ⟨-, rfl⟩ | ⟨-, rfl⟩ <;>
      exact (settles_iff _ _ rfl).mpr fun ⟨_, _, isInfinite⟩ => Value.noConfusion isInfinite
  · refine (setsAsMeant Sources.sampleSettings
      (result_create_eq_ok_iff.mpr Sources.build_sample) _ _ _).mpr fun field _ => ?_
    have isShowable : (Value.int 5).isShowable = true := by
      decide +kernel
    exact (settles_iff _ _ isShowable).mpr fun ⟨_, _, isInfinite⟩ =>
      Value.noConfusion isInfinite

/-- An infinite number for an integer keeps settings from being created at all. -/
theorem not_createFallsBack_infinite :
    let store := initial Schema.shipped Table.empty
    store.schema.ConvertsDefaults ∧
      ¬ CreateFallsBack "c" none ⟨[(Schema.subscriptionKey, .float (.infinite false))]⟩
        store := by
  intro store
  have converts : store.schema.ConvertsDefaults := Schema.shipped_convertsDefaults
  refine ⟨converts, fun fallsBack => ?_⟩
  obtain ⟨-, settle⟩ :=
    (Sources.fallBack_iff converts).mp (createFallsBack_iff.mp fallsBack)
  obtain ⟨field, member, isKey, isInteger⟩ :
      ∃ field ∈ Schema.shipped, field.key = Schema.subscriptionKey ∧ field.type = .integer := by
    decide
  refine (settle field member (.float (.infinite false)) ?_).isFinite ⟨isInteger, false, rfl⟩
  rw [isKey]
  rfl

end Store

end PlatformDouble.Config
