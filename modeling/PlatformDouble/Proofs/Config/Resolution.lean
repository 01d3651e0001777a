import PlatformDouble.Config.Settings
import PlatformDouble.Proofs.EnvFile.Loading

namespace PlatformDouble.Config

/-!
# How settings are resolved

Every setting comes from its own field: the override of its key, else its variable,
else its default.  The variable is that of the process, else that of the file.  No
other field and no other override has a part in it.
-/

/--
What a field makes of a value.  A value without a text is taken for no word and no
option, and no default stands in for a value that cannot be shown.
-/
inductive Field.Converts (field : Field) : Value → Value → Prop where
  | null :
      field.Converts .null .null
  | integer
      {value : Value}
      {number : Int}
      (isInteger : field.type = .integer)
      (reads : IntegerReading.ofValue value = .integer number) :
      field.Converts value (.int number)
  | truth
      (b : Bool)
      (isBoolean : field.type = .boolean) :
      field.Converts (.bool b) (.bool b)
  | word
      {value : Value}
      (isBoolean : field.type = .boolean)
      (isPresent : value ≠ .null)
      (isNoTruth : ∀ b, value ≠ .bool b)
      (hasText : value.isDisplayable = true) :
      field.Converts value (.bool (isTrueWord value.display))
  | text
      {value : Value}
      (isText : field.type = .text)
      (isPresent : value ≠ .null)
      (hasText : value.isDisplayable = true)
      (isFree : field.choices = []) :
      field.Converts value (.text value.display)
  | option
      {value : Value}
      {option : String}
      (isText : field.type = .text)
      (isPresent : value ≠ .null)
      (hasText : value.isDisplayable = true)
      (isFirst : matchingOption? field.choices value.display = some option) :
      field.Converts value (.text option)
  /-- The default stands in for what is no integer, and is not converted itself. -/
  | unreadable
      {value : Value}
      (isInteger : field.type = .integer)
      (isPresent : value ≠ .null)
      (isUnreadable : IntegerReading.ofValue value = .unreadable)
      (isShown : value.isShowable = true) :
      field.Converts value field.default
  /-- The default stands in for what is no option. -/
  | unmatched
      {value : Value}
      (isText : field.type = .text)
      (isPresent : value ≠ .null)
      (isLimited : field.choices ≠ [])
      (isNoOption : matchingOption? field.choices value.display = none)
      (isShown : value.isShowable = true) :
      field.Converts value field.default

namespace Field

variable {σ : Type} {field : Field} {value result : Value}

theorem convert_of_present
    (isPresent : value ≠ .null) :
    field.convert value = field.convertPresent value := by
  cases value with
  | null =>
      exact absurd rfl isPresent
  | _ =>
      rfl

theorem convertPresent_integer
    (isInteger : field.type = .integer) :
    field.convertPresent value =
      match IntegerReading.ofValue value with
      | .integer number => .converted (.int number)
      | .unreadable => .refused
      | .infinite => .infinite := by
  cases reads : IntegerReading.ofValue value <;>
    simp only [convertPresent, isInteger, reads]

theorem convertPresent_boolean
    (isBoolean : field.type = .boolean)
    (isNoTruth : ∀ b, value ≠ .bool b) :
    field.convertPresent value =
      if value.isDisplayable then
        .converted (.bool (isTrueWord value.display))
      else
        .refused := by
  cases value with
  | bool b =>
      exact absurd rfl (isNoTruth b)
  | _ =>
      simp only [convertPresent, isBoolean]

theorem convertPresent_textless
    (isText : field.type = .text)
    (hasNoText : value.isDisplayable = false) :
    field.convertPresent value = .refused := by
  simp [convertPresent, isText, hasNoText]

theorem convertPresent_free
    (isText : field.type = .text)
    (hasText : value.isDisplayable = true)
    (isFree : field.choices = []) :
    field.convertPresent value = .converted (.text value.display) := by
  simp [convertPresent, isText, hasText, isFree]

theorem convertPresent_limited
    (isText : field.type = .text)
    (hasText : value.isDisplayable = true)
    (isLimited : field.choices ≠ []) :
    field.convertPresent value =
      match matchingOption? field.choices value.display with
      | some option => .converted (.text option)
      | none => .refused := by
  cases isFirst : matchingOption? field.choices value.display <;>
    simp [convertPresent, isText, hasText, isLimited, isFirst]

theorem effectiveValue_of_unset
    (field : Field)
    {raw : Value}
    (isUnset : raw = .null ∨ raw = .text "") :
    field.effectiveValue raw = field.default := by
  rcases isUnset with rfl | rfl <;> rfl

theorem effectiveValue_of_set
    (field : Field)
    {raw : Value}
    (isPresent : raw ≠ .null)
    (isSome : raw ≠ .text "") :
    field.effectiveValue raw = raw := by
  cases raw with
  | null =>
      exact absurd rfl isPresent
  | text s =>
      have notEmpty : s ≠ "" := fun isEmpty => isSome (congrArg Value.text isEmpty)
      simp [effectiveValue, Value.isUnset, notEmpty]
  | _ =>
      rfl

/-- What a value is settled to, if it is not infinite and can be shown where it is refused. -/
def settled (field : Field) (value : Value) : Except Fault Value :=
  match field.convert value with
  | .converted result => .ok result
  | .infinite => .error .infiniteInteger
  | .refused => if value.isShowable then .ok field.default else .error .numeralTooLong

@[simp] theorem result_settle
    (state : σ) :
    (field.settle value state).result = field.settled value := by
  unfold settle settled
  cases field.convert value with
  | refused =>
      cases value.isShowable <;> rfl
  | _ =>
      rfl

@[simp] theorem state_settle
    (state : σ) :
    (field.settle value state).state = state := by
  unfold settle
  cases field.convert value with
  | refused =>
      cases value.isShowable <;> rfl
  | _ =>
      rfl

/-- The default stands in for a refused value that can be shown, and for no other. -/
theorem settled_of_refused
    (refused : field.convert value = .refused) :
    field.settled value = .ok result ↔
      value.isShowable = true ∧ result = field.default := by
  rw [settled, refused]
  by_cases isShown : value.isShowable = true
  · simp [isShown, eq_comm]
  · simp [isShown]

/-- A value is settled to whatever the field makes of it. -/
theorem settled_eq_ok_iff :
    field.settled value = .ok result ↔ field.Converts value result := by
  constructor
  · intro settles
    by_cases isPresent : value = .null
    · subst isPresent
      cases settles
      exact .null
    have isConvert : field.convert value = _ := convert_of_present isPresent
    cases isType : field.type with
    | integer =>
        rw [convertPresent_integer isType] at isConvert
        cases reads : IntegerReading.ofValue value with
        | integer number =>
            rw [settled, isConvert, reads] at settles
            cases settles
            exact .integer isType reads
        | unreadable =>
            rw [reads] at isConvert
            obtain ⟨isShown, rfl⟩ := (settled_of_refused isConvert).mp settles
            exact .unreadable isType isPresent reads isShown
        | infinite =>
            rw [settled, isConvert, reads] at settles
            cases settles
    | boolean =>
        by_cases isTruth : ∃ b, value = .bool b
        · obtain ⟨b, rfl⟩ := isTruth
          simp only [settled, convert, convertPresent, isType] at settles
          cases settles
          exact .truth b isType
        · have isNoTruth : ∀ b, value ≠ .bool b := not_exists.mp isTruth
          rw [convertPresent_boolean isType isNoTruth] at isConvert
          by_cases hasText : value.isDisplayable = true
          · rw [settled, isConvert, if_pos hasText] at settles
            cases settles
            exact .word isType isPresent isNoTruth hasText
          · rw [if_neg hasText] at isConvert
            obtain ⟨isShown, -⟩ := (settled_of_refused isConvert).mp settles
            exact absurd (Value.isDisplayable_of_isShowable isShown) hasText
    | text =>
        by_cases hasText : value.isDisplayable = true
        · by_cases isFree : field.choices = []
          · rw [settled, isConvert, convertPresent_free isType hasText isFree] at settles
            cases settles
            exact .text isType isPresent hasText isFree
          · rw [convertPresent_limited isType hasText isFree] at isConvert
            cases isFirst : matchingOption? field.choices value.display with
            | some option =>
                rw [settled, isConvert, isFirst] at settles
                cases settles
                exact .option isType isPresent hasText isFirst
            | none =>
                rw [isFirst] at isConvert
                obtain ⟨isShown, rfl⟩ := (settled_of_refused isConvert).mp settles
                exact .unmatched isType isPresent isFree isFirst isShown
        · rw [convertPresent_textless isType (Bool.eq_false_iff.mpr hasText)] at isConvert
          obtain ⟨isShown, -⟩ := (settled_of_refused isConvert).mp settles
          exact absurd (Value.isDisplayable_of_isShowable isShown) hasText
  · intro converts
    cases converts with
    | null =>
        rfl
    | integer isInteger reads =>
        have isPresent : value ≠ .null := by
          rintro rfl
          cases reads
        rw [settled, convert_of_present isPresent, convertPresent_integer isInteger, reads]
    | truth b isBoolean =>
        simp only [settled, convert, convertPresent, isBoolean]
    | word isBoolean isPresent isNoTruth hasText =>
        rw [settled, convert_of_present isPresent, convertPresent_boolean isBoolean isNoTruth,
          if_pos hasText]
    | text isText isPresent hasText isFree =>
        rw [settled, convert_of_present isPresent, convertPresent_free isText hasText isFree]
    | option isText isPresent hasText isFirst =>
        have isLimited : field.choices ≠ [] := by
          intro isFree
          rw [isFree] at isFirst
          cases isFirst
        rw [settled, convert_of_present isPresent,
          convertPresent_limited isText hasText isLimited, isFirst]
    | unreadable isInteger isPresent isUnreadable isShown =>
        refine (settled_of_refused ?_).mpr ⟨isShown, rfl⟩
        rw [convert_of_present isPresent, convertPresent_integer isInteger, isUnreadable]
    | unmatched isText isPresent isLimited isNoOption isShown =>
        refine (settled_of_refused ?_).mpr ⟨isShown, rfl⟩
        rw [convert_of_present isPresent,
          convertPresent_limited isText (Value.isDisplayable_of_isShowable isShown) isLimited,
          isNoOption]

end Field

namespace Settings

variable {σ : Type} {raw : Field → Value}

/-- A value is that of its own field, and a key without a field keeps its value. -/
theorem of_resolveFields
    {fields : List Field}
    (distinct : (fields.map Field.key).Nodup)
    {settings resolved : Settings}
    {state : σ}
    (resolves : (resolveFields raw fields settings state).result = .ok resolved) :
    (∀ field ∈ fields,
      ∃ value,
        resolved.values.get? field.key = some value ∧
          field.settled (field.effectiveValue (raw field)) = .ok value) ∧
      ∀ key,
        key ∉ fields.map Field.key →
          resolved.values.get? key = settings.values.get? key := by
  induction fields generalizing settings with
  | nil =>
      cases resolves
      exact ⟨fun _ member => absurd member List.not_mem_nil, fun _ _ => rfl⟩
  | cons first rest inductionHypothesis =>
      obtain ⟨firstNew, restDistinct⟩ := List.nodup_cons.mp distinct
      obtain ⟨value, settles, restResolves, -⟩ := Traced.of_bind_ok resolves
      rw [Field.result_settle] at settles
      rw [Field.state_settle] at restResolves
      obtain ⟨restHolds, othersKept⟩ := inductionHypothesis restDistinct restResolves
      refine ⟨fun field member => ?_, fun key absent => ?_⟩
      · rcases List.mem_cons.mp member with isFirst | inRest
        · subst isFirst
          refine ⟨value, ?_, settles⟩
          rw [othersKept _ firstNew, Table.get?_insert_self]
        · exact restHolds field inRest
      · obtain ⟨notFirst, notInRest⟩ := not_or.mp (mt List.mem_cons.mpr absent)
        rw [othersKept key notInRest, Table.get?_insert_of_ne _ _ (Ne.symm notFirst)]

theorem resolveFields_congr
    {fields : List Field}
    (other : Field → Value)
    (same : ∀ field ∈ fields, raw field = other field)
    (settings : Settings) :
    (resolveFields raw fields settings : Traced LogAction σ Settings) =
      resolveFields other fields settings := by
  induction fields generalizing settings with
  | nil =>
      rfl
  | cons field rest inductionHypothesis =>
      have restSame : ∀ later ∈ rest, raw later = other later :=
        fun later member => same later (List.mem_cons_of_mem field member)
      unfold resolveFields
      rw [same field List.mem_cons_self]
      congr 1
      funext value
      exact inductionHypothesis restSame _

@[simp] theorem result_warnUnknownKeys
    (keys : List String)
    (state : σ) :
    (warnUnknownKeys keys state).result = .ok () := by
  unfold warnUnknownKeys
  split <;> rfl

end Settings

/-- What a schema is resolved from. -/
structure Sources where
  loader : EnvFile.Loader := .standard
  environment : Environment
  /-- The content of the file, if there is one. -/
  file : Option String
  overrides : Overrides

namespace Sources

def build (sources : Sources) (schema : Schema) : Outcome LogAction Environment Settings :=
  Settings.build sources.loader schema sources.file sources.overrides sources.environment

/-- The value of a variable: that of the process, even if it is empty, else that of the file. -/
def valueOf? (sources : Sources) (name : String) : Option String :=
  (sources.environment.get? name).or
    (sources.loader.gives? sources.environment sources.file name)

/-- The value of a field before it is converted: an override, whatever it is, else a variable. -/
def raw (sources : Sources) (field : Field) : Value :=
  match sources.overrides.get? field.key with
  | some value => value
  | none => Value.ofText? (sources.valueOf? field.variableName)

variable {sources : Sources} {schema : Schema} {settings : Settings}

/-- In an environment that has loaded the file, fields start from the values of the sources. -/
theorem rawValue_load
    (loaded : (sources.loader.load sources.file sources.environment).result = .ok ()) :
    rawValue (sources.loader.load sources.file sources.environment).state sources.overrides =
      sources.raw := by
  funext field
  cases overridden : sources.overrides.get? field.key <;>
    simp only [rawValue, raw, valueOf?, overridden, EnvFile.Loader.get?_load loaded]

/-- Settings are built when the file is loaded and then every field is resolved. -/
theorem result_build_eq_ok_iff :
    (sources.build schema).result = .ok settings ↔
      (sources.loader.load sources.file sources.environment).result = .ok () ∧
        (Settings.resolveFields sources.raw schema {}
          (sources.loader.load sources.file sources.environment).state).result = .ok settings := by
  unfold build Settings.build
  simp only [Traced.result_bind_eq_ok_iff, Settings.result_warnUnknownKeys,
    Traced.current, Traced.done, Except.ok.injEq, exists_eq_left', exists_eq_right,
    exists_const, true_and]
  constructor
  · rintro ⟨⟨⟩, loaded, resolves⟩
    rw [rawValue_load loaded] at resolves
    exact ⟨loaded, resolves⟩
  · rintro ⟨loaded, resolves⟩
    rw [← rawValue_load loaded] at resolves
    exact ⟨(), loaded, resolves⟩

/-- Every field of a schema is resolved, from its own value. -/
theorem exists_settled_of_build
    (distinct : (schema.map Field.key).Nodup)
    (builds : (sources.build schema).result = .ok settings)
    {field : Field}
    (member : field ∈ schema) :
    ∃ value,
      settings.values.get? field.key = some value ∧
        field.settled (field.effectiveValue (sources.raw field)) = .ok value := by
  obtain ⟨-, resolves⟩ := result_build_eq_ok_iff.mp builds
  exact (Settings.of_resolveFields distinct resolves).1 field member

end Sources

namespace Sources

/-- A variable that is empty, one that only the file has, and an override that is no integer. -/
def sample : Sources where
  environment := ⟨[(Schema.localeKey, "")]⟩
  file := some "TELEHOST_LOCALE=de\nTELEHOST_OP_PACKAGE_NAME=org.x\n"
  overrides := ⟨[(Schema.subscriptionKey, .text "seven"), ("OTHER", .null)]⟩

/-- What is built from the sample. -/
def sampleSettings : Settings where
  values := ⟨[
    (Schema.logLevelKey, .text "INFO"),
    (Schema.localeKey, .text "zh_TW"),
    (Schema.opPackageKey, .text "org.x"),
    (Schema.subscriptionKey, .int 1),
    (Schema.headsetKey, .bool false)]⟩

theorem definitions_sample :
    sample.loader.definitions sample.environment sample.file =
      ⟨[(Schema.localeKey, some "de"), (Schema.opPackageKey, some "org.x")]⟩ := by
  decide +kernel

theorem build_sample :
    (sample.build Schema.shipped).result = .ok sampleSettings := by
  have loaded : (sample.loader.load sample.file sample.environment).result = .ok () := by
    rw [EnvFile.Loader.load_apply, definitions_sample]
    rfl
  refine result_build_eq_ok_iff.mpr ⟨loaded, ?_⟩
  have isRaw :
      ∀ field,
        sample.raw field =
          match sample.overrides.get? field.key with
          | some value => value
          | none =>
              Value.ofText?
                ((sample.environment.get? field.variableName).or
                  ((Table.mk [
                    (Schema.localeKey, some "de"),
                    (Schema.opPackageKey, some "org.x")]).get? field.variableName).join) := by
    intro field
    rw [raw, valueOf?, EnvFile.Loader.gives?, definitions_sample]
  rw [Settings.resolveFields_congr _ fun field _ => isRaw field]
  rfl

end Sources

end PlatformDouble.Config
