import PlatformDouble.Proofs.Config.Fallback

namespace PlatformDouble.Config

/-!
# Accepted options in validation

Options are matched up to case when a value is converted, but looked up by capital form
when settings are validated.  So a value that was accepted is reported as an invalid
option, unless its capital form is one of the options as they are declared.
-/

/-- Whether a value is one of the options of a field, up to case. -/
def Field.Accepts (field : Field) (value : Value) : Prop :=
  value ≠ .null ∧
    value.isDisplayable = true ∧
      ∃ option ∈ field.choices, Text.uppercase value.display = Text.uppercase option

/-- A value that is accepted is converted to an option of the same capital form. -/
theorem Field.exists_option_of_accepts
    {field : Field}
    {value : Value}
    (isText : field.type = .text)
    (accepted : field.Accepts value) :
    ∃ option,
      field.valueFor value = .text option ∧
        Text.uppercase option = Text.uppercase value.display := by
  obtain ⟨isPresent, hasText, listed, isListed, sameWord⟩ := accepted
  have isLimited : field.choices ≠ [] :=
    List.ne_nil_of_mem isListed
  cases isFirst : matchingOption? field.choices value.display with
  | none =>
      have noneMatches := List.find?_eq_none.mp isFirst listed isListed
      exact absurd (beq_iff_eq.mpr sameWord) noneMatches
  | some option =>
      have sameFirst := List.find?_some isFirst
      refine ⟨option, ?_, (eq_of_beq sameFirst).symm⟩
      rw [valueFor, convert_of_present isPresent,
        convertPresent_limited isText hasText isLimited, isFirst]

namespace Settings

variable {schema : Schema} {field : Field} {value : Value} {settings : Settings}

/-- Settings in which a field holds what it made of a value, and of none that came later. -/
inductive TookIn (schema : Schema) (field : Field) : Value → Settings → Prop where
  /-- The value was an override, a variable or the default when the settings were built. -/
  | built
      {sources : Sources}
      {built : Settings}
      (isLast : lastBy Field.key schema field.key = some field)
      (builds : (sources.build schema).result = .ok built) :
      TookIn schema field (sources.start field) built
  | set
      {σ : Type}
      {state : σ}
      {value : Value}
      {before changed : Settings}
      (declared : schema.field? field.key = some field)
      (answers : (before.set schema field.key value state).result = .ok (true, changed)) :
      TookIn schema field value changed
  /-- Something else was set since, or was tried to be. -/
  | kept
      {σ : Type}
      {state : σ}
      {value other : Value}
      {before changed : Settings}
      {key : String}
      {known : Bool}
      (tookIn : TookIn schema field value before)
      (isOther : key ≠ field.key)
      (answers : (before.set schema key other state).result = .ok (known, changed)) :
      TookIn schema field value changed

/-- Whether validation has it that a field holds none of its options. -/
def ReportsInvalidOption (settings : Settings) (schema : Schema) (field : Field) : Prop :=
  let message :=
    "Invalid option for " ++ field.key ++ ": " ++ (settings.get field.key .null).display
  settings.complaint? field = some message ∧
    ∃ messages, settings.validate schema = .ok (false, messages) ∧ message ∈ messages

/-- Validation never reports an invalid option for a value that the field accepted. -/
def AgreesWithAcceptance (schema : Schema) (field : Field) : Prop :=
  ∀ value settings,
    field.Accepts value →
      TookIn schema field value settings → ¬ settings.ReportsInvalidOption schema field

theorem TookIn.member
    (tookIn : TookIn schema field value settings) :
    field ∈ schema := by
  induction tookIn with
  | built isLast builds =>
      exact (of_lastBy isLast).1
  | set declared answers =>
      exact (Schema.mem_of_field? declared).1
  | kept tookIn isOther answers inductionHypothesis =>
      exact inductionHypothesis

theorem TookIn.get_eq
    (tookIn : TookIn schema field value settings) :
    settings.get field.key .null = field.valueFor value := by
  induction tookIn with
  | built isLast builds =>
      rw [Sources.get_of_build builds, isLast]
      rfl
  | @set σ state value before changed declared answers =>
      have settle : ∀ other, schema.field? field.key = some other → other.Settles value := by
        intro other isDeclared
        by_contra notSettled
        obtain ⟨fault, fails⟩ :=
          exists_fault_set before isDeclared notSettled state
        rw [fails] at answers
        cases answers
      rw [set_of_settles settle, afterSet, declared] at answers
      cases answers
      rw [Settings.get, Table.get?_insert_self]
      rfl
  | kept tookIn isOther answers inductionHypothesis =>
      rcases of_set answers with ⟨-, rfl⟩ | ⟨-, -, -, -, -, rfl⟩
      · exact inductionHypothesis
      · rw [← inductionHypothesis, Settings.get, Settings.get,
          Table.get?_insert_of_ne _ _ isOther]

/-- A text is looked up among the options by its capital form. -/
theorem complaint?_of_text
    {held : String}
    (holds : settings.get field.key .null = .text held)
    (isLimited : field.choices ≠ []) :
    settings.complaint? field =
      if Text.uppercase held ∈ field.choices then
        none
      else
        some ("Invalid option for " ++ field.key ++ ": " ++ held) := by
  have isOffering : field.choices.isEmpty = false :=
    List.isEmpty_eq_false_iff.mpr isLimited
  unfold complaint?
  rw [holds]
  simp only [isOffering, Bool.false_or, List.contains_iff_mem]
  rfl

/-- The complaint about an accepted value is decided by its capital form alone. -/
theorem TookIn.complaint?_eq
    (isText : field.type = .text)
    (accepted : field.Accepts value)
    (tookIn : TookIn schema field value settings) :
    settings.complaint? field =
      if Text.uppercase value.display ∈ field.choices then
        none
      else
        some ("Invalid option for " ++ field.key ++ ": " ++
          (settings.get field.key .null).display) := by
  obtain ⟨option, isOption, sameWord⟩ := Field.exists_option_of_accepts isText accepted
  obtain ⟨-, -, listed, isListed, -⟩ := accepted
  have holds := tookIn.get_eq.trans isOption
  rw [complaint?_of_text holds (List.ne_nil_of_mem isListed), sameWord, holds]
  rfl

theorem TookIn.reports_of_absent
    (isText : field.type = .text)
    (accepted : field.Accepts value)
    (tookIn : TookIn schema field value settings)
    (isAbsent : Text.uppercase value.display ∉ field.choices)
    (haveTexts : settings.isDisplayable schema = true) :
    settings.ReportsInvalidOption schema field := by
  have complains := (tookIn.complaint?_eq isText accepted).trans (if_neg isAbsent)
  have isListed := List.mem_filterMap.mpr ⟨field, tookIn.member, complains⟩
  have isInvalid : (settings.complaints schema).isEmpty = false :=
    List.isEmpty_eq_false_iff.mpr (List.ne_nil_of_mem isListed)
  refine ⟨complains, settings.complaints schema, ?_, isListed⟩
  rw [validate, if_pos haveTexts, isInvalid]

/--
An accepted value is reported as an invalid option exactly if its capital form is not one
of the options as they are declared, and validation goes through, for which every value
that is compared with options needs a text.
-/
theorem TookIn.reportsInvalidOption_iff
    (isText : field.type = .text)
    (accepted : field.Accepts value)
    (tookIn : TookIn schema field value settings) :
    settings.ReportsInvalidOption schema field ↔
      Text.uppercase value.display ∉ field.choices ∧ settings.isDisplayable schema = true := by
  refine ⟨?_, fun ⟨isAbsent, haveTexts⟩ =>
    tookIn.reports_of_absent isText accepted isAbsent haveTexts⟩
  rintro ⟨reported, messages, validates, -⟩
  constructor
  · intro isDeclared
    have silent := (tookIn.complaint?_eq isText accepted).trans (if_pos isDeclared)
    rw [silent] at reported
    cases reported
  · by_contra lackTexts
    rw [validate, if_neg lackTexts] at validates
    cases validates

/-- A switch, with the words for its positions; the first is the default. -/
def switch (words : List String) : Field where
  key := "K"
  type := .text
  default := Value.ofText? words.head?
  variableName := "K"
  options := some words

/-- A word that is declared in capitals too is not reported, in whatever case it is set. -/
theorem TookIn.reportsInvalidOption_set :
    let field := switch ["On", "ON"]
    ∃ changed,
      field.type = .text ∧
        field.Accepts (.text "on") ∧
          TookIn [field] field (.text "on") changed ∧
            ¬ changed.ReportsInvalidOption [field] field := by
  intro field
  have accepted : field.Accepts (.text "on") :=
    ⟨by rintro ⟨⟩, rfl, "On", List.mem_cons_self, by decide +kernel⟩
  have settle : ∀ other, Schema.field? [field] field.key = some other →
      other.Settles (.text "on") :=
    fun other _ => Field.settles_ofText? (some "on")
  let changed := (({} : Settings).afterSet [field] field.key (.text "on")).2
  have answers :
      (({} : Settings).set [field] field.key (.text "on") ()).result = .ok (true, changed) :=
    congrArg Outcome.result (set_of_settles settle ())
  have tookIn : TookIn [field] field (.text "on") changed :=
    TookIn.set rfl answers
  have isDeclared : Text.uppercase (Value.text "on").display ∈ field.choices := by
    decide +kernel
  refine ⟨changed, rfl, accepted, tookIn, fun reported => ?_⟩
  exact ((TookIn.reportsInvalidOption_iff rfl accepted tookIn).mp reported).1 isDeclared

/-- A word that is declared in lower case alone is reported when it is an override. -/
theorem not_agreesWithAcceptance_lowerCase :
    ¬ AgreesWithAcceptance [switch ["on", "off"]] (switch ["on", "off"]) := by
  intro agrees
  let field := switch ["on", "off"]
  let overrides : Overrides := ⟨[("K", .text "on")]⟩
  let sources : Sources := { environment := Table.empty, file := none, overrides := overrides }
  have isOverride : sources.start field = .text "on" :=
    rfl
  have accepted : field.Accepts (sources.start field) := by
    rw [isOverride]
    exact ⟨by rintro ⟨⟩, rfl, "on", List.mem_cons_self, rfl⟩
  have settle : ∀ other ∈ [field], other.Settles (sources.start other) := by
    intro other member
    rw [List.mem_singleton.mp member, isOverride]
    exact Field.settles_ofText? (some "on")
  have loaded : (sources.loader.load sources.file sources.environment).result = .ok () :=
    rfl
  have builds := (Sources.fallBack_of_settles loaded settle).result
  have tookIn : TookIn [field] field (sources.start field) (sources.settings [field]) :=
    TookIn.built rfl builds
  have isAbsent : Text.uppercase (sources.start field).display ∉ field.choices := by
    rw [isOverride]
    decide +kernel
  have haveTexts : (sources.settings [field]).isDisplayable [field] = true := by
    decide +kernel
  exact agrees _ _ accepted tookIn (tookIn.reports_of_absent rfl accepted isAbsent haveTexts)

end Settings

end PlatformDouble.Config
