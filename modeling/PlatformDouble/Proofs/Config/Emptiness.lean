import PlatformDouble.Proofs.Config.Export
import PlatformDouble.Proofs.Config.Loading
import PlatformDouble.Proofs.EnvFile.Emptiness

namespace PlatformDouble

/-!
# Empty variables count as unset

Once a file is loaded, a field cannot tell an empty variable from none.  Loading comes
first, though, and goes by presence.
-/

theorem Value.ofText?_injective
    {text other : Option String}
    (same : Value.ofText? text = Value.ofText? other) :
    text = other := by
  cases text <;> cases other <;> cases same <;> rfl

namespace Config

namespace Field

/-- Of a variable, a field sees its value if it counts as set, and its own default if not. -/
theorem effectiveValue_ofText?
    (field : Field)
    (environment : Environment)
    (name : String) :
    field.effectiveValue (Value.ofText? (environment.get? name)) =
      (environment.setValue? name).elim field.default Value.text := by
  unfold Environment.setValue?
  cases environment.get? name with
  | none =>
      rfl
  | some value =>
      cases isEmpty : value.isEmpty <;>
        simp [Option.filter, isEmpty, Value.ofText?, effectiveValue, Value.isUnset]

theorem effectiveValue_rawValue_congr
    {environment other : Environment}
    (alike : environment.SetAlike other)
    (overrides : Overrides)
    (field : Field) :
    field.effectiveValue (rawValue environment overrides field) =
      field.effectiveValue (rawValue other overrides field) := by
  unfold rawValue
  cases overrides.get? field.key with
  | some value =>
      rfl
  | none =>
      simp only
      rw [effectiveValue_ofText?, effectiveValue_ofText?, alike]

end Field

namespace Settings

/-- Fields that start from values of the same effect are resolved to the same. -/
theorem result_resolveFields_congr
    {σ τ : Type}
    {raw other : Field → Value}
    {fields : List Field}
    (same :
      ∀ field ∈ fields, field.effectiveValue (raw field) = field.effectiveValue (other field))
    (settings : Settings)
    (state : σ)
    (otherState : τ) :
    (resolveFields raw fields settings state).result =
      (resolveFields other fields settings otherState).result := by
  induction fields generalizing settings with
  | nil =>
      rfl
  | cons field rest inductionHypothesis =>
      have sameValue := same field List.mem_cons_self
      have sameRest : ∀ later ∈ rest, _ :=
        fun later member => same later (List.mem_cons_of_mem field member)
      have sameEnd :
          (field.settle (field.effectiveValue (raw field)) state).result =
            (field.settle (field.effectiveValue (other field)) otherState).result := by
        rw [Field.result_settle, Field.result_settle, sameValue]
      unfold resolveFields
      cases ended : (field.settle (field.effectiveValue (raw field)) state).result with
      | ok value =>
          rw [Traced.bind_of_ok ended, Traced.bind_of_ok (sameEnd.symm.trans ended),
            Field.state_settle, Field.state_settle]
          exact inductionHypothesis sameRest _
      | error fault =>
          rw [Traced.bind_of_error ended, Traced.bind_of_error (sameEnd.symm.trans ended)]

section Build

variable
  {loader : EnvFile.Loader} {schema : Schema} {file : Option String} {environment : Environment}

/-- Settings are built from what a file leaves behind as they are built there without a file. -/
theorem result_build_of_load
    (loads : (loader.load file environment).result = .ok ())
    (overrides : Overrides) :
    (build loader schema file overrides environment).result =
      (build loader schema none overrides (loader.load file environment).state).result :=
  congrArg Outcome.result
    (build_of_accepts (EnvFile.Loader.result_load_eq_ok_iff.mp loads) schema overrides)

theorem result_build_of_failed
    {fault : Fault}
    (fails : (loader.load file environment).result = .error fault)
    (overrides : Overrides) :
    (build loader schema file overrides environment).result = .error fault :=
  congrArg Outcome.result (Traced.bind_of_error fails)

/-- Without a file, only the variables that count as set have a part in settings. -/
theorem result_build_none_congr
    {other : Environment}
    (alike : environment.SetAlike other)
    (overrides : Overrides) :
    (build loader schema none overrides environment).result =
      (build loader schema none overrides other).result := by
  rw [result_build_none, result_build_none]
  refine result_resolveFields_congr (fun field _ => ?_) {} environment other
  exact field.effectiveValue_rawValue_congr alike overrides

/-- Without a field there is nothing that can fail once the file is loaded. -/
theorem result_build_nil
    (overrides : Overrides) :
    (build loader [] file overrides environment).result =
      (loader.load file environment).result.map fun _ => {} := by
  cases ended : (loader.load file environment).result with
  | ok answer =>
      rw [result_build_of_load ended, result_build_none]
      rfl
  | error fault =>
      rw [result_build_of_failed ended]
      rfl

/-- Where loading ends in the same way, and with variables alike, so does building. -/
theorem result_build_congr
    {other : Environment}
    (sameEnd : (loader.load file other).result = (loader.load file environment).result)
    (alike :
      (loader.load file environment).result = .ok () →
        Environment.SetAlike
          (loader.load file environment).state
          (loader.load file other).state)
    (overrides : Overrides) :
    (build loader schema file overrides environment).result =
      (build loader schema file overrides other).result := by
  cases ended : (loader.load file environment).result with
  | ok answer =>
      rw [result_build_of_load ended, result_build_of_load (sameEnd.trans ended)]
      exact result_build_none_congr (alike ended) overrides
  | error fault =>
      rw [result_build_of_failed ended, result_build_of_failed (sameEnd.trans ended)]

end Build

section Probe

/-- A schema whose one setting is the value of a variable, or null where that is unset. -/
def probe (name : String) : Schema :=
  [{ key := name, type := .text, variableName := name }]

theorem result_all_probe
    (loader : EnvFile.Loader)
    (name : String)
    (environment : Environment) :
    (build loader (probe name) none Table.empty environment).result.map (·.all (probe name)) =
      .ok ⟨[(name, Value.ofText? (environment.setValue? name))]⟩ := by
  rw [result_build_none]
  let field : Field := { key := name, type := .text, variableName := name }
  have isEffective :
      field.effectiveValue (rawValue environment Table.empty field) =
        Value.ofText? (environment.setValue? name) := by
    refine (field.effectiveValue_ofText? environment name).trans ?_
    cases environment.setValue? name <;> rfl
  have settles :
      field.settled (field.effectiveValue (rawValue environment Table.empty field)) =
        .ok (Value.ofText? (environment.setValue? name)) := by
    rw [isEffective]
    cases environment.setValue? name <;> rfl
  have resolves :
      (resolveFields (rawValue environment Table.empty) (probe name) {} environment).result =
        .ok ⟨Table.empty.insert name (Value.ofText? (environment.setValue? name))⟩ := by
    refine Traced.result_bind_eq_ok_iff.mpr ⟨_, ?_, rfl⟩
    rw [Field.result_settle]
    exact settles
  have isAll :
      (⟨Table.empty.insert name (Value.ofText? (environment.setValue? name))⟩ :
          Settings).all (probe name) =
        ⟨[(name, Value.ofText? (environment.setValue? name))]⟩ := by
    simp only [all, probe, get, List.map_cons, List.map_nil, Table.get?_insert_self,
      Option.getD_some]
    rfl
  rw [resolves, Except.map, isAll]

end Probe

/-- In what sense a variable counts as unset if it is empty, and where it does not. -/
structure EmptyCountsAsUnset
    (loader : EnvFile.Loader)
    (file : Option String)
    (environment : Environment)
    (name : String) :
    Prop where
  /-- Once the file is loaded, the variable may as well not be there. -/
  resolved :
    (loader.load file environment).result = .ok () →
      ∀ schema overrides,
        (build loader schema file overrides environment).result =
          (build loader schema none overrides
            ((loader.load file environment).state.erase name)).result
  /-- It may as well not be there before, if loading does the same without it, and only then. -/
  unloaded :
    (∀ schema overrides,
        (build loader schema file overrides environment).result.map (·.all schema) =
          (build loader schema file overrides (environment.erase name)).result.map
            (·.all schema)) ↔
      (loader.load file (environment.erase name)).result =
          (loader.load file environment).result ∧
        ((loader.load file environment).result = .ok () →
          Environment.SetAlike
            (loader.load file environment).state
            (loader.load file (environment.erase name)).state)
  /-- So it is with every file that is silent about it. -/
  silent :
    loader.IsSilentAbout name environment file →
      ∀ schema overrides,
        (build loader schema file overrides environment).result =
          (build loader schema file overrides (environment.erase name)).result
  /-- Such is a text that binds it to empty texts only and gives no default for it. -/
  silentText :
    ∀ text,
      file = some text →
        loader = .standard →
          EnvFile.IsSilentAbout name text → loader.IsSilentAbout name environment file

/-- An empty variable counts as unset where settings are resolved, not where a file is loaded. -/
theorem emptyCountsAsUnset
    (loader : EnvFile.Loader)
    (file : Option String)
    {environment : Environment}
    {name : String}
    (isEmpty : environment.get? name = some "")
    (isNamed : Environment.checkVariable name "" = .ok ()) :
    EmptyCountsAsUnset loader file environment name where
  resolved := by
    intro loads schema overrides
    rw [result_build_of_load loads]
    have stillEmpty : (loader.load file environment).state.get? name = some "" :=
      EnvFile.Loader.get?_load_of_some isEmpty file
    exact result_build_none_congr (Environment.setAlike_erase stillEmpty) overrides
  unloaded := by
    constructor
    · intro sameAll
      have sameEnd :
          (loader.load file (environment.erase name)).result =
            (loader.load file environment).result := by
        have sameNil := sameAll [] Table.empty
        rw [result_build_nil, result_build_nil] at sameNil
        cases ended : (loader.load file environment).result <;>
          cases endedErased : (loader.load file (environment.erase name)).result <;>
            simp_all [Except.map]
      refine ⟨sameEnd, fun loads defined => ?_⟩
      have same := sameAll (probe defined) Table.empty
      rw [result_build_of_load loads, result_build_of_load (sameEnd.trans loads),
        result_all_probe, result_all_probe] at same
      simp only [Except.ok.injEq, Table.mk.injEq, List.cons.injEq, Prod.mk.injEq, true_and,
        and_true] at same
      exact Value.ofText?_injective same
    · rintro ⟨sameEnd, alike⟩ schema overrides
      rw [result_build_congr sameEnd alike overrides]
  silent := by
    intro silent schema overrides
    refine result_build_congr (EnvFile.result_load_erase isEmpty isNamed silent) ?_ overrides
    exact EnvFile.setAlike_load_erase isEmpty isNamed silent
  silentText := by
    rintro text rfl rfl silent
    exact EnvFile.Loader.standard_isSilentAbout isEmpty silent

/-- A file that binds an empty variable to the empty text, and refers to it without a default. -/
theorem emptyCountsAsUnset_locale :
    let environment : Environment := ⟨[(Schema.localeKey, "")]⟩
    let text := "TELEHOST_LOCALE=\nTELEHOST_OP_PACKAGE_NAME=org.$\x7bTELEHOST_LOCALE\x7dx\n"
    environment.get? Schema.localeKey = some "" ∧
      Environment.checkVariable Schema.localeKey "" = .ok () ∧
        EnvFile.IsSilentAbout Schema.localeKey text ∧
          (build .standard Schema.shipped (some text) Table.empty environment).result =
            (build .standard Schema.shipped (some text) Table.empty
              (environment.erase Schema.localeKey)).result := by
  intro environment text
  have isEmpty : environment.get? Schema.localeKey = some "" :=
    rfl
  have isNamed : Environment.checkVariable Schema.localeKey "" = .ok () :=
    rfl
  have silent : EnvFile.IsSilentAbout Schema.localeKey text := {
    binds := by
      decide +kernel
    refers := by
      decide +kernel }
  have counts := emptyCountsAsUnset .standard (some text) isEmpty isNamed
  exact ⟨isEmpty, isNamed, silent,
    counts.silent (counts.silentText text rfl rfl silent) Schema.shipped Table.empty⟩

/-- The defaults of the shipped schema, with a locale. -/
def localeSettings (locale : String) : Settings :=
  ⟨⟨[(Schema.logLevelKey, .text "INFO"), (Schema.localeKey, .text locale),
    (Schema.opPackageKey, .text "test"), (Schema.subscriptionKey, .int 1),
    (Schema.headsetKey, .bool false)]⟩⟩

/-- A file that gives a variable a value does so where it is not there, not where it is empty. -/
theorem all_ne_of_empty_locale :
    let environment : Environment := ⟨[(Schema.localeKey, "")]⟩
    let file := some "TELEHOST_LOCALE=fr\n"
    environment.get? Schema.localeKey = some "" ∧
      (build .standard Schema.shipped file Table.empty environment).result =
          .ok (localeSettings "zh_TW") ∧
        (build .standard Schema.shipped file Table.empty
              (environment.erase Schema.localeKey)).result =
            .ok (localeSettings "fr") ∧
          (localeSettings "zh_TW").all Schema.shipped ≠
            (localeSettings "fr").all Schema.shipped := by
  intro environment file
  have defined :
      EnvFile.Loader.standard.definitions environment file =
        ⟨[(Schema.localeKey, some "fr")]⟩ := by
    decide +kernel
  have definedErased :
      EnvFile.Loader.standard.definitions (environment.erase Schema.localeKey) file =
        ⟨[(Schema.localeKey, some "fr")]⟩ := by
    decide +kernel
  have loaded :
      EnvFile.Loader.standard.load file environment = Traced.done () environment := by
    rw [EnvFile.Loader.load_apply, defined]
    rfl
  have loadedErased :
      EnvFile.Loader.standard.load file (environment.erase Schema.localeKey) =
        Traced.done () ⟨[(Schema.localeKey, "fr")]⟩ := by
    rw [EnvFile.Loader.load_apply, definedErased]
    rfl
  refine ⟨rfl, ?_, ?_, fun same => ?_⟩
  · rw [result_build_of_load (congrArg Outcome.result loaded), loaded]
    have isEmpty : environment.get? Schema.localeKey = some "" := rfl
    have noneLeft : environment.erase Schema.localeKey = Table.empty := rfl
    refine (result_build_none_congr (Environment.setAlike_erase isEmpty) Table.empty).trans ?_
    rw [noneLeft, result_build_none]
    rfl
  · rw [result_build_of_load (congrArg Outcome.result loadedErased), loadedErased,
      result_build_none]
    rfl
  · have sameLocale :
        some (Value.text "zh_TW") = some (Value.text "fr") :=
      congrArg (fun values : Table String Value => values.get? Schema.localeKey) same
    exact absurd (Value.text.inj (Option.some.inj sameLocale)) (by decide)

end Settings

end Config

end PlatformDouble
