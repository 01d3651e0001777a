import PlatformDouble.Config.Store
import PlatformDouble.Proofs.Config.Resolution

namespace PlatformDouble.Config

/-!
# What stored settings look like

A value that is stored is null or of the form to which its field converts.  So it is
converted to itself, and storing it once more changes nothing.
-/

/-- Whether a value is null or of the form to which a field converts. -/
def Field.Admits (field : Field) : Value → Prop
  | .null => True
  | .int _ => field.type = .integer
  | .bool _ => field.type = .boolean
  | .text s =>
      field.type = .text ∧
        (field.choices ≠ [] → matchingOption? field.choices s = some s)
  | _ => False

instance (field : Field) : (value : Value) → Decidable (field.Admits value)
  | .null => isTrue trivial
  | .int _ => inferInstanceAs (Decidable (field.type = .integer))
  | .bool _ => inferInstanceAs (Decidable (field.type = .boolean))
  | .text s =>
      inferInstanceAs
        (Decidable
          (field.type = .text ∧
            (field.choices ≠ [] → matchingOption? field.choices s = some s)))
  | .float _ => isFalse id
  | .list _ => isFalse id
  | .object _ => isFalse id
  | .constant _ => isFalse id
  | .member _ _ _ => isFalse id

/-- Whether a value can be refused by a field, which then takes its default as it is. -/
def Field.FallsBack (field : Field) : Prop :=
  field.type = .integer ∨ field.type = .text ∧ field.choices ≠ []

instance (field : Field) : Decidable field.FallsBack :=
  inferInstanceAs (Decidable (field.type = .integer ∨ field.type = .text ∧ field.choices ≠ []))

/-- A schema of which every default that is taken as it is, is admitted by its field. -/
def Schema.AdmitsDefaults (schema : Schema) : Prop :=
  ∀ field ∈ schema, field.FallsBack → field.Admits field.default

/-- The option that a text matches is matched by no earlier option either. -/
theorem matchingOption?_self
    {options : List String}
    {s option : String}
    (isFirst : matchingOption? options s = some option) :
    matchingOption? options option = some option := by
  unfold matchingOption? at isFirst ⊢
  have sameWord := List.find?_some isFirst
  rw [← eq_of_beq sameWord]
  exact isFirst

namespace Field

variable {field : Field} {value result : Value}

/-- What a field makes of a value it admits, as long as it admits its default. -/
theorem admits_of_converts
    (default : field.FallsBack → field.Admits field.default)
    (converts : field.Converts value result) :
    field.Admits result := by
  cases converts with
  | null =>
      trivial
  | integer isInteger _ =>
      exact isInteger
  | truth _ isBoolean =>
      exact isBoolean
  | word isBoolean _ _ _ =>
      exact isBoolean
  | text isText _ _ isFree =>
      exact ⟨isText, fun isLimited => absurd isFree isLimited⟩
  | option isText _ _ isFirst =>
      exact ⟨isText, fun _ => matchingOption?_self isFirst⟩
  | unreadable isInteger _ _ _ =>
      exact default (.inl isInteger)
  | unmatched isText _ isLimited _ _ =>
      exact default (.inr ⟨isText, isLimited⟩)

/-- A field for texts admits null and texts, one of its options if it has any. -/
theorem text_of_admits
    (isText : field.type = .text)
    (admitted : field.Admits value) :
    value = .null ∨
      ∃ s, value = .text s ∧ (field.choices ≠ [] → s ∈ field.choices) := by
  cases value with
  | null =>
      exact .inl rfl
  | text s =>
      exact .inr ⟨s, rfl, fun isLimited => List.mem_of_find?_eq_some (admitted.2 isLimited)⟩
  | int number =>
      cases isText.symm.trans admitted
  | bool b =>
      cases isText.symm.trans admitted
  | float | list | object | constant | member =>
      cases admitted

/-- What a field admits it leaves as it is. -/
theorem convert_of_admits
    (admitted : field.Admits value) :
    field.convert value = .converted value := by
  cases value with
  | null =>
      rfl
  | bool b =>
      have isBoolean : field.type = .boolean := admitted
      simp only [convert, convertPresent, isBoolean]
  | int number =>
      have isInteger : field.type = .integer := admitted
      simp only [convert, convertPresent, isInteger, IntegerReading.ofValue]
  | text s =>
      obtain ⟨isText, isOption⟩ := admitted
      by_cases isFree : field.choices = []
      · exact convertPresent_free isText rfl isFree
      · refine (convertPresent_limited isText rfl isFree).trans ?_
        rw [show (Value.text s).display = s from rfl, isOption isFree]
  | float | list | object | constant | member =>
      cases admitted

theorem settle_of_admits
    {σ : Type}
    (admitted : field.Admits value) :
    (field.settle value : Traced LogAction σ Value) = Traced.done value := by
  simp only [settle, convert_of_admits admitted]

end Field

namespace Schema

variable {schema : Schema} {key : String} {field : Field}

theorem mem_of_field?
    (declared : schema.field? key = some field) :
    field ∈ schema ∧ field.key = key := by
  unfold field? at declared
  have sameKey := List.find?_some declared
  exact ⟨List.mem_of_find?_eq_some declared, eq_of_beq sameKey⟩

/-- Where keys are distinct, every field is found by its own. -/
theorem field?_of_mem
    (distinct : (schema.map Field.key).Nodup)
    (member : field ∈ schema) :
    schema.field? field.key = some field := by
  induction schema with
  | nil =>
      exact absurd member List.not_mem_nil
  | cons first rest inductionHypothesis =>
      obtain ⟨firstNew, restDistinct⟩ := List.nodup_cons.mp distinct
      rcases List.mem_cons.mp member with isFirst | inRest
      · subst isFirst
        simp [field?]
      · have notFirst : first.key ≠ field.key := by
          intro sameKey
          rw [sameKey] at firstNew
          exact firstNew (List.mem_map_of_mem inRest)
        simpa [field?, notFirst] using inductionHypothesis restDistinct inRest

end Schema

/-- The settings of a schema: every field has a value it admits, and nothing else has any. -/
structure Settings.ConformTo (settings : Settings) (schema : Schema) : Prop where
  declared :
    ∀ field ∈ schema,
      ∃ value, settings.values.get? field.key = some value ∧ field.Admits value
  undeclared :
    ∀ key, key ∉ schema.map Field.key → settings.values.get? key = none

namespace Settings

variable {σ : Type} {schema : Schema} {settings changed : Settings} {key : String}

theorem ConformTo.admits_get
    (conforms : settings.ConformTo schema)
    {field : Field}
    (member : field ∈ schema) :
    field.Admits (settings.get field.key .null) := by
  obtain ⟨value, found, admitted⟩ := conforms.declared field member
  rw [Settings.get, found]
  exact admitted

theorem build_conformTo
    (distinct : (schema.map Field.key).Nodup)
    (defaults : schema.AdmitsDefaults)
    {sources : Sources}
    (builds : (sources.build schema).result = .ok settings) :
    settings.ConformTo schema := by
  obtain ⟨-, resolves⟩ := Sources.result_build_eq_ok_iff.mp builds
  obtain ⟨settled, othersKept⟩ := of_resolveFields distinct resolves
  refine ⟨fun field member => ?_, fun key absent => othersKept key absent⟩
  obtain ⟨value, found, settles⟩ := settled field member
  exact ⟨value, found,
    Field.admits_of_converts (defaults field member) (Field.settled_eq_ok_iff.mp settles)⟩

@[simp] theorem state_set
    (settings : Settings)
    (schema : Schema)
    (key : String)
    (value : Value)
    (state : σ) :
    (settings.set schema key value state).state = state := by
  unfold set
  cases schema.field? key with
  | none =>
      rfl
  | some field =>
      refine (congrArg Outcome.state (Traced.bind_pure _ _ state)).trans ?_
      exact Field.state_settle state

/-- A set either leaves settings as they are or gives one field what it makes of the value. -/
theorem of_set
    {value : Value}
    {state : σ}
    {known : Bool}
    (answers : (settings.set schema key value state).result = .ok (known, changed)) :
    (known = false ∧ changed = settings) ∨
      ∃ field result,
        known = true ∧
          schema.field? key = some field ∧
            field.Converts value result ∧
              changed = { values := settings.values.insert key result } := by
  unfold set at answers
  cases declared : schema.field? key with
  | none =>
      rw [declared] at answers
      cases answers
      exact .inl ⟨rfl, rfl⟩
  | some field =>
      rw [declared] at answers
      obtain ⟨result, settles, stored, -⟩ := Traced.of_bind_ok answers
      rw [Field.result_settle] at settles
      cases stored
      exact .inr ⟨field, result, rfl, rfl, Field.settled_eq_ok_iff.mp settles, rfl⟩

theorem ConformTo.set
    (distinct : (schema.map Field.key).Nodup)
    (defaults : schema.AdmitsDefaults)
    (conforms : settings.ConformTo schema)
    {value : Value}
    {state : σ}
    {known : Bool}
    (answers : (settings.set schema key value state).result = .ok (known, changed)) :
    changed.ConformTo schema := by
  rcases of_set answers with
    ⟨-, rfl⟩ | ⟨field, result, -, isDeclared, converts, rfl⟩
  · exact conforms
  obtain ⟨member, rfl⟩ := Schema.mem_of_field? isDeclared
  have admitted : field.Admits result :=
    Field.admits_of_converts (defaults field member) converts
  refine ⟨fun other otherMember => ?_, fun key absent => ?_⟩
  · by_cases sameKey : field.key = other.key
    · have sameField : schema.field? field.key = some other := by
        rw [sameKey]
        exact Schema.field?_of_mem distinct otherMember
      rw [isDeclared] at sameField
      cases sameField
      exact ⟨result, Table.get?_insert_self _ _ _, admitted⟩
    · rw [Table.get?_insert_of_ne _ _ sameKey]
      exact conforms.declared other otherMember
  · have notField : field.key ≠ key := by
      rintro rfl
      exact absent (List.mem_map_of_mem member)
    rw [Table.get?_insert_of_ne _ _ notField]
    exact conforms.undeclared key absent

/-- To set what a field has already is no change. -/
theorem ConformTo.set_get
    (distinct : (schema.map Field.key).Nodup)
    (conforms : settings.ConformTo schema)
    {field : Field}
    (member : field ∈ schema) :
    (settings.set schema field.key (settings.get field.key .null) :
        Traced LogAction σ (Bool × Settings)) =
      Traced.done (true, settings) := by
  obtain ⟨value, found, admitted⟩ := conforms.declared field member
  have sameValue : settings.get field.key .null = value := by
    rw [Settings.get, found, Option.getD_some]
  rw [sameValue, Settings.set, Schema.field?_of_mem distinct member]
  simp [Field.settle_of_admits admitted, Table.insert_of_get? found]

end Settings

namespace Store

variable {store : Store} {name key : String} {value : Value} {settings : Settings}

/-- Set values one after another, whether or not one of them is refused or fails. -/
def setAll (name : String) (assignments : List (String × Value)) :
    Traced LogAction Store (List (Except Fault (Bool × Settings))) :=
  Traced.forEach assignments fun assignment =>
    Traced.attempt (setIn name assignment.1 assignment.2)

/-- A schema is in force, and the settings of a name conform to it. -/
structure HoldsConforming (schema : Schema) (name : String) (store : Store) : Prop where
  inForce : store.schema = schema
  conforming :
    ∃ settings, store.named.get? name = some settings ∧ settings.ConformTo schema

theorem settingsOf_of_named
    (found : store.named.get? name = some settings) :
    settingsOf name store = Traced.done settings store := by
  simp [settingsOf, found]

theorem setIn_of_named
    (found : store.named.get? name = some settings) :
    setIn name key value store =
      (settings.set store.schema key value >>= fun answer => do
        Traced.update fun store =>
          { store with named := store.named.insert name answer.2 }
        Traced.done answer) store := by
  have isStored := settingsOf_of_named found
  unfold setIn
  rw [Traced.bind_of_ok (congrArg Outcome.result isStored), isStored]
  rfl

/-- What a store resolves settings from. -/
def sourcesOf (store : Store) (file : Option String) (overrides : Overrides) : Sources where
  loader := store.loader
  environment := store.environment
  file := store.contentOf file
  overrides := overrides

/-- Settings are created as they are built from the sources of the store. -/
theorem result_create_eq_ok_iff
    {file : Option String}
    {overrides : Overrides} :
    (create name file overrides store).result = .ok settings ↔
      ((store.sourcesOf file overrides).build store.schema).result =
        .ok settings := by
  unfold create
  simp only [Traced.result_bind_eq_ok_iff, Traced.update, Traced.done, Except.ok.injEq,
    exists_const, true_and, exists_eq_right]
  rfl

theorem of_create
    {file : Option String}
    {overrides : Overrides}
    (creates : (create name file overrides store).result = .ok settings) :
    (create name file overrides store).state.schema = store.schema ∧
      (create name file overrides store).state.named.get? name = some settings := by
  obtain ⟨built, _, stores, reached⟩ := Traced.of_bind_ok creates
  cases stores
  rw [create, reached]
  exact ⟨rfl, Table.get?_insert_self _ _ _⟩

variable {schema : Schema}

theorem holdsConforming_create
    (distinct : (store.schema.map Field.key).Nodup)
    (defaults : store.schema.AdmitsDefaults)
    {file : Option String}
    {overrides : Overrides}
    (creates : (create name file overrides store).result = .ok settings) :
    HoldsConforming store.schema name (create name file overrides store).state := by
  obtain ⟨inForce, found⟩ := of_create creates
  have builds := result_create_eq_ok_iff.mp creates
  exact ⟨inForce, settings, found, Settings.build_conformTo distinct defaults builds⟩

/-- What sets keep of settings holds of those kept under a name, also if a set fails. -/
theorem keeps_setIn
    {holds : Settings → Prop}
    (kept :
      ∀ (settings changed : Settings) (key : String) (value : Value) (known : Bool) (store : Store),
        holds settings →
          (settings.set schema key value store).result = .ok (known, changed) →
            holds changed)
    (name key : String)
    (value : Value) :
    Traced.Keeps
      (fun _ store =>
        store.schema = schema ∧
          ∃ settings, store.named.get? name = some settings ∧ holds settings)
      (setIn name key value) := by
  rintro past store ⟨rfl, settings, found, held⟩
  rw [setIn_of_named found]
  cases ended : (settings.set store.schema key value store).result with
  | ok answer =>
      rw [Traced.bind_of_ok ended, Settings.state_set]
      exact ⟨rfl, answer.2, Table.get?_insert_self _ _ _,
        kept settings answer.2 key value answer.1 store held ended⟩
  | error fault =>
      rw [Traced.bind_of_error ended, Settings.state_set]
      exact ⟨rfl, settings, found, held⟩

/-- One set keeps settings conforming, also if it answers false or fails. -/
theorem holdsConforming_setIn
    (distinct : (schema.map Field.key).Nodup)
    (defaults : schema.AdmitsDefaults)
    (name key : String)
    (value : Value) :
    Traced.Keeps
      (fun _ => HoldsConforming schema name)
      (setIn name key value) := by
  rintro past store ⟨inForce, conforming⟩
  obtain ⟨stillInForce, stillConforming⟩ :=
    keeps_setIn
      (fun _ _ _ _ _ _ conforms answers => conforms.set distinct defaults answers)
      name key value past store ⟨inForce, conforming⟩
  exact ⟨stillInForce, stillConforming⟩

/-- Storing what a setting has already leaves the whole store as it is. -/
theorem setIn_get
    (distinct : (store.schema.map Field.key).Nodup)
    (found : store.named.get? name = some settings)
    (conforms : settings.ConformTo store.schema)
    {field : Field}
    (member : field ∈ store.schema) :
    setIn name field.key (settings.get field.key .null) store =
      Traced.done (true, settings) store := by
  rw [setIn_of_named found, conforms.set_get distinct member]
  simp [Table.insert_of_get? found, Traced.done]

theorem holdsConforming_setAll
    (distinct : (store.schema.map Field.key).Nodup)
    (defaults : store.schema.AdmitsDefaults)
    {file : Option String}
    {overrides : Overrides}
    (creates : (create name file overrides store).result = .ok settings)
    (assignments : List (String × Value)) :
    HoldsConforming store.schema name
      (setAll name assignments (create name file overrides store).state).state := by
  have keeps :
      Traced.Keeps
        (fun _ => HoldsConforming store.schema name)
        (setAll name assignments) :=
    Traced.Keeps.forEach fun assignment _ =>
      (holdsConforming_setIn distinct defaults name assignment.1 assignment.2).attempt
  exact keeps [] _ (holdsConforming_create distinct defaults creates)

/--
Whatever is set in settings after they were created, they conform to the schema, and to
set one of them to the value it has changes nothing.
-/
theorem conformTo_setAll
    (distinct : (store.schema.map Field.key).Nodup)
    (defaults : store.schema.AdmitsDefaults)
    {file : Option String}
    {overrides : Overrides}
    (creates : (create name file overrides store).result = .ok settings)
    (assignments : List (String × Value)) :
    let reached := (setAll name assignments (create name file overrides store).state).state
    ∃ stored,
      reached.named.get? name = some stored ∧
        stored.ConformTo store.schema ∧
          ∀ field ∈ store.schema,
            setIn name field.key (stored.get field.key .null) reached =
              { trace := [], state := reached, result := .ok (true, stored) } := by
  intro reached
  obtain ⟨inForce, stored, found, conforms⟩ :=
    holdsConforming_setAll distinct defaults creates assignments
  refine ⟨stored, found, conforms, fun field member => ?_⟩
  rw [← inForce] at distinct conforms member
  exact setIn_get distinct found conforms member

/-- Values that are converted, replaced, refused as infinite, and of no field. -/
theorem conformTo_setAll_sample :
    let store := Store.initial Schema.shipped Sources.sample.environment
    let assignments : List (String × Value) :=
      [(Schema.headsetKey, .text "YES"), (Schema.logLevelKey, .int 5),
        (Schema.subscriptionKey, .float (.infinite true)), ("OTHER", .null)]
    (store.schema.map Field.key).Nodup ∧
      store.schema.AdmitsDefaults ∧
        (create "c" Sources.sample.file Sources.sample.overrides store).result =
            .ok Sources.sampleSettings ∧
          ∃ stored,
            (setAll "c" assignments
              (create "c" Sources.sample.file Sources.sample.overrides
                store).state).state.named.get? "c" = some stored ∧
              stored.ConformTo Schema.shipped := by
  intro store assignments
  have distinct : (store.schema.map Field.key).Nodup := by
    decide
  have defaults : store.schema.AdmitsDefaults := by
    unfold Schema.AdmitsDefaults
    decide +kernel
  have creates :
      (create "c" Sources.sample.file Sources.sample.overrides store).result =
        .ok Sources.sampleSettings :=
    result_create_eq_ok_iff.mpr Sources.build_sample
  obtain ⟨stored, found, conforms, -⟩ :=
    conformTo_setAll distinct defaults creates assignments
  exact ⟨distinct, defaults, creates, stored, found, conforms⟩

end Store

end PlatformDouble.Config
