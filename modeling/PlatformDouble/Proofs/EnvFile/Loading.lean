import PlatformDouble.EnvFile.Loader
import PlatformDouble.Proofs.Table.Latest
import PlatformDouble.Proofs.Traced.Keeps

namespace PlatformDouble.EnvFile

/-!
# What loading a file leaves behind

A file gives values to names, and loading it gives the environment those that it does not
have yet.  A variable that is there keeps its value, even an empty one, and even if loading
breaks off because the next name or value is none that a variable may have.
-/

open PlatformDouble.Config

section Entries

variable {environment : Environment} {defined value : String}

/-- A name that the environment has is passed over. -/
theorem loadEntry_of_known
    (known : environment.contains defined = true) :
    loadEntry (defined, some value) environment = Traced.done () environment := by
  simp [loadEntry, Environment.assignIfAbsent, known]

theorem loadEntry_of_unknown
    (unknown : ¬ environment.contains defined = true) :
    loadEntry (defined, some value) environment =
      Environment.assign defined value environment := by
  simp [loadEntry, Environment.assignIfAbsent, unknown]

/-- A name is assigned the value of its definition unless the environment has it. -/
theorem get?_loadEntry
    {entry : String × Option String}
    (loaded : (loadEntry entry environment).result = .ok ())
    (name : String) :
    (loadEntry entry environment).state.get? name =
      (environment.get? name).or (if entry.1 = name then entry.2 else none) := by
  rcases entry with ⟨defined, _ | value⟩
  · simp [loadEntry, Traced.done]
  · by_cases known : environment.contains defined = true
    · rw [loadEntry_of_known known]
      by_cases isDefined : defined = name
      · subst isDefined
        obtain ⟨present, isPresent⟩ := Option.isSome_iff_exists.mp known
        simp [Traced.done, isPresent]
      · simp [Traced.done, isDefined]
    · rw [loadEntry_of_unknown known] at loaded ⊢
      obtain ⟨-, -, -, written⟩ := Traced.of_bind_ok loaded
      have absent : environment.get? defined = none := by
        simpa [Table.contains] using known
      unfold Environment.assign
      rw [written]
      by_cases isDefined : defined = name
      · subst isDefined
        simp [Traced.update, Traced.ofResult, absent]
      · simp [Traced.update, Traced.ofResult, isDefined, Table.get?_insert_of_ne]

/-- A name that the environment does not have is loaded if a variable may have it. -/
theorem result_loadEntry
    (environment : Environment)
    (defined value : String) :
    (loadEntry (defined, some value) environment).result =
      if environment.contains defined then
        .ok ()
      else
        Environment.checkVariable defined value := by
  by_cases known : environment.contains defined = true
  · rw [loadEntry_of_known known, if_pos known]
    rfl
  · rw [loadEntry_of_unknown known, if_neg known, Environment.assign]
    cases checked : Environment.checkVariable defined value with
    | ok answer =>
        exact congrArg Outcome.result (Traced.bind_of_ok rfl)
    | error fault =>
        exact congrArg Outcome.result (Traced.bind_of_error rfl)

/-- Whether an entry is loaded depends on the environment only as far as its name goes. -/
theorem result_loadEntry_congr
    {entry : String × Option String}
    {other : Environment}
    (same : environment.contains entry.1 = other.contains entry.1) :
    (loadEntry entry environment).result = (loadEntry entry other).result := by
  rcases entry with ⟨defined, _ | value⟩
  · rfl
  · rw [result_loadEntry, result_loadEntry, same]

theorem contains_loadEntry
    {entry : String × Option String}
    (loaded : (loadEntry entry environment).result = .ok ())
    (name : String) :
    (loadEntry entry environment).state.contains name =
      (environment.contains name || (entry.1 == name && entry.2.isSome)) := by
  rw [Table.contains, Table.contains, get?_loadEntry loaded]
  by_cases isName : entry.1 = name <;>
    cases environment.get? name <;> simp [isName]

/-- A variable that is there keeps its value, whatever becomes of an entry. -/
theorem keeps_loadEntry
    (name value : String)
    (entry : String × Option String) :
    Traced.Keeps
      (fun _ (environment : Environment) => environment.get? name = some value)
      (loadEntry entry) := by
  rcases entry with ⟨defined, _ | given⟩
  · exact Traced.Keeps.done ()
  · refine Traced.Keeps.current_bind fun past environment isValue => ?_
    by_cases known : environment.contains defined = true
    · rw [if_pos known]
      exact isValue
    · rw [if_neg known]
      have otherName : defined ≠ name := by
        rintro rfl
        simp [Table.contains, isValue] at known
      cases checked : Environment.checkVariable defined given with
      | ok answer =>
          have written :
              (Environment.assign defined given environment).state =
                environment.insert defined given :=
            congrArg Outcome.state (Traced.bind_of_ok checked)
          rw [written, Table.get?_insert_of_ne _ _ otherName]
          exact isValue
      | error fault =>
          have unchanged :
              (Environment.assign defined given environment).state = environment :=
            congrArg Outcome.state (Traced.bind_of_error checked)
          rw [unchanged]
          exact isValue

theorem trace_loadEntry
    (entry : String × Option String)
    (environment : Environment) :
    (loadEntry entry environment).trace = [] := by
  rcases entry with ⟨name, _ | value⟩
  · rfl
  · by_cases known : environment.contains name = true
    · rw [loadEntry_of_known known]
      rfl
    · rw [loadEntry_of_unknown known]
      exact Traced.trace_bind_of_silent (fun _ => rfl) (fun _ _ => rfl) environment

end Entries

section EntryLists

variable {entries : List (String × Option String)} {environment : Environment}

/-- Once an entry is loaded, entries for other names are loaded as they would have been before. -/
theorem result_loadEntry_after
    {entry later : String × Option String}
    (loaded : (loadEntry entry environment).result = .ok ())
    (isNew : entry.1 ∉ entries.map Prod.fst)
    (member : later ∈ entries) :
    (loadEntry later (loadEntry entry environment).state).result =
      (loadEntry later environment).result := by
  have otherName : entry.1 ≠ later.1 := by
    intro same
    exact isNew (same ▸ List.mem_map_of_mem member)
  refine result_loadEntry_congr ?_
  simp [contains_loadEntry loaded, otherName]

/-- Entries for different names are loaded each as if it were the only one. -/
theorem get?_forEach_loadEntry
    (distinct : (entries.map Prod.fst).Nodup)
    {answers : List Unit}
    (loaded : (Traced.forEach entries loadEntry environment).result = .ok answers)
    (name : String) :
    (Traced.forEach entries loadEntry environment).state.get? name =
      (environment.get? name).or ((Table.mk entries).get? name).join := by
  induction entries generalizing environment answers with
  | nil =>
      simp [Traced.forEach, Traced.done, Table.get?, Table.lookupEntry]
  | cons entry rest inductionHypothesis =>
      obtain ⟨firstNew, restDistinct⟩ := List.nodup_cons.mp distinct
      obtain ⟨⟨⟩, entryLoaded, answered, reached⟩ := Traced.of_bind_ok loaded
      obtain ⟨others, restLoaded, -, ended⟩ := Traced.of_bind_ok answered
      have restLeft := inductionHypothesis restDistinct restLoaded
      have reachesEnd :
          (Traced.forEach (entry :: rest) loadEntry environment).state =
            (Traced.forEach rest loadEntry (loadEntry entry environment).state).state :=
        reached.trans ended
      rw [reachesEnd, restLeft, get?_loadEntry entryLoaded, Option.or_assoc,
        Table.get?_mk_cons]
      by_cases isName : entry.1 = name
      · subst isName
        have absent : (Table.mk rest).get? entry.1 = none :=
          Table.get?_eq_none_iff.mpr firstNew
        simp [absent]
      · simp [isName]

/-- Entries for different names are all loaded if each of them would be, were it the only one. -/
theorem exists_forEach_loadEntry_iff
    (distinct : (entries.map Prod.fst).Nodup) :
    (∃ answers, (Traced.forEach entries loadEntry environment).result = .ok answers) ↔
      ∀ entry ∈ entries, (loadEntry entry environment).result = .ok () := by
  induction entries generalizing environment with
  | nil =>
      exact iff_of_true ⟨[], rfl⟩ nofun
  | cons entry rest inductionHypothesis =>
      obtain ⟨firstNew, restDistinct⟩ := List.nodup_cons.mp distinct
      constructor
      · rintro ⟨answers, loaded⟩
        obtain ⟨⟨⟩, entryLoaded, answered, -⟩ := Traced.of_bind_ok loaded
        obtain ⟨others, restLoaded, -, -⟩ := Traced.of_bind_ok answered
        have restEach := (inductionHypothesis restDistinct).mp ⟨others, restLoaded⟩
        refine List.forall_mem_cons.mpr ⟨entryLoaded, fun later member => ?_⟩
        rw [← result_loadEntry_after entryLoaded firstNew member]
        exact restEach later member
      · intro each
        obtain ⟨entryLoaded, restEach⟩ := List.forall_mem_cons.mp each
        obtain ⟨others, restLoaded⟩ :=
          (inductionHypothesis restDistinct).mpr fun later member =>
            (result_loadEntry_after entryLoaded firstNew member).trans (restEach later member)
        refine ⟨() :: others, ?_⟩
        rw [Traced.result_forEach_cons_of_ok entryLoaded, restLoaded]
        rfl

/-- Where each entry is loaded or refused as elsewhere, so are all of them. -/
theorem result_forEach_loadEntry_congr
    (distinct : (entries.map Prod.fst).Nodup)
    {other : Environment}
    (same :
      ∀ entry ∈ entries,
        (loadEntry entry environment).result = (loadEntry entry other).result) :
    (Traced.forEach entries loadEntry environment).result =
      (Traced.forEach entries loadEntry other).result := by
  induction entries generalizing environment other with
  | nil =>
      rfl
  | cons entry rest inductionHypothesis =>
      obtain ⟨firstNew, restDistinct⟩ := List.nodup_cons.mp distinct
      obtain ⟨sameEntry, sameRest⟩ := List.forall_mem_cons.mp same
      cases loaded : (loadEntry entry environment).result with
      | ok answer =>
          have otherLoaded := sameEntry.symm.trans loaded
          rw [Traced.result_forEach_cons_of_ok loaded,
            Traced.result_forEach_cons_of_ok otherLoaded]
          refine congrArg _ (inductionHypothesis restDistinct fun later member => ?_)
          rw [result_loadEntry_after loaded firstNew member,
            result_loadEntry_after otherLoaded firstNew member]
          exact sameRest later member
      | error fault =>
          have otherFails := sameEntry.symm.trans loaded
          refine (congrArg Outcome.result (Traced.andThen_of_error loaded)).trans ?_
          exact (congrArg Outcome.result (Traced.andThen_of_error otherFails)).symm

end EntryLists

namespace Loader

variable {loader : Loader} {environment : Environment} {content : Option String}

/-- The value that a file gives a name, if it gives it any. -/
def gives?
    (loader : Loader)
    (environment : Environment)
    (content : Option String)
    (name : String) :
    Option String :=
  ((loader.definitions environment content).get? name).join

/--
The environment accepts a file: what the file gives to names that are not there are values
for variables of these names.
-/
def Accepts
    (loader : Loader)
    (environment : Environment)
    (content : Option String) :
    Prop :=
  ∀ name value,
    environment.get? name = none →
      loader.gives? environment content name = some value →
        Environment.checkVariable name value = .ok ()

@[simp] theorem definitions_none
    (environment : Environment) :
    loader.definitions environment none = Table.empty :=
  rfl

theorem definitions_of_disabled
    (switchedOff : loader.isDisabled environment = true)
    (content : Option String) :
    loader.definitions environment content = Table.empty := by
  cases content <;> simp [definitions, switchedOff]

theorem keys_nodup_definitions
    (loader : Loader)
    (environment : Environment)
    (content : Option String) :
    (loader.definitions environment content).keys.Nodup := by
  cases content with
  | none =>
      exact List.nodup_nil
  | some text =>
      rw [definitions]
      split
      · exact List.nodup_nil
      · exact Table.keys_nodup_ofList _

/-- An entry with a value is what the file gives its name. -/
theorem gives?_eq_some_iff
    {name value : String} :
    loader.gives? environment content name = some value ↔
      (name, some value) ∈ (loader.definitions environment content).entries := by
  unfold gives?
  rw [Option.join_eq_some_iff]
  constructor
  · exact Table.mem_entries_of_get?
  · exact Table.get?_of_mem_entries (keys_nodup_definitions loader environment content)

/-- The definitions of a file are loaded in order. -/
theorem load_apply
    (loader : Loader)
    (content : Option String)
    (environment : Environment) :
    loader.load content environment =
      (Traced.forEach (loader.definitions environment content).entries loadEntry >>=
        fun _ => Traced.done ()) environment :=
  rfl

/-- Without a file nothing is loaded. -/
@[simp] theorem load_none
    (loader : Loader)
    (environment : Environment) :
    loader.load none environment = Traced.done () environment :=
  rfl

theorem load_of_disabled
    (switchedOff : loader.isDisabled environment = true) :
    loader.load content environment = Traced.done () environment := by
  rw [load_apply, definitions_of_disabled switchedOff]
  rfl

/-- A file is loaded if and only if the environment accepts it. -/
theorem result_load_eq_ok_iff :
    (loader.load content environment).result = .ok () ↔
      loader.Accepts environment content := by
  have loadsEntries :
      (loader.load content environment).result = .ok () ↔
        ∃ answers,
          (Traced.forEach (loader.definitions environment content).entries loadEntry
            environment).result = .ok answers := by
    rw [load_apply, Traced.result_bind_eq_ok_iff]
    exact exists_congr fun answers => and_iff_left rfl
  rw [loadsEntries, exists_forEach_loadEntry_iff (keys_nodup_definitions _ _ _)]
  constructor
  · intro each name value absent isGiven
    have loaded := each _ (gives?_eq_some_iff.mp isGiven)
    rw [result_loadEntry, Table.contains, absent] at loaded
    exact loaded
  · rintro accepts ⟨name, _ | value⟩ member
    · rfl
    · rw [result_loadEntry]
      by_cases known : environment.contains name = true
      · rw [if_pos known]
      · rw [if_neg known]
        refine accepts name value ?_ (gives?_eq_some_iff.mpr member)
        simpa [Table.contains] using known

/--
Once a file is loaded, a variable has the value it had before, else the one the file
gives it.
-/
theorem get?_load
    (loaded : (loader.load content environment).result = .ok ())
    (name : String) :
    (loader.load content environment).state.get? name =
      (environment.get? name).or (loader.gives? environment content name) := by
  rw [load_apply] at loaded ⊢
  obtain ⟨answers, entriesLoaded, -, reached⟩ := Traced.of_bind_ok loaded
  rw [reached]
  exact get?_forEach_loadEntry (keys_nodup_definitions _ _ _) entriesLoaded name

/-- A variable that is there keeps its value, whatever becomes of a load. -/
theorem get?_load_of_some
    {name value : String}
    (isValue : environment.get? name = some value)
    (content : Option String) :
    (loader.load content environment).state.get? name = some value := by
  have kept :=
    (Traced.Keeps.forEach
      (fun entry (_ : entry ∈ (loader.definitions environment content).entries) =>
        keeps_loadEntry name value entry)).bind
      (fun _ => Traced.Keeps.done ())
  exact kept [] environment isValue

/-- Nothing is said about loading. -/
theorem trace_load
    (loader : Loader)
    (content : Option String)
    (environment : Environment) :
    (loader.load content environment).trace = [] := by
  rw [load_apply]
  exact Traced.trace_bind_of_silent (Traced.trace_forEach_of_silent trace_loadEntry _)
    (fun _ _ => rfl) environment

end Loader

end PlatformDouble.EnvFile
