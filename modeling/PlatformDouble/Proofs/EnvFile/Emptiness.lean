import PlatformDouble.Proofs.EnvFile.Expansion

namespace PlatformDouble

/-!
# Variables that are empty

Loading a file goes by presence: a variable that is empty is there, so that the file does
not give it a value.  Without the variable the file may give it one, and may give other
values to other variables as well, unless it is silent about the variable.
-/

namespace Config.Environment

/-- The value of a variable that counts as set, as one that is empty does not. -/
def setValue? (environment : Environment) (name : String) : Option String :=
  (environment.get? name).filter fun value => !value.isEmpty

/-- Environments that have the same variables, up to those that are empty. -/
def SetAlike (environment other : Environment) : Prop :=
  ∀ name, environment.setValue? name = other.setValue? name

theorem setAlike_erase
    {environment : Environment}
    {name : String}
    (isEmpty : environment.get? name = some "") :
    environment.SetAlike (environment.erase name) := by
  intro defined
  unfold setValue?
  by_cases isName : name = defined
  · subst isName
    rw [isEmpty, Table.get?_erase_self]
    rfl
  · rw [Table.get?_erase_of_ne _ isName]

end Config.Environment

namespace EnvFile

open PlatformDouble.Config

/-- The references in a text, in order. -/
def references : List Char → List Reference
  | [] => []
  | '$' :: '{' :: rest =>
      match readReference? rest with
      | some (reference, taken) => reference :: references (rest.drop taken)
      | none => references ('{' :: rest)
  | _ :: rest => references rest
termination_by cs => cs.length
decreasing_by all_goals simp only [List.length_cons, List.length_drop]; omega

/-- What a text expands to depends on its references alone. -/
theorem expand_congr
    {resolve other : Reference → String}
    {cs : List Char}
    (same : ∀ reference ∈ references cs, resolve reference = other reference) :
    expand resolve cs = expand other cs := by
  fun_induction references cs with
  | case1 =>
      simp only [expand]
  | case2 rest reference taken reads inductionHypothesis =>
      have sameRest := inductionHypothesis fun other member =>
        same other (List.mem_cons_of_mem reference member)
      simp only [expand, reads, same reference List.mem_cons_self, sameRest]
  | case3 rest reads inductionHypothesis =>
      simp only [expand, reads, inductionHypothesis same]
  | case4 c rest notReference inductionHypothesis =>
      simp only [expand, inductionHypothesis same]

/-- A text that binds a name to empty texts only, and gives it none as a default. -/
structure IsSilentAbout (name text : String) : Prop where
  binds :
    ∀ binding ∈ ofContent text,
      binding.name = name → binding.value.getD "" = ""
  refers :
    ∀ binding ∈ ofContent text,
      ∀ reference ∈ references (binding.value.getD "").toList,
        reference.name = name → reference.default.getD "" = ""

section Erasure

variable {environment : Environment} {name : String}

theorem isDisabled_erase
    (isEmpty : environment.get? name = some "") :
    isDisabled (environment.erase name) = isDisabled environment := by
  unfold isDisabled
  by_cases isSwitch : name = switchName
  · subst isSwitch
    rw [Table.get?_erase_self, isEmpty]
    decide
  · rw [Table.get?_erase_of_ne _ isSwitch]

/-- A reference without a default for it cannot tell an empty variable from none. -/
theorem resolveReference_erase
    (isEmpty : environment.get? name = some "")
    {resolved : Resolved}
    (isResolved : ((resolved.get? name).join).getD "" = "")
    {reference : Reference}
    (noDefault : reference.name = name → reference.default.getD "" = "") :
    resolveReference (environment.erase name) resolved reference =
      resolveReference environment resolved reference := by
  unfold resolveReference
  by_cases isName : name = reference.name
  · subst isName
    rw [Table.get?_erase_self, isEmpty]
    cases found : resolved.get? reference.name with
    | none =>
        exact noDefault rfl
    | some value =>
        rw [found] at isResolved
        exact isResolved
  · rw [Table.get?_erase_of_ne _ isName]

/-- A name that is bound to empty texts only comes to nothing else. -/
theorem getD_resolve_of_binds
    {bindings : List Binding}
    (binds : ∀ binding ∈ bindings, binding.name = name → binding.value.getD "" = "") :
    ((resolve environment bindings).get? name).join.getD "" = "" := by
  induction bindings using List.reverseRecOn with
  | nil =>
      rw [resolve_nil]
      rfl
  | append_singleton earlier binding inductionHypothesis =>
      rw [resolve_append_singleton, resolveBinding]
      by_cases isName : binding.name = name
      · have isBound := binds binding List.mem_concat_self isName
        subst isName
        rw [Table.get?_insert_self, Option.join_some]
        cases isValue : binding.value with
        | none =>
            rfl
        | some value =>
            rw [isValue, Option.getD_some] at isBound
            subst isBound
            simp [expand]
      · rw [Table.get?_insert_of_ne _ _ isName]
        exact inductionHypothesis fun other member =>
          binds other (List.mem_append_left [binding] member)

/-- Without an empty variable a file resolves to the same, if it is silent about the variable. -/
theorem resolve_erase
    (isEmpty : environment.get? name = some "")
    {bindings : List Binding}
    (binds : ∀ binding ∈ bindings, binding.name = name → binding.value.getD "" = "")
    (refers :
      ∀ binding ∈ bindings,
        ∀ reference ∈ references (binding.value.getD "").toList,
          reference.name = name → reference.default.getD "" = "") :
    resolve (environment.erase name) bindings = resolve environment bindings := by
  induction bindings using List.reverseRecOn with
  | nil =>
      rw [resolve_nil, resolve_nil]
  | append_singleton earlier binding inductionHypothesis =>
      have earlierBinds :
          ∀ other ∈ earlier, other.name = name → other.value.getD "" = "" :=
        fun other member => binds other (List.mem_append_left [binding] member)
      have sameEarlier :=
        inductionHypothesis earlierBinds fun other member =>
          refers other (List.mem_append_left [binding] member)
      rw [resolve_append_singleton, resolve_append_singleton, sameEarlier]
      unfold resolveBinding
      cases isValue : binding.value with
      | none =>
          rfl
      | some value =>
          have sameReferences :
              ∀ reference ∈ references value.toList,
                resolveReference (environment.erase name) (resolve environment earlier)
                    reference =
                  resolveReference environment (resolve environment earlier) reference := by
            intro reference member
            refine resolveReference_erase isEmpty (getD_resolve_of_binds earlierBinds) ?_
            refine refers binding List.mem_concat_self reference ?_
            rw [isValue]
            exact member
          rw [Option.map_some, Option.map_some, expand_congr sameReferences]

/-- A file that gives a variable no text, and anything else without it as it does with it. -/
structure Loader.IsSilentAbout
    (loader : Loader)
    (name : String)
    (environment : Environment)
    (content : Option String) :
    Prop where
  gives : (loader.gives? environment content name).getD "" = ""
  defines :
    loader.definitions (environment.erase name) content = loader.definitions environment content

/-- What a text is silent about, the bindings that it is read as are silent about. -/
theorem Loader.standard_isSilentAbout
    (isEmpty : environment.get? name = some "")
    {text : String}
    (silent : EnvFile.IsSilentAbout name text) :
    Loader.standard.IsSilentAbout name environment (some text) where
  gives := by
    unfold Loader.gives?
    rw [Loader.definitions_standard]
    split
    · rfl
    · exact getD_resolve_of_binds silent.binds
  defines := by
    rw [Loader.definitions_standard, Loader.definitions_standard, isDisabled_erase isEmpty,
      resolve_erase isEmpty silent.binds silent.refers]

end Erasure

section Loads

variable
  {loader : Loader} {environment : Environment} {name : String} {content : Option String}

/-- Loading a silent file ends without an empty variable as it does with it. -/
theorem result_load_erase
    (isEmpty : environment.get? name = some "")
    (isNamed : Environment.checkVariable name "" = .ok ())
    (silent : loader.IsSilentAbout name environment content) :
    (loader.load content (environment.erase name)).result =
      (loader.load content environment).result := by
  have sameEntries :
      ∀ entry ∈ (loader.definitions environment content).entries,
        (loadEntry entry (environment.erase name)).result =
          (loadEntry entry environment).result := by
    rintro ⟨defined, _ | value⟩ member
    · rfl
    · by_cases isName : defined = name
      · subst isName
        have isGiven := silent.gives
        rw [Loader.gives?_eq_some_iff.mpr member, Option.getD_some] at isGiven
        subst isGiven
        rw [result_loadEntry, result_loadEntry, isNamed, ite_self, ite_self]
      · refine result_loadEntry_congr ?_
        rw [Table.contains, Table.contains, Table.get?_erase_of_ne _ (Ne.symm isName)]
  have sameEnd :=
    result_forEach_loadEntry_congr (loader.keys_nodup_definitions environment content) sameEntries
  rw [loader.load_apply, loader.load_apply, silent.defines]
  refine (congrArg Outcome.result (Traced.bind_pure _ (fun _ => ()) _)).trans ?_
  refine Eq.trans ?_ (congrArg Outcome.result (Traced.bind_pure _ (fun _ => ()) _)).symm
  rw [sameEnd]

/-- A silent file leaves the same variables without one that is empty, up to the empty ones. -/
theorem setAlike_load_erase
    (isEmpty : environment.get? name = some "")
    (isNamed : Environment.checkVariable name "" = .ok ())
    (silent : loader.IsSilentAbout name environment content)
    (loads : (loader.load content environment).result = .ok ()) :
    Environment.SetAlike
      (loader.load content environment).state
      (loader.load content (environment.erase name)).state := by
  have loadsErased := (result_load_erase isEmpty isNamed silent).trans loads
  intro defined
  unfold Environment.setValue?
  rw [Loader.get?_load loads, Loader.get?_load loadsErased]
  by_cases isName : name = defined
  · subst isName
    have isGiven := silent.gives
    rw [isEmpty, Table.get?_erase_self, Option.some_or, Option.none_or, Loader.gives?,
      silent.defines, ← Loader.gives?]
    cases found : loader.gives? environment content name with
    | none =>
        rfl
    | some value =>
        rw [found, Option.getD_some] at isGiven
        rw [isGiven]
  · rw [Table.get?_erase_of_ne _ isName, Loader.gives?, Loader.gives?, silent.defines]

end Loads

end EnvFile

end PlatformDouble
