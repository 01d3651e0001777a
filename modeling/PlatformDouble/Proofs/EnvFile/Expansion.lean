import Mathlib.Data.List.Induction
import PlatformDouble.Proofs.EnvFile.Repetition

namespace PlatformDouble.EnvFile

/-!
# What expansion gives

The names of a file, their order, and whether they have values do not depend on the
environment.  Expansion makes no characters of its own: a file that can be given to
variables as it is written can be given to them once its values are expanded.
-/

open PlatformDouble.Config

theorem resolve_nil
    (environment : Environment) :
    resolve environment [] = Table.empty := by
  rw [resolve, List.foldl_nil]

theorem resolve_append_singleton
    (environment : Environment)
    (earlier : List Binding)
    (binding : Binding) :
    resolve environment (earlier ++ [binding]) =
      resolveBinding environment (resolve environment earlier) binding := by
  simp [resolve]

theorem keys_nodup_resolve
    (environment : Environment)
    (bindings : List Binding) :
    (resolve environment bindings).keys.Nodup := by
  induction bindings using List.reverseRecOn with
  | nil =>
      exact List.nodup_nil
  | append_singleton earlier binding inductionHypothesis =>
      rw [resolve_append_singleton]
      exact Table.keys_nodup_insert _ _ inductionHypothesis

/-- The names of a file, their order, and whether they have values are its own matter. -/
theorem map_shape_resolve
    (environment other : Environment)
    (bindings : List Binding) :
    (resolve environment bindings).entries.map shape =
      (resolve other bindings).entries.map shape := by
  induction bindings using List.reverseRecOn with
  | nil =>
      rw [resolve_nil, resolve_nil]
  | append_singleton earlier binding inductionHypothesis =>
      rw [resolve_append_singleton, resolve_append_singleton, resolveBinding, resolveBinding,
        map_shape_insert, map_shape_insert, inductionHypothesis, Option.isSome_map,
        Option.isSome_map]

theorem Loader.standard_givesAlike :
    Loader.standard.GivesAlike :=
  fun environment other text => map_shape_resolve environment other (ofContent text)

/-- What a file defines is what its bindings resolve to, as long as loading is not switched off. -/
theorem Loader.definitions_standard
    (environment : Environment)
    (text : String) :
    Loader.standard.definitions environment (some text) =
      if EnvFile.isDisabled environment then
        Table.empty
      else
        resolve environment (ofContent text) := by
  have resolved :
      Table.ofList (Loader.standard.read environment text) =
        resolve environment (ofContent text) :=
    Table.ofList_of_nodup (keys_nodup_resolve environment (ofContent text))
  rw [Loader.definitions, resolved]
  rfl

section Acceptance

theorem isNullFree_iff
    {text : String} :
    Environment.isNullFree text = true ↔ '\x00' ∉ text.toList := by
  simp [Environment.isNullFree]

/-- A default is part of the text that the reference stands in. -/
theorem isNullFree_default
    {cs : List Char}
    (nullFree : '\x00' ∉ cs)
    {reference : Reference}
    {taken : Nat}
    (reads : readReference? cs = some (reference, taken)) :
    Environment.isNullFree (reference.default.getD "") = true := by
  unfold readReference? at reads
  simp only at reads
  split at reads
  · cases reads
    rfl
  · rename_i behind isBehind
    split at reads
    · cases reads
      rw [Option.getD_some, isNullFree_iff, String.toList_ofList]
      intro member
      have inBehind := (List.takeWhile_sublist _).mem member
      have inRest : '\x00' ∈ ':' :: '-' :: behind :=
        List.mem_cons_of_mem _ (List.mem_cons_of_mem _ inBehind)
      rw [← isBehind] at inRest
      exact nullFree (List.mem_of_mem_drop inRest)
    · cases reads
  · cases reads

/-- Expansion brings no null characters in, if no reference stands for one. -/
theorem null_not_mem_expand
    {resolve : Reference → String}
    (resolves :
      ∀ reference : Reference,
        Environment.isNullFree (reference.default.getD "") = true →
          Environment.isNullFree (resolve reference) = true)
    {cs : List Char}
    (nullFree : '\x00' ∉ cs) :
    '\x00' ∉ expand resolve cs := by
  fun_induction expand resolve cs with
  | case1 =>
      exact nullFree
  | case2 rest reference taken reads inductionHypothesis =>
      have restFree : '\x00' ∉ rest := fun member =>
        nullFree (List.mem_cons_of_mem _ (List.mem_cons_of_mem _ member))
      have isFree := resolves reference (isNullFree_default restFree reads)
      rw [List.mem_append, not_or]
      refine ⟨isNullFree_iff.mp isFree, inductionHypothesis fun member => ?_⟩
      exact restFree (List.mem_of_mem_drop member)
  | case3 rest reads inductionHypothesis =>
      obtain ⟨isOther, restFree⟩ := List.ne_and_not_mem_of_not_mem_cons nullFree
      exact List.not_mem_cons_of_ne_of_not_mem isOther (inductionHypothesis restFree)
  | case4 c rest notReference inductionHypothesis =>
      obtain ⟨isOther, restFree⟩ := List.ne_and_not_mem_of_not_mem_cons nullFree
      exact List.not_mem_cons_of_ne_of_not_mem isOther (inductionHypothesis restFree)

/-- A name may have a value if it may be that of a variable and the value has no null character. -/
theorem checkVariable_of_nullFree
    {name value other : String}
    (isNamed : Environment.checkVariable name value = .ok ())
    (isFree : Environment.isNullFree other = true) :
    Environment.checkVariable name other = .ok () := by
  unfold Environment.checkVariable at isNamed ⊢
  cases nameFree : Environment.isNullFree name with
  | false =>
      simp [nameFree] at isNamed
  | true =>
      split at isNamed
      · cases isNamed
      · simpa [nameFree, isFree] using isNamed

theorem isNullFree_of_checkVariable
    {name value : String}
    (isVariable : Environment.checkVariable name value = .ok ()) :
    Environment.isNullFree value = true := by
  unfold Environment.checkVariable at isVariable
  split at isVariable
  · cases isVariable
  · rename_i isFree
    simp only [Bool.or_eq_true, Bool.not_eq_true', not_or, Bool.not_eq_false] at isFree
    exact isFree.2

/-- Bindings that can be given to variables as they are written. -/
def AreUsable (bindings : List Binding) : Prop :=
  ∀ binding ∈ bindings,
    ∀ value ∈ binding.value, Environment.checkVariable binding.name value = .ok ()

instance (checked : Except Fault Unit) : Decidable (checked = .ok ()) :=
  match checked with
  | .ok () => isTrue rfl
  | .error _ => isFalse nofun

instance (bindings : List Binding) : Decidable (AreUsable bindings) :=
  inferInstanceAs (Decidable (∀ binding ∈ bindings, ∀ value ∈ binding.value, _ = _))

/-- Values without null characters in them. -/
def AreNullFree (given : String → Option String) : Prop :=
  ∀ name value, given name = some value → Environment.isNullFree value = true

theorem isNullFree_resolveReference
    {environment : Environment}
    (nullFree : AreNullFree environment.get?)
    {resolved : Resolved}
    (areFree : AreNullFree fun name => (resolved.get? name).join)
    {reference : Reference}
    (defaultFree : Environment.isNullFree (reference.default.getD "") = true) :
    Environment.isNullFree (resolveReference environment resolved reference) = true := by
  unfold resolveReference
  cases isKnown : environment.get? reference.name with
  | some value =>
      exact nullFree _ value isKnown
  | none =>
      cases isResolved : resolved.get? reference.name with
      | none =>
          exact defaultFree
      | some value? =>
          cases value? with
          | none =>
              rfl
          | some value =>
              exact areFree reference.name value (by simp only [isResolved, Option.join_some])

/-- Usable bindings come to values that variables of their names may have. -/
theorem checkVariable_resolve
    {environment : Environment}
    (nullFree : AreNullFree environment.get?)
    {bindings : List Binding}
    (areUsable : AreUsable bindings)
    {name value : String}
    (isResolved : ((resolve environment bindings).get? name).join = some value) :
    Environment.checkVariable name value = .ok () := by
  induction bindings using List.reverseRecOn generalizing name value with
  | nil =>
      cases isResolved
  | append_singleton earlier binding inductionHypothesis =>
      have earlierUsable : AreUsable earlier := fun other member =>
        areUsable other (List.mem_append_left [binding] member)
      rw [resolve_append_singleton, resolveBinding] at isResolved
      by_cases isName : binding.name = name
      · subst isName
        rw [Table.get?_insert_self, Option.join_some] at isResolved
        obtain ⟨written, isWritten, rfl⟩ := Option.map_eq_some_iff.mp isResolved
        have isVariable := areUsable binding List.mem_concat_self written isWritten
        refine checkVariable_of_nullFree isVariable (isNullFree_iff.mpr ?_)
        rw [String.toList_ofList]
        have writtenFree := isNullFree_iff.mp (isNullFree_of_checkVariable isVariable)
        refine null_not_mem_expand (fun reference => ?_) writtenFree
        exact isNullFree_resolveReference nullFree fun other value isValue =>
          isNullFree_of_checkVariable (inductionHypothesis earlierUsable isValue)
      · rw [Table.get?_insert_of_ne _ _ isName] at isResolved
        exact inductionHypothesis earlierUsable isResolved

/-- A file, if there is one, with bindings that can be given to variables as they are written. -/
def IsUsable (content : Option String) : Prop :=
  ∀ text ∈ content, AreUsable (ofContent text)

instance (content : Option String) : Decidable (IsUsable content) :=
  inferInstanceAs (Decidable (∀ text ∈ content, AreUsable (ofContent text)))

theorem isUsable_none :
    IsUsable none :=
  nofun

/-- A file that can be given to variables as it is written is accepted. -/
theorem Loader.standard_accepts
    {environment : Environment}
    (nullFree : AreNullFree environment.get?)
    {content : Option String}
    (isUsable : IsUsable content) :
    Loader.standard.Accepts environment content := by
  intro name value _ isGiven
  cases content with
  | none =>
      cases isGiven
  | some text =>
      rw [Loader.gives?, Loader.definitions_standard] at isGiven
      split at isGiven
      · cases isGiven
      · exact checkVariable_resolve nullFree (isUsable text rfl) isGiven

end Acceptance

end PlatformDouble.EnvFile
