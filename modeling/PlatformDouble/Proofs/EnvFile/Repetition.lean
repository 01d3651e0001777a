import PlatformDouble.Proofs.EnvFile.Loading

namespace PlatformDouble.EnvFile

/-!
# Loading a file again

Which names a file gives a value to should be a matter of the file alone, with the
environment having a part in the values only.  Then, once a file is loaded, the
environment has all of these names, and to load the file again changes nothing.
-/

open PlatformDouble.Config

/-- A name, and whether it has a value. -/
def shape (entry : String × Option String) : String × Bool :=
  (entry.1, entry.2.isSome)

theorem map_shape_insert
    (resolved : Resolved)
    (name : String)
    (value : Option String) :
    (resolved.insert name value).entries.map shape =
      ((Table.mk (resolved.entries.map shape)).insert name value.isSome).entries := by
  suffices
      ∀ entries : List (String × Option String),
        (Table.insertEntry name value entries).map shape =
          Table.insertEntry name value.isSome (entries.map shape) from
    this resolved.entries
  intro entries
  induction entries with
  | nil =>
      rfl
  | cons entry rest inductionHypothesis =>
      rcases entry with ⟨first, previous⟩
      by_cases isFirst : first = name
      · simp [Table.insertEntry, shape, isFirst]
      · simp [Table.insertEntry, shape, isFirst, inductionHypothesis]

theorem map_shape_ofList
    (entries : List (String × Option String)) :
    (Table.ofList entries).entries.map shape =
      (Table.ofList (entries.map shape)).entries := by
  induction entries using List.reverseRecOn with
  | nil =>
      rfl
  | append_singleton earlier entry inductionHypothesis =>
      rw [List.map_append, List.map_singleton, Table.ofList_append_singleton,
        Table.ofList_append_singleton, map_shape_insert, inductionHypothesis]
      rfl

namespace Loader

/-- A loader that finds the same names in a file, and values for the same of them, wherever. -/
def GivesAlike (loader : Loader) : Prop :=
  ∀ environment other text,
    (loader.read environment text).map shape = (loader.read other text).map shape

variable {loader : Loader} {environment : Environment} {content : Option String}

/-- What has a value in one environment has one in every other that loads files. -/
theorem GivesAlike.exists_gives?
    (givesAlike : loader.GivesAlike)
    {other : Environment}
    (switchedOn : ¬ loader.isDisabled other = true)
    {name value : String}
    (isGiven : loader.gives? environment content name = some value) :
    ∃ otherValue, loader.gives? other content name = some otherValue := by
  have member := gives?_eq_some_iff.mp isGiven
  cases content with
  | none =>
      cases member
  | some text =>
      rw [definitions] at member
      split at member
      · cases member
      have sameShapes :
          (loader.definitions other (some text)).entries.map shape =
            (Table.ofList (loader.read environment text)).entries.map shape := by
        rw [definitions, if_neg switchedOn, map_shape_ofList, map_shape_ofList,
          givesAlike environment other]
      have shapeMember : shape (name, some value) ∈ _ := List.mem_map_of_mem member
      rw [← sameShapes] at shapeMember
      obtain ⟨⟨otherName, _ | otherValue⟩, otherMember, sameShape⟩ :=
        List.mem_map.mp shapeMember
      · cases sameShape
      · obtain rfl : otherName = name := congrArg Prod.fst sameShape
        exact ⟨otherValue, gives?_eq_some_iff.mpr otherMember⟩

/-- A file changes nothing where all names it gives a value to are variables already. -/
theorem load_of_known
    (known :
      ∀ name value,
        loader.gives? environment content name = some value →
          environment.contains name = true) :
    loader.load content environment = Traced.done () environment := by
  have idle :
      ∀ entry ∈ (loader.definitions environment content).entries,
        loadEntry entry environment = Traced.done () environment := by
    rintro ⟨name, _ | value⟩ member
    · rfl
    · exact loadEntry_of_known (known name value (gives?_eq_some_iff.mpr member))
  have loaded := Traced.forEach_of_done (fun _ => ()) idle
  rw [load_apply, Traced.bind_of_ok (congrArg Outcome.result loaded), loaded]
  rfl

theorem load_of_accepts
    (accepts : loader.Accepts environment content) :
    loader.load content environment =
      Traced.done () (loader.load content environment).state := by
  have said := trace_load loader content environment
  have loaded := result_load_eq_ok_iff.mpr accepts
  rcases outcome : loader.load content environment with ⟨trace, state, result⟩
  rw [outcome] at said loaded
  cases said
  cases loaded
  rfl

/-- Once a file is loaded, to load it again changes nothing. -/
theorem load_load
    (givesAlike : loader.GivesAlike)
    (accepts : loader.Accepts environment content) :
    loader.load content (loader.load content environment).state =
      loader.load content environment := by
  refine Eq.trans ?_ (load_of_accepts accepts).symm
  by_cases switchedOff : loader.isDisabled environment = true
  · rw [load_of_disabled switchedOff]
    exact load_of_disabled switchedOff
  -- The file may have switched loading off; otherwise all that it gives is there.
  refine load_of_known fun name value isGiven => ?_
  obtain ⟨first, wasGiven⟩ := givesAlike.exists_gives? switchedOff isGiven
  rw [Table.contains, get?_load (result_load_eq_ok_iff.mpr accepts), wasGiven]
  cases environment.get? name <;> rfl

end Loader

end PlatformDouble.EnvFile
