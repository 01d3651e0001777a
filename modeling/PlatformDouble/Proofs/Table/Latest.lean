import Mathlib.Data.List.Basic
import Mathlib.Data.List.Induction
import PlatformDouble.Proofs.Table.Order

namespace PlatformDouble

/-!
# Tables that are written entry by entry

In a table into which entries were inserted one after another, the last entry of a key
counts, and the keys stand in the order of their first entries.
-/

section LastBy

variable {ι ι' κ : Type} [BEq κ] {part : ι → κ} {items : List ι}

/-- The last item of which a part has a given value. -/
def lastBy (part : ι → κ) (items : List ι) (value : κ) : Option ι :=
  (items.filter fun item => part item == value).getLast?

/-- The last of the things made of items is made of the last item. -/
theorem lastBy_map
    (part : ι' → κ)
    (change : ι → ι')
    (items : List ι)
    (value : κ) :
    lastBy part (items.map change) value =
      (lastBy (fun item => part (change item)) items value).map change := by
  rw [lastBy, List.filter_map, List.getLast?_map]
  rfl

variable [LawfulBEq κ]

theorem of_lastBy
    {value : κ}
    {last : ι}
    (isLast : lastBy part items value = some last) :
    last ∈ items ∧ part last = value := by
  have member := List.mem_of_getLast? isLast
  simpa using List.mem_filter.mp member

theorem exists_lastBy
    {item : ι}
    (member : item ∈ items) :
    ∃ last, lastBy part items (part item) = some last := by
  have kept : item ∈ items.filter fun other => part other == part item :=
    List.mem_filter.mpr ⟨member, by simp⟩
  exact ⟨_, List.getLast?_eq_some_getLast (List.ne_nil_of_mem kept)⟩

theorem lastBy_eq_none
    {value : κ}
    (absent : ∀ item ∈ items, part item ≠ value) :
    lastBy part items value = none := by
  have noneLeft : (items.filter fun item => part item == value) = [] :=
    List.filter_eq_nil_iff.mpr fun item member => by
      simpa using absent item member
  rw [lastBy, noneLeft]
  rfl

end LastBy

namespace Table

variable {κ ν : Type} [BEq κ] [LawfulBEq κ]

/-- One more item is among the different ones already, or comes last. -/
theorem eraseDups_append_singleton
    (items : List κ)
    (item : κ) :
    (items ++ [item]).eraseDups =
      if items.contains item then items.eraseDups else items.eraseDups ++ [item] := by
  rw [List.eraseDups_append]
  cases known : items.contains item with
  | true =>
      simp only [List.removeAll, List.elem_eq_contains, List.filter_cons, known]
      simp
  | false =>
      simp only [List.removeAll, List.elem_eq_contains, List.filter_cons, known]
      simp [List.eraseDups_cons]

/-- Different items stay different under an injective function. -/
theorem eraseDups_map
    {ι : Type}
    [BEq ι]
    [LawfulBEq ι]
    {rename : κ → ι}
    (injective : Function.Injective rename)
    (items : List κ) :
    (items.map rename).eraseDups = items.eraseDups.map rename := by
  induction items using List.reverseRecOn with
  | nil =>
      rfl
  | append_singleton earlier item inductionHypothesis =>
      have sameMember :
          (earlier.map rename).contains (rename item) = earlier.contains item := by
        rw [Bool.eq_iff_iff, List.contains_iff_mem, List.contains_iff_mem,
          List.mem_map_of_injective injective]
      rw [List.map_append, List.map_singleton, eraseDups_append_singleton,
        eraseDups_append_singleton, sameMember, inductionHypothesis]
      split
      · rfl
      · rw [List.map_append, List.map_singleton]

omit [LawfulBEq κ] in
theorem ofList_append_singleton
    (entries : List (κ × ν))
    (entry : κ × ν) :
    ofList (entries ++ [entry]) = (ofList entries).insert entry.1 entry.2 := by
  simp [ofList, List.foldl_append]

/-- Of entries that are inserted one after another, the last one of a key counts. -/
theorem get?_ofList
    (entries : List (κ × ν))
    (key : κ) :
    (ofList entries).get? key = (lastBy Prod.fst entries key).map Prod.snd := by
  unfold lastBy
  induction entries using List.reverseRecOn with
  | nil =>
      rfl
  | append_singleton earlier entry inductionHypothesis =>
      rw [ofList_append_singleton, get?_insert, inductionHypothesis,
        List.filter_append, List.getLast?_append]
      by_cases isKey : entry.1 = key
      · simp [isKey]
      · simp [isKey]

/-- Of what is inserted for one item after another, the last one with a key counts. -/
theorem get?_ofList_map
    {ι : Type}
    (items : List ι)
    (written : ι → κ × ν)
    (key : κ) :
    (ofList (items.map written)).get? key =
      (lastBy (fun item => (written item).1) items key).map
        fun item => (written item).2 := by
  rw [get?_ofList, lastBy_map, Option.map_map]
  rfl

/-- The keys stand in the order in which they were first inserted. -/
theorem keys_ofList
    (entries : List (κ × ν)) :
    (ofList entries).keys = (entries.map Prod.fst).eraseDups := by
  induction entries using List.reverseRecOn with
  | nil =>
      rfl
  | append_singleton earlier entry inductionHypothesis =>
      rw [ofList_append_singleton, keys_insert, List.map_append, List.map_singleton,
        eraseDups_append_singleton, inductionHypothesis]
      have sameKeys :
          (ofList earlier).contains entry.1 =
            (earlier.map Prod.fst).contains entry.1 := by
        rw [Bool.eq_iff_iff, contains_iff, inductionHypothesis, List.mem_eraseDups,
          List.contains_iff_mem]
      rw [sameKeys]

theorem keys_nodup_ofList
    (entries : List (κ × ν)) :
    (ofList entries).keys.Nodup := by
  induction entries using List.reverseRecOn with
  | nil =>
      exact List.nodup_nil
  | append_singleton earlier entry inductionHypothesis =>
      rw [ofList_append_singleton]
      exact keys_nodup_insert _ _ inductionHypothesis

/-- Entries with different keys are inserted as they are. -/
theorem ofList_of_nodup
    {entries : List (κ × ν)}
    (distinct : (entries.map Prod.fst).Nodup) :
    ofList entries = ⟨entries⟩ := by
  induction entries using List.reverseRecOn with
  | nil =>
      rfl
  | append_singleton earlier entry inductionHypothesis =>
      rw [List.map_append, List.map_singleton] at distinct
      obtain ⟨earlierDistinct, -, isNew⟩ := List.nodup_append.mp distinct
      have absent : (Table.mk earlier).get? entry.1 = none :=
        get?_eq_none_iff.mpr fun member => isNew _ member _ (List.mem_singleton.mpr rfl) rfl
      rw [ofList_append_singleton, inductionHypothesis earlierDistinct]
      exact congrArg Table.mk (entries_insert_of_absent entry.2 absent)

end Table

end PlatformDouble
