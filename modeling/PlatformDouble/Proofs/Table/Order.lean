import PlatformDouble.Table

namespace PlatformDouble.Table

/-!
# Tables as ordered lists

What a table holds, in order: a new key goes last, an erased key leaves its
neighbours where they are, and no key is there twice.
-/

variable {κ ν : Type} [BEq κ] [LawfulBEq κ]

omit [LawfulBEq κ] in
/-- The first entry counts if it is one of the key. -/
theorem get?_mk_cons
    (entry : κ × ν)
    (rest : List (κ × ν))
    (key : κ) :
    (Table.mk (entry :: rest)).get? key =
      if entry.1 == key then some entry.2 else (Table.mk rest).get? key :=
  rfl

/-- The value of a key is that of its first entry. -/
theorem get?_eq_find?
    (table : Table κ ν)
    (key : κ) :
    table.get? key =
      (table.entries.find? fun entry => entry.1 == key).map Prod.snd := by
  suffices
      ∀ entries : List (κ × ν),
        lookupEntry key entries =
          (entries.find? fun entry => entry.1 == key).map Prod.snd from
    this table.entries
  intro entries
  induction entries with
  | nil =>
      rfl
  | cons entry rest inductionHypothesis =>
      rcases entry with ⟨first, value⟩
      by_cases firstIsKey : first = key
      · simp [lookupEntry, firstIsKey]
      · simp [lookupEntry, firstIsKey, inductionHypothesis]

/-- A key has no value exactly when it is not among the keys. -/
theorem get?_eq_none_iff
    {table : Table κ ν}
    {key : κ} :
    table.get? key = none ↔ key ∉ table.keys := by
  rw [get?_eq_find?]
  simp only [Option.map_eq_none_iff, List.find?_eq_none, beq_iff_eq, keys,
    List.mem_map, not_exists, not_and]

/-- To write what a key has already is no change. -/
theorem insert_of_get?
    {table : Table κ ν}
    {key : κ}
    {value : ν}
    (found : table.get? key = some value) :
    table.insert key value = table := by
  suffices
      ∀ entries : List (κ × ν),
        lookupEntry key entries = some value →
          insertEntry key value entries = entries from
    congrArg Table.mk (this table.entries found)
  intro entries foundInEntries
  induction entries with
  | nil =>
      cases foundInEntries
  | cons entry rest inductionHypothesis =>
      rcases entry with ⟨first, previous⟩
      by_cases firstIsKey : first = key
      · subst firstIsKey
        simpa [lookupEntry, insertEntry, eq_comm] using foundInEntries
      · have foundInRest : lookupEntry key rest = some value := by
          simpa [lookupEntry, firstIsKey] using foundInEntries
        simp [insertEntry, firstIsKey, inductionHypothesis foundInRest]

omit [LawfulBEq κ] in
/-- To write is no change only if the key has the value already. -/
theorem get?_of_insert_eq
    {table : Table κ ν}
    {key : κ}
    {value : ν}
    (same : table.insert key value = table) :
    table.get? key = some value := by
  suffices
      ∀ entries : List (κ × ν),
        insertEntry key value entries = entries →
          lookupEntry key entries = some value from
    this table.entries (congrArg Table.entries same)
  intro entries sameEntries
  induction entries with
  | nil =>
      cases sameEntries
  | cons entry rest inductionHypothesis =>
      rcases entry with ⟨first, previous⟩
      cases firstIsKey : first == key with
      | true =>
          simpa [lookupEntry, insertEntry, firstIsKey, eq_comm] using sameEntries
      | false =>
          have sameRest : insertEntry key value rest = rest := by
            simpa [insertEntry, firstIsKey] using sameEntries
          simp [lookupEntry, firstIsKey, inductionHypothesis sameRest]

/-- What the values of a table weigh together. -/
def total (table : Table κ ν) (weight : ν → Nat) : Nat :=
  (table.values.map weight).foldr (· + ·) 0

/-- To write over a value changes the weight of a table by what the value changes. -/
theorem total_insert
    {table : Table κ ν}
    {key : κ}
    {value : ν}
    (found : table.get? key = some value)
    (weight : ν → Nat)
    (next : ν) :
    (table.insert key next).total weight + weight value =
      table.total weight + weight next := by
  suffices
      ∀ entries : List (κ × ν),
        lookupEntry key entries = some value →
          (Table.mk (insertEntry key next entries)).total weight + weight value =
            (Table.mk entries).total weight + weight next from
    this table.entries found
  intro entries foundInEntries
  induction entries with
  | nil =>
      cases foundInEntries
  | cons entry rest inductionHypothesis =>
      rcases entry with ⟨first, previous⟩
      by_cases firstIsKey : first = key
      · subst firstIsKey
        obtain rfl : previous = value := by
          simpa [lookupEntry] using foundInEntries
        simp only [insertEntry, beq_self_eq_true, if_true, total, values, List.map_cons,
          List.foldr_cons]
        omega
      · have foundInRest : lookupEntry key rest = some value := by
          simpa [lookupEntry, firstIsKey] using foundInEntries
        have restChange := inductionHypothesis foundInRest
        simp only [total, values] at restChange
        simp only [insertEntry, beq_eq_false_iff_ne.mpr firstIsKey, Bool.false_eq_true, if_false,
          total, values, List.map_cons, List.foldr_cons]
        omega

/-- A value that is found is stored under its key. -/
theorem mem_entries_of_get?
    {table : Table κ ν}
    {key : κ}
    {value : ν}
    (found : table.get? key = some value) :
    (key, value) ∈ table.entries := by
  rw [get?_eq_find?] at found
  obtain ⟨⟨first, stored⟩, isFirst, isValue⟩ :=
    Option.map_eq_some_iff.mp found
  have sameKey : first = key := by
    simpa using List.find?_some isFirst
  have sameValue : stored = value :=
    isValue
  rw [← sameKey, ← sameValue]
  exact List.mem_of_find?_eq_some isFirst

/-- Where no key is there twice, every value is found under its key. -/
theorem get?_of_mem_entries
    {table : Table κ ν}
    (distinct : table.keys.Nodup)
    {entry : κ × ν}
    (member : entry ∈ table.entries) :
    table.get? entry.1 = some entry.2 := by
  suffices
      ∀ entries : List (κ × ν),
        (entries.map Prod.fst).Nodup →
          entry ∈ entries →
            lookupEntry entry.1 entries = some entry.2 from
    this table.entries distinct member
  intro entries entriesDistinct entriesMember
  induction entries with
  | nil =>
      exact absurd entriesMember List.not_mem_nil
  | cons first rest inductionHypothesis =>
      obtain ⟨firstNew, restDistinct⟩ := List.nodup_cons.mp entriesDistinct
      rcases List.mem_cons.mp entriesMember with isFirst | inRest
      · subst isFirst
        simp [lookupEntry]
      · have notFirst : first.1 ≠ entry.1 := by
          intro same
          exact firstNew (same ▸ List.mem_map_of_mem inRest)
        simpa [lookupEntry, notFirst] using inductionHypothesis restDistinct inRest

/-- A key has a value exactly when it is among the keys. -/
theorem contains_iff
    {table : Table κ ν}
    {key : κ} :
    table.contains key = true ↔ key ∈ table.keys := by
  cases found : table.get? key with
  | none =>
      simp [contains, found, get?_eq_none_iff.mp found]
  | some value =>
      have member : key ∈ table.keys :=
        List.mem_map_of_mem (mem_entries_of_get? found)
      simp [contains, found, member]

private theorem insertEntry_of_absent
    {key : κ}
    {value : ν}
    {entries : List (κ × ν)}
    (absent : key ∉ entries.map Prod.fst) :
    insertEntry key value entries = entries ++ [(key, value)] := by
  induction entries with
  | nil =>
      rfl
  | cons entry rest inductionHypothesis =>
      rcases entry with ⟨first, previous⟩
      have firstNotKey : first ≠ key := by
        intro same
        exact absent (by simp [same])
      have absentInRest : key ∉ rest.map Prod.fst := by
        intro member
        exact absent (List.mem_cons_of_mem first member)
      simp [insertEntry, firstNotKey,
        inductionHypothesis absentInRest]

/-- A new key goes last. -/
theorem entries_insert_of_absent
    {table : Table κ ν}
    {key : κ}
    (value : ν)
    (absent : table.get? key = none) :
    (table.insert key value).entries =
      table.entries ++ [(key, value)] :=
  insertEntry_of_absent (get?_eq_none_iff.mp absent)

/-- An erased key leaves all other entries in their order. -/
theorem entries_erase
    [DecidableEq κ]
    (table : Table κ ν)
    (key : κ) :
    (table.erase key).entries =
      table.entries.filter fun entry => entry.1 ≠ key := by
  suffices
      ∀ entries : List (κ × ν),
        eraseEntry key entries =
          entries.filter fun entry => entry.1 ≠ key from
    this table.entries
  intro entries
  induction entries with
  | nil =>
      rfl
  | cons entry rest inductionHypothesis =>
      rcases entry with ⟨first, value⟩
      by_cases firstIsKey : first = key
      · simp [eraseEntry, firstIsKey, inductionHypothesis]
      · simp [eraseEntry, firstIsKey, inductionHypothesis]

omit [LawfulBEq κ] in
/-- A write puts its key last, unless the key is there. -/
theorem keys_insert
    (table : Table κ ν)
    (key : κ)
    (value : ν) :
    (table.insert key value).keys =
      if table.contains key then table.keys else table.keys ++ [key] := by
  suffices
      ∀ entries : List (κ × ν),
        (insertEntry key value entries).map Prod.fst =
          if (lookupEntry key entries).isSome then
            entries.map Prod.fst
          else
            entries.map Prod.fst ++ [key] from
    this table.entries
  intro entries
  induction entries with
  | nil =>
      rfl
  | cons entry rest inductionHypothesis =>
      rcases entry with ⟨first, previous⟩
      cases firstIsKey : first == key with
      | true =>
          simp [insertEntry, lookupEntry, firstIsKey]
      | false =>
          simp only [insertEntry, lookupEntry, firstIsKey, Bool.false_eq_true, if_false,
            List.map_cons, inductionHypothesis]
          split <;> rfl

/-- A new key that is erased again leaves everything as it was. -/
theorem erase_insert_of_absent
    [DecidableEq κ]
    {table : Table κ ν}
    {key : κ}
    (value : ν)
    (absent : table.get? key = none) :
    (table.insert key value).erase key = table := by
  have notKey : ∀ entry ∈ table.entries, entry.1 ≠ key := by
    intro entry member same
    have isKey : key ∈ table.keys :=
      same ▸ List.mem_map_of_mem member
    exact get?_eq_none_iff.mp absent isKey
  have sameEntries :
      ((table.insert key value).erase key).entries = table.entries := by
    rw [entries_erase, entries_insert_of_absent value absent, List.filter_append,
      List.filter_eq_self.mpr fun entry member => by simpa using notKey entry member]
    simp
  rcases table with ⟨entries⟩
  exact congrArg Table.mk sameEntries

/-- No key comes to be there twice by a new one. -/
theorem keys_nodup_insert_of_absent
    {table : Table κ ν}
    {key : κ}
    (value : ν)
    (distinct : table.keys.Nodup)
    (absent : table.get? key = none) :
    (table.insert key value).keys.Nodup := by
  have keysAfter :
      (table.insert key value).keys = table.keys ++ [key] := by
    simp [keys, entries_insert_of_absent value absent]
  rw [keysAfter]
  have notKey : key ∉ table.keys :=
    get?_eq_none_iff.mp absent
  refine List.nodup_append.mpr ⟨distinct, by simp, ?_⟩
  intro other member last isLast same
  have otherIsKey : other = key :=
    same.trans (List.mem_singleton.mp isLast)
  exact notKey (otherIsKey ▸ member)

/-- No key comes to be there twice by a write. -/
theorem keys_nodup_insert
    {table : Table κ ν}
    (key : κ)
    (value : ν)
    (distinct : table.keys.Nodup) :
    (table.insert key value).keys.Nodup := by
  cases found : table.get? key with
  | none =>
      exact keys_nodup_insert_of_absent value distinct found
  | some previous =>
      have known : table.contains key = true := by
        simp [contains, found]
      rw [keys_insert, if_pos known]
      exact distinct

/-- No key comes to be there twice by an erasure. -/
theorem keys_nodup_erase
    [DecidableEq κ]
    {table : Table κ ν}
    (key : κ)
    (distinct : table.keys.Nodup) :
    (table.erase key).keys.Nodup := by
  have fewer :
      (table.erase key).keys.Sublist table.keys := by
    unfold keys
    rw [entries_erase]
    exact List.filter_sublist.map Prod.fst
  exact distinct.sublist fewer

section Exact

variable {κ ν : Type} [BEq κ]

/-- A key that is the same as itself and as no other one, whatever other keys are like. -/
structure IsExact (key : κ) : Prop where
  beq_iff : ∀ other : κ, (other == key) = true ↔ other = key
  iff_beq : ∀ other : κ, (key == other) = true ↔ key = other

/-- Whatever is written is seen under an exact key if it is written there, and only then. -/
theorem IsExact.get?_insert
    {key : κ}
    (exact : IsExact key)
    (table : Table κ ν)
    (written : κ)
    (value : ν) :
    (table.insert written value).get? key =
      if written == key then some value else table.get? key := by
  suffices
      ∀ entries : List (κ × ν),
        lookupEntry key (insertEntry written value entries) =
          if written == key then some value else lookupEntry key entries from
    this table.entries
  intro entries
  induction entries with
  | nil =>
      rfl
  | cons entry rest inductionHypothesis =>
      rcases entry with ⟨first, previous⟩
      by_cases isWritten : (first == written) = true
      · by_cases isKey : written = key
        · subst isKey
          simp [insertEntry, lookupEntry, isWritten, (exact.beq_iff written).mpr rfl]
        · have notFirst : first ≠ key := by
            intro same
            subst same
            exact isKey ((exact.iff_beq written).mp isWritten).symm
          simp [insertEntry, lookupEntry, isWritten, exact.beq_iff, isKey, notFirst]
      · by_cases isKey : written = key
        · subst isKey
          simp [insertEntry, lookupEntry, isWritten, inductionHypothesis,
            (exact.beq_iff written).mpr rfl]
        · simp [insertEntry, lookupEntry, isWritten, inductionHypothesis,
            exact.beq_iff, isKey]

/-- After a write a key has the value that was written or the one it had, however keys compare. -/
theorem get?_insert_eq_or
    (table : Table κ ν)
    (written key : κ)
    (value : ν) :
    (table.insert written value).get? key = some value ∨
      (table.insert written value).get? key = table.get? key := by
  suffices
      ∀ entries : List (κ × ν),
        lookupEntry key (insertEntry written value entries) = some value ∨
          lookupEntry key (insertEntry written value entries) =
            lookupEntry key entries from
    this table.entries
  intro entries
  induction entries with
  | nil =>
      cases isKey : written == key with
      | true =>
          simp [insertEntry, lookupEntry, isKey]
      | false =>
          simp [insertEntry, lookupEntry, isKey]
  | cons entry rest inductionHypothesis =>
      rcases entry with ⟨first, previous⟩
      cases isWritten : first == written with
      | true =>
          cases isKey : first == key with
          | true =>
              simp [insertEntry, lookupEntry, isWritten, isKey]
          | false =>
              simp [insertEntry, lookupEntry, isWritten, isKey]
      | false =>
          cases isKey : first == key with
          | true =>
              simp [insertEntry, lookupEntry, isWritten, isKey]
          | false =>
              simpa [insertEntry, lookupEntry, isWritten, isKey] using inductionHypothesis

end Exact

end PlatformDouble.Table
