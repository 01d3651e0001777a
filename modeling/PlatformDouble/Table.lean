namespace PlatformDouble

/-!
# Insertion-ordered tables

A table is a finite association of keys with values that remembers the order in
which keys were first inserted.  Writing to a key that is already present
replaces its value and keeps both its place and the key as first spelled; erasing
a key forgets its place, so a later insertion puts it last.

Keys are compared with `==`.  Each operation has one equation through `get?`,
stated for a lawful comparison.
-/

/-- Keys with their values, in the order of first insertion. -/
structure Table (κ ν : Type) where
  entries : List (κ × ν) := []
  deriving Repr, DecidableEq

namespace Table

variable {κ ν : Type}

def empty : Table κ ν := { entries := [] }

/-- The keys in the order of first insertion. -/
def keys (table : Table κ ν) : List κ :=
  table.entries.map Prod.fst

/-- The values in the order of their keys. -/
def values (table : Table κ ν) : List ν :=
  table.entries.map Prod.snd

/-- The number of keys. -/
def size (table : Table κ ν) : Nat :=
  table.entries.length

variable [BEq κ]

/-- The value stored first under a key in a list of entries. -/
def lookupEntry (key : κ) : List (κ × ν) → Option ν
  | [] => none
  | (other, value) :: rest =>
      if other == key then
        some value
      else
        lookupEntry key rest

/-- Replace the value of a key in place, or put the key last. -/
def insertEntry (key : κ) (value : ν) : List (κ × ν) → List (κ × ν)
  | [] => [(key, value)]
  | (other, previous) :: rest =>
      if other == key then
        (other, value) :: rest
      else
        (other, previous) :: insertEntry key value rest

def eraseEntry (key : κ) : List (κ × ν) → List (κ × ν)
  | [] => []
  | (other, value) :: rest =>
      if other == key then
        eraseEntry key rest
      else
        (other, value) :: eraseEntry key rest

/-- The value of a key. -/
def get? (table : Table κ ν) (key : κ) : Option ν :=
  lookupEntry key table.entries

/-- Whether a key has a value. -/
def contains (table : Table κ ν) (key : κ) : Bool :=
  (table.get? key).isSome

/-- Write a value under a key. -/
def insert (table : Table κ ν) (key : κ) (value : ν) : Table κ ν :=
  { entries := insertEntry key value table.entries }

/-- Forget a key. -/
def erase (table : Table κ ν) (key : κ) : Table κ ν :=
  { entries := eraseEntry key table.entries }

def ofList (entries : List (κ × ν)) : Table κ ν :=
  entries.foldl (fun table entry => table.insert entry.1 entry.2) empty

@[simp] theorem get?_empty (key : κ) :
    (empty : Table κ ν).get? key = none :=
  rfl

section Lookup

variable [LawfulBEq κ]

private theorem lookupEntry_insertEntry
    (key other : κ)
    (value : ν)
    (entries : List (κ × ν)) :
    lookupEntry other (insertEntry key value entries) =
      if key == other then some value else lookupEntry other entries := by
  induction entries with
  | nil =>
      simp [insertEntry, lookupEntry]
  | cons entry rest inductionHypothesis =>
      rcases entry with ⟨first, previous⟩
      by_cases firstIsKey : first = key
      · subst firstIsKey
        by_cases keyIsOther : first = other <;>
          simp [insertEntry, lookupEntry, keyIsOther]
      · by_cases firstIsOther : first = other
        · subst firstIsOther
          have keyNotOther : key ≠ first := fun same => firstIsKey same.symm
          simp [insertEntry, lookupEntry, firstIsKey, keyNotOther]
        · simp [insertEntry, lookupEntry, firstIsKey, firstIsOther,
            inductionHypothesis]

/-- A write is seen under its key and nowhere else. -/
theorem get?_insert
    (table : Table κ ν)
    (key other : κ)
    (value : ν) :
    (table.insert key value).get? other =
      if key == other then some value else table.get? other :=
  lookupEntry_insertEntry key other value table.entries

@[simp] theorem get?_insert_self
    (table : Table κ ν)
    (key : κ)
    (value : ν) :
    (table.insert key value).get? key = some value := by
  simp [get?_insert]

theorem get?_insert_of_ne
    (table : Table κ ν)
    {key other : κ}
    (value : ν)
    (different : key ≠ other) :
    (table.insert key value).get? other = table.get? other := by
  simp [get?_insert, different]

private theorem lookupEntry_eraseEntry
    (key other : κ)
    (entries : List (κ × ν)) :
    lookupEntry other (eraseEntry key entries) =
      if key == other then none else lookupEntry other entries := by
  induction entries with
  | nil =>
      simp [eraseEntry, lookupEntry]
  | cons entry rest inductionHypothesis =>
      rcases entry with ⟨first, previous⟩
      by_cases firstIsKey : first = key
      · subst firstIsKey
        by_cases keyIsOther : first = other <;>
          simp_all [eraseEntry, lookupEntry]
      · by_cases firstIsOther : first = other
        · subst firstIsOther
          have keyNotOther : key ≠ first := fun same => firstIsKey same.symm
          simp [eraseEntry, lookupEntry, firstIsKey, keyNotOther]
        · simp [eraseEntry, lookupEntry, firstIsKey, firstIsOther,
            inductionHypothesis]

/-- An erasure is seen under its key and nowhere else. -/
theorem get?_erase
    (table : Table κ ν)
    (key other : κ) :
    (table.erase key).get? other =
      if key == other then none else table.get? other :=
  lookupEntry_eraseEntry key other table.entries

@[simp] theorem get?_erase_self
    (table : Table κ ν)
    (key : κ) :
    (table.erase key).get? key = none := by
  simp [get?_erase]

theorem get?_erase_of_ne
    (table : Table κ ν)
    {key other : κ}
    (different : key ≠ other) :
    (table.erase key).get? other = table.get? other := by
  simp [get?_erase, different]

end Lookup

end Table

end PlatformDouble
