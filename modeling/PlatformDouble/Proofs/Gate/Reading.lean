import PlatformDouble.Gate.Discovery
import PlatformDouble.Proofs.Gate.Soundness

namespace PlatformDouble

/-!
# What cursors read

A cursor reads the components that were listed when it was first advanced, one at a
time.  How far it has come is told by the trace: by its opening, by how often it was
advanced since, and by what had been registered before the first time.  What it answers
then depends on its place and on the registrations up to now, and on nothing else.
-/

variable {ρ : Type}

/-- What is done with a cursor registers nothing. -/
theorem Registration.ofTrace_append_cursor
    (past : List (Entry ρ))
    (change : CursorChange) :
    ofTrace (past ++ [.cursor change]) = ofTrace past := by
  rw [ofTrace_append]
  exact List.append_nil _

namespace Directory

variable
  {history : List Registration}
  {component : Option ComponentName}

/-- What is listed under a key, whatever keys it is the same as, was registered. -/
theorem exists_of_mem_listing
    {key : ActionKey}
    (member : component ∈ (ofHistory history).listing key) :
    ∃ entry ∈ history, entry.component = component := by
  induction history using List.reverseRecOn generalizing key with
  | nil =>
      cases member
  | append_singleton earlier written inductionHypothesis =>
      have ofEarlier
          {other : ActionKey}
          (isEarlier : component ∈ (ofHistory earlier).listing other) :
          ∃ entry ∈ earlier ++ [written], entry.component = component := by
        obtain ⟨entry, inEarlier, isComponent⟩ := inductionHypothesis isEarlier
        exact ⟨entry, List.mem_append_left _ inEarlier, isComponent⟩
      rw [ofHistory_append_singleton] at member
      unfold listing write at member
      rcases Table.get?_insert_eq_or (ofHistory earlier).listings written.key key
          ((ofHistory earlier).listing written.key ++ [written.component]) with
        isWritten | isKept
      · rw [isWritten] at member
        rcases List.mem_append.mp member with isEarlier | isLast
        · exact ofEarlier isEarlier
        · exact ⟨written, by simp, (List.mem_singleton.mp isLast).symm⟩
      · rw [isKept] at member
        exact ofEarlier member

theorem exists_of_listed
    {action : Value}
    {components : List (Option ComponentName)}
    (lists : (ofHistory history).listed action = .ok components)
    (member : component ∈ components) :
    ∃ entry ∈ history, entry.component = component := by
  unfold listed at lists
  split at lists
  next =>
    cases lists
    exact absurd member List.not_mem_nil
  next =>
    cases isKey : ActionKey.ofValue action with
    | error fault =>
        rw [isKey] at lists
        cases lists
    | ok key =>
        rw [isKey] at lists
        cases lists
        exact exists_of_mem_listing member

/-- The result for a component that was registered has the descriptor of its last registration. -/
theorem resolveListed_ofHistory
    {name : ComponentName}
    {entry : Registration}
    (isLast : Registration.lastOf history (some name) = some entry) :
    (ofHistory history).resolveListed (some name) =
      .ok { serviceInfo := entry.descriptor, component := name } := by
  rw [resolveListed, descriptor?_ofHistory, isLast]
  rfl

end Directory

/-- How far a cursor has come. -/
inductive Place where
  | opened (action : Value)
  /-- It was advanced so many times, at first after these registrations. -/
  | advanced (action : Value) (first : List Registration) (times : Nat)

namespace Place

/-- The components that are read from a place: those listed when the cursor is first advanced. -/
def listed (now : List Registration) : Place → Except Fault (List (Option ComponentName))
  | opened action => (Directory.ofHistory now).listed action
  | advanced action first _ => (Directory.ofHistory first).listed action

def times : Place → Nat
  | opened _ => 0
  | advanced _ _ times => times

/-- The place after one more advance. -/
def next (now : List Registration) : Place → Place
  | opened action => advanced action now 1
  | advanced action first times => advanced action first (times + 1)

/-- Where an entry leaves the cursor of a name. -/
def follow (name : String) (now : List Registration) (place : Option Place) :
    Entry ρ → Option Place
  | .cursor (.opened other action) => if other = name then some (opened action) else place
  | .cursor (.advanced other _) => if other = name then place.map (next now) else place
  | _ => place

/-- The registrations in a trace, and the place where it leaves the cursor of a name. -/
def trail (name : String) (trace : List (Entry ρ)) : List Registration × Option Place :=
  trace.foldl
    (fun reached entry =>
      (reached.1 ++ Registration.ofTrace [entry], follow name reached.1 reached.2 entry))
    ([], none)

/-- Where a trace leaves the cursor of a name, if it opens one. -/
def after (name : String) (trace : List (Entry ρ)) : Option Place :=
  (trail name trace).2

/-- What a cursor answers at a place, after some registrations. -/
inductive Answers (now : List Registration) (place : Place) :
    Except Fault (Option ResolveInfo) → Prop where
  /-- The next component comes with the descriptor of its latest registration. -/
  | item
      {components : List (Option ComponentName)}
      {component : ComponentName}
      {entry : Registration}
      (lists : place.listed now = .ok components)
      (isNext : components[place.times]? = some (some component))
      (isLatest : Registration.lastOf now (some component) = some entry) :
      Answers now place
        (.ok (some { serviceInfo := entry.descriptor, component := component }))
  | finished
      {components : List (Option ComponentName)}
      (lists : place.listed now = .ok components)
      (noneLeft : components.length ≤ place.times) :
      Answers now place (.ok none)
  | unusable
      {fault : Fault}
      (refuses : place.listed now = .error fault)
      (isFirst : place.times = 0) :
      Answers now place (.error fault)
  | ended
      {fault : Fault}
      (refuses : place.listed now = .error fault)
      (isLater : place.times ≠ 0) :
      Answers now place (.ok none)

/-- A cursor stands at a place. -/
inductive IsOf (now : List Registration) : Place → Cursor → Prop where
  | waiting
      (action : Value) :
      IsOf now (.opened action) (.waiting action)
  | reading
      {action : Value}
      {first : List Registration}
      {components : List (Option ComponentName)}
      (isPast : first ⊆ now)
      (lists : (Directory.ofHistory first).listed action = .ok components)
      (times : Nat) :
      IsOf now (.advanced action first times) (.reading (components.drop times))
  | finished
      {action : Value}
      {first : List Registration}
      {components : List (Option ComponentName)}
      {times : Nat}
      (lists : (Directory.ofHistory first).listed action = .ok components)
      (noneLeft : components.length ≤ times) :
      IsOf now (.advanced action first times) .exhausted
  | unusable
      {action : Value}
      {first : List Registration}
      {fault : Fault}
      (refuses : (Directory.ofHistory first).listed action = .error fault)
      (times : Nat) :
      IsOf now (.advanced action first (times + 1)) .exhausted

section After

variable (name : String)

theorem trail_append_singleton
    (past : List (Entry ρ))
    (entry : Entry ρ) :
    trail name (past ++ [entry]) =
      ((trail name past).1 ++ Registration.ofTrace [entry],
        follow name (trail name past).1 (trail name past).2 entry) := by
  simp [trail, List.foldl_append]

theorem trail_fst
    (trace : List (Entry ρ)) :
    (trail name trace).1 = Registration.ofTrace trace := by
  induction trace using List.reverseRecOn with
  | nil =>
      rfl
  | append_singleton past entry inductionHypothesis =>
      rw [trail_append_singleton, inductionHypothesis, ← Registration.ofTrace_append]

@[simp] theorem after_append_singleton
    (past : List (Entry ρ))
    (entry : Entry ρ) :
    after name (past ++ [entry]) =
      follow name (Registration.ofTrace past) (after name past) entry := by
  rw [after, trail_append_singleton, trail_fst]
  rfl

end After

section Advance

variable
  {now : List Registration}
  {place : Place}
  {cursor : Cursor}

/-- What stands at a place stands there whatever else is registered. -/
theorem IsOf.append
    (isOf : place.IsOf now cursor)
    (more : List Registration) :
    place.IsOf (now ++ more) cursor := by
  cases isOf with
  | waiting action =>
      exact .waiting action
  | reading isPast lists times =>
      exact .reading (List.subset_append_of_subset_left more isPast) lists times
  | finished lists noneLeft =>
      exact .finished lists noneLeft
  | unusable refuses times =>
      exact .unusable refuses times

/-- One more component of a listing is answered, or its end. -/
theorem step_drop
    (named : ∀ entry ∈ now, entry.component ≠ none)
    {action : Value}
    {first : List Registration}
    {components : List (Option ComponentName)}
    (isPast : first ⊆ now)
    (isListed : (Directory.ofHistory first).listed action = .ok components)
    (lists : place.listed now = .ok components) :
    let stepped := Cursor.step (Directory.ofHistory now) (components.drop place.times)
    place.Answers now stepped.1 ∧
      (Place.advanced action first (place.times + 1)).IsOf now stepped.2 := by
  intro stepped
  by_cases noneLeft : components.length ≤ place.times
  · have isOver : stepped = (.ok none, .exhausted) := by
      simp only [stepped, List.drop_of_length_le noneLeft, Cursor.step]
    rw [isOver]
    exact ⟨.finished lists noneLeft, .finished isListed (by omega)⟩
  · have isInside : place.times < components.length := by
      omega
    obtain ⟨entry, inFirst, isComponent⟩ :=
      Directory.exists_of_listed isListed (List.getElem_mem isInside)
    obtain ⟨component, isNamed⟩ :=
      Option.ne_none_iff_exists'.mp (named entry (isPast inFirst))
    obtain ⟨latest, isLatest⟩ := Registration.exists_lastOf (isPast inFirst)
    rw [isNamed] at isComponent isLatest
    have isNext : components[place.times]? = some (some component) := by
      rw [List.getElem?_eq_getElem isInside, ← isComponent]
    have isItem :
        stepped =
          (.ok (some { serviceInfo := latest.descriptor, component := component }),
            .reading (components.drop (place.times + 1))) := by
      simp only [stepped, List.drop_eq_getElem_cons isInside, ← isComponent, Cursor.step,
        Directory.resolveListed_ofHistory isLatest]
    rw [isItem]
    exact ⟨.item lists isNext isLatest, .reading isPast isListed _⟩

/-- A cursor that is advanced answers as its place tells, and stands at the next one. -/
theorem IsOf.advance
    (named : ∀ entry ∈ now, entry.component ≠ none)
    (isOf : place.IsOf now cursor) :
    let advanced := cursor.advance (Directory.ofHistory now)
    place.Answers now advanced.1 ∧ (place.next now).IsOf now advanced.2 := by
  intro advanced
  cases isOf with
  | waiting action =>
      cases lists : (Directory.ofHistory now).listed action with
      | ok components =>
          have isStep :
              advanced = Cursor.step (Directory.ofHistory now) (components.drop 0) := by
            simp only [advanced, Cursor.advance, lists, List.drop_zero]
          rw [isStep]
          exact step_drop named (List.Subset.refl now) lists lists
      | error fault =>
          have isRefused : advanced = (.error fault, .exhausted) := by
            simp only [advanced, Cursor.advance, lists]
          rw [isRefused]
          exact ⟨.unusable lists rfl, .unusable lists 0⟩
  | reading isPast lists times =>
      exact step_drop named isPast lists lists
  | finished lists noneLeft =>
      exact ⟨.finished lists noneLeft, .finished lists (Nat.le_succ_of_le noneLeft)⟩
  | unusable refuses times =>
      exact ⟨.ended refuses (Nat.succ_ne_zero times), .unusable refuses (times + 1)⟩

/-- No component comes without a descriptor if each was registered with one. -/
theorem Answers.described
    {info : ResolveInfo}
    (answers : place.Answers now (.ok (some info)))
    (described : ∀ entry ∈ now, entry.descriptor ≠ none) :
    info.serviceInfo ≠ none := by
  cases answers with
  | item lists isNext isLatest =>
      exact described _ (Registration.of_lastOf isLatest).1

end Advance

end Place

/-- Every cursor that a trace opens answers, whenever it is advanced, as its place tells. -/
def AnswersInOrder (trace : List (Entry ρ)) : Prop :=
  ∀ earlier later name answer place,
    trace = earlier ++ .cursor (.advanced name answer) :: later →
      Place.after name earlier = some place →
        place.Answers (Registration.ofTrace earlier) answer

namespace AnswersInOrder

theorem nil :
    AnswersInOrder ([] : List (Entry ρ)) := by
  intro earlier later name answer place split
  simp at split

/-- Only what is answered last has to be looked at. -/
theorem append_singleton
    {past : List (Entry ρ)}
    {entry : Entry ρ}
    (inOrder : AnswersInOrder past)
    (answers :
      ∀ name answer place,
        entry = .cursor (.advanced name answer) →
          Place.after name past = some place →
            place.Answers (Registration.ofTrace past) answer) :
    AnswersInOrder (past ++ [entry]) := by
  intro earlier later name answer place split stands
  rcases List.eq_nil_or_concat later with isLast | ⟨between, last, isLater⟩
  · subst isLast
    obtain ⟨isPast, isEntry⟩ := List.append_inj' split rfl
    subst isPast
    exact answers name answer place (List.singleton_inj.mp isEntry) stands
  · subst isLater
    rw [List.concat_eq_append, ← List.cons_append, ← List.append_assoc] at split
    obtain ⟨isPast, -⟩ := List.append_inj' split rfl
    exact inOrder earlier between name answer place isPast stands

end AnswersInOrder

namespace Entry

/-- Whether an entry neither registers anything nor has to do with a cursor. -/
def isQuiet : Entry ρ → Bool
  | .gate (.registered _) => false
  | .cursor _ => false
  | _ => true

variable {entry : Entry ρ}

theorem ofTrace_of_isQuiet
    (isQuiet : entry.isQuiet = true) :
    Registration.ofTrace [entry] = [] := by
  cases entry with
  | gate change =>
      cases change with
      | registered written =>
          cases isQuiet
      | _ =>
          rfl
  | _ =>
      rfl

theorem follow_of_isQuiet
    (isQuiet : entry.isQuiet = true)
    (name : String)
    (now : List Registration)
    (place : Option Place) :
    Place.follow name now place entry = place := by
  cases entry with
  | cursor change =>
      cases isQuiet
  | _ =>
      rfl

end Entry

end PlatformDouble
