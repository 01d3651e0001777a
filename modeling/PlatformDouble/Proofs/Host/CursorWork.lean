import PlatformDouble.Proofs.Host.Upkeep

namespace PlatformDouble

/-!
# Cursors among requests to a holder

As long as no new holder is made, all requests go to one holder, and a trace tells what
its directory holds and how far every cursor has come.  Every request to the holder
keeps this, whatever it registers or reads.
-/

open Context (HolderId Holder)

/-- All registrations of a trace name a component. -/
def NamesComponents {ρ : Type} (trace : List (Entry ρ)) : Prop :=
  ∀ entry ∈ Registration.ofTrace trace, entry.component ≠ none

theorem NamesComponents.of_append
    {ρ : Type}
    {first second : List (Entry ρ)}
    (named : NamesComponents (first ++ second)) :
    NamesComponents first := by
  intro entry member
  apply named entry
  rw [Registration.ofTrace_append]
  exact List.mem_append_left _ member

/-- A trace tells of the directory of a holder and of the cursors that it opened on it. -/
structure TellsReading
    {ρ : Type}
    (holder : HolderId)
    (cursors : Table String OpenCursor)
    (past : List (Entry ρ))
    (directory : Directory) :
    Prop where
  directory : directory = Directory.ofHistory (Registration.ofTrace past)
  stands :
    NamesComponents past →
      ∀ name place,
        Place.after name past = some place →
          ∃ cursor,
            cursors.get? name = some ⟨holder, cursor⟩ ∧
              place.IsOf (Registration.ofTrace past) cursor
  inOrder : NamesComponents past → AnswersInOrder past

namespace TellsReading

variable
  {ρ : Type}
  {holder : HolderId}
  {cursors : Table String OpenCursor}
  {past : List (Entry ρ)}
  {directory : Directory}

theorem start
    (holder : HolderId)
    (cursors : Table String OpenCursor) :
    TellsReading holder cursors ([] : List (Entry ρ)) {} where
  directory := rfl
  stands := by
    intro _ name place stands
    cases stands
  inOrder _ := AnswersInOrder.nil

theorem ignoresQuiet
    (holder : HolderId)
    (cursors : Table String OpenCursor) :
    IgnoresQuiet (TellsReading (ρ := ρ) holder cursors) := by
  intro past directory entry isQuiet tells
  have sameHistory :
      Registration.ofTrace (past ++ [entry]) = Registration.ofTrace past := by
    rw [Registration.ofTrace_append, Entry.ofTrace_of_isQuiet isQuiet, List.append_nil]
  have samePlace
      (name : String) :
      Place.after name (past ++ [entry]) = Place.after name past := by
    rw [Place.after_append_singleton, Entry.follow_of_isQuiet isQuiet]
  exact {
    directory := by
      rw [sameHistory]
      exact tells.directory
    stands := fun named name place stands => by
      rw [samePlace] at stands
      rw [sameHistory]
      exact tells.stands named.of_append name place stands
    inOrder := fun named => by
      apply (tells.inOrder named.of_append).append_singleton
      rintro name answer place rfl
      cases isQuiet }

theorem registered
    (tells : TellsReading holder cursors past directory)
    (entry : Registration) :
    TellsReading holder cursors (past ++ [.gate (.registered entry)]) (directory.write entry) where
  directory := by
    rw [tells.directory, Registration.ofTrace_append]
    exact (Directory.ofHistory_append_singleton _ entry).symm
  stands := fun named name place stands => by
    rw [Place.after_append_singleton] at stands
    obtain ⟨cursor, found, isOf⟩ := tells.stands named.of_append name place stands
    refine ⟨cursor, found, ?_⟩
    rw [Registration.ofTrace_append]
    exact isOf.append _
  inOrder := fun named => by
    apply (tells.inOrder named.of_append).append_singleton
    intro name answer place isAdvance
    cases isAdvance

theorem opened
    (tells : TellsReading holder cursors past directory)
    (name : String)
    (action : Value) :
    TellsReading holder
      (cursors.insert name ⟨holder, .waiting action⟩)
      (past ++ [.cursor (.opened name action)])
      directory where
  directory := by
    rw [Registration.ofTrace_append_cursor]
    exact tells.directory
  stands := fun named other place stands => by
    rw [Place.after_append_singleton] at stands
    rw [Registration.ofTrace_append_cursor]
    by_cases isOther : name = other
    · subst isOther
      simp only [Place.follow, if_true, Option.some.injEq] at stands
      subst stands
      exact ⟨.waiting action, Table.get?_insert_self _ _ _, .waiting action⟩
    · simp only [Place.follow, if_neg isOther] at stands
      rw [Table.get?_insert_of_ne _ _ isOther]
      exact tells.stands named.of_append other place stands
  inOrder := fun named => by
    apply (tells.inOrder named.of_append).append_singleton
    intro name answer place isAdvance
    cases isAdvance

/-- An opened cursor answers as its place tells, and then stands at the next one. -/
theorem advance
    (tells : TellsReading holder cursors past directory)
    (named : NamesComponents past)
    {name : String}
    {place : Place}
    (stands : Place.after name past = some place) :
    ∃ cursor,
      cursors.get? name = some ⟨holder, cursor⟩ ∧
        place.Answers (Registration.ofTrace past) (cursor.advance directory).1 ∧
          (place.next (Registration.ofTrace past)).IsOf
            (Registration.ofTrace past) (cursor.advance directory).2 := by
  obtain ⟨cursor, found, isOf⟩ := tells.stands named name place stands
  rw [tells.directory]
  exact ⟨cursor, found, isOf.advance named⟩

theorem advanced
    (tells : TellsReading holder cursors past directory)
    {name : String}
    {opened : OpenCursor}
    (found : cursors.get? name = some opened)
    {read : Directory}
    (isRead : opened.holder = holder → read = directory) :
    TellsReading holder
      (cursors.insert name { opened with cursor := (opened.cursor.advance read).2 })
      (past ++ [.cursor (.advanced name (opened.cursor.advance read).1)])
      directory where
  directory := by
    rw [Registration.ofTrace_append_cursor]
    exact tells.directory
  stands := fun named other place stands => by
    rw [Place.after_append_singleton] at stands
    rw [Registration.ofTrace_append_cursor]
    by_cases isOther : name = other
    · subst isOther
      simp only [Place.follow, if_true, Option.map_eq_some_iff] at stands
      obtain ⟨before, stoodBefore, rfl⟩ := stands
      obtain ⟨cursor, isFound, -, isOf⟩ := tells.advance named.of_append stoodBefore
      rw [found] at isFound
      cases isFound
      rw [isRead rfl]
      exact ⟨_, Table.get?_insert_self _ _ _, isOf⟩
    · simp only [Place.follow, if_neg isOther] at stands
      rw [Table.get?_insert_of_ne _ _ isOther]
      exact tells.stands named.of_append other place stands
  inOrder := fun named => by
    apply (tells.inOrder named.of_append).append_singleton
    rintro _ _ place ⟨⟩ stands
    obtain ⟨cursor, isFound, answers, -⟩ := tells.advance named.of_append stands
    rw [found] at isFound
    cases isFound
    rw [isRead rfl]
    exact answers

end TellsReading

/-- A trace tells of a host, whose current holder is a certain one. -/
structure Host.IsToldBy (holder : HolderId) (past : List (Entry Response)) (host : Host) :
    Prop where
  current : ∃ held, host.current = some held ∧ held.id = holder
  tells : TellsReading holder host.cursors past (host.gate holder).directory

namespace Host.IsToldBy

variable {holder : HolderId}

theorem ignoresQuiet :
    IgnoresQuiet (IsToldBy holder) :=
  fun past host entry isQuiet isTold => {
    current := isTold.current
    tells := TellsReading.ignoresQuiet holder host.cursors past _ entry isQuiet isTold.tells }

/-- A gate that is replaced by one with the same directory has no bearing. -/
theorem putGate
    {past : List (Entry Response)}
    {host : Host}
    (isTold : host.IsToldBy holder past)
    {gate : Gate}
    (same : gate.directory = (host.gate holder).directory) :
    ((Host.gatePart holder).put gate host).IsToldBy holder past := by
  have left : ((Host.gatePart holder).put gate host).gate holder = gate :=
    (Host.gatePart holder).get_put gate host
  refine ⟨isTold.current, ?_⟩
  rw [left, same]
  exact isTold.tells

/-- What a trace tells is upheld by all that is done for the holder in question. -/
theorem upkeep [Record.Validator] :
    Host.Upkeep (Host.IsToldBy holder) (fun held => held.id = holder) where
  idle := ignoresQuiet.idle
  holder past host isTold := by
    obtain ⟨held, isCurrent, -⟩ := isTold.current
    rw [ContextRequest.currentHolder_of_some isCurrent, List.append_nil]
    exact isTold
  fits past host held isTold answered := by
    obtain ⟨current, isCurrent, isHolder⟩ := isTold.current
    rw [ContextRequest.currentHolder_of_some isCurrent] at answered
    cases answered
    exact isHolder
  gate past host held gate isHolder isTold same := by
    subst isHolder
    exact isTold.putGate same
  registered past host held entry isHolder isTold := by
    subst isHolder
    have left :
        ((Host.directoryPart held.id).put
            ((host.gate held.id).directory.write entry) host).gate held.id =
          { host.gate held.id with directory := (host.gate held.id).directory.write entry } :=
      (Host.gatePart held.id).get_put _ host
    refine ⟨isTold.current, ?_⟩
    rw [left]
    exact isTold.tells.registered entry
  opened past host held name action isHolder isTold := by
    subst isHolder
    exact ⟨isTold.current, isTold.tells.opened name action⟩
  advanced past host name opened isTold found := by
    refine ⟨isTold.current, isTold.tells.advanced found ?_⟩
    rintro rfl
    rfl
  putResource past host held id value isHolder isTold :=
    ⟨⟨_, rfl, isHolder⟩, isTold.tells⟩

end Host.IsToldBy

end PlatformDouble
