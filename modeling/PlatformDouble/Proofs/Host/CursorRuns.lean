import PlatformDouble.Proofs.Host.CursorWork
import PlatformDouble.Proofs.Host.RunUpkeep

namespace PlatformDouble

/-!
# Cursors in runs

Callbacks perform requests of their own, so a cursor may be advanced and services may be
registered in the midst of a bind.  What a trace tells is kept by all of this too, so it
holds at every advance of every cursor, in every run that makes no new holder.
-/

open Context (HolderId)

namespace Stage

variable [Record.Validator] {holder : HolderId}

/-- What a trace tells is upheld by all requests that make no new holder. -/
theorem upkeep_isToldBy :
    Upkeep (Host.IsToldBy holder) (fun held => held.id = holder) (fun _ => True)
      Request.keepsHolder Act.keepsHolder where
  host := Host.IsToldBy.upkeep
  makes settings injections keeps := by
    cases keeps
  config request _ past host isTold :=
    Host.IsToldBy.ignoresQuiet.log.append _ ⟨isTold.current, isTold.tells⟩
  levels _ _ _ := Host.IsToldBy.ignoresQuiet.log
  performs _ keeps := keeps
  attempts _ keeps := keeps
  told past host event _ isTold :=
    Host.IsToldBy.ignoresQuiet past host (.event event) rfl isTold
  answers _ _ _ _ _ _ _ _ := trivial

/--
A trace tells how cursors are read that it opens: whenever one was advanced in its course,
and if it is advanced at its end.
-/
structure ReadsLazily (holder : HolderId) (trace : List (Entry Response)) (reached : Stage) :
    Prop where
  /-- What was answered depends on the place of the cursor and on the registrations before. -/
  inOrder : AnswersInOrder trace
  /-- No component came without a descriptor, as long as each was registered with one. -/
  described :
    ∀ earlier later name info place,
      trace = earlier ++ .cursor (.advanced name (.ok (some info))) :: later →
        Place.after name earlier = some place →
          (∀ entry ∈ Registration.ofTrace earlier, entry.descriptor ≠ none) →
            info.serviceInfo ≠ none
  /-- Nothing but the registrations has a bearing on the directory. -/
  directory :
    (reached.host.gate holder).directory = Directory.ofHistory (Registration.ofTrace trace)
  /-- One more advance is answered in the same way, and changes no other cursor. -/
  advance :
    ∀ name place,
      Place.after name trace = some place →
        ∃ answer left,
          place.Answers (Registration.ofTrace trace) answer ∧
            perform (.context (.advanceCursor name)) reached =
              { trace := [.cursor (.advanced name answer)]
                state := {
                  reached with
                  host := {
                    reached.host with
                    cursors := reached.host.cursors.insert name left } }
                result := answer.map fun next => .known (.next next) }

/-- An open cursor that is advanced answers, and nothing changes but how far it has come. -/
theorem perform_advanceCursor
    {stage : Stage}
    {name : String}
    {opened : OpenCursor}
    (found : stage.host.cursors.get? name = some opened) :
    let advanced := opened.cursor.advance (stage.host.gate opened.holder).directory
    perform (.context (.advanceCursor name)) stage =
      { trace := [.cursor (.advanced name advanced.1)]
        state := {
          stage with
          host := {
            stage.host with
            cursors :=
              stage.host.cursors.insert name { opened with cursor := advanced.2 } } }
        result := advanced.1.map fun next => .known (.next next) } := by
  intro advanced
  have answered :
      ContextRequest.answer (.advanceCursor name) stage.host = _ :=
    ContextRequest.advance_of_opened found
  rw [perform_context, answered]
  cases advanced.1 <;> rfl

/--
In every run that makes no new holder and registers named components, cursors are read
lazily: the components are those listed at the first advance, and each comes with the
descriptor of its latest registration.
-/
theorem performAll_readsLazily
    {requests : List Request}
    (keepHolder : ∀ request ∈ requests, request.keepsHolder = true)
    {stage : Stage}
    (current : ∃ held, stage.host.current = some held ∧ held.id = holder)
    (scripts : stage.cast.Allows Act.keepsHolder)
    (starts : stage.host.gate holder = Gate.empty)
    (named :
      ∀ written,
        .gate (.registered written) ∈ (performAll requests stage).trace →
          written.component ≠ none) :
    ReadsLazily holder (performAll requests stage).trace (performAll requests stage).state := by
  have isTold :
      (performAll requests stage).state.host.IsToldBy holder
        (performAll requests stage).trace := by
    refine (upkeep_isToldBy.performAll keepHolder [] stage ⟨⟨current, ?_⟩, scripts⟩).host
    rw [starts]
    exact TellsReading.start holder stage.host.cursors
  have tells := isTold.tells
  have namesComponents : NamesComponents (performAll requests stage).trace :=
    fun entry member => named entry (Registration.mem_ofTrace_iff.mp member)
  have inOrder := tells.inOrder namesComponents
  exact {
    inOrder := inOrder
    described := by
      intro earlier later name info place split stands described
      exact (inOrder earlier later name _ place split stands).described described
    directory := tells.directory
    advance := by
      intro name place stands
      obtain ⟨cursor, found, answers, -⟩ := tells.advance namesComponents stands
      exact ⟨_, _, answers, perform_advanceCursor found⟩ }

end Stage

namespace Stage

/-- To register a class of one package under one action. -/
def registering (className permission : String) : Request :=
  .context (.register {
    action := .text "A"
    component := some (.text "p", .text className)
    service := some ⟨"s"⟩
    permission := .text permission })

/-- A holder that was just made, and a connection that registers and reads when it is bound. -/
def readingWhenBound : Stage where
  host := (Host.makeHolder {} {} (Host.initial (.initial [] Table.empty))).state
  cast := {
    connections := ⟨[(⟨"c"⟩, {
      onConnected := [[
        .perform (registering "Y" "late"),
        .perform (registering "Z" "late"),
        .attempt (.context (.advanceCursor "i"))]] })]⟩ }

theorem readingWhenBound_allows :
    readingWhenBound.cast.Allows Act.keepsHolder := by
  intro callback turn member
  cases callback with
  | binderOf service =>
      exact absurd member List.not_mem_nil
  | connected connection =>
      by_cases isBound : (⟨"c"⟩ : ConnectionId) = connection
      · subst isBound
        rw [List.mem_singleton.mp member]
        decide
      · simp [readingWhenBound, Cast.script, Cast.connection, Table.get?,
          Table.lookupEntry, isBound] at member
  | disconnected connection =>
      by_cases isBound : (⟨"c"⟩ : ConnectionId) = connection
      · subst isBound
        exact absurd member List.not_mem_nil
      · simp [readingWhenBound, Cast.script, Cast.connection, Table.get?,
          Table.lookupEntry, isBound] at member

/-- One component is seen although it is late, its later descriptor as well, another is not. -/
theorem performAll_readsLazily_readingWhenBound :
    let outcome :=
      performAll
        [registering "X" "early",
          .context (.openCursor "i" (.text "A")),
          registering "Y" "early",
          .context (.advanceCursor "i"),
          .bind ⟨"c"⟩ ⟨.null, some (.text "p", .text "X")⟩,
          .context (.advanceCursor "i")]
        readingWhenBound
    ReadsLazily ⟨0⟩ outcome.trace outcome.state ∧
      (Place.after "i" outcome.trace).map Place.times = some 3 := by
  intro outcome
  obtain ⟨isCurrent, isEmpty⟩ :=
    Host.makeHolder_isFresh {} {} (Host.initial (.initial [] Table.empty)) rfl
  have named :
      ∀ entry ∈ Registration.ofTrace outcome.trace, entry.component ≠ none := by
    decide +kernel
  refine ⟨?_, by decide +kernel⟩
  refine performAll_readsLazily ?_ ⟨_, isCurrent, rfl⟩ readingWhenBound_allows isEmpty ?_
  · decide
  · exact fun written member => named written (Registration.mem_ofTrace_iff.mpr member)

end Stage

end PlatformDouble
