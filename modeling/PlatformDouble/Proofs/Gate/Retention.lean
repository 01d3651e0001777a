import PlatformDouble.Proofs.Gate.Client
import PlatformDouble.Proofs.Gate.Lineage

namespace PlatformDouble

/-!
# Which sessions are kept

A session whose bind has succeeded should leave the table only when an unbind
closes it.  There is exactly one way for it to leave otherwise: while the bind of
an earlier session is still telling its connection, that session is closed, a new
one is bound in its place and succeeds, and then the earlier bind fails and takes
back what its connection has.
-/

variable {ρ : Type}

/-- A session whose bind succeeds leaves the gate only when it is closed. -/
def KeepsEstablished (trace : List (Entry ρ)) : Prop :=
  ∀ session,
    .gate (.established session) ∈ trace →
      ∀ past entry future,
        trace = past ++ entry :: future →
          (Gate.empty.replay past).sessions.get? session.connection = some session →
            (Gate.empty.replay (past ++ [entry])).sessions.get? session.connection =
                some session ∨
              entry = .gate (.closed session)

/-- A bind failed after its session had been closed and another had been bound in its place. -/
def LosesEstablished (trace : List (Entry ρ)) : Prop :=
  ∃ failed session : Session,
    failed.connection = session.connection ∧
      [.opened failed, .closed failed, .opened session, .established session,
        .withdrawn failed (some session)].Sublist (GateChange.ofTrace trace)

/-- What is withdrawn is what the gate has of the connection of the failed bind. -/
theorem Step.of_withdrawn
    {manners : Manners}
    {before after : Moment}
    {failed : Session}
    {removed : Option Session}
    (step : Step manners before (.gate (.withdrawn failed removed) : Entry ρ) after) :
    removed = before.gate.sessions.get? failed.connection ∧
      after.gate = before.gate.dropSession failed.connection ∧
      before.binding = failed :: after.binding := by
  cases step with
  | apart isApart =>
      simp [Entry.isApart] at isApart
  | withdrawn inner =>
      exact ⟨rfl, rfl, rfl⟩

/-- The bind of a session that another bind takes back has returned. -/
theorem Moment.IsAccountedFor.not_binding_of_withdrawn
    {manners : Manners}
    {past : List (Entry ρ)}
    {reached left : Moment}
    (accounted : reached.IsAccountedFor past)
    {failed session : Session}
    (step :
      Step manners reached
        (.gate (.withdrawn failed (some session)) : Entry ρ) left) :
    session.serial < left.gate.opened ∧ session ∉ left.binding := by
  obtain ⟨isHeld, leftGate, isInner⟩ := step.of_withdrawn
  have held := isHeld.symm
  constructor
  · rw [leftGate]
    have wasOpened := accounted.numbered.heldOpened _ session held
    exact accounted.numbered.numbered _ wasOpened session rfl
  · intro isOuter
    have nested := accounted.nested.nested
    rw [isInner] at nested
    have sameConnection : failed.connection = session.connection :=
      (accounted.numbered.keyed _ session held).symm
    have wasClosed : session.WasClosed (GateChange.ofTrace past) :=
      List.rel_of_pairwise_cons nested isOuter sameConnection
    have closed : .closed session ∈ GateChange.ofTrace past :=
      wasClosed.subset (by simp)
    exact accounted.numbered.heldNotClosed _ session held closed

/--
A failing bind takes an established session back only if that was bound in place
of its own while it was running.
-/
theorem Path.loses_of_withdrawn
    {manners : Manners}
    {trace : List (Entry ρ)}
    {after : Moment}
    (path : Path manners ⟨Gate.empty, [], none⟩ trace after)
    {failed session : Session}
    (established : .gate (.established session) ∈ trace)
    (withdrawn : .gate (.withdrawn failed (some session)) ∈ trace) :
    LosesEstablished trace := by
  obtain ⟨past, future, shape⟩ := List.append_of_mem withdrawn
  subst shape
  obtain ⟨reached, left, leading, step, trailing⟩ := path.of_append_cons
  have accounted : reached.IsAccountedFor past :=
    leading.keepsFromStart .step .empty
  obtain ⟨isHeld, -, isInner⟩ := step.of_withdrawn
  have failedBinding : failed ∈ reached.binding := by
    rw [isInner]
    exact List.mem_cons_self
  -- The bind of the session has returned, so if it was to succeed, it has.
  obtain ⟨wasOpened, notBinding⟩ := accounted.not_binding_of_withdrawn step
  have notLater := trailing.not_established wasOpened notBinding
  have earlier : .established session ∈ GateChange.ofTrace past := by
    apply GateChange.mem_ofTrace_iff.mpr
    rcases List.mem_append.mp established with earlier | later
    · exact earlier
    · rcases List.mem_cons.mp later with isNow | isLater
      · cases isNow
      · exact absurd isLater notLater
  have different : session ≠ failed := by
    intro same
    rw [same] at earlier
    exact accounted.numbered.bindingNotEstablished failed failedBinding earlier
  have held := isHeld.symm
  have gaveWay : failed.GaveWayTo session (GateChange.ofTrace past) :=
    (accounted.nested.replaced failed failedBinding session held different).2 earlier
  refine ⟨failed, session, (accounted.numbered.keyed _ session held).symm, ?_⟩
  have withdrawnAfter :
      [GateChange.withdrawn failed (some session)].Sublist
        (GateChange.ofTrace
          (.gate (.withdrawn failed (some session)) :: future : List (Entry ρ))) :=
    List.singleton_sublist.mpr (GateChange.mem_ofTrace_iff.mpr List.mem_cons_self)
  rw [GateChange.ofTrace_append]
  exact List.Sublist.append gaveWay withdrawnAfter

/-- A session that leaves the gate without being closed was taken back. -/
theorem Step.withdrawn_of_lost
    {manners : Manners}
    {before after : Moment}
    {entry : Entry ρ}
    (step : Step manners before entry after)
    {connection : ConnectionId}
    {session : Session}
    (held : before.gate.sessions.get? connection = some session)
    (lost : after.gate.sessions.get? connection ≠ some session)
    (notClosed : entry ≠ .gate (.closed session)) :
    ∃ failed, entry = .gate (.withdrawn failed (some session)) := by
  rcases step.held_after held with stays | removes
  · exact absurd stays lost
  · unfold Entry.Removes at removes
    split at removes
    · rename_i closed
      exact absurd (congrArg (fun other => Entry.gate (.closed other)) removes) notClosed
    · rename_i failed removed
      exact ⟨failed, by rw [removes]⟩
    · exact removes.elim

/-- Along a path from an empty gate, established sessions are lost in one way only. -/
theorem Path.keeps_iff
    {manners : Manners}
    {trace : List (Entry ρ)}
    {after : Moment}
    (path : Path manners ⟨Gate.empty, [], none⟩ trace after) :
    KeepsEstablished trace ↔ ¬ LosesEstablished trace := by
  constructor
  · rintro keeps ⟨failed, session, sameConnection, story⟩
    have established : .gate (.established session) ∈ trace :=
      GateChange.mem_ofTrace_iff.mp (story.subset (by simp))
    have withdrawn : .gate (.withdrawn failed (some session)) ∈ trace :=
      GateChange.mem_ofTrace_iff.mp (story.subset (by simp))
    obtain ⟨past, future, shape⟩ := List.append_of_mem withdrawn
    have pathParts := path
    rw [shape] at pathParts
    obtain ⟨reached, left, leading, step, -⟩ := pathParts.of_append_cons
    obtain ⟨isHeld, leftGate, -⟩ := step.of_withdrawn
    have reachedReplayed : reached.gate = Gate.empty.replay past := leading.replays
    have leftReplayed :
        left.gate =
          Gate.empty.replay (past ++ [.gate (.withdrawn failed (some session))]) :=
      (leading.append step.path).replays
    have kept := keeps session established past _ future shape
    rw [← reachedReplayed, ← leftReplayed, leftGate, ← sameConnection] at kept
    rcases kept isHeld.symm with stays | isClosing
    · rw [Gate.get?_dropSession, if_pos rfl] at stays
      cases stays
    · cases isClosing
  · intro notLost session established past entry future shape held
    refine Classical.byContradiction fun lost => ?_
    obtain ⟨gone, notClosed⟩ := not_or.mp lost
    have pathParts := path
    rw [shape] at pathParts
    obtain ⟨reached, left, leading, step, -⟩ := pathParts.of_append_cons
    have reachedReplayed : reached.gate = Gate.empty.replay past := leading.replays
    have leftReplayed : left.gate = Gate.empty.replay (past ++ [entry]) :=
      (leading.append step.path).replays
    rw [← reachedReplayed] at held
    rw [← leftReplayed] at gone
    obtain ⟨failed, isWithdrawn⟩ := step.withdrawn_of_lost held gone notClosed
    have withdrawn : .gate (.withdrawn failed (some session)) ∈ trace := by
      rw [shape, isWithdrawn]
      simp
    exact notLost (path.loses_of_withdrawn established withdrawn)

/--
Whatever clients do to a gate, at any depth and however it ends, every session
whose bind succeeded stays until it is closed, unless a bind fails after its own
session was closed and that one was bound in its place; then it is lost.
-/
theorem Client.keepsEstablished_iff
    {σ α : Type}
    {gate : GatePlace σ}
    {manners : Manners}
    {code : Traced (Entry ρ) σ α}
    (client : Client gate manners code)
    {state : σ}
    (relied : gate.relied state)
    (starts : gate.get state = Gate.empty) :
    KeepsEstablished (code state).trace ↔ ¬ LosesEstablished (code state).trace :=
  (client.path relied starts).keeps_iff

/-- A relapse that is interrupted keeps the session that was bound in between. -/
theorem Client.keepsEstablished_bareRelapse :
    KeepsEstablished
      (Client.bareRelapse .interrupt Gate.empty).trace := by
  have isClient := Client.bareRelapse_isClient .free .interrupt
  have relied : GatePlace.bare.relied Gate.empty := trivial
  have starts : GatePlace.bare.get Gate.empty = Gate.empty := rfl
  apply (Client.keepsEstablished_iff isClient relied starts).mpr
  rintro ⟨failed, session, -, story⟩
  have withdrawn :
      .withdrawn failed (some session) ∈
        GateChange.ofTrace
          (Client.bareRelapse .interrupt Gate.empty).trace :=
    story.subset (by simp)
  let first : Session := ⟨0, ⟨"c"⟩, ⟨"p", "C"⟩, ⟨"s"⟩⟩
  let second : Session := ⟨1, ⟨"c"⟩, ⟨"p", "C"⟩, ⟨"s"⟩⟩
  have changes :
      GateChange.ofTrace
          (Client.bareRelapse .interrupt Gate.empty).trace =
        [.registered ⟨.absent, some ⟨"p", "C"⟩, some ⟨"s"⟩, none⟩,
          .opened first, .closed first, .opened second, .established second,
          .abandoned first] :=
    rfl
  rw [changes] at withdrawn
  simp at withdrawn

/-- A relapse that fails loses the session that was bound in between. -/
theorem Client.not_keepsEstablished_bareRelapse :
    ¬ KeepsEstablished (Client.bareRelapse .runtime Gate.empty).trace := by
  have isClient := Client.bareRelapse_isClient .free .runtime
  have relied : GatePlace.bare.relied Gate.empty := trivial
  have starts : GatePlace.bare.get Gate.empty = Gate.empty := rfl
  have path := isClient.path relied starts
  let first : Session := ⟨0, ⟨"c"⟩, ⟨"p", "C"⟩, ⟨"s"⟩⟩
  let second : Session := ⟨1, ⟨"c"⟩, ⟨"p", "C"⟩, ⟨"s"⟩⟩
  have changes :
      GateChange.ofTrace (Client.bareRelapse .runtime Gate.empty).trace =
        [.registered ⟨.absent, some ⟨"p", "C"⟩, some ⟨"s"⟩, none⟩,
          .opened first, .closed first, .opened second, .established second,
          .withdrawn first (some second)] :=
    rfl
  have loses :
      LosesEstablished (Client.bareRelapse .runtime Gate.empty).trace := by
    refine ⟨first, second, rfl, ?_⟩
    rw [changes]
    exact List.sublist_cons_self _ _
  intro keeps
  exact path.keeps_iff.mp keeps loses

end PlatformDouble
