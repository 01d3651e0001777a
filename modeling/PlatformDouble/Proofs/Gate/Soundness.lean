import PlatformDouble.Proofs.Gate.Client
import PlatformDouble.Proofs.Gate.History

namespace PlatformDouble

/-!
# Soundness of sessions and directory

At every point of every run, the sessions of a gate and its directory fit each
other: a session goes back to a registration of its component, and its service
still leads back to a component, whatever was registered in between.

The directory is a function of the registrations so far, so no more is carried
along a run than that each session goes back to one of them.

What a callback sees at some point of a run is what the trace up to there tells.
It is also the end of a run, that of the callback raising an interrupt there:
interrupts take nothing back.
-/

variable {ρ : Type}

namespace Registration

def ofChange? : GateChange → Option Registration
  | .registered entry => some entry
  | _ => none

/-- The registrations in a trace, in order. -/
def ofTrace (trace : List (Entry ρ)) : List Registration :=
  (GateChange.ofTrace trace).filterMap ofChange?

@[simp] theorem ofTrace_append
    (first second : List (Entry ρ)) :
    ofTrace (first ++ second) = ofTrace first ++ ofTrace second := by
  simp [ofTrace]

@[simp] theorem mem_ofTrace_iff
    {trace : List (Entry ρ)}
    {entry : Registration} :
    entry ∈ ofTrace trace ↔ .gate (.registered entry) ∈ trace := by
  unfold ofTrace
  rw [List.mem_filterMap]
  constructor
  · rintro ⟨change, member, registers⟩
    cases change with
    | registered other =>
        cases registers
        exact GateChange.mem_ofTrace_iff.mp member
    | _ =>
        cases registers
  · intro member
    exact ⟨_, GateChange.mem_ofTrace_iff.mpr member, rfl⟩

end Registration

/-- A directory goes on with the registrations of a trace. -/
theorem Gate.directory_replay
    (gate : Gate)
    (trace : List (Entry ρ)) :
    (gate.replay trace).directory =
      (Registration.ofTrace trace).foldl Directory.write gate.directory := by
  induction trace generalizing gate with
  | nil =>
      rfl
  | cons entry rest inductionHypothesis =>
      have followed :
          (gate.follow entry).directory =
            (Registration.ofTrace [entry]).foldl Directory.write gate.directory := by
        cases entry with
        | gate change =>
            cases change <;> rfl
        | _ =>
            rfl
      have restReplayed := inductionHypothesis (gate.follow entry)
      rw [followed, ← List.foldl_append, ← Registration.ofTrace_append] at restReplayed
      exact restReplayed

/-- A session was opened after its service was registered under its component. -/
def Session.GoesBackIn (session : Session) (past : List (Entry ρ)) : Prop :=
  ∃ entry : Registration,
    entry.component = some session.component ∧
      entry.service = some session.service ∧
      [.registered entry, .opened session].Sublist (GateChange.ofTrace past)

theorem Session.GoesBackIn.append
    {session : Session}
    {past : List (Entry ρ)}
    (goesBack : session.GoesBackIn past)
    (more : List (Entry ρ)) :
    session.GoesBackIn (past ++ more) := by
  obtain ⟨entry, ofComponent, withService, inOrder⟩ := goesBack
  refine ⟨entry, ofComponent, withService, ?_⟩
  rw [GateChange.ofTrace_append]
  exact List.sublist_append_of_sublist_left inOrder

/-- The service of a session that goes back to a registration has a last one. -/
theorem Session.GoesBackIn.exists_lastWith
    {session : Session}
    {past : List (Entry ρ)}
    (goesBack : session.GoesBackIn past) :
    ∃ last,
      Registration.lastWith (Registration.ofTrace past) (some session.service) =
        some last := by
  obtain ⟨written, -, withService, inOrder⟩ := goesBack
  have inPast : .gate (.registered written) ∈ past :=
    GateChange.mem_ofTrace_iff.mp (inOrder.subset List.mem_cons_self)
  rw [← withService]
  exact Registration.exists_lastWith (Registration.mem_ofTrace_iff.mpr inPast)

/-- What is carried along a run. -/
structure Moment.IsSoundAfter (past : List (Entry ρ)) (moment : Moment) : Prop where
  replayed : moment.gate = Gate.empty.replay past
  single : moment.gate.sessions.keys.Nodup
  keyed : moment.gate.IsKeyed
  goesBack :
    ∀ connection session,
      moment.gate.sessions.get? connection = some session → session.GoesBackIn past
  leavingGoesBack :
    ∀ session, moment.leaving = some session → session.GoesBackIn past

namespace Moment.IsSoundAfter

variable
  {manners : Manners}
  {past : List (Entry ρ)}
  {before after : Moment}
  {entry : Entry ρ}

theorem empty
    (pending : List PendingBind) :
    Moment.IsSoundAfter ([] : List (Entry ρ)) ⟨Gate.empty, pending, none⟩ where
  replayed := rfl
  single := List.nodup_nil
  keyed := nofun
  goesBack := nofun
  leavingGoesBack := nofun

theorem directory
    (sound : before.IsSoundAfter past) :
    before.gate.directory = Directory.ofHistory (Registration.ofTrace past) := by
  rw [sound.replayed]
  exact Gate.directory_replay Gate.empty past

theorem goesBack_of_opened
    (sound : before.IsSoundAfter past)
    {session : Session}
    (known :
      before.gate.directory.service? (some session.component) = some session.service) :
    session.GoesBackIn (past ++ [(.gate (.opened session) : Entry ρ)]) := by
  rw [sound.directory, Directory.service?_ofHistory] at known
  obtain ⟨written, isLast, withService⟩ := Option.bind_eq_some_iff.mp known
  obtain ⟨member, ofComponent⟩ := Registration.of_lastOf isLast
  have inPast : GateChange.registered written ∈ GateChange.ofTrace past :=
    GateChange.mem_ofTrace_iff.mpr (Registration.mem_ofTrace_iff.mp member)
  refine ⟨written, ofComponent, withService, ?_⟩
  rw [GateChange.ofTrace_append, GateChange.ofTrace_gate]
  exact (List.singleton_sublist.mpr inPast).append (List.Sublist.refl _)

/-- What is carried along a run is kept by every step. -/
theorem step
    (sound : before.IsSoundAfter past)
    (step : Step manners before entry after) :
    after.IsSoundAfter (past ++ [entry]) where
  replayed := by
    rw [step.follows, sound.replayed, Gate.replay_append, Gate.replay_singleton]
  single := by
    cases step with
    | opened permitted absent known next =>
        exact Table.keys_nodup_insert_of_absent _ sound.single absent
    | withdrawn inner =>
        exact Table.keys_nodup_erase _ sound.single
    | closed permitted found =>
        exact Table.keys_nodup_erase _ sound.single
    | _ =>
        exact sound.single
  keyed := step.keyed sound.keyed
  goesBack := by
    intro connection session held
    rcases step.held_before held with heldBefore | ⟨isOpening, -⟩
    · exact (sound.goesBack connection session heldBefore).append [entry]
    · subst isOpening
      cases step with
      | apart isApart =>
          simp [Entry.isApart] at isApart
      | opened permitted absent known next =>
          exact sound.goesBack_of_opened known
  leavingGoesBack := by
    intro session leaves
    cases step with
    | apart isApart =>
        exact (sound.leavingGoesBack session leaves).append _
    | closed permitted found =>
        cases leaves
        exact (sound.goesBack _ session found).append _
    | _ =>
        cases leaves

theorem owned
    (sound : before.IsSoundAfter past)
    (named :
      ∀ written, .gate (.registered written) ∈ past → written.component ≠ none)
    {session : Session}
    (goesBack : session.GoesBackIn past) :
    ∃ name,
      before.gate.directory.owner? (some session.service) = some name := by
  obtain ⟨last, isLast⟩ := goesBack.exists_lastWith
  have lastMember := (Registration.of_lastWith isLast).1
  have lastNamed := named last (Registration.mem_ofTrace_iff.mp lastMember)
  obtain ⟨name, isName⟩ := Option.ne_none_iff_exists'.mp lastNamed
  refine ⟨name, ?_⟩
  rw [sound.directory, Directory.owner?_ofHistory, isLast]
  exact isName

end Moment.IsSoundAfter

/-- How the sessions of a gate fit its directory, and both the past. -/
structure Gate.IsSoundAfter (past : List (Entry ρ)) (gate : Gate) : Prop where
  /-- No connection is there twice. -/
  single : gate.sessions.keys.Nodup
  /-- A session carries the connection it is kept under. -/
  keyed :
    ∀ connection session,
      gate.sessions.get? connection = some session → session.connection = connection
  /-- The service of a session was registered under its component before it was opened. -/
  goesBack :
    ∀ connection session,
      gate.sessions.get? connection = some session → session.GoesBackIn past
  /-- The service of a session leads back to a component. -/
  owned :
    ∀ connection session,
      gate.sessions.get? connection = some session →
        ∃ name, gate.directory.owner? (some session.service) = some name

/-- What holds at every point of a run and from each point to a later one. -/
structure IsSoundRun (trace : List (Entry ρ)) (final : Gate) : Prop where
  /-- The trace tells the gate. -/
  replayed : final = Gate.empty.replay trace
  sound :
    ∀ past future,
      trace = past ++ future → (Gate.empty.replay past).IsSoundAfter past
  /-- A session stays as it is until it is removed. -/
  unchanged :
    ∀ past between future,
      trace = past ++ between ++ future →
        ∀ connection session,
          (Gate.empty.replay past).sessions.get? connection = some session →
            (Gate.empty.replay (past ++ between)).sessions.get? connection =
                some session ∨
              ∃ entry ∈ between, entry.Removes session
  /-- No connection is told that a session without a component is over. -/
  named :
    ∀ session named,
      .event (.disconnected session named) ∈ trace → ∃ name, named = some name

/-- A session that a gate has along a path stays as it is until it is removed. -/
theorem Path.held_after
    {manners : Manners}
    {before after : Moment}
    {trace : List (Entry ρ)}
    (path : Path manners before trace after)
    {connection : ConnectionId}
    {session : Session}
    (held : before.gate.sessions.get? connection = some session) :
    after.gate.sessions.get? connection = some session ∨
      ∃ entry ∈ trace, entry.Removes session := by
  induction path with
  | nil moment =>
      exact .inl held
  | cons head tail inductionHypothesis =>
      rcases head.held_after held with stays | removes
      · rcases inductionHypothesis stays with staysLater | ⟨entry, member, removes⟩
        · exact .inl staysLater
        · exact .inr ⟨entry, List.mem_cons_of_mem _ member, removes⟩
      · exact .inr ⟨_, List.mem_cons_self, removes⟩

/-- A path from an empty gate is sound when every registration names its component. -/
theorem Path.isSoundRun
    {manners : Manners}
    {pending : List PendingBind}
    {after : Moment}
    {trace : List (Entry ρ)}
    (path : Path manners ⟨Gate.empty, pending, none⟩ trace after)
    (registrationsNamed :
      ∀ written, .gate (.registered written) ∈ trace → written.component ≠ none) :
    IsSoundRun trace after.gate where
  replayed := path.replays
  sound := by
    intro past future shape
    subst shape
    obtain ⟨reached, leading, -⟩ := path.of_append
    have sound : reached.IsSoundAfter past :=
      leading.keepsFromStart .step (.empty pending)
    have pastNamed :
        ∀ written, .gate (.registered written) ∈ past → written.component ≠ none := by
      intro written member
      exact registrationsNamed written (List.mem_append_left future member)
    rw [← sound.replayed]
    exact {
      single := sound.single
      keyed := sound.keyed
      goesBack := sound.goesBack
      owned := fun connection session held =>
        sound.owned pastNamed (sound.goesBack connection session held) }
  unchanged := by
    intro past between future shape connection session held
    subst shape
    obtain ⟨later, leading, -⟩ := path.of_append
    obtain ⟨reached, first, second⟩ := leading.of_append
    have firstReplayed : reached.gate = Gate.empty.replay past := first.replays
    have laterReplayed : later.gate = Gate.empty.replay (past ++ between) :=
      leading.replays
    rw [← firstReplayed] at held
    rw [← laterReplayed]
    exact second.held_after held
  named := by
    intro session named member
    obtain ⟨past, future, shape⟩ := List.append_of_mem member
    subst shape
    obtain ⟨reached, left, leading, step, -⟩ := path.of_append_cons
    have sound : reached.IsSoundAfter past :=
      leading.keepsFromStart .step (.empty pending)
    have pastNamed :
        ∀ written, .gate (.registered written) ∈ past → written.component ≠ none := by
      intro written member
      exact registrationsNamed written (List.mem_append_left _ member)
    cases step with
    | apart isApart =>
        simp [Entry.isApart] at isApart
    | disconnected =>
        exact sound.owned pastNamed (sound.leavingGoesBack session rfl)

/--
Whatever clients do to a gate, at any depth and however it ends, its sessions and
its directory fit each other at every point, as long as every registration names
its component.
-/
theorem Client.run_isSound
    {σ α : Type}
    {gate : GatePlace σ}
    {manners : Manners}
    {code : Traced (Entry ρ) σ α}
    (client : Client gate manners code)
    {state : σ}
    (relied : gate.relied state)
    (starts : gate.get state = Gate.empty)
    (registrationsNamed :
      ∀ written,
        .gate (.registered written) ∈ (code state).trace → written.component ≠ none) :
    IsSoundRun (code state).trace (gate.get (code state).state) :=
  (client.path relied starts).isSoundRun registrationsNamed

theorem Client.bareRelapse_isSound :
    let run := Client.bareRelapse .interrupt Gate.empty
    (∀ written,
        .gate (.registered written) ∈ run.trace → written.component ≠ none) ∧
      IsSoundRun run.trace run.state := by
  intro run
  have isClient := Client.bareRelapse_isClient .free .interrupt
  have relied : GatePlace.bare.relied Gate.empty := trivial
  have starts : GatePlace.bare.get Gate.empty = Gate.empty := rfl
  have allNamed :
      ∀ entry ∈ Registration.ofTrace run.trace, entry.component ≠ none := by
    decide
  have registrationsNamed :
      ∀ written,
        .gate (.registered written) ∈ run.trace → written.component ≠ none := by
    intro written member
    exact allNamed written (Registration.mem_ofTrace_iff.mpr member)
  exact ⟨registrationsNamed, Client.run_isSound isClient relied starts registrationsNamed⟩

end PlatformDouble
