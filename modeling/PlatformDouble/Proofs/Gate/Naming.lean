import PlatformDouble.Proofs.Gate.Soundness

namespace PlatformDouble

/-!
# Which component a connection hears of at the end

At the beginning a connection hears of the component of its session.  At the end it
hears of the component under which the service of the session was registered last.
That is another one if the service has been moved: registered under another
component, and not under that of the session again.
-/

variable {ρ : Type}

/-- Every end is told with the component of the session. -/
def NamesOwnComponents (trace : List (Entry ρ)) : Prop :=
  ∀ session named,
    .event (.disconnected session named) ∈ trace → named = some session.component

/--
The service of a session was registered under another component than that of the
session, and not under that one again.
-/
def Session.WasMoved (session : Session) (history : List Registration) : Prop :=
  ∃ earlier other later,
    history = earlier ++ other :: later ∧
      other.service = some session.service ∧
      other.component ≠ some session.component ∧
      ∀ entry ∈ later,
        entry.service = some session.service →
          entry.component ≠ some session.component

/-- Every end is told with what the registrations up to it say of the service. -/
structure NamesLatestComponents (trace : List (Entry ρ)) : Prop where
  /-- The component is that of the last registration with the service. -/
  latest :
    ∀ past session named future,
      trace = past ++ .event (.disconnected session named) :: future →
        ∃ last,
          Registration.lastWith (Registration.ofTrace past) (some session.service) =
              some last ∧
            last.component = named
  /-- It is that of the session unless the service was moved. -/
  own_iff :
    ∀ past session named future,
      trace = past ++ .event (.disconnected session named) :: future →
        (named = some session.component ↔
          ¬ session.WasMoved (Registration.ofTrace past))

namespace Registration

/-- The last registration with a service is not before any other with that service. -/
theorem eq_or_mem_of_lastWith
    {earlier later : List Registration}
    {entry last : Registration}
    (isLast : lastWith (earlier ++ entry :: later) entry.service = some last) :
    last = entry ∨ last ∈ later := by
  unfold lastWith at isLast
  rw [List.filter_append, List.filter_cons_of_pos (by simp), List.getLast?_append,
    List.getLast?_cons, Option.some_or] at isLast
  cases laterLast :
      (later.filter fun other => other.service == entry.service).getLast? with
  | none =>
      rw [laterLast] at isLast
      exact .inl (Option.some.inj isLast).symm
  | some other =>
      rw [laterLast] at isLast
      have isOther : other = last :=
        Option.some.inj isLast
      have member := List.mem_of_getLast? laterLast
      rw [isOther] at member
      exact .inr (List.mem_filter.mp member).1

/-- Behind the last registration with a service there is none with that service. -/
theorem exists_append_of_lastWith
    {history : List Registration}
    {service : Option ServiceId}
    {last : Registration}
    (isLast : lastWith history service = some last) :
    ∃ earlier later,
      history = earlier ++ last :: later ∧
        ∀ entry ∈ later, entry.service ≠ service := by
  obtain ⟨others, endsWithLast⟩ := List.getLast?_eq_some_iff.mp isLast
  obtain ⟨first, second, split, -, onlyLast⟩ := List.filter_eq_append_iff.mp endsWithLast
  obtain ⟨between, later, secondSplit, -, -, noneLater⟩ :=
    List.filter_eq_cons_iff.mp onlyLast
  refine ⟨first ++ between, later, ?_, ?_⟩
  · rw [split, secondSplit, List.append_assoc]
  · intro entry member
    simpa using List.filter_eq_nil_iff.mp noneLater entry member

end Registration

/-- A service was moved exactly if its last registration is under another component. -/
theorem Session.wasMoved_iff
    {session : Session}
    {history : List Registration}
    {last : Registration}
    (isLast : Registration.lastWith history (some session.service) = some last) :
    session.WasMoved history ↔ last.component ≠ some session.component := by
  constructor
  · rintro ⟨earlier, other, later, split, withService, isOther, notBack⟩
    rw [split, ← withService] at isLast
    -- The last one is the other registration itself, or behind it, where none goes back.
    rcases Registration.eq_or_mem_of_lastWith isLast with isSame | isLater
    · rw [isSame]
      exact isOther
    · have lastService := (Registration.of_lastWith isLast).2
      exact notBack last isLater (lastService.trans withService)
  · intro isOther
    obtain ⟨earlier, later, split, noneLater⟩ :=
      Registration.exists_append_of_lastWith isLast
    refine ⟨earlier, last, later, split, (Registration.of_lastWith isLast).2, isOther, ?_⟩
    intro entry member withService
    exact absurd withService (noneLater entry member)

/-- Along a path from an empty gate, every end is told with the latest component. -/
theorem Path.exists_lastWith_of_disconnected
    {manners : Manners}
    {pending : List PendingBind}
    {after : Moment}
    {past future : List (Entry ρ)}
    {session : Session}
    {named : Option ComponentName}
    (path :
      Path manners ⟨Gate.empty, pending, none⟩
        (past ++ .event (.disconnected session named) :: future) after) :
    ∃ last,
      Registration.lastWith (Registration.ofTrace past) (some session.service) =
          some last ∧
        last.component = named := by
  obtain ⟨reached, left, leading, step, -⟩ := path.of_append_cons
  have sound : reached.IsSoundAfter past :=
    leading.keepsFromStart .step (.empty pending)
  cases step with
  | apart isApart =>
      simp [Entry.isApart] at isApart
  | @disconnected gate pending session =>
      -- The session being told of its end goes back to a registration of its service.
      obtain ⟨last, isLast⟩ := (sound.leavingGoesBack session rfl).exists_lastWith
      refine ⟨last, isLast, ?_⟩
      have directory :
          gate.directory = Directory.ofHistory (Registration.ofTrace past) :=
        sound.directory
      rw [directory, Directory.owner?_ofHistory, isLast]
      rfl

/-- Along a path from an empty gate, ends are told as the registrations say. -/
theorem Path.namesLatest
    {manners : Manners}
    {pending : List PendingBind}
    {after : Moment}
    {trace : List (Entry ρ)}
    (path : Path manners ⟨Gate.empty, pending, none⟩ trace after) :
    NamesLatestComponents trace where
  latest := by
    intro past session named future shape
    subst shape
    exact path.exists_lastWith_of_disconnected
  own_iff := by
    intro past session named future shape
    subst shape
    obtain ⟨last, isLast, isNamed⟩ := path.exists_lastWith_of_disconnected
    rw [Session.wasMoved_iff isLast, isNamed, not_not]

namespace Client

/--
Whatever clients do to a gate, at any depth and however it ends, a connection hears
at the end of the component under which the service of its session was registered
last.  That is the component of the session unless the service was moved.
-/
theorem namesLatestComponents
    {σ α : Type}
    {gate : GatePlace σ}
    {manners : Manners}
    {code : Traced (Entry ρ) σ α}
    (client : Client gate manners code)
    {state : σ}
    (relied : gate.relied state)
    (starts : gate.get state = Gate.empty) :
    NamesLatestComponents (code state).trace :=
  (client.path relied starts).namesLatest

/-- Bind a connection to a service, and unbind it when the service has been moved. -/
def bareMove : Traced (Entry Unit) Gate Unit :=
  Traced.andThen (register ⟨"p", "C"⟩) fun _ =>
    Traced.andThen (Binding.bind gate idle ⟨"c"⟩ (some ⟨"p", "C"⟩)) fun _ =>
      Traced.andThen (register ⟨"p", "D"⟩) fun _ =>
        Binding.unbind gate idle ⟨"c"⟩
where
  gate : StatePart Gate Gate :=
    GatePlace.bare.toStatePart
  register (component : ComponentName) : Traced (Entry Unit) Gate Unit :=
    Traced.within gate
      (Traced.within Gate.directoryPart
        (Directory.register (.text "A") (some component) (some ⟨"s"⟩)
          (some ⟨none, component.packageName, component.className⟩)))

theorem bareMove_isClient
    (manners : Manners) :
    Client GatePlace.bare manners bareMove := by
  refine .andThen (.register _ _ _ _) fun _ _ _ _ => ?_
  refine .andThen (bind_idle ⟨"c"⟩ (some ⟨"p", "C"⟩)) fun _ _ _ _ => ?_
  refine .andThen (.register _ _ _ _) fun _ _ _ _ => ?_
  exact .unbind idle ⟨"c"⟩ fun _ _ => done ()

/-- A connection whose service is moved hears at the end of the component it was moved to. -/
theorem namesLatestComponents_bareMove :
    let trace := (bareMove Gate.empty).trace
    trace.getLast? =
        some (.event (.disconnected ⟨0, ⟨"c"⟩, ⟨"p", "C"⟩, ⟨"s"⟩⟩ (some ⟨"p", "D"⟩))) ∧
      NamesLatestComponents trace := by
  intro trace
  have relied : GatePlace.bare.relied Gate.empty := trivial
  have starts : GatePlace.bare.get Gate.empty = Gate.empty := rfl
  exact ⟨rfl, namesLatestComponents (bareMove_isClient .free) relied starts⟩

/-- What it hears of at the end is then not what it heard of at the beginning. -/
theorem not_namesOwnComponents_bareMove :
    let trace := (bareMove Gate.empty).trace
    Delivery.ofTrace trace =
        [.connected ⟨"c"⟩ ⟨"p", "C"⟩ none, .disconnected ⟨"c"⟩ (some ⟨"p", "D"⟩)] ∧
      ¬ NamesOwnComponents trace := by
  intro trace
  refine ⟨by decide, fun own => ?_⟩
  have isEnd :
      trace.getLast? =
        some (.event (.disconnected ⟨0, ⟨"c"⟩, ⟨"p", "C"⟩, ⟨"s"⟩⟩ (some ⟨"p", "D"⟩))) :=
    rfl
  have told : some (⟨"p", "D"⟩ : ComponentName) = some ⟨"p", "C"⟩ :=
    own _ _ (List.mem_of_getLast? isEnd)
  revert told
  decide

end Client

end PlatformDouble
