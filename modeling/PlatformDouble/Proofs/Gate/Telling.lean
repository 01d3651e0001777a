import PlatformDouble.Proofs.Gate.Lineage
import PlatformDouble.Proofs.Gate.Rollback

namespace PlatformDouble

/-!
# What connections are told of

A bind opens its session, asks the service for a binder and tells the connection.  It
does not look at the session again before it tells.  So the connection is told of a
session that stands, unless an unbind closed it while the service was being asked.
-/

variable {ρ σ : Type}

/-- A run from an empty gate accounts for all its sessions. -/
theorem Path.isAccountedFor
    {manners : Manners}
    {trace : List (Entry ρ)}
    {after : Moment}
    (path : Path manners ⟨Gate.empty, [], none⟩ trace after) :
    after.IsAccountedFor trace :=
  path.keepsFromStart .step .empty

/-- The session of a running bind stands until it is closed. -/
theorem Moment.IsAccountedFor.held_iff
    {past : List (Entry ρ)}
    {moment : Moment}
    (accounted : moment.IsAccountedFor past)
    {session : Session}
    (member : session ∈ moment.binding) :
    moment.gate.sessions.get? session.connection = some session ↔
      .gate (.closed session) ∉ past := by
  rw [← GateChange.mem_ofTrace_iff]
  constructor
  · exact accounted.numbered.heldNotClosed session.connection session
  · intro notClosed
    rcases accounted.nested.heldOrClosed session member with held | wasClosed
    · exact held
    · exact absurd (wasClosed.subset (by simp)) notClosed

namespace Binding

/-- A bind that opens a session and, with the binder it is handed, tells its connection. -/
structure Tells
    (gate : StatePart σ Gate)
    (callbacks : Callbacks ρ σ)
    (connection : ConnectionId)
    (component : Option ComponentName)
    (state : σ)
    (session : Session)
    (handle : Option Handle)
    (asking : List (Entry ρ))
    (told : σ) :
    Prop where
  opens :
    (gate.get state).openSession connection component =
      .ok (session, (gate.get state).addSession session)
  listens : callbacks.listens connection = true
  /-- The binder is the one of the service of the session. -/
  answers :
    callbacks.binderOf session.service
        (gate.put ((gate.get state).addSession session) state) =
      { trace := asking, state := told, result := .ok handle }

/-- When a connection is told by a bind, it has the session that the bind opened. -/
def TellsLive
    (gate : StatePart σ Gate)
    (callbacks : Callbacks ρ σ)
    (connection : ConnectionId)
    (component : Option ComponentName)
    (state : σ) :
    Prop :=
  ∀ session handle asking told,
    Tells gate callbacks connection component state session handle asking told →
      (gate.get told).sessions.get? connection = some session

/-- A connection is told by a bind whose session was closed while its service was asked. -/
def TellsClosed
    (gate : StatePart σ Gate)
    (callbacks : Callbacks ρ σ)
    (connection : ConnectionId)
    (component : Option ComponentName)
    (state : σ) :
    Prop :=
  ∃ session handle asking told,
    Tells gate callbacks connection component state session handle asking told ∧
      .gate (.closed session) ∈ asking

namespace Tells

variable
  {gate : GatePlace σ}
  {callbacks : Callbacks ρ σ}
  {connection : ConnectionId}
  {component : Option ComponentName}
  {state told : σ}
  {session : Session}
  {handle : Option Handle}
  {asking : List (Entry ρ)}

theorem held_iff
    {past : List (Entry ρ)}
    {pending : List PendingBind}
    (run : Path .free ⟨Gate.empty, [], none⟩ past ⟨gate.get state, pending, none⟩)
    (relied : gate.relied state)
    (asks : ∀ service, Client gate .free (callbacks.binderOf service))
    (tells :
      Tells gate.toStatePart callbacks connection component state session handle asking told) :
    (gate.get told).sessions.get? connection = some session ↔
      .gate (.closed session) ∉ asking := by
  obtain ⟨next, carried, absent, known, -⟩ := Gate.of_openSession tells.opens
  subst carried
  have anything : Manners.Permits .free (.asking session :: pending) :=
    nofun
  have opening :
      Step .free
        ⟨gate.get state, pending, none⟩
        (.gate (.opened session) : Entry ρ)
        ⟨(gate.get state).addSession session, .asking session :: pending, none⟩ :=
    .opened nofun absent known next
  have keyed : (gate.get state).IsKeyed :=
    run.keyed nofun
  have asked :=
    (asks session.service).obeys
      (gate.put ((gate.get state).addSession session) state)
      (.asking session :: pending)
      (gate.relied_put _ state relied)
      anything
  rw [gate.get_put, tells.answers] at asked
  have askedPath := (asked (keyed.addSession session)).2
  have accounted := (run.append (.cons opening askedPath)).isAccountedFor
  -- A session that is only just opened was not closed earlier in the run.
  have notEarlier : .gate (.closed session) ∉ past := by
    rw [← GateChange.mem_ofTrace_iff]
    exact run.isAccountedFor.numbered.isNew next rfl
  refine (accounted.held_iff List.mem_cons_self).trans ?_
  simp [PendingBind.session, notEarlier]

end Tells

/--
At any point of any run, a bind tells its connection of a session that stands, whatever
services and connections do, unless the session is closed while its service is asked.
-/
theorem tellsLive_iff
    {gate : GatePlace σ}
    {callbacks : Callbacks ρ σ}
    {state : σ}
    {past : List (Entry ρ)}
    {pending : List PendingBind}
    (run : Path .free ⟨Gate.empty, [], none⟩ past ⟨gate.get state, pending, none⟩)
    (relied : gate.relied state)
    (asks : ∀ service, Client gate .free (callbacks.binderOf service))
    (connection : ConnectionId)
    (component : Option ComponentName) :
    TellsLive gate.toStatePart callbacks connection component state ↔
      ¬ TellsClosed gate.toStatePart callbacks connection component state := by
  constructor
  · rintro live ⟨session, handle, asking, told, tells, closed⟩
    exact (tells.held_iff run relied asks).mp
      (live session handle asking told tells) closed
  · intro notClosed session handle asking told tells
    refine (tells.held_iff run relied asks).mpr fun closed => ?_
    exact notClosed ⟨session, handle, asking, told, tells, closed⟩

/-- Callbacks of services that do something of their own before they hand out a binder. -/
def Callbacks.comingBack {α : Type} (first : Traced (Entry ρ) σ α) : Callbacks ρ σ where
  listens _ := true
  binderOf service := Traced.andThen first fun _ => Traced.done (some (.binder service))
  connected _ _ _ := Traced.done ()
  disconnected _ _ := Traced.done ()

theorem Callbacks.comingBack_isClient
    {α : Type}
    {gate : GatePlace σ}
    {manners : Manners}
    {first : Traced (Entry ρ) σ α}
    (isClient : Client gate manners first)
    (service : ServiceId) :
    Client gate manners ((comingBack first).binderOf service) :=
  .andThen isClient fun _ _ _ _ => .done _

theorem exists_path_gateWithService :
    ∃ past : List (Entry Unit),
      Path .free ⟨Gate.empty, [], none⟩ past ⟨gateWithService, [], none⟩ := by
  have registers :
      Client GatePlace.bare .free
        (Traced.within GatePlace.bare.toStatePart
          (Traced.within Gate.directoryPart
            (Directory.register (.text "A") (some ⟨"p", "C"⟩) (some ⟨"s"⟩)
              (some ⟨none, "p", "C"⟩))) :
          Traced (Entry Unit) Gate Unit) :=
    .register _ _ _ _
  exact ⟨_, registers.path trivial rfl⟩

/-- A service that binds another connection while it is asked. -/
theorem tellsLive_of_other_bind :
    let other : Traced (Entry Unit) Gate Bool :=
      bind GatePlace.bare.toStatePart Client.idle ⟨"d"⟩ (some ⟨"p", "C"⟩)
    let callbacks : Callbacks Unit Gate := .comingBack other
    (∃ session handle asking told,
        Tells GatePlace.bare.toStatePart callbacks ⟨"c"⟩ (some ⟨"p", "C"⟩) gateWithService
          session handle asking told) ∧
      TellsLive GatePlace.bare.toStatePart callbacks ⟨"c"⟩ (some ⟨"p", "C"⟩)
        gateWithService := by
  intro other callbacks
  obtain ⟨past, run⟩ := exists_path_gateWithService
  let session : Session := ⟨0, ⟨"c"⟩, ⟨"p", "C"⟩, ⟨"s"⟩⟩
  have tells :
      Tells GatePlace.bare.toStatePart callbacks ⟨"c"⟩ (some ⟨"p", "C"⟩) gateWithService
        session (some (.binder ⟨"s"⟩)) _ _ :=
    ⟨rfl, rfl, rfl⟩
  refine ⟨⟨_, _, _, _, tells⟩, ?_⟩
  have isClient : Client GatePlace.bare .free other := Client.bind_idle _ _
  refine (tellsLive_iff run trivial (Callbacks.comingBack_isClient isClient) _ _).mpr ?_
  rintro ⟨opened, handle, asking, told, ⟨opens, -, answers⟩, closed⟩
  cases opens
  have changes :
      GateChange.ofTrace asking =
        [.opened ⟨1, ⟨"d"⟩, ⟨"p", "C"⟩, ⟨"s"⟩⟩, .established ⟨1, ⟨"d"⟩, ⟨"p", "C"⟩, ⟨"s"⟩⟩] := by
    cases answers
    rfl
  rw [← GateChange.mem_ofTrace_iff, changes] at closed
  simp at closed

/-- A service that unbinds the connection while it is asked. -/
theorem not_tellsLive_of_own_unbind :
    let own : Traced (Entry Unit) Gate Unit :=
      unbind GatePlace.bare.toStatePart Client.idle ⟨"c"⟩
    let callbacks : Callbacks Unit Gate := .comingBack own
    (∃ past : List (Entry Unit),
        Path .free ⟨Gate.empty, [], none⟩ past ⟨gateWithService, [], none⟩) ∧
      (∀ service, Client GatePlace.bare .free (callbacks.binderOf service)) ∧
        ¬ TellsLive GatePlace.bare.toStatePart callbacks ⟨"c"⟩ (some ⟨"p", "C"⟩)
          gateWithService := by
  intro own callbacks
  have isClient : Client GatePlace.bare .free own :=
    .unbind Client.idle ⟨"c"⟩ fun _ _ => .done ()
  refine ⟨exists_path_gateWithService, Callbacks.comingBack_isClient isClient, fun live => ?_⟩
  let session : Session := ⟨0, ⟨"c"⟩, ⟨"p", "C"⟩, ⟨"s"⟩⟩
  have tells :
      Tells GatePlace.bare.toStatePart callbacks ⟨"c"⟩ (some ⟨"p", "C"⟩) gateWithService
        session (some (.binder ⟨"s"⟩)) _ _ :=
    ⟨rfl, rfl, rfl⟩
  have held := live _ _ _ _ tells
  cases held

end Binding

end PlatformDouble
