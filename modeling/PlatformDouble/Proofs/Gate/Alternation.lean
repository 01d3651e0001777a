import PlatformDouble.Proofs.Gate.Client

namespace PlatformDouble

/-!
# Connections hear of a beginning before they hear of an end

A session is in the table before its connection is told that it stands, and out
of it before the connection is told that it is over.  Binds that fail may leave a
connection told of a beginning without an end, never the other way round.

This rests on services that open and close no session when they are asked for a
binder.  The only session whose connection was not told is then that of the
innermost bind, and only while its service is being asked.
-/

variable {ρ : Type}

namespace Delivery

/-- Who hears a delivery. -/
def connection : Delivery → ConnectionId
  | connected connection _ _ => connection
  | disconnected connection _ => connection

@[simp] theorem connection_connected
    (connection : ConnectionId)
    (component : ComponentName)
    (handle : Option Handle) :
    (connected connection component handle).connection = connection :=
  rfl

@[simp] theorem connection_disconnected
    (connection : ConnectionId)
    (named : Option ComponentName) :
    (disconnected connection named).connection = connection :=
  rfl

/-- What one connection hears. -/
def heardBy (connection : ConnectionId) (deliveries : List Delivery) : List Delivery :=
  deliveries.filter fun delivery => delivery.connection = connection

/-- What a connection heard last is that it is bound. -/
def IsInformed (connection : ConnectionId) (past : List Delivery) : Prop :=
  ∃ component handle,
    (heardBy connection past).getLast? =
      some (.connected connection component handle)

/-- Before each end a connection hears of a beginning, and between any two ends. -/
structure Alternates (connection : ConnectionId) (deliveries : List Delivery) : Prop where
  beforeEach :
    ∀ earlier named later,
      deliveries = earlier ++ .disconnected connection named :: later →
        ∃ component handle, .connected connection component handle ∈ earlier
  betweenAny :
    ∀ earlier first between second later,
      deliveries =
          earlier ++ .disconnected connection first ::
            (between ++ .disconnected connection second :: later) →
        ∃ component handle, .connected connection component handle ∈ between

/-- A connection that is told of a beginning is informed. -/
theorem isInformed_connected
    (past : List Delivery)
    (connection : ConnectionId)
    (component : ComponentName)
    (handle : Option Handle) :
    IsInformed connection (past ++ [.connected connection component handle]) := by
  refine ⟨component, handle, ?_⟩
  simp [heardBy]

/-- What others hear leaves a connection informed. -/
theorem IsInformed.append_other
    {connection : ConnectionId}
    {past : List Delivery}
    {delivery : Delivery}
    (informed : IsInformed connection past)
    (other : delivery.connection ≠ connection) :
    IsInformed connection (past ++ [delivery]) := by
  obtain ⟨component, handle, isLast⟩ := informed
  refine ⟨component, handle, ?_⟩
  simpa [heardBy, other] using isLast

/-- An informed connection was told of a beginning. -/
theorem IsInformed.exists_mem
    {connection : ConnectionId}
    {past : List Delivery}
    (informed : IsInformed connection past) :
    ∃ component handle, .connected connection component handle ∈ past := by
  obtain ⟨component, handle, isLast⟩ := informed
  have member := List.mem_of_getLast? isLast
  exact ⟨component, handle, (List.mem_filter.mp member).1⟩

/-- A connection that is informed after an end was told of a beginning since. -/
theorem IsInformed.exists_mem_since
    {connection : ConnectionId}
    {earlier since : List Delivery}
    {named : Option ComponentName}
    (informed :
      IsInformed connection (earlier ++ .disconnected connection named :: since)) :
    ∃ component handle, .connected connection component handle ∈ since := by
  obtain ⟨component, handle, isLast⟩ := informed
  have heardParts :
      heardBy connection (earlier ++ .disconnected connection named :: since) =
        heardBy connection earlier ++
          .disconnected connection named :: heardBy connection since := by
    simp [heardBy]
  rw [heardParts, List.getLast?_append] at isLast
  cases heardSince : heardBy connection since with
  | nil =>
      simp [heardSince] at isLast
  | cons first rest =>
      have lastSince :
          (heardBy connection since).getLast? =
            some (.connected connection component handle) := by
        simpa [heardSince, List.getLast?_cons_cons] using isLast
      have member := List.mem_of_getLast? lastSince
      exact ⟨component, handle, (List.mem_filter.mp member).1⟩

/-- Whoever is informed before each end hears of beginnings and ends in turn. -/
theorem alternates_of_isInformed
    {connection : ConnectionId}
    {deliveries : List Delivery}
    (informed :
      ∀ earlier named later,
        deliveries = earlier ++ .disconnected connection named :: later →
          IsInformed connection earlier) :
    Alternates connection deliveries where
  beforeEach earlier named later shape :=
    (informed earlier named later shape).exists_mem
  betweenAny earlier first between second later shape := by
    have informedLater :=
      informed (earlier ++ .disconnected connection first :: between) second later
        (by simpa using shape)
    exact informedLater.exists_mem_since

theorem exists_entry_of_ofTrace
    {trace : List (Entry ρ)}
    {earlier later : List Delivery}
    {delivery : Delivery}
    (shape : ofTrace trace = earlier ++ delivery :: later) :
    ∃ past entry future,
      trace = past ++ entry :: future ∧
        ofTrace past = earlier ∧
        ofEntry? entry = some delivery := by
  obtain ⟨past, rest, split, pastDelivers, restDelivers⟩ :=
    List.filterMap_eq_append_iff.mp shape
  obtain ⟨silent, entry, future, restSplit, silence, delivers, -⟩ :=
    List.filterMap_eq_cons_iff.mp restDelivers
  refine ⟨past ++ silent, entry, future, ?_, ?_, delivers⟩
  · rw [split, restSplit, List.append_assoc]
  · have nothing : ofTrace silent = [] :=
      List.filterMap_eq_nil_iff.mpr silence
    rw [ofTrace_append, nothing, List.append_nil]
    exact pastDelivers

/-- Only an entry about the end of a session delivers one. -/
theorem eq_of_ofEntry?_disconnected
    {entry : Entry ρ}
    {connection : ConnectionId}
    {named : Option ComponentName}
    (delivers : ofEntry? entry = some (.disconnected connection named)) :
    ∃ session : Session,
      session.connection = connection ∧
        entry = .event (.disconnected session named) := by
  unfold ofEntry? at delivers
  split at delivers
  · cases delivers
  · rename_i session other
    cases delivers
    exact ⟨session, rfl, rfl⟩
  · cases delivers

end Delivery

/-- Which connections were told, at a moment of a run. -/
structure Moment.IsOrderlyAfter (past : List (Entry ρ)) (moment : Moment) : Prop where
  /-- Only the innermost bind may have a connection that was not told. -/
  told :
    ∀ connection session,
      moment.gate.sessions.get? connection = some session →
        Delivery.IsInformed connection (Delivery.ofTrace past) ∨
          ∃ asked outer,
            moment.pending = .asking asked :: outer ∧ asked.connection = connection
  /-- A connection whose session is over is told so before it has another. -/
  leaving :
    ∀ session,
      moment.leaving = some session →
        Delivery.IsInformed session.connection (Delivery.ofTrace past) ∧
          moment.gate.sessions.get? session.connection = none

namespace Moment.IsOrderlyAfter

variable
  {past : List (Entry ρ)}
  {before after : Moment}
  {entry : Entry ρ}

theorem empty :
    Moment.IsOrderlyAfter ([] : List (Entry ρ)) ⟨Gate.empty, [], none⟩ where
  told := nofun
  leaving := nofun

/-- While sessions may be opened and closed, every connection with one was told. -/
theorem informed_of_permits
    (orderly : before.IsOrderlyAfter past)
    (permitted : Manners.Permits .reserved before.pending)
    {connection : ConnectionId}
    {session : Session}
    (held : before.gate.sessions.get? connection = some session) :
    Delivery.IsInformed connection (Delivery.ofTrace past) := by
  rcases orderly.told connection session held with informed | ⟨asked, outer, isAsking, -⟩
  · exact informed
  · exact absurd isAsking (permitted rfl asked outer)

/-- A moment stays orderly under entries that have nothing to do with the gate. -/
theorem of_apart
    (orderly : before.IsOrderlyAfter past)
    (isApart : entry.isApart = true) :
    before.IsOrderlyAfter (past ++ [entry]) := by
  have silent : Delivery.ofTrace [entry] = [] := by
    apply Delivery.ofTrace_of_apart
    intro other member
    rw [List.mem_singleton.mp member]
    exact isApart
  have same : Delivery.ofTrace (past ++ [entry]) = Delivery.ofTrace past := by
    rw [Delivery.ofTrace_append, silent, List.append_nil]
  exact {
    told := by
      rw [same]
      exact orderly.told
    leaving := by
      rw [same]
      exact orderly.leaving }

/-- Once the connection of the innermost bind is told, all connections were told. -/
theorem connected
    {gate : Gate}
    {outer : List PendingBind}
    {session : Session}
    (orderly : Moment.IsOrderlyAfter past ⟨gate, .asking session :: outer, none⟩)
    (handle : Option Handle) :
    Moment.IsOrderlyAfter
      (past ++ [(.event (.connected session handle) : Entry ρ)])
      ⟨gate, .telling session :: outer, none⟩ where
  told := by
    intro connection other held
    left
    rw [Delivery.ofTrace_append]
    by_cases same : session.connection = connection
    · subst same
      exact Delivery.isInformed_connected _ _ _ _
    · rcases orderly.told connection other held with
        informed | ⟨asked, rest, isAsking, ofConnection⟩
      · exact informed.append_other same
      · cases isAsking
        exact absurd ofConnection same
  leaving := nofun

/-- A failed bind takes back the only session whose connection may not have been told. -/
theorem withdrawn
    {gate : Gate}
    {outer : List PendingBind}
    {inner : PendingBind}
    (orderly : Moment.IsOrderlyAfter past ⟨gate, inner :: outer, none⟩)
    (removed : Option Session) :
    Moment.IsOrderlyAfter
      (past ++ [(.gate (.withdrawn inner.session removed) : Entry ρ)])
      ⟨gate.dropSession inner.session.connection, outer, none⟩ where
  told := by
    intro connection other held
    obtain ⟨different, heldBefore⟩ := Gate.of_get?_dropSession held
    rcases orderly.told connection other heldBefore with
      informed | ⟨asked, rest, isAsking, ofConnection⟩
    · left
      simpa using informed
    · cases isAsking
      exact absurd ofConnection different
  leaving := nofun

/-- A connection is told that its session is over while it has no other. -/
theorem disconnected
    {gate : Gate}
    {pending : List PendingBind}
    {session : Session}
    (orderly : Moment.IsOrderlyAfter past ⟨gate, pending, some session⟩)
    (named : Option ComponentName) :
    Moment.IsOrderlyAfter
      (past ++ [(.event (.disconnected session named) : Entry ρ)])
      ⟨gate, pending, none⟩ where
  told := by
    intro connection other held
    have different : session.connection ≠ connection := by
      intro same
      subst same
      rw [(orderly.leaving session rfl).2] at held
      cases held
    rcases orderly.told connection other held with informed | asking
    · left
      rw [Delivery.ofTrace_append]
      exact informed.append_other different
    · exact .inr asking
  leaving := nofun

/-- A moment stays orderly from one entry of a trace to the next. -/
theorem step
    (orderly : before.IsOrderlyAfter past)
    (step : Step .reserved before entry after) :
    after.IsOrderlyAfter (past ++ [entry]) := by
  cases step with
  | apart isApart =>
      exact orderly.of_apart isApart
  | registered written =>
      exact {
        told := by simpa using orderly.told
        leaving := nofun }
  | @opened gate pending session permitted absent known next =>
      exact {
        told := by
          intro connection other held
          rcases Gate.of_get?_addSession held with ⟨same, -⟩ | ⟨-, heldBefore⟩
          · exact .inr ⟨session, pending, rfl, same⟩
          · left
            simpa using orderly.informed_of_permits permitted heldBefore
        leaving := nofun }
  | connected handle =>
      exact orderly.connected handle
  | @established gate outer session =>
      have permitted := Manners.permits_telling .reserved session outer
      exact {
        told := by
          intro connection other held
          left
          simpa using orderly.informed_of_permits permitted held
        leaving := nofun }
  | withdrawn inner =>
      exact orderly.withdrawn _
  | abandoned permitted =>
      exact {
        told := by
          intro connection other held
          left
          simpa using orderly.informed_of_permits permitted held
        leaving := nofun }
  | @closed gate pending session permitted found =>
      exact {
        told := by
          intro connection other held
          left
          have heldBefore := (Gate.of_get?_dropSession held).2
          simpa using orderly.informed_of_permits permitted heldBefore
        leaving := by
          intro other leaves
          cases leaves
          have informed := orderly.informed_of_permits permitted found
          exact ⟨by simpa using informed, by simp [Gate.get?_dropSession]⟩ }
  | disconnected =>
      exact orderly.disconnected _

end Moment.IsOrderlyAfter

/-- Along a path from an empty gate every connection hears beginnings and ends in turn. -/
theorem Path.alternates
    {after : Moment}
    {trace : List (Entry ρ)}
    (path : Path .reserved ⟨Gate.empty, [], none⟩ trace after)
    (connection : ConnectionId) :
    Delivery.Alternates connection (Delivery.ofTrace trace) := by
  apply Delivery.alternates_of_isInformed
  intro earlier named later shape
  obtain ⟨past, entry, future, split, pastDelivers, delivers⟩ :=
    Delivery.exists_entry_of_ofTrace shape
  obtain ⟨session, ofConnection, isEnd⟩ :=
    Delivery.eq_of_ofEntry?_disconnected delivers
  subst split pastDelivers ofConnection isEnd
  obtain ⟨reached, left, leading, step, -⟩ := path.of_append_cons
  have orderly : reached.IsOrderlyAfter past :=
    leading.keepsFromStart .step .empty
  cases step with
  | apart isApart =>
      simp [Entry.isApart] at isApart
  | disconnected =>
      exact (orderly.leaving session rfl).1

/--
Whatever clients do to a gate, at any depth and however it ends, every connection
is told of a beginning before it is first told of an end, and again between any
two ends, as long as services open and close no session when they are asked for a
binder and fail only with ordinary faults.
-/
theorem Client.deliveries_alternate
    {σ α : Type}
    {gate : GatePlace σ}
    {code : Traced (Entry ρ) σ α}
    (client : Client gate .reserved code)
    {state : σ}
    (relied : gate.relied state)
    (starts : gate.get state = Gate.empty)
    (connection : ConnectionId) :
    Delivery.Alternates connection (Delivery.ofTrace (code state).trace) :=
  (client.path relied starts).alternates connection

/-- A connection that relapses and is then unbound hears beginnings and ends in turn. -/
theorem Client.deliveries_bareRelapse_alternate :
    let code : Traced (Entry Unit) Gate Unit :=
      Traced.andThen (Client.bareRelapse .interrupt) fun _ =>
        Binding.unbind GatePlace.bare.toStatePart Client.idle ⟨"c"⟩
    let deliveries := Delivery.ofTrace (code Gate.empty).trace
    deliveries =
        [.connected ⟨"c"⟩ ⟨"p", "C"⟩ none,
          .disconnected ⟨"c"⟩ (some ⟨"p", "C"⟩),
          .connected ⟨"c"⟩ ⟨"p", "C"⟩ none,
          .disconnected ⟨"c"⟩ (some ⟨"p", "C"⟩)] ∧
      Delivery.Alternates ⟨"c"⟩ deliveries := by
  intro code deliveries
  have isClient : Client GatePlace.bare .reserved code :=
    .andThen
      (Client.bareRelapse_isClient .reserved .interrupt)
      fun _ _ _ _ => .unbind Client.idle ⟨"c"⟩ fun _ _ => .done ()
  have relied : GatePlace.bare.relied Gate.empty := trivial
  have starts : GatePlace.bare.get Gate.empty = Gate.empty := rfl
  exact ⟨by decide, Client.deliveries_alternate isClient relied starts ⟨"c"⟩⟩

end PlatformDouble
