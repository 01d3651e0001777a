import PlatformDouble.Proofs.Gate.Outcomes
import PlatformDouble.Proofs.Gate.Deliveries

namespace PlatformDouble

/-!
# The protocol of a gate

A run in which callbacks come back to the gate is a tree of calls.  Its trace is
flat, and read entry by entry it is a run of a machine whose state is the gate,
the binds that have not returned yet, innermost first, and the session that an
unbind has closed without telling its connection yet.

The machine knows nothing of callbacks: whatever they do is more entries.
-/

variable {ρ : Type}

namespace GateChange

/-- How a gate changed in the course of a trace. -/
def ofEntry? : Entry ρ → Option GateChange
  | .gate change => some change
  | _ => none

/-- How a gate changed in the course of a trace, in order. -/
def ofTrace (trace : List (Entry ρ)) : List GateChange :=
  trace.filterMap ofEntry?

@[simp] theorem ofTrace_append
    (first second : List (Entry ρ)) :
    ofTrace (first ++ second) = ofTrace first ++ ofTrace second := by
  simp [ofTrace]

@[simp] theorem ofTrace_gate
    (change : GateChange) :
    ofTrace [(.gate change : Entry ρ)] = [change] :=
  rfl

@[simp] theorem mem_ofTrace_iff
    {trace : List (Entry ρ)}
    {change : GateChange} :
    change ∈ ofTrace trace ↔ .gate change ∈ trace := by
  simp only [ofTrace, List.mem_filterMap]
  constructor
  · rintro ⟨entry, member, isChange⟩
    cases entry with
    | gate other =>
        cases isChange
        exact member
    | _ =>
        cases isChange
  · intro member
    exact ⟨_, member, rfl⟩

end GateChange

namespace Gate

def enter (gate : Gate) (entry : Registration) : Gate :=
  { gate with directory := gate.directory.write entry }

@[simp] theorem sessions_enter
    (gate : Gate)
    (entry : Registration) :
    (gate.enter entry).sessions = gate.sessions :=
  rfl

/-- What an entry of a trace makes of a gate. -/
def follow (gate : Gate) : Entry ρ → Gate
  | .gate (.registered entry) => gate.enter entry
  | .gate (.opened session) => gate.addSession session
  | .gate (.withdrawn failed _) => gate.dropSession failed.connection
  | .gate (.closed session) => gate.dropSession session.connection
  | _ => gate

/-- What a trace makes of a gate. -/
def replay (gate : Gate) (trace : List (Entry ρ)) : Gate :=
  trace.foldl follow gate

@[simp] theorem replay_nil
    (gate : Gate) :
    gate.replay ([] : List (Entry ρ)) = gate :=
  rfl

@[simp] theorem replay_append
    (gate : Gate)
    (first second : List (Entry ρ)) :
    gate.replay (first ++ second) = (gate.replay first).replay second :=
  List.foldl_append

@[simp] theorem replay_singleton
    (gate : Gate)
    (entry : Entry ρ) :
    gate.replay [entry] = gate.follow entry :=
  rfl

theorem follow_of_apart
    {entry : Entry ρ}
    (apart : entry.isApart = true)
    (gate : Gate) :
    gate.follow entry = gate := by
  cases entry with
  | gate change =>
      simp [Entry.isApart] at apart
  | _ =>
      rfl

/-- An added session is seen under its connection and nowhere else. -/
theorem get?_addSession
    (gate : Gate)
    (session : Session)
    (connection : ConnectionId) :
    (gate.addSession session).sessions.get? connection =
      if session.connection = connection then
        some session
      else
        gate.sessions.get? connection := by
  simp [addSession, Table.get?_insert]

/-- A session that is there after another was added is that one or was there before. -/
theorem of_get?_addSession
    {gate : Gate}
    {added session : Session}
    {connection : ConnectionId}
    (found : (gate.addSession added).sessions.get? connection = some session) :
    (added.connection = connection ∧ session = added) ∨
      (added.connection ≠ connection ∧
        gate.sessions.get? connection = some session) := by
  rw [get?_addSession] at found
  split at found
  · rename_i same
    cases found
    exact .inl ⟨same, rfl⟩
  · rename_i different
    exact .inr ⟨different, found⟩

/-- A dropped session is missing under its connection and nowhere else. -/
theorem get?_dropSession
    (gate : Gate)
    (dropped connection : ConnectionId) :
    (gate.dropSession dropped).sessions.get? connection =
      if dropped = connection then
        none
      else
        gate.sessions.get? connection := by
  simp [dropSession, Table.get?_erase]

/-- A session that is still there after another was dropped was there before. -/
theorem of_get?_dropSession
    {gate : Gate}
    {dropped connection : ConnectionId}
    {session : Session}
    (found : (gate.dropSession dropped).sessions.get? connection = some session) :
    dropped ≠ connection ∧ gate.sessions.get? connection = some session := by
  rw [get?_dropSession] at found
  split at found
  · cases found
  · rename_i different
    exact ⟨different, found⟩

/-- Every session is kept under its own connection. -/
def IsKeyed (gate : Gate) : Prop :=
  ∀ connection session,
    gate.sessions.get? connection = some session → session.connection = connection

/-- A session is added under its own connection. -/
theorem IsKeyed.addSession
    {gate : Gate}
    (keyed : gate.IsKeyed)
    (session : Session) :
    (gate.addSession session).IsKeyed := by
  intro connection other found
  rcases of_get?_addSession found with ⟨same, isAdded⟩ | ⟨-, foundBefore⟩
  · exact isAdded ▸ same
  · exact keyed connection other foundBefore

/-- What is left when a session is dropped is still under its own connection. -/
theorem IsKeyed.dropSession
    {gate : Gate}
    (keyed : gate.IsKeyed)
    (dropped : ConnectionId) :
    (gate.dropSession dropped).IsKeyed := by
  intro connection other found
  exact keyed connection other (of_get?_dropSession found).2

end Gate

/-- A bind that has not returned yet. -/
inductive PendingBind where
  /-- Its service is being asked for a binder. -/
  | asking (session : Session)
  /-- Its connection is being told. -/
  | telling (session : Session)
  deriving Repr, DecidableEq

namespace PendingBind

def session : PendingBind → Session
  | asking session => session
  | telling session => session

end PendingBind

/-- Where a run is between two entries of its trace. -/
structure Moment where
  gate : Gate
  /-- The binds that have not returned yet, innermost first. -/
  pending : List PendingBind
  /-- A closed session whose connection has not been told yet. -/
  leaving : Option Session

/-- What services may do when they are asked for a binder. -/
inductive Manners where
  /-- They may do anything. -/
  | free
  /-- They open and close no session, and fail only with ordinary faults. -/
  | reserved
  deriving Repr, DecidableEq

namespace Manners

/-- Whether sessions may be opened and closed now, and interrupts may pass. -/
def Permits (manners : Manners) (pending : List PendingBind) : Prop :=
  manners = .reserved → ∀ session outer, pending ≠ .asking session :: outer

/-- While a connection is being told, anything may happen. -/
theorem permits_telling
    (manners : Manners)
    (session : Session)
    (outer : List PendingBind) :
    manners.Permits (.telling session :: outer) := by
  intro reserved other rest same
  cases same

/-- While nothing is pending, anything may happen. -/
theorem permits_nil
    (manners : Manners) :
    manners.Permits [] := by
  intro reserved other rest same
  cases same

end Manners

/-- What one entry of a trace can be, and what it does. -/
inductive Step (manners : Manners) : Moment → Entry ρ → Moment → Prop where
  /-- Something that has nothing to do with the gate. -/
  | apart
      {moment : Moment}
      {entry : Entry ρ}
      (isApart : entry.isApart = true) :
      Step manners moment entry moment
  /-- A registration is written. -/
  | registered
      {gate : Gate}
      {pending : List PendingBind}
      (entry : Registration) :
      Step manners
        ⟨gate, pending, none⟩
        (.gate (.registered entry))
        ⟨gate.enter entry, pending, none⟩
  /-- A bind opens the next session, of a connection that has none. -/
  | opened
      {gate : Gate}
      {pending : List PendingBind}
      {session : Session}
      (permitted : manners.Permits pending)
      (absent : gate.sessions.get? session.connection = none)
      (known :
        gate.directory.service? (some session.component) = some session.service)
      (next : session.serial = gate.opened) :
      Step manners
        ⟨gate, pending, none⟩
        (.gate (.opened session))
        ⟨gate.addSession session, .asking session :: pending, none⟩
  /-- The innermost bind tells its connection. -/
  | connected
      {gate : Gate}
      {outer : List PendingBind}
      {session : Session}
      (handle : Option Handle) :
      Step manners
        ⟨gate, .asking session :: outer, none⟩
        (.event (.connected session handle))
        ⟨gate, .telling session :: outer, none⟩
  /-- The innermost bind succeeds. -/
  | established
      {gate : Gate}
      {outer : List PendingBind}
      {session : Session} :
      Step manners
        ⟨gate, .telling session :: outer, none⟩
        (.gate (.established session))
        ⟨gate, outer, none⟩
  /-- The innermost bind fails and takes back what its connection has. -/
  | withdrawn
      {gate : Gate}
      {outer : List PendingBind}
      (inner : PendingBind) :
      Step manners
        ⟨gate, inner :: outer, none⟩
        (.gate (.withdrawn inner.session
          (gate.sessions.get? inner.session.connection)))
        ⟨gate.dropSession inner.session.connection, outer, none⟩
  /-- The innermost bind is interrupted and takes nothing back. -/
  | abandoned
      {gate : Gate}
      {outer : List PendingBind}
      {inner : PendingBind}
      (permitted : manners.Permits (inner :: outer)) :
      Step manners
        ⟨gate, inner :: outer, none⟩
        (.gate (.abandoned inner.session))
        ⟨gate, outer, none⟩
  /-- An unbind closes the session of its connection. -/
  | closed
      {gate : Gate}
      {pending : List PendingBind}
      {session : Session}
      (permitted : manners.Permits pending)
      (found : gate.sessions.get? session.connection = some session) :
      Step manners
        ⟨gate, pending, none⟩
        (.gate (.closed session))
        ⟨gate.dropSession session.connection, pending, some session⟩
  /-- The connection of the closed session is told. -/
  | disconnected
      {gate : Gate}
      {pending : List PendingBind}
      {session : Session} :
      Step manners
        ⟨gate, pending, some session⟩
        (.event (.disconnected session
          (gate.directory.owner? (some session.service))))
        ⟨gate, pending, none⟩

/-- Any number of steps, with the trace they leave. -/
inductive Path (manners : Manners) : Moment → List (Entry ρ) → Moment → Prop where
  | nil
      (moment : Moment) :
      Path manners moment [] moment
  | cons
      {before middle after : Moment}
      {entry : Entry ρ}
      {rest : List (Entry ρ)}
      (first : Step manners before entry middle)
      (later : Path manners middle rest after) :
      Path manners before (entry :: rest) after

variable
  {manners : Manners}
  {before middle after : Moment}
  {entry : Entry ρ}
  {trace first second : List (Entry ρ)}

namespace Step

/-- The gate goes on as the entry says. -/
theorem follows
    (step : Step manners before entry after) :
    after.gate = before.gate.follow entry := by
  cases step with
  | apart isApart =>
      exact (Gate.follow_of_apart isApart _).symm
  | _ =>
      rfl

theorem path
    (step : Step manners before entry after) :
    Path manners before [entry] after :=
  .cons step (.nil after)

end Step

namespace Path

/-- Paths that meet make one path. -/
theorem append
    (leading : Path manners before first middle)
    (trailing : Path manners middle second after) :
    Path manners before (first ++ second) after := by
  induction leading with
  | nil moment =>
      exact trailing
  | cons head tail inductionHypothesis =>
      exact .cons head (inductionHypothesis trailing)

/-- A path whose trace is in two parts passes a moment between them. -/
theorem of_append
    (path : Path manners before (first ++ second) after) :
    ∃ middle,
      Path manners before first middle ∧ Path manners middle second after := by
  induction first generalizing before with
  | nil =>
      exact ⟨before, .nil before, path⟩
  | cons entry rest inductionHypothesis =>
      cases path with
      | cons head tail =>
          obtain ⟨middle, leading, trailing⟩ := inductionHypothesis tail
          exact ⟨middle, .cons head leading, trailing⟩

/-- A path takes a step at every entry of its trace. -/
theorem of_append_cons
    (path : Path manners before (first ++ entry :: second) after) :
    ∃ reached left,
      Path manners before first reached ∧
        Step manners reached entry left ∧
          Path manners left second after := by
  obtain ⟨reached, leading, trailing⟩ := path.of_append
  cases trailing with
  | cons head tail =>
      exact ⟨reached, _, leading, head, tail⟩

/-- What every step keeps is kept on the way, whatever the trace so far. -/
theorem keeps
    (holds : List (Entry ρ) → Moment → Prop)
    (kept :
      ∀ {past : List (Entry ρ)} {before after : Moment} {entry : Entry ρ},
        holds past before →
          Step manners before entry after →
            holds (past ++ [entry]) after)
    (past : List (Entry ρ))
    (path : Path manners before trace after)
    (start : holds past before) :
    holds (past ++ trace) after := by
  induction path generalizing past with
  | nil moment =>
      simpa using start
  | cons head tail inductionHypothesis =>
      have onward := inductionHypothesis _ (kept start head)
      simpa using onward

theorem keepsFromStart
    {holds : List (Entry ρ) → Moment → Prop}
    (path : Path manners before trace after)
    (kept :
      ∀ {past : List (Entry ρ)} {before after : Moment} {entry : Entry ρ},
        holds past before →
          Step manners before entry after →
            holds (past ++ [entry]) after)
    (start : holds [] before) :
    holds trace after := by
  simpa using keeps holds kept [] path start

/-- The gate at the end of a path is the one that its trace tells. -/
theorem replays
    (path : Path manners before trace after) :
    after.gate = before.gate.replay trace := by
  induction path with
  | nil moment =>
      rfl
  | cons head tail inductionHypothesis =>
      rw [inductionHypothesis, head.follows]
      rfl

/-- Entries that have nothing to do with the gate can be passed at any moment. -/
theorem of_apart
    (moment : Moment)
    (apart : ∀ entry ∈ trace, entry.isApart = true) :
    Path manners moment trace moment := by
  induction trace with
  | nil =>
      exact .nil moment
  | cons entry rest inductionHypothesis =>
      have entryApart : entry.isApart = true :=
        apart entry List.mem_cons_self
      have restApart : ∀ other ∈ rest, other.isApart = true := by
        intro other member
        exact apart other (List.mem_cons_of_mem entry member)
      exact .cons (.apart entryApart) (inductionHypothesis restApart)

end Path

namespace Entry

/-- Whether an entry neither opens nor closes a session nor delivers anything. -/
def IsReserved (entry : Entry ρ) : Prop :=
  entry.isApart = true ∨ ∃ written, entry = .gate (.registered written)

end Entry

namespace Path

/-- What opens and closes no session goes on in the same way under other binds. -/
theorem under
    {gate reached : Gate}
    {pending pendingAfter : List PendingBind}
    (path : Path manners ⟨gate, pending, none⟩ trace ⟨reached, pendingAfter, none⟩)
    (reserved : ∀ entry ∈ trace, entry.IsReserved)
    (others : List PendingBind) :
    Path manners ⟨gate, others, none⟩ trace ⟨reached, others, none⟩ := by
  induction trace generalizing gate pending with
  | nil =>
      cases path
      exact .nil _
  | cons entry rest inductionHypothesis =>
      have restReserved : ∀ other ∈ rest, other.IsReserved := by
        intro other member
        exact reserved other (List.mem_cons_of_mem entry member)
      cases path with
      | cons head tail =>
          rcases reserved entry List.mem_cons_self with isApart | ⟨written, isWritten⟩
          · cases head with
            | apart _ =>
                exact .cons (.apart isApart) (inductionHypothesis tail restReserved)
            | _ =>
                simp [Entry.isApart] at isApart
          · subst isWritten
            cases head with
            | apart isApart =>
                simp [Entry.isApart] at isApart
            | registered _ =>
                exact .cons (.registered written) (inductionHypothesis tail restReserved)

end Path

/-- Whether a session is what an entry took from a gate. -/
def Entry.Removes (session : Session) : Entry ρ → Prop
  | .gate (.closed closed) => closed = session
  | .gate (.withdrawn _ removed) => removed = some session
  | _ => False

/-- A session that a gate has after a step was there before or has been opened. -/
theorem Step.held_before
    (step : Step manners before entry after)
    {connection : ConnectionId}
    {session : Session}
    (held : after.gate.sessions.get? connection = some session) :
    before.gate.sessions.get? connection = some session ∨
      (entry = .gate (.opened session) ∧ session.connection = connection) := by
  cases step with
  | @opened gate pending opened permitted absent known next =>
      rcases Gate.of_get?_addSession held with ⟨same, isOpened⟩ | ⟨-, heldBefore⟩
      · exact .inr ⟨isOpened ▸ rfl, isOpened ▸ same⟩
      · exact .inl heldBefore
  | withdrawn inner =>
      exact .inl (Gate.of_get?_dropSession held).2
  | closed permitted found =>
      exact .inl (Gate.of_get?_dropSession held).2
  | _ =>
      exact .inl held

/-- A session that a gate has before a step is there after it or has been removed. -/
theorem Step.held_after
    (step : Step manners before entry after)
    {connection : ConnectionId}
    {session : Session}
    (held : before.gate.sessions.get? connection = some session) :
    after.gate.sessions.get? connection = some session ∨
      entry.Removes session := by
  cases step with
  | @opened gate pending opened permitted absent known next =>
      left
      rw [Gate.get?_addSession, if_neg]
      · exact held
      · intro same
        subst same
        rw [absent] at held
        cases held
  | withdrawn inner =>
      rw [Gate.get?_dropSession]
      split
      · rename_i same
        subst same
        exact .inr held
      · exact .inl held
  | @closed gate pending closed permitted found =>
      rw [Gate.get?_dropSession]
      split
      · rename_i same
        subst same
        rw [found] at held
        cases held
        exact .inr rfl
      · exact .inl held
  | _ =>
      exact .inl held

/-- Sessions stay under their own connections. -/
theorem Step.keyed
    (step : Step manners before entry after)
    (keyed : before.gate.IsKeyed) :
    after.gate.IsKeyed := by
  cases step with
  | opened permitted absent known next =>
      exact keyed.addSession _
  | withdrawn inner =>
      exact keyed.dropSession inner.session.connection
  | closed permitted found =>
      exact keyed.dropSession _
  | _ =>
      exact keyed

/-- Sessions stay under their own connections all along. -/
theorem Path.keyed
    (path : Path manners before trace after)
    (keyed : before.gate.IsKeyed) :
    after.gate.IsKeyed := by
  induction path with
  | nil moment =>
      exact keyed
  | cons head tail inductionHypothesis =>
      exact inductionHypothesis (head.keyed keyed)

end PlatformDouble
