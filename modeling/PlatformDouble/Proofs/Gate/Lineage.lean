import PlatformDouble.Proofs.Gate.Protocol

namespace PlatformDouble

/-!
# How sessions of one connection follow each other

While a bind is running, its session may be closed, and a bind that runs inside it
may open another one for the same connection.  Two invariants keep track of that
at every point of a run: sessions are numbered and never come back, and whatever a
gate has in place of the session of a running bind was opened after that one had
been closed.
-/

variable {ρ : Type}

namespace GateChange

def session? : GateChange → Option Session
  | registered _ => none
  | opened session => some session
  | established session => some session
  | withdrawn failed _ => some failed
  | abandoned session => some session
  | closed session => some session

end GateChange

namespace Session

/-- A session was opened and then closed. -/
def WasClosed (session : Session) (changes : List GateChange) : Prop :=
  [.opened session, .closed session].Sublist changes

/-- A session was opened and closed, and then another was opened. -/
def WasReplacedBy (session other : Session) (changes : List GateChange) : Prop :=
  [.opened session, .closed session, .opened other].Sublist changes

/-- A session was opened and closed, and then the bind of another succeeded. -/
def GaveWayTo (session other : Session) (changes : List GateChange) : Prop :=
  [.opened session, .closed session, .opened other, .established other].Sublist changes

variable
  {session other : Session}
  {changes : List GateChange}

theorem wasClosed_of_opened
    (wasOpened : .opened session ∈ changes) :
    session.WasClosed (changes ++ [GateChange.closed session]) :=
  (List.singleton_sublist.mpr wasOpened).append (List.Sublist.refl [GateChange.closed session])

/-- What was closed is replaced by a later opening. -/
theorem WasClosed.replacedBy
    (wasClosed : session.WasClosed changes)
    (other : Session) :
    session.WasReplacedBy other (changes ++ [GateChange.opened other]) :=
  List.Sublist.append wasClosed (List.Sublist.refl [GateChange.opened other])

/-- What was replaced gives way once the bind of the other succeeds. -/
theorem WasReplacedBy.gaveWay
    (wasReplaced : session.WasReplacedBy other changes) :
    session.GaveWayTo other (changes ++ [GateChange.established other]) :=
  List.Sublist.append wasReplaced (List.Sublist.refl [GateChange.established other])

end Session

/-- Running binds and sessions of a gate as numbered sessions, each with its own life. -/
structure Gate.IsNumberedBy
    (changes : List GateChange)
    (binding : List Session)
    (gate : Gate) :
    Prop where
  keyed : gate.IsKeyed
  /-- Nothing has happened to a session that is not opened yet. -/
  numbered :
    ∀ change ∈ changes, ∀ session,
      change.session? = some session → session.serial < gate.opened
  /-- No session has two binds. -/
  distinct : binding.Nodup
  bindingOpened : ∀ session ∈ binding, .opened session ∈ changes
  bindingNotEstablished : ∀ session ∈ binding, .established session ∉ changes
  heldOpened :
    ∀ connection session,
      gate.sessions.get? connection = some session → .opened session ∈ changes
  heldNotClosed :
    ∀ connection session,
      gate.sessions.get? connection = some session → .closed session ∉ changes

namespace Gate.IsNumberedBy

variable
  {changes : List GateChange}
  {gate reached : Gate}
  {binding outer : List Session}
  {inner session : Session}

theorem empty :
    Gate.empty.IsNumberedBy [] [] where
  keyed := nofun
  numbered := List.forall_mem_nil _
  distinct := List.nodup_nil
  bindingOpened := List.forall_mem_nil _
  bindingNotEstablished := List.forall_mem_nil _
  heldOpened := nofun
  heldNotClosed := nofun

theorem isNew
    (numbered : gate.IsNumberedBy changes binding)
    (next : session.serial = gate.opened)
    {change : GateChange}
    (about : change.session? = some session) :
    change ∉ changes := by
  intro member
  have smaller := numbered.numbered change member session about
  rw [next] at smaller
  exact Nat.lt_irrefl _ smaller

/-- What is about no session and leaves the sessions alone can be passed over. -/
theorem quiet
    (numbered : gate.IsNumberedBy changes binding)
    {more : List GateChange}
    (aboutNone : ∀ change ∈ more, change.session? = none)
    (sameSessions : reached.sessions = gate.sessions)
    (sameCount : reached.opened = gate.opened) :
    reached.IsNumberedBy (changes ++ more) binding := by
  have earlier
      {change : GateChange}
      {session : Session}
      (about : change.session? = some session)
      (member : change ∈ changes ++ more) :
      change ∈ changes := by
    rcases List.mem_append.mp member with earlier | later
    · exact earlier
    · rw [aboutNone change later] at about
      cases about
  exact {
    keyed := by
      unfold IsKeyed
      rw [sameSessions]
      exact numbered.keyed
    numbered := by
      intro change member other about
      rw [sameCount]
      exact numbered.numbered change (earlier about member) other about
    distinct := numbered.distinct
    bindingOpened := by
      intro other member
      exact List.mem_append_left more (numbered.bindingOpened other member)
    bindingNotEstablished := by
      intro other member established
      exact numbered.bindingNotEstablished other member (earlier rfl established)
    heldOpened := by
      rw [sameSessions]
      intro connection other held
      exact List.mem_append_left more (numbered.heldOpened connection other held)
    heldNotClosed := by
      rw [sameSessions]
      intro connection other held closed
      exact numbered.heldNotClosed connection other held (earlier rfl closed) }

theorem opened
    (numbered : gate.IsNumberedBy changes binding)
    (next : session.serial = gate.opened) :
    (gate.addSession session).IsNumberedBy
      (changes ++ [.opened session]) (session :: binding) where
  keyed := numbered.keyed.addSession session
  numbered := by
    intro change member other about
    rcases List.mem_append.mp member with earlier | last
    · exact Nat.lt_succ_of_lt (numbered.numbered change earlier other about)
    · rw [List.mem_singleton.mp last] at about
      cases about
      exact next ▸ Nat.lt_succ_self gate.opened
  distinct := by
    refine List.nodup_cons.mpr ⟨?_, numbered.distinct⟩
    intro member
    exact numbered.isNew next rfl (numbered.bindingOpened session member)
  bindingOpened := by
    intro other member
    rcases List.mem_cons.mp member with isInner | isOuter
    · subst isInner
      exact List.mem_append_right _ List.mem_cons_self
    · exact List.mem_append_left _ (numbered.bindingOpened other isOuter)
  bindingNotEstablished := by
    intro other member established
    have earlier : .established other ∈ changes := by
      simpa using established
    rcases List.mem_cons.mp member with isInner | isOuter
    · subst isInner
      exact numbered.isNew next rfl earlier
    · exact numbered.bindingNotEstablished other isOuter earlier
  heldOpened := by
    intro connection other held
    rcases Gate.of_get?_addSession held with ⟨-, isAdded⟩ | ⟨-, heldBefore⟩
    · subst isAdded
      exact List.mem_append_right _ List.mem_cons_self
    · exact List.mem_append_left _ (numbered.heldOpened connection other heldBefore)
  heldNotClosed := by
    intro connection other held closed
    have earlier : .closed other ∈ changes := by
      simpa using closed
    rcases Gate.of_get?_addSession held with ⟨-, isAdded⟩ | ⟨-, heldBefore⟩
    · subst isAdded
      exact numbered.isNew next rfl earlier
    · exact numbered.heldNotClosed connection other heldBefore earlier

/-- A bind returns, and the gate keeps at most what it had. -/
theorem returned
    (numbered : gate.IsNumberedBy changes (inner :: outer))
    {change : GateChange}
    (about : change.session? = some inner)
    (notClosing : ∀ other, change ≠ .closed other)
    (reachedKeyed : reached.IsKeyed)
    (sameCount : reached.opened = gate.opened)
    (fewer :
      ∀ connection other,
        reached.sessions.get? connection = some other →
          gate.sessions.get? connection = some other) :
    reached.IsNumberedBy (changes ++ [change]) outer where
  keyed := reachedKeyed
  numbered := by
    intro other member session isAbout
    rw [sameCount]
    rcases List.mem_append.mp member with earlier | last
    · exact numbered.numbered other earlier session isAbout
    · rw [List.mem_singleton.mp last, about] at isAbout
      cases isAbout
      have wasOpened := numbered.bindingOpened inner List.mem_cons_self
      exact numbered.numbered _ wasOpened _ rfl
  distinct := (List.nodup_cons.mp numbered.distinct).2
  bindingOpened := by
    intro other member
    exact List.mem_append_left _
      (numbered.bindingOpened other (List.mem_cons_of_mem inner member))
  bindingNotEstablished := by
    intro other member established
    rcases List.mem_append.mp established with earlier | last
    · exact numbered.bindingNotEstablished other (List.mem_cons_of_mem inner member)
        earlier
    · rw [← List.mem_singleton.mp last] at about
      cases about
      exact (List.nodup_cons.mp numbered.distinct).1 member
  heldOpened := by
    intro connection other held
    exact List.mem_append_left _
      (numbered.heldOpened connection other (fewer connection other held))
  heldNotClosed := by
    intro connection other held closed
    rcases List.mem_append.mp closed with earlier | last
    · exact numbered.heldNotClosed connection other (fewer connection other held) earlier
    · exact notClosing other (List.mem_singleton.mp last).symm

theorem closed
    (numbered : gate.IsNumberedBy changes binding)
    (found : gate.sessions.get? session.connection = some session) :
    (gate.dropSession session.connection).IsNumberedBy
      (changes ++ [.closed session]) binding where
  keyed := numbered.keyed.dropSession session.connection
  numbered := by
    intro change member other about
    rcases List.mem_append.mp member with earlier | last
    · exact numbered.numbered change earlier other about
    · rw [List.mem_singleton.mp last] at about
      cases about
      exact numbered.numbered _ (numbered.heldOpened _ session found) _ rfl
  distinct := numbered.distinct
  bindingOpened := by
    intro other member
    exact List.mem_append_left _ (numbered.bindingOpened other member)
  bindingNotEstablished := by
    intro other member established
    exact numbered.bindingNotEstablished other member (by simpa using established)
  heldOpened := by
    intro connection other held
    have heldBefore := (Gate.of_get?_dropSession held).2
    exact List.mem_append_left _ (numbered.heldOpened connection other heldBefore)
  heldNotClosed := by
    intro connection other held closed
    obtain ⟨different, heldBefore⟩ := Gate.of_get?_dropSession held
    rcases List.mem_append.mp closed with earlier | last
    · exact numbered.heldNotClosed connection other heldBefore earlier
    · have same : other = session := by
        simpa using List.mem_singleton.mp last
      subst same
      exact different (numbered.keyed connection other heldBefore)

end Gate.IsNumberedBy

/-- What happened to the sessions of running binds while they were running. -/
structure Gate.IsNestedBy
    (changes : List GateChange)
    (binding : List Session)
    (gate : Gate) :
    Prop where
  /-- The session of a running bind leaves the gate only when it is closed. -/
  heldOrClosed :
    ∀ session ∈ binding,
      gate.sessions.get? session.connection = some session ∨
        session.WasClosed changes
  /-- A bind runs inside another one of its connection only once that one is closed. -/
  nested :
    binding.Pairwise fun inner outer =>
      inner.connection = outer.connection → outer.WasClosed changes
  /-- What the gate has in place of the session of a running bind was bound meanwhile. -/
  replaced :
    ∀ session ∈ binding, ∀ other,
      gate.sessions.get? session.connection = some other →
        other ≠ session →
          session.WasReplacedBy other changes ∧
            (.established other ∈ changes → session.GaveWayTo other changes)

namespace Gate.IsNestedBy

variable
  {changes : List GateChange}
  {gate reached : Gate}
  {binding outer : List Session}
  {inner session : Session}

theorem empty :
    Gate.empty.IsNestedBy [] [] where
  heldOrClosed := List.forall_mem_nil _
  nested := List.Pairwise.nil
  replaced := List.forall_mem_nil _

/-- What is about no session and leaves the sessions alone can be passed over. -/
theorem quiet
    (nested : gate.IsNestedBy changes binding)
    {more : List GateChange}
    (aboutNone : ∀ change ∈ more, change.session? = none)
    (sameSessions : reached.sessions = gate.sessions) :
    reached.IsNestedBy (changes ++ more) binding where
  heldOrClosed := by
    rw [sameSessions]
    intro other member
    exact (nested.heldOrClosed other member).imp_right fun closed =>
      List.sublist_append_of_sublist_left closed
  nested := by
    apply nested.nested.imp
    intro inner outer closed sameConnection
    exact List.sublist_append_of_sublist_left (closed sameConnection)
  replaced := by
    rw [sameSessions]
    intro session member other held different
    obtain ⟨replaced, gaveWay⟩ := nested.replaced session member other held different
    refine ⟨List.sublist_append_of_sublist_left replaced, ?_⟩
    intro established
    rcases List.mem_append.mp established with earlier | later
    · exact List.sublist_append_of_sublist_left (gaveWay earlier)
    · cases aboutNone _ later

theorem wasClosed_of_absent
    (nested : gate.IsNestedBy changes binding)
    (member : session ∈ binding)
    (absent : gate.sessions.get? session.connection = none) :
    session.WasClosed changes := by
  rcases nested.heldOrClosed session member with held | closed
  · rw [absent] at held
    cases held
  · exact closed

theorem opened
    (nested : gate.IsNestedBy changes binding)
    (numbered : gate.IsNumberedBy changes binding)
    (absent : gate.sessions.get? session.connection = none)
    (next : session.serial = gate.opened) :
    (gate.addSession session).IsNestedBy
      (changes ++ [.opened session]) (session :: binding) := by
  have outerClosed
      {other : Session}
      (member : other ∈ binding)
      (sameConnection : session.connection = other.connection) :
      other.WasClosed changes := by
    rw [sameConnection] at absent
    exact nested.wasClosed_of_absent member absent
  exact {
    heldOrClosed := by
      intro other member
      rcases List.mem_cons.mp member with isInner | isOuter
      · subst isInner
        exact .inl (by simp [Gate.get?_addSession])
      · by_cases sameConnection : session.connection = other.connection
        · exact .inr
            (List.sublist_append_of_sublist_left (outerClosed isOuter sameConnection))
        · rw [Gate.get?_addSession, if_neg sameConnection]
          exact (nested.heldOrClosed other isOuter).imp_right fun closed =>
            List.sublist_append_of_sublist_left closed
    nested := by
      refine List.pairwise_cons.mpr ⟨?_, ?_⟩
      · intro other member sameConnection
        exact List.sublist_append_of_sublist_left (outerClosed member sameConnection)
      · apply nested.nested.imp
        intro inner outer closed sameConnection
        exact List.sublist_append_of_sublist_left (closed sameConnection)
    replaced := by
      intro bound member other held different
      rcases Gate.of_get?_addSession held with
        ⟨sameConnection, isAdded⟩ | ⟨otherConnection, heldBefore⟩
      · subst isAdded
        have isOuter : bound ∈ binding := by
          rcases List.mem_cons.mp member with isInner | isOuter
          · exact absurd isInner.symm different
          · exact isOuter
        refine ⟨(outerClosed isOuter sameConnection).replacedBy other, ?_⟩
        intro established
        have earlier : .established other ∈ changes := by
          simpa using established
        exact absurd earlier (numbered.isNew next rfl)
      · have isOuter : bound ∈ binding := by
          rcases List.mem_cons.mp member with isInner | isOuter
          · exact absurd (congrArg Session.connection isInner.symm) otherConnection
          · exact isOuter
        obtain ⟨replaced, gaveWay⟩ :=
          nested.replaced bound isOuter other heldBefore different
        refine ⟨List.sublist_append_of_sublist_left replaced, ?_⟩
        intro established
        have earlier : .established other ∈ changes := by
          simpa using established
        exact List.sublist_append_of_sublist_left (gaveWay earlier) }

/-- A bind returns, and the gate keeps what it had of other connections. -/
theorem returned
    (nested : gate.IsNestedBy changes (inner :: outer))
    (change : GateChange)
    (fewer :
      ∀ connection other,
        reached.sessions.get? connection = some other →
          gate.sessions.get? connection = some other)
    (kept :
      ∀ connection other,
        inner.connection ≠ connection →
          gate.sessions.get? connection = some other →
            reached.sessions.get? connection = some other) :
    reached.IsNestedBy (changes ++ [change]) outer where
  heldOrClosed := by
    intro other member
    by_cases sameConnection : inner.connection = other.connection
    · have closed := List.rel_of_pairwise_cons nested.nested member sameConnection
      exact .inr (List.sublist_append_of_sublist_left closed)
    · rcases nested.heldOrClosed other (List.mem_cons_of_mem inner member) with
        held | closed
      · exact .inl (kept _ other sameConnection held)
      · exact .inr (List.sublist_append_of_sublist_left closed)
  nested := by
    apply (List.Pairwise.of_cons nested.nested).imp
    intro within around closed sameConnection
    exact List.sublist_append_of_sublist_left (closed sameConnection)
  replaced := by
    intro session member other held different
    obtain ⟨replaced, gaveWay⟩ :=
      nested.replaced session (List.mem_cons_of_mem inner member) other
        (fewer _ other held) different
    refine ⟨List.sublist_append_of_sublist_left replaced, ?_⟩
    intro established
    rcases List.mem_append.mp established with earlier | last
    · exact List.sublist_append_of_sublist_left (gaveWay earlier)
    · rw [← List.mem_singleton.mp last]
      exact replaced.gaveWay

/-- An unbind closes a session, be it that of a running bind or another. -/
theorem closed
    (nested : gate.IsNestedBy changes binding)
    (numbered : gate.IsNumberedBy changes binding)
    (found : gate.sessions.get? session.connection = some session) :
    (gate.dropSession session.connection).IsNestedBy
      (changes ++ [.closed session]) binding where
  heldOrClosed := by
    intro other member
    rcases nested.heldOrClosed other member with held | closed
    · by_cases sameConnection : session.connection = other.connection
      · right
        rw [← sameConnection, found] at held
        cases held
        exact Session.wasClosed_of_opened (numbered.bindingOpened session member)
      · left
        rw [Gate.get?_dropSession, if_neg sameConnection]
        exact held
    · exact .inr (List.sublist_append_of_sublist_left closed)
  nested := by
    apply nested.nested.imp
    intro inner outer closed sameConnection
    exact List.sublist_append_of_sublist_left (closed sameConnection)
  replaced := by
    intro bound member other held different
    have heldBefore := (Gate.of_get?_dropSession held).2
    obtain ⟨replaced, gaveWay⟩ := nested.replaced bound member other heldBefore different
    refine ⟨List.sublist_append_of_sublist_left replaced, ?_⟩
    intro established
    have earlier : .established other ∈ changes := by
      simpa using established
    exact List.sublist_append_of_sublist_left (gaveWay earlier)

end Gate.IsNestedBy

namespace Moment

/-- The sessions of the binds that have not returned yet, innermost first. -/
def binding (moment : Moment) : List Session :=
  moment.pending.map PendingBind.session

/-- What is carried along a run. -/
structure IsAccountedFor (past : List (Entry ρ)) (moment : Moment) : Prop where
  numbered : moment.gate.IsNumberedBy (GateChange.ofTrace past) moment.binding
  nested : moment.gate.IsNestedBy (GateChange.ofTrace past) moment.binding

end Moment

namespace Moment.IsAccountedFor

variable
  {manners : Manners}
  {past : List (Entry ρ)}
  {before after : Moment}
  {entry : Entry ρ}

theorem empty :
    Moment.IsAccountedFor ([] : List (Entry ρ)) ⟨Gate.empty, [], none⟩ where
  numbered := .empty
  nested := .empty

/-- Entries about no session can be passed over. -/
theorem quiet
    (accounted : before.IsAccountedFor past)
    (aboutNone : ∀ change ∈ GateChange.ofTrace [entry], change.session? = none)
    (sameSessions : after.gate.sessions = before.gate.sessions)
    (sameCount : after.gate.opened = before.gate.opened)
    (sameBinding : after.binding = before.binding) :
    after.IsAccountedFor (past ++ [entry]) where
  numbered := by
    rw [GateChange.ofTrace_append, sameBinding]
    exact accounted.numbered.quiet aboutNone sameSessions sameCount
  nested := by
    rw [GateChange.ofTrace_append, sameBinding]
    exact accounted.nested.quiet aboutNone sameSessions

/-- Every entry of a trace goes on with the account. -/
theorem step
    (accounted : before.IsAccountedFor past)
    (step : Step manners before entry after) :
    after.IsAccountedFor (past ++ [entry]) := by
  have numbered := accounted.numbered
  have nested := accounted.nested
  cases step with
  | apart isApart =>
      refine accounted.quiet ?_ rfl rfl rfl
      cases entry with
      | gate change =>
          simp [Entry.isApart] at isApart
      | _ =>
          exact List.forall_mem_nil _
  | registered written =>
      refine accounted.quiet ?_ rfl rfl rfl
      intro change member
      rw [List.mem_singleton.mp member]
      rfl
  | opened permitted absent known next =>
      exact {
        numbered := by
          rw [GateChange.ofTrace_append]
          exact numbered.opened next
        nested := by
          rw [GateChange.ofTrace_append]
          exact nested.opened numbered absent next }
  | connected handle =>
      exact accounted.quiet (List.forall_mem_nil _) rfl rfl rfl
  | established =>
      exact {
        numbered := by
          rw [GateChange.ofTrace_append]
          exact numbered.returned rfl (by simp) numbered.keyed rfl fun _ _ held => held
        nested := by
          rw [GateChange.ofTrace_append]
          exact nested.returned _ (fun _ _ held => held) (fun _ _ _ held => held) }
  | @withdrawn gate outer inner =>
      have fewer
          (connection : ConnectionId)
          (other : Session)
          (held :
            (gate.dropSession inner.session.connection).sessions.get? connection =
              some other) :
          gate.sessions.get? connection = some other :=
        (Gate.of_get?_dropSession held).2
      have kept
          (connection : ConnectionId)
          (other : Session)
          (different : inner.session.connection ≠ connection)
          (held : gate.sessions.get? connection = some other) :
          (gate.dropSession inner.session.connection).sessions.get? connection =
            some other := by
        rw [Gate.get?_dropSession, if_neg different]
        exact held
      exact {
        numbered := by
          rw [GateChange.ofTrace_append]
          exact numbered.returned rfl (by simp) (numbered.keyed.dropSession _) rfl fewer
        nested := by
          rw [GateChange.ofTrace_append]
          exact nested.returned _ fewer kept }
  | abandoned permitted =>
      exact {
        numbered := by
          rw [GateChange.ofTrace_append]
          exact numbered.returned rfl (by simp) numbered.keyed rfl fun _ _ held => held
        nested := by
          rw [GateChange.ofTrace_append]
          exact nested.returned _ (fun _ _ held => held) (fun _ _ _ held => held) }
  | closed permitted found =>
      exact {
        numbered := by
          rw [GateChange.ofTrace_append]
          exact numbered.closed found
        nested := by
          rw [GateChange.ofTrace_append]
          exact nested.closed numbered found }
  | disconnected =>
      exact accounted.quiet (List.forall_mem_nil _) rfl rfl rfl

end Moment.IsAccountedFor

/-- A session that was opened and has no running bind gets none. -/
theorem Step.not_established
    {manners : Manners}
    {before after : Moment}
    {entry : Entry ρ}
    (step : Step manners before entry after)
    {session : Session}
    (wasOpened : session.serial < before.gate.opened)
    (notBinding : session ∉ before.binding) :
    entry ≠ .gate (.established session) ∧
      session.serial < after.gate.opened ∧
      session ∉ after.binding := by
  cases step with
  | apart isApart =>
      refine ⟨?_, wasOpened, notBinding⟩
      intro same
      rw [same] at isApart
      simp [Entry.isApart] at isApart
  | opened permitted absent known next =>
      refine ⟨by simp, Nat.lt_succ_of_lt wasOpened, ?_⟩
      intro member
      rcases List.mem_cons.mp member with isOpened | isOuter
      · rw [isOpened] at wasOpened
        exact absurd wasOpened (next ▸ Nat.lt_irrefl _)
      · exact notBinding isOuter
  | @established gate outer established =>
      refine ⟨?_, wasOpened, fun member => notBinding (List.mem_cons_of_mem _ member)⟩
      intro same
      cases same
      exact notBinding List.mem_cons_self
  | withdrawn inner =>
      exact ⟨by simp, wasOpened, fun member => notBinding (List.mem_cons_of_mem _ member)⟩
  | abandoned permitted =>
      exact ⟨by simp, wasOpened, fun member => notBinding (List.mem_cons_of_mem _ member)⟩
  | _ =>
      exact ⟨by simp, wasOpened, notBinding⟩

/-- A session that was opened and has no running bind will not be established. -/
theorem Path.not_established
    {manners : Manners}
    {before after : Moment}
    {trace : List (Entry ρ)}
    (path : Path manners before trace after)
    {session : Session}
    (wasOpened : session.serial < before.gate.opened)
    (notBinding : session ∉ before.binding) :
    .gate (.established session) ∉ trace := by
  induction path with
  | nil moment =>
      exact List.not_mem_nil
  | cons head tail inductionHypothesis =>
      obtain ⟨notNow, stillOpened, stillNotBinding⟩ :=
        head.not_established wasOpened notBinding
      intro member
      rcases List.mem_cons.mp member with isHead | isLater
      · exact notNow isHead.symm
      · exact inductionHypothesis stillOpened stillNotBinding isLater

end PlatformDouble
