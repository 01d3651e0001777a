import PlatformDouble.Proofs.Host.Scripts
import PlatformDouble.Proofs.Host.SideBySide
import PlatformDouble.World

namespace PlatformDouble

/-!
# Calls that set levels

Between two runs that differ only in the levels that are set in them, before, between or
during requests, nothing differs but what is written and which levels are reported.

The two runs are compared as they go.  What they share is the host; their scripts may
differ in calls that set levels, of which there may be more or fewer, even where one of
two scripts has ended.  So the turns left need not be as many in both, and requests may
nest to different depths.  The induction is on the turns that are left in both together:
whoever takes a turn, on either side, leaves fewer.
-/

open Logging (LevelChoice)

/-- Whether a request sets a level, or only warns that there is no such level. -/
def Request.setsLevel : Request → Bool
  | reports (.setLevel level _) => (LevelChoice.ofValue level).isOk
  | _ => false

/-- Whether an act does nothing but set a level. -/
def Act.setsLevel : Act → Bool
  | raise _ => false
  | perform request => request.setsLevel
  | attempt request => request.setsLevel

/-- All acts of a turn but those that set levels. -/
def Turn.withoutLevelCalls (turn : Turn) : Turn :=
  turn.filter fun act => !act.setsLevel

/-- All requests but those that set levels. -/
def Request.withoutLevelCalls (requests : List Request) : List Request :=
  requests.filter fun request => !request.setsLevel

/--
Casts that look the same and whose callbacks do the same at every call, but for setting
levels.  A script that has ended goes on with turns that do nothing.
-/
structure Cast.SameButLevelCalls (first second : Cast) : Prop where
  looksLike : first.LooksLike second
  turns :
    ∀ callback position,
      Turn.withoutLevelCalls ((first.script callback).getD position []) =
        Turn.withoutLevelCalls ((second.script callback).getD position [])

/-- Whether an action is one of a call that sets a level. -/
def LogAction.isOfLevelCall : LogAction → Bool
  | setLevel _ _ => true
  | record logger severity _ => logger == Logging.levelLogger && severity == .warning
  | _ => false

/-- What is left in a trace of a callback that sets a level. -/
inductive IsLevelCall : List (Entry Response) → Prop
  | performed
      {action : LogAction}
      (ofLevelCall : action.isOfLevelCall = true) :
      IsLevelCall [.log action, .event (.performed (.known .nothing))]
  | attempted
      {action : LogAction}
      (ofLevelCall : action.isOfLevelCall = true) :
      IsLevelCall [.log action, .event (.attempted (.ok (.known .nothing)))]

namespace Cast.SameButLevelCalls

variable {first second : Cast} (same : first.SameButLevelCalls second) (callback : Callback)

include same

/-- The turns that are taken are the same but for calls that set levels. -/
theorem withoutLevelCalls_takeTurn :
    Turn.withoutLevelCalls (first.takeTurn callback).1 =
      Turn.withoutLevelCalls (second.takeTurn callback).1 := by
  rw [takeTurn_fst, takeTurn_fst]
  exact same.turns callback 0

/-- So are those that are left. -/
theorem takeTurn :
    (first.takeTurn callback).2.SameButLevelCalls (second.takeTurn callback).2 where
  looksLike := {
    kind := fun service => by simpa using same.looksLike.kind service
    listens := fun connection => by simpa using same.looksLike.listens connection }
  turns other position := by
    rw [script_takeTurn, script_takeTurn]
    split
    · have later := same.turns other (position + 1)
      simpa [List.getD_eq_getElem?_getD, List.getElem?_tail] using later
    · exact same.turns other position

end Cast.SameButLevelCalls

namespace Stage

/-- What two stages have in common, and how many turns are left on either at most. -/
structure AlikeWithin (depth depthToo : Nat) (first second : Stage) : Prop where
  host : first.host = second.host
  cast : first.cast.SameButLevelCalls second.cast
  turns : first.cast.turnsLeft ≤ depth
  turnsToo : second.cast.turnsLeft ≤ depthToo

variable {depth depthToo : Nat}

theorem AlikeWithin.mono
    {first second : Stage}
    {larger largerToo : Nat}
    (alike : AlikeWithin depth depthToo first second)
    (fewer : depth ≤ larger)
    (fewerToo : depthToo ≤ largerToo) :
    AlikeWithin larger largerToo first second where
  host := alike.host
  cast := alike.cast
  turns := Nat.le_trans alike.turns fewer
  turnsToo := Nat.le_trans alike.turnsToo fewerToo

theorem isLikeness_alikeWithin :
    IsLikeness (AlikeWithin depth depthToo) where
  host := {
    get := fun _ _ alike => alike.host
    put := fun _ _ _ alike => {
      host := rfl
      cast := alike.cast
      turns := alike.turns
      turnsToo := alike.turnsToo } }
  cast _ _ alike := alike.cast.looksLike

variable [Record.Validator]

/-- Play a callback whose requests may nest less deep than a depth. -/
def playWithin : Nat → Callback → Step Unit
  | 0 => fun _ => Traced.done ()
  | depth + 1 => fun callback => do
      let turn ← takeTurn callback
      playTurn (performWithin depth) turn

theorem performWithin_eq
    (depth : Nat) :
    performWithin depth = performWith (playWithin depth) := by
  cases depth <;> rfl

/-- A call that sets a level is a line for the log, and its answer says nothing. -/
theorem performWithin_of_setsLevel
    {request : Request}
    (sets : request.setsLevel = true)
    (depth : Nat) :
    ∃ action : LogAction,
      action.isOfLevelCall = true ∧
        ∀ stage,
          performWithin depth request stage =
            { trace := [.log action], state := stage, result := .ok (.known .nothing) } := by
  rw [performWithin_eq]
  cases request with
  | reports request =>
      cases request with
      | setLevel level gate =>
          cases chosen : LevelChoice.ofValue level with
          | error fault =>
              simp [Request.setsLevel, chosen, Except.isOk, Except.toBool] at sets
          | ok choice =>
              cases choice with
              | level level =>
                  refine ⟨.setLevel (ReportRequest.levelTarget gate) level, rfl, fun stage => ?_⟩
                  simp [performWith, ReportRequest.answer, Logging.setLevel, chosen,
                    Traced.logged, Traced.retrace, Traced.emit, bind, Traced.andThen, pure,
                    Traced.done]
              | unknownWord shown =>
                  refine ⟨.record Logging.levelLogger .warning
                    ("Ignoring unknown log level: " ++ shown), rfl, fun stage => ?_⟩
                  simp [performWith, ReportRequest.answer, Logging.setLevel, chosen,
                    Traced.logged, Traced.retrace, Traced.log, Traced.emit, bind,
                    Traced.andThen, pure, Traced.done]
      | _ =>
          cases sets
  | _ =>
      cases sets

/-- An act that sets a level leaves a piece in the trace, and the rest of its turn to be played. -/
theorem playTurn_of_setsLevel
    {act : Act}
    (sets : act.setsLevel = true)
    (rest : Turn)
    (depth : Nat) :
    ∃ piece,
      IsLevelCall piece ∧
        ∀ stage,
          playTurn (performWithin depth) (act :: rest) stage =
            { playTurn (performWithin depth) rest stage with
              trace := piece ++ (playTurn (performWithin depth) rest stage).trace } := by
  cases act with
  | raise exception =>
      cases sets
  | perform request =>
      obtain ⟨action, ofLevelCall, performs⟩ := performWithin_of_setsLevel sets depth
      refine ⟨_, .performed ofLevelCall, fun stage => ?_⟩
      simp [playTurn, bind, Traced.andThen, performs, Traced.observe, Traced.emit]
  | attempt request =>
      obtain ⟨action, ofLevelCall, performs⟩ := performWithin_of_setsLevel sets depth
      refine ⟨_, .attempted ofLevelCall, fun stage => ?_⟩
      simp [playTurn, bind, Traced.andThen, performs, Traced.attempt, Traced.observe,
        Traced.emit]

/-- Turns go alike that are the same but for acts that set levels. -/
theorem playTurn_goAlike
    {alike : Stage → Stage → Prop}
    (performs :
      ∀ request,
        Traced.GoAlike IsLevelCall alike
          (performWithin depth request)
          (performWithin depthToo request))
    {turn turnToo : Turn}
    (same : Turn.withoutLevelCalls turn = Turn.withoutLevelCalls turnToo) :
    Traced.GoAlike IsLevelCall alike
      (playTurn (performWithin depth) turn)
      (playTurn (performWithin depthToo) turnToo) := by
  have together := SameBut.of_filter_eq same
  clear same
  induction together with
  | nil =>
      exact .done ()
  | cons act rest restsGoAlike =>
      cases act with
      | raise exception =>
          exact .fail _
      | perform request =>
          refine .bind (performs request) fun answer => ?_
          exact .bind (.emit _) fun _ => restsGoAlike
      | attempt request =>
          refine .bind (.attempt (performs request)) fun outcome => ?_
          exact .bind (.emit _) fun _ => restsGoAlike
  | @left _ rest _ isExtra _ restsGoAlike =>
      obtain ⟨act, rfl, notOther⟩ := isExtra
      obtain ⟨piece, isLevelCall, plays⟩ :=
        playTurn_of_setsLevel (by simpa using notOther) rest depth
      intro stage other stageAlike
      have outcomes := restsGoAlike stage other stageAlike
      rw [List.singleton_append, plays]
      exact ⟨.left isLevelCall outcomes.trace, outcomes.state, outcomes.result⟩
  | @right _ _ rest isExtra _ restsGoAlike =>
      obtain ⟨act, rfl, notOther⟩ := isExtra
      obtain ⟨piece, isLevelCall, plays⟩ :=
        playTurn_of_setsLevel (by simpa using notOther) rest depthToo
      intro stage other stageAlike
      have outcomes := restsGoAlike stage other stageAlike
      rw [List.singleton_append, plays]
      exact ⟨.right isLevelCall outcomes.trace, outcomes.state, outcomes.result⟩

/-- A callback that is played takes a turn, after which fewer are left, or does nothing. -/
theorem exists_playWithin
    {stage : Stage}
    (turns : stage.cast.turnsLeft ≤ depth)
    (callback : Callback) :
    ∃ left ≤ depth,
      (stage.cast.takeTurn callback).2.turnsLeft ≤ left ∧
        (left = depth → (stage.cast.takeTurn callback).1 = []) ∧
          playWithin depth callback stage =
            playTurn (performWithin left) (stage.cast.takeTurn callback).1
              { stage with cast := (stage.cast.takeTurn callback).2 } := by
  rcases stage.cast.turnsLeft_takeTurn callback with none | fewer
  · refine ⟨depth, Nat.le_refl _, ?_, fun _ => ?_, ?_⟩
    · rw [none]
      exact turns
    · rw [none]
    · rw [none]
      cases depth with
      | zero =>
          rfl
      | succ depth =>
          simp only [playWithin, Stage.takeTurn, bind, Traced.andThen, Traced.current,
            Traced.update, pure, Traced.done, none, playTurn]
          rfl
  · obtain ⟨left, rfl⟩ : ∃ left, depth = left + 1 :=
      ⟨depth - 1, by omega⟩
    refine ⟨left, Nat.le_succ left, by omega, fun same => by omega, ?_⟩
    simp only [playWithin, Stage.takeTurn, bind, Traced.andThen, Traced.current,
      Traced.update, pure, Traced.done]
    rfl

/-- Callbacks go alike if requests do for which fewer turns are left. -/
theorem playWithin_goAlike
    (performs :
      ∀ left leftToo,
        left + leftToo < depth + depthToo →
          ∀ request,
            Traced.GoAlike IsLevelCall (AlikeWithin left leftToo)
              (performWithin left request)
              (performWithin leftToo request))
    (callback : Callback) :
    Traced.GoAlike IsLevelCall (AlikeWithin depth depthToo)
      (playWithin depth callback)
      (playWithin depthToo callback) := by
  intro stage other alike
  obtain ⟨left, atMost, turns, unlessTaken, plays⟩ :=
    exists_playWithin alike.turns callback
  obtain ⟨leftToo, atMostToo, turnsToo, unlessTakenToo, playsToo⟩ :=
    exists_playWithin alike.turnsToo callback
  have taken :
      AlikeWithin left leftToo
        { stage with cast := (stage.cast.takeTurn callback).2 }
        { other with cast := (other.cast.takeTurn callback).2 } := {
    host := alike.host
    cast := alike.cast.takeTurn callback
    turns := turns
    turnsToo := turnsToo }
  rw [plays, playsToo]
  by_cases fewer : left + leftToo < depth + depthToo
  · have outcomes :=
      playTurn_goAlike (performs left leftToo fewer)
        (alike.cast.withoutLevelCalls_takeTurn callback) _ _ taken
    exact ⟨outcomes.trace, outcomes.state.mono atMost atMostToo, outcomes.result⟩
  · rw [unlessTaken (by omega), unlessTakenToo (by omega)]
    exact ⟨.nil, taken.mono atMost atMostToo, rfl⟩

/-- A request goes alike on two stages, however deep its callbacks may nest on either. -/
theorem performWithin_goAlike
    (depth depthToo : Nat)
    (request : Request) :
    Traced.GoAlike IsLevelCall (AlikeWithin depth depthToo)
      (performWithin depth request)
      (performWithin depthToo request) := by
  rw [performWithin_eq depth, performWithin_eq depthToo]
  refine performWith_goAlike isLikeness_alikeWithin (fun callback => ?_) request
  exact playWithin_goAlike
    (fun left leftToo _ => performWithin_goAlike left leftToo) callback
termination_by depth + depthToo

/-- What two stages have in common before a request and after it. -/
structure SameButLevelCalls (first second : Stage) : Prop where
  host : first.host = second.host
  cast : first.cast.SameButLevelCalls second.cast

theorem perform_goAlike
    (request : Request) :
    Traced.GoAlike IsLevelCall SameButLevelCalls (perform request) (perform request) := by
  intro stage other same
  have alike :
      AlikeWithin stage.cast.turnsLeft other.cast.turnsLeft stage other :=
    ⟨same.host, same.cast, Nat.le_refl _, Nat.le_refl _⟩
  have outcomes := performWithin_goAlike _ _ request stage other alike
  exact ⟨outcomes.trace, ⟨outcomes.state.host, outcomes.state.cast⟩, outcomes.result⟩

end Stage

end PlatformDouble
