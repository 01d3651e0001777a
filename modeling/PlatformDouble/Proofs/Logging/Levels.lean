import PlatformDouble.Logging.Basic
import PlatformDouble.Proofs.Traced.Keeps

namespace PlatformDouble

/-!
# Levels that stay

To write a record makes its logger known, at rank zero.  That gives no logger another
level, also where the new one stands between it and those above, as long as the name of
the new one does not end in a dot: a name is cut a second time at a dot right before the
first cut only if the first is not taken.
-/

namespace Logging

section Cuts

variable {isKnown : List Char → Bool} {rest : List Char}

/-- A character that is no dot is passed over. -/
theorem knownCuts_cons_of_ne
    {c : Char}
    (noDot : c ≠ '.') :
    knownCuts isKnown (c :: rest) = knownCuts isKnown rest := by
  cases rest with
  | nil =>
      rfl
  | cons next later =>
      rw [knownCuts, if_neg noDot]

/-- What is sought at the cuts of a name is found all the same if one more is known. -/
theorem find?_knownCuts_or
    {sought : List Char → Bool}
    {extra : List Char}
    (notSought : sought extra = false)
    (noDotLast : extra.head? ≠ some '.')
    (name : List Char) :
    (knownCuts (fun cut => isKnown cut || cut == extra) name).find? sought =
      (knownCuts isKnown name).find? sought := by
  -- By the recursion of the cuts for what was known before.
  fun_induction knownCuts isKnown name with
  | case1 =>
      rfl
  | case2 c =>
      rfl
  | case3 next rest isCut inductionHypothesis =>
      rw [knownCuts, if_pos rfl, isCut, Bool.true_or, if_pos rfl, List.find?_cons,
        List.find?_cons, inductionHypothesis]
  | case4 next rest notCut inductionHypothesis =>
      rw [knownCuts, if_pos rfl]
      by_cases isExtra : next :: rest = extra
      · -- The extra cut is not sought, and it hides none that comes after it.
        subst isExtra
        have noDot : next ≠ '.' := by
          rintro rfl
          exact noDotLast rfl
        rw [beq_self_eq_true, Bool.or_true, if_pos rfl, List.find?_cons, notSought,
          knownCuts_cons_of_ne noDot]
        exact inductionHypothesis
      · have notCutToo :
            ¬ (isKnown (next :: rest) || (next :: rest) == extra) = true := by
          simp [notCut, isExtra]
        rw [if_neg notCutToo]
        exact inductionHypothesis
  | case5 c next rest noDot inductionHypothesis =>
      rw [knownCuts_cons_of_ne noDot]
      exact inductionHypothesis

end Cuts

/-- No logger has another level, neither of its own nor from those above it. -/
structure SameLevels (first second : Logging) : Prop where
  own : ∀ logger, first.ownLevel logger = second.ownLevel logger
  effective : ∀ logger, first.effectiveLevel logger = second.effectiveLevel logger

namespace SameLevels

variable {first second third : Logging}

theorem refl
    (logging : Logging) :
    logging.SameLevels logging :=
  ⟨fun _ => rfl, fun _ => rfl⟩

theorem trans
    (same : first.SameLevels second)
    (sameToo : second.SameLevels third) :
    first.SameLevels third :=
  ⟨fun logger => (same.own logger).trans (sameToo.own logger),
    fun logger => (same.effective logger).trans (sameToo.effective logger)⟩

end SameLevels

variable {logging : Logging} {logger : String}

theorem isKnown_withLogger
    (unknown : logging.isKnown logger = false)
    (other : String) :
    (logging.withLogger logger).isKnown other =
      (logging.isKnown other || other == logger) := by
  have isNew : ¬ logging.isKnown logger = true := by
    rw [unknown]
    exact Bool.false_ne_true
  rw [withLogger, if_neg isNew]
  by_cases isLogger : logger = other
  · subst isLogger
    simp [isKnown, Table.contains]
  · have notLogger : ¬ other = logger := Ne.symm isLogger
    simp [isKnown, Table.contains, Table.get?_insert_of_ne, isLogger, notLogger]

theorem ownLevel_of_unknown
    (unknown : logging.isKnown logger = false) :
    logging.ownLevel logger = unsetLevel := by
  have absent : logging.levels.get? logger = none := by
    simpa [isKnown, Table.contains] using unknown
  rw [ownLevel, absent]
  rfl

/-- The own level of the logger with a reversed name. -/
def levelAt (logging : Logging) (cut : List Char) : Level :=
  logging.ownLevel (String.ofList cut.reverse)

/-- The effective level comes from the first cut that has a level. -/
theorem effectiveLevel_eq
    (logging : Logging)
    (logger : String) :
    logging.effectiveLevel logger =
      if (logging.ownLevel logger).rank != 0 then
        logging.ownLevel logger
      else
        (((knownCuts
              (fun cut => logging.isKnown (String.ofList cut.reverse))
              logger.toList.reverse).find?
            fun cut => (logging.levelAt cut).rank != 0).map logging.levelAt).getD
          fallbackLevel := by
  rw [effectiveLevel, ancestry, List.map_cons, List.find?_cons, loggersAbove, List.map_map,
    List.find?_map]
  cases (logging.ownLevel logger).rank != 0 <;> rfl

/-- Knowing a logger whose name does not end in a dot gives no logger another level. -/
theorem sameLevels_withLogger
    (logging : Logging)
    (noDotLast : logger.toList.getLast? ≠ some '.') :
    (logging.withLogger logger).SameLevels logging where
  own := ownLevel_withLogger logging logger
  effective other := by
    cases known : logging.isKnown logger with
    | true =>
        rw [withLogger, if_pos known]
    | false =>
        have sameOwn : (logging.withLogger logger).ownLevel = logging.ownLevel :=
          funext (ownLevel_withLogger logging logger)
        have sameAt : (logging.withLogger logger).levelAt = logging.levelAt :=
          funext fun cut => ownLevel_withLogger logging logger _
        have isExtra :
            (fun cut : List Char =>
                (logging.withLogger logger).isKnown (String.ofList cut.reverse)) =
              fun cut =>
                logging.isKnown (String.ofList cut.reverse) ||
                  cut == logger.toList.reverse := by
          funext cut
          rw [isKnown_withLogger known]
          congr 1
          rw [Bool.eq_iff_iff, beq_iff_eq, beq_iff_eq, ← String.toList_inj, String.toList_ofList,
            List.reverse_eq_iff]
        have notSought :
            ((logging.levelAt logger.toList.reverse).rank != 0) = false := by
          rw [levelAt, List.reverse_reverse, String.ofList_toList, ownLevel_of_unknown known]
          rfl
        rw [effectiveLevel_eq, effectiveLevel_eq, sameOwn, sameAt, isExtra,
          find?_knownCuts_or notSought]
        rwa [List.head?_reverse]

/-- A record of such a logger gives no logger another level either. -/
theorem sameLevels_after_record
    (logging : Logging)
    (noDotLast : logger.toList.getLast? ≠ some '.')
    (severity : Severity)
    (message : String) :
    (logging.after (.record logger severity message)).SameLevels logging :=
  -- What is decided at the record is no level.
  ⟨(sameLevels_withLogger logging noDotLast).own,
    (sameLevels_withLogger logging noDotLast).effective⟩

/-- To give a logger a level gives no other logger one. -/
theorem ownLevel_withLevel
    (logging : Logging)
    (logger : String)
    (level : Level)
    (other : String) :
    (logging.withLevel logger level).ownLevel other =
      if logger = other then level else logging.ownLevel other := by
  by_cases isLogger : logger = other
  · subst isLogger
    simp [withLevel, ownLevel]
  · simp [withLevel, ownLevel, Table.get?_insert_of_ne, isLogger]

/-- The state after actions, one after another. -/
def afterAll (logging : Logging) (actions : List LogAction) : Logging :=
  actions.foldl after logging

theorem afterAll_append
    (logging : Logging)
    (earlier later : List LogAction) :
    logging.afterAll (earlier ++ later) = (logging.afterAll earlier).afterAll later :=
  List.foldl_append

/-- From no state do these actions give a logger another level. -/
def LeaveLevels {σ : Type} (actions : List LogAction) (_ : σ) : Prop :=
  ∀ logging : Logging, (logging.afterAll actions).SameLevels logging

end Logging

namespace Traced

open Logging (LeaveLevels)

variable {σ τ α β : Type}

namespace Keeps

/-- Writing a record leaves levels. -/
theorem log_leaveLevels
    {logger : String}
    (noDotLast : logger.toList.getLast? ≠ some '.')
    (severity : Logging.Severity)
    (message : String) :
    Keeps LeaveLevels (Traced.log logger severity message : Traced LogAction σ Unit) := by
  intro past state leave logging
  show (logging.afterAll (past ++ [.record logger severity message])).SameLevels logging
  rw [Logging.afterAll_append]
  exact (Logging.sameLevels_after_record _ noDotLast severity message).trans (leave logging)

theorem within_leaveLevels
    {part : StatePart σ τ}
    {code : Traced LogAction τ α}
    (keeps : Keeps LeaveLevels code) :
    Keeps LeaveLevels (Traced.within part code) :=
  fun past state leave => keeps past (part.get state) leave

theorem leaveLevels_of_silent
    {code : Traced LogAction σ α}
    (silent : ∀ state, (code state).trace = []) :
    Keeps LeaveLevels code := by
  intro past state leave
  rw [silent, List.append_nil]
  exact leave

/-- A computation that leaves levels does so wherever it starts. -/
theorem sameLevels_afterAll
    {code : Traced LogAction σ α}
    (keeps : Keeps LeaveLevels code)
    (logging : Logging)
    (state : σ) :
    (logging.afterAll (code state).trace).SameLevels logging := by
  have leaves := keeps [] state fun _ => Logging.SameLevels.refl _
  exact leaves logging

/-- What goes on after a computation leaves the levels that it led to. -/
theorem sameLevels_afterAll_bind
    {first : Traced LogAction σ α}
    {next : α → Traced LogAction σ β}
    (continues : ∀ answer, Keeps LeaveLevels (next answer))
    (logging : Logging)
    (state : σ) :
    (logging.afterAll ((first >>= next) state).trace).SameLevels
      (logging.afterAll (first state).trace) := by
  cases ended : (first state).result with
  | ok answer =>
      rw [bind_of_ok ended, Logging.afterAll_append]
      exact (continues answer).sameLevels_afterAll _ _
  | error fault =>
      rw [bind_of_error ended]
      exact Logging.SameLevels.refl _

end Keeps

end Traced

end PlatformDouble
