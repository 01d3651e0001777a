import PlatformDouble.Proofs.Config.Validity
import PlatformDouble.Proofs.Host.RunUpkeep

namespace PlatformDouble

/-!
# Fixed answers

A holder takes its fixed answers from settings when it is made, and keeps them.  It can
be made unless the locale it is to report is null, which settings hold only where null
was set last.  Whatever becomes of the settings, of the environment and of the services
afterwards, whoever asks, in a callback or outside, is told the same.
-/

open Config
open Context (Holder)

/-- What is fixed about a holder when it is made. -/
structure FixedAnswers where
  locale : String
  opPackage : Value
  headset : Value
  subscription : Value

namespace FixedAnswers

/-- All fixed answers, as they are told together. -/
def reply (fixed : FixedAnswers) : Reply :=
  .fixedAnswers fixed.locale fixed.opPackage fixed.headset fixed.subscription

end FixedAnswers

/-- The fixed answers of a holder. -/
def Context.Holder.fixedAnswers (held : Holder) : FixedAnswers where
  locale := held.configuration.locale
  opPackage := held.opPackage
  headset := held.headset
  subscription := held.subscription

namespace Reply

/-- What a reply tells of fixed answers, together or through a manager, is what they are. -/
def AgreesWith (fixed : FixedAnswers) : Reply → Prop
  | fixedAnswers locale opPackage headset subscription =>
      FixedAnswers.mk locale opPackage headset subscription = fixed
  | systemService (.audio headset) => headset = fixed.headset
  | systemService (.telephony subscription) => subscription = fixed.subscription
  | _ => True

/-- Whether a reply may tell of a fixed answer. -/
def mayTellFixed : Reply → Bool
  | fixedAnswers _ _ _ _ => true
  | systemService _ => true
  | _ => false

theorem agreesWith_of_not_mayTell
    (fixed : FixedAnswers)
    {reply : Reply}
    (tellsNone : reply.mayTellFixed = false) :
    reply.AgreesWith fixed := by
  cases reply with
  | fixedAnswers locale opPackage headset subscription =>
      cases tellsNone
  | systemService service =>
      cases tellsNone
  | _ =>
      trivial

end Reply

namespace Response

/-- A response agrees with fixed answers if its reply does; nothing about logging is fixed. -/
def AgreesWith (fixed : FixedAnswers) : Response → Prop
  | known reply => reply.AgreesWith fixed
  | inquiry _ => True

/-- Whether a response may tell of a fixed answer. -/
def mayTellFixed : Response → Bool
  | known reply => reply.mayTellFixed
  | inquiry _ => false

theorem agreesWith_of_not_mayTell
    (fixed : FixedAnswers)
    {response : Response}
    (tellsNone : response.mayTellFixed = false) :
    response.AgreesWith fixed := by
  cases response with
  | known reply =>
      exact reply.agreesWith_of_not_mayTell fixed tellsNone
  | inquiry question =>
      trivial

end Response

/-- What a computation answers has a property, whatever it starts from. -/
def Traced.AnswersOnly {ε σ α : Type} (good : α → Prop) (code : Traced ε σ α) : Prop :=
  ∀ state answer, (code state).result = .ok answer → good answer

namespace Traced.AnswersOnly

variable {ε σ α β : Type} {good : β → Prop}

theorem done
    {answer : β}
    (isGood : good answer) :
    AnswersOnly good (Traced.done answer : Traced ε σ β) := by
  rintro state _ ⟨⟩
  exact isGood

theorem fail
    (fault : Fault) :
    AnswersOnly good (Traced.fail fault : Traced ε σ β) := by
  rintro state answer ⟨⟩

theorem bind_of_answers
    {fine : α → Prop}
    {first : Traced ε σ α}
    {next : α → Traced ε σ β}
    (leads : AnswersOnly fine first)
    (continues : ∀ answer, fine answer → AnswersOnly good (next answer)) :
    AnswersOnly good (first >>= next) := by
  intro state answer answers
  obtain ⟨middle, led, continued, -⟩ := Traced.of_bind_ok answers
  exact continues middle (leads state middle led) _ answer continued

theorem bind
    {first : Traced ε σ α}
    {next : α → Traced ε σ β}
    (continues : ∀ answer, AnswersOnly good (next answer)) :
    AnswersOnly good (first >>= next) :=
  bind_of_answers (fun _ _ _ => trivial) fun answer _ => continues answer

end Traced.AnswersOnly

/-- A result that is made of another one, if that is an answer. -/
theorem Except.of_map_eq_ok
    {α β : Type}
    {result : Except Fault α}
    {change : α → β}
    {answer : β}
    (answers : result.map change = .ok answer) :
    ∃ given, result = .ok given ∧ change given = answer := by
  cases result with
  | error fault =>
      cases answers
  | ok given =>
      cases answers
      exact ⟨given, rfl, rfl⟩

/-- Requests about records tell no fixed answers. -/
theorem RecordRequest.mayTellFixed_answer
    [Record.Validator]
    {request : RecordRequest}
    {reply : Reply}
    (answers : request.answer = .ok reply) :
    reply.mayTellFixed = false := by
  cases request with
  | spell given =>
      simp only [answer] at answers
      split at answers <;> cases answers
      rfl
  | read text =>
      obtain ⟨_, -, rfl⟩ := Except.of_map_eq_ok answers
      rfl
  | build kind fields =>
      obtain ⟨_, -, rfl⟩ := Except.of_map_eq_ok answers
      rfl
  | assign kind fields field value =>
      simp only [answer] at answers
      cases built : checked (AnyRecord.build fields kind) with
      | error fault =>
          rw [built] at answers
          cases answers
      | ok record =>
          rw [built] at answers
          obtain ⟨_, -, rfl⟩ := Except.of_map_eq_ok answers
          rfl
  | compare firstKind first secondKind second =>
      simp only [answer] at answers
      cases built : checked (AnyRecord.build first firstKind) with
      | error fault =>
          rw [built] at answers
          cases answers
      | ok record =>
          rw [built] at answers
          obtain ⟨_, -, rfl⟩ := Except.of_map_eq_ok answers
          rfl
  | distinct components =>
      obtain ⟨_, -, rfl⟩ := Except.of_map_eq_ok answers
      rfl
  | intentForComponent given =>
      obtain ⟨_, -, rfl⟩ := Except.of_map_eq_ok answers
      rfl
  | intentForAction action =>
      obtain ⟨_, -, rfl⟩ := Except.of_map_eq_ok answers
      rfl
  | constants =>
      cases answers
      rfl

/-- Nor do requests about reports. -/
theorem ReportRequest.answersOnly
    {σ : Type}
    (request : ReportRequest) :
    Traced.AnswersOnly (fun response => response.mayTellFixed = false)
      (request.answer : Traced (Entry Response) σ Response) := by
  cases request with
  | rootLevel =>
      exact .done rfl
  | _ =>
      exact .bind fun _ => .done rfl

/-- Nor do requests about settings. -/
theorem ConfigRequest.answersOnly
    (request : ConfigRequest) :
    Traced.AnswersOnly (fun response => response.mayTellFixed = false) request.answer := by
  cases request <;>
    repeat first | exact .done rfl | refine .bind fun _ => ?_

/-- Whether a request asks a holder for fixed answers, together or for a manager. -/
def ContextRequest.asksFixed : ContextRequest → Bool
  | fixedAnswers => true
  | systemService _ => true
  | _ => false

/-- Whether a request asks a holder for fixed answers. -/
def Request.asksFixed : Request → Bool
  | context request => request.asksFixed
  | _ => false

namespace ContextRequest

variable [Record.Validator]

/-- Of requests to a holder only those two do. -/
theorem answersOnly
    {request : ContextRequest}
    (asksOther : request.asksFixed = false) :
    Traced.AnswersOnly (fun reply => reply.mayTellFixed = false) request.answer := by
  cases request with
  | fixedAnswers =>
      cases asksOther
  | systemService name =>
      cases asksOther
  | advanceCursor name =>
      intro host reply answers
      change (advance name host).result = .ok reply at answers
      cases found : host.cursors.get? name with
      | none =>
          have fails : advance name host = Traced.fail (.unknownName name) host := by
            simp [advance, found]
          rw [fails] at answers
          cases answers
      | some opened =>
          rw [advance_of_opened found] at answers
          obtain ⟨_, -, rfl⟩ := Except.of_map_eq_ok answers
          rfl
  | _ =>
      -- The last step of each makes the reply, and makes it of another kind.
      repeat first | exact .done rfl | exact .fail _ | refine .bind fun _ => ?_

/-- A current holder tells its fixed answers, and nothing changes. -/
theorem answer_fixedAnswers
    {host : Host}
    {held : Holder}
    (isCurrent : host.current = some held) :
    answer .fixedAnswers host =
      { trace := [], state := host, result := .ok held.fixedAnswers.reply } :=
  currentHolder_bind_of_some isCurrent _

/-- Its managers tell them as well. -/
theorem agreesWith_systemService
    {name : Value}
    {host : Host}
    {held : Holder}
    (isCurrent : host.current = some held)
    {reply : Reply}
    (answers : (answer (.systemService name) host).result = .ok reply) :
    reply.AgreesWith held.fixedAnswers := by
  have asked : answer (.systemService name) host = _ :=
    currentHolder_bind_of_some isCurrent _
  rw [asked] at answers
  obtain ⟨service, serves, ⟨⟩, -⟩ := Traced.of_bind_ok answers
  obtain ⟨located, -, decided, -⟩ := Traced.of_bind_ok serves
  cases located with
  | null =>
      cases decided
      unfold Holder.builtInService
      split
      · rfl
      · split
        · rfl
        · trivial
  | _ =>
      cases decided
      trivial

end ContextRequest

namespace Stage

variable [Record.Validator]

/-- Nobody tells of fixed answers who was not asked for them. -/
theorem performWith_answersOnly
    (play : Callback → Step Unit)
    {request : Request}
    (asksOther : request.asksFixed = false) :
    Traced.AnswersOnly (fun response => response.mayTellFixed = false)
      (performWith play request) := by
  cases request with
  | records request =>
      have answers :
          Traced.AnswersOnly (fun reply => reply.mayTellFixed = false)
            (Traced.ofResult request.answer : Step Reply) :=
        fun _ _ => RecordRequest.mayTellFixed_answer
      exact .bind_of_answers answers fun reply tellsNone => .done tellsNone
  | reports request =>
      exact request.answersOnly
  | config request =>
      exact fun stage => request.answersOnly stage.host.config
  | context request =>
      have answers :
          Traced.AnswersOnly (fun reply => reply.mayTellFixed = false)
            (Traced.within hostPart request.answer) :=
        fun stage => ContextRequest.answersOnly asksOther stage.host
      exact .bind_of_answers answers fun reply tellsNone => .done tellsNone
  | bind connection intent =>
      exact .bind fun _ => .bind fun _ => .bind fun _ => .bind fun _ => .done rfl
  | unbind connection =>
      exact .bind fun _ => .bind fun _ => .bind fun _ => .done rfl
  | isConnection candidate =>
      exact .bind fun _ => .done rfl

/-- A current holder is asked for its fixed answers. -/
theorem perform_fixedAnswers
    {stage : Stage}
    {held : Holder}
    (isCurrent : stage.host.current = some held) :
    perform (.context .fixedAnswers) stage =
      { trace := [], state := stage, result := .ok (.known held.fixedAnswers.reply) } := by
  rw [perform_context, ContextRequest.answer_fixedAnswers isCurrent]
  rfl

/-- Whatever is asked for, a response agrees with the fixed answers of the current holder. -/
theorem agreesWith_performWith
    (play : Callback → Step Unit)
    {request : Request}
    {stage : Stage}
    {held : Holder}
    (isCurrent : stage.host.current = some held)
    {response : Response}
    (answers : (performWith play request stage).result = .ok response) :
    response.AgreesWith held.fixedAnswers := by
  cases asksFixed : request.asksFixed with
  | false =>
      have tellsNone := performWith_answersOnly play asksFixed stage response answers
      exact response.agreesWith_of_not_mayTell _ tellsNone
  | true =>
      cases request with
      | context request =>
          rw [performWith_context] at answers
          obtain ⟨reply, replies, rfl⟩ := Except.of_map_eq_ok answers
          cases request with
          | fixedAnswers =>
              rw [ContextRequest.answer_fixedAnswers isCurrent] at replies
              cases replies
              rfl
          | systemService name =>
              exact ContextRequest.agreesWith_systemService isCurrent replies
          | _ =>
              cases asksFixed
      | _ =>
          cases asksFixed

end Stage

/-- The current holder tells certain fixed answers, and no other ones have been told. -/
structure Host.Fixes
    (fixed : FixedAnswers)
    (past : List (Entry Response))
    (host : Host) : Prop where
  current : ∃ held, host.current = some held ∧ held.fixedAnswers = fixed
  told :
    ∀ entry ∈ past, ∀ answer, entry.answer? = some answer → answer.AgreesWith fixed

namespace Host.Fixes

variable {fixed : FixedAnswers} {past : List (Entry Response)} {host : Host}

theorem append
    (fixes : Host.Fixes fixed past host)
    {entry : Entry Response}
    (sound : ∀ answer, entry.answer? = some answer → answer.AgreesWith fixed)
    {reached : Host}
    (current : ∃ held, reached.current = some held ∧ held.fixedAnswers = fixed) :
    Host.Fixes fixed (past ++ [entry]) reached where
  current := current
  told other member := by
    rcases List.mem_append.mp member with isPast | isLast
    · exact fixes.told other isPast
    · rw [List.mem_singleton.mp isLast]
      exact sound

/-- An entry that tells nobody of an answer changes nothing as long as the holder stays. -/
theorem append_untold
    (fixes : Host.Fixes fixed past host)
    {entry : Entry Response}
    (untold : entry.answer? = none)
    {reached : Host}
    (same : reached.current = host.current) :
    Host.Fixes fixed (past ++ [entry]) reached := by
  apply fixes.append
  · intro answer isTold
    rw [untold] at isTold
    cases isTold
  · rw [same]
    exact fixes.current

theorem ignoresLog :
    IgnoresLog (Host.Fixes fixed) :=
  fun _ _ _ fixes => fixes.append_untold rfl rfl

theorem upkeep [Record.Validator] :
    Host.Upkeep (Host.Fixes fixed) (fun held => held.fixedAnswers = fixed) where
  idle past host entry isIdle fixes := by
    refine fixes.append_untold ?_ rfl
    cases entry with
    | event event =>
        cases event with
        | performed answer =>
            cases isIdle
        | attempted outcome =>
            cases isIdle
        | _ =>
            rfl
    | _ =>
        rfl
  holder past host fixes := by
    obtain ⟨held, isCurrent, -⟩ := fixes.current
    rw [ContextRequest.currentHolder_of_some isCurrent, List.append_nil]
    exact fixes
  fits past host held fixes answered := by
    obtain ⟨current, isCurrent, tells⟩ := fixes.current
    rw [ContextRequest.currentHolder_of_some isCurrent] at answered
    cases answered
    exact tells
  gate past host held gate _ fixes _ :=
    ⟨fixes.current, fixes.told⟩
  registered past host held entry _ fixes :=
    fixes.append_untold rfl rfl
  opened past host held name action _ fixes :=
    fixes.append_untold rfl rfl
  advanced past host name opened fixes _ :=
    fixes.append_untold rfl rfl
  putResource past host held id value tells fixes :=
    ⟨⟨_, rfl, tells⟩, fixes.told⟩

end Host.Fixes

namespace Stage

variable {fixed : FixedAnswers}

/-- Whatever is asked for but a new holder, fixed answers stay what they are. -/
theorem upkeep_fixes [Record.Validator] :
    Upkeep (Host.Fixes fixed) (fun held => held.fixedAnswers = fixed)
      (Response.AgreesWith fixed) Request.keepsHolder Act.keepsHolder where
  host := Host.Fixes.upkeep
  makes settings injections keeps := by
    cases keeps
  config request _ past host fixes :=
    Host.Fixes.ignoresLog.append _ ⟨fixes.current, fixes.told⟩
  levels _ _ _ := Host.Fixes.ignoresLog
  performs _ keeps := keeps
  attempts _ keeps := keeps
  told past host event sound fixes :=
    fixes.append sound fixes.current
  answers play request past stage answer _ fixes answers := by
    obtain ⟨held, isCurrent, rfl⟩ := fixes.current
    exact agreesWith_performWith play isCurrent answers

end Stage

end PlatformDouble
