import PlatformDouble.Traced

namespace PlatformDouble.Traced

/-!
# What computations keep

A property of the trace so far and of the state is kept by a computation if it holds
after the computation whenever it holds before, however the computation ends.  What
the parts of a computation keep, the whole keeps.
-/

variable {ε δ σ τ α β : Type}

theorem bind_of_ok
    {first : Traced ε σ α}
    {next : α → Traced ε σ β}
    {state : σ}
    {answer : α}
    (succeeds : (first state).result = .ok answer) :
    (first >>= next) state =
      { next answer (first state).state with
        trace := (first state).trace ++ (next answer (first state).state).trace } :=
  andThen_of_ok succeeds

theorem bind_of_error
    {first : Traced ε σ α}
    {next : α → Traced ε σ β}
    {state : σ}
    {fault : Fault}
    (fails : (first state).result = .error fault) :
    (first >>= next) state =
      { trace := (first state).trace
        state := (first state).state
        result := .error fault } :=
  andThen_of_error fails

@[simp] theorem done_bind
    (answer : α)
    (next : α → Traced ε σ β) :
    (done answer >>= next) = next answer :=
  rfl

@[simp] theorem current_bind
    (next : σ → Traced ε σ β)
    (state : σ) :
    (current >>= next) state = next state state :=
  rfl

@[simp] theorem update_bind
    (change : σ → σ)
    (next : Unit → Traced ε σ β)
    (state : σ) :
    (update change >>= next) state = next () (change state) :=
  rfl

/-- A computation that goes on answers only if its first part does. -/
theorem of_bind_ok
    {first : Traced ε σ α}
    {next : α → Traced ε σ β}
    {state : σ}
    {answer : β}
    (answers : ((first >>= next) state).result = .ok answer) :
    ∃ middle,
      (first state).result = .ok middle ∧
        (next middle (first state).state).result = .ok answer ∧
          ((first >>= next) state).state = (next middle (first state).state).state := by
  cases ended : (first state).result with
  | ok middle =>
      rw [bind_of_ok ended] at answers ⊢
      exact ⟨middle, rfl, answers, rfl⟩
  | error fault =>
      rw [bind_of_error ended] at answers
      cases answers

theorem result_bind_eq_ok_iff
    {first : Traced ε σ α}
    {next : α → Traced ε σ β}
    {state : σ}
    {answer : β} :
    ((first >>= next) state).result = .ok answer ↔
      ∃ middle,
        (first state).result = .ok middle ∧
          (next middle (first state).state).result = .ok answer := by
  constructor
  · intro answers
    obtain ⟨middle, leads, continues, -⟩ := of_bind_ok answers
    exact ⟨middle, leads, continues⟩
  · rintro ⟨middle, leads, continues⟩
    rw [bind_of_ok leads]
    exact continues

/-- Where the first item and the rest all have answers, so does the list. -/
theorem forEach_cons_of_ok
    {ι : Type}
    {action : ι → Traced ε σ α}
    {item : ι}
    {rest : List ι}
    {state : σ}
    {answer : α}
    {answers : List α}
    (leads : (action item state).result = .ok answer)
    (continues :
      (forEach rest action (action item state).state).result = .ok answers) :
    forEach (item :: rest) action state =
      { trace :=
          (action item state).trace ++ (forEach rest action (action item state).state).trace
        state := (forEach rest action (action item state).state).state
        result := .ok (answer :: answers) } := by
  refine (andThen_of_ok leads).trans ?_
  rw [andThen_of_ok continues]
  simp [done]

/-- After an answer to its first item, a list ends as the rest does. -/
theorem result_forEach_cons_of_ok
    {ι : Type}
    {action : ι → Traced ε σ α}
    {item : ι}
    {rest : List ι}
    {state : σ}
    {answer : α}
    (leads : (action item state).result = .ok answer) :
    (forEach (item :: rest) action state).result =
      (forEach rest action (action item state).state).result.map (answer :: ·) := by
  refine (congrArg Outcome.result (andThen_of_ok leads)).trans ?_
  exact congrArg Outcome.result (bind_pure (forEach rest action) (answer :: ·) _)

/-- What a view shows after a computation is what its first part left, if the rest keeps it. -/
theorem view_bind_of_kept
    {γ : Type}
    (view : σ → γ)
    {first : Traced ε σ α}
    {next : α → Traced ε σ β}
    (kept : ∀ answer state, view (next answer state).state = view state)
    (state : σ) :
    view ((first >>= next) state).state = view (first state).state := by
  cases ended : (first state).result with
  | ok answer =>
      rw [bind_of_ok ended]
      exact kept answer _
  | error fault =>
      rw [bind_of_error ended]

/-- What goes on without changing the state leaves the one its first part ended in. -/
theorem state_bind_of_unchanged
    {first : Traced ε σ α}
    {next : α → Traced ε σ β}
    (unchanged : ∀ answer state, (next answer state).state = state)
    (state : σ) :
    ((first >>= next) state).state = (first state).state :=
  view_bind_of_kept id unchanged state

/-- A computation is the same from two states if its first part is. -/
theorem bind_congr
    {first : Traced ε σ α}
    {next : α → Traced ε σ β}
    {state other : σ}
    (same : first state = first other) :
    (first >>= next) state = (first >>= next) other := by
  change andThen first next state = andThen first next other
  unfold andThen
  rw [same]

/-- Items that have nothing to do are gone through without doing anything. -/
theorem forEach_of_done
    {ι : Type}
    {items : List ι}
    {action : ι → Traced ε σ α}
    {state : σ}
    (answerOf : ι → α)
    (idle : ∀ item ∈ items, action item state = done (answerOf item) state) :
    forEach items action state = done (items.map answerOf) state := by
  induction items with
  | nil =>
      rfl
  | cons item rest inductionHypothesis =>
      have itemIdle := idle item List.mem_cons_self
      have restIdle :=
        inductionHypothesis fun other member => idle other (List.mem_cons_of_mem item member)
      have continues :
          (forEach rest action (action item state).state).result =
            .ok (rest.map answerOf) := by
        rw [itemIdle]
        exact congrArg Outcome.result restIdle
      rw [forEach_cons_of_ok (congrArg Outcome.result itemIdle) continues, itemIdle]
      simp [done, restIdle]

theorem trace_bind_of_silent
    {first : Traced ε σ α}
    {next : α → Traced ε σ β}
    (leads : ∀ state, (first state).trace = [])
    (continues : ∀ answer state, (next answer state).trace = [])
    (state : σ) :
    ((first >>= next) state).trace = [] := by
  cases ended : (first state).result with
  | ok answer =>
      rw [bind_of_ok ended]
      simp [leads, continues]
  | error fault =>
      rw [bind_of_error ended]
      exact leads state

theorem trace_forEach_of_silent
    {ι : Type}
    {action : ι → Traced ε σ α}
    (silent : ∀ item state, (action item state).trace = [])
    (items : List ι)
    (state : σ) :
    (forEach items action state).trace = [] := by
  induction items generalizing state with
  | nil =>
      rfl
  | cons item rest inductionHypothesis =>
      refine trace_bind_of_silent (silent item) (fun _ reached => ?_) state
      exact trace_bind_of_silent inductionHypothesis (fun _ _ => rfl) reached

/-- What a computation keeps of the trace so far and the state. -/
def Keeps (holds : List ε → σ → Prop) (code : Traced ε σ α) : Prop :=
  ∀ past state,
    holds past state → holds (past ++ (code state).trace) (code state).state

namespace Keeps

variable {holds : List ε → σ → Prop}

theorem ofResult
    (result : Except Fault α) :
    Keeps holds (Traced.ofResult result : Traced ε σ α) := by
  intro past state held
  simpa [Traced.ofResult] using held

theorem done
    (answer : α) :
    Keeps holds (Traced.done answer : Traced ε σ α) :=
  ofResult (.ok answer)

theorem fail
    (fault : Fault) :
    Keeps holds (Traced.fail fault : Traced ε σ α) :=
  ofResult (.error fault)

/-- What goes on may rely on what is known of answers to its first part. -/
theorem bind_of_answers
    {first : Traced ε σ α}
    {next : α → Traced ε σ β}
    {good : α → Prop}
    (leads : Keeps holds first)
    (answers :
      ∀ past state answer,
        holds past state → (first state).result = .ok answer → good answer)
    (continues : ∀ answer, good answer → Keeps holds (next answer)) :
    Keeps holds (first >>= next) := by
  intro past state held
  have middle := leads past state held
  cases ended : (first state).result with
  | ok answer =>
      rw [bind_of_ok ended, ← List.append_assoc]
      exact continues answer (answers past state answer held ended) _ _ middle
  | error fault =>
      rw [bind_of_error ended]
      exact middle

/-- What both parts keep is kept one after the other. -/
theorem bind
    {first : Traced ε σ α}
    {next : α → Traced ε σ β}
    (leads : Keeps holds first)
    (continues : ∀ answer, Keeps holds (next answer)) :
    Keeps holds (first >>= next) :=
  bind_of_answers leads (fun _ _ _ _ _ => trivial) fun answer _ => continues answer

theorem current :
    Keeps holds (Traced.current : Traced ε σ σ) := by
  intro past state held
  simpa [Traced.current] using held

theorem update
    {change : σ → σ}
    (keeps : ∀ past state, holds past state → holds past (change state)) :
    Keeps holds (Traced.update change : Traced ε σ Unit) := by
  intro past state held
  simpa [Traced.update] using keeps past state held

/-- What goes on with the state it looks at may depend on that state. -/
theorem current_bind
    {next : σ → Traced ε σ β}
    (continues :
      ∀ past state,
        holds past state →
          holds (past ++ (next state state).trace) (next state state).state) :
    Keeps holds (Traced.current >>= next) := by
  intro past state held
  exact continues past state held

theorem attempt
    {code : Traced ε σ α}
    (keeps : Keeps holds code) :
    Keeps holds (Traced.attempt code) :=
  keeps

theorem forEach
    {ι : Type}
    {items : List ι}
    {action : ι → Traced ε σ α}
    (keeps : ∀ item ∈ items, Keeps holds (action item)) :
    Keeps holds (Traced.forEach items action) := by
  induction items with
  | nil =>
      exact done []
  | cons item rest inductionHypothesis =>
      refine bind (keeps item List.mem_cons_self) fun _ => ?_
      refine bind (inductionHypothesis ?_) fun _ => done _
      intro other member
      exact keeps other (List.mem_cons_of_mem item member)

end Keeps

end PlatformDouble.Traced
