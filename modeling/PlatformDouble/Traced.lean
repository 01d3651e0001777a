import PlatformDouble.Fault

namespace PlatformDouble

/-!
# Traced computations

A traced computation reads and changes a state, leaves a trace of entries, and
ends in an answer or a fault.  Whatever was done before a fault stays done: the
outcome of a failing computation has a state and a trace like any other.

A computation cannot read the trace.  So what it answers, and the state it
leaves, depend on the state it starts from and on nothing else.
-/

/-- What a computation leaves behind: its trace, its final state, its answer or fault. -/
structure Outcome (ε σ α : Type) where
  trace : List ε
  state : σ
  result : Except Fault α

/-- A computation over a state `σ` that traces entries `ε` and answers an `α`. -/
def Traced (ε σ α : Type) := σ → Outcome ε σ α

namespace Traced

variable {ε δ σ τ α β : Type}

/-- Answer without doing anything. -/
def done (answer : α) : Traced ε σ α := fun state =>
  { trace := [], state := state, result := .ok answer }

/-- Fail without doing anything. -/
def fail (fault : Fault) : Traced ε σ α := fun state =>
  { trace := [], state := state, result := .error fault }

/-- Go on with the answer of a computation, unless it failed. -/
def andThen (first : Traced ε σ α) (next : α → Traced ε σ β) : Traced ε σ β := fun state =>
  match first state with
  | { trace := trace, state := reached, result := .ok answer } =>
      let rest := next answer reached
      { rest with trace := trace ++ rest.trace }
  | { trace := trace, state := reached, result := .error fault } =>
      { trace := trace, state := reached, result := .error fault }

/-- After an answer, what was left behind is continued. -/
theorem andThen_of_ok
    {first : Traced ε σ α}
    {next : α → Traced ε σ β}
    {state : σ}
    {answer : α}
    (succeeds : (first state).result = .ok answer) :
    let rest := next answer (first state).state
    andThen first next state =
      { rest with trace := (first state).trace ++ rest.trace } := by
  rcases outcome : first state with ⟨trace, reached, result⟩
  rw [outcome] at succeeds
  cases succeeds
  simp only [andThen, outcome]

/-- After a fault nothing is continued. -/
theorem andThen_of_error
    {first : Traced ε σ α}
    {next : α → Traced ε σ β}
    {state : σ}
    {fault : Fault}
    (fails : (first state).result = .error fault) :
    andThen first next state =
      { trace := (first state).trace
        state := (first state).state
        result := .error fault } := by
  rcases outcome : first state with ⟨trace, reached, result⟩
  rw [outcome] at fails
  cases fails
  simp only [andThen, outcome]

instance : Monad (Traced ε σ) where
  pure := done
  bind := andThen

theorem bind_pure
    (code : Traced ε σ α)
    (change : α → β)
    (state : σ) :
    (code >>= fun answer => pure (change answer) : Traced ε σ β) state =
      { code state with result := (code state).result.map change } := by
  cases ended : (code state).result with
  | ok answer =>
      refine (andThen_of_ok ended).trans ?_
      simp [done, Except.map, pure]
  | error fault =>
      refine (andThen_of_error ended).trans ?_
      simp [Except.map]

def current : Traced ε σ σ := fun state =>
  { trace := [], state := state, result := .ok state }

def update (change : σ → σ) : Traced ε σ Unit := fun state =>
  { trace := [], state := change state, result := .ok () }

def emit (entry : ε) : Traced ε σ Unit := fun state =>
  { trace := [entry], state := state, result := .ok () }

/-- A result that is already known. -/
def ofResult (result : Except Fault α) : Traced ε σ α := fun state =>
  { trace := [], state := state, result := result }

def ofChecked (checked : Record.Checked α) : Traced ε σ α :=
  ofResult (checked.mapError Fault.ofRefusal)

theorem ofChecked_ok
    (answer : α) :
    (ofChecked (.ok answer) : Traced ε σ α) = done answer :=
  rfl

theorem ofChecked_error
    (refusal : Record.Refusal) :
    (ofChecked (.error refusal) : Traced ε σ α) = fail (.ofRefusal refusal) :=
  rfl

/-- Run a computation to its end and answer how it ended. -/
def attempt (action : Traced ε σ α) : Traced ε σ (Except Fault α) := fun state =>
  let outcome := action state
  { outcome with result := .ok outcome.result }

def retrace (rename : ε → δ) (action : Traced ε σ α) : Traced δ σ α := fun state =>
  let outcome := action state
  { outcome with trace := outcome.trace.map rename }

/-- One computation for each item of a list, in order. -/
def forEach {ι : Type} (items : List ι) (action : ι → Traced ε σ β) : Traced ε σ (List β) :=
  match items with
  | [] => done []
  | item :: rest =>
      andThen (action item) fun answer =>
        andThen (forEach rest action) fun answers =>
          done (answer :: answers)

/-- What attempts lead to, and how each of them ends, when every step tells it of one. -/
theorem forEach_attempt
    {ι : Type}
    {action : ι → Traced ε σ α}
    {ended : ι → Except Fault α}
    (reached : List ι → σ → Prop)
    (step :
      ∀ earlier item state,
        reached earlier state →
          reached (earlier ++ [item]) (action item state).state ∧
            (action item state).result = ended item)
    (earlier items : List ι)
    {state : σ}
    (starts : reached earlier state) :
    let outcome := forEach items (fun item => attempt (action item)) state
    reached (earlier ++ items) outcome.state ∧
      outcome.result = .ok (items.map ended) := by
  induction items generalizing earlier state with
  | nil =>
      exact ⟨by simpa [forEach, done] using starts, rfl⟩
  | cons item rest inductionHypothesis =>
      obtain ⟨next, itemEnded⟩ := step earlier item state starts
      obtain ⟨reachesEnd, restEnded⟩ := inductionHypothesis (earlier ++ [item]) next
      rw [List.append_assoc, List.singleton_append] at reachesEnd
      rcases leaves :
          forEach rest (fun other => attempt (action other)) (action item state).state with
        ⟨trace, left, result⟩
      rw [leaves] at reachesEnd restEnded
      dsimp only at reachesEnd restEnded
      subst restEnded
      simp only [forEach, andThen, attempt, itemEnded, leaves, done, List.map_cons]
      exact ⟨reachesEnd, trivial⟩

end Traced

/--
A part of a state that can be read and replaced.  What was put in is what is read
afterwards.
-/
structure StatePart (σ τ : Type) where
  get : σ → τ
  put : τ → σ → σ
  get_put : ∀ part state, get (put part state) = part

namespace Traced

variable {ε σ τ α : Type}

/-- Run a computation over a part of the state. -/
def within (part : StatePart σ τ) (action : Traced ε τ α) : Traced ε σ α := fun state =>
  let outcome := action (part.get state)
  { trace := outcome.trace
    state := part.put outcome.state state
    result := outcome.result }

end Traced

end PlatformDouble
