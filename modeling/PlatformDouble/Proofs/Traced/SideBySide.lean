import PlatformDouble.Proofs.Traced.Keeps

namespace PlatformDouble

/-!
# Computations side by side

Two computations go alike if from states that are alike they come to states that are
alike, end in the same way, and leave traces that are the same but for extra pieces in
either.  Where the parts of two computations go alike, so do the whole ones.
-/

/-- Two lists are the same but for extra pieces in either. -/
inductive SameBut {α : Type} (extra : List α → Prop) : List α → List α → Prop
  | nil : SameBut extra [] []
  | cons
      (entry : α)
      {first second : List α}
      (rest : SameBut extra first second) :
      SameBut extra (entry :: first) (entry :: second)
  | left
      {piece first second : List α}
      (isExtra : extra piece)
      (rest : SameBut extra first second) :
      SameBut extra (piece ++ first) second
  | right
      {piece first second : List α}
      (isExtra : extra piece)
      (rest : SameBut extra first second) :
      SameBut extra first (piece ++ second)

namespace SameBut

variable {α : Type} {extra : List α → Prop}

theorem refl
    (entries : List α) :
    SameBut extra entries entries := by
  induction entries with
  | nil =>
      exact .nil
  | cons entry rest inductionHypothesis =>
      exact .cons entry inductionHypothesis

theorem append
    {first second later laterToo : List α}
    (same : SameBut extra first second)
    (sameLater : SameBut extra later laterToo) :
    SameBut extra (first ++ later) (second ++ laterToo) := by
  induction same with
  | nil =>
      exact sameLater
  | cons entry rest inductionHypothesis =>
      exact .cons entry inductionHypothesis
  | left isExtra rest inductionHypothesis =>
      rw [List.append_assoc]
      exact .left isExtra inductionHypothesis
  | right isExtra rest inductionHypothesis =>
      rw [List.append_assoc]
      exact .right isExtra inductionHypothesis

/-- A list that holds nothing but extra items goes before either of two. -/
theorem of_forall_extra
    {items first second : List α}
    (extras : ∀ item ∈ items, extra [item])
    (same : SameBut extra first second) :
    SameBut extra first (items ++ second) := by
  induction items with
  | nil =>
      exact same
  | cons item rest inductionHypothesis =>
      have restExtra : ∀ other ∈ rest, extra [other] :=
        fun other member => extras other (List.mem_cons_of_mem item member)
      have itemExtra : extra [item] := extras item List.mem_cons_self
      show SameBut extra first ([item] ++ (rest ++ second))
      exact .right itemExtra (inductionHypothesis restExtra)

/-- Lists with the same items of interest are the same but for the others. -/
theorem of_filter_eq
    {isOfInterest : α → Bool}
    {first second : List α}
    (same : first.filter isOfInterest = second.filter isOfInterest) :
    SameBut (fun piece => ∃ item, piece = [item] ∧ isOfInterest item = false)
      first second := by
  induction first generalizing second with
  | nil =>
      rw [List.filter_nil, eq_comm, List.filter_eq_nil_iff] at same
      rw [← List.append_nil second]
      refine of_forall_extra (fun item member => ?_) .nil
      exact ⟨item, rfl, by simpa using same item member⟩
  | cons item rest inductionHypothesis =>
      cases interest : isOfInterest item with
      | false =>
          rw [List.filter_cons_of_neg (by simp [interest])] at same
          exact .left ⟨item, rfl, interest⟩ (inductionHypothesis same)
      | true =>
          rw [List.filter_cons_of_pos interest, eq_comm, List.filter_eq_cons_iff] at same
          obtain ⟨earlier, later, rfl, others, -, sameLater⟩ := same
          refine of_forall_extra (fun other member => ?_)
            (.cons item (inductionHypothesis sameLater.symm))
          exact ⟨other, rfl, by simpa using others other member⟩

end SameBut

/-- Two outcomes are alike: they end in the same way, and leave what is alike. -/
structure Outcome.Alike
    {ε σ α : Type}
    (extra : List ε → Prop)
    (alike : σ → σ → Prop)
    (first second : Outcome ε σ α) : Prop where
  trace : SameBut extra first.trace second.trace
  state : alike first.state second.state
  result : first.result = second.result

/-- A part of a state that is the same in states that are alike. -/
structure StatePart.IsShared
    {σ τ : Type}
    (part : StatePart σ τ)
    (alike : σ → σ → Prop) : Prop where
  get : ∀ state other, alike state other → part.get state = part.get other
  put :
    ∀ value state other, alike state other → alike (part.put value state) (part.put value other)

namespace Traced

/-- Two computations have outcomes that are alike, from states that are alike. -/
def GoAlike
    {ε σ α : Type}
    (extra : List ε → Prop)
    (alike : σ → σ → Prop)
    (first second : Traced ε σ α) : Prop :=
  ∀ state other, alike state other → (first state).Alike extra alike (second other)

namespace GoAlike

variable
  {ε σ τ α β : Type}
  {extra : List ε → Prop}
  {alike : σ → σ → Prop}

theorem ofResult
    (result : Except Fault α) :
    GoAlike extra alike (Traced.ofResult result) (Traced.ofResult result) :=
  fun _ _ stateAlike => ⟨.nil, stateAlike, rfl⟩

theorem done
    (answer : α) :
    GoAlike extra alike (Traced.done answer) (Traced.done answer) :=
  ofResult (.ok answer)

theorem fail
    (fault : Fault) :
    GoAlike extra alike (Traced.fail fault : Traced ε σ α) (Traced.fail fault) :=
  ofResult (.error fault)

theorem emit
    (entry : ε) :
    GoAlike extra alike (Traced.emit entry) (Traced.emit entry) :=
  fun _ _ stateAlike => ⟨.cons entry .nil, stateAlike, rfl⟩

/-- Where both parts go alike, one goes after the other. -/
theorem bind
    {first second : Traced ε σ α}
    {next other : α → Traced ε σ β}
    (leads : GoAlike extra alike first second)
    (continues : ∀ answer, GoAlike extra alike (next answer) (other answer)) :
    GoAlike extra alike (first >>= next) (second >>= other) := by
  intro state stateToo stateAlike
  have led := leads state stateToo stateAlike
  cases ended : (first state).result with
  | ok answer =>
      have endedToo : (second stateToo).result = .ok answer :=
        led.result.symm.trans ended
      have continued := continues answer _ _ led.state
      rw [bind_of_ok ended, bind_of_ok endedToo]
      exact ⟨led.trace.append continued.trace, continued.state, continued.result⟩
  | error fault =>
      have endedToo : (second stateToo).result = .error fault :=
        led.result.symm.trans ended
      rw [bind_of_error ended, bind_of_error endedToo]
      exact ⟨led.trace, led.state, rfl⟩

/-- Answers that are made of answers go alike where these do. -/
theorem answer
    {first second : Traced ε σ α}
    (goAlike : GoAlike extra alike first second)
    (change : α → β) :
    GoAlike extra alike
      (first >>= fun answer => pure (change answer))
      (second >>= fun answer => pure (change answer)) :=
  bind goAlike fun answer => done (change answer)

/-- What goes on with the state it looks at may look at what differs in the two. -/
theorem current_bind
    {next other : σ → Traced ε σ β}
    (continues :
      ∀ state stateToo,
        alike state stateToo →
          (next state state).Alike extra alike (other stateToo stateToo)) :
    GoAlike extra alike (Traced.current >>= next) (Traced.current >>= other) :=
  continues

theorem attempt
    {first second : Traced ε σ α}
    (goAlike : GoAlike extra alike first second) :
    GoAlike extra alike (Traced.attempt first) (Traced.attempt second) := by
  intro state stateToo stateAlike
  have outcomes := goAlike state stateToo stateAlike
  exact ⟨outcomes.trace, outcomes.state, congrArg Except.ok outcomes.result⟩

/-- Work on a part that is shared is the same work. -/
theorem within
    {part : StatePart σ τ}
    (shared : part.IsShared alike)
    (code : Traced ε τ α) :
    GoAlike extra alike (Traced.within part code) (Traced.within part code) := by
  intro state other stateAlike
  simp only [Traced.within]
  rw [shared.get state other stateAlike]
  exact ⟨.refl _, shared.put _ state other stateAlike, rfl⟩

end GoAlike

end Traced

end PlatformDouble
