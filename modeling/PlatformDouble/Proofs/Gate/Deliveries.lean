import PlatformDouble.Gate.Binding

namespace PlatformDouble

/-!
# Deliveries

What connections hear from a gate, read off a trace, and the entries of a trace
that have nothing to do with a gate.
-/

variable {ρ : Type}

/-- What one connection hears. -/
inductive Delivery where
  /-- A component is bound, by this binder. -/
  | connected
      (connection : ConnectionId)
      (component : ComponentName)
      (handle : Option Handle)
  /-- The session is over; it was that of the named component. -/
  | disconnected (connection : ConnectionId) (named : Option ComponentName)
  deriving Repr, DecidableEq

namespace Delivery

def ofEntry? : Entry ρ → Option Delivery
  | .event (.connected session handle) =>
      some (.connected session.connection session.component handle)
  | .event (.disconnected session named) =>
      some (.disconnected session.connection named)
  | _ => none

/-- What a trace delivers, in order. -/
def ofTrace (trace : List (Entry ρ)) : List Delivery :=
  trace.filterMap ofEntry?

@[simp] theorem ofTrace_nil :
    ofTrace ([] : List (Entry ρ)) = [] :=
  rfl

@[simp] theorem ofTrace_append
    (first second : List (Entry ρ)) :
    ofTrace (first ++ second) = ofTrace first ++ ofTrace second := by
  simp [ofTrace]

@[simp] theorem ofTrace_cons_log
    (action : LogAction)
    (rest : List (Entry ρ)) :
    ofTrace (.log action :: rest) = ofTrace rest :=
  rfl

@[simp] theorem ofTrace_cons_gate
    (change : GateChange)
    (rest : List (Entry ρ)) :
    ofTrace (.gate change :: rest) = ofTrace rest :=
  rfl

@[simp] theorem ofTrace_cons_connected
    (session : Session)
    (handle : Option Handle)
    (rest : List (Entry ρ)) :
    ofTrace (.event (.connected session handle) :: rest) =
      .connected session.connection session.component handle :: ofTrace rest :=
  rfl

@[simp] theorem ofTrace_cons_disconnected
    (session : Session)
    (named : Option ComponentName)
    (rest : List (Entry ρ)) :
    ofTrace (.event (.disconnected session named) :: rest) =
      .disconnected session.connection named :: ofTrace rest :=
  rfl

end Delivery

namespace Entry

/-- Whether an entry neither changes a gate nor delivers anything. -/
def isApart : Entry ρ → Bool
  | .gate _ => false
  | .event (.connected _ _) => false
  | .event (.disconnected _ _) => false
  | _ => true

end Entry

namespace Delivery

/-- Entries apart from any gate deliver nothing. -/
theorem ofTrace_of_apart
    {trace : List (Entry ρ)}
    (apart : ∀ entry ∈ trace, entry.isApart = true) :
    ofTrace trace = [] := by
  apply List.filterMap_eq_nil_iff.mpr
  intro entry member
  have entryApart := apart entry member
  cases entry with
  | log action =>
      rfl
  | gate change =>
      simp [Entry.isApart] at entryApart
  | cursor change =>
      rfl
  | event event =>
      cases event with
      | connected session handle =>
          simp [Entry.isApart] at entryApart
      | disconnected session named =>
          simp [Entry.isApart] at entryApart
      | _ =>
          rfl

end Delivery

end PlatformDouble
