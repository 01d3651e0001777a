import PlatformDouble.Gate.Directory
import PlatformDouble.Proofs.Table.Latest

namespace PlatformDouble

/-!
# Directories and their history

A directory is only ever written to, so it is a function of the registrations it
was given.  Each of its look-ups answers from the last registration that concerns
what is looked up.
-/

namespace Registration

/-- The last registration of a component. -/
def lastOf
    (history : List Registration)
    (component : Option ComponentName) :
    Option Registration :=
  (history.filter fun entry => entry.component == component).getLast?

/-- The last registration with a service. -/
def lastWith
    (history : List Registration)
    (service : Option ServiceId) :
    Option Registration :=
  (history.filter fun entry => entry.service == service).getLast?

theorem of_lastOf
    {history : List Registration}
    {component : Option ComponentName}
    {entry : Registration}
    (isLast : lastOf history component = some entry) :
    entry ∈ history ∧ entry.component = component :=
  of_lastBy isLast

theorem of_lastWith
    {history : List Registration}
    {service : Option ServiceId}
    {entry : Registration}
    (isLast : lastWith history service = some entry) :
    entry ∈ history ∧ entry.service = service :=
  of_lastBy isLast

theorem exists_lastOf
    {history : List Registration}
    {entry : Registration}
    (member : entry ∈ history) :
    ∃ last, lastOf history entry.component = some last :=
  exists_lastBy member

theorem exists_lastWith
    {history : List Registration}
    {entry : Registration}
    (member : entry ∈ history) :
    ∃ last, lastWith history entry.service = some last :=
  exists_lastBy member

end Registration

/-- A text is the same key as itself, and as no other key. -/
theorem ActionKey.isExact_text
    (action : String) :
    Table.IsExact (ActionKey.text action) where
  beq_iff other := by
    cases other <;> simp [BEq.beq, same, asInteger?]
  iff_beq other := by
    cases other <;> simp [BEq.beq, same, asInteger?]

namespace Directory

def ofHistory (history : List Registration) : Directory :=
  history.foldl write {}

@[simp] theorem ofHistory_append_singleton
    (history : List Registration)
    (entry : Registration) :
    ofHistory (history ++ [entry]) = (ofHistory history).write entry := by
  simp [ofHistory, List.foldl_append]

/-- What every registration writes in one table is there in the order of history. -/
theorem table_ofHistory
    {κ ν : Type}
    [BEq κ]
    {table : Directory → Table κ ν}
    {written : Registration → κ × ν}
    (starts : table {} = Table.empty)
    (writes :
      ∀ directory entry,
        table (directory.write entry) =
          (table directory).insert (written entry).1 (written entry).2)
    (history : List Registration) :
    table (ofHistory history) = Table.ofList (history.map written) := by
  induction history using List.reverseRecOn with
  | nil =>
      exact starts
  | append_singleton earlier entry inductionHypothesis =>
      rw [ofHistory_append_singleton, writes, inductionHypothesis, List.map_append,
        List.map_singleton, Table.ofList_append_singleton]

/-- The services of a directory are those of its registrations, in order. -/
theorem services_ofHistory
    (history : List Registration) :
    (ofHistory history).services =
      Table.ofList (history.map fun entry => (entry.component, entry.service)) :=
  table_ofHistory rfl (fun _ _ => rfl) history

/-- The descriptors in a directory are those of its registrations, in order. -/
theorem descriptors_ofHistory
    (history : List Registration) :
    (ofHistory history).descriptors =
      Table.ofList (history.map fun entry => (entry.component, entry.descriptor)) :=
  table_ofHistory rfl (fun _ _ => rfl) history

/-- The owners in a directory are those of its registrations, in order. -/
theorem owners_ofHistory
    (history : List Registration) :
    (ofHistory history).owners =
      Table.ofList (history.map fun entry => (entry.service, entry.component)) :=
  table_ofHistory rfl (fun _ _ => rfl) history

theorem service?_ofHistory
    (history : List Registration)
    (name : ComponentName) :
    (ofHistory history).service? (some name) =
      (Registration.lastOf history (some name)).bind Registration.service := by
  rw [service?, services_ofHistory, Table.get?_ofList_map, ← Option.bind_id_eq_join,
    Option.bind_map]
  rfl

theorem descriptor?_ofHistory
    (history : List Registration)
    (component : Option ComponentName) :
    (ofHistory history).descriptor? component =
      (Registration.lastOf history component).bind Registration.descriptor := by
  rw [descriptor?, descriptors_ofHistory, Table.get?_ofList_map,
    ← Option.bind_id_eq_join, Option.bind_map]
  rfl

theorem owner?_ofHistory
    (history : List Registration)
    (service : Option ServiceId) :
    (ofHistory history).owner? service =
      (Registration.lastWith history service).bind Registration.component := by
  rw [owner?, owners_ofHistory, Table.get?_ofList_map, ← Option.bind_id_eq_join,
    Option.bind_map]
  rfl

/-- A registration is listed last under its own text and changes no other listing. -/
theorem listing_write
    (directory : Directory)
    (entry : Registration)
    (action : String) :
    (directory.write entry).listing (.text action) =
      if entry.key == .text action then
        directory.listing (.text action) ++ [entry.component]
      else
        directory.listing (.text action) := by
  unfold listing write
  rw [(ActionKey.isExact_text action).get?_insert]
  split
  · rename_i isAction
    rw [((ActionKey.isExact_text action).beq_iff entry.key).mp isAction]
    rfl
  · rfl

/-- Under a text are listed the components that were registered under it, in order. -/
theorem listing_ofHistory
    (history : List Registration)
    (action : String) :
    (ofHistory history).listing (.text action) =
      (history.filter fun entry => entry.key == .text action).map
        Registration.component := by
  induction history using List.reverseRecOn with
  | nil =>
      rfl
  | append_singleton earlier entry inductionHypothesis =>
      rw [ofHistory_append_singleton, listing_write, inductionHypothesis,
        List.filter_append, List.map_append]
      cases isAction : entry.key == .text action with
      | true =>
          simp [isAction]
      | false =>
          simp [isAction]

/-- There is a listing under a text exactly if something was registered under it. -/
theorem contains_listings_ofHistory
    (history : List Registration)
    (action : String) :
    (ofHistory history).listings.contains (.text action) =
      history.any fun entry => entry.key == .text action := by
  induction history using List.reverseRecOn with
  | nil =>
      rfl
  | append_singleton earlier entry inductionHypothesis =>
      rw [ofHistory_append_singleton, List.any_append, ← inductionHypothesis]
      unfold write Table.contains
      rw [(ActionKey.isExact_text action).get?_insert]
      cases isAction : entry.key == .text action with
      | true =>
          simp [isAction]
      | false =>
          simp [isAction]

end Directory

end PlatformDouble
