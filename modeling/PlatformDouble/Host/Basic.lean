import PlatformDouble.Config.Store
import PlatformDouble.Context.Holder
import PlatformDouble.Gate.Discovery

namespace PlatformDouble

/-!
# The host

All state of the double but that of logging: the store of settings, a gate for
every holder made so far, the current holder and the open cursors.  A holder is
made when one is first needed; making a new one leaves the gates of the older ones
to whoever still uses them.
-/

open Context (Holder HolderId Injections)

/-- A cursor and the holder whose directory it reads. -/
structure OpenCursor where
  holder : HolderId
  cursor : Cursor

/-- The state of the double. -/
structure Host where
  config : Config.Store
  gates : Table HolderId Gate
  /-- The holder that requests go to. -/
  current : Option Holder
  cursors : Table String OpenCursor

namespace Host

/-- A host at the start, with no holder. -/
def initial (config : Config.Store) : Host where
  config := config
  gates := Table.empty
  current := none
  cursors := Table.empty

def gate (host : Host) (holder : HolderId) : Gate :=
  (host.gates.get? holder).getD Gate.empty

def configPart : StatePart Host Config.Store where
  get := config
  put config host := { host with config := config }
  get_put _ _ := rfl

def gatePart (holder : HolderId) : StatePart Host Gate where
  get host := host.gate holder
  put gate host := { host with gates := host.gates.insert holder gate }
  get_put gate host := by simp [Host.gate]

def directoryPart (holder : HolderId) : StatePart Host Directory where
  get host := (host.gate holder).directory
  put directory host :=
    (gatePart holder).put { host.gate holder with directory := directory } host
  get_put directory host := by simp [gatePart, Host.gate]

variable [Record.Validator]

/-- Make a holder from settings and let requests go to it. -/
def makeHolder (settings : Config.Settings) (injections : Injections) :
    Traced LogAction Host Holder := do
  let host ← Traced.current
  let id : HolderId := ⟨host.gates.size⟩
  let holder ← Traced.ofChecked (Holder.ofSettings id settings injections)
  Traced.update fun host => {
    host with
    gates := host.gates.insert id Gate.empty
    current := some holder }
  Traced.done holder

theorem makeHolder_of_refused
    {settings : Config.Settings}
    {injections : Injections}
    {host : Host}
    {refusal : Record.Refusal}
    (refused :
      Holder.ofSettings ⟨host.gates.size⟩ settings injections = .error refusal) :
    makeHolder settings injections host =
      { trace := [], state := host, result := .error (.ofRefusal refusal) } := by
  simp [makeHolder, Bind.bind, Traced.andThen, Traced.current, refused,
    Traced.ofChecked_error, Traced.fail]

theorem makeHolder_of_built
    {settings : Config.Settings}
    {injections : Injections}
    {host : Host}
    {held : Holder}
    (built : Holder.ofSettings ⟨host.gates.size⟩ settings injections = .ok held) :
    makeHolder settings injections host =
      { trace := []
        state := {
          host with
          gates := host.gates.insert ⟨host.gates.size⟩ Gate.empty
          current := some held }
        result := .ok held } := by
  simp [makeHolder, Bind.bind, Traced.andThen, Traced.current, built,
    Traced.ofChecked_ok, Traced.update, Traced.done]

/-- A holder that was made is the current one, and its gate is empty. -/
theorem makeHolder_isFresh
    (settings : Config.Settings)
    (injections : Injections)
    (host : Host)
    {held : Holder}
    (made : (makeHolder settings injections host).result = .ok held) :
    let left := (makeHolder settings injections host).state
    left.current = some held ∧ left.gate held.id = Gate.empty := by
  cases built : Holder.ofSettings ⟨host.gates.size⟩ settings injections with
  | error refusal =>
      rw [makeHolder_of_refused built] at made
      cases made
  | ok holder =>
      rw [makeHolder_of_built built] at made ⊢
      cases made
      refine ⟨rfl, ?_⟩
      simp [gate, Holder.id_of_ofSettings built]

/-- Make a holder from the settings kept under a name, or from the global ones. -/
def newHolder (settings : Option String) (injections : Injections) :
    Traced LogAction Host Holder := do
  let chosen ← Traced.within configPart <|
    match settings with
    | some name => Config.Store.settingsOf name
    | none => Config.Store.sharedSettings
  makeHolder chosen injections

/-- The holder that requests go to, made on first need. -/
def holder : Traced LogAction Host Holder := do
  let host ← Traced.current
  match host.current with
  | some holder => Traced.done holder
  | none => newHolder none {}

end Host

end PlatformDouble
