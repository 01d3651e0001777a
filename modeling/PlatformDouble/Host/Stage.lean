import PlatformDouble.Gate.Binding
import PlatformDouble.Host.Cast
import PlatformDouble.Host.Configuring
import PlatformDouble.Host.Contexts
import PlatformDouble.Host.Records
import PlatformDouble.Host.Reports

namespace PlatformDouble

/-!
# Performing requests

A stage is the host together with the cast.  Only binding and unbinding call the
cast back, and only the cast performs requests of its own; all other requests
leave it alone.

Requests nest as callbacks perform requests that call back again.  Every level of
nesting has taken a turn from some script, so requests nest no deeper than there
are turns left when the outermost one starts.
-/

/-- The double and the cast it plays with. -/
structure Stage where
  host : Host
  cast : Cast

namespace Stage

/-- A step of a performance. -/
abbrev Step (α : Type) := Traced (Entry Response) Stage α

def hostPart : StatePart Stage Host where
  get := host
  put host stage := { stage with host := host }
  get_put _ _ := rfl

def gatePart (holder : Context.HolderId) : StatePart Stage Gate where
  get stage := stage.host.gate holder
  put gate stage := { stage with host := (Host.gatePart holder).put gate stage.host }
  get_put gate stage := (Host.gatePart holder).get_put gate stage.host

/-- Take the next turn of a callback. -/
def takeTurn (callback : Callback) : Step Turn := do
  let stage ← Traced.current
  let (turn, cast) := stage.cast.takeTurn callback
  Traced.update fun stage => { stage with cast := cast }
  pure turn

/-- Play a turn, with a way to perform its requests. -/
def playTurn (perform : Request → Step Response) : Turn → Step Unit
  | [] => Traced.done ()
  | .raise exception :: _ => Traced.fail (.raised exception)
  | .perform request :: rest => do
      let answer ← perform request
      Traced.observe (.performed answer)
      playTurn perform rest
  | .attempt request :: rest => do
      let outcome ← Traced.attempt (perform request)
      Traced.observe (.attempted outcome)
      playTurn perform rest

/-- The binder that a service hands out, after its callback has been played. -/
def binderOf (cast : Cast) (play : Callback → Step Unit) (service : ServiceId) :
    Step (Option Handle) :=
  match (cast.service service).kind with
  | .bare => Traced.done (some (.service service))
  | .binder => do
      Traced.observe (.binderRequested service)
      play (.binderOf service)
      Traced.done (some (.binder service))
  | .emptyBinder => do
      Traced.observe (.binderRequested service)
      play (.binderOf service)
      Traced.done none

def callbacks (cast : Cast) (play : Callback → Step Unit) :
    Binding.Callbacks Response Stage where
  listens connection := (cast.connection connection).listens
  binderOf := binderOf cast play
  connected connection _ _ := play (.connected connection)
  disconnected connection _ := play (.disconnected connection)

/-- Whether something has both callbacks of a connection. -/
def isConnection (cast : Cast) : Candidate → Bool
  | .connection connection => (cast.connection connection).listens
  | .service _ => false

variable [Record.Validator]

/-- Perform a request, with a way to play callbacks. -/
def performWith (play : Callback → Step Unit) : Request → Step Response
  | .records request => do
      let reply ← Traced.ofResult request.answer
      pure (.known reply)
  | .reports request => request.answer
  | .config request =>
      Traced.within hostPart (Traced.within Host.configPart (Traced.logged request.answer))
  | .context request => do
      let reply ← Traced.within hostPart request.answer
      pure (.known reply)
  | .bind connection intent => do
      let holder ← Traced.within hostPart (Traced.logged Host.holder)
      let checked ← Traced.ofChecked intent.check
      let stage ← Traced.current
      let bound ← Binding.bind (gatePart holder.id) (callbacks stage.cast play) connection
        checked.component
      pure (.known (.flag bound))
  | .unbind connection => do
      let holder ← Traced.within hostPart (Traced.logged Host.holder)
      let stage ← Traced.current
      Binding.unbind (gatePart holder.id) (callbacks stage.cast play) connection
      pure (.known .nothing)
  | .isConnection candidate => do
      let stage ← Traced.current
      pure (.known (.flag (isConnection stage.cast candidate)))

/--
Perform a request whose callbacks may nest up to a depth.  At depth zero no turn
is left to be played.
-/
def performWithin : Nat → Request → Step Response
  | 0 => performWith fun _ => Traced.done ()
  | depth + 1 => performWith fun callback => do
      let turn ← takeTurn callback
      playTurn (performWithin depth) turn

/-- Perform a request. -/
def perform (request : Request) : Step Response := fun stage =>
  performWithin stage.cast.turnsLeft request stage

end Stage

end PlatformDouble
