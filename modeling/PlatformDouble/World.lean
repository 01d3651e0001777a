import PlatformDouble.Host.Stage

namespace PlatformDouble

/-!
# Worlds

A world is a stage together with the state of logging.  It answers one request
after another; every answer tells how the request ended, what was logged and
observed meanwhile, and, once there is a holder, what is registered and bound.

The trace of a request is gone through once it is complete.  Only then do its log
actions take effect and its questions about logging get their replies.

## What is left out

* How a file of settings is searched for where none is named.  The store holds what the
  search comes to, which a request may change (`ConfigRequest.placeFile`).
* What the loader of such files logs on its own, and files that are no UTF-8 text.
* The flags of a bind and of a query, which nothing reads, and the requests of a user.  At
  the gate these are the plain ones (`Binding.bindAsUser`, `Directory.queryIntentAsUser`);
  a world has no second name for them.
* Connections that cannot be displayed.  A connection is shown by its label, so no refusal
  fails while it is written to the log.
* Records logged at a level whose numeral is too long to write, and values nested so
  deeply that no stack holds them.
-/

/-- What is registered and bound at the current holder. -/
structure Overview where
  components : Nat
  actions : List ActionKey
  sessions : List Session

/-- The answer to one request. -/
structure Answer where
  result : Except Fault Reply
  log : String
  events : List (Event Reply)
  overview : Option Overview

/-- What a trace comes to: the state of logging after it, the text and the events. -/
structure Transcript where
  logging : Logging
  text : String
  events : List (Event Reply)

namespace Transcript

/-- Go through a trace, from a state of logging. -/
def ofTrace (logging : Logging) : List (Entry Response) → Transcript
  | [] => { logging := logging, text := "", events := [] }
  | .log action :: rest =>
      let following := ofTrace (logging.after action) rest
      { following with text := logging.written action ++ following.text }
  | .event event :: rest =>
      let following := ofTrace logging rest
      { following with events := event.map (Response.settle logging) :: following.events }
  | .gate _ :: rest => ofTrace logging rest
  | .cursor _ :: rest => ofTrace logging rest

end Transcript

/-- What is registered and bound, once there is a holder. -/
def Host.overview (host : Host) : Option Overview :=
  host.current.map fun holder =>
    let gate := host.gate holder.id
    { components := gate.directory.size
      actions := gate.directory.actions
      sessions := gate.sessions.values }

/-- A stage and the state of logging. -/
structure World where
  stage : Stage
  logging : Logging

namespace World

/-- A world at the start: settings as declared, an environment, a cast, and a file to find. -/
def initial
    (schema : Config.Schema)
    (environment : Config.Environment)
    (cast : Cast)
    (found : Option String := none)
    (loader : EnvFile.Loader := .standard) :
    World where
  stage := {
    host := Host.initial (Config.Store.initial schema environment found loader)
    cast := cast }
  logging := Logging.initial

variable [Record.Validator]

def answer (world : World) (request : Request) : Answer × World :=
  let outcome := Stage.perform request world.stage
  let transcript := Transcript.ofTrace world.logging outcome.trace
  let answer : Answer := {
    result := outcome.result.map (Response.settle transcript.logging)
    log := transcript.text
    events := transcript.events
    overview := outcome.state.host.overview }
  (answer, { stage := outcome.state, logging := transcript.logging })

/-- Answer requests one after another, each whatever became of those before. -/
def answerAll (world : World) : List Request → List Answer
  | [] => []
  | request :: rest =>
      let (answer, next) := world.answer request
      answer :: answerAll next rest

end World

end PlatformDouble
