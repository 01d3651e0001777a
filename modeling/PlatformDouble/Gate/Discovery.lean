import PlatformDouble.Gate.Directory

namespace PlatformDouble

/-!
# Discovery

Which registered components answer an action.  Results come one by one from a
cursor: the components are those listed when the cursor is first advanced, and
each descriptor is the latest one at the moment its component is reached.  Asking
for all results at once is the same without anything happening in between.
-/

namespace Directory

/-- The result for a listed component. -/
def resolveListed (directory : Directory) (component : Option ComponentName) :
    Except Fault ResolveInfo :=
  (ResolveInfo.ofListing (directory.descriptor? component) component).mapError
    Fault.ofRefusal

/-- The results for listed components. -/
def resolveAll (directory : Directory) :
    List (Option ComponentName) → Except Fault (List ResolveInfo)
  | [] => .ok []
  | component :: rest =>
      match directory.resolveListed component with
      | .error fault => .error fault
      | .ok result => (resolveAll directory rest).map (result :: ·)

/-- All results for an action, in order of registration. -/
def resolve (directory : Directory) (action : Value) : Except Fault (List ResolveInfo) :=
  match directory.listed action with
  | .error fault => .error fault
  | .ok components => directory.resolveAll components

/-- The descriptors of all results that have one. -/
def descriptorsFor (directory : Directory) (action : Value) :
    Except Fault (List ServiceInfo) :=
  (directory.resolve action).map fun results => results.filterMap ResolveInfo.serviceInfo

/-- All results for the action of a request. -/
def queryIntent (intent : Intent) : Traced LogAction Directory (List ResolveInfo) := do
  let directory ← Traced.current
  let action := Value.ofText? intent.action
  let results ← Traced.ofResult (directory.resolve action)
  Traced.log Logging.resolverLogger .debug
    ("Resolved " ++ action.display ++ " to " ++ Number.naturalText results.length ++
      " service(s)")
  Traced.done results

/-- All results for the action of a request of a user.  Users are not told apart. -/
def queryIntentAsUser (intent : Intent) (_user : Int) :
    Traced LogAction Directory (List ResolveInfo) :=
  queryIntent intent

theorem queryIntentAsUser_eq
    (intent : Intent)
    (user : Int) :
    queryIntentAsUser intent user = queryIntent intent :=
  rfl

end Directory

/-- Results of discovery still to come. -/
inductive Cursor where
  /-- Not advanced yet: nothing has been looked up. -/
  | waiting (action : Value)
  /-- The components still to come. -/
  | reading (remaining : List (Option ComponentName))
  /-- Nothing will come any more. -/
  | exhausted

namespace Cursor

/-- Take the next component of a listing; its result ends the cursor if it fails. -/
def step (directory : Directory) :
    List (Option ComponentName) → Except Fault (Option ResolveInfo) × Cursor
  | [] => (.ok none, exhausted)
  | component :: rest =>
      match directory.resolveListed component with
      | .ok result => (.ok (some result), reading rest)
      | .error fault => (.error fault, exhausted)

/-- Advance a cursor: the next result, or none once nothing is left. -/
def advance (directory : Directory) : Cursor → Except Fault (Option ResolveInfo) × Cursor
  | waiting action =>
      match directory.listed action with
      | .ok components => step directory components
      | .error fault => (.error fault, exhausted)
  | reading remaining => step directory remaining
  | exhausted => (.ok none, exhausted)

end Cursor

end PlatformDouble
