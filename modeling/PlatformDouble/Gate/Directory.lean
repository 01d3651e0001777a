import PlatformDouble.Gate.ActionKey
import PlatformDouble.Logging.Basic

namespace PlatformDouble

/-!
# The component directory

The directory remembers which components are listed under an action, which
service and which descriptor a component was last registered with, and under
which component a service was last registered.  Registrations are never taken
back; a component registered twice under one action is listed twice.

A registration may lack its component.  It is then written under the missing
name.
-/

/-- Registered components by action, and services and descriptors by component. -/
structure Directory where
  /-- The components listed under each action, in order of registration. -/
  listings : Table ActionKey (List (Option ComponentName)) := Table.empty
  /-- The service of each component; a service may be absent. -/
  services : Table (Option ComponentName) (Option ServiceId) := Table.empty
  /-- The descriptor of each component; a descriptor may be absent. -/
  descriptors : Table (Option ComponentName) (Option ServiceInfo) := Table.empty
  /-- The component of each service. -/
  owners : Table (Option ServiceId) (Option ComponentName) := Table.empty
  deriving Repr

/-- What is written when a component is registered. -/
structure Registration where
  key : ActionKey
  component : Option ComponentName
  service : Option ServiceId
  descriptor : Option ServiceInfo
  deriving Repr

namespace Directory

/-- The components listed under a key. -/
def listing (directory : Directory) (key : ActionKey) : List (Option ComponentName) :=
  (directory.listings.get? key).getD []

/-- Write a registration. -/
def write (directory : Directory) (entry : Registration) : Directory where
  listings :=
    directory.listings.insert entry.key (directory.listing entry.key ++ [entry.component])
  services := directory.services.insert entry.component entry.service
  descriptors := directory.descriptors.insert entry.component entry.descriptor
  owners := directory.owners.insert entry.service entry.component

/-- The service registered for a component, if it has one. -/
def service? (directory : Directory) (component : Option ComponentName) : Option ServiceId :=
  match component with
  | none => none
  | some name => (directory.services.get? (some name)).join

/-- The latest descriptor of a component, if it has one. -/
def descriptor? (directory : Directory) (component : Option ComponentName) :
    Option ServiceInfo :=
  (directory.descriptors.get? component).join

/-- The component under which a service was last registered. -/
def owner? (directory : Directory) (service : Option ServiceId) : Option ComponentName :=
  (directory.owners.get? service).join

/-- The components listed under an action; no action lists nothing. -/
def listed (directory : Directory) (action : Value) :
    Except Fault (List (Option ComponentName)) :=
  match action with
  | .null => .ok []
  | action => (ActionKey.ofValue action).map directory.listing

/-- The keys of all listings, in order of first registration. -/
def actions (directory : Directory) : List ActionKey :=
  directory.listings.keys

/-- Whether a component is registered. -/
def contains (directory : Directory) (component : Option ComponentName) : Bool :=
  directory.services.contains component

/-- How many components are registered. -/
def size (directory : Directory) : Nat :=
  directory.services.size

end Directory

end PlatformDouble
