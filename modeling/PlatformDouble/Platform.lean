namespace PlatformDouble

/-!
# Names the platform fixes

The platform knows two actions under which services advertise themselves, the
permission that guards each of them, and the names of two system services.  A
platform constant is interchangeable with its plain text value, but it also has a
label by which it shows itself.
-/

/-- A constant of the platform. -/
inductive PlatformConstant where
  | connectionService
  | inCallService
  | bindConnectionService
  | bindInCallService
  | audio
  | telephony
  deriving Repr, DecidableEq

namespace PlatformConstant

def all : List PlatformConstant :=
  [connectionService, inCallService, bindConnectionService, bindInCallService,
    audio, telephony]

/-- The plain text a constant stands for. -/
def value : PlatformConstant → String
  | connectionService => "android.telecom.ConnectionService"
  | inCallService => "android.telecom.InCallService"
  | bindConnectionService => "android.permission.BIND_CONNECTION_SERVICE"
  | bindInCallService => "android.permission.BIND_INCALL_SERVICE"
  | audio => "audio"
  | telephony => "phone"

/-- The name under which a constant shows itself. -/
def label : PlatformConstant → String
  | connectionService => "ServiceAction.CONNECTION_SERVICE"
  | inCallService => "ServiceAction.IN_CALL_SERVICE"
  | bindConnectionService => "Permission.BIND_CONNECTION_SERVICE"
  | bindInCallService => "Permission.BIND_INCALL_SERVICE"
  | audio => "SystemService.AUDIO"
  | telephony => "SystemService.TELEPHONY"

def family : PlatformConstant → String
  | connectionService | inCallService => "ServiceAction"
  | bindConnectionService | bindInCallService => "Permission"
  | audio | telephony => "SystemService"

/-- The constant shown under a label. -/
def ofLabel? (label : String) : Option PlatformConstant :=
  all.find? fun constant => constant.label == label

/-- A constant is found under its own label. -/
theorem ofLabel?_label (constant : PlatformConstant) :
    ofLabel? constant.label = some constant := by
  cases constant <;> decide

end PlatformConstant

/-- The version of the double, which it reports beside its constants. -/
def version : String := "0.1.0"

end PlatformDouble
