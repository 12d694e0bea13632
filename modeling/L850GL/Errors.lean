import L850GL.Text
import Mathlib.Data.List.Infix

/-! Error values of an asynchronous call, the three classifiers of ambiguous outcomes and the
normalizers that turn an error into a code of the API. -/
namespace L850GL

inductive IoError
  | timedOut | cancelled | closed | brokenPipe | permissionDenied | other (code : Int)
  deriving DecidableEq,Repr

inductive DBusError
  | noReply | timeout | serviceUnknown | nameHasNoOwner | accessDenied | authFailed
  | unknownMethod | notSupported | other (code : Int)
  deriving DecidableEq,Repr

inductive CoreError
  | unsupported | unauthorized | invalidArgs | inProgress | wrongState | notFound | retry
  | wrongSimState | resetAndRetry | timeout | throttled | other (code : Int)
  deriving DecidableEq,Repr

inductive MobileEquipmentError
  | notAllowed | notSupported | simNotInserted | simBusy | memoryFull | invalidIndex | notFound
  | textTooLong | invalidChars | noNetwork | networkTimeout | incorrectParameters
  | other (code : Int)
  deriving DecidableEq,Repr

inductive MessageError
  | notAllowed | notSupported | invalidPduParameter | invalidTextParameter | simNotInserted
  | simBusy | memoryFull | invalidIndex | noNetwork | networkTimeout | other (code : Int)
  deriving DecidableEq,Repr

/-- The domain and code an error is registered with. -/
inductive ErrorCode
  | io (code : IoError)
  | dbus (code : DBusError)
  | mmCore (code : CoreError)
  | mobileEquipment (code : MobileEquipmentError)
  | message (code : MessageError)
  | other (domain : CString) (code : Int)
  deriving DecidableEq,Repr

/-- `remote` is the D-Bus error name when the error came from the other side of the bus. -/
structure GError where
  code : ErrorCode
  remote : Option CString
  deriving DecidableEq,Repr

def gIoErrorCancelled : GError := ⟨.io .cancelled,none⟩

namespace Errors

def gErrorMatches (error : Option GError) (code : ErrorCode) : Bool :=
  error.any fun e => e.code == code

def gDbusErrorGetRemoteError (error : Option GError) : Option CString := error.bind (·.remote)

def remoteErrorHasSuffix (remote : Option CString) (suffix : String) : Bool :=
  remote.any fun name => suffix.toList.isSuffixOf name

def mmCoreErrorIsTimeout (mmCheckVersion124 : Bool) (error : Option GError) : Bool :=
  mmCheckVersion124 && gErrorMatches error (.mmCore .timeout)

def mmCoreErrorIsThrottled (mmCheckVersion124 : Bool) (error : Option GError) : Bool :=
  mmCheckVersion124 && gErrorMatches error (.mmCore .throttled)

/-- A row of a normalizer: any of the registered codes, or any of the remote suffixes. -/
def matchesRow (error : Option GError) (codes : List ErrorCode) (suffixes : List String) : Bool :=
  codes.any (gErrorMatches error) ||
    suffixes.any (remoteErrorHasSuffix (gDbusErrorGetRemoteError error))

def smsErrorIsTimeoutOrTransport (mmCheckVersion124 : Bool) (error : Option GError)
    (remote : Option CString) : Bool :=
  error.isSome &&
    (gErrorMatches error (.io .timedOut) ||
      gErrorMatches error (.io .cancelled) ||
      gErrorMatches error (.io .closed) ||
      gErrorMatches error (.io .brokenPipe) ||
      gErrorMatches error (.dbus .noReply) ||
      gErrorMatches error (.dbus .timeout) ||
      mmCoreErrorIsTimeout mmCheckVersion124 error ||
      gErrorMatches error (.mobileEquipment .networkTimeout) ||
      gErrorMatches error (.dbus .serviceUnknown) ||
      gErrorMatches error (.dbus .nameHasNoOwner) ||
      gErrorMatches error (.message .networkTimeout) ||
      remoteErrorHasSuffix remote ".Core.Timeout" ||
      remoteErrorHasSuffix remote ".MobileEquipment.NetworkTimeout" ||
      remoteErrorHasSuffix remote ".Message.NetworkTimeout")

def advancedErrorHasUnknownOutcome (error : Option GError) (remote : Option CString) : Bool :=
  error.isSome &&
    (gErrorMatches error (.io .timedOut) ||
      gErrorMatches error (.io .cancelled) ||
      gErrorMatches error (.io .closed) ||
      gErrorMatches error (.io .brokenPipe) ||
      gErrorMatches error (.dbus .noReply) ||
      gErrorMatches error (.dbus .timeout) ||
      remoteErrorHasSuffix remote ".Core.Timeout" ||
      remoteErrorHasSuffix remote ".MobileEquipment.NetworkTimeout")

structure NormalizedError where
  code : String
  retryable : Bool
  deriving DecidableEq,Repr

/-- The rows of `normalize_sms_error` that look at the error alone. -/
def normalizeSmsErrorRows (mmCheckVersion124 : Bool) (error : Option GError) : NormalizedError :=
  if error.isNone then ⟨"operation_failed",false⟩
  else if gErrorMatches error (.io .timedOut) then ⟨"timeout",true⟩
  else if gErrorMatches error (.io .permissionDenied) then ⟨"permission_denied",false⟩
  else if matchesRow error [.dbus .serviceUnknown,.dbus .nameHasNoOwner] [] then
    ⟨"dependency_unavailable",true⟩
  else if matchesRow error [.dbus .accessDenied,.dbus .authFailed] [] then
    ⟨"permission_denied",false⟩
  else if matchesRow error [.dbus .noReply,.dbus .timeout] [] then ⟨"timeout",true⟩
  else if matchesRow error [.dbus .unknownMethod,.dbus .notSupported,.mmCore .unsupported,
      .mobileEquipment .notSupported,.message .notSupported] [] then ⟨"unsupported",false⟩
  else if matchesRow error [] [".Core.Unsupported",".MobileEquipment.NotSupported",
      ".Message.NotSupported"] then ⟨"unsupported",false⟩
  else if matchesRow error [.mmCore .unauthorized,.mobileEquipment .notAllowed,
      .message .notAllowed] [".Core.Unauthorized",".Message.NotAllowed"] then
    ⟨"permission_denied",false⟩
  else if matchesRow error [.mmCore .invalidArgs,.mobileEquipment .invalidChars,
      .mobileEquipment .textTooLong,.message .invalidPduParameter,.message .invalidTextParameter]
      [".Core.InvalidArgs",".MobileEquipment.InvalidChars",".MobileEquipment.TextTooLong",
        ".Message.InvalidPduParameter",".Message.InvalidTextParameter"] then
    ⟨"invalid_argument",false⟩
  else if matchesRow error [.message .memoryFull,.mobileEquipment .memoryFull]
      [".Message.MemoryFull",".MobileEquipment.MemoryFull"] then ⟨"storage_full",false⟩
  else if mmCoreErrorIsThrottled mmCheckVersion124 error ||
      matchesRow error [.mmCore .inProgress,.mobileEquipment .simBusy,.message .simBusy]
        [".Core.InProgress",".Core.Throttled",".MobileEquipment.SimBusy",".Message.SimBusy"] then
    ⟨"busy",true⟩
  else if matchesRow error [.mmCore .notFound,.mobileEquipment .notFound,
      .mobileEquipment .invalidIndex,.message .invalidIndex]
      [".Core.NotFound",".MobileEquipment.NotFound",".MobileEquipment.InvalidIndex",
        ".Message.InvalidIndex"] then ⟨"not_found",false⟩
  else if mmCoreErrorIsTimeout mmCheckVersion124 error ||
      matchesRow error [.message .networkTimeout,.mobileEquipment .networkTimeout]
        [".Core.Timeout",".MobileEquipment.NetworkTimeout",".Message.NetworkTimeout"] then
    ⟨"timeout",true⟩
  else if matchesRow error [.mmCore .wrongState,.mmCore .wrongSimState,.mmCore .retry,
      .mmCore .resetAndRetry,.mobileEquipment .noNetwork,.mobileEquipment .simNotInserted,
      .message .noNetwork,.message .simNotInserted]
      [".Core.WrongState",".Core.WrongSimState",".Core.Retry",".Core.ResetAndRetry",
        ".MobileEquipment.NoNetwork",".Message.NoNetwork"] then ⟨"not_ready",true⟩
  else ⟨"operation_failed",false⟩

/-- The rows of `normalize_advanced_error` after the test for an unknown outcome. -/
def normalizeAdvancedErrorRows (mmCheckVersion124 : Bool) (error : Option GError) :
    NormalizedError :=
  if error.isNone then ⟨"operation_failed",false⟩
  else if matchesRow error [.io .permissionDenied,.dbus .accessDenied,.dbus .authFailed,
      .mmCore .unauthorized,.mobileEquipment .notAllowed] [] then ⟨"permission_denied",false⟩
  else if matchesRow error [.dbus .serviceUnknown,.dbus .nameHasNoOwner] [] then
    ⟨"dependency_unavailable",true⟩
  else if matchesRow error [.dbus .unknownMethod,.dbus .notSupported,.mmCore .unsupported,
      .mobileEquipment .notSupported] [".Core.Unsupported",".MobileEquipment.NotSupported"] then
    ⟨"unsupported",false⟩
  else if matchesRow error [.mmCore .unauthorized] [".Core.Unauthorized"] then
    ⟨"permission_denied",false⟩
  else if matchesRow error [.mmCore .invalidArgs,.mobileEquipment .incorrectParameters]
      [".Core.InvalidArgs"] then ⟨"invalid_argument",false⟩
  else if mmCoreErrorIsThrottled mmCheckVersion124 error ||
      matchesRow error [.mmCore .inProgress,.mobileEquipment .simBusy]
        [".Core.InProgress",".Core.Throttled",".MobileEquipment.SimBusy"] then ⟨"busy",true⟩
  else if matchesRow error [.mmCore .wrongState,.mmCore .wrongSimState,.mmCore .retry,
      .mmCore .resetAndRetry]
      [".Core.WrongState",".Core.WrongSimState",".Core.Retry",".Core.ResetAndRetry"] then
    ⟨"not_ready",true⟩
  else ⟨"operation_failed",false⟩

def l850NormalizeError (mmCheckVersion124 : Bool) (error : Option GError)
    (timedOut transportLost : Bool) : NormalizedError :=
  if timedOut then ⟨"timeout",true⟩
  else if transportLost then ⟨"dependency_unavailable",true⟩
  else if error.isNone then ⟨"unavailable",false⟩
  else if mmCoreErrorIsTimeout mmCheckVersion124 error ||
      matchesRow error [.io .timedOut,.dbus .noReply,.dbus .timeout] [".Core.Timeout"] then
    ⟨"timeout",true⟩
  else if matchesRow error [.dbus .serviceUnknown,.dbus .nameHasNoOwner,.io .closed,
      .io .brokenPipe] [] then ⟨"dependency_unavailable",true⟩
  else if matchesRow error [.io .permissionDenied,.dbus .accessDenied,.dbus .authFailed,
      .mmCore .unauthorized] [".Core.Unauthorized"] then ⟨"permission_denied",false⟩
  else if matchesRow error [.dbus .unknownMethod,.dbus .notSupported,.mmCore .unsupported,
      .mobileEquipment .notSupported] [".Core.Unsupported",".MobileEquipment.NotSupported"] then
    ⟨"unsupported_protocol",false⟩
  else if mmCoreErrorIsThrottled mmCheckVersion124 error ||
      matchesRow error [.mmCore .inProgress] [".Core.InProgress",".Core.Throttled"] then
    ⟨"busy",true⟩
  else if matchesRow error [.mmCore .wrongState,.mmCore .retry] [".Core.WrongState",".Core.Retry"]
      then ⟨"not_ready",true⟩
  else ⟨"unavailable",false⟩

def smsErrorMessage (code : String) : String :=
  match code with
  | "device_gone" => "The modem was removed during the operation"
  | "stale_identity" => "The modem identity is no longer live"
  | "stale_generation" => "The modem generation changed; refresh and retry"
  | "stale_messaging_generation" =>
    "The active SIM or Messaging view changed; refresh and retry"
  | "stale_cursor" => "The SMS inventory changed; restart pagination"
  | "unsupported" => "This SMS operation is not supported by the modem"
  | "not_ready" => "The modem is not ready for this SMS operation"
  | "busy" => "Another modem mutation is already in progress"
  | "timeout" => "The SMS operation timed out"
  | "outcome_unknown" => "The SMS may have been sent; refresh before any retry"
  | "storage_full" => "The modem or SIM SMS storage is full"
  | "permission_denied" => "ModemManager denied this SMS operation"
  | "dependency_unavailable" => "ModemManager is not available"
  | "not_found" => "The SMS is no longer present in the live inventory"
  | "invalid_argument" => "The SMS operation arguments are invalid"
  | "internal_error" => "The SMS operation could not be tracked safely"
  | _ => "The SMS operation failed"

def advancedErrorMessage (code : String) : String :=
  match code with
  | "device_gone" => "The modem was removed during the operation"
  | "stale_identity" => "The modem identity is no longer live"
  | "stale_generation" => "The modem generation changed; refresh before retrying"
  | "unsupported" => "The live modem does not expose this reviewed operation"
  | "not_ready" => "The modem is not ready for this operation"
  | "busy" => "Another modem mutation or cooldown is in progress"
  | "outcome_unknown" => "The operation outcome is unknown; refresh before any retry"
  | "permission_denied" => "ModemManager denied this operation"
  | "dependency_unavailable" =>
    "A required ModemManager or network configuration dependency is unavailable"
  | "ambiguous_device" => "More than one matching network interface owns this modem"
  | "netifd_binding_not_found" => "No uniquely bound netifd ModemManager interface was found"
  | "netifd_binding_ambiguous" => "The modem has an ambiguous or unsafe netifd binding"
  | "persistence_failed" => "The netifd radio-mode intent could not be committed and verified"
  | "managed_by_netifd" =>
    "The bound netifd interface owns radio state; change it in Network Interfaces"
  | "invalid_argument" => "The operation arguments are invalid"
  | _ => "The modem operation failed"

def l850ErrorMessage (code : String) : String :=
  match code with
  | "invalid_argument" => "The expert request arguments are invalid"
  | "stale_identity" => "The opaque modem identity is no longer live"
  | "stale_generation" => "The modem generation changed; refresh before continuing"
  | "device_gone" => "The modem was removed during the expert operation"
  | "dependency_unavailable" => "ModemManager is not available"
  | "unsupported" => "The exact L850-GL MBIM hardware could not be attested"
  | "unsupported_protocol" => "The required L850 command protocol is not available"
  | "rate_limited" => "The expert modem query is rate limited"
  | "timeout" => "The expert ModemManager operation timed out"
  | "permission_denied" => "ModemManager denied the reviewed expert command transport"
  | "malformed_response" => "ModemManager returned malformed or oversized expert data"
  | "busy" => "Another per-modem expert operation is in progress"
  | "not_ready" => "Supported LTE bands are not available"
  | "outcome_unknown" =>
    "The command was dispatched but its final hardware outcome is unknown"
  | "reprobe_timeout" =>
    "The attested modem did not reappear before the reprobe deadline"
  | "registration_timeout" => "The replacement modem did not register before the deadline"
  | "verification_mismatch" =>
    "The persisted NVM or post-reset state does not match the request"
  | "operation_failed" => "The reviewed firmware command was rejected before verification"
  | _ => "The expert command transport is unavailable"

end Errors
end L850GL
