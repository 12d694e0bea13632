import L850GL.Frontend.Carrier

/-! The checks of `widgets.js` on the replies of `list_modems`, `get_overview` and
`get_lock_status`. -/
namespace L850GL
namespace Frontend
namespace Widgets

open JsValue

def modemSummaryIsValid (summary : JsValue) : Bool :=
  isObject summary && isString (summary.get "modem_id") 80 &&
    isUnsigned (summary.get "generation") && isString (summary.get "manufacturer") 160 &&
    isString (summary.get "model") 160 && isString (summary.get "revision") 160 &&
    isString (summary.get "state") 64 && isString (summary.get "power") 64

def listIsValid (result : JsValue) : Bool :=
  (result.get "modems").isArray && (result.get "modems").items.length ≤ 64 &&
    (result.get "modems").items.all modemSummaryIsValid

def listError (result : JsValue) : Option CString :=
  let error := responseError result
  if truthy error then error
  else if !listIsValid result then
    some "Malformed modem inventory in the schema 4 response.".toList
  else none

def capabilityIsValid (capability : JsValue) : Bool :=
  isObject capability && isString (capability.get "state") 64 &&
    (capability.get "mutable").isBoolean &&
    ((capability.get "reason").isNullish || isString (capability.get "reason") 160)

/-- `value == null || isFiniteNumber (value)`, for the properties of these names. -/
def optionalNumbers (value : JsValue) (names : List String) : Bool :=
  names.all fun name => (value.get name).isNullish || isFiniteNumber (value.get name)

/-! The conditions of `overviewError`, one definition for each object of the reply. -/

def overviewIdentityIsValid (identity : JsValue) : Bool :=
  isString (identity.get "manufacturer") 160 && isString (identity.get "model") 160 &&
    isString (identity.get "revision") 160 && isString (identity.get "imei") 64

def overviewModemIsValid (modem : JsValue) : Bool :=
  isString (modem.get "state") 64 && isString (modem.get "power") 64 &&
    ((modem.get "voltage_mv").isNullish ||
      isUnsigned (modem.get "voltage_mv") && (modem.get "voltage_mv").within 2500 5000)

def overviewSimIsValid (sim : JsValue) : Bool :=
  (sim.get "present").isBoolean && isString (sim.get "lock") 64 &&
    isString (sim.get "number") 32 && isString (sim.get "imsi") 64 &&
    isString (sim.get "iccid") 64 &&
    ((sim.get "present").isTrue || (sim.get "number").isText [] && (sim.get "imsi").isText [] &&
      (sim.get "iccid").isText [])

def overviewNetworkIsValid (network : JsValue) : Bool :=
  isString (network.get "operator") 160 && isString (network.get "registration") 64 &&
    (network.get "roaming").isBoolean && isStringArray (network.get "access") 32

def overviewSignalIsValid (signal : JsValue) : Bool :=
  isFiniteNumber (signal.get "quality") && (signal.get "quality").within 0 100 &&
    (signal.get "recent").isBoolean && optionalNumbers signal ["rsrp","rsrq","sinr"]

def overviewBearerIsValid (bearer : JsValue) : Bool :=
  (bearer.get "connected").isBoolean && isString (bearer.get "interface") 64

def overviewServingIsValid (serving : JsValue) : Bool :=
  isString (serving.get "state") 64 && isString (serving.get "reason") 160 &&
    (!(serving.get "state").isText "available".toList ||
      isUnsigned (serving.get "earfcn") && isUnsigned (serving.get "pci") &&
        (serving.get "pci").within 0 503 && isUnsigned (serving.get "band") &&
        (serving.get "band").within 1 85 && optionalNumbers serving ["rsrp","rsrq"])

def overviewCapabilitiesAreValid (capabilities : JsValue) : Bool :=
  capabilityIsValid (capabilities.get "sms") && capabilityIsValid (capabilities.get "band_lock") &&
    capabilityIsValid (capabilities.get "pci_lock")

def usbModes : List CString := ["mbim".toList,"ncm".toList,"unknown".toList]

def overviewIsValid (result summary : JsValue) : Bool :=
  identityMatches result summary &&
    overviewIdentityIsValid (object (result.get "identity")) &&
    usbModes.any (fun mode => (result.get "usb_mode").isText mode) &&
    overviewModemIsValid (object (result.get "modem")) &&
    overviewSimIsValid (object (result.get "sim")) &&
    overviewNetworkIsValid (object (result.get "network")) &&
    overviewSignalIsValid (object (result.get "signal")) &&
    overviewBearerIsValid (object (result.get "bearer")) &&
    isStringArray (result.get "current_bands") 256 &&
    overviewServingIsValid (object (result.get "serving_cell")) &&
    overviewCapabilitiesAreValid (object (result.get "capabilities")) &&
    isStringArray (result.get "warnings") 32

def overviewError (result summary : JsValue) : Option CString :=
  let error := responseError result
  if truthy error then error
  else if !overviewIsValid result summary then
    some "Malformed Overview data in the schema 4 response.".toList
  else none

/-! The conditions of `lockError`. -/

def policyAllowed : List CString := ["3g".toList,"4g".toList,"3g|4g".toList]

def policyPreferred : List CString := ["none".toList,"3g".toList,"4g".toList]

def currentModesAreValid (modes : JsValue) : Bool :=
  (modes.get "known").isBoolean && isStringArray (modes.get "allowed") 8 &&
    isString (modes.get "preferred") 32

def modePolicyIsValid (policy : JsValue) : Bool :=
  capabilityIsValid policy && (policy.get "configured").isBoolean &&
    policyAllowed.any (fun allowed => (policy.get "allowed").isText allowed) &&
    policyPreferred.any (fun preferred => (policy.get "preferred").isText preferred) &&
    ((policy.get "allowed").isText "3g|4g".toList ||
      (policy.get "preferred").isText "none".toList)

def lockIsValid (result summary : JsValue) : Bool :=
  identityMatches result summary && isStringArray (result.get "supported_bands") 256 &&
    isStringArray (result.get "current_bands") 256 &&
    isString (result.get "band_selection") 32 &&
    currentModesAreValid (object (result.get "current_modes")) &&
    modePolicyIsValid (object (result.get "mode_policy")) &&
    capabilityIsValid (result.get "band_lock") && capabilityIsValid (result.get "pci_lock")

def lockError (result summary : JsValue) : Option CString :=
  let error := responseError result
  if truthy error then error
  else if !lockIsValid result summary then
    some "Malformed Lock data in the schema 4 response.".toList
  else none

/-- A check of a page on a reply without an error of its own. -/
theorem pageError_eq_none {result : JsValue} {valid : Bool} {message : String}
    (h : responseError result = none) :
    (if truthy (responseError result) then responseError result
      else if !valid then some message.toList else none) = none ↔ valid = true := by
  rw [h]
  cases valid <;> simp [truthy]

end Widgets
end Frontend
end L850GL
