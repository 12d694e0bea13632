import L850GL.Frontend.Responses

/-! The checks of `widgets.js` and `overview.js` on the carrier replies. -/
namespace L850GL
namespace Frontend

namespace JsValue

/-- `Object.prototype.hasOwnProperty.call (value, name)`. -/
def hasOwnProperty : JsValue → String → Bool
  | .object fields, name => (fields.lookup name).isSome
  | _, _ => false

/-- `low <= value && value <= high`, for a number. -/
def within (low high : Int) : JsValue → Bool
  | .number value => low ≤ value && value ≤ high
  | .fraction value => low ≤ value && value ≤ high
  | _ => false

/-- The value of a safe integer. -/
def integer : JsValue → Int
  | .number value => value
  | _ => 0

end JsValue

namespace Widgets

open JsValue

def lteDownlinkRanges : List (Int × Int × Int) :=
  [(1,0,599),(2,600,1199),(3,1200,1949),(4,1950,2399),(5,2400,2649),(7,2750,3449),
    (8,3450,3799),(11,4750,4949),(12,5010,5179),(13,5180,5279),(17,5730,5849),
    (18,5850,5999),(19,6000,6149),(20,6150,6449),(21,6450,6599),(26,8690,9039),
    (28,9210,9659),(30,9770,9869),(38,37750,38249),(39,38250,38649),(40,38650,39649),
    (41,39650,41589),(66,66436,67335)]

def lteBandMatchesEarfcn (band earfcn : JsValue) : Bool :=
  lteDownlinkRanges.any fun range =>
    band.isNumber range.1 && earfcn.within range.2.1 range.2.2

def bandwidths : List JsValue :=
  [.fraction (7/5),.number 3,.number 5,.number 10,.number 15,.number 20]

def isBandwidth (value : JsValue) : Bool := bandwidths.any fun width => strictEquals width value

def carrierIsValid (carrier : JsValue) (secondary : Bool) : Bool :=
  isObject carrier && isUnsigned (carrier.get "index") && (carrier.get "index").within 1 8 &&
    isUnsigned (carrier.get "band") && (carrier.get "band").within 1 85 &&
    isUnsigned (carrier.get "earfcn") && (carrier.get "earfcn").within 0 262143 &&
    lteBandMatchesEarfcn (carrier.get "band") (carrier.get "earfcn") &&
    isUnsigned (carrier.get "pci") && (carrier.get "pci").within 0 503 &&
    isBandwidth (carrier.get "dl_bandwidth_mhz") && carrier.hasOwnProperty "ul_bandwidth_mhz" &&
    (if secondary then strictEquals .null (carrier.get "ul_bandwidth_mhz")
    else isBandwidth (carrier.get "ul_bandwidth_mhz"))

/-- The fields of a reply with carriers, each for itself. -/
def carrierFieldsAreValid (result summary : JsValue) : Bool :=
  let activeBands := result.get "active_bands"
  let secondary := result.get "secondary"
  identityMatches result summary && (result.get "state").isText "available".toList &&
    activeBands.isArray && 1 ≤ activeBands.items.length && activeBands.items.length ≤ 8 &&
    (activeBands.items.all fun band => isUnsigned band && band.within 1 85) &&
    carrierIsValid (result.get "primary") false &&
    ((result.get "primary").get "index").isNumber 1 &&
    secondary.isArray && secondary.items.length ≤ 7 &&
    (secondary.items.all fun carrier => carrierIsValid carrier true) &&
    (secondary.items.all fun carrier => (carrier.get "index").isSafeIntegerWith (1 < ·)) &&
    isUnsigned (result.get "active_carriers") && (result.get "active_carriers").within 1 8 &&
    (result.get "active_carriers").isNumber (secondary.items.length+1) &&
    (result.get "source").isText "modemmanager".toList &&
    (result.get "method").isText "l850-gtcainfo".toList

/-- The loop over the carriers, with the indexes and tuples seen so far. -/
def carriersAreDistinct : List Int → List (Int × Int × Int) → List JsValue → Bool
  | _, _, [] => true
  | indexes, tuples, carrier::carriers =>
    let index := (carrier.get "index").integer
    let tuple := ((carrier.get "band").integer,(carrier.get "earfcn").integer,
      (carrier.get "pci").integer)
    if indexes.contains index || tuples.contains tuple then false
    else carriersAreDistinct (index::indexes) (tuple::tuples) carriers

/-- The loop over the reported bands, with those seen so far. -/
def bandsAreDistinct : List Int → List JsValue → Bool
  | _, [] => true
  | seen, band::bands =>
    if seen.contains band.integer then false else bandsAreDistinct (band.integer::seen) bands

def carrierInfoError (result summary : JsValue) : Option CString :=
  let error := responseError result
  let malformed := some "Malformed LTE carrier data in the schema 4 response.".toList
  if truthy error then error
  else if !carrierFieldsAreValid result summary then malformed
  else
    let carriers := result.get "primary"::(result.get "secondary").items
    let expectedBands := (carriers.map fun carrier => (carrier.get "band").integer).dedup
    let reportedBands := (result.get "active_bands").items.map integer
    if !carriersAreDistinct [] [] carriers then malformed
    else if !bandsAreDistinct [] (result.get "active_bands").items then malformed
    else if expectedBands.length != reportedBands.length ||
        expectedBands.any (fun band => !reportedBands.contains band) then malformed
    else none

end Widgets

open JsValue Widgets

def transientStates : List CString :=
  ["busy".toList,"dependency_unavailable".toList,"not_ready".toList,"rate_limited".toList,
    "timeout".toList]

/-- `carrierTransientError` of `overview.js`. -/
def carrierTransientError (result summary : JsValue) : Bool :=
  let error := Widgets.object (result.get "error")
  let state := result.get "state"
  let message := error.get "message"
  let hasModemId := isObject result && result.hasOwnProperty "modem_id"
  let hasGeneration := isObject result && result.hasOwnProperty "generation"
  if !isObject result || !(result.get "schema").isNumber schemaVersion ||
      !isUnsigned (result.get "generated_at") || !strictEquals (.boolean false) (result.get "ok") ||
      !transientStates.any (fun name => state.isText name) || !isObject error ||
      !strictEquals (error.get "code") state || !isString message 256 ||
      !(error.get "retryable").isTrue || hasModemId != hasGeneration then false
  else if hasModemId && !identityMatches result summary then false
  else if ["not_ready".toList,"timeout".toList].any (fun name => state.isText name) &&
      !hasModemId then false
  else if state.isText "rate_limited".toList then
    hasModemId &&
      (result.get "retry_after_ms").isSafeIntegerWith (fun delay => 1 ≤ delay && delay ≤ 5000)
  else !result.hasOwnProperty "retry_after_ms"

end Frontend
end L850GL
