import L850GL.Frontend.Gateway

/-! The response checks of `widgets.js`. -/
namespace L850GL
namespace Frontend

namespace Widgets

open JsValue

def schemaVersion : Int := 4

def isObject : JsValue → Bool
  | .object _ => true
  | _ => false

def object (value : JsValue) : JsValue := if isObject value then value else .object []

def isUnsigned (value : JsValue) : Bool := value.isSafeIntegerWith (0 ≤ ·)

def isString (value : JsValue) (maximum : Nat) : Bool :=
  match value with
  | .string text => jsLength text ≤ maximum && !text.contains '\x00'
  | _ => false

/-- `display` of a value that is no array. -/
def displayPrimitive (value : JsValue) (fallback : CString) : CString :=
  match value with
  | .boolean true => "Yes".toList
  | .boolean false => "No".toList
  | .string [] => fallback
  | .string text => text
  | .number n => (toString n).toList
  | _ => fallback

def isPrimitive : JsValue → Bool
  | .string _ | .number _ | .boolean _ => true
  | _ => false

def display (value : JsValue) (fallback : CString) : CString :=
  match value with
  | .array items =>
    let shown := (items.filter isPrimitive).map fun item => displayPrimitive item "—".toList
    if shown = [] then fallback else ", ".toList.intercalate shown
  | value => displayPrimitive value fallback

def isCompatible (result : JsValue) : Bool :=
  isObject result && (result.get "schema").isNumber schemaVersion && (result.get "ok").isBoolean

def textOf : JsValue → CString
  | .string text => text
  | _ => []

/-- The error a page shows for the envelope of a reply, or nothing. -/
def envelopeError (result : JsValue) : Option CString :=
  if !isCompatible result then
    some "Incompatible API schema. This interface requires schema 4.".toList
  else if !isUnsigned (result.get "generated_at") then
    some "Malformed schema 4 response from the L850GL MM bridge.".toList
  else if !(result.get "ok").isTrue then
    let error := result.get "error"
    if !isObject error || !isString (error.get "code") 64 || !isString (error.get "message") 256 ||
        !(error.get "retryable").isBoolean then
      some "Malformed schema 4 error response from the L850GL MM bridge.".toList
    else
      let message := textOf (error.get "message")
      let code := textOf (error.get "code")
      some (if message = [] then code else message++" (".toList++code++")".toList)
  else none

/-- `response_error` of a value that came as JSON, so is no `Error` instance. -/
def responseError (result : JsValue) : Option CString :=
  if result.isNullish then some "No response was received from the L850GL MM bridge.".toList
  else if !isObject result then some "Malformed response from the L850GL MM bridge.".toList
  else if !(result.get "transport_error").isNullish then
    some (display (result.get "transport_error") "Unknown transport error".toList)
  else envelopeError result

def mutationAllowed (envelope identity : JsValue) (modemId : CString) (generation : Int) : Bool :=
  responseError envelope == none && (envelope.get "ok").isTrue && isObject identity &&
    (identity.get "modem_id").isText modemId && (identity.get "generation").isNumber generation

end Widgets
end Frontend
end L850GL
