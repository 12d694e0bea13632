import L850GL.Cell
import L850GL.Frontend.Widgets

/-! The checks of `widgets.js` on the replies that its pages show. -/
namespace L850GL
namespace Frontend

namespace JsValue

/-- `left === right`, for values that are not both objects or arrays. -/
def strictEquals : JsValue → JsValue → Bool
  | .undefined, .undefined | .null, .null => true
  | .boolean left, .boolean right => left == right
  | .number left, .number right => left == right
  | .fraction left, .fraction right => left == right
  | .string left, .string right => left == right
  | _, _ => false

def isArray : JsValue → Bool
  | .array _ => true
  | _ => false

/-- The items of an array. -/
def items : JsValue → List JsValue
  | .array items => items
  | _ => []

/-- `Object.assign ({}, value, fields)`. -/
def assign (value : JsValue) (fields : List (String × JsValue)) : JsValue :=
  match value with
  | .object old => .object (fields++old)
  | _ => .object fields

/-- Whether a text or nothing counts as true. -/
def truthy : Option CString → Bool
  | some (_::_) => true
  | _ => false

theorem assign_get_some {value assigned : JsValue} {fields : List (String × JsValue)}
    {name : String} (h : fields.lookup name = some assigned) :
    (value.assign fields).get name = assigned := by
  cases value <;> simp [assign,get,List.lookup_append,h]

theorem assign_get_none {value : JsValue} {fields : List (String × JsValue)} {name : String}
    (h : fields.lookup name = none) : (value.assign fields).get name = value.get name := by
  cases value <;> simp [assign,get,List.lookup_append,h]

theorem strictEquals_eq_number {value : JsValue} {n : Int} :
    strictEquals value (.number n) = true ↔ value = .number n := by
  cases value <;> simp [strictEquals]

theorem strictEquals_string {value : JsValue} {text : CString} :
    strictEquals (.string text) value = true ↔ value = .string text := by
  cases value with
  | string other => simpa [strictEquals] using eq_comm
  | _ => simp [strictEquals]

end JsValue

namespace Widgets

open JsValue

/-- `Number.isFinite (value)` for the numbers of a reply. -/
def isFiniteNumber : JsValue → Bool
  | .number _ | .fraction _ => true
  | _ => false

def isStringArray (value : JsValue) (maximum : Nat) : Bool :=
  value.isArray && value.items.length ≤ maximum && value.items.all fun entry => isString entry 160

def identityMatches (result summary : JsValue) : Bool :=
  isObject result && isObject summary &&
    strictEquals (result.get "modem_id") (summary.get "modem_id") &&
    strictEquals (result.get "generation") (summary.get "generation")

def deliveryStateIsValid (state : JsValue) : Bool :=
  state.isNullish || isFiniteNumber state || isString state 64 ||
    (isObject state && isString (state.get "name") 64 &&
      (isUnsigned (state.get "code") || isString (state.get "code") 32))

def smsMessageIsValid (message : JsValue) : Bool :=
  isObject message && isString (message.get "sms_id") 80 &&
    isString (message.get "direction") 32 && isString (message.get "state") 32 &&
    isString (message.get "folder") 32 && isString (message.get "number") 64 &&
    isString (message.get "text") 16384 && isString (message.get "timestamp") 64 &&
    isString (message.get "discharge_timestamp") 64 && isString (message.get "storage") 32 &&
    isString (message.get "pdu_type") 64 && (message.get "text_truncated").isBoolean &&
    (message.get "has_binary_data").isBoolean &&
    ((message.get "message_reference").isNullish || isUnsigned (message.get "message_reference")) &&
    deliveryStateIsValid (message.get "delivery_state")

def smsFolders : List CString :=
  ["all".toList,"inbox".toList,"outbox".toList,"draft".toList,"unknown".toList]

def smsIsValid (result summary : JsValue) (maximum : Nat) : Bool :=
  identityMatches result summary && isUnsigned (result.get "messaging_generation") &&
    isUnsigned (result.get "revision") && isString (result.get "cache_state") 64 &&
    (result.get "cache_truncated").isBoolean && isUnsigned (result.get "dedupe_capacity") &&
    isUnsigned (result.get "dedupe_window_seconds") &&
    smsFolders.any (fun folder => (result.get "folder").isText folder) &&
    isUnsigned (result.get "limit") &&
    (result.get "limit").isSafeIntegerWith (fun limit => 1 ≤ limit && limit ≤ 100) &&
    (result.get "messages").isArray && (result.get "messages").items.length ≤ maximum &&
    (result.get "messages").items.all smsMessageIsValid && (result.get "has_more").isBoolean &&
    isString (result.get "next_cursor") 80 &&
    !((result.get "has_more").isTrue && (result.get "next_cursor").isText [])

def smsError (result summary : JsValue) (maximum : Nat) : Option CString :=
  let error := responseError result
  if truthy error then error
  else if !smsIsValid result summary maximum then
    some "Malformed SMS data in the schema 4 response.".toList
  else none

theorem isUnsigned_le {n : Nat} (h : (n : Int) ≤ maxSafeInteger) :
    isUnsigned (.number n) = true := by
  have hmax : maxSafeInteger = 9007199254740991 := rfl
  simp only [isUnsigned,isSafeIntegerWith,Bool.and_eq_true,decide_eq_true_eq]
  omega

/-- Of a number of 32 bits the page takes the lower half. -/
theorem isUnsigned_render_iff {gateway : Gateway} {n : Nat} (h : n ≤ Cell.uint32Max) :
    isUnsigned (gateway.render (.u32 n)) = true ↔ n < 2^31 := by
  have hmax : maxSafeInteger = 9007199254740991 := rfl
  have hlimit : Cell.uint32Max = 4294967295 := rfl
  constructor
  · intro hunsigned
    by_contra hlarge
    have hneg : signed 32 n = (n : Int)-(2^32 : Nat) := by
      rw [signed_eq (by omega),if_neg (by omega)]
    simp only [Gateway.render_u32,hneg,isUnsigned,isSafeIntegerWith,Bool.and_eq_true,
      decide_eq_true_eq] at hunsigned
    omega
  · intro hsmall
    rw [Gateway.render_u32_of_lt hsmall]
    exact isUnsigned_le (by omega)

theorem smsIsValid_counters {result summary : JsValue} {maximum : Nat}
    (h : smsIsValid result summary maximum = true) :
    isUnsigned (result.get "messaging_generation") = true ∧
      isUnsigned (result.get "revision") = true := by
  simp only [smsIsValid,Bool.and_eq_true] at h
  tauto

theorem truthy_smsError {result summary : JsValue} {maximum : Nat} :
    truthy (smsError result summary maximum) = false ↔
      truthy (responseError result) = false ∧ smsIsValid result summary maximum = true := by
  simp only [smsError]
  split
  · simp_all
  · rename_i h
    split
    · simp_all [truthy]
    · simp_all [truthy]

end Widgets
end Frontend
end L850GL
