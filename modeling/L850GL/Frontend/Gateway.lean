import L850GL.Blob
import L850GL.SafeText
import Mathlib.Data.Rat.Floor

/-! The values that a LuCI page reads, and the way of a reply to it: libubox writes the blob as
JSON, uhttpd hands it over and the browser parses it.  That code is not part of the repository, so
the way is given by a structure with its laws. -/
namespace L850GL
namespace Frontend

/-- `text.length`, in UTF-16 code units. -/
def jsLength (text : CString) : Nat :=
  (text.map fun character => if character.toNat < 0x10000 then 1 else 2).sum

/-- A value parsed from JSON, or `undefined`.  A number is an integer, or a fraction. -/
inductive JsValue
  | undefined
  | null
  | boolean (value : Bool)
  | number (value : Int)
  | fraction (value : Rat)
  | string (value : CString)
  | array (items : List JsValue)
  | object (fields : List (String × JsValue))

namespace JsValue

def ofRat (value : Rat) : JsValue :=
  if value.den = 1 then .number value.num else .fraction value

/-- Property access, on a value that is not `null`. -/
def get : JsValue → String → JsValue
  | .object fields, name => (fields.lookup name).getD .undefined
  | _, _ => .undefined

/-- `value == null`. -/
def isNullish : JsValue → Bool
  | .undefined | .null => true
  | _ => false

def isTrue : JsValue → Bool
  | .boolean value => value
  | _ => false

def isBoolean : JsValue → Bool
  | .boolean _ => true
  | _ => false

def isStringValue : JsValue → Bool
  | .string _ => true
  | _ => false

def maxSafeInteger : Int := 9007199254740991

/-- `Number.isSafeInteger (value)` together with a test of the number. -/
def isSafeIntegerWith (p : Int → Bool) : JsValue → Bool
  | .number value => -maxSafeInteger ≤ value && value ≤ maxSafeInteger && p value
  | _ => false

/-- `value === text`. -/
def isText (text : CString) : JsValue → Bool
  | .string value => value == text
  | _ => false

def isNumber (number : Int) : JsValue → Bool
  | .number value => value == number
  | _ => false

end JsValue

/-- An integer of so many bits as libubox prints it, in two's complement. -/
def signed (bits n : Nat) : Int := Int.bmod n (2^bits)

/-- A number as the browser reads it: the safe integers are exact. -/
structure ReadAs (written shown : Int) : Prop where
  exact : |written| ≤ JsValue.maxSafeInteger → shown = written
  above : JsValue.maxSafeInteger < written → JsValue.maxSafeInteger < shown
  below : written < -JsValue.maxSafeInteger → shown < -JsValue.maxSafeInteger

/-- A double as `%lf` prints it, with six decimals. -/
structure PrintedAs (value shown : Rat) : Prop where
  decimals : ∃ n : Int,shown*10^6 = n
  near : -1 ≤ (shown-value)*(2*10^6) ∧ (shown-value)*(2*10^6) ≤ 1

/-- What reaches a page of a value that the bridge writes. -/
structure Gateway where
  ofBlob : Blob → JsValue
  text : CString → CString
  unspec : ofBlob .unspec = .null
  u8 : ∀ value,ofBlob (.u8 value) = .boolean value
  u32 : ∀ n,ofBlob (.u32 n) = .number (signed 32 n)
  u64 : ∀ n,∃ shown,ReadAs (signed 64 n) shown ∧ ofBlob (.u64 n) = .number shown
  double : ∀ value,∃ shown,PrintedAs value shown ∧ ofBlob (.double value) = .ofRat shown
  string : ∀ value,ofBlob (.string value) = .string (text value)
  /-- A text that is valid UTF-8 arrives as its characters. -/
  utf8 : ∀ value characters,Sms.utf8Decode value = some characters →
    text value = characters.map Char.ofNat
  array : ∀ items,ofBlob (.array items) = .array (items.map ofBlob)
  /-- Of a name that occurs twice the browser would keep only one value. -/
  table : ∀ fields : Reply,(fields.map Prod.fst).Nodup →
    ofBlob (.table fields) = .object (fields.map fun field => (field.1,ofBlob field.2))

theorem signed_eq {bits n : Nat} (h : n < 2^bits) :
    signed bits n = if 2*n < 2^bits then (n : Int) else (n : Int)-(2^bits : Nat) := by
  have hmod : (n : Int) % (2^bits : Nat) = n := Int.emod_eq_of_lt (by omega) (by omega)
  rw [signed,Int.bmod_def,hmod]
  split
  · rw [if_pos (by omega)]
  · rw [if_neg (by omega)]

theorem signed_of_lt {n : Nat} (h : n < 2^31) : signed 32 n = n := by
  rw [signed_eq (by omega),if_pos (by omega)]

theorem signed_inj {n m : Nat} (hn : n < 2^32) (hm : m < 2^32) (h : signed 32 n = signed 32 m) :
    n = m := by
  have hmod : (n : Int) % (2^32 : Nat) = (m : Int) % (2^32 : Nat) := by
    rw [← Int.bmod_emod,← Int.bmod_emod (x:=(m : Int))]
    exact congrArg (· % ((2^32 : Nat) : Int)) h
  omega

/-- A number of 64 bits that is read as a safe integer is that integer. -/
theorem ReadAs.eq_of_unsigned {n : Nat} {shown : Int} (h : ReadAs (signed 64 n) shown)
    (hn : n < 2^64) (hlow : 0 ≤ shown) (hhigh : shown ≤ JsValue.maxSafeInteger) : shown = n := by
  have hmax : JsValue.maxSafeInteger = 9007199254740991 := rfl
  have habove := h.above
  have hbelow := h.below
  have hexact := h.exact
  rw [signed_eq hn] at habove hbelow hexact
  split at habove
  · rw [if_pos ‹_›,abs_le] at hexact
    exact hexact ⟨by omega,by omega⟩
  · rename_i hlarge
    rw [if_neg hlarge] at hbelow hexact
    rw [abs_le] at hexact
    omega

/-- A decimal number of six places is printed as it is. -/
theorem PrintedAs.eq_of_decimals {value shown : Rat} (h : PrintedAs value shown) {m : Int}
    (hvalue : value*10^6 = m) : shown = value := by
  obtain ⟨n,hn⟩ := h.decimals
  have hnear := h.near
  have hgap : ((n-m : Int) : Rat)*2 = (shown-value)*(2*10^6) := by
    push_cast
    rw [← hn,← hvalue]
    ring
  rw [← hgap] at hnear
  have hlow : -1 ≤ (n-m)*2 := by exact_mod_cast hnear.1
  have hhigh : (n-m)*2 ≤ 1 := by exact_mod_cast hnear.2
  obtain rfl : n = m := by omega
  rw [← hn] at hvalue
  exact (mul_right_cancel₀ (by norm_num) hvalue).symm

namespace Gateway

variable (gateway : Gateway)

/-- A reply as the page has it. -/
def ofReply (reply : Reply) : JsValue := gateway.ofBlob (.table reply)

mutual

/-- What the laws come to, value by value. -/
def render : Blob → JsValue
  | .table fields => .object (renderFields fields)
  | .array items => .array (renderItems items)
  | value => gateway.ofBlob value

def renderField : String × Blob → String × JsValue
  | (name,value) => (name,render value)

def renderFields : List (String × Blob) → List (String × JsValue)
  | [] => []
  | field::fields => renderField field::renderFields fields

def renderItems : List Blob → List JsValue
  | [] => []
  | item::items => render item::renderItems items

end

def renderReply (reply : Reply) : JsValue := .object (gateway.renderFields reply)

variable {gateway}

theorem renderItems_eq_map (items : List Blob) :
    gateway.renderItems items = items.map gateway.render := by
  induction items with
  | nil => rfl
  | cons item items ih => rw [renderItems,ih,List.map_cons]

theorem renderFields_eq_map (fields : List (String × Blob)) :
    gateway.renderFields fields = fields.map fun field => (field.1,gateway.render field.2) := by
  induction fields with
  | nil => rfl
  | cons field fields ih =>
    obtain ⟨name,value⟩ := field
    rw [renderFields,renderField,ih,List.map_cons]

theorem render_table (fields : Reply) :
    gateway.render (.table fields) = gateway.renderReply fields := by
  rw [render,renderReply]

theorem render_array (items : List Blob) :
    gateway.render (.array items) = .array (items.map gateway.render) := by
  rw [render,renderItems_eq_map]

theorem render_unspec : gateway.render .unspec = .null := gateway.unspec

theorem render_u8 (value : Bool) : gateway.render (.u8 value) = .boolean value := gateway.u8 value

theorem render_u32 (n : Nat) : gateway.render (.u32 n) = .number (signed 32 n) := gateway.u32 n

theorem render_string (value : CString) :
    gateway.render (.string value) = .string (gateway.text value) := gateway.string value

/-- A number of 31 bits arrives as it is. -/
theorem render_u32_of_lt {n : Nat} (h : n < 2^31) : gateway.render (.u32 n) = .number n := by
  rw [render_u32,signed_of_lt h]

theorem render_u64_of_le {n : Nat} (h : (n : Int) ≤ JsValue.maxSafeInteger) :
    gateway.render (.u64 n) = .number n := by
  have hmax : JsValue.maxSafeInteger = 9007199254740991 := rfl
  obtain ⟨shown,hread,hshown⟩ := gateway.u64 n
  have hsame : signed 64 n = n := Int.bmod_eq_of_le (by omega) (by omega)
  rw [hsame] at hread
  have hexact := hread.exact (abs_le.mpr ⟨by omega,h⟩)
  rw [← hexact]
  exact hshown

/-- The gateway gives the laws' value of every blob without repeated names. -/
theorem ofBlob_eq_render {blob : Blob} (h : blob.Distinct) :
    gateway.ofBlob blob = gateway.render blob := by
  induction h with
  | table names values ih =>
    rw [gateway.table _ names,render,renderFields_eq_map]
    exact congrArg JsValue.object (List.map_congr_left fun field hfield =>
      congrArg (field.1,·) (ih field hfield))
  | array h ih =>
    rw [gateway.array,render_array]
    exact congrArg JsValue.array (List.map_congr_left ih)
  | _ => rfl

theorem ofReply_eq {reply : Reply} (h : (Blob.table reply).Distinct) :
    gateway.ofReply reply = gateway.renderReply reply :=
  (ofBlob_eq_render h).trans (render_table reply)

theorem text_ascii {value : CString} (h : ∀ c ∈ value,c.toNat < 0x80) :
    gateway.text value = value := by
  rw [gateway.utf8 _ _ (SafeText.utf8Decode_ascii h),List.map_map]
  simp [Function.comp_def,Char.ofNat_toNat]

theorem renderFields_lookup (reply : Reply) (name : String) :
    (gateway.renderFields reply).lookup name = (reply.lookup name).map gateway.render := by
  rw [renderFields_eq_map]
  induction reply with
  | nil => rfl
  | cons field reply ih =>
    rw [List.map_cons,List.lookup_cons,List.lookup_cons]
    split
    · rfl
    · exact ih

/-- The fields a page reads are those of the reply. -/
theorem renderReply_get (reply : Reply) (name : String) : (gateway.renderReply reply).get name =
    ((reply.lookup name).map gateway.render).getD .undefined := by
  rw [renderReply,JsValue.get,renderFields_lookup]

theorem renderReply_get_some {reply : Reply} {name : String} {value : Blob}
    (h : reply.lookup name = some value) :
    (gateway.renderReply reply).get name = gateway.render value := by
  rw [renderReply_get,h]
  rfl

theorem renderReply_get_none {reply : Reply} {name : String} (h : reply.lookup name = none) :
    (gateway.renderReply reply).get name = .undefined := by
  rw [renderReply_get,h]
  rfl

end Gateway

def sixDecimals (value : Rat) : Rat := ⌊value*10^6+1/2⌋/10^6

mutual

def parseJson : Blob → JsValue
  | .unspec => .null
  | .u8 value => .boolean value
  | .u32 n => .number (signed 32 n)
  | .u64 n => .number (signed 64 n)
  | .double value => .ofRat (sixDecimals value)
  | .string value =>
    .string (((Sms.utf8Decode value).map (List.map Char.ofNat)).getD value)
  | .table fields => .object (parseFields fields)
  | .array items => .array (parseItems items)

def parseFields : List (String × Blob) → List (String × JsValue)
  | [] => []
  | (name,value)::fields => (name,parseJson value)::parseFields fields

def parseItems : List Blob → List JsValue
  | [] => []
  | item::items => parseJson item::parseItems items

end

theorem printedAs_sixDecimals (value : Rat) : PrintedAs value (sixDecimals value) := by
  have hsplit : sixDecimals value*10^6 = (⌊value*10^6+1/2⌋ : Rat) := by
    rw [sixDecimals]
    exact div_mul_cancel₀ _ (by norm_num)
  have hle := Int.floor_le (value*10^6+1/2)
  have hlt := Int.lt_floor_add_one (value*10^6+1/2)
  refine ⟨⟨_,hsplit⟩,?_,?_⟩
  · linarith
  · linarith

/-- A gateway whose numbers are never rounded by the browser. -/
def sampleGateway : Gateway where
  ofBlob := parseJson
  text value := ((Sms.utf8Decode value).map (List.map Char.ofNat)).getD value
  unspec := by rw [parseJson]
  u8 _ := by rw [parseJson]
  u32 _ := by rw [parseJson]
  u64 n := ⟨signed 64 n,⟨fun _ => rfl,id,id⟩,by rw [parseJson]⟩
  double value := ⟨_,printedAs_sixDecimals value,by rw [parseJson]⟩
  string _ := by rw [parseJson]
  utf8 value characters h := by
    rw [h]
    rfl
  array items := by
    rw [parseJson]
    refine congrArg JsValue.array ?_
    induction items with
    | nil => rfl
    | cons item items ih => rw [parseItems,ih,List.map_cons]
  table fields hnames := by
    clear hnames
    rw [parseJson]
    refine congrArg JsValue.object ?_
    induction fields with
    | nil => rfl
    | cons field fields ih => rw [parseFields,ih,List.map_cons]

end Frontend
end L850GL
