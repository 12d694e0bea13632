import L850GL.Text

/-! The strict parser of requests (`ubus_request.c`).  The functions of libubox that it calls are
given by a structure; each of them sees the bytes from an attribute to the end of the message. -/
namespace L850GL
namespace UbusRequest

abbrev Bytes := List UInt8

/-- `blobmsg_check_attr_len` with the name required, `blobmsg_name`, `blobmsg_type`,
`blobmsg_data` with `blobmsg_data_len`, and `blob_pad_len`. -/
structure Blobmsg where
  checkAttrLen : Bytes → Bool
  name : Bytes → CString
  type : Bytes → Nat
  data : Bytes → Bytes
  padLen : Bytes → Nat

def sizeofBlobAttr : Nat := 4
def blobmsgTypeString : Nat := 3
def rpcSessionName : CString := "ubus_rpc_session".toList
def rpcSessionHexLength : Nat := 32
def requestPolicyMax : Nat := 63

def asciiIsHex (value : UInt8) : Bool :=
  (0x30 ≤ value && value ≤ 0x39) || (0x61 ≤ value && value ≤ 0x66) ||
    (0x41 ≤ value && value ≤ 0x46)

def strlen (value : Bytes) : Nat := (value.takeWhile (· != 0)).length

structure BlobmsgPolicy where
  name : Option CString
  type : Nat
  deriving DecidableEq,Repr

/-- `seen`, `session_seen` and `parsed`; a slot holds the attribute that it points to. -/
structure Slots where
  seen : BitVec 64
  sessionSeen : Bool
  parsed : List (Option Bytes)
  deriving DecidableEq,Repr

/-- The loop's variables, and the places that it has looked at. -/
structure Walk where
  offset : Nat
  remaining : Nat
  slots : Slots
  visited : List (Nat × Nat)
  deriving DecidableEq,Repr

section

variable (b : Blobmsg)

def l850glUbusBlobAttrIsValid (attr : Bytes) : Bool :=
  if attr.length < sizeofBlobAttr then false else b.checkAttrLen attr

def l850glUbusBlobStringIsCanonical (attr : Bytes) : Bool :=
  if !l850glUbusBlobAttrIsValid b attr || b.type attr != blobmsgTypeString then false
  else
    let value := b.data attr
    0 < value.length && value[value.length-1]? == some 0 &&
      !(value.take (value.length-1)).contains 0

def l850glUbusRpcSessionIsValid (attr : Bytes) : Bool :=
  if !l850glUbusBlobAttrIsValid b attr || b.name attr != rpcSessionName ||
      b.type attr != blobmsgTypeString ||
      !l850glUbusBlobStringIsCanonical b attr then false
  else
    let value := b.data attr
    if strlen value != rpcSessionHexLength then false
    else (value.take rpcSessionHexLength).all asciiIsHex

/-- The loop body between the first check and `next`. -/
def admitAttribute (policy : List BlobmsgPolicy) (slots : Slots) (attr : Bytes) :
    Option Slots :=
  if b.name attr = rpcSessionName then
    if slots.sessionSeen || !l850glUbusRpcSessionIsValid b attr then none
    else some {slots with sessionSeen := true}
  else
    let index := policy.findIdx fun field => field.name == some (b.name attr)
    let bit := BitVec.twoPow 64 index
    match policy[index]? with
    | none => none
    | some field =>
      if slots.seen &&& bit != 0 || b.type attr != field.type then none
      else if field.type == blobmsgTypeString && !l850glUbusBlobStringIsCanonical b attr then
        none
      else
        some {slots with
          seen := slots.seen ||| bit
          parsed := slots.parsed.set index (some (attr.take (b.padLen attr)))}

/-- The loop of `l850gl_ubus_parse_exact`, nothing when the fuel is not enough. -/
def parseLoop (message : Bytes) (policy : List BlobmsgPolicy) (required : BitVec 64) :
    Nat → Walk → Option (Bool × Walk)
  | 0, _ => none
  | fuel+1, walk =>
    if walk.remaining = 0 then some (walk.slots.seen &&& required == required,walk)
    else
      let attr := (message.drop walk.offset).take walk.remaining
      let walk := {walk with visited := walk.visited++[(walk.offset,walk.remaining)]}
      if !l850glUbusBlobAttrIsValid b attr then some (false,walk)
      else match admitAttribute b policy walk.slots attr with
        | none => some (false,walk)
        | some slots =>
          let padded := b.padLen attr
          if walk.remaining < padded then some (false,walk)
          else parseLoop message policy required fuel
            {walk with
              remaining := walk.remaining-padded
              offset := walk.offset+padded
              slots := slots}

/-- `l850gl_ubus_parse_exact` of a message's data. -/
def l850glUbusParseExact (message : Bytes) (policy : List BlobmsgPolicy) (required : BitVec 64)
    (fuel : Nat) : Option (Bool × Walk) :=
  let start : Walk := ⟨0,message.length,⟨0,false,List.replicate policy.length none⟩,[]⟩
  if policy.length = 0 ∨ requestPolicyMax < policy.length then some (false,start)
  else parseLoop b message policy required fuel start

end

end UbusRequest
end L850GL
