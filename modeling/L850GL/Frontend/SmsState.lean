import L850GL.Frontend.Responses
import L850GL.Sms.Operation

/-! What the SMS page keeps for a modem: the draft being written, the drafts of conversations, and
the folder shown, with the functions of `sms.js` on them. -/
namespace L850GL
namespace Frontend
namespace SmsPage

open JsValue Sms Widgets

/-- A JavaScript string as its UTF-16 code units. -/
abbrev JsString := List Nat

/-- The code units of a scalar value. -/
def utf16Units (character : Nat) : JsString :=
  if character < 0x10000 then [character]
  else [0xD800+(character-0x10000)/0x400,0xDC00+(character-0x10000)%0x400]

def utf16 (text : CString) : JsString := text.flatMap fun character => utf16Units character.toNat

/-- The test `/^\+?[0-9]{1,20}$/`. -/
def isRecipient (value : JsString) : Bool :=
  let digits := match value with
    | 0x2B::rest => rest
    | value => value
  1 ≤ digits.length && digits.length ≤ 20 && digits.all fun unit => 0x30 ≤ unit && unit ≤ 0x39

/-- The modem and the epoch that a message is sent in. -/
structure Context where
  modemId : CString
  generation : Int
  messagingGeneration : Int
  deriving DecidableEq,Repr

/-- The fields of `DRAFT_FIELDS`; `token` tells what the client token was made for. -/
structure Draft where
  composeOpen : Bool
  recipient : JsString
  text : JsString
  clientToken : Option CString
  tokenRecipient : Option JsString
  tokenText : Option JsString
  tokenContext : Option Context
  deriving DecidableEq,Repr

def Draft.empty : Draft := ⟨false,[],[],none,none,none,none⟩

structure DeviceState extends Draft where
  folder : Folder
  loadedFolder : Folder
  pageCount : Nat
  conversationNumber : Option JsString
  conversationReturnFolder : Option Folder
  conversationReturnPageCount : Nat
  conversationReturnDraft : Option Draft
  conversationDrafts : List (JsString × Draft)
  selectionMode : Bool
  selectedSmsIds : List CString
  sending : Bool
  deleting : List CString
  preparingDeleteAll : Bool
  deriving DecidableEq,Repr

/-- The state that `stateFor` makes. -/
def DeviceState.new : DeviceState where
  toDraft := Draft.empty
  folder := .all
  loadedFolder := .all
  pageCount := 1
  conversationNumber := none
  conversationReturnFolder := none
  conversationReturnPageCount := 1
  conversationReturnDraft := none
  conversationDrafts := []
  selectionMode := false
  selectedSmsIds := []
  sending := false
  deleting := []
  preparingDeleteAll := false

/-- What a page shows of a modem. -/
structure Entry where
  summary : JsValue
  messages : JsValue
  messagesError : Option CString

def activeFolder (state : DeviceState) : Folder :=
  if state.conversationNumber.any (· ≠ []) then .all else state.folder

def isMutationBusy (state : DeviceState) : Bool :=
  state.sending || state.preparingDeleteAll || state.deleting ≠ []

/-- The context of an entry whose messages are valid and of its modem. -/
def mutationContext (entry : Entry) : Option Context :=
  let summary := object entry.summary
  let messages := object entry.messages
  if truthy entry.messagesError || truthy (smsError messages summary 1024) then none
  else match summary.get "modem_id",summary.get "generation",
      messages.get "messaging_generation" with
    | .string modemId,.number generation,.number messagingGeneration =>
      if mutationAllowed messages messages modemId generation then
        some ⟨modemId,generation,messagingGeneration⟩
      else none
    | _,_,_ => none

/-- The number of a message, unless it is empty. -/
def messageNumber (message : JsValue) : Option CString :=
  match message.get "number" with
  | .string (c::cs) => some (c::cs)
  | _ => none

def messagesForView (messages : List JsValue) (state : DeviceState) : List JsValue :=
  match state.conversationNumber with
  | none | some [] => messages
  | some partner =>
    messages.filter fun message => (messageNumber message).map utf16 == some partner

/-- The id of a message. -/
def smsIdOf (message : JsValue) : Option CString :=
  match isObject message,message.get "sms_id" with
  | true,.string smsId => some smsId
  | _,_ => none

def uniqueSmsIds (messages : List JsValue) : List CString :=
  messages.foldl (fun ids message =>
    match smsIdOf message with
    | some (c::cs) => if (c::cs) ∈ ids then ids else ids++[c::cs]
    | _ => ids) []

end SmsPage
end Frontend
end L850GL
