import L850GL.Frontend.SmsState
import L850GL.Lib.AssocList

/-! The drafts of the SMS page: how they are written, put aside and taken up again, and how one is
sent. -/
namespace L850GL
namespace Frontend
namespace SmsPage

open Identity JsValue Sms Widgets

def maxTextScalars : Nat := 1600
def maxTextBytes : Nat := 6400

/-- The white space and line ends that `String.prototype.trim` removes. -/
def isWhiteSpace (unit : Nat) : Bool :=
  (0x09 ≤ unit && unit ≤ 0x0D) || (0x2000 ≤ unit && unit ≤ 0x200A) ||
    [0x20,0xA0,0x1680,0x2028,0x2029,0x202F,0x205F,0x3000,0xFEFF].contains unit

def trim (value : JsString) : JsString :=
  ((value.dropWhile isWhiteSpace).reverse.dropWhile isWhiteSpace).reverse

structure TextMetrics where
  scalars : Nat
  bytes : Nat
  deriving DecidableEq,Repr

def TextMetrics.add (metrics : TextMetrics) (bytes : Nat) : TextMetrics :=
  ⟨metrics.scalars+1,metrics.bytes+bytes⟩

/-- Nothing for a surrogate that has no partner. -/
def textMetrics : JsString → Option TextMetrics
  | [] => some ⟨0,0⟩
  | unit::rest =>
    if 0xD800 ≤ unit ∧ unit ≤ 0xDBFF then
      match rest with
      | [] => none
      | next::rest =>
        if next < 0xDC00 ∨ 0xDFFF < next then none else (textMetrics rest).map (·.add 4)
    else if 0xDC00 ≤ unit ∧ unit ≤ 0xDFFF then none
    else (textMetrics rest).map (·.add (if unit ≤ 0x7F then 1 else if unit ≤ 0x7FF then 2 else 3))

def validateDraft (recipient text : JsString) : Option String :=
  if !isRecipient recipient then
    some "Enter a recipient containing 1–20 digits, with an optional leading +."
  else if text = [] then some "Enter the SMS text."
  else match textMetrics text with
    | none => some "The SMS text contains invalid Unicode."
    | some metrics =>
      if maxTextScalars < metrics.scalars ∨ maxTextBytes < metrics.bytes then
        some "SMS text is limited to 1600 Unicode characters and 6400 UTF-8 bytes."
      else none

/-- `random` is nothing where the browser has no secure random values. -/
def generateClientToken (random : Option (Vector UInt8 16)) : Option CString :=
  tokenGenerateWith l850glSmsOpPrefix random

def Draft.clearRetryToken (draft : Draft) : Draft :=
  {draft with clientToken := none,tokenRecipient := none,tokenText := none,tokenContext := none}

inductive DraftField
  | recipient | text
  deriving DecidableEq,Repr

def Draft.write (draft : Draft) (field : DraftField) (value : JsString) : Draft :=
  match field with
  | .recipient => {draft with recipient := value}
  | .text => {draft with text := value}

/-- `updateDraft`. -/
def updateDraft (state : DeviceState) (field : DraftField) (value : JsString) : DeviceState :=
  let draft := state.toDraft.write field value
  let edited := draft.clientToken.isSome &&
    (some draft.recipient != draft.tokenRecipient || some draft.text != draft.tokenText)
  {state with toDraft := if edited then draft.clearRetryToken else draft}

/-- The recipient of a conversation replaces the one of a draft. -/
def Draft.lockRecipient (draft : Draft) (recipient : JsString) : Draft :=
  if draft.recipient = recipient then draft
  else
    let locked := {draft with recipient := recipient}
    if locked.clientToken.isSome && locked.tokenRecipient != some recipient then
      locked.clearRetryToken
    else locked

def clearSelection (state : DeviceState) : DeviceState :=
  {state with selectionMode := false,selectedSmsIds := []}

/-- The partner of the conversation that is open. -/
def partnerOf (state : DeviceState) : Option JsString := state.conversationNumber.filter (· ≠ [])

def isConversation (state : DeviceState) : Bool := (partnerOf state).isSome

def conversationRecipient (state : DeviceState) : Option JsString :=
  state.conversationNumber.filter isRecipient

def captureDraft (state : DeviceState) : Draft := state.toDraft

def restoreDraft (state : DeviceState) (draft : Option Draft) : DeviceState :=
  {state with toDraft := draft.getD Draft.empty}

def newConversationDraft (number : JsString) : Draft :=
  let canReply := isRecipient number
  {Draft.empty with composeOpen := canReply,recipient := if canReply then number else []}

/-- `openConversation` for a message with a number. -/
def openConversation (state : DeviceState) (number : JsString) : DeviceState :=
  if number = [] || state.selectionMode || isMutationBusy state then state
  else
    let state := clearSelection state
    let saved := (state.conversationDrafts.lookup number).getD (newConversationDraft number)
    let opened := restoreDraft {state with
      conversationReturnDraft := some (captureDraft state)
      conversationReturnPageCount := state.pageCount
      conversationNumber := some number
      conversationReturnFolder := some state.folder
      loadedFolder := .all
      pageCount := 1} (some saved)
    {opened with toDraft := opened.toDraft.lockRecipient ((conversationRecipient opened).getD [])}

/-- What activating a message outside of a selection does. -/
def activateCard (state : DeviceState) (number : JsString) : DeviceState :=
  if isConversation state then state else openConversation state number

/-- `state.conversationDrafts[number] = captureDraft(state)` with a number. -/
def saveConversation (state : DeviceState) : List (JsString × Draft) :=
  match partnerOf state with
  | none => state.conversationDrafts
  | some partner => AssocList.put state.conversationDrafts partner (captureDraft state)

def closeConversation (state : DeviceState) : DeviceState :=
  let folder := state.conversationReturnFolder.getD .all
  let state := clearSelection state
  let closed := restoreDraft {state with
    conversationDrafts := saveConversation state
    conversationNumber := none
    conversationReturnFolder := none
    folder := folder
    loadedFolder := folder
    pageCount := max 1 state.conversationReturnPageCount
    conversationReturnPageCount := 1} state.conversationReturnDraft
  {closed with conversationReturnDraft := none}

/-- What Escape does to the state of a modem. -/
def escape (state : DeviceState) : DeviceState :=
  if state.selectionMode then clearSelection state
  else if isConversation state then closeConversation state
  else state

/-- The arguments of `api.sendSms`. -/
structure SmsRequest where
  context : Context
  recipient : JsString
  text : JsString
  clientToken : CString
  deriving DecidableEq,Repr

/-- The token of a draft that has not changed since it was made, or else a new one. -/
def Draft.tokenFor (random : Option (Vector UInt8 16)) (draft : Draft) (context : Context)
    (recipient text : JsString) : Option (CString × Draft) :=
  match draft.clientToken.filter fun _ =>
    draft.tokenRecipient = some recipient ∧ draft.tokenText = some text with
  | some token => some (token,draft)
  | none => (generateClientToken random).map fun token =>
    (token,{draft with
      clientToken := some token
      tokenRecipient := some recipient
      tokenText := some text
      tokenContext := some context})

/-- The draft with the recipient of the conversation that is open. -/
def lockedDraft (state : DeviceState) : Draft :=
  match conversationRecipient state with
  | none => state.toDraft
  | some recipient => state.toDraft.lockRecipient recipient

/-- `handleSend` up to its request; a state that sends is busy. -/
def handleSend (random : Option (Vector UInt8 16)) (state : DeviceState) (entry : Entry) :
    DeviceState × Option SmsRequest :=
  if isMutationBusy state then (state,none)
  else
    let lockedRecipient := conversationRecipient state
    let recipient := lockedRecipient.getD (trim state.recipient)
    let text := state.text
    let draft := lockedDraft state
    if (validateDraft recipient text).isSome then ({state with toDraft := draft},none)
    else match mutationContext entry with
      | none => ({state with toDraft := draft},none)
      | some context =>
        if draft.clientToken.isSome && draft.tokenContext != some context then
          ({state with toDraft := draft.clearRetryToken},none)
        else match draft.tokenFor random context recipient text with
          | none => ({state with toDraft := draft},none)
          | some (token,draft) =>
            ({state with toDraft := {draft with recipient := recipient},sending := true},
              some ⟨context,recipient,text,token⟩)

/-- The error that the result of a send shows. -/
def sendError (context : Context) (result : JsValue) : Option CString :=
  let error := responseError result
  if !truthy error && (!mutationAllowed result result context.modemId context.generation ||
      !(result.get "messaging_generation").isNumber context.messagingGeneration ||
      !(result.get "sms_id").isStringValue || !(result.get "state").isStringValue ||
      !(result.get "deduplicated").isBoolean) then
    some "The bridge returned an incomplete SMS send response.".toList
  else error

/-- What the result of a send does to the state it was sent from. -/
def sendAnswered (state : DeviceState) (context : Context) (result : JsValue) : DeviceState :=
  if truthy (sendError context result) then {state with sending := false}
  else
    {state with
      toDraft := {state.toDraft.clearRetryToken with
        recipient := (conversationRecipient state).getD []
        text := []}
      sending := false}

/-- A send whose call failed. -/
def sendFailed (state : DeviceState) : DeviceState := {state with sending := false}

end SmsPage
end Frontend
end L850GL
