import L850GL.Errors
import L850GL.Mutation.Operation
import L850GL.Sms.Cache

/-! SMS operations of `ubus_glib.c`: sending and deleting, their callbacks, and the listing. -/
namespace L850GL
namespace Sms

open Errors Identity Messaging Mutation

def smsDefaultLimit : Nat := 50
def smsMaxLimit : Nat := 100

inductive SmsOperationType
  | send | delete
  deriving DecidableEq,Repr

/-- The address of an SMS operation. -/
abbrev OperationRef := Nat

/-- `request` is the ubus connection the deferred request arrived on and `properties` the
recipient and the text of a message to create; `cancelled` is the state of the cancellable. -/
structure SmsOperation where
  type : SmsOperationType
  modem : ModemRef
  messaging : Nat
  properties : Option (CString × CString)
  sms : Option MMSms
  request : Nat
  generation : Nat
  messagingGeneration : Nat
  timeoutSource : Bool
  clientToken : Option CString
  smsId : Option CString
  requestDigest : Option Digest
  timedOut : Bool
  sendDispatched : Bool
  transportLost : Bool
  deferred : Bool
  cancelled : Bool
  deriving DecidableEq,Repr

/-- A call to ModemManager whose callback has not run. -/
inductive Call
  | list (ref : ModemRef) (source epoch : Nat)
  | create (op : OperationRef)
  | send (op : OperationRef)
  | delete (op : OperationRef) (path : CString)
  deriving DecidableEq,Repr

/-- What a run shows.  An epoch is a value of `messaging_generation`. -/
inductive Observation
  | listed (ref : ModemRef) (epoch : Nat)
  | created (op : OperationRef) (ref : ModemRef) (epoch : Nat)
      (token recipient text : CString) (now : Int)
  | sent (op : OperationRef) (ref : ModemRef) (epoch : Nat) (token : CString) (now : Int)
  | deleting (op : OperationRef) (ref : ModemRef) (epoch : Nat) (smsId path : CString)
  | stored (op : OperationRef) (ref : ModemRef) (epoch : Nat) (token : CString) (now : Int)
  | evicted (ref : ModemRef) (epoch : Nat) (token : CString)
  | failed (op : OperationRef) (code : String) (retryable : Bool)
  | succeeded (op : OperationRef)
  | replied (op : OperationRef) (connection : Nat)
  | released (op : OperationRef)
  | fault (op : OperationRef)
  deriving DecidableEq,Repr

/-- The bridge with its messaging records and the SMS operations.  The records below `admitted`
have been made; `drawn` counts the random values used so far; `trace` is newest first. -/
structure World where
  bridge : Bridge
  admitted : ModemRef
  messaging : ModemRef → Messaging
  properties : Nat → SmsProperties
  operations : OperationRef → Option SmsOperation
  next : OperationRef
  calls : List Call
  drawn : Nat
  ubus : Ubus
  trace : List Observation

namespace World

def observe (w : World) (o : Observation) : World := {w with trace := o::w.trace}

def modem (w : World) (ref : ModemRef) : Modem := w.bridge.modems ref

def updateMessaging (w : World) (ref : ModemRef) (m : Messaging) : World :=
  {w with messaging := Function.update w.messaging ref m}

def updateOperation (w : World) (op : OperationRef) (value : Option SmsOperation) : World :=
  {w with operations := Function.update w.operations op value}

def call (w : World) (c : Call) : World := {w with calls := w.calls++[c]}

/-- `query_sms`. -/
def querySms (w : World) (ref : ModemRef) : World :=
  if !(w.modem ref).live then w
  else
    let queried := (w.messaging ref).querySms
    let w := w.updateMessaging ref queried.1
    match queried.2,(w.messaging ref).messaging with
    | true,some source => w.call (.list ref source (w.messaging ref).messagingGeneration)
    | _,_ => w

/-- Reads an operation; the use of a freed one is a fault, where the model stops. -/
def withOperation (w : World) (op : OperationRef) (use : SmsOperation → World) : World :=
  match w.operations op with
  | none => w.observe (.fault op)
  | some operation => use operation

end World

open World

def smsOperationStaleCode (w : World) (operation : SmsOperation) : Option String :=
  let modem := w.modem operation.modem
  let m := w.messaging operation.modem
  if !modem.live then some "device_gone"
  else if modem.generation ≠ operation.generation then some "stale_generation"
  else if m.messagingGeneration ≠ operation.messagingGeneration ∨
      m.messaging ≠ some operation.messaging then some "stale_messaging_generation"
  else none

def smsOperationTimeout (w : World) (op : OperationRef) : World :=
  w.withOperation op fun operation => w.updateOperation op (some {operation with
    timeoutSource := false,timedOut := true,cancelled := true})

/-- What `sms_operation_free` does to the record. -/
def releaseModem (op : OperationRef) (modem : Modem) : Modem :=
  if modem.mutationKind = .sms ∧ modem.mutationCancellable = some (.sms op) then
    modem.clearMutation
  else modem

def smsOperationFree (w : World) (op : OperationRef) : World :=
  w.withOperation op fun operation =>
    let ref := operation.modem
    let w := w.updateMessaging ref ((w.messaging ref).releaseSmsId operation.smsId)
    let w := {w with bridge := w.bridge.updateModem ref (releaseModem op (w.modem ref))}
    (w.updateOperation op none).observe (.released op)

def smsOperationCompleteBuffer (w : World) (op : OperationRef) : World :=
  w.withOperation op fun operation =>
    let w := if operation.deferred && w.ubus.connected && w.ubus.contextInitialized &&
        !w.ubus.stopping then w.observe (.replied op w.ubus.connection) else w
    smsOperationFree (w.updateOperation op (some {operation with deferred := false})) op

/-- What a full token cache drops for a new token. -/
def evictions (ref : ModemRef) (m : Messaging) (now : Int) (token : CString) : List Observation :=
  let pruned := ExpiringQueue.prune now m.smsDedupe
  match ExpiringQueue.find pruned token with
  | some _ => []
  | none => (ExpiringQueue.evicted l850glSmsDedupeMax pruned).map fun entry =>
      .evicted ref m.messagingGeneration entry.key

/-- `sms_dedupe_store` for an operation. -/
def smsDedupeStore (w : World) (op : OperationRef) (operation : SmsOperation)
    (result : SmsResult) : World :=
  match operation.clientToken with
  | none => w
  | some token =>
    let ref := operation.modem
    let m := w.messaging ref
    let now := w.bridge.now
    let evicted := evictions ref m now token
    let w := w.updateMessaging ref (m.smsDedupeStore now token result)
    {w with trace := .stored op ref m.messagingGeneration token now::evicted++w.trace}

def smsDedupeRemove (w : World) (operation : SmsOperation) : World :=
  match operation.clientToken with
  | none => w
  | some token =>
    let ref := operation.modem
    w.updateMessaging ref ((w.messaging ref).smsDedupeRemove w.bridge.now token)

def smsOperationCompleteError (w : World) (op : OperationRef) (code : String)
    (retryable : Bool) : World :=
  w.withOperation op fun operation =>
    let w := w.observe (.failed op code retryable)
    let w := match operation.type with
      | .delete => w
      | .send =>
        if (smsOperationStaleCode w operation).isNone ∧ code = "outcome_unknown" then
          smsDedupeStore w op operation
            ⟨false,operation.smsId,none,some code,false,operation.requestDigest⟩
        else smsDedupeRemove w operation
    smsOperationCompleteBuffer w op

def normalizeSmsError (w : World) (operation : SmsOperation) (error : Option GError) :
    NormalizedError :=
  let remote := gDbusErrorGetRemoteError error
  if operation.type = .send ∧ operation.sendDispatched ∧
      (operation.timedOut ∨ operation.transportLost ∨
        smsErrorIsTimeoutOrTransport w.bridge.mmCheckVersion124 error remote) then
    ⟨"outcome_unknown",false⟩
  else match smsOperationStaleCode w operation with
    | some stale => ⟨stale,false⟩
    | none =>
      if operation.timedOut then ⟨"timeout",true⟩
      else if operation.transportLost then ⟨"dependency_unavailable",true⟩
      else normalizeSmsErrorRows w.bridge.mmCheckVersion124 error

def smsOperationCompleteNormalizedError (w : World) (op : OperationRef)
    (error : Option GError) : World :=
  w.withOperation op fun operation =>
    let normalized := normalizeSmsError w operation error
    smsOperationCompleteError w op normalized.code normalized.retryable

def smsStateName (state : MMSmsState) : String :=
  match state with
  | .stored => "stored"
  | .receiving => "receiving"
  | .received => "received"
  | .sending => "sending"
  | .sent => "sent"
  | .unknown => "unknown"

def smsOperationCompleteSend (w : World) (op : OperationRef) (storeDedupe : Bool) : World :=
  w.withOperation op fun operation =>
    let state := operation.sms.map fun sms => smsStateName (w.properties sms.object).state
    let w := w.observe (.succeeded op)
    let w := if storeDedupe then
        smsDedupeStore w op operation
          ⟨true,operation.smsId,state,none,false,operation.requestDigest⟩
      else w
    smsOperationCompleteBuffer w op

def smsOperationCompleteDelete (w : World) (op : OperationRef) : World :=
  smsOperationCompleteBuffer (w.observe (.succeeded op)) op

/-- The record as `sms_operation_new` marks it. -/
def acquireModem (op : OperationRef) (modem : Modem) : Modem :=
  {modem with
    mutationBusy := true
    mutationKind := .sms
    mutationCancellable := some (.sms op)}

/-- The operation that `sms_operation_new` fills in, for a record with a messaging object. -/
def newOperation (w : World) (ref : ModemRef) (messaging : Nat) (type : SmsOperationType) :
    SmsOperation where
  type := type
  modem := ref
  messaging := messaging
  properties := none
  sms := none
  request := w.ubus.connection
  generation := (w.modem ref).generation
  messagingGeneration := (w.messaging ref).messagingGeneration
  timeoutSource := true
  clientToken := none
  smsId := none
  requestDigest := none
  timedOut := false
  sendDispatched := false
  transportLost := false
  deferred := true
  cancelled := false

/-- `sms_operation_new` for a prepared operation. -/
def smsOperationNew (w : World) (operation : SmsOperation) : World :=
  let born := w.updateOperation w.next (some operation)
  {born with
    next := w.next+1
    bridge := w.bridge.updateModem operation.modem
      (acquireModem w.next (w.modem operation.modem))}

/-- `sms_create_ready`; `sms` is nothing when `mm_modem_messaging_create_finish` failed. -/
def smsCreateReady (w : World) (op : OperationRef) (sms : Option MMSms)
    (error : Option GError) : World :=
  w.withOperation op fun operation =>
    let operation := {operation with properties := none}
    let w := w.updateOperation op (some operation)
    match sms with
    | none => smsOperationCompleteNormalizedError w op error
    | some sms =>
      let operation := {operation with sms := some sms}
      let w := w.updateOperation op (some operation)
      match smsOperationStaleCode w operation with
      | some stale => smsOperationCompleteError w op stale false
      | none =>
        let ref := operation.modem
        let admitted := (w.messaging ref).admitReservedSms ref (w.modem ref).generation sms
          (operation.smsId.getD [])
        let w := w.updateMessaging ref admitted.1
        if admitted.2.isNone then smsOperationCompleteError w op "internal_error" false
        else match smsOperationStaleCode w operation with
          | some stale => smsOperationCompleteError w op stale false
          | none =>
            if !(w.modem ref).l850glModemAttestMutationTarget then
              smsOperationCompleteError w op "unsupported" false
            else
              let w := w.updateOperation op (some {operation with
                sendDispatched := true,timedOut := false,timeoutSource := true})
              (w.call (.send op)).observe (.sent op ref operation.messagingGeneration
                (operation.clientToken.getD []) w.bridge.now)

def smsSendReady (w : World) (op : OperationRef) (sent : Bool) (error : Option GError) : World :=
  w.withOperation op fun operation =>
    if !sent then smsOperationCompleteNormalizedError w op error
    else match smsOperationStaleCode w operation with
      -- the send succeeded, but an old epoch is kept out of the token cache
      | some _ => smsOperationCompleteSend w op false
      | none => smsOperationCompleteSend (w.querySms operation.modem) op true

def smsDeleteReady (w : World) (op : OperationRef) (deleted : Bool) (error : Option GError) :
    World :=
  w.withOperation op fun operation =>
    if !deleted then smsOperationCompleteNormalizedError w op error
    else match smsOperationStaleCode w operation with
      | some _ => smsOperationCompleteDelete w op
      | none => smsOperationCompleteDelete (w.querySms operation.modem) op

def smsMutationModem (w : World) (tables : Tables) (modemId : CString)
    (generation messagingGeneration : Nat) : Except String ModemRef :=
  match w.bridge.l850glBridgeFindModem modemId with
  | none => .error (if w.bridge.managerAvailable then "stale_identity"
      else "dependency_unavailable")
  | some ref =>
    let modem := w.modem ref
    let m := w.messaging ref
    if modem.generation ≠ generation then .error "stale_generation"
    else if m.messagingGeneration ≠ messagingGeneration then .error "stale_messaging_generation"
    else if m.messaging.isNone then .error "unsupported"
    else if !modem.l850glModemAttestMutationTarget then .error "unsupported"
    else if l850ModemHasActiveMutation tables modem || l850ModemHasActiveScan tables ref ||
        l850ModemHasActiveCarrierQuery tables ref || modem.voltageRefreshPending then
      .error "busy"
    else .ok ref

def sendError (bridge : Bridge) (code message : String) (retryable : Bool) : Reply :=
  addCommon bridge.time false++[errorTable code message retryable]

def sendSmsMutationLookupError (bridge : Bridge) (code : String) : Reply :=
  sendError bridge code (smsErrorMessage code)
    (code == "dependency_unavailable" || code == "not_ready" || code == "busy")

def sendCachedSmsResult (w : World) (ref : ModemRef) (cached : SmsResult) : Reply :=
  if !cached.ok then
    sendError w.bridge (cached.errorCode.getD "") (smsErrorMessage (cached.errorCode.getD ""))
      cached.retryable
  else
    addCommon w.bridge.time true++(w.modem ref).addModemIdentity++
      [("messaging_generation",.u32 (w.messaging ref).messagingGeneration),
       ("sms_id",.string (cached.smsId.getD [])),
       ("state",.text (cached.state.getD "unknown")),("deduplicated",.u8 true)]

structure SendSmsRequest where
  modemId : CString
  generation : Nat
  messagingGeneration : Nat
  recipient : CString
  text : CString
  clientToken : CString
  deriving DecidableEq,Repr

def SendSmsRequest.isValid (request : SendSmsRequest) : Bool :=
  l850glIdentityIsValid request.modemId && l850glSmsRecipientIsValid request.recipient &&
    l850glSmsOutboundTextIsValid request.text &&
    l850glSmsOperationTokenIsValid request.clientToken

section

variable (sha256 : CString → Digest) (random : Nat → Option (Vector UInt8 16))

/-- The operation of a request whose id has been reserved. -/
def sendOperation (w : World) (ref : ModemRef) (messaging : Nat) (request : SendSmsRequest)
    (smsId : CString) : SmsOperation :=
  {newOperation w ref messaging .send with
    properties := some (request.recipient,request.text)
    clientToken := some request.clientToken
    smsId := some smsId
    requestDigest := some (l850glSmsRequestDigest sha256 request.recipient request.text)}

/-- Marks the record and the token, up to `Messaging.Create`. -/
def startSend (w : World) (ref : ModemRef) (messaging : Nat) (request : SendSmsRequest)
    (smsId : CString) : World :=
  let operation := sendOperation sha256 w ref messaging request smsId
  let op := w.next
  let w := smsDedupeStore (smsOperationNew w operation) op operation
    ⟨false,some smsId,none,some "busy",true,operation.requestDigest⟩
  if !(w.modem ref).l850glModemAttestMutationTarget then
    smsOperationCompleteError w op "unsupported" false
  else (w.call (.create op)).observe (.created op ref operation.messagingGeneration
    request.clientToken request.recipient request.text w.bridge.now)

/-- `method_send_sms` for a token that the cache does not know. -/
def sendNewSms (w : World) (ref : ModemRef) (request : SendSmsRequest) : World × Option Reply :=
  if (w.modem ref).mutationBusy then (w,some (sendSmsMutationLookupError w.bridge "busy"))
  else
    let reserved := (w.messaging ref).reserveSmsId random w.drawn
    let w := {w.updateMessaging ref reserved.1 with drawn := reserved.2.2}
    match reserved.2.1,(w.messaging ref).messaging with
    | some smsId,some source => (startSend sha256 w ref source request smsId,none)
    | _,_ => (w,some (sendSmsMutationLookupError w.bridge "internal_error"))

/-- `method_send_sms` on the record it found. -/
def sendSmsOn (w : World) (ref : ModemRef) (request : SendSmsRequest) : World × Option Reply :=
  let found := (w.messaging ref).smsDedupeFind w.bridge.now request.clientToken
  let w := w.updateMessaging ref found.1
  match found.2 with
  | some cached =>
    if cached.value.requestDigest ≠
        some (l850glSmsRequestDigest sha256 request.recipient request.text) then
      (w,some (sendError w.bridge "invalid_argument"
        "client_token was already used for different SMS content" false))
    else (w,some (sendCachedSmsResult w ref cached.value))
  | none => sendNewSms sha256 random w ref request

/-- A request is nothing when `parse_exact_fields` refused the message. -/
def methodSendSms (w : World) (tables : Tables) (request : Option SendSmsRequest) :
    World × Option Reply :=
  match request with
  | none => (w,some (sendError w.bridge "invalid_argument" ("send_sms requires exactly "++
      "modem_id, generation, messaging_generation, recipient, text, and client_token") false))
  | some request =>
    if !request.isValid then
      (w,some (sendError w.bridge "invalid_argument"
        "recipient, text, modem_id, or client_token is invalid" false))
    else match smsMutationModem w tables request.modemId request.generation
        request.messagingGeneration with
      | .error code => (w,some (sendSmsMutationLookupError w.bridge code))
      | .ok ref => sendSmsOn sha256 random w ref request

end

structure DeleteSmsRequest where
  modemId : CString
  generation : Nat
  messagingGeneration : Nat
  smsId : CString
  confirm : Bool
  deriving DecidableEq,Repr

/-- `method_delete_sms` on the record it found. -/
def deleteSmsOn (w : World) (ref : ModemRef) (request : DeleteSmsRequest) :
    World × Option Reply :=
  let m := w.messaging ref
  let refuse := fun code => (w,some (sendSmsMutationLookupError w.bridge code))
  if !m.smsCacheState.isReady then
    (w.querySms ref,some (sendSmsMutationLookupError w.bridge "not_ready"))
  else if (w.modem ref).mutationBusy then refuse "busy"
  else match m.findSms (w.modem ref).generation request.smsId,m.messaging with
    | some entry,some source =>
      if (w.properties entry.sms.object).state = .sending then refuse "busy"
      else match entry.sms.path.filter gVariantIsObjectPath with
        | none => refuse "internal_error"
        | some path =>
          let operation := {newOperation w ref source .delete with
            smsId := some request.smsId}
          let op := w.next
          let w := smsOperationNew w operation
          if !(w.modem ref).l850glModemAttestMutationTarget then
            (smsOperationCompleteError w op "unsupported" false,none)
          else ((w.call (.delete op path)).observe (.deleting op ref
            operation.messagingGeneration request.smsId path),none)
    | _,_ => refuse "not_found"

def methodDeleteSms (w : World) (tables : Tables) (request : Option DeleteSmsRequest) :
    World × Option Reply :=
  match request with
  | none => (w,some (sendError w.bridge "invalid_argument" ("delete_sms requires exactly "++
      "modem_id, generation, messaging_generation, sms_id, and confirm") false))
  | some request =>
    if !l850glIdentityIsValid request.modemId || !l850glSmsIdentityIsValid request.smsId ||
        !request.confirm then
      (w,some (sendError w.bridge "invalid_argument"
        "valid modem_id, sms_id, and confirm=true are required" false))
    else match smsMutationModem w tables request.modemId request.generation
        request.messagingGeneration with
      | .error code => (w,some (sendSmsMutationLookupError w.bridge code))
      | .ok ref => deleteSmsOn w ref request

inductive Folder
  | all | inbox | outbox | draft | unknown
  deriving DecidableEq,Repr

/-- A request of `list_sms` whose folder and cursor passed their checks. -/
structure ListSmsRequest where
  modemId : CString
  folder : Folder
  limit : Nat
  cursor : CString
  deriving DecidableEq,Repr

/-- How `list_sms` answers: with an error, or from the cached messages of the record. -/
inductive ListSmsAnswer
  | refused (code : String) (retryable : Bool)
  | served (ref : ModemRef) (snapshot : List L850GLSms)
  deriving DecidableEq,Repr

/-- `method_list_sms` up to the snapshot that it filters, sorts and cuts into pages. -/
def methodListSms (w : World) (request : Option ListSmsRequest) : World × ListSmsAnswer :=
  match request with
  | none => (w,.refused "invalid_argument" false)
  | some request =>
    if !l850glIdentityIsValid request.modemId then (w,.refused "invalid_argument" false)
    else if request.limit < 1 ∨ smsMaxLimit < request.limit then
      (w,.refused "invalid_argument" false)
    else if request.cursor ≠ [] ∧ !l850glSmsIdentityIsValid request.cursor then
      (w,.refused "invalid_argument" false)
    else match w.bridge.l850glBridgeFindModem request.modemId with
      | none =>
        if w.bridge.managerAvailable then (w,.refused "stale_identity" false)
        else (w,.refused "dependency_unavailable" true)
      | some ref =>
        let m := w.messaging ref
        if m.messaging.isNone then (w,.refused "unsupported" false)
        else if !m.smsCacheState.isReady then (w.querySms ref,.refused "not_ready" true)
        else (w,.served ref (m.smsByPath.map (·.2)))

end Sms
end L850GL
