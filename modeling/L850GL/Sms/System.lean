import L850GL.Lib.Transition
import L850GL.Sms.Operation

/-! The runs of the messaging half of the bridge: requests, replies of ModemManager, its
signals, epoch changes, removed records and the ubus connection, in any order. -/
namespace L850GL
namespace Sms

open Errors Messaging Mutation World

/-- What a reply of ModemManager carries; a callback reads the part of its own call. -/
structure Outcome where
  messages : List MMSms
  sms : Option MMSms
  succeeded : Bool
  error : Option GError
  deriving DecidableEq,Repr

/-- What runs next.  `reconcile` is `reconcile_messaging` with the interface found on the
object. -/
inductive Event
  | sendSms (tables : Tables) (request : Option SendSmsRequest)
  | deleteSms (tables : Tables) (request : Option DeleteSmsRequest)
  | listSms (request : Option ListSmsRequest)
  | finish (index : Nat) (outcome : Outcome)
  | timeout (op : OperationRef)
  | added (ref : ModemRef) (path : Option CString)
  | deleted (ref : ModemRef) (path : Option CString)
  | smsPropertiesChanged (ref : ModemRef) (path : CString) (properties : Nat → SmsProperties)
  | reconcile (ref : ModemRef) (forceEpoch : Bool) (messaging : Option Nat)
  | refreshSms (ref : ModemRef)
  | admitted
  | removed (ref : ModemRef)
  | connectionLost
  | reconnected
  | shutdown
  | stop

/-- Cancels the SMS operation that holds the record. -/
def cancelMutation (w : World) (ref : ModemRef) : World :=
  match (w.modem ref).mutationCancellable with
  | some (.sms op) =>
    w.updateOperation op
      ((w.operations op).map fun operation => {operation with cancelled := true})
  | _ => w

def reconcileMessaging (w : World) (ref : ModemRef) (forceEpoch : Bool)
    (messaging : Option Nat) : World :=
  let m := w.messaging ref
  if !forceEpoch && messaging == m.messaging then w
  else
    let w := if (w.modem ref).mutationKind = .sms then cancelMutation w ref else w
    -- without a messaging object in the new epoch there is nothing to query
    (w.updateMessaging ref (m.changeEpoch messaging)).querySms ref

/-- `modem_mark_removed`. -/
def markRemoved (w : World) (ref : ModemRef) : World :=
  let w := cancelMutation w ref
  let w := {w with bridge := w.bridge.updateModem ref (w.modem ref).modemMarkRemoved}
  w.updateMessaging ref (w.messaging ref).clearSmsCache

/-- The record that `reconcile_object` makes, up to its first `reconcile_messaging`. -/
def admitModem (w : World) : World :=
  {w with
    admitted := w.admitted+1
    bridge := w.bridge.updateModem w.admitted
      {(w.modem w.admitted).clearMutation with
        live := true,servingCell := none,voltageRefreshPending := false}}

def smsAdded (w : World) (ref : ModemRef) (path : Option CString) : World :=
  (w.updateMessaging ref ((w.messaging ref).smsAdded path)).querySms ref

def smsDeleted (w : World) (ref : ModemRef) (path : Option CString) : World :=
  match path.filter gVariantIsObjectPath with
  | none => w
  | some path => (w.updateMessaging ref ((w.messaging ref).smsDeleted path)).querySms ref

def smsPropertiesChanged (w : World) (ref : ModemRef) (path : CString)
    (properties : Nat → SmsProperties) : World :=
  let m := w.messaging ref
  let w := {w with properties := properties}
  match lookupSms m.smsByPath path with
  | none => w
  | some entry =>
    if entry.owner = some ref ∧ (w.modem ref).live = true ∧
        entry.modemGeneration = (w.modem ref).generation ∧
        entry.messagingGeneration = m.messagingGeneration then
      w.updateMessaging ref m.smsRevisionBump
    else w

/-- `cancel_sms_operations`. -/
def cancelSmsOperations (w : World) (transportLost : Bool) : World :=
  {w with operations := fun op => (w.operations op).map fun operation =>
    {operation with deferred := false,transportLost := transportLost,cancelled := true}}

def connectionLost (w : World) : World :=
  if w.ubus.stopping then w
  else cancelSmsOperations {w with ubus := {w.ubus with connected := false}} true

def l850glUbusStop (w : World) : World :=
  if w.ubus.stopping then w
  else
    let w := cancelSmsOperations
      {w with ubus := {w.ubus with connected := false,stopping := true}} true
    {w with ubus := {w.ubus with contextInitialized := false}}

/-- Both do to the connection what they do for the other operations. -/
theorem connectionLost_ubus (w : World) : (connectionLost w).ubus = w.ubus.lost := by
  rw [connectionLost,Ubus.lost]
  split <;> rfl

theorem l850glUbusStop_ubus (w : World) : (l850glUbusStop w).ubus = w.ubus.stopped := by
  rw [l850glUbusStop,Ubus.stopped]
  split <;> rfl

section

variable (sha256 : CString → Digest) (random : Nat → Option (Vector UInt8 16))

def smsListReady (w : World) (ref : ModemRef) (source epoch : Nat) (messages : List MMSms)
    (error : Option GError) : World :=
  let m := w.messaging ref
  if !(w.modem ref).live || m.messaging != some source || m.messagingGeneration != epoch then w
  else
    let requery := m.smsQueryDirty
    let m := {m with smsQueryPending := false,smsQueryDirty := false}
    let w :=
      if messages.isEmpty && error.isSome then
        w.updateMessaging ref (m.listFailed (gErrorMatches error (.io .cancelled)))
      else
        let rebuilt := m.rebuildCache random ref (w.modem ref).generation w.properties messages
          w.drawn
        ({w.updateMessaging ref rebuilt.1 with drawn := rebuilt.2}).observe (.listed ref epoch)
    if requery then w.querySms ref else w

def finish (w : World) (call : Call) (outcome : Outcome) : World :=
  match call with
  | .list ref source epoch =>
    smsListReady random w ref source epoch outcome.messages outcome.error
  | .create op => smsCreateReady w op outcome.sms outcome.error
  | .send op => smsSendReady w op outcome.succeeded outcome.error
  | .delete op _ => smsDeleteReady w op outcome.succeeded outcome.error

/-- One event.  Signals come from the object whose handlers are connected, and ubus serves
requests while it is connected. -/
def handle (w : World) : Event → Option World
  | .sendSms tables request =>
    if !w.ubus.connected then none else some (methodSendSms sha256 random w tables request).1
  | .deleteSms tables request =>
    if !w.ubus.connected then none else some (methodDeleteSms w tables request).1
  | .listSms request =>
    if !w.ubus.connected then none else some (methodListSms w request).1
  | .finish index outcome =>
    match w.calls[index]? with
    | none => none
    | some call => some (finish random {w with calls := w.calls.eraseIdx index} call outcome)
  | .timeout op =>
    match w.operations op with
    | none => none
    | some operation => if operation.timeoutSource then some (smsOperationTimeout w op) else none
  | .added ref path =>
    if (w.modem ref).live && (w.messaging ref).messaging.isSome then some (smsAdded w ref path)
    else none
  | .deleted ref path =>
    if (w.modem ref).live && (w.messaging ref).messaging.isSome then some (smsDeleted w ref path)
    else none
  | .smsPropertiesChanged ref path properties =>
    some (smsPropertiesChanged w ref path properties)
  | .reconcile ref forceEpoch object =>
    if (w.modem ref).live then some (reconcileMessaging w ref forceEpoch object) else none
  | .refreshSms ref => some (w.querySms ref)
  | .admitted => if w.admitted = Cell.uint32Max then none else some (admitModem w)
  | .removed ref => if (w.modem ref).live then some (markRemoved w ref) else none
  | .connectionLost => some (connectionLost w)
  | .reconnected =>
    if w.ubus.connected || w.ubus.stopping then none
    else some {w with ubus := {w.ubus with
      connected := true,contextInitialized := true,connection := w.ubus.connection+1}}
  | .shutdown =>
    if w.ubus.connected then none
    else some {w with ubus := {w.ubus with contextInitialized := false}}
  | .stop => some (l850glUbusStop w)

end

/-- What other parts of the bridge do to a record between two events: they never make or remove
a record here, and they leave a record alone that an SMS operation holds. -/
def refreshModem (old new : Modem) : Modem :=
  let kept := {new with
    live := old.live
    modem := old.modem
    modemId := old.modemId
    generation := old.generation}
  if old.mutationKind = .sms ∨ new.mutationKind = .sms then
    {kept with
      mutationBusy := old.mutationBusy
      mutationKind := old.mutationKind
      mutationCancellable := old.mutationCancellable}
  else kept

def World.refresh (w : World) (bridge : Bridge) : World :=
  {w with bridge := {bridge with
    mmCheckVersion124 := w.bridge.mmCheckVersion124
    modems := fun ref => refreshModem (w.modem ref) (bridge.modems ref)}}

section

variable (sha256 : CString → Digest) (random : Nat → Option (Vector UInt8 16))

/-- An event with the reports of ModemManager, the table and the monotonic clock as they are by
then. -/
def step (w : World) (event : Event × Bridge) : Option World :=
  if w.bridge.now ≤ event.2.now ∧ event.2.now < int64Max then
    handle sha256 random (w.refresh event.2) event.1
  else none

end

/-- No record has been made.  The records get the generations 1, 2, 3 and so on. -/
structure Initial (w : World) : Prop where
  clock : 0 ≤ w.bridge.now ∧ w.bridge.now < int64Max
  modems : ∀ ref, (w.modem ref).live = false ∧ (w.modem ref).mutationBusy = false ∧
    (w.modem ref).mutationKind = .none ∧ (w.modem ref).mutationCancellable = none
  generations : ∀ ref, (w.modem ref).generation = ref+1
  admitted : w.admitted = 0
  messaging : ∀ ref, w.messaging ref = Messaging.new
  operations : ∀ op, w.operations op = none
  calls : w.calls = []
  trace : w.trace = []

def smsSystem (sha256 : CString → Digest) (random : Nat → Option (Vector UInt8 16)) :
    System World (Event × Bridge) where
  start := Initial
  step := step sha256 random

end Sms
end L850GL
