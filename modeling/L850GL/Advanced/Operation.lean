import L850GL.Identity
import L850GL.Mutation.Operation
import L850GL.Network.ModesUpdate

/-! Band and mode operations of `ubus_glib.c`.  An operation is a block of the heap: whatever
GLib, ModemManager or libubus still holds of it may be called after it was freed, and each use
of a freed block is recorded as a fault. -/
namespace L850GL
namespace Advanced

open Errors Mutation Network

def advancedShortCooldownSeconds : Nat := 10

inductive AdvancedOperationType
  | bands | modes
  deriving DecidableEq,Repr

/-- The address of an operation. -/
abbrev OperationRef := Nat

/-- `request` is the ubus connection the deferred request arrived on; `activation` is `none`
for the null pointer. -/
structure AdvancedOperation where
  type : AdvancedOperationType
  modem : ModemRef
  request : Nat
  generation : Nat
  timeoutSource : Bool
  cooldownSeconds : Nat
  bands : List Nat
  activation : Option String
  timedOut : Bool
  transportLost : Bool
  dispatched : Bool
  deferred : Bool
  persisted : Bool
  networkRequestPending : Bool
  deriving DecidableEq,Repr

inductive Observation
  | created (type : AdvancedOperationType)
  | completed (body : Reply)
  | answered (connection : Nat)
  | dropped
  | released
  | fault

/-- A block of the heap with what others hold of it: the GLib timeout, the libubus request of
the network reload, the pending `SetCurrentBands` call and its cancellable.  `history` is
newest first. -/
structure Slot where
  memory : Option AdvancedOperation
  timer : Bool
  networkRequest : Bool
  call : Bool
  cancelled : Bool
  history : List Observation

def Slot.empty : Slot := ⟨none,false,false,false,false,[]⟩

/-- `blocked` is the operation whose `set_modes` waits in `ubus_lookup_id`. -/
structure World where
  slots : OperationRef → Slot
  next : OperationRef
  advancedOperations : List OperationRef
  blocked : Option OperationRef
  ubus : Ubus
  bridge : Bridge

namespace World

def updateSlot (w : World) (ref : OperationRef) (f : Slot → Slot) : World :=
  {w with slots := Function.update w.slots ref (f (w.slots ref))}

def observe (w : World) (ref : OperationRef) (o : Observation) : World :=
  w.updateSlot ref fun slot => {slot with history := o::slot.history}

/-- Reads an operation.  After a fault the behaviour of the program is undefined; the model
stops the callback there. -/
def withOperation (w : World) (ref : OperationRef) (use : AdvancedOperation → World) : World :=
  match (w.slots ref).memory with
  | none => w.observe ref .fault
  | some op => use op

variable (w : World) (ref : OperationRef) (f : Slot → Slot)

@[simp] theorem updateSlot_self : (w.updateSlot ref f).slots ref = f (w.slots ref) := by
  simp [updateSlot]

theorem updateSlot_other {other : OperationRef} (h : other ≠ ref) :
    (w.updateSlot ref f).slots other = w.slots other := by
  simp [updateSlot,h]

@[simp] theorem updateSlot_next : (w.updateSlot ref f).next = w.next := rfl
@[simp] theorem updateSlot_advancedOperations :
    (w.updateSlot ref f).advancedOperations = w.advancedOperations := rfl
@[simp] theorem updateSlot_blocked : (w.updateSlot ref f).blocked = w.blocked := rfl
@[simp] theorem updateSlot_ubus : (w.updateSlot ref f).ubus = w.ubus := rfl
@[simp] theorem updateSlot_bridge : (w.updateSlot ref f).bridge = w.bridge := rfl

theorem withOperation_some {op : AdvancedOperation} (use : AdvancedOperation → World)
    (h : (w.slots ref).memory = some op) : w.withOperation ref use = use op := by
  simp only [withOperation,h]

theorem withOperation_ubus {use : AdvancedOperation → World}
    (h : ∀ op, (use op).ubus = w.ubus) : (w.withOperation ref use).ubus = w.ubus := by
  unfold withOperation
  split
  · rfl
  · exact h _

theorem withOperation_none (use : AdvancedOperation → World)
    (h : (w.slots ref).memory = none) : w.withOperation ref use = w.observe ref .fault := by
  simp only [withOperation,h]

end World

open World

def advancedOperationName (type : AdvancedOperationType) : String :=
  match type with
  | .bands => "set_bands"
  | .modes => "set_modes"

def advancedOperationApplyCooldown (now : Int) (cooldownSeconds : Nat) (modem : Modem) : Modem :=
  let deadline := now+(cooldownSeconds : Int)*Bridge.usec
  {modem with advancedCooldownUntil := max modem.advancedCooldownUntil deadline}

/-- What `advanced_operation_free` does to the record. -/
def releaseModem (ref : OperationRef) (modem : Modem) : Modem :=
  if modem.mutationKind = .advanced ∧ modem.mutationCancellable = some (.advanced ref) then
    modem.clearMutation
  else modem

def advancedOperationFree (w : World) (ref : OperationRef) : World :=
  w.withOperation ref fun op =>
    let modem := advancedOperationApplyCooldown w.bridge.now op.cooldownSeconds
      (w.bridge.modems op.modem)
    let abort := op.networkRequestPending && w.ubus.contextInitialized
    let w := {w with
      bridge := w.bridge.updateModem op.modem (releaseModem ref modem)
      advancedOperations := w.advancedOperations.filter (· != ref)}
    w.updateSlot ref fun slot => {slot with
      memory := none
      timer := slot.timer && !op.timeoutSource
      networkRequest := slot.networkRequest && !abort
      history := .released::slot.history}

def advancedOperationCompleteBuffer (w : World) (ref : OperationRef) (body : Reply) : World :=
  w.withOperation ref fun op =>
    let answers := op.deferred && w.ubus.connected && w.ubus.contextInitialized &&
      !w.ubus.stopping
    let w := w.updateSlot ref fun slot => {slot with
      memory := some {op with deferred := false}
      history := (if answers then [.answered w.ubus.connection] else [])++
        .completed body::slot.history}
    advancedOperationFree w ref

def advancedOperationCompleteError (w : World) (ref : OperationRef) (code : String)
    (retryable : Bool) : World :=
  advancedOperationCompleteBuffer w ref
    (addCommon w.bridge.time false++[errorTable code (advancedErrorMessage code) retryable])

def advancedSuccessBody (w : World) (op : AdvancedOperation) : Reply :=
  addCommon w.bridge.time true++(w.bridge.modems op.modem).addModemIdentity++
    [("accepted",.u8 true),("operation",.text (advancedOperationName op.type)),
     ("cooldown_ms",.u32 (op.cooldownSeconds*1000))]++
    if op.type = .modes then
      [("persisted",.u8 op.persisted),("activation",.text (op.activation.getD "pending"))]
    else []

def advancedOperationCompleteSuccess (w : World) (ref : OperationRef) : World :=
  w.withOperation ref fun op => advancedOperationCompleteBuffer w ref (advancedSuccessBody w op)

def cancelAdvancedOperation (transportLost : Bool) (w : World) (ref : OperationRef) : World :=
  w.withOperation ref fun op =>
    let op := {op with deferred := false,transportLost := transportLost}
    match op.type with
    | .modes =>
      let abort := op.networkRequestPending && w.ubus.contextInitialized
      let w := w.updateSlot ref fun slot => {slot with
        memory := some {op with networkRequestPending := op.networkRequestPending && !abort}
        networkRequest := slot.networkRequest && !abort
        history := .dropped::slot.history}
      advancedOperationFree w ref
    | .bands => w.updateSlot ref fun slot => {slot with memory := some op,cancelled := true}

def cancelAdvancedOperations (w : World) (transportLost : Bool) : World :=
  w.advancedOperations.foldl (cancelAdvancedOperation transportLost) w

def connectionLost (w : World) : World :=
  if w.ubus.stopping then w
  else cancelAdvancedOperations {w with ubus := {w.ubus with connected := false}} true

def l850glUbusStop (w : World) : World :=
  if w.ubus.stopping then w
  else
    let w := cancelAdvancedOperations {w with
      ubus := {w.ubus with connected := false,stopping := true}} true
    {w with ubus := {w.ubus with contextInitialized := false}}

theorem cancelAdvancedOperation_ubus (transportLost : Bool) (w : World) (ref : OperationRef) :
    (cancelAdvancedOperation transportLost w ref).ubus = w.ubus := by
  refine withOperation_ubus w ref fun op => ?_
  dsimp only
  split
  · exact withOperation_ubus _ ref fun _ => rfl
  · rfl

theorem cancelAdvancedOperations_ubus (w : World) (transportLost : Bool) :
    (cancelAdvancedOperations w transportLost).ubus = w.ubus := by
  have hwalk : ∀ (refs : List OperationRef) (w : World),
      (refs.foldl (cancelAdvancedOperation transportLost) w).ubus = w.ubus := by
    intro refs
    induction refs with
    | nil => exact fun _ => rfl
    | cons ref refs ih =>
      exact fun w => (ih _).trans (cancelAdvancedOperation_ubus transportLost w ref)
  exact hwalk w.advancedOperations w

/-- Both do to the connection what they do for the other operations. -/
theorem connectionLost_ubus (w : World) : (connectionLost w).ubus = w.ubus.lost := by
  rw [connectionLost,Ubus.lost]
  split
  · rfl
  · rw [cancelAdvancedOperations_ubus]

theorem l850glUbusStop_ubus (w : World) : (l850glUbusStop w).ubus = w.ubus.stopped := by
  rw [l850glUbusStop,Ubus.stopped]
  split
  · rfl
  · dsimp only
    rw [cancelAdvancedOperations_ubus]

/-- The source is destroyed when the callback returns `G_SOURCE_REMOVE`. -/
def advancedOperationTimeout (w : World) (ref : OperationRef) : World :=
  let w := w.updateSlot ref fun slot => {slot with timer := false}
  w.withOperation ref fun op =>
    let op := {op with timeoutSource := false,timedOut := true}
    match op.type with
    | .modes =>
      let abort := op.networkRequestPending && w.ubus.contextInitialized
      let w := w.updateSlot ref fun slot => {slot with
        memory := some {op with
          networkRequestPending := op.networkRequestPending && !abort
          activation := some "outcome_unknown"}
        networkRequest := slot.networkRequest && !abort}
      advancedOperationCompleteSuccess w ref
    | .bands => w.updateSlot ref fun slot => {slot with memory := some op,cancelled := true}

/-- `advanced_network_reload_complete`; libubus has dropped the request by then. -/
def advancedNetworkReloadComplete (w : World) (ref : OperationRef) (succeeded : Bool) : World :=
  let w := w.updateSlot ref fun slot => {slot with networkRequest := false}
  w.withOperation ref fun op =>
    if !op.networkRequestPending then w
    else
      let w := w.updateSlot ref fun slot => {slot with
        memory := some {op with
          networkRequestPending := false
          activation := some (if succeeded then "reloaded" else "failed")}}
      advancedOperationCompleteSuccess w ref

def advancedOperationStaleCode (modem : Modem) (op : AdvancedOperation) (source : Nat) :
    Option String :=
  if !modem.live then some "device_gone"
  else if modem.generation ≠ op.generation ∨ source ≠ modem.modem then some "stale_generation"
  else none

def advancedOperationOutcomeIsUnknown (modem : Modem) (op : AdvancedOperation)
    (error : Option GError) : Bool :=
  op.dispatched && (op.timedOut || op.transportLost || !modem.live ||
    advancedErrorHasUnknownOutcome error (gDbusErrorGetRemoteError error))

def normalizeAdvancedError (mmCheckVersion124 : Bool) (modem : Modem) (op : AdvancedOperation)
    (error : Option GError) : NormalizedError :=
  if advancedOperationOutcomeIsUnknown modem op error then ⟨"outcome_unknown",false⟩
  else normalizeAdvancedErrorRows mmCheckVersion124 error

/-- How `advanced_operation_ready` ends an operation: nothing for success. -/
def advancedOperationVerdict (mmCheckVersion124 : Bool) (modem : Modem) (op : AdvancedOperation)
    (source : Nat) (error : Option GError) : Option NormalizedError :=
  if advancedOperationOutcomeIsUnknown modem op error then some ⟨"outcome_unknown",false⟩
  else match advancedOperationStaleCode modem op source with
    | some stale => some ⟨stale,false⟩
    | none =>
      if error.isSome then some (normalizeAdvancedError mmCheckVersion124 modem op error)
      else none

/-- `advanced_operation_ready` for a band change; `mm_modem_set_current_bands_finish` succeeds
exactly when it sets no error, and a call whose cancellable was cancelled finishes with one. -/
def advancedOperationReady (w : World) (ref : OperationRef) (source : Nat)
    (error : Option GError) : World :=
  let error := if (w.slots ref).cancelled then some gIoErrorCancelled else error
  let w := w.updateSlot ref fun slot => {slot with call := false}
  w.withOperation ref fun op =>
    match advancedOperationVerdict w.bridge.mmCheckVersion124 (w.bridge.modems op.modem) op source
        error with
    | some verdict => advancedOperationCompleteError w ref verdict.code verdict.retryable
    | none => advancedOperationCompleteSuccess w ref

def sendAdvancedError (bridge : Bridge) (code : String) (retryable : Bool)
    (retryAfterMs : Nat) : Reply :=
  addCommon bridge.time false++[("error",.table ([("code",.text code),
    ("message",.text (advancedErrorMessage code)),("retryable",.u8 retryable)]++
      if retryAfterMs > 0 then [("retry_after_ms",.u32 retryAfterMs)] else []))]

/-- The record a band or mode change may run on, or the code and the waiting time of the
refusal. -/
def advancedMutationModem (tables : Tables) (bridge : Bridge) (modemId : CString)
    (generation : Nat) : Except (String × Nat) ModemRef :=
  match bridge.l850glBridgeFindModem modemId with
  | none => .error (if bridge.managerAvailable then "stale_identity"
      else "dependency_unavailable",0)
  | some ref =>
    let modem := bridge.modems ref
    if modem.generation ≠ generation then .error ("stale_generation",0)
    else if !modem.l850glModemAttestMutationTarget then .error ("unsupported",0)
    else if l850ModemHasActiveMutation tables modem || l850ModemHasActiveScan tables ref ||
        l850ModemHasActiveCarrierQuery tables ref || modem.voltageRefreshPending then
      .error ("busy",0)
    else
      let retryAfter := advancedRetryAfterMs bridge ref
      if modem.mutationBusy || retryAfter > 0 then .error ("busy",retryAfter)
      else .ok ref

def refuseAdvanced (bridge : Bridge) (refusal : String × Nat) : Reply :=
  sendAdvancedError bridge refusal.1
    (refusal.1 == "busy" || refusal.1 == "dependency_unavailable") refusal.2

/-- The record as `advanced_operation_new` marks it. -/
def acquireModem (now : Int) (ref : OperationRef) (modem : Modem) : Modem :=
  advancedOperationApplyCooldown now advancedShortCooldownSeconds {modem with
    mutationBusy := true
    mutationKind := .advanced
    mutationCancellable := some (.advanced ref)}

/-- The operation that `advanced_operation_new` fills in. -/
def newOperation (w : World) (modem : ModemRef) (type : AdvancedOperationType) :
    AdvancedOperation where
  type := type
  modem := modem
  request := w.ubus.connection
  generation := (w.bridge.modems modem).generation
  timeoutSource := true
  cooldownSeconds := advancedShortCooldownSeconds
  bands := []
  activation := none
  timedOut := false
  transportLost := false
  dispatched := false
  deferred := true
  persisted := false
  networkRequestPending := false

/-- `advanced_operation_new`; the new operation is the last one allocated. -/
def advancedOperationNew (w : World) (modem : ModemRef) (type : AdvancedOperationType) : World :=
  let op := newOperation w modem type
  let record := acquireModem w.bridge.now w.next (w.bridge.modems modem)
  let born := w.updateSlot w.next fun _ => ⟨some op,true,false,false,false,[.created type]⟩
  {born with
    next := w.next+1
    advancedOperations := w.advancedOperations++[w.next]
    bridge := w.bridge.updateModem modem record}

structure SetBandsRequest where
  modemId : CString
  generation : Nat
  confirm : Bool
  deriving DecidableEq,Repr

/-- `method_set_bands`.  `resolved` is what the radio policy makes of the requested names on the
admitted record: the band values, or the code and retryability of its refusal. -/
def methodSetBands (w : World) (tables : Tables) (request : Option SetBandsRequest)
    (resolved : Except (String × Bool) (List Nat)) : World × Option Reply :=
  let invalid := (w,some (sendAdvancedError w.bridge "invalid_argument" false 0))
  match request with
  | none => invalid
  | some request =>
    if !Identity.l850glIdentityIsValid request.modemId || !request.confirm then invalid
    else match advancedMutationModem tables w.bridge request.modemId request.generation with
      | .error refusal => (w,some (refuseAdvanced w.bridge refusal))
      | .ok modem =>
        match resolved with
        | .error refusal => (w,some (sendAdvancedError w.bridge refusal.1 refusal.2 0))
        | .ok bands =>
          let ref := w.next
          let w := advancedOperationNew w modem .bands
          (w.withOperation ref fun op =>
            w.updateSlot ref fun slot => {slot with
              memory := some {op with bands := bands,dispatched := true}
              call := true},none)

structure SetModesRequest where
  modemId : CString
  generation : Nat
  allowed : CString
  preferred : CString
  confirm : Bool
  deriving DecidableEq,Repr

/-- The code and retryability for a failed update. -/
def modesUpdateError (result : NetworkModeUpdateResult) : String × Bool :=
  match result with
  | .none => ("netifd_binding_not_found",true)
  | .ambiguous => ("netifd_binding_ambiguous",true)
  | .invalid => ("invalid_argument",false)
  | .verifyFailed => ("outcome_unknown",false)
  | .error | .ok => ("persistence_failed",true)

/-- `method_set_modes` up to the blocking call of `ubus_lookup_id`; `update` is the result of
`l850gl_network_modes_update`. -/
def methodSetModes (w : World) (tables : Tables) (request : Option SetModesRequest)
    (update : NetworkModeUpdateResult) : World × Option Reply :=
  let invalid := (w,some (sendAdvancedError w.bridge "invalid_argument" false 0))
  match request with
  | none => invalid
  | some request =>
    if !Identity.l850glIdentityIsValid request.modemId || !request.confirm then invalid
    else if !l850glNetworkModesAreValid request.allowed request.preferred then invalid
    else match advancedMutationModem tables w.bridge request.modemId request.generation with
      | .error refusal => (w,some (refuseAdvanced w.bridge refusal))
      | .ok modem =>
        if ((w.bridge.modems modem).device.getD []) = [] then
          (w,some (sendAdvancedError w.bridge "dependency_unavailable" true 0))
        else
          let ref := w.next
          let w := advancedOperationNew w modem .modes
          if update ≠ .ok then
            let failure := modesUpdateError update
            (advancedOperationCompleteError w ref failure.1 failure.2,none)
          else
            let w := w.withOperation ref fun op =>
              w.updateSlot ref fun slot => {slot with memory := some {op with
                persisted := true,dispatched := true,activation := some "pending"}}
            ({w with blocked := some ref},none)

/-- The rest of `method_set_modes`.  `lookup` is the id of the network object, nothing when the
lookup failed; `invoked` tells whether `ubus_invoke_async` succeeded. -/
def setModesLookedUp (w : World) (ref : OperationRef) (lookup : Option Nat) (invoked : Bool) :
    World :=
  let w := {w with blocked := none}
  match lookup with
  | none => advancedOperationCompleteSuccess w ref
  | some _ =>
    -- the request block of the operation is written before the call can fail
    w.withOperation ref fun op =>
      if !invoked then advancedOperationCompleteSuccess w ref
      else w.updateSlot ref fun slot => {slot with
        memory := some {op with networkRequestPending := true}
        networkRequest := true}

end Advanced
end L850GL
