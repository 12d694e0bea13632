import L850GL.Lib.Transition
import L850GL.Reads

/-! The runs of the three reads: requests, replies of ModemManager, timeouts, removed records and
the ubus connection, in any order. -/
namespace L850GL
namespace Reads

open Cell CellInfo Ca Errors Mutation World

/-- What a call comes to; a callback reads the part of its own call. -/
structure ReadResult where
  response : Option CString
  items : List MmCellInfo
  error : Option GError
  deriving DecidableEq,Repr

/-- What runs next.  Every event comes with the reports of ModemManager, the table and the clock
as they are by then, and with the devices under a lock operation where they are looked up. -/
inductive Event
  | cellLockStatus (mutations : List CString) (request : Option ReadRequest) (bridge : Bridge)
  | cellScan (mutations : List CString) (request : Option ReadRequest) (bridge : Bridge)
  | getCarrierInfo (mutations : List CString) (request : Option ReadRequest) (bridge : Bridge)
  | finish (ref : OperationRef) (result : ReadResult) (mutations : List CString)
      (bridge : Bridge)
  | timeout (ref : OperationRef) (bridge : Bridge)
  | modemRemoved (ref : OperationRef) (bridge : Bridge)
  | connectionLost (bridge : Bridge)
  | reconnected (bridge : Bridge)
  | shutdown (bridge : Bridge)
  | stop (bridge : Bridge)

/-- The common body of the three loops over the live operations when the connection is lost. -/
def cancelReadOperations (kind : ReadKind) (w : World) (transportLost : Bool) : World :=
  {w with slots := fun ref =>
    if ref ∈ w.operations kind then
      let slot := w.slots ref
      {slot with
        memory := slot.memory.map fun op =>
          {op with deferred := false,transportLost := transportLost}
        cancelled := true}
    else w.slots ref}

def cancelL850ScanOperations : World → Bool → World := cancelReadOperations .scan
def cancelL850StatusOperations : World → Bool → World := cancelReadOperations .status
def cancelL850CarrierOperations : World → Bool → World := cancelReadOperations .carrier

def cancelOperations (w : World) : World :=
  cancelL850CarrierOperations (cancelL850StatusOperations (cancelL850ScanOperations w true) true)
    true

def connectionLost (w : World) : World :=
  if w.ubus.stopping then w
  else cancelOperations ({w with ubus := {w.ubus with connected := false}}.observe
    (.connectionLost w.ubus.connection))

def l850glUbusStop (w : World) : World :=
  if w.ubus.stopping then w
  else
    let w := cancelOperations ({w with ubus := {w.ubus with
      connected := false,stopping := true}}.observe (.connectionLost w.ubus.connection))
    {w with ubus := {w.ubus with contextInitialized := false}}

/-- A call whose cancellable was cancelled finishes with an error. -/
def finishRead (slot : Slot) (result : ReadResult) : ReadResult :=
  if slot.cancelled then ⟨none,[],some gIoErrorCancelled⟩ else result

/-- The callback of a call that was made on the proxy `source`. -/
def readReady (w : World) (mutations : List CString) (ref : OperationRef)
    (callback : ReadCallback) (source : Nat) (result : ReadResult) : World :=
  match callback with
  | .statusReady => l850StatusReady w mutations ref source ⟨result.response,result.error⟩
  | .scanReady => l850ScanReady w ref source ⟨result.items,result.error⟩
  | .vendorScanReady => l850VendorScanReady w ref source ⟨result.response,result.error⟩
  | .carrierReady => l850CarrierReady w ref source ⟨result.response,result.error⟩

def World.refresh (w : World) (bridge : Bridge) : World :=
  {w with bridge := w.bridge.refresh bridge}

def step (w : World) : Event → Option World
  | .cellLockStatus mutations request bridge =>
    if !w.ubus.connected then none
    else some (methodCellLockStatus (w.refresh bridge) mutations request)
  | .cellScan mutations request bridge =>
    if !w.ubus.connected then none
    else some (methodCellScan (w.refresh bridge) mutations request)
  | .getCarrierInfo mutations request bridge =>
    if !w.ubus.connected then none
    else some (methodGetCarrierInfo (w.refresh bridge) mutations request)
  | .finish ref result mutations bridge =>
    match (w.slots ref).call with
    | none => none
    | some (callback,source) =>
      let w := w.refresh bridge
      let result := finishRead (w.slots ref) result
      some (readReady (w.updateSlot ref fun slot => {slot with call := none}) mutations ref
        callback source result)
  | .timeout ref bridge =>
    if !(w.slots ref).timer then none else some (readTimeout (w.refresh bridge) ref)
  | .modemRemoved ref bridge =>
    if !(w.slots ref).handler then none else some (readParentCancelled (w.refresh bridge) ref)
  | .connectionLost bridge => some (connectionLost (w.refresh bridge))
  | .reconnected bridge =>
    if w.ubus.connected || w.ubus.stopping then none
    else some {w.refresh bridge with ubus := {w.ubus with
      connected := true,contextInitialized := true,connection := w.ubus.connection+1}}
  | .shutdown bridge =>
    if w.ubus.connected then none
    else some {w.refresh bridge with ubus := {w.ubus with contextInitialized := false}}
  | .stop bridge => some (l850glUbusStop (w.refresh bridge))

/-- No operation has been made. -/
structure Initial (w : World) : Prop where
  slots : w.slots = fun _ => Slot.empty
  next : w.next = 0
  operations : w.operations = fun _ => []
  records : ∀ ref,w.records.lastScanCompletedAt ref = 0 ∧
    w.records.lastCarrierQueryCompletedAt ref = 0
  ubus : w.ubus.connected = true →
    w.ubus.contextInitialized = true ∧ w.ubus.stopping = false
  trace : w.trace = []

def readsSystem : System World Event := ⟨Initial,step⟩

namespace World

variable (w : World) (ref : OperationRef) (f : Slot → Slot)

@[simp] theorem updateSlot_self : (w.updateSlot ref f).slots ref = f (w.slots ref) := by
  simp [updateSlot]

theorem updateSlot_other {other : OperationRef} (h : other ≠ ref) :
    (w.updateSlot ref f).slots other = w.slots other := by
  simp [updateSlot,h]

theorem withOperation_some {op : ReadOperation} (use : ReadOperation → World)
    (h : (w.slots ref).memory = some op) : w.withOperation ref use = use op := by
  simp only [withOperation,h]

end World

end Reads
end L850GL
