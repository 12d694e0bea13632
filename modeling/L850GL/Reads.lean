import L850GL.Ca
import L850GL.CellInfo
import L850GL.Mutation.System

/-! The three reads of the expert object in `ubus_glib.c`: the lock state, the cell scan and the
carrier query, with the operation that each request starts. -/
namespace L850GL
namespace Reads

open Cell CellInfo Ca Errors Mutation

inductive ReadKind
  | status | scan | carrier
  deriving DecidableEq,Repr

inductive ReadCallback
  | statusReady | scanReady | vendorScanReady | carrierReady
  deriving DecidableEq,Repr

/-- The address of an operation. -/
abbrev OperationRef := Nat

/-- `L850StatusOperation`, `L850ScanOperation` and `L850CarrierOperation`; only a scan uses
`vendorFallback`.  `request` is the ubus connection the deferred request arrived on. -/
structure ReadOperation where
  modem : ModemRef
  request : Nat
  generation : Nat
  timeoutSource : Bool
  parentCancelHandler : Bool
  timedOut : Bool
  transportLost : Bool
  deferred : Bool
  vendorFallback : Bool
  deriving DecidableEq,Repr

/-- A block of the heap with what others hold of it: the GLib timeout, the handler on the
cancellable of the record, and the call to ModemManager with the proxy that it was made on. -/
structure Slot where
  memory : Option ReadOperation
  timer : Bool
  handler : Bool
  call : Option (ReadCallback × Nat)
  cancelled : Bool

def Slot.empty : Slot := ⟨none,false,false,none,false⟩

inductive Observation
  | started (ref : OperationRef) (kind : ReadKind) (modem : ModemRef) (connection : Nat)
      (now : Int)
  | refused (body : Reply)
  | completed (ref : OperationRef) (kind : ReadKind) (modem : ModemRef) (now : Int) (body : Reply)
  | answered (ref : OperationRef) (connection : Nat) (body : Reply)
  | released (ref : OperationRef)
  | fault (ref : OperationRef)
  | connectionLost (connection : Nat)

/-- The fields of the records that these operations write. -/
structure Records where
  lastScanCompletedAt : ModemRef → Int
  lastCarrierQueryCompletedAt : ModemRef → Int
  servingCell : ModemRef → ServingCellCache

/-- `operations` holds the three tables of live operations; `trace` is newest first. -/
structure World where
  slots : OperationRef → Slot
  next : OperationRef
  operations : ReadKind → List OperationRef
  records : Records
  ubus : Ubus
  bridge : Bridge
  trace : List Observation

namespace World

def updateSlot (w : World) (ref : OperationRef) (f : Slot → Slot) : World :=
  {w with slots := Function.update w.slots ref (f (w.slots ref))}

def observe (w : World) (o : Observation) : World := {w with trace := o::w.trace}

/-- Reads an operation; the use of a freed block is recorded. -/
def withOperation (w : World) (ref : OperationRef) (use : ReadOperation → World) : World :=
  match (w.slots ref).memory with
  | none => w.observe (.fault ref)
  | some op => use op

def modemsUnder (w : World) (kind : ReadKind) : List ModemRef :=
  (w.operations kind).filterMap fun ref => (w.slots ref).memory.map (·.modem)

/-- The tables as an admission reads them; `mutations` are the devices under a lock operation. -/
def tables (w : World) (mutations : List CString) : Tables :=
  ⟨mutations,w.modemsUnder .scan,w.modemsUnder .carrier⟩

end World

open World

/-- `l850gl_l850_scan_retry_after_ms` and `l850gl_l850_ca_retry_after_ms`, with their interval. -/
def retryAfterMs (intervalSeconds : Nat) (now lastCompleted : Int) : Nat :=
  let interval := (intervalSeconds : Int)*Bridge.usec
  if now < 0 ∨ lastCompleted ≤ 0 then 0
  else if now < lastCompleted then intervalSeconds*1000
  else if now-lastCompleted ≥ interval then 0
  else min ((interval-(now-lastCompleted)+999)/1000).toNat uint32Max

/-- What is left of the interval, in milliseconds. -/
theorem retryAfterMs_le_interval {intervalSeconds : Nat} {now lastCompleted : Int} :
    retryAfterMs intervalSeconds now lastCompleted ≤ intervalSeconds*1000 := by
  unfold retryAfterMs
  simp only [show Bridge.usec = 1000000 from rfl]
  repeat' split
  all_goals omega

def l850glL850CaQueryCooldownSeconds : Nat := 5

def l850glL850ScanRetryAfterMs (now lastScanCompleted : Int) : Nat :=
  retryAfterMs l850glL850CellScanCooldownSeconds now lastScanCompleted

def l850glL850CaRetryAfterMs (now lastQueryCompleted : Int) : Nat :=
  retryAfterMs l850glL850CaQueryCooldownSeconds now lastQueryCompleted

def l850AddScanCapability (w : World) (mutations : List CString) (ref : ModemRef) :
    String × Blob :=
  let modem := w.bridge.modems ref
  let retryAfter := l850glL850ScanRetryAfterMs w.bridge.now (w.records.lastScanCompletedAt ref)
  let entries : Reply :=
    if l850ModemHasActiveScan (w.tables mutations) ref then
      [("state",.text "busy"),("available",.u8 false),
       ("reason",.text "per-modem-scan-in-progress")]
    else if modem.mutationBusy || l850ModemHasActiveMutation (w.tables mutations) modem then
      [("state",.text "busy"),("available",.u8 false),
       ("reason",.text "per-modem-mutation-in-progress")]
    else if !modem.l850SupportedLteBandsAvailable then
      [("state",.text "not_ready"),("available",.u8 false),
       ("reason",.text "supported-bands-not-advertised")]
    else if retryAfter > 0 then
      [("state",.text "rate_limited"),("available",.u8 false),
       ("reason",.text "scan-rate-limit"),("retry_after_ms",.u32 retryAfter)]
    else
      [("state",.text "available"),("available",.u8 true),
       ("reason",.text "standard-with-validated-xmci-fallback")]
  ("scan",.table (entries++[("source",.text "modemmanager")]))

def l850AddLockObservation (state : LockState) : String × Blob :=
  ("lock",.table ([("state",.text (if !state.enabled then "clear"
      else if state.hasPci then "configured_exact" else "configured_earfcn")),
    ("enabled",.u8 state.enabled),("postcondition_verified",.u8 false)]++
    (if state.enabled then
      [("earfcn",.u32 state.earfcn),("band",.u32 state.band)]++
        if state.hasPci then [("pci",.u32 state.pci)] else []
    else [])++
    [("source",.text "l850-nvm-via-modemmanager")]))

/-- `l850_status_timeout`, `l850_scan_timeout` and `l850_carrier_timeout`; the source is
destroyed when they return. -/
def readTimeout (w : World) (ref : OperationRef) : World :=
  let w := w.updateSlot ref fun slot => {slot with timer := false}
  w.withOperation ref fun op => w.updateSlot ref fun slot => {slot with
    memory := some {op with timeoutSource := false,timedOut := true}
    cancelled := true}

/-- `l850_status_parent_cancelled`, `l850_scan_parent_cancelled` and
`l850_carrier_parent_cancelled`. -/
def readParentCancelled (w : World) (ref : OperationRef) : World :=
  w.withOperation ref fun _ => w.updateSlot ref fun slot => {slot with cancelled := true}

/-- The common body of the three functions that free an operation. -/
def readOperationFree (kind : ReadKind) (w : World) (ref : OperationRef) : World :=
  w.withOperation ref fun op =>
    let w := w.updateSlot ref fun slot => {slot with
      memory := none
      timer := slot.timer && !op.timeoutSource
      handler := slot.handler && !op.parentCancelHandler}
    let live := (w.operations kind).filter (· != ref)
    ({w with operations := Function.update w.operations kind live}).observe (.released ref)

def l850StatusOperationFree : World → OperationRef → World := readOperationFree .status
def l850ScanOperationFree : World → OperationRef → World := readOperationFree .scan
def l850CarrierOperationFree : World → OperationRef → World := readOperationFree .carrier

/-- What the end of an operation writes down in its record. -/
def stampCompletion (kind : ReadKind) (now : Int) (modem : ModemRef) (records : Records) :
    Records :=
  match kind with
  | .status => records
  | .scan => {records with
      lastScanCompletedAt := Function.update records.lastScanCompletedAt modem now}
  | .carrier => {records with
      lastCarrierQueryCompletedAt :=
        Function.update records.lastCarrierQueryCompletedAt modem now}

/-- The common body of the three functions that end an operation with a reply. -/
def readCompleteBuffer (kind : ReadKind) (w : World) (ref : OperationRef) (body : Reply) : World :=
  w.withOperation ref fun op =>
    let answers := op.deferred && w.ubus.connected && w.ubus.contextInitialized &&
      !w.ubus.stopping
    let w := {w with records := stampCompletion kind w.bridge.now op.modem w.records}
    let w := w.observe (.completed ref kind op.modem w.bridge.now body)
    let w := if answers then w.observe (.answered ref w.ubus.connection body) else w
    let w := w.updateSlot ref fun slot => {slot with memory := some {op with deferred := false}}
    readOperationFree kind w ref

def l850StatusCompleteBuffer : World → OperationRef → Reply → World := readCompleteBuffer .status
def l850ScanCompleteBuffer : World → OperationRef → Reply → World := readCompleteBuffer .scan
def l850CarrierCompleteBuffer : World → OperationRef → Reply → World := readCompleteBuffer .carrier

def readErrorBody (bridge : Bridge) (modem : ModemRef) (code : String) (retryable : Bool) : Reply :=
  addCommon bridge.time false++(bridge.modems modem).addModemIdentity++[("state",.text code),
    errorTable code (l850ErrorMessage code) retryable]

/-- The common body of the three functions that end an operation with an error. -/
def readCompleteError (kind : ReadKind) (w : World) (ref : OperationRef) (code : String)
    (retryable : Bool) : World :=
  w.withOperation ref fun op =>
    readCompleteBuffer kind w ref (readErrorBody w.bridge op.modem code retryable)

def l850StatusCompleteError : World → OperationRef → String → Bool → World :=
  readCompleteError .status
def l850ScanCompleteError : World → OperationRef → String → Bool → World :=
  readCompleteError .scan
def l850CarrierCompleteError : World → OperationRef → String → Bool → World :=
  readCompleteError .carrier

def unsupportedProtocolBody (w : World) (mutations : List CString) (modem : ModemRef)
    (reason : String) : Reply :=
  addCommon w.bridge.time true++(w.bridge.modems modem).addModemIdentity++
    [("state",.text "unsupported_protocol"),("mutable",.u8 false),("reason",.text reason),
     l850AddScanCapability w mutations modem]

def l850StatusCompleteUnsupportedProtocol (w : World) (mutations : List CString)
    (ref : OperationRef) (reason : String) : World :=
  w.withOperation ref fun op =>
    l850StatusCompleteBuffer w ref (unsupportedProtocolBody w mutations op.modem reason)

def lockStatusBody (w : World) (mutations : List CString) (ref : ModemRef) (state : LockState) :
    Reply :=
  let modem := w.bridge.modems ref
  let retryAfter := advancedRetryAfterMs w.bridge ref
  let mutable := !modem.mutationBusy && retryAfter == 0 &&
    !l850ModemHasActiveMutation (w.tables mutations) modem
  addCommon w.bridge.time true++modem.addModemIdentity++
    [("state",.text (if mutable then "available" else "busy")),("mutable",.u8 mutable),
     ("reason",.text (if mutable then "runtime-validated-command-and-nvm-state"
       else if retryAfter > 0 then "advanced-cooldown" else "per-modem-mutation-in-progress"))]++
    (if retryAfter > 0 then [("retry_after_ms",.u32 retryAfter)] else [])++
    [l850AddLockObservation state,l850AddScanCapability w mutations ref]

def l850StatusReady (w : World) (mutations : List CString) (ref : OperationRef) (source : Nat)
    (result : CommandResult) : World :=
  w.withOperation ref fun op =>
    let modem := w.bridge.modems op.modem
    if !modem.live || source != modem.modem then
      l850StatusCompleteError w ref "device_gone" false
    else if modem.generation ≠ op.generation then
      l850StatusCompleteError w ref "stale_generation" false
    else match result.error,result.response with
      | none, some response =>
        match l850glL850NvmParse response with
        | .error _ => l850StatusCompleteUnsupportedProtocol w mutations ref
            "unrecognized-nvm-response"
        | .ok state => l850StatusCompleteBuffer w ref (lockStatusBody w mutations op.modem state)
      | error, _ =>
        let normalized := l850NormalizeError w.bridge.mmCheckVersion124 error op.timedOut
          op.transportLost
        if normalized.code = "unsupported_protocol" then
          l850StatusCompleteUnsupportedProtocol w mutations ref "nvm-query-unsupported"
        else l850StatusCompleteError w ref normalized.code normalized.retryable

/-- `l850_scan_stale_code` and `l850_carrier_stale_code`. -/
def readStaleCode (modem : Modem) (op : ReadOperation) (source : Nat) : Option String :=
  if !modem.live then some "device_gone"
  else if modem.generation ≠ op.generation ∨ source ≠ modem.modem then some "stale_generation"
  else none

def l850ScanStaleCode : Modem → ReadOperation → Nat → Option String := readStaleCode
def l850CarrierStaleCode : Modem → ReadOperation → Nat → Option String := readStaleCode

/-- A reading as `blobmsg_add_double` writes it. -/
def Reading.double : Reading → Blob
  | .finite value => .double value
  | _ => .unspec

def scanCellEntry (cell : L850StandardCell) : Blob :=
  .table ([("type",.u32 cell.type),("serving",.u8 cell.serving),("earfcn",.u32 cell.earfcn),
    ("pci",.u32 cell.pci),("band",.u32 cell.band)]++
    (if cell.hasRsrp then [("rsrp",Reading.double cell.rsrp)] else [])++
    (if cell.hasRsrq then [("rsrq",Reading.double cell.rsrq)] else []))

def scanSuccessBody (bridge : Bridge) (modem : ModemRef) (vendorFallback : Bool)
    (cells : List L850StandardCell) : Reply :=
  addCommon bridge.time true++(bridge.modems modem).addModemIdentity++
    [("state",.text "scan_ready"),("source",.text "modemmanager"),
     ("method",.text (if vendorFallback then "l850-xmci" else "standard-cell-info")),
     ("cells",.array (cells.map scanCellEntry))]

/-- The serving cell of a scan goes to the cache when it is the only one. -/
def scanStoreServing (w : World) (op : ReadOperation) (cells : List L850StandardCell) : World :=
  match cells.filter (·.serving) with
  | [serving] =>
    let stored := servingCellCacheStore (w.bridge.modems op.modem) w.bridge.now
      (w.records.servingCell op.modem) serving.earfcn serving.pci serving.band serving.rsrp
      serving.hasRsrp serving.rsrq serving.hasRsrq
      (if op.vendorFallback then "expert-xmci-scan" else "expert-standard-cell-scan")
    {w with records := {w.records with
      servingCell := Function.update w.records.servingCell op.modem stored.2}}
  | _ => w

def l850ScanCompleteSuccess (w : World) (ref : OperationRef) (cells : List L850StandardCell) :
    World :=
  w.withOperation ref fun op =>
    l850ScanCompleteBuffer (scanStoreServing w op cells) ref
      (scanSuccessBody w.bridge op.modem op.vendorFallback cells)

def l850ErrorIsUnsupported (error : Option GError) : Bool :=
  matchesRow error [.dbus .unknownMethod,.dbus .notSupported,.mmCore .unsupported,
    .mobileEquipment .notSupported] [".Core.Unsupported",".MobileEquipment.NotSupported"]

def l850NormalizeScanError (mmCheckVersion124 : Bool) (error : Option GError)
    (op : ReadOperation) : NormalizedError :=
  l850NormalizeError mmCheckVersion124 error op.timedOut op.transportLost

def l850VendorScanReady (w : World) (ref : OperationRef) (source : Nat) (result : CommandResult) :
    World :=
  w.withOperation ref fun op =>
    let modem := w.bridge.modems op.modem
    match l850ScanStaleCode modem op source with
    | some stale => l850ScanCompleteError w ref stale false
    | none =>
      match result.error,result.response with
      | none, some response =>
        match l850glL850CellParse response with
        | .error _ => l850ScanCompleteError w ref "malformed_response" false
        | .ok scan =>
          match l850NormalizeVendorCells modem scan with
          | none => l850ScanCompleteError w ref "malformed_response" false
          | some cells => l850ScanCompleteSuccess w ref cells
      | error, _ =>
        let normalized := l850NormalizeScanError w.bridge.mmCheckVersion124 error op
        l850ScanCompleteError w ref normalized.code normalized.retryable

/-- What `GetCellInfo` comes to: its cells, or an error. -/
structure CellInfoResult where
  items : List MmCellInfo
  error : Option GError
  deriving DecidableEq,Repr

def l850ScanReady (w : World) (ref : OperationRef) (source : Nat) (result : CellInfoResult) :
    World :=
  w.withOperation ref fun op =>
    let modem := w.bridge.modems op.modem
    match l850ScanStaleCode modem op source with
    | some stale => l850ScanCompleteError w ref stale false
    | none =>
      if result.error.isSome then
        if l850ErrorIsUnsupported result.error then
          w.updateSlot ref fun slot => {slot with
            memory := some {op with vendorFallback := true}
            call := some (.vendorScanReady,modem.modem)}
        else
          let normalized := l850NormalizeScanError w.bridge.mmCheckVersion124 result.error op
          l850ScanCompleteError w ref normalized.code normalized.retryable
      else match l850NormalizeStandardCells modem result.items with
        | none => l850ScanCompleteError w ref "malformed_response" false
        | some cells => l850ScanCompleteSuccess w ref cells

def l850AddCaCarrier (carrier : CaCarrier) : Reply :=
  [("index",.u32 carrier.index),("band",.u32 carrier.band),("earfcn",.u32 carrier.dlEarfcn),
   ("pci",.u32 carrier.pci),
   ("dl_bandwidth_mhz",.double ((carrier.dlBandwidthTenthsMhz : Rat)/10)),
   ("ul_bandwidth_mhz",if carrier.uplinkActive then
     .double ((carrier.ulBandwidthTenthsMhz : Rat)/10) else .unspec)]

/-- The bands in the order in which they first come. -/
def uniqueBands (carriers : List CaCarrier) : List Nat :=
  carriers.foldl (fun bands carrier =>
    if bands.contains carrier.band then bands else bands++[carrier.band]) []

def carrierSuccessBody (bridge : Bridge) (modem : ModemRef) (primary : CaCarrier)
    (carriers : List CaCarrier) : Reply :=
  addCommon bridge.time true++(bridge.modems modem).addModemIdentity++
    [("state",.text "available"),("source",.text "modemmanager"),("method",.text "l850-gtcainfo"),
     ("active_bands",.array ((uniqueBands carriers).map .u32)),
     ("primary",.table (l850AddCaCarrier primary)),
     ("secondary",.array ((carriers.filter fun carrier => !carrier.primary).map
       fun carrier => .table (l850AddCaCarrier carrier))),
     ("active_carriers",.u32 carriers.length)]

/-- `l850_carrier_complete_success`; the last primary carrier counts. -/
def l850CarrierCompleteSuccess (w : World) (ref : OperationRef) (carriers : List CaCarrier) :
    World :=
  w.withOperation ref fun op =>
    match (carriers.filter (·.primary)).getLast? with
    | none => l850CarrierCompleteError w ref "malformed_response" false
    | some primary =>
      l850CarrierCompleteBuffer w ref (carrierSuccessBody w.bridge op.modem primary carriers)

def l850CarrierReady (w : World) (ref : OperationRef) (source : Nat) (result : CommandResult) :
    World :=
  w.withOperation ref fun op =>
    let modem := w.bridge.modems op.modem
    match l850CarrierStaleCode modem op source with
    | some stale => l850CarrierCompleteError w ref stale false
    | none =>
      if !modem.l850glModemAttestMutationTarget then
        l850CarrierCompleteError w ref "unsupported" false
      else match result.error,result.response with
        | none, some response =>
          match l850glL850CaParse (response.take (l850glL850CaMaxResponse+1)) with
          | (some _,_) => l850CarrierCompleteError w ref "malformed_response" false
          | (none,info) =>
            let carriers := info.carriers.take info.length
            if carriers.any fun carrier => !l850BandIsSupported modem carrier.band then
              l850CarrierCompleteError w ref "malformed_response" false
            else l850CarrierCompleteSuccess w ref carriers
        | error, _ =>
          let normalized := l850NormalizeError w.bridge.mmCheckVersion124 error op.timedOut
            op.transportLost
          l850CarrierCompleteError w ref normalized.code normalized.retryable

/-- The operation that the three `new` functions fill in. -/
def newOperation (w : World) (modem : ModemRef) : ReadOperation where
  modem := modem
  request := w.ubus.connection
  generation := (w.bridge.modems modem).generation
  timeoutSource := true
  parentCancelHandler := true
  timedOut := false
  transportLost := false
  deferred := true
  vendorFallback := false

/-- The common body of the three functions that make an operation, with the call that follows
each of them. -/
def readOperationNew (kind : ReadKind) (callback : ReadCallback) (w : World) (modem : ModemRef) :
    World :=
  let op := newOperation w modem
  let born := w.updateSlot w.next fun _ =>
    ⟨some op,true,true,some (callback,(w.bridge.modems modem).modem),false⟩
  let live := w.operations kind++[w.next]
  ({born with next := w.next+1,operations := Function.update w.operations kind live}).observe
    (.started w.next kind modem w.ubus.connection w.bridge.now)

def l850StatusOperationNew : World → ModemRef → World := readOperationNew .status .statusReady
def l850ScanOperationNew : World → ModemRef → World := readOperationNew .scan .scanReady
def l850CarrierOperationNew : World → ModemRef → World := readOperationNew .carrier .carrierReady

structure ReadRequest where
  modemId : CString
  generation : Nat
  deriving DecidableEq,Repr

def World.refuse (w : World) (modem : Option ModemRef) (code : String) (retryable : Bool)
    (retryAfterMs : Nat) : World :=
  w.observe (.refused (sendL850Error w.bridge (modem.map w.bridge.modems) code retryable
    retryAfterMs))

/-- What the three methods begin with; nothing when `parse_exact_fields` refused the message. -/
def requestedRead (w : World) (mutations : List CString) (request : Option ReadRequest)
    (serve : ModemRef → World) : World :=
  match request with
  | none => w.refuse none "invalid_argument" false 0
  | some request =>
    match l850RequestedModem (w.tables mutations) w.bridge request.modemId request.generation with
    | .error code =>
      w.refuse none code (code == "dependency_unavailable" || code == "busy") 0
    | .ok ref => serve ref

def methodCellLockStatus (w : World) (mutations : List CString) (request : Option ReadRequest) :
    World :=
  requestedRead w mutations request fun ref =>
    if !(w.bridge.modems ref).l850SupportedLteBandsAvailable then
      w.refuse (some ref) "not_ready" true 0
    else l850StatusOperationNew w ref

def methodCellScan (w : World) (mutations : List CString) (request : Option ReadRequest) :
    World :=
  requestedRead w mutations request fun ref =>
    let modem := w.bridge.modems ref
    if modem.mutationBusy then w.refuse (some ref) "busy" true 0
    else if l850ModemHasActiveScan (w.tables mutations) ref then
      w.refuse (some ref) "busy" true 0
    else if !modem.l850SupportedLteBandsAvailable then w.refuse (some ref) "not_ready" true 0
    else
      let retryAfter := l850glL850ScanRetryAfterMs w.bridge.now
        (w.records.lastScanCompletedAt ref)
      if retryAfter > 0 then w.refuse (some ref) "rate_limited" true retryAfter
      else l850ScanOperationNew w ref

def methodGetCarrierInfo (w : World) (mutations : List CString) (request : Option ReadRequest) :
    World :=
  requestedRead w mutations request fun ref =>
    let modem := w.bridge.modems ref
    if modem.mutationBusy || l850ModemHasActiveScan (w.tables mutations) ref ||
        l850ModemHasActiveCarrierQuery (w.tables mutations) ref then
      w.refuse (some ref) "busy" true 0
    else if !modem.l850SupportedLteBandsAvailable then w.refuse (some ref) "not_ready" true 0
    else
      let retryAfter := l850glL850CaRetryAfterMs w.bridge.now
        (w.records.lastCarrierQueryCompletedAt ref)
      if retryAfter > 0 then w.refuse (some ref) "rate_limited" true retryAfter
      else l850CarrierOperationNew w ref

end Reads
end L850GL
