import L850GL.Cell.LockCodec
import L850GL.Lib.Transition
import L850GL.Registry.Capacity
import L850GL.Status

/-! The runs behind the status replies: the table of the records, what their proxies report, and
the two caches that replies of the modem fill, in any order. -/
namespace L850GL
namespace Status

open Cell CellInfo Refresh Registry Sms Voltage

/-- The bridge of the status requests; `clock` carries the times and the manager. -/
structure World where
  registry : Registry
  status : ModemRef → ModemStatus
  clock : Bridge

def World.bridge (w : World) : Bridge := w.registry.shown w.clock

/-- The reasons with which expert operations store the serving cell. -/
inductive ExpertReason
  | xmciScan | standardCellScan | postcondition
  deriving DecidableEq,Repr

def ExpertReason.text : ExpertReason → String
  | .xmciScan => "expert-xmci-scan"
  | .standardCellScan => "expert-standard-cell-scan"
  | .postcondition => "expert-postcondition"

/-- What runs next.  A callback carries the proxy and the generation of its query. -/
inductive Event
  | registry (event : Registry.Event)
  | reported (ref : ModemRef) (report : ModemReport) (simCacheState bearerCacheState : CacheState)
  | clock (bridge : Bridge)
  | getOverview (environment : Environment) (request : Option CString)
  | servingCellQueryReady (ref : ModemRef) (source generation : Nat) (cells : List MmCellInfo)
      (failed : Bool)
  | servingCellStored (ref : ModemRef) (cell : L850StandardCell) (reason : ExpertReason)
  | l850VoltageReady (ref : ModemRef) (source generation : Nat) (response : Option CString)

def ModemStatus.new (report : ModemReport) : ModemStatus where
  report := report
  simCacheState := .loading
  bearerCacheState := .loading
  servingCell := ⟨false,0,0,0,0,.finite 0,.finite 0,false,false,0,"refresh-pending"⟩
  servingCellRefreshPending := false
  servingCellLastAttemptAt := 0
  voltage := ⟨false,0,0,0⟩
  voltageRefreshPending := false
  voltageLastAttemptAt := 0

/-- `modem_mark_removed`. -/
def ModemStatus.markRemoved (status : ModemStatus) : ModemStatus :=
  {status with
    servingCell := {status.servingCell with valid := false,reason := "device-gone"}
    servingCellRefreshPending := false
    voltage := {status.voltage with valid := false}
    voltageRefreshPending := false}

def World.updateStatus (w : World) (ref : ModemRef) (status : ModemStatus) : World :=
  {w with status := Function.update w.status ref status}

def servingCellQueryReady (w : World) (ref : ModemRef) (source generation : Nat)
    (cells : List MmCellInfo) (failed : Bool) : World :=
  let modem := w.bridge.modems ref
  let status := w.status ref
  if !modem.live || modem.generation != generation || modem.modem != source then w
  else
    let status := {status with servingCellRefreshPending := false}
    let fresh := servingCellCacheIsFresh modem status.servingCell w.bridge.now
    let stored := if failed then (false,status.servingCell) else
      servingCellCacheStoreStandard modem w.bridge.now status.servingCell cells
    if stored.1 then w.updateStatus ref {status with servingCell := stored.2}
    else if !fresh then w.updateStatus ref {status with
      servingCell := {status.servingCell with
        valid := false
        reason := if failed then "standard-cell-info-unavailable"
          else "standard-cell-info-malformed"}}
    else w.updateStatus ref status

def servingCellStored (w : World) (ref : ModemRef) (cell : L850StandardCell)
    (reason : ExpertReason) : World :=
  let status := w.status ref
  w.updateStatus ref {status with
    servingCell := (servingCellCacheStore (w.bridge.modems ref) w.bridge.now status.servingCell
      cell.earfcn cell.pci cell.band cell.rsrp cell.hasRsrp cell.rsrq cell.hasRsrq reason.text).2}

/-- What `l850_voltage_ready` makes of the cache; there is no response when the command failed. -/
def l850VoltageStore (modem : Modem) (now : Int) (cache : VoltageCache)
    (response : Option CString) : VoltageCache :=
  match response with
  | none => {cache with valid := false}
  | some response =>
    if !modem.l850glModemAttestMutationTarget then {cache with valid := false}
    else match l850glL850VoltageParse response with
      | .error _ => {cache with valid := false}
      | .ok parsed => ⟨true,modem.generation,parsed.millivolts,now⟩

def l850VoltageReady (modem : Modem) (now : Int) (source generation : Nat)
    (response : Option CString) (status : ModemStatus) : ModemStatus :=
  if !modem.live || modem.generation != generation || modem.modem != source then status
  else {status with
    voltageRefreshPending := false
    voltage := l850VoltageStore modem now status.voltage response}

/-- The records after a change of the table, where some have been removed. -/
def statusAfter (r r' : Registry) (status : ModemRef → ModemStatus) : ModemRef → ModemStatus :=
  fun ref => if (r.modems ref).live && !(r'.modems ref).live then (status ref).markRemoved
    else status ref

section

variable (random : Nat → Option (Vector UInt8 16))

def step (w : World) : Event → Option World
  | .registry event => (Registry.step random w.registry event).map fun registry =>
      {w with registry := registry,status := statusAfter w.registry registry w.status}
  | .reported ref report simCacheState bearerCacheState =>
    some (w.updateStatus ref {w.status ref with
      report := report
      simCacheState := simCacheState
      bearerCacheState := bearerCacheState})
  | .clock bridge => if bridge.now < w.clock.now then none else some {w with clock := bridge}
  | .getOverview environment request =>
    some {w with status := (methodGetOverview environment w.bridge w.status request).1}
  | .servingCellQueryReady ref source generation cells failed =>
    some (servingCellQueryReady w ref source generation cells failed)
  | .servingCellStored ref cell reason => some (servingCellStored w ref cell reason)
  | .l850VoltageReady ref source generation response =>
    some (w.updateStatus ref (l850VoltageReady (w.bridge.modems ref) w.bridge.now source generation
      response (w.status ref)))

/-- No record has been made. -/
structure Initial (w : World) : Prop where
  registry : Registry.Initial w.registry
  status : ∀ ref,∃ report,w.status ref = .new report

def statusSystem : System World Event := ⟨Initial,step random⟩

end

/-- The reasons that the field of a serving cell ever names. -/
def servingCellReasons : List String :=
  ["refresh-pending","device-gone","standard-cell-info","standard-cell-info-unavailable",
   "standard-cell-info-malformed","expert-xmci-scan","expert-standard-cell-scan",
   "expert-postcondition"]

/-- A valid serving cell lies in a known band, with finite readings. -/
structure SoundCell (cache : ServingCellCache) : Prop where
  reason : cache.reason ∈ servingCellReasons
  band : cache.valid = true → l850glL850EarfcnToBand cache.earfcn = some cache.band
  pci : cache.valid = true → cache.pci ≤ 503
  rsrp : cache.valid = true → cache.hasRsrp = true → cache.rsrp.isfinite = true
  rsrq : cache.valid = true → cache.hasRsrq = true → cache.rsrq.isfinite = true

/-- A valid voltage is in range. -/
def SoundVoltage (cache : VoltageCache) : Prop :=
  cache.valid = true → l850glL850VoltageMinMv ≤ cache.mv ∧ cache.mv ≤ l850glL850VoltageMaxMv

structure SoundStatus (status : ModemStatus) : Prop where
  cell : SoundCell status.servingCell
  voltage : SoundVoltage status.voltage

/-- What holds between two events. -/
structure Sound (w : World) : Prop where
  registry : Inv w.registry
  listed : Listed w.registry
  status : ∀ ref,SoundStatus (w.status ref)

variable {w w' : World} {ref : ModemRef} {modem : Modem} {status status' : ModemStatus}
  {cache : ServingCellCache} {now : Int} {random : Nat → Option (Vector UInt8 16)}

theorem SoundCell.of_invalid (hreason : cache.reason ∈ servingCellReasons)
    (h : cache.valid = false) : SoundCell cache := by
  constructor
  · exact hreason
  · simp [h]
  · simp [h]
  · simp [h]
  · simp [h]

/-- A cell is stored only after all its checks. -/
theorem SoundCell.store (h : SoundCell cache) {earfcn pci band : Nat} {rsrp rsrq : Reading}
    {hasRsrp hasRsrq : Bool} {reason : String} (hreason : reason ∈ servingCellReasons) :
    SoundCell (servingCellCacheStore modem now cache earfcn pci band rsrp hasRsrp rsrq hasRsrq
      reason).2 := by
  unfold servingCellCacheStore
  split
  · exact h
  · rename_i hchecks
    simp only [Bool.or_eq_true,Bool.and_eq_true,Bool.not_eq_true',decide_eq_true_eq,
      bne_iff_ne,ne_eq,not_or,not_and,Bool.not_eq_false,Decidable.not_not,Nat.not_lt] at hchecks
    obtain ⟨⟨⟨⟨⟨-,hpci⟩,hband⟩,-⟩,hrsrp⟩,hrsrq⟩ := hchecks
    exact ⟨hreason,fun _ => hband,fun _ => hpci,fun _ => hrsrp,fun _ => hrsrq⟩

theorem SoundCell.storeStandard (h : SoundCell cache) (cells : List MmCellInfo) :
    SoundCell (servingCellCacheStoreStandard modem now cache cells).2 := by
  unfold servingCellCacheStoreStandard
  split
  · exact h
  · split
    · exact h.store (by decide)
    · exact h

theorem SoundStatus.new (report : ModemReport) : SoundStatus (.new report) := by
  constructor
  · exact .of_invalid (by decide : "refresh-pending" ∈ servingCellReasons) rfl
  · intro hvalid
    cases hvalid

theorem SoundStatus.congr (h : SoundStatus status)
    (hcell : status'.servingCell = status.servingCell)
    (hvoltage : status'.voltage = status.voltage) : SoundStatus status' := by
  constructor
  · rw [hcell]
    exact h.cell
  · rw [hvoltage]
    exact h.voltage

theorem SoundStatus.markRemoved : SoundStatus status.markRemoved := by
  constructor
  · exact .of_invalid (by decide : "device-gone" ∈ servingCellReasons) rfl
  · intro hvalid
    cases hvalid

theorem servingCellRefresh_keeps (modem : Modem) (now : Int) (status : ModemStatus) :
    (servingCellRefresh modem now status).servingCell = status.servingCell ∧
      (servingCellRefresh modem now status).voltage = status.voltage ∧
      (servingCellRefresh modem now status).report = status.report ∧
      (servingCellRefresh modem now status).simCacheState = status.simCacheState := by
  unfold servingCellRefresh
  split
  · exact ⟨rfl,rfl,rfl,rfl⟩
  · exact ⟨rfl,rfl,rfl,rfl⟩

theorem l850VoltageRefresh_keeps (tables : Mutation.Tables) (modem : Modem) (ref : ModemRef)
    (now : Int) (status : ModemStatus) :
    (l850VoltageRefresh tables modem ref now status).servingCell = status.servingCell ∧
      (l850VoltageRefresh tables modem ref now status).voltage = status.voltage ∧
      (l850VoltageRefresh tables modem ref now status).report = status.report ∧
      (l850VoltageRefresh tables modem ref now status).simCacheState = status.simCacheState := by
  unfold l850VoltageRefresh
  split
  · exact ⟨rfl,rfl,rfl,rfl⟩
  · exact ⟨rfl,rfl,rfl,rfl⟩

/-- The refreshes of `get_overview` start queries and leave all that the reply shows. -/
theorem overviewRefresh_keeps (environment : Environment) (bridge : Bridge) (ref : ModemRef)
    (status : ModemStatus) :
    let refreshed := overviewRefresh environment bridge ref status
    refreshed.servingCell = status.servingCell ∧ refreshed.voltage = status.voltage ∧
      refreshed.report = status.report ∧ refreshed.simCacheState = status.simCacheState := by
  simp only [overviewRefresh]
  obtain ⟨hcell,hvoltage,hreport,hsim⟩ := servingCellRefresh_keeps (bridge.modems ref) bridge.now
    (if environment.expert then
      l850VoltageRefresh environment.tables (bridge.modems ref) ref bridge.now status else status)
  rw [hcell,hvoltage,hreport,hsim]
  split
  · exact l850VoltageRefresh_keeps _ _ _ _ _
  · exact ⟨rfl,rfl,rfl,rfl⟩

theorem Sound.updateStatus (h : Sound w) (hstatus : SoundStatus status) :
    Sound (w.updateStatus ref status) := by
  refine ⟨h.registry,h.listed,fun other => ?_⟩
  by_cases ho : other = ref
  · subst ho
    simpa [World.updateStatus] using hstatus
  · simpa [World.updateStatus,ho] using h.status other

theorem Sound.servingCellQueryReady (h : Sound w) (ref : ModemRef) (source generation : Nat)
    (cells : List MmCellInfo) (failed : Bool) :
    Sound (servingCellQueryReady w ref source generation cells failed) := by
  have hstatus := h.status ref
  have hstored : SoundCell (if failed then (false,(w.status ref).servingCell) else
      servingCellCacheStoreStandard (w.bridge.modems ref) w.bridge.now
        (w.status ref).servingCell cells).2 := by
    split
    · exact hstatus.cell
    · exact hstatus.cell.storeStandard cells
  have hreason : (if failed then "standard-cell-info-unavailable"
      else "standard-cell-info-malformed") ∈ servingCellReasons := by
    cases failed <;> decide
  simp only [Status.servingCellQueryReady]
  split
  · exact h
  by_cases hgood : (if failed then (false,(w.status ref).servingCell) else
      servingCellCacheStoreStandard (w.bridge.modems ref) w.bridge.now
        (w.status ref).servingCell cells).1 = true
  · rw [if_pos hgood]
    exact h.updateStatus ⟨hstored,hstatus.voltage⟩
  rw [if_neg hgood]
  split
  · exact h.updateStatus ⟨.of_invalid hreason rfl,hstatus.voltage⟩
  · exact h.updateStatus ⟨hstatus.cell,hstatus.voltage⟩

theorem SoundVoltage.store {cache : VoltageCache} (response : Option CString) :
    SoundVoltage (l850VoltageStore modem now cache response) := by
  unfold l850VoltageStore
  intro hvalid
  split at hvalid
  · cases hvalid
  split at hvalid
  · cases hvalid
  split at hvalid
  · cases hvalid
  · rename_i hattested _ parsed hparsed
    have hrange := l850glL850VoltageParse_inRange hparsed
    simp only [hattested]
    exact ⟨hrange.lower,hrange.upper⟩

theorem SoundStatus.l850VoltageReady (h : SoundStatus status) (modem : Modem) (now : Int)
    (source generation : Nat) (response : Option CString) :
    SoundStatus (l850VoltageReady modem now source generation response status) := by
  unfold Status.l850VoltageReady
  split
  · exact h
  · exact ⟨h.cell,SoundVoltage.store response⟩

theorem Sound.getOverview (h : Sound w) (environment : Environment) (request : Option CString) :
    Sound {w with status := (methodGetOverview environment w.bridge w.status request).1} := by
  unfold methodGetOverview
  split
  · exact h
  · rename_i ref _
    obtain ⟨hcell,hvoltage,-⟩ := overviewRefresh_keeps environment w.bridge ref (w.status ref)
    exact h.updateStatus ((h.status ref).congr hcell hvoltage)

theorem Sound.step {event : Event} (h : Sound w) (hs : step random w event = some w') :
    Sound w' := by
  cases event with
  | registry event =>
    obtain ⟨registry,hregistry,rfl⟩ := Option.map_eq_some_iff.mp hs
    refine ⟨(step_advances hregistry h.registry).1,h.listed.step hregistry,fun ref => ?_⟩
    simp only [statusAfter]
    split
    · exact SoundStatus.markRemoved
    · exact h.status ref
  | reported ref report simCacheState bearerCacheState =>
    obtain rfl := Option.some.inj hs
    exact h.updateStatus ((h.status ref).congr rfl rfl)
  | clock bridge =>
    simp only [Status.step] at hs
    split at hs
    · cases hs
    · obtain rfl := Option.some.inj hs
      exact ⟨h.registry,h.listed,h.status⟩
  | getOverview environment request =>
    obtain rfl := Option.some.inj hs
    exact h.getOverview environment request
  | servingCellQueryReady ref source generation cells failed =>
    obtain rfl := Option.some.inj hs
    exact h.servingCellQueryReady ref source generation cells failed
  | servingCellStored ref cell reason =>
    obtain rfl := Option.some.inj hs
    refine h.updateStatus ⟨(h.status ref).cell.store ?_,(h.status ref).voltage⟩
    cases reason <;> decide
  | l850VoltageReady ref source generation response =>
    obtain rfl := Option.some.inj hs
    exact h.updateStatus ((h.status ref).l850VoltageReady _ _ source generation response)

theorem Sound.of_reachable (h : (statusSystem random).Reachable w) : Sound w := by
  refine h.invariant (fun w hstart => ?_) fun w event w' hsound hs => hsound.step hs
  refine ⟨.of_initial hstart.registry,.of_initial hstart.registry,fun ref => ?_⟩
  obtain ⟨report,hreport⟩ := hstart.status ref
  rw [hreport]
  exact SoundStatus.new report

end Status
end L850GL
