import L850GL.CellInfo
import L850GL.Network.Binding
import L850GL.OwnNumber
import L850GL.Refresh
import L850GL.Registry
import L850GL.Voltage

/-! What `list_modems`, `get_overview` and `get_lock_status` tell of the modem records. -/
namespace L850GL
namespace Status

open CellInfo Identity Mutation Network OwnNumber Radio Refresh Registry SafeText Sms Voltage

def maxPortsOrDrivers : Nat := 32
def servingCellFreshSeconds : Nat := 90
def servingCellRetrySeconds : Nat := 30
def l850VoltageFreshSeconds : Nat := 60
def l850VoltageRetrySeconds : Nat := 10

inductive MMModemPowerState
  | unknown | off | low | on
  deriving DecidableEq,Repr

inductive MMModemLock
  | unknown | none | simPin | simPin2 | simPuk | simPuk2 | phSpPin | phSpPuk | phNetPin | phNetPuk
  | phSimPin | phCorpPin | phCorpPuk | phFsimPin | phFsimPuk | phNetsubPin | phNetsubPuk
  deriving DecidableEq,Repr

inductive MMModem3gppRegistrationState
  | idle | home | searching | denied | unknown | roaming | homeSmsOnly | roamingSmsOnly
  | emergencyOnly | homeCsfbNotPreferred | roamingCsfbNotPreferred | attachedRlos
  deriving DecidableEq,Repr

inductive MMModemPortType
  | mbim | other
  deriving DecidableEq,Repr

structure MMSim where
  imsi : Option CString
  identifier : Option CString
  deriving DecidableEq,Repr

structure MMModem3gpp where
  registrationState : MMModem3gppRegistrationState
  operatorName : Option CString
  deriving DecidableEq,Repr

structure MMSignal where
  rsrp : Reading
  rsrq : Reading
  sinr : Reading
  deriving DecidableEq,Repr

structure MMModemSignal where
  lte : Option MMSignal
  nr5g : Option MMSignal
  umts : Option MMSignal
  gsm : Option MMSignal
  deriving DecidableEq,Repr

structure MMBearer where
  connected : Bool
  interface : Option CString
  deriving DecidableEq,Repr

/-- What the proxies of a record report; `sim` and `bearers` are those that the record holds.
Bands are values of `MMModemBand`, modes and access technologies are bit masks. -/
structure ModemReport where
  manufacturer : Option CString
  model : Option CString
  revision : Option CString
  equipmentIdentifier : Option CString
  drivers : Option (List CString)
  ports : Option (List MMModemPortType)
  powerState : MMModemPowerState
  simPath : Option CString
  unlockRequired : MMModemLock
  ownNumbers : List CString
  sim : Option MMSim
  gpp : Option MMModem3gpp
  accessTechnologies : Nat
  signalQuality : Nat
  signalRecent : Bool
  signal : Option MMModemSignal
  bearers : List MMBearer
  supportedBands : Option (List Nat)
  currentBands : Option (List Nat)
  currentModes : Option (Nat × Nat)
  messaging : Bool
  deriving DecidableEq,Repr

/-- The fields `l850_voltage_*` of a modem record. -/
structure VoltageCache where
  valid : Bool
  generation : Nat
  mv : Nat
  updatedAt : Int
  deriving DecidableEq,Repr

/-- The part of a modem record that only these requests read. -/
structure ModemStatus where
  report : ModemReport
  simCacheState : CacheState
  bearerCacheState : CacheState
  servingCell : ServingCellCache
  servingCellRefreshPending : Bool
  servingCellLastAttemptAt : Int
  voltage : VoltageCache
  voltageRefreshPending : Bool
  voltageLastAttemptAt : Int

/-- What a request finds outside the bridge.  `expert` tells the build, `network` is the package
that UCI loads, and `bandGetString` is the name of a band in ModemManager. -/
structure Environment where
  expert : Bool
  tables : Tables
  protocolInstalled : Bool
  network : Option NetworkPackage
  bandGetString : Nat → Option CString

def stateName (state : ModemState) : String :=
  match state with
  | .failed => "failed"
  | .initializing => "initializing"
  | .locked => "locked"
  | .disabled => "disabled"
  | .disabling => "disabling"
  | .enabling => "enabling"
  | .enabled => "enabled"
  | .searching => "searching"
  | .registered => "registered"
  | .disconnecting => "disconnecting"
  | .connecting => "connecting"
  | .connected => "connected"
  | .unknown => "unknown"

def powerStateName (state : MMModemPowerState) : String :=
  match state with
  | .off => "off"
  | .low => "low"
  | .on => "on"
  | .unknown => "unknown"

def lockName (lock : MMModemLock) : String :=
  match lock with
  | .none => "none"
  | .simPin => "sim-pin"
  | .simPin2 => "sim-pin2"
  | .simPuk => "sim-puk"
  | .simPuk2 => "sim-puk2"
  | .phSpPin => "service-provider-pin"
  | .phSpPuk => "service-provider-puk"
  | .phNetPin => "network-pin"
  | .phNetPuk => "network-puk"
  | .phSimPin => "phone-sim-pin"
  | .phCorpPin => "corporate-pin"
  | .phCorpPuk => "corporate-puk"
  | .phFsimPin => "fixed-sim-pin"
  | .phFsimPuk => "fixed-sim-puk"
  | .phNetsubPin => "network-subset-pin"
  | .phNetsubPuk => "network-subset-puk"
  | .unknown => "unknown"

def registrationName (state : MMModem3gppRegistrationState) : String :=
  match state with
  | .idle => "idle"
  | .home => "home"
  | .searching => "searching"
  | .denied => "denied"
  | .roaming => "roaming"
  | .homeSmsOnly => "home-sms-only"
  | .roamingSmsOnly => "roaming-sms-only"
  | .emergencyOnly => "emergency-only"
  | .homeCsfbNotPreferred => "home-csfb-not-preferred"
  | .roamingCsfbNotPreferred => "roaming-csfb-not-preferred"
  | .attachedRlos => "attached-rlos"
  | .unknown => "unknown"

def registrationIsRoaming (state : MMModem3gppRegistrationState) : Bool :=
  state == .roaming || state == .roamingSmsOnly || state == .roamingCsfbNotPreferred

def addSafeString (name : String) (value : Option CString) (limit : Nat) : String × Blob :=
  (name,.string (safeText value limit))

/-- `technologies` of `add_access_technologies`, by the bit of each. -/
def technologies : List (Nat × String) :=
  [(0,"pots"),(1,"gsm"),(2,"gsm-compact"),(3,"gprs"),(4,"edge"),(5,"umts"),(6,"hsdpa"),
   (7,"hsupa"),(8,"hspa"),(9,"hspa-plus"),(10,"1xrtt"),(11,"evdo0"),(12,"evdoa"),(13,"evdob"),
   (14,"lte"),(15,"5gnr"),(16,"lte-cat-m"),(17,"lte-nb-iot")]

def addAccessTechnologies (value : Nat) : String × Blob :=
  ("access",.array ((technologies.filter fun technology => value.testBit technology.1).map
    fun technology => .text technology.2))

def preferredBearer (bearers : List MMBearer) : Option MMBearer :=
  (bearers.find? (·.connected)).or bearers.head?

/-- Whether an ASCII text occurs in a value in any case. -/
def stringContainsAsciiCi (value needle : CString) : Bool :=
  (value.map gAsciiTolower).tails.any needle.isPrefixOf

inductive Composition
  | mbim | ncm | unknown
  deriving DecidableEq,Repr

def Composition.name : Composition → String
  | .mbim => "mbim"
  | .ncm => "ncm"
  | .unknown => "unknown"

def l850glModemComposition (report : ModemReport) : Composition :=
  let drivers := (report.drivers.getD []).take maxPortsOrDrivers
  if drivers.any fun driver => stringContainsAsciiCi driver "cdc_mbim".toList ||
      stringContainsAsciiCi driver "mbim".toList then .mbim
  else if ((report.ports.getD []).take maxPortsOrDrivers).any (· == .mbim) then .mbim
  else if drivers.any fun driver => stringContainsAsciiCi driver "cdc_ncm".toList ||
      stringContainsAsciiCi driver "ncm".toList then .ncm
  else .unknown

def addNetwork (report : ModemReport) : String × Blob :=
  let registration := report.gpp.elim .unknown MMModem3gpp.registrationState
  ("network",.table
    [("registration",.text (registrationName registration)),
     addSafeString "operator" (report.gpp.elim (some []) MMModem3gpp.operatorName) safeTextMax,
     ("roaming",.u8 (registrationIsRoaming registration)),
     addAccessTechnologies report.accessTechnologies])

/-- `G_MAXDOUBLE`. -/
def gMaxDouble : Rat := ((2^53-1)*2^971 : Nat)

/-- The number that a finite reading stands for. -/
def readingValue : Reading → Rat
  | .unavailable => -gMaxDouble
  | .finite value => value
  | .notFinite => 0

def addMetric (name : String) (value : Reading) : Reply :=
  if value != .unavailable && value.isfinite then [(name,.double (readingValue value))] else []

def addSignalSummary (report : ModemReport) : String × Blob :=
  let metrics := report.signal.bind fun signal =>
    signal.lte.or (signal.nr5g.or (signal.umts.or signal.gsm))
  ("signal",.table ([("quality",.u32 (min report.signalQuality 100)),
    ("recent",.u8 report.signalRecent)]++metrics.elim [] fun metrics =>
      addMetric "rsrp" metrics.rsrp++addMetric "rsrq" metrics.rsrq++addMetric "sinr" metrics.sinr))

def simPresent (report : ModemReport) : Bool :=
  match report.simPath with
  | none => false
  | some path => path != "/".toList

def cachedSim (status : ModemStatus) : Option MMSim :=
  if simPresent status.report && status.simCacheState == .ready then status.report.sim else none

def addSimSummary (status : ModemStatus) : String × Blob :=
  let sim := cachedSim status
  let number := if sim.isSome then preferredOwnNumber status.report.ownNumbers else []
  ("sim",.table
    [("present",.u8 (simPresent status.report)),
     ("lock",.text (lockName status.report.unlockRequired)),
     addSafeString "number" (some number) safePhoneNumberMax,
     addSafeString "imsi" (sim.elim (some []) MMSim.imsi) safeIdentifierMax,
     addSafeString "iccid" (sim.elim (some []) MMSim.identifier) safeIdentifierMax])

def addBearerSummary (report : ModemReport) : String × Blob :=
  let bearer := preferredBearer report.bearers
  ("bearer",.table
    [("connected",.u8 (bearer.any (·.connected))),
     addSafeString "interface" (bearer.elim (some []) MMBearer.interface) safePortMax])

def mmModemBandUnknown : Nat := 0
def mmModemBandAny : Nat := 256

/-- The canonical name of a band that is not unknown. -/
def canonicalBand (bandGetString : Nat → Option CString) (band : Nat) : Option CString :=
  if band = mmModemBandUnknown then none
  else (bandGetString band).filter l850glRadioBandNameIsCanonical

theorem canonicalBand_canonical {bandGetString : Nat → Option CString} {band : Nat}
    {name : CString} (h : canonicalBand bandGetString band = some name) :
    l850glRadioBandNameIsCanonical name = true := by
  unfold canonicalBand at h
  split at h
  · cases h
  · exact (Option.filter_eq_some_iff.mp h).2

def addBandArray (bandGetString : Nat → Option CString) (name : String)
    (bands : Option (List Nat)) : String × Blob :=
  (name,.array ((((bands.getD []).take Modem.maxRadioBands).filterMap
    (canonicalBand bandGetString)).map .string))

def radioBandOf (bandGetString : Nat → Option CString) (band : Nat) : Option RadioBand :=
  (canonicalBand bandGetString band).map fun name =>
    ⟨name,band,(l850glRadioBandFamily name).mask⟩

/-- The supported bands with their families, nothing when the function returns false. -/
def snapshotSupportedRadioBands (bandGetString : Nat → Option CString) (report : ModemReport) :
    Option (List RadioBand × Nat) :=
  match report.supportedBands with
  | none => none
  | some bands =>
    if bands = [] ∨ bands.length > Modem.maxRadioBands then none
    else
      let choices := bands.filterMap (radioBandOf bandGetString)
      if choices = [] then none
      else some (choices,choices.foldl (fun families band => families ||| band.family) 0)

/-- A record that keeps the names of the reported bands has the names of the snapshot. -/
theorem snapshotSupportedRadioBands_names {bandGetString : Nat → Option CString}
    {report : ModemReport} {modem : Modem}
    (h : modem.supportedBands = report.supportedBands.map (List.map fun band =>
      (canonicalBand bandGetString band).getD [])) :
    modem.snapshotSupportedRadioBands =
      (snapshotSupportedRadioBands bandGetString report).map fun choices =>
        choices.1.map (·.name) := by
  have hnames : ∀ bands : List Nat,
      (bands.map fun band => (canonicalBand bandGetString band).getD []).filter
        l850glRadioBandNameIsCanonical =
      (bands.filterMap (radioBandOf bandGetString)).map (·.name) := by
    intro bands
    induction bands with
    | nil => rfl
    | cons band bands ih =>
      cases hname : canonicalBand bandGetString band with
      | none =>
        have hnil : l850glRadioBandNameIsCanonical [] = false := rfl
        simp [radioBandOf,hname,hnil,ih]
      | some name =>
        have hcanonical := canonicalBand_canonical hname
        simp [radioBandOf,hname,hcanonical,ih]
  simp only [Modem.snapshotSupportedRadioBands,snapshotSupportedRadioBands,h]
  cases report.supportedBands with
  | none => rfl
  | some bands =>
    simp only [Option.map_some,List.map_eq_nil_iff,List.length_map,hnames]
    split
    · rfl
    split
    · rfl
    · rfl

def mmModemModeAny : Nat := 4294967295

/-- The bits of the generations in a `MMModemMode`, with the families they stand for. -/
def modeFamilies : List (Nat × RadioFamily) :=
  [(1,.family2g),(2,.family3g),(3,.family4g),(4,.family5g)]

def modeFamilyMask (modes : Nat) : Nat :=
  (modeFamilies.filter fun family => modes.testBit family.1).foldl
    (fun families family => families ||| family.2.mask) 0

def currentRadioFamilies (report : ModemReport) (supportedFamilies : Nat) : Option Nat :=
  match report.currentModes with
  | none => none
  | some (allowed,_) =>
    let families := if allowed = mmModemModeAny then supportedFamilies else modeFamilyMask allowed
    if families = 0 then none else some families

def generationName (family : RadioFamily) : String :=
  match family with
  | .none => ""
  | .family2g => "2g"
  | .family3g => "3g"
  | .family4g => "4g"
  | .family5g => "5g"

def addModeArray (name : String) (modes : Nat) : String × Blob :=
  (name,.array ((modeFamilies.filter fun family => modes.testBit family.1).map
    fun family => .text (generationName family.2)))

def preferredModeName (mode : Nat) : String :=
  if mode = 0 then "none"
  else if mode = 2 then "2g"
  else if mode = 4 then "3g"
  else if mode = 8 then "4g"
  else if mode = 16 then "5g"
  else if mode = mmModemModeAny then "any"
  else "unknown"

def addFeature (name state : String) (isMutable : Bool) (reason : String) : String × Blob :=
  (name,.table [("state",.text state),("mutable",.u8 isMutable),("reason",.text reason)])

/-- The state of a feature, its reason, and whether it is mutable or busy. -/
structure Feature where
  state : String
  reason : String
  isMutable : Bool
  busy : Bool
  deriving DecidableEq,Repr

def mutationBusyReason (modem : Modem) : String :=
  if modem.mutationBusy then "per-modem-mutation-in-progress" else "advanced-cooldown"

def standardFeature (bridge : Bridge) (ref : ModemRef) (attested available : Bool)
    (unavailableState availableReason unavailableReason : String) : Feature :=
  let modem := bridge.modems ref
  if !available then ⟨unavailableState,unavailableReason,false,false⟩
  else if !attested then ⟨"unsupported","exact-l850-mbim-hardware-not-attested",false,false⟩
  else if modem.mutationBusy || advancedRetryAfterMs bridge ref > 0 then
    ⟨"busy",mutationBusyReason modem,false,true⟩
  else ⟨"available",availableReason,true,false⟩

def retryAfterField (bridge : Bridge) (ref : ModemRef) : Reply :=
  if advancedRetryAfterMs bridge ref > 0 then
    [("retry_after_ms",.u32 (advancedRetryAfterMs bridge ref))]
  else []

def addStandardFeature (name : String) (bridge : Bridge) (ref : ModemRef)
    (attested available : Bool) (unavailableState availableReason unavailableReason : String) :
    String × Blob :=
  let feature := standardFeature bridge ref attested available unavailableState availableReason
    unavailableReason
  (name,.table ([("state",.text feature.state),("mutable",.u8 feature.isMutable),
    ("reason",.text feature.reason),("busy",.u8 feature.busy)]++retryAfterField bridge ref))

def messagingFeature (modem : Modem) (present attested : Bool) : Feature :=
  if !present then ⟨"unavailable","dbus-interface-absent",false,false⟩
  else if !attested then ⟨"unsupported","exact-l850-mbim-hardware-not-attested",false,false⟩
  else if modem.mutationBusy then ⟨"busy","per-modem-mutation-in-progress",false,true⟩
  else ⟨"available","dbus-interface-present-native-api",true,false⟩

def addMessagingFeature (name : String) (modem : Modem) (present attested : Bool) :
    String × Blob :=
  let feature := messagingFeature modem present attested
  (name,.table [("state",.text feature.state),("mutable",.u8 feature.isMutable),
    ("reason",.text feature.reason),("busy",.u8 feature.busy)])

/-- The arguments that `add_pci_feature` passes to `add_feature`. -/
def pciFeature (environment : Environment) (bridge : Bridge) (ref : ModemRef) :
    String × Bool × String :=
  let modem := bridge.modems ref
  let retryAfter := advancedRetryAfterMs bridge ref
  if !environment.expert then ("unsupported_build",false,"expert-object-absent")
  else if !modem.l850glModemAttestMutationTarget then
    ("unsupported",false,"exact-l850-mbim-hardware-not-attested")
  else if modem.mutationBusy || retryAfter > 0 ||
      l850ModemHasActiveMutation environment.tables modem then
    ("busy",false,if retryAfter > 0 then "advanced-cooldown" else "per-modem-mutation-in-progress")
  else ("available",true,"runtime-probe-required-l850-command-state-machine")

def addPciFeature (environment : Environment) (name : String) (bridge : Bridge)
    (ref : ModemRef) : String × Blob :=
  let feature := pciFeature environment bridge ref
  addFeature name feature.1 feature.2.1 feature.2.2

def addOverviewCapabilities (environment : Environment) (bridge : Bridge) (ref : ModemRef)
    (report : ModemReport) : String × Blob :=
  let modem := bridge.modems ref
  let attested := modem.l850glModemAttestMutationTarget
  let bands := snapshotSupportedRadioBands environment.bandGetString report
  let modesKnown := (currentRadioFamilies report (bands.elim 0 Prod.snd)).isSome
  ("capabilities",.table
    [addMessagingFeature "sms" modem report.messaging attested,
     addStandardFeature "band_lock" bridge ref attested (bands.isSome && modesKnown) "unknown"
       "standard-set-current-bands"
       (if bands.isSome then "current-modes-not-advertised" else "supported-bands-not-advertised"),
     addPciFeature environment "pci_lock" bridge ref])

/-- `mode_policy_fallback`. -/
def modePolicyFallback (allowed preferred : Nat) : String × String :=
  let allowedName := if allowed = 4 then "3g" else if allowed = 8 then "4g" else "3g|4g"
  (allowedName,
    if allowedName = "3g|4g" ∧ preferred = 4 then "3g"
    else if allowedName = "3g|4g" ∧ preferred = 8 then "4g"
    else "none")

def l850glNetworkBindingLookup (network : Option NetworkPackage) (device : CString) :
    NetworkBindingResult × NetworkBinding :=
  if !lookupArgumentsAreValid device then (.error,bindingClear)
  else match network with
    | none => (.error,bindingClear)
    | some package => scanFinish (bindingScan device package)

/-- The modes of a binding that has both of them, when they are valid. -/
def configuredModes (lookup : NetworkBindingResult × NetworkBinding) :
    Option (CString × CString) :=
  match lookup.1,lookup.2.allowedmode,lookup.2.preferredmode with
  | .unique,some allowedmode,some preferredmode =>
    if l850glNetworkModesAreValid allowedmode preferredmode then some (allowedmode,preferredmode)
    else none
  | _,_,_ => none

def modePolicyFeature (bridge : Bridge) (ref : ModemRef) (result : NetworkBindingResult)
    (configured : Bool) : Feature :=
  let modem := bridge.modems ref
  match result with
  | .error => ⟨"unavailable","netifd-binding-unavailable",false,false⟩
  | .none => ⟨"unavailable","netifd-binding-not-found",false,false⟩
  | .ambiguous => ⟨"unavailable","netifd-binding-ambiguous",false,false⟩
  | .unique =>
    if !modem.l850glModemAttestMutationTarget then
      ⟨"unsupported","exact-l850-mbim-hardware-not-attested",false,false⟩
    else if modem.mutationBusy || advancedRetryAfterMs bridge ref > 0 then
      ⟨"busy",mutationBusyReason modem,false,true⟩
    else ⟨"available",if configured then "unique-netifd-binding" else
      "unique-netifd-binding-unconfigured",true,false⟩

def addModePolicy (environment : Environment) (bridge : Bridge) (ref : ModemRef)
    (currentAllowed currentPreferred : Nat) : String × Blob :=
  let lookup := (bridge.modems ref).device.elim (.error,bindingClear)
    (l850glNetworkBindingLookup environment.network)
  let fallback := modePolicyFallback currentAllowed currentPreferred
  let configured := configuredModes lookup
  let modes := configured.getD (fallback.1.toList,fallback.2.toList)
  let feature := modePolicyFeature bridge ref lookup.1 configured.isSome
  ("mode_policy",.table ([("state",.text feature.state),("mutable",.u8 feature.isMutable),
    ("reason",.text feature.reason),("configured",.u8 configured.isSome),
    ("allowed",.string modes.1),("preferred",.string modes.2),("busy",.u8 feature.busy)]++
      retryAfterField bridge ref))

def servingCellCacheIsFresh (modem : Modem) (cache : ServingCellCache) (now : Int) : Bool :=
  modem.live && cache.valid && cache.generation == modem.generation && 0 < cache.updatedAt &&
    now-cache.updatedAt ≤ servingCellFreshSeconds*Bridge.usec

/-- Starts a query of the cells where the cache is stale and none runs or has just run. -/
def servingCellRefresh (modem : Modem) (now : Int) (status : ModemStatus) : ModemStatus :=
  if !modem.live || status.servingCellRefreshPending ||
      servingCellCacheIsFresh modem status.servingCell now ||
      (0 < status.servingCellLastAttemptAt &&
        now-status.servingCellLastAttemptAt < servingCellRetrySeconds*Bridge.usec) then status
  else {status with servingCellRefreshPending := true,servingCellLastAttemptAt := now}

def servingCellReason (status : ModemStatus) (fresh : Bool) : String :=
  if fresh then status.servingCell.reason
  else if status.servingCellRefreshPending then "refresh-pending"
  else if status.servingCell.valid then "stale"
  else status.servingCell.reason

/-- The table `serving_cell`, after the refresh. -/
def addServingCellSummary (modem : Modem) (now : Int) (status : ModemStatus) : String × Blob :=
  let cache := status.servingCell
  let fresh := servingCellCacheIsFresh modem cache now
  ("serving_cell",.table ([("state",.text (if fresh then "available" else "unavailable")),
    ("reason",.text (servingCellReason status fresh))]++
      if fresh then
        [("earfcn",.u32 cache.earfcn),("pci",.u32 cache.pci),("band",.u32 cache.band)]++
          (if cache.hasRsrp then [("rsrp",.double (readingValue cache.rsrp))] else [])++
          (if cache.hasRsrq then [("rsrq",.double (readingValue cache.rsrq))] else [])
      else []))

def l850VoltageCacheIsFresh (modem : Modem) (cache : VoltageCache) (now : Int) : Bool :=
  modem.live && cache.valid && cache.generation == modem.generation && 0 < cache.updatedAt &&
    now-cache.updatedAt ≤ l850VoltageFreshSeconds*Bridge.usec

/-- Asks for the voltage where the cache is stale and nothing else uses the modem. -/
def l850VoltageRefresh (tables : Tables) (modem : Modem) (ref : ModemRef) (now : Int)
    (status : ModemStatus) : ModemStatus :=
  if !modem.live || status.voltageRefreshPending ||
      l850VoltageCacheIsFresh modem status.voltage now ||
      (0 < status.voltageLastAttemptAt &&
        now-status.voltageLastAttemptAt < l850VoltageRetrySeconds*Bridge.usec) ||
      !modem.l850glModemAttestMutationTarget || modem.mutationBusy ||
      l850ModemHasActiveMutation tables modem || l850ModemHasActiveScan tables ref ||
      l850ModemHasActiveCarrierQuery tables ref then status
  else {status with voltageRefreshPending := true,voltageLastAttemptAt := now}

/-- The field `voltage_mv`, after the refresh. -/
def addModemVoltage (expert : Bool) (modem : Modem) (now : Int) (status : ModemStatus) :
    String × Blob :=
  ("voltage_mv",
    if expert && l850VoltageCacheIsFresh modem status.voltage now then .u32 status.voltage.mv
    else .unspec)

def overviewWarnings (environment : Environment) (modem : Modem) (status : ModemStatus) :
    List String :=
  (if status.simCacheState != .ready && status.simCacheState != .absent then
    ["sim-snapshot-incomplete"] else [])++
  (if status.bearerCacheState != .ready then ["bearer-snapshot-incomplete"] else [])++
  (if !environment.protocolInstalled then ["netifd-modemmanager-protocol-unavailable"] else [])++
  (if l850glModemComposition status.report != .mbim then ["mbim-composition-required"] else [])++
  (if !modem.l850glModemAttestMutationTarget then ["mutations-disabled-hardware-attestation"]
    else [])

/-- An entry of `list_modems`. -/
def modemEntry (modem : Modem) (report : ModemReport) : Reply :=
  modem.addModemIdentity++
    [addSafeString "manufacturer" report.manufacturer safeTextMax,
     addSafeString "model" report.model safeTextMax,
     addSafeString "revision" report.revision safeTextMax,
     ("state",.text (stateName modem.state)),
     ("power",.text (powerStateName report.powerState))]

def listModemsReply (bridge : Bridge) (status : ModemRef → ModemStatus) : Reply :=
  addCommon bridge.time true++
    [("modems",.array (bridge.l850glBridgeSnapshotModems.map fun ref =>
      .table (modemEntry (bridge.modems ref) (status ref).report)))]

/-- The success reply of `get_overview`, after the refreshes. -/
def overviewReply (environment : Environment) (bridge : Bridge) (ref : ModemRef)
    (status : ModemStatus) : Reply :=
  let modem := bridge.modems ref
  let report := status.report
  addCommon bridge.time true++modem.addModemIdentity++
    [("freshness",.text (if modem.live then "fresh" else "stale")),
     ("identity",.table
       [addSafeString "manufacturer" report.manufacturer safeTextMax,
        addSafeString "model" report.model safeTextMax,
        addSafeString "revision" report.revision safeTextMax,
        addSafeString "imei" report.equipmentIdentifier safeIdentifierMax]),
     ("usb_mode",.text (l850glModemComposition report).name),
     ("modem",.table
       [("state",.text (stateName modem.state)),
        ("power",.text (powerStateName report.powerState)),
        addModemVoltage environment.expert modem bridge.now status]),
     addSimSummary status,
     addNetwork report,
     addSignalSummary report,
     addBearerSummary report,
     addBandArray environment.bandGetString "current_bands" report.currentBands,
     addServingCellSummary modem bridge.now status,
     addOverviewCapabilities environment bridge ref report,
     ("warnings",.array ((overviewWarnings environment modem status).map .text))]

def bandSelection (currentBands : Option (List Nat)) : String :=
  match currentBands with
  | none | some [] => "unknown"
  | some bands => if bands = [mmModemBandAny] then "automatic" else "explicit"

/-- The success reply of `get_lock_status`. -/
def lockStatusReply (environment : Environment) (bridge : Bridge) (ref : ModemRef)
    (report : ModemReport) : Reply :=
  let modem := bridge.modems ref
  let available := (snapshotSupportedRadioBands environment.bandGetString report).any
    fun bands => (currentRadioFamilies report bands.2).isSome
  let modes := report.currentModes.getD (0,0)
  addCommon bridge.time true++modem.addModemIdentity++
    [addBandArray environment.bandGetString "supported_bands" report.supportedBands,
     addBandArray environment.bandGetString "current_bands" report.currentBands,
     ("band_selection",.text (bandSelection report.currentBands)),
     ("current_modes",.table
       [("known",.u8 report.currentModes.isSome),
        addModeArray "allowed" modes.1,
        ("preferred",.text (if report.currentModes.isSome then preferredModeName modes.2
          else "unknown"))]),
     addModePolicy environment bridge ref modes.1 modes.2,
     addStandardFeature "band_lock" bridge ref modem.l850glModemAttestMutationTarget available
       "unknown" "standard-set-current-bands" "supported-bands-or-current-modes-not-advertised",
     addPciFeature environment "pci_lock" bridge ref]

/-- The record that a request of one modem is for.  The request is nothing unless it carries
exactly a `modem_id`. -/
def requestedModem (bridge : Bridge) (request : Option CString) : Except String ModemRef :=
  match request.filter l850glIdentityIsValid with
  | none => .error "invalid_argument"
  | some modemId =>
    match bridge.l850glBridgeFindModem modemId with
    | none => .error (if bridge.managerAvailable then "not_found" else "dependency_unavailable")
    | some ref => .ok ref

def sendRequestedError (bridge : Bridge) (code : String) : Reply :=
  match code with
  | "invalid_argument" =>
    sendError bridge code "exactly one valid modem_id is required" false
  | "dependency_unavailable" => sendError bridge code "ModemManager is not available" true
  | _ => sendError bridge "not_found" "modem_id is not present in the live inventory" false

def methodListModems (bridge : Bridge) (status : ModemRef → ModemStatus)
    (messageIsEmpty : Bool) : Except Reply Reply :=
  if messageIsEmpty then .ok (listModemsReply bridge status)
  else .error (sendError bridge "invalid_argument" "list_modems does not accept arguments" false)

/-- The refreshes of `get_overview` on the record of the request. -/
def overviewRefresh (environment : Environment) (bridge : Bridge) (ref : ModemRef)
    (status : ModemStatus) : ModemStatus :=
  let modem := bridge.modems ref
  let status := if environment.expert then
    l850VoltageRefresh environment.tables modem ref bridge.now status else status
  servingCellRefresh modem bridge.now status

def methodGetOverview (environment : Environment) (bridge : Bridge)
    (status : ModemRef → ModemStatus) (request : Option CString) :
    (ModemRef → ModemStatus) × Except Reply Reply :=
  match requestedModem bridge request with
  | .error code => (status,.error (sendRequestedError bridge code))
  | .ok ref =>
    let refreshed := overviewRefresh environment bridge ref (status ref)
    (Function.update status ref refreshed,.ok (overviewReply environment bridge ref refreshed))

def methodGetLockStatus (environment : Environment) (bridge : Bridge)
    (status : ModemRef → ModemStatus) (request : Option CString) : Except Reply Reply :=
  match requestedModem bridge request with
  | .error code => .error (sendRequestedError bridge code)
  | .ok ref => .ok (lockStatusReply environment bridge ref (status ref).report)

end Status
end L850GL
