import L850GL.Blob
import L850GL.Radio
import L850GL.Cell
import Mathlib.Logic.Function.Basic

/-! Modem records, the table of the bridge and the clock, as the callbacks of
`ubus_glib.c` read them. -/
namespace L850GL

open Cell Radio

inductive MutationKind
  | none | sms | advanced | l850
  deriving DecidableEq,Repr

inductive ModemState
  | failed | unknown | initializing | locked | disabled | disabling | enabling | enabled
  | searching | registered | disconnecting | connecting | connected
  deriving DecidableEq,Repr

/-- The cancellable a record's mutation holds: that of an SMS or a band/mode operation, or the
one a PCI operation makes for the record alone. -/
inductive MutationCancellable
  | sms (operation : Nat)
  | advanced (operation : Nat)
  | l850
  deriving DecidableEq,Repr

structure ServingCell where
  generation : Nat
  earfcn : Nat
  pci : Nat
  band : Nat
  rsrpDbm : Int
  rsrqTenthsDb : Int
  updatedAt : Int
  reason : String
  deriving DecidableEq,Repr

/-- The address of a modem record. -/
abbrev ModemRef := Nat

/-- A modem record.  `modem` names its ModemManager proxy; `device`, `physdev`, `supported`,
`hardwareAttested`, `state` and `supportedBands` are what the proxy and sysfs report. -/
structure Modem where
  live : Bool
  modem : Nat
  modemId : CString
  generation : Nat
  device : Option CString
  physdev : Option CString
  supported : Bool
  hardwareAttested : Bool
  state : ModemState
  supportedBands : Option (List CString)
  mutationBusy : Bool
  mutationKind : MutationKind
  mutationCancellable : Option MutationCancellable
  advancedCooldownUntil : Int
  voltageRefreshPending : Bool
  servingCell : Option ServingCell
  deriving DecidableEq,Repr

namespace Modem

def l850glModemAttestMutationTarget (modem : Modem) : Bool :=
  modem.live && modem.supported && modem.hardwareAttested

def maxRadioBands : Nat := 256

/-- Canonical names of the supported bands; nothing when the list is missing, empty, over the
bound or without a canonical name. -/
def snapshotSupportedRadioBands (modem : Modem) : Option (List CString) :=
  match modem.supportedBands with
  | none => none
  | some bands =>
    if bands = [] ∨ bands.length > maxRadioBands then none
    else
      let names := bands.filter l850glRadioBandNameIsCanonical
      if names = [] then none else some names

def lteBandIsSupported (modem : Modem) (band : Nat) : Bool :=
  modem.snapshotSupportedRadioBands.any fun names => l850glL850BandIsSupported band names

def l850SupportedLteBandsAvailable (modem : Modem) : Bool :=
  modem.snapshotSupportedRadioBands.any fun names =>
    names.any fun name => l850glRadioBandFamily name == .family4g

def l850ModemIsRegistered (modem : Modem) : Bool :=
  match modem.state with
  | .registered | .disconnecting | .connecting | .connected => true
  | _ => false

/-- `serving_cell_cache_store` for whole-decibel readings, which are always finite. -/
def servingCellCacheStore (modem : Modem) (now : Int) (cell : L850Cell) (reason : String) :
    Option Modem :=
  if !modem.live || cell.pci > 503 || l850glL850EarfcnToBand cell.earfcn != some cell.band ||
      !modem.lteBandIsSupported cell.band then none
  else some {modem with servingCell := some ⟨modem.generation,cell.earfcn,cell.pci,cell.band,
    cell.rsrpDbm,cell.rsrqTenthsDb,now,reason⟩}

theorem servingCellCacheStore_proxy {modem stored : Modem} {now : Int} {cell : L850Cell}
    {reason : String} (h : modem.servingCellCacheStore now cell reason = some stored) :
    stored.modem = modem.modem := by
  unfold servingCellCacheStore at h
  split at h
  · cases h
  · cases h
    rfl

/-- The record as a PCI operation marks it. -/
def acquireL850 (modem : Modem) : Modem :=
  {modem with
    mutationBusy := true,mutationKind := .l850,mutationCancellable := some .l850}

/-- The record without a mutation. -/
def clearMutation (modem : Modem) : Modem :=
  {modem with mutationBusy := false,mutationKind := .none,mutationCancellable := none}

/-- `modem_mark_removed`; an invalid serving cell is nothing here. -/
def modemMarkRemoved (modem : Modem) : Modem :=
  {modem with live := false,servingCell := none,voltageRefreshPending := false}

@[simp] theorem acquireL850_live (modem : Modem) : modem.acquireL850.live = modem.live := rfl
@[simp] theorem acquireL850_modem (modem : Modem) : modem.acquireL850.modem = modem.modem := rfl
@[simp] theorem acquireL850_modemId (modem : Modem) :
    modem.acquireL850.modemId = modem.modemId := rfl
@[simp] theorem acquireL850_generation (modem : Modem) :
    modem.acquireL850.generation = modem.generation := rfl
@[simp] theorem acquireL850_device (modem : Modem) : modem.acquireL850.device = modem.device := rfl
@[simp] theorem acquireL850_physdev (modem : Modem) :
    modem.acquireL850.physdev = modem.physdev := rfl
@[simp] theorem acquireL850_supported (modem : Modem) :
    modem.acquireL850.supported = modem.supported := rfl
@[simp] theorem acquireL850_hardwareAttested (modem : Modem) :
    modem.acquireL850.hardwareAttested = modem.hardwareAttested := rfl
@[simp] theorem acquireL850_state (modem : Modem) : modem.acquireL850.state = modem.state := rfl
@[simp] theorem acquireL850_voltageRefreshPending (modem : Modem) :
    modem.acquireL850.voltageRefreshPending = modem.voltageRefreshPending := rfl
@[simp] theorem acquireL850_mutationBusy (modem : Modem) :
    modem.acquireL850.mutationBusy = true := rfl
@[simp] theorem acquireL850_mutationKind (modem : Modem) :
    modem.acquireL850.mutationKind = .l850 := rfl
@[simp] theorem acquireL850_mutationCancellable (modem : Modem) :
    modem.acquireL850.mutationCancellable = some .l850 := rfl

@[simp] theorem clearMutation_live (modem : Modem) : modem.clearMutation.live = modem.live := rfl
@[simp] theorem clearMutation_modem (modem : Modem) : modem.clearMutation.modem = modem.modem := rfl
@[simp] theorem clearMutation_modemId (modem : Modem) :
    modem.clearMutation.modemId = modem.modemId := rfl
@[simp] theorem clearMutation_generation (modem : Modem) :
    modem.clearMutation.generation = modem.generation := rfl
@[simp] theorem clearMutation_device (modem : Modem) :
    modem.clearMutation.device = modem.device := rfl
@[simp] theorem clearMutation_physdev (modem : Modem) :
    modem.clearMutation.physdev = modem.physdev := rfl
@[simp] theorem clearMutation_supported (modem : Modem) :
    modem.clearMutation.supported = modem.supported := rfl
@[simp] theorem clearMutation_hardwareAttested (modem : Modem) :
    modem.clearMutation.hardwareAttested = modem.hardwareAttested := rfl
@[simp] theorem clearMutation_state (modem : Modem) : modem.clearMutation.state = modem.state := rfl
@[simp] theorem clearMutation_voltageRefreshPending (modem : Modem) :
    modem.clearMutation.voltageRefreshPending = modem.voltageRefreshPending := rfl
@[simp] theorem clearMutation_mutationBusy (modem : Modem) :
    modem.clearMutation.mutationBusy = false := rfl
@[simp] theorem clearMutation_mutationKind (modem : Modem) :
    modem.clearMutation.mutationKind = .none := rfl
@[simp] theorem clearMutation_mutationCancellable (modem : Modem) :
    modem.clearMutation.mutationCancellable = .none := rfl

def addModemIdentity (modem : Modem) : Reply :=
  [("modem_id",.string modem.modemId),("generation",.u32 modem.generation)]

end Modem

/-- What a callback reads besides its own operation.  `mmCheckVersion124` is the ModemManager
release the build was made against. -/
structure Bridge where
  now : Int
  time : Nat
  mmCheckVersion124 : Bool
  managerAvailable : Bool
  modems : ModemRef → Modem
  modemsByPath : List ModemRef

namespace Bridge

def usec : Int := 1000000

def updateModem (bridge : Bridge) (ref : ModemRef) (modem : Modem) : Bridge :=
  {bridge with modems := Function.update bridge.modems ref modem}

@[simp] theorem updateModem_self (bridge : Bridge) (ref : ModemRef) (modem : Modem) :
    (bridge.updateModem ref modem).modems ref = modem := by
  simp [updateModem]

theorem updateModem_other (bridge : Bridge) {ref other : ModemRef} (modem : Modem)
    (h : other ≠ ref) : (bridge.updateModem ref modem).modems other = bridge.modems other := by
  simp [updateModem,h]

/-- An update that keeps the proxy of its record keeps all proxies. -/
theorem updateModem_proxy (bridge : Bridge) {ref : ModemRef} {modem : Modem}
    (h : modem.modem = (bridge.modems ref).modem) (other : ModemRef) :
    ((bridge.updateModem ref modem).modems other).modem = (bridge.modems other).modem := by
  by_cases ho : other = ref
  · rw [ho,updateModem_self,h]
  · rw [updateModem_other bridge modem ho]

def l850glBridgeSnapshotModems (bridge : Bridge) : List ModemRef :=
  bridge.modemsByPath.filter fun ref => (bridge.modems ref).live

def l850glBridgeFindModem (bridge : Bridge) (modemId : CString) : Option ModemRef :=
  bridge.modemsByPath.find? fun ref =>
    (bridge.modems ref).live && (bridge.modems ref).modemId == modemId

/-- Everything but the fields a record is created with may have changed between two
callbacks: reports of ModemManager, the table, the clock and what other operations wrote. -/
def refresh (old new : Bridge) : Bridge :=
  {new with
    mmCheckVersion124 := old.mmCheckVersion124
    modems := fun ref => {new.modems ref with
      modem := (old.modems ref).modem
      modemId := (old.modems ref).modemId
      generation := (old.modems ref).generation}}

/-- Time stands still and no cooldown becomes shorter. -/
structure Extends (bridge bridge' : Bridge) : Prop where
  now : bridge'.now = bridge.now
  cooldown : ∀ modem,(bridge.modems modem).advancedCooldownUntil ≤
    (bridge'.modems modem).advancedCooldownUntil

variable {bridge bridge' bridge'' : Bridge}

theorem Extends.refl (bridge : Bridge) : Extends bridge bridge := ⟨rfl,fun _ => Int.le_refl _⟩

theorem Extends.trans (h : Extends bridge bridge') (h' : Extends bridge' bridge'') :
    Extends bridge bridge'' :=
  ⟨h'.now.trans h.now,fun modem => Int.le_trans (h.cooldown modem) (h'.cooldown modem)⟩

theorem Extends.updateModem {ref : ModemRef} {modem : Modem}
    (h : (bridge.modems ref).advancedCooldownUntil ≤ modem.advancedCooldownUntil) :
    Extends bridge (bridge.updateModem ref modem) := by
  refine ⟨rfl,fun other => ?_⟩
  by_cases ho : other = ref
  · subst ho
    rwa [updateModem_self]
  · simp [updateModem_other bridge modem ho]

end Bridge

/-- The ubus connection; `connection` counts the connections made so far. -/
structure Ubus where
  connected : Bool
  contextInitialized : Bool
  stopping : Bool
  connection : Nat
  deriving DecidableEq,Repr

namespace Ubus

/-- The connection after `connection_lost`. -/
def lost (ubus : Ubus) : Ubus := if ubus.stopping then ubus else {ubus with connected := false}

/-- The connection after `l850gl_ubus_stop`. -/
def stopped (ubus : Ubus) : Ubus :=
  if ubus.stopping then ubus
  else {ubus with connected := false,contextInitialized := false,stopping := true}

end Ubus

/-- A modem of the tested model; `object` and `generation` tell two records apart. -/
def sampleModem (live : Bool) (object generation : Nat) : Modem where
  live := live
  modem := object
  modemId := "l850gl-00112233445566778899aabbccddeeff".toList
  generation := generation
  device := some "/sys/devices/usb1".toList
  physdev := some "/sys/devices/usb1".toList
  supported := true
  hardwareAttested := true
  state := .registered
  supportedBands := some ["eutran-3".toList]
  mutationBusy := false
  mutationKind := .none
  mutationCancellable := none
  advancedCooldownUntil := 0
  voltageRefreshPending := false
  servingCell := none

/-- The bridge before and after the modem comes back as record 1. -/
def sampleBridge (back : Bool) : Bridge where
  now := 1000000
  time := 0
  mmCheckVersion124 := true
  managerAvailable := true
  modems := fun ref => if ref = 0 then sampleModem (!back) 10 1 else sampleModem true 11 2
  modemsByPath := if back then [1] else [0]

def sampleUbus : Ubus := ⟨true,true,false,1⟩

end L850GL
