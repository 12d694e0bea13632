import L850GL.Advanced.Operation
import L850GL.Lib.AssocList
import L850GL.Mutation.System
import L850GL.Sms.System

/-! The table of admitted modems: which D-Bus objects become records, when a record leaves the
table, and the identities and messaging epochs of the records. -/
namespace L850GL
namespace Registry

open Identity Sms

def maxAdmittedModems : Nat := 32

def gAsciiIsalnum (c : Char) : Bool :=
  gAsciiIsdigit c || ('a' ≤ c && c ≤ 'z') || ('A' ≤ c && c ≤ 'Z')

def gAsciiTolower (c : Char) : Char :=
  if 'A' ≤ c && c ≤ 'Z' then Char.ofNat (c.toNat+32) else c

/-- D-Bus strings are valid UTF-8. -/
def normalizeAlnum (value : Option CString) : CString :=
  ((value.getD []).filter gAsciiIsalnum).map gAsciiTolower

/-- A Modem interface as its proxy reports it. -/
structure MMModem where
  proxy : Nat
  plugin : Option CString
  manufacturer : Option CString
  deriving DecidableEq,Repr

def MMModem.isExactL850gl (modem : MMModem) : Bool :=
  match modem.plugin with
  | none => false
  | some plugin =>
    let manufacturer := normalizeAlnum modem.manufacturer
    plugin.map gAsciiTolower == "fibocom".toList &&
      (manufacturer == "fibocom".toList || manufacturer == "fibocomwireless".toList ||
        manufacturer == "fibocomwirelessinc".toList)

/-- A D-Bus object; `messaging` is what `mm_object_get_modem_messaging` returns for the object
that the record of this path holds. -/
structure GDBusObject where
  path : CString
  isMMObject : Bool
  modem : Option MMModem
  messaging : Option Nat
  deriving DecidableEq,Repr

end Registry

open Registry Identity Sms

/-- The table with the records made so far, which are those below `next`; `drawn` counts the
random values used, and `epochs` the epoch changes of each record. -/
structure Registry where
  modemsByPath : List (CString × ModemRef)
  modems : ModemRef → Modem
  messaging : ModemRef → Messaging
  next : ModemRef
  nextGeneration : Nat
  drawn : Nat
  randomFailed : Bool
  epochs : ModemRef → Nat

namespace Registry

def lookupPath (r : Registry) (path : CString) : Option ModemRef := r.modemsByPath.lookup path

def updateModem (r : Registry) (ref : ModemRef) (modem : Modem) : Registry :=
  {r with modems := Function.update r.modems ref modem}

def updateMessaging (r : Registry) (ref : ModemRef) (m : Messaging) : Registry :=
  {r with messaging := Function.update r.messaging ref m}

def modemIdExists (r : Registry) (modemId : CString) : Bool :=
  r.modemsByPath.any fun entry => (r.modems entry.2).modemId == modemId

def reconcileMessaging (r : Registry) (ref : ModemRef) (forceEpoch : Bool)
    (messaging : Option Nat) : Registry :=
  let m := r.messaging ref
  if !forceEpoch && messaging == m.messaging then r
  else {r.updateMessaging ref (m.changeEpoch messaging).querySms.1 with
    epochs := Function.update r.epochs ref (r.epochs ref+1)}

def modemMarkRemoved (r : Registry) (ref : ModemRef) : Registry :=
  (r.updateModem ref (r.modems ref).modemMarkRemoved).updateMessaging ref
    (r.messaging ref).clearSmsCache

def removePath (r : Registry) (path : CString) : Registry :=
  match r.lookupPath path with
  | none => r
  | some ref =>
    {r.modemMarkRemoved ref with
      modemsByPath := AssocList.remove r.modemsByPath path}

def clearModems (r : Registry) : Registry :=
  {r.modemsByPath.foldl (fun r entry => r.modemMarkRemoved entry.2) r with modemsByPath := []}

section

variable (random : Nat → Option (Vector UInt8 16))

/-- The loop of `new_modem_id` with the tries left. -/
def drawModemId (taken : CString → Bool) : Nat → Nat → Option CString × Nat
  | 0, drawn => (none,drawn)
  | tries+1, drawn =>
    match l850glIdentityGenerateWith (random drawn) with
    | none => (none,drawn+1)
    | some candidate =>
      if taken candidate then drawModemId taken tries (drawn+1) else (some candidate,drawn+1)

def newModemId (r : Registry) : Option CString × Registry :=
  let drawn := drawModemId random r.modemIdExists randomRetries r.drawn
  (drawn.1,{r with drawn := drawn.2,randomFailed := r.randomFailed || drawn.1.isNone})

/-- The record of a modem that has just been admitted; `device` to `supportedBands` are what its
proxy reports. -/
def newModem (reported : Modem) (proxy : Nat) (modemId : CString) (generation : Nat) : Modem :=
  {reported.clearMutation with
    live := true
    modem := proxy
    modemId := modemId
    generation := generation
    advancedCooldownUntil := 0
    voltageRefreshPending := false
    servingCell := none}

def reconcileObject (r : Registry) (object : GDBusObject) : Registry :=
  match if object.isMMObject then object.modem.filter MMModem.isExactL850gl else none with
  | none => r.removePath object.path
  | some mmModem =>
    match r.lookupPath object.path with
    | some existing => r.reconcileMessaging existing false object.messaging
    | none =>
      if r.modemsByPath.length ≥ maxAdmittedModems then r
      else if r.nextGeneration = Cell.uint32Max then r
      else match r.newModemId random with
        | (none,r) => r
        | (some modemId,r) =>
          let ref := r.next
          let modem := newModem (r.modems ref) mmModem.proxy modemId (r.nextGeneration+1)
          let r := {(r.updateModem ref modem).updateMessaging ref Messaging.new with
            modemsByPath := AssocList.put r.modemsByPath object.path ref
            next := ref+1
            nextGeneration := r.nextGeneration+1}
          r.reconcileMessaging ref false object.messaging

def reconcileAll (r : Registry) (objects : List GDBusObject) : Registry :=
  objects.foldl (reconcileObject random) r

/-- `properties_changed`, as far as records and epochs go. -/
def propertiesChanged (r : Registry) (object : GDBusObject)
    (modemInterface simUpdated primarySlotUpdated : Bool) : Registry :=
  let r := r.reconcileObject random object
  match r.lookupPath object.path with
  | none => r
  | some ref =>
    if modemInterface && (simUpdated || primarySlotUpdated) then
      r.reconcileMessaging ref true object.messaging
    else r

/-- What runs next.  `reconcileObject` is the signal of an added object, of an added and of a
removed interface; `used` is all that other parts of the bridge do. -/
inductive Event
  | reconcileObject (object : GDBusObject)
  | objectRemoved (path : CString)
  | propertiesChanged (object : GDBusObject) (modemInterface simUpdated primarySlotUpdated : Bool)
  | reconcileAll (objects : List GDBusObject)
  | nameOwnerChanged (owner : Bool) (objects : List GDBusObject)
  | clearManagerConnection
  | used (modems : ModemRef → Modem) (messaging : ModemRef → Messaging)

/-- Other parts of the bridge keep what `reconcile_object`, `modem_mark_removed` and
`reconcile_messaging` write. -/
def use (r : Registry) (modems : ModemRef → Modem) (messaging : ModemRef → Messaging) :
    Registry :=
  {r with
    modems := fun ref => {modems ref with
      live := (r.modems ref).live
      modem := (r.modems ref).modem
      modemId := (r.modems ref).modemId
      generation := (r.modems ref).generation}
    messaging := fun ref => {messaging ref with
      messaging := (r.messaging ref).messaging
      messagingGeneration := (r.messaging ref).messagingGeneration}}

def step (r : Registry) : Event → Option Registry
  | .reconcileObject object => some (r.reconcileObject random object)
  | .objectRemoved path => some (r.removePath path)
  | .propertiesChanged object modemInterface simUpdated primarySlotUpdated =>
    some (r.propertiesChanged random object modemInterface simUpdated primarySlotUpdated)
  | .reconcileAll objects => some (r.reconcileAll random objects)
  | .nameOwnerChanged owner objects =>
    some (if owner then r.reconcileAll random objects else r.clearModems)
  | .clearManagerConnection => some r.clearModems
  | .used modems messaging => some (r.use modems messaging)

/-- No record has been made. -/
structure Initial (r : Registry) : Prop where
  modemsByPath : r.modemsByPath = []
  live : ∀ ref, (r.modems ref).live = false
  messaging : ∀ ref, r.messaging ref = Messaging.new
  next : r.next = 0
  nextGeneration : r.nextGeneration = 0

def registrySystem : System Registry Event := ⟨Initial,step random⟩

end

/-- The bridge as the requests see it. -/
def shown (r : Registry) (bridge : Bridge) : Bridge :=
  {bridge with modems := r.modems,modemsByPath := r.modemsByPath.map Prod.snd}

end Registry
end L850GL
