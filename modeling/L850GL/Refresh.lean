import L850GL.Lib.Coalesce
import L850GL.Lib.Transition
import L850GL.Sms.System

/-! The refreshers of a modem record: the SIM, the bearers and the messages are read again after
change notifications, one query at a time. -/
namespace L850GL
namespace Refresh

open Coalesce Errors Sms

inductive CacheState
  | loading | absent | ready | cancelled | unavailable
  deriving DecidableEq,Repr

/-- The parts of a modem record that are read from ModemManager by queries. -/
structure RefreshModem where
  live : Bool
  sim : Option Nat
  simCacheState : CacheState
  simQueryPending : Bool
  simQueryDirty : Bool
  bearers : List Nat
  bearerCacheState : CacheState
  bearerQueryPending : Bool
  bearerQueryDirty : Bool
  messaging : Messaging

/-- The record that `reconcile_object` makes, before its first queries. -/
def RefreshModem.new : RefreshModem :=
  ⟨true,none,.loading,false,false,[],.loading,false,false,Messaging.new⟩

inductive Refresher
  | sim | bearers | sms
  deriving DecidableEq,Repr

/-- A call to ModemManager whose callback has not run. -/
inductive RefreshCall
  | sim
  | bearers
  | list (source epoch : Nat)
  deriving DecidableEq,Repr

/-- One record with its calls; `simPath` and `properties` are what ModemManager reports, `drawn`
counts the random values used, and `marks` tells what happened to each refresher. -/
structure RefreshWorld where
  modem : RefreshModem
  calls : List RefreshCall
  simPath : Option CString
  properties : Nat → SmsProperties
  drawn : Nat
  marks : Refresher → List Coalesce.Mark

namespace RefreshWorld

def mark (w : RefreshWorld) (refresher : Refresher) (m : Coalesce.Mark) : RefreshWorld :=
  {w with marks := Function.update w.marks refresher (m::w.marks refresher)}

def call (w : RefreshWorld) (c : RefreshCall) : RefreshWorld := {w with calls := w.calls++[c]}

def updateMessaging (w : RefreshWorld) (m : Messaging) : RefreshWorld :=
  {w with modem := {w.modem with messaging := m}}

/-- The test of `query_sim` for a modem without a SIM. -/
def noSimPath (w : RefreshWorld) : Bool :=
  match w.simPath with
  | none => true
  | some path => path == "/".toList

def querySim (w : RefreshWorld) : RefreshWorld :=
  if !w.modem.live then w
  else if w.modem.simQueryPending then {w with modem := {w.modem with simQueryDirty := true}}
  else if w.noSimPath then
    {w with modem := {w.modem with sim := none,simCacheState := .absent}}.mark .sim .resolved
  else
    ({w with modem := {w.modem with
      simQueryPending := true,simCacheState := .loading}}.call .sim).mark .sim .started

/-- The state of a cache whose query came back empty. -/
def failedState (error : Option GError) : CacheState :=
  if gErrorMatches error (.io .cancelled) then .cancelled else .unavailable

def simReady (w : RefreshWorld) (sim : Option Nat) (error : Option GError) : RefreshWorld :=
  let requery := w.modem.simQueryDirty
  let modem := {w.modem with simQueryPending := false,simQueryDirty := false}
  let w := if modem.live then
      {w with modem := {modem with
        sim := sim
        simCacheState := if sim.isSome then .ready else failedState error}}
    else {w with modem := modem}
  if w.modem.live && requery then w.querySim else w

def queryBearers (w : RefreshWorld) : RefreshWorld :=
  if !w.modem.live then w
  else if w.modem.bearerQueryPending then
    {w with modem := {w.modem with bearerQueryDirty := true}}
  else
    ({w with modem := {w.modem with
      bearerQueryPending := true
      bearerCacheState := .loading}}.call .bearers).mark .bearers .started

def bearersReady (w : RefreshWorld) (bearers : List Nat) (error : Option GError) :
    RefreshWorld :=
  let requery := w.modem.bearerQueryDirty
  let modem := {w.modem with bearerQueryPending := false,bearerQueryDirty := false}
  let w := if modem.live then
      {w with modem := {modem with
        bearers := bearers
        bearerCacheState :=
          if bearers ≠ [] then .ready else if error.isNone then .ready else failedState error}}
    else {w with modem := modem}
  if w.modem.live && requery then w.queryBearers else w

def querySms (w : RefreshWorld) : RefreshWorld :=
  if !w.modem.live then w
  else
    let m := w.modem.messaging
    let w := w.updateMessaging m.querySms.1
    match m.messaging with
    | none => w.mark .sms .resolved
    | some source =>
      if m.querySms.2 then (w.call (.list source m.messagingGeneration)).mark .sms .started else w

section

variable (random : Nat → Option (Vector UInt8 16)) (ref : ModemRef) (generation : Nat)

def smsListReady (w : RefreshWorld) (source epoch : Nat) (messages : List MMSms)
    (error : Option GError) : RefreshWorld :=
  let m := w.modem.messaging
  if !w.modem.live || m.messaging != some source || m.messagingGeneration != epoch then w
  else
    let requery := m.smsQueryDirty
    let m := {m with smsQueryPending := false,smsQueryDirty := false}
    let w :=
      if messages.isEmpty && error.isSome then
        w.updateMessaging (m.listFailed (gErrorMatches error (.io .cancelled)))
      else
        let rebuilt := m.rebuildCache random ref generation w.properties messages w.drawn
        {w.updateMessaging rebuilt.1 with drawn := rebuilt.2}
    if requery then w.querySms else w

end

/-- A change of the epoch is a notification too: all messages have to be read again. -/
def reconcileMessaging (w : RefreshWorld) (forceEpoch : Bool) (messaging : Option Nat) :
    RefreshWorld :=
  if !forceEpoch && messaging == w.modem.messaging.messaging then w
  else
    ((w.updateMessaging (w.modem.messaging.changeEpoch messaging)).mark .sms .notified).querySms

def smsAdded (w : RefreshWorld) (path : Option CString) : RefreshWorld :=
  if !w.modem.live then w
  else ((w.updateMessaging (w.modem.messaging.smsAdded path)).mark .sms .notified).querySms

/-- `sms_deleted` ignores what is no object path. -/
def smsDeleted (w : RefreshWorld) (path : Option CString) : RefreshWorld :=
  if !w.modem.live then w
  else match path.filter gVariantIsObjectPath with
    | none => w
    | some path =>
      ((w.updateMessaging (w.modem.messaging.smsDeleted path)).mark .sms .notified).querySms

def l850glModemRefreshSms (w : RefreshWorld) : RefreshWorld := (w.mark .sms .notified).querySms

/-- `properties_changed` from the look at the interfaces of the object on. -/
def propertiesChanged (w : RefreshWorld) (messaging : Option Nat) (modemInterface : Bool)
    (simUpdated primarySlotUpdated bearersUpdated : Bool) : RefreshWorld :=
  let w := w.reconcileMessaging false messaging
  if !modemInterface then w
  else
    let w := if simUpdated || primarySlotUpdated then w.reconcileMessaging true messaging else w
    let w := if simUpdated then (w.mark .sim .notified).querySim else w
    if bearersUpdated then (w.mark .bearers .notified).queryBearers else w

/-- What `sms_reconcile_cb` does to a record. -/
def smsReconcile (w : RefreshWorld) (messaging : Option Nat) : RefreshWorld :=
  let w := w.reconcileMessaging false messaging
  if w.modem.live && w.modem.messaging.messaging.isSome then
    (w.mark .sms .notified).querySms
  else w

def modemMarkRemoved (w : RefreshWorld) : RefreshWorld :=
  {w with modem := {w.modem with live := false,messaging := w.modem.messaging.clearSmsCache}}

/-- The end of `reconcile_object` for a new record. -/
def admitted (w : RefreshWorld) (messaging : Option Nat) : RefreshWorld :=
  w.querySim.queryBearers.reconcileMessaging false messaging

end RefreshWorld

open RefreshWorld

/-- What runs next.  `operated` is what SMS operations and property changes of messages do to the
messages. -/
inductive Event
  | propertiesChanged (messaging : Option Nat) (modemInterface : Bool)
      (simUpdated primarySlotUpdated bearersUpdated : Bool)
  | reconciled (messaging : Option Nat)
  | smsReconcile (messaging : Option Nat)
  | smsAdded (path : Option CString)
  | smsDeleted (path : Option CString)
  | refreshSms
  | operated (messaging : Messaging)
  | simReady (sim : Option Nat) (error : Option GError)
  | bearersReady (bearers : List Nat) (error : Option GError)
  | smsListReady (source epoch : Nat) (messages : List MMSms) (error : Option GError)
  | removed

/-- The call that an event completes. -/
def Event.completes : Event → Option RefreshCall
  | .simReady _ _ => some .sim
  | .bearersReady _ _ => some .bearers
  | .smsListReady source epoch _ _ => some (.list source epoch)
  | _ => none

def flagsOf (modem : RefreshModem) : Refresher → Flags
  | .sim => ⟨modem.simQueryPending,modem.simQueryDirty⟩
  | .bearers => ⟨modem.bearerQueryPending,modem.bearerQueryDirty⟩
  | .sms => ⟨modem.messaging.smsQueryPending,modem.messaging.smsQueryDirty⟩

/-- The operations on messages leave the queries alone. -/
def SameQuery (m m' : Messaging) : Prop :=
  m'.messaging = m.messaging ∧ m'.messagingGeneration = m.messagingGeneration ∧
    m'.smsQueryPending = m.smsQueryPending ∧ m'.smsQueryDirty = m.smsQueryDirty

instance (m m' : Messaging) : Decidable (SameQuery m m') := inferInstanceAs (Decidable (_ ∧ _))

section

variable (random : Nat → Option (Vector UInt8 16)) (ref : ModemRef) (generation : Nat)

/-- The bridge looks at a record's interfaces only while it is in the table, and the messaging
signals are connected while it has a messaging object. -/
def handle (w : RefreshWorld) : Event → Option RefreshWorld
  | .propertiesChanged messaging modemInterface simUpdated primarySlotUpdated bearersUpdated =>
    if w.modem.live then some (w.propertiesChanged messaging modemInterface simUpdated
      primarySlotUpdated bearersUpdated) else none
  | .reconciled messaging =>
    if w.modem.live then some (w.reconcileMessaging false messaging) else none
  | .smsReconcile messaging => if w.modem.live then some (w.smsReconcile messaging) else none
  | .smsAdded path =>
    if w.modem.messaging.messaging.isSome then some (w.smsAdded path) else none
  | .smsDeleted path =>
    if w.modem.messaging.messaging.isSome then some (w.smsDeleted path) else none
  | .refreshSms => some w.l850glModemRefreshSms
  | .operated m => if SameQuery w.modem.messaging m then some (w.updateMessaging m) else none
  | .simReady sim error => some (w.simReady sim error)
  | .bearersReady bearers error => some (w.bearersReady bearers error)
  | .smsListReady source epoch messages error =>
    some (w.smsListReady random ref generation source epoch messages error)
  | .removed => if w.modem.live then some w.modemMarkRemoved else none

/-- An event, with the SIM path and the messages as ModemManager reports them by then; a completion
needs a call in flight. -/
def step (w : RefreshWorld) (event : Event × Option CString × (Nat → SmsProperties)) :
    Option RefreshWorld :=
  let w := {w with simPath := event.2.1,properties := event.2.2}
  match event.1.completes with
  | none => handle random ref generation w event.1
  | some call =>
    if call ∈ w.calls then
      handle random ref generation {w with calls := w.calls.erase call} event.1
    else none

/-- A record that has just been admitted. -/
def Initial (w : RefreshWorld) : Prop :=
  ∃ simPath properties drawn messaging,
    w = (⟨RefreshModem.new,[],simPath,properties,drawn,fun _ => []⟩ : RefreshWorld).admitted
      messaging

def refreshSystem : System RefreshWorld (Event × Option CString × (Nat → SmsProperties)) :=
  ⟨Initial,step random ref generation⟩

end

def RefreshCall.isList : RefreshCall → Bool
  | .list _ _ => true
  | _ => false

def RefreshCall.ofEpoch (epoch : Nat) : RefreshCall → Bool
  | .list _ e => e == epoch
  | _ => false

namespace RefreshWorld

/-- The queries of a refresher in flight; of the messages, those of the current epoch. -/
def inFlight (w : RefreshWorld) : Refresher → Nat
  | .sim => w.calls.count .sim
  | .bearers => w.calls.count .bearers
  | .sms => match w.modem.messaging.messaging with
    | none => 0
    | some source => w.calls.count (.list source w.modem.messaging.messagingGeneration)

def lists (w : RefreshWorld) : List RefreshCall := w.calls.filter RefreshCall.isList

/-- The record as the world of its messages has it. -/
structure Follows (v : RefreshWorld) (w : World) (ref : ModemRef) : Prop where
  live : v.modem.live = (w.modem ref).live
  messaging : v.modem.messaging = w.messaging ref
  properties : v.properties = w.properties
  drawn : v.drawn = w.drawn

variable {v : RefreshWorld} {w : World} {ref : ModemRef}

theorem Follows.updateMessaging (h : Follows v w ref) (m : Messaging) :
    Follows (v.updateMessaging m) (w.updateMessaging ref m) ref :=
  ⟨h.live,(Function.update_self ref m w.messaging).symm,h.properties,h.drawn⟩

theorem Follows.querySms (h : Follows v w ref) : Follows v.querySms (w.querySms ref) ref := by
  have hqueried := h.updateMessaging (w.messaging ref).querySms.1
  simp only [RefreshWorld.querySms,World.querySms,h.live,h.messaging]
  split
  · exact h
  · have hkept : ((w.updateMessaging ref (w.messaging ref).querySms.1).messaging ref).messaging =
        (w.messaging ref).messaging := by
      simp only [World.updateMessaging,Function.update_self,Messaging.querySms]
      split
      · rfl
      · split <;> rfl
    rw [hkept]
    cases (w.messaging ref).messaging with
    | none =>
      cases (w.messaging ref).querySms.2 with
      | false => exact ⟨hqueried.live,hqueried.messaging,hqueried.properties,hqueried.drawn⟩
      | true => exact ⟨hqueried.live,hqueried.messaging,hqueried.properties,hqueried.drawn⟩
    | some source =>
      cases (w.messaging ref).querySms.2 with
      | false => exact hqueried
      | true => exact ⟨hqueried.live,hqueried.messaging,hqueried.properties,hqueried.drawn⟩

/-- `sms_list_ready` here and in the world of messages is one function of the record. -/
theorem Follows.smsListReady (h : Follows v w ref) (random : Nat → Option (Vector UInt8 16))
    (source epoch : Nat) (messages : List MMSms) (error : Option GError) :
    Follows (v.smsListReady random ref (w.modem ref).generation source epoch messages error)
      (Sms.smsListReady random w ref source epoch messages error) ref := by
  have hrequery : ∀ {v : RefreshWorld} {w : World} {requery : Bool}, Follows v w ref →
      Follows (if requery then v.querySms else v) (if requery then w.querySms ref else w) ref := by
    intro v w requery h
    cases requery with
    | false => exact h
    | true => exact h.querySms
  simp only [RefreshWorld.smsListReady,Sms.smsListReady,h.live,h.messaging,h.properties,h.drawn]
  split
  · exact h
  · refine hrequery ?_
    split
    · exact h.updateMessaging _
    · have hrebuilt := h.updateMessaging ((Messaging.rebuildCache random
        {w.messaging ref with smsQueryPending := false,smsQueryDirty := false} ref
        (w.modem ref).generation w.properties messages w.drawn).1)
      exact ⟨hrebuilt.live,hrebuilt.messaging,h.properties,rfl⟩

end RefreshWorld

end Refresh
end L850GL
