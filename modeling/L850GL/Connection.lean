import L850GL.Lib.Transition
import Mathlib.Algebra.Order.Ring.Int

/-! The connection of the bridge to the system bus and to the object manager of ModemManager:
connect attempts, retry timer, closed signals, start and stop. -/
namespace L850GL
namespace Connection

/-- A `GDBusConnection` object. -/
abbrev ConnectionRef := Nat

/-- A manager object is known by the connection it was created on. -/
structure Bridge where
  started : Bool
  stopping : Bool
  retrySource : Bool
  smsReconcileSource : Bool
  connectPending : Bool
  connectSerial : Nat
  connection : Option ConnectionRef
  connectionClosedHandler : Bool
  manager : Option ConnectionRef

structure BusConnectContext where
  serial : Nat
deriving DecidableEq

structure ManagerConnectContext where
  connection : ConnectionRef
  serial : Nat
deriving DecidableEq

/-- The bridge, the calls that have not completed, the connections its closed handler is
connected on, and which connections are closed and have emitted their closed signal. -/
structure World where
  bridge : Bridge
  busCalls : List BusConnectContext
  managerCalls : List ManagerConnectContext
  handlers : List ConnectionRef
  closed : ConnectionRef → Bool
  signalled : ConnectionRef → Bool

def bridgeNew : Bridge :=
  ⟨false,false,false,false,false,0,none,false,none⟩

/-- The serial is a `guint64` that skips 0. -/
def bridgeNextConnectSerial (serial : Nat) : Nat :=
  let serial := (serial+1)%2^64
  if serial = 0 then serial+1 else serial

namespace World

def nextConnectSerial (w : World) : World :=
  {w with bridge := {w.bridge with
    connectSerial := bridgeNextConnectSerial w.bridge.connectSerial}}

def setConnectPending (w : World) (pending : Bool) : World :=
  {w with bridge := {w.bridge with connectPending := pending}}

def clearManagerConnection (w : World) : World :=
  let handlers := match w.bridge.connection with
    | some connection =>
      if w.bridge.connectionClosedHandler then w.handlers.erase connection else w.handlers
    | none => w.handlers
  {w with
    handlers := handlers
    bridge := {w.bridge with connectionClosedHandler := false,manager := none,connection := none}}

def scheduleRetry (w : World) : World :=
  if w.bridge.stopping || w.bridge.retrySource then w
  else {w with bridge := {w.bridge with retrySource := true}}

def connectionClosed (w : World) (connection : ConnectionRef) : World :=
  if w.bridge.stopping || w.bridge.connection != some connection then w
  else ((w.nextConnectSerial.setConnectPending false).clearManagerConnection).scheduleRetry

def bridgeConnect (w : World) : World :=
  if w.bridge.stopping || w.bridge.manager.isSome || w.bridge.connection.isSome ||
      w.bridge.connectPending then w
  else
    let w := w.nextConnectSerial.setConnectPending true
    {w with busCalls := ⟨w.bridge.connectSerial⟩::w.busCalls}

def retryConnectCb (w : World) : World :=
  let w := {w with bridge := {w.bridge with retrySource := false}}
  if !w.bridge.stopping then w.bridgeConnect else w

/-- The completion of `mm_manager_new`, which has a manager or an error. -/
def managerReady (w : World) (connect : ManagerConnectContext) (created : Bool) : World :=
  if w.bridge.stopping || connect.serial != w.bridge.connectSerial ||
      w.bridge.connection != some connect.connection || w.closed connect.connection then w
  else if !created then w.nextConnectSerial.clearManagerConnection.scheduleRetry
  else {w with bridge := {w.bridge with manager := some connect.connection}}

/-- The completion of `g_bus_get`, which has a connection or an error. -/
def busReady (w : World) (connect : BusConnectContext) (connection : Option ConnectionRef) :
    World :=
  if connect.serial != w.bridge.connectSerial then w
  else
    let w := w.setConnectPending false
    if w.bridge.stopping then w
    else match connection with
      | none => w.scheduleRetry
      | some connection =>
        if w.closed connection then w.scheduleRetry
        else {w with
          bridge := {w.bridge with connection := some connection,connectionClosedHandler := true}
          handlers := connection::w.handlers
          managerCalls := ⟨connection,connect.serial⟩::w.managerCalls}

def l850glBridgeStart (w : World) : World :=
  if w.bridge.started || w.bridge.stopping then w
  else {w with
    bridge := {w.bridge with started := true,smsReconcileSource := true}}.bridgeConnect

def l850glBridgeStop (w : World) : World :=
  if w.bridge.stopping then w
  else
    let w := {w with bridge := {w.bridge with
      stopping := true,retrySource := false,smsReconcileSource := false}}
    (w.nextConnectSerial.setConnectPending false).clearManagerConnection

end World

/-- What the main loop runs next.  A connection may be closed between any two callbacks. -/
inductive Event
  | start
  | stop
  | busReady (connect : BusConnectContext) (connection : Option ConnectionRef)
  | managerReady (connect : ManagerConnectContext) (created : Bool)
  | close (connection : ConnectionRef)
  | closedSignal (connection : ConnectionRef)
  | retry

/-- A closed connection emits its closed signal once, to the handlers connected by then. -/
def step (w : World) : Event → Option World
  | .start => some w.l850glBridgeStart
  | .stop => some w.l850glBridgeStop
  | .busReady connect connection =>
    if connect ∈ w.busCalls then
      some ({w with busCalls := w.busCalls.erase connect}.busReady connect connection)
    else none
  | .managerReady connect created =>
    if connect ∈ w.managerCalls then
      some ({w with managerCalls := w.managerCalls.erase connect}.managerReady connect created)
    else none
  | .close connection =>
    some {w with closed := fun c => w.closed c || c == connection}
  | .closedSignal connection =>
    if w.closed connection && !w.signalled connection then
      let emitted := {w with signalled := fun c => w.signalled c || c == connection}
      some (if connection ∈ w.handlers then emitted.connectionClosed connection else emitted)
    else none
  | .retry => if w.bridge.retrySource then some w.retryConnectCb else none

def Initial (w : World) : Prop :=
  w.bridge = bridgeNew ∧ w.busCalls = [] ∧ w.managerCalls = [] ∧ w.handlers = [] ∧
    w.signalled = fun _ => false

def bridgeSystem : System World Event := ⟨Initial,step⟩

/-- Nothing is held of a connection. -/
structure Disconnected (w : World) : Prop where
  connection : w.bridge.connection = none
  manager : w.bridge.manager = none
  handler : w.bridge.connectionClosedHandler = false
  handlers : w.handlers = []

/-- The manager calls that were superseded by the closed signal of their connection. -/
def Superseded (w : World) (connect : ManagerConnectContext) : Prop :=
  w.signalled connect.connection = true

/-- A held connection with its manager call, its manager, or its closed signal to come. -/
structure Holding (w : World) (connection : ConnectionRef) : Prop where
  held : w.bridge.connection = some connection
  handler : w.bridge.connectionClosedHandler = true
  handlers : w.handlers = [connection]
  signalled : w.signalled connection = false
  calls : ∀ connect ∈ w.managerCalls, Superseded w connect ∨
    connect = ⟨connection,w.bridge.connectSerial⟩
  once : w.managerCalls.count ⟨connection,w.bridge.connectSerial⟩ ≤ 1
  manager : w.bridge.manager = some connection ∧
      ⟨connection,w.bridge.connectSerial⟩ ∉ w.managerCalls ∨
    w.bridge.manager = none ∧
      (⟨connection,w.bridge.connectSerial⟩ ∈ w.managerCalls ∨ w.closed connection = true)

/-- Which of the three wake-up sources the bridge has. -/
inductive Phase (w : World) : Prop
  | unstarted (hstarted : w.bridge.started = false) (hstopping : w.bridge.stopping = false)
      (hretry : w.bridge.retrySource = false) (hpending : w.bridge.connectPending = false)
      (hbus : w.busCalls = []) (hmanager : w.managerCalls = []) (hnone : Disconnected w)
  | retrying (hstarted : w.bridge.started = true) (hstopping : w.bridge.stopping = false)
      (hretry : w.bridge.retrySource = true) (hpending : w.bridge.connectPending = false)
      (hbus : w.busCalls = []) (hmanager : ∀ connect ∈ w.managerCalls, Superseded w connect)
      (hnone : Disconnected w)
  | connecting (hstarted : w.bridge.started = true) (hstopping : w.bridge.stopping = false)
      (hretry : w.bridge.retrySource = false) (hpending : w.bridge.connectPending = true)
      (hbus : w.busCalls = [⟨w.bridge.connectSerial⟩])
      (hmanager : ∀ connect ∈ w.managerCalls, Superseded w connect) (hnone : Disconnected w)
  | holding {connection : ConnectionRef} (hstarted : w.bridge.started = true)
      (hstopping : w.bridge.stopping = false) (hretry : w.bridge.retrySource = false)
      (hpending : w.bridge.connectPending = false) (hbus : w.busCalls = [])
      (hheld : Holding w connection)
  | stopped (hstopping : w.bridge.stopping = true) (hretry : w.bridge.retrySource = false)
      (hpending : w.bridge.connectPending = false) (hnone : Disconnected w)

structure Inv (w : World) : Prop where
  closed : ∀ connection, w.signalled connection = true → w.closed connection = true
  phase : Phase w

variable {w w' : World} {c : ConnectionRef}

namespace World

@[simp] theorem clearManagerConnection_bridge (w : World) :
    w.clearManagerConnection.bridge =
      {w.bridge with connectionClosedHandler := false,manager := none,connection := none} := rfl

@[simp] theorem clearManagerConnection_managerCalls (w : World) :
    w.clearManagerConnection.managerCalls = w.managerCalls := rfl

@[simp] theorem clearManagerConnection_busCalls (w : World) :
    w.clearManagerConnection.busCalls = w.busCalls := rfl

@[simp] theorem clearManagerConnection_signalled (w : World) :
    w.clearManagerConnection.signalled = w.signalled := rfl

@[simp] theorem clearManagerConnection_closed (w : World) :
    w.clearManagerConnection.closed = w.closed := rfl

theorem clearManagerConnection_handlers (h : w.bridge.connection = some c)
    (hhandler : w.bridge.connectionClosedHandler = true) (hs : w.handlers = [c]) :
    w.clearManagerConnection.handlers = [] := by
  simp [clearManagerConnection,h,hhandler,hs]

theorem clearManagerConnection_handlers_none (h : w.bridge.connection = none)
    (hs : w.handlers = []) : w.clearManagerConnection.handlers = [] := by
  simp [clearManagerConnection,h,hs]

theorem scheduleRetry_eq (hstopping : w.bridge.stopping = false)
    (hretry : w.bridge.retrySource = false) :
    w.scheduleRetry = {w with bridge := {w.bridge with retrySource := true}} := by
  simp [scheduleRetry,hstopping,hretry]

/-- The callbacks neither close a connection nor emit a signal, and stopping is for good. -/
structure Kept (w w' : World) : Prop where
  closed : w'.closed = w.closed
  signalled : w'.signalled = w.signalled
  stopping : w.bridge.stopping = true → w'.bridge.stopping = true

theorem kept_scheduleRetry (w : World) : Kept w w.scheduleRetry := by
  rw [scheduleRetry]
  split <;> exact ⟨rfl,rfl,id⟩

theorem kept_bridgeConnect (w : World) : Kept w w.bridgeConnect := by
  rw [bridgeConnect]
  split <;> exact ⟨rfl,rfl,id⟩

/-- Dropping the connection changes nothing that is kept. -/
theorem kept_dropped (w : World) (pending : Bool) :
    Kept w ((w.nextConnectSerial.setConnectPending pending).clearManagerConnection).scheduleRetry :=
  have h := kept_scheduleRetry
    (w.nextConnectSerial.setConnectPending pending).clearManagerConnection
  ⟨h.closed,h.signalled,h.stopping⟩

theorem kept_connectionClosed (w : World) (c : ConnectionRef) :
    Kept w (w.connectionClosed c) := by
  rw [connectionClosed]
  split
  · exact ⟨rfl,rfl,id⟩
  · exact kept_dropped w false

theorem kept_retryConnectCb (w : World) : Kept w w.retryConnectCb := by
  rw [retryConnectCb]
  split
  · have h := kept_bridgeConnect {w with bridge := {w.bridge with retrySource := false}}
    exact ⟨h.closed,h.signalled,h.stopping⟩
  · exact ⟨rfl,rfl,id⟩

theorem kept_managerReady (w : World) (connect : ManagerConnectContext) (created : Bool) :
    Kept w (w.managerReady connect created) := by
  rw [managerReady]
  split
  · exact ⟨rfl,rfl,id⟩
  · split
    · exact kept_dropped w w.bridge.connectPending
    · exact ⟨rfl,rfl,id⟩

theorem kept_busReady (w : World) (connect : BusConnectContext)
    (connection : Option ConnectionRef) : Kept w (w.busReady connect connection) := by
  have hretry := kept_scheduleRetry (w.setConnectPending false)
  have hretry : Kept w (w.setConnectPending false).scheduleRetry :=
    ⟨hretry.closed,hretry.signalled,hretry.stopping⟩
  rw [busReady]
  split
  · exact ⟨rfl,rfl,id⟩
  · simp only
    split
    · exact ⟨rfl,rfl,id⟩
    · cases connection with
      | none => exact hretry
      | some connection =>
        simp only
        split
        · exact hretry
        · exact ⟨rfl,rfl,id⟩

theorem kept_l850glBridgeStart (w : World) : Kept w w.l850glBridgeStart := by
  rw [l850glBridgeStart]
  split
  · exact ⟨rfl,rfl,id⟩
  · have h := kept_bridgeConnect {w with
      bridge := {w.bridge with started := true,smsReconcileSource := true}}
    exact ⟨h.closed,h.signalled,h.stopping⟩

theorem l850glBridgeStop_stopping (w : World) :
    w.l850glBridgeStop.bridge.stopping = true := by
  rw [l850glBridgeStop]
  split
  · assumption
  · rfl

theorem kept_l850glBridgeStop (w : World) : Kept w w.l850glBridgeStop := by
  have hstopping := w.l850glBridgeStop_stopping
  rw [l850glBridgeStop] at hstopping ⊢
  split
  · exact ⟨rfl,rfl,id⟩
  · exact ⟨rfl,rfl,fun _ => rfl⟩

theorem bridgeConnect_eq (hstopping : w.bridge.stopping = false)
    (hpending : w.bridge.connectPending = false) (hnone : Disconnected w) :
    w.bridgeConnect = {w.nextConnectSerial.setConnectPending true with
      busCalls := ⟨bridgeNextConnectSerial w.bridge.connectSerial⟩::w.busCalls} := by
  have hconnection := hnone.connection
  have hmanager := hnone.manager
  simp [bridgeConnect,nextConnectSerial,setConnectPending,hstopping,hpending,hconnection,hmanager]

end World

theorem Phase.scheduleRetry (hstarted : w.bridge.started = true)
    (hstopping : w.bridge.stopping = false) (hretry : w.bridge.retrySource = false)
    (hpending : w.bridge.connectPending = false) (hbus : w.busCalls = [])
    (hmanager : ∀ connect ∈ w.managerCalls, Superseded w connect) (hnone : Disconnected w) :
    Phase w.scheduleRetry := by
  rw [World.scheduleRetry_eq hstopping hretry]
  apply Phase.retrying
  · exact hstarted
  · exact hstopping
  · rfl
  · exact hpending
  · exact hbus
  · exact hmanager
  · exact ⟨hnone.connection,hnone.manager,hnone.handler,hnone.handlers⟩

theorem Phase.bridgeConnect (hstarted : w.bridge.started = true)
    (hstopping : w.bridge.stopping = false) (hretry : w.bridge.retrySource = false)
    (hpending : w.bridge.connectPending = false) (hbus : w.busCalls = [])
    (hmanager : ∀ connect ∈ w.managerCalls, Superseded w connect) (hnone : Disconnected w) :
    Phase w.bridgeConnect := by
  rw [World.bridgeConnect_eq hstopping hpending hnone]
  apply Phase.connecting
  · exact hstarted
  · exact hstopping
  · exact hretry
  · rfl
  · simp [hbus,World.nextConnectSerial,World.setConnectPending]
  · exact hmanager
  · exact ⟨hnone.connection,hnone.manager,hnone.handler,hnone.handlers⟩

theorem Phase.l850glBridgeStart (h : Phase w) : Phase w.l850glBridgeStart := by
  rw [World.l850glBridgeStart]
  split
  · exact h
  · rename_i hguard
    cases h with
    | unstarted hstarted hstopping hretry hpending hbus hmanager hnone =>
      apply Phase.bridgeConnect
      · rfl
      · simpa using hstopping
      · simpa using hretry
      · simpa using hpending
      · simpa using hbus
      · simp [hmanager]
      · exact ⟨hnone.connection,hnone.manager,hnone.handler,hnone.handlers⟩
    | retrying hstarted => simp [hstarted] at hguard
    | connecting hstarted => simp [hstarted] at hguard
    | holding hstarted => simp [hstarted] at hguard
    | stopped hstopping => simp [hstopping] at hguard

/-- The handlers are disconnected whether or not a connection is held. -/
theorem Phase.cleared_handlers (h : Phase w) : w.clearManagerConnection.handlers = [] := by
  cases h with
  | unstarted _ _ _ _ _ _ hnone =>
    exact World.clearManagerConnection_handlers_none hnone.connection hnone.handlers
  | retrying _ _ _ _ _ _ hnone =>
    exact World.clearManagerConnection_handlers_none hnone.connection hnone.handlers
  | connecting _ _ _ _ _ _ hnone =>
    exact World.clearManagerConnection_handlers_none hnone.connection hnone.handlers
  | holding _ _ _ _ _ hheld =>
    exact World.clearManagerConnection_handlers hheld.held hheld.handler hheld.handlers
  | stopped _ _ _ hnone =>
    exact World.clearManagerConnection_handlers_none hnone.connection hnone.handlers

theorem Phase.l850glBridgeStop (h : Phase w) : Phase w.l850glBridgeStop := by
  have hhandlers := h.cleared_handlers
  rw [World.l850glBridgeStop]
  split
  · exact h
  · apply Phase.stopped
    · rfl
    · rfl
    · rfl
    · exact ⟨rfl,rfl,rfl,hhandlers⟩

theorem Phase.retryConnectCb (h : Phase w) (harmed : w.bridge.retrySource = true) :
    Phase w.retryConnectCb := by
  cases h with
  | retrying hstarted hstopping hretry hpending hbus hmanager hnone =>
    rw [World.retryConnectCb]
    have hguard : (!w.bridge.stopping) = true := by simp [hstopping]
    simp only [hguard,if_true]
    apply Phase.bridgeConnect
    · exact hstarted
    · exact hstopping
    · rfl
    · exact hpending
    · exact hbus
    · exact hmanager
    · exact ⟨hnone.connection,hnone.manager,hnone.handler,hnone.handlers⟩
  | unstarted _ _ hretry => simp [hretry] at harmed
  | connecting _ _ hretry => simp [hretry] at harmed
  | holding _ _ hretry => simp [hretry] at harmed
  | stopped _ hretry => simp [hretry] at harmed

/-- What one connect attempt has when its bus call completes. -/
theorem Phase.busReady {connect : BusConnectContext} {connection : Option ConnectionRef}
    (h : Inv w) (hmem : connect ∈ w.busCalls) :
    Phase ({w with busCalls := w.busCalls.erase connect}.busReady connect connection) := by
  cases h.phase with
  | unstarted _ _ _ _ hbus => simp [hbus] at hmem
  | retrying _ _ _ _ hbus => simp [hbus] at hmem
  | holding _ _ _ _ hbus => simp [hbus] at hmem
  | stopped hstopping hretry hpending hnone =>
    rw [World.busReady]
    split
    · exact .stopped hstopping hretry hpending
        ⟨hnone.connection,hnone.manager,hnone.handler,hnone.handlers⟩
    · rw [if_pos (by exact hstopping)]
      exact .stopped hstopping hretry rfl
        ⟨hnone.connection,hnone.manager,hnone.handler,hnone.handlers⟩
  | connecting hstarted hstopping hretry hpending hbus hmanager hnone =>
    have hconnect : connect = ⟨w.bridge.connectSerial⟩ := by simpa [hbus] using hmem
    have hcalls : w.busCalls.erase connect = [] := by simp [hbus,hconnect]
    have hserial : ¬(connect.serial != w.bridge.connectSerial) = true := by simp [hconnect]
    have hrunning : ¬w.bridge.stopping = true := by simp [hstopping]
    have hretrying : Phase (({w with busCalls := []} : World).setConnectPending
        false).scheduleRetry :=
      .scheduleRetry hstarted hstopping hretry rfl rfl hmanager
        ⟨hnone.connection,hnone.manager,hnone.handler,hnone.handlers⟩
    rw [World.busReady,hcalls,if_neg hserial]
    simp only
    rw [if_neg (by exact hrunning)]
    cases connection with
    | none => exact hretrying
    | some connection =>
      simp only
      split
      · exact hretrying
      · rename_i hopen
        have hopen : w.closed connection = false := by
          simpa [World.setConnectPending] using hopen
        have hsignalled : w.signalled connection = false := by
          by_contra hs
          have h₁ := h.closed connection (by simpa using hs)
          simp [hopen] at h₁
        have hnew : ⟨connection,w.bridge.connectSerial⟩ ∉ w.managerCalls := by
          intro hm
          have h₁ := hmanager _ hm
          simp [Superseded,hsignalled] at h₁
        have hpair : ManagerConnectContext.mk connection connect.serial =
            ⟨connection,w.bridge.connectSerial⟩ := by simp [hconnect]
        rw [hpair]
        apply @Phase.holding _ connection
        · exact hstarted
        · exact hstopping
        · exact hretry
        · rfl
        · rfl
        · constructor
          · rfl
          · rfl
          · simp [World.setConnectPending,hnone.handlers]
          · exact hsignalled
          · intro other hother
            rcases List.mem_cons.mp hother with rfl | hother
            · exact .inr rfl
            · exact .inl (hmanager other hother)
          · have hcount : ((⟨connection,w.bridge.connectSerial⟩ : ManagerConnectContext)::
                w.managerCalls).count ⟨connection,w.bridge.connectSerial⟩ ≤ 1 := by
              have hzero := List.count_eq_zero.mpr hnew
              rw [List.count_cons_self]
              omega
            exact hcount
          · exact .inr ⟨hnone.manager,.inl List.mem_cons_self⟩

/-- A completion that was superseded leaves the held connection as it is. -/
theorem Holding.erase_superseded {connect : ManagerConnectContext} (h : Holding w c)
    (hconnect : connect ≠ ⟨c,w.bridge.connectSerial⟩) :
    Holding {w with managerCalls := w.managerCalls.erase connect} c := by
  have hcount : (w.managerCalls.erase connect).count ⟨c,w.bridge.connectSerial⟩ =
      w.managerCalls.count ⟨c,w.bridge.connectSerial⟩ :=
    List.count_erase_of_ne (Ne.symm hconnect)
  have hmem : ⟨c,w.bridge.connectSerial⟩ ∈ w.managerCalls.erase connect ↔
      ⟨c,w.bridge.connectSerial⟩ ∈ w.managerCalls :=
    List.mem_erase_of_ne (Ne.symm hconnect)
  constructor
  · exact h.held
  · exact h.handler
  · exact h.handlers
  · exact h.signalled
  · exact fun other hother => h.calls other (List.mem_of_mem_erase hother)
  · exact hcount ▸ h.once
  · rcases h.manager with ⟨hm,hnot⟩ | ⟨hm,hcall⟩
    · exact .inl ⟨hm,fun hin => hnot (hmem.mp hin)⟩
    · exact .inr ⟨hm,hcall.imp_left hmem.mpr⟩

/-- The completion of the manager call of the held connection, with what is left of it. -/
theorem Holding.managerReady {created : Bool} (h : Holding w c)
    (hstarted : w.bridge.started = true) (hstopping : w.bridge.stopping = false)
    (hretry : w.bridge.retrySource = false) (hpending : w.bridge.connectPending = false)
    (hbus : w.busCalls = []) (hmem : ⟨c,w.bridge.connectSerial⟩ ∈ w.managerCalls) :
    Phase ({w with managerCalls := w.managerCalls.erase ⟨c,w.bridge.connectSerial⟩}.managerReady
      ⟨c,w.bridge.connectSerial⟩ created) := by
  have hgone : ⟨c,w.bridge.connectSerial⟩ ∉
      w.managerCalls.erase ⟨c,w.bridge.connectSerial⟩ := by
    apply List.count_eq_zero.mp
    have h₁ := h.once
    rw [List.count_erase_self]
    omega
  have hnone : w.bridge.manager = none := by
    rcases h.manager with ⟨_,hnot⟩ | ⟨hm,_⟩
    · exact absurd hmem hnot
    · exact hm
  have hcalls : ∀ connect ∈ w.managerCalls.erase ⟨c,w.bridge.connectSerial⟩,
      Superseded w connect := by
    intro connect hconnect
    rcases h.calls connect (List.mem_of_mem_erase hconnect) with hs | rfl
    · exact hs
    · exact absurd hconnect hgone
  have hcurrent : w.bridge.stopping = false ∧
      (⟨c,w.bridge.connectSerial⟩ : ManagerConnectContext).serial = w.bridge.connectSerial ∧
      w.bridge.connection = some c := ⟨hstopping,rfl,h.held⟩
  cases hclosed : w.closed c with
  | true =>
    rw [World.managerReady,if_pos (by simp [hclosed])]
    apply @Phase.holding _ c
    · exact hstarted
    · exact hstopping
    · exact hretry
    · exact hpending
    · exact hbus
    · exact ⟨h.held,h.handler,h.handlers,h.signalled,fun connect hm => .inl (hcalls connect hm),
        by rw [List.count_eq_zero.mpr hgone]; omega,.inr ⟨hnone,.inr hclosed⟩⟩
  | false =>
    rw [World.managerReady,if_neg (by simp [hclosed,hcurrent])]
    cases created with
    | false =>
      rw [if_pos (by simp)]
      have hhandlers := World.clearManagerConnection_handlers h.held h.handler h.handlers
      apply Phase.scheduleRetry
      · exact hstarted
      · exact hstopping
      · exact hretry
      · exact hpending
      · exact hbus
      · exact hcalls
      · exact ⟨rfl,rfl,rfl,hhandlers⟩
    | true =>
      rw [if_neg (by simp)]
      apply @Phase.holding _ c
      · exact hstarted
      · exact hstopping
      · exact hretry
      · exact hpending
      · exact hbus
      · exact ⟨h.held,h.handler,h.handlers,h.signalled,fun connect hm => .inl (hcalls connect hm),
          by rw [List.count_eq_zero.mpr hgone]; omega,.inl ⟨rfl,hgone⟩⟩

/-- A manager completion does nothing to a bridge that holds no or another connection. -/
theorem managerReady_stale {connect : ManagerConnectContext} {created : Bool}
    (h : w.bridge.stopping = true ∨ w.bridge.connection ≠ some connect.connection ∨
      connect.serial ≠ w.bridge.connectSerial) : w.managerReady connect created = w := by
  rw [World.managerReady,if_pos]
  rcases h with h | h | h
  · simp [h]
  · simp [h]
  · simp [h]

theorem Phase.managerReady {connect : ManagerConnectContext} {created : Bool} (h : Phase w)
    (hmem : connect ∈ w.managerCalls) :
    Phase ({w with managerCalls := w.managerCalls.erase connect}.managerReady connect
      created) := by
  cases h with
  | unstarted _ _ _ _ _ hmanager => simp [hmanager] at hmem
  | retrying hstarted hstopping hretry hpending hbus hmanager hnone =>
    rw [managerReady_stale (.inr (.inl (by simp [hnone.connection])))]
    exact .retrying hstarted hstopping hretry hpending hbus
      (fun other hother => hmanager other (List.mem_of_mem_erase hother))
      ⟨hnone.connection,hnone.manager,hnone.handler,hnone.handlers⟩
  | connecting hstarted hstopping hretry hpending hbus hmanager hnone =>
    rw [managerReady_stale (.inr (.inl (by simp [hnone.connection])))]
    exact .connecting hstarted hstopping hretry hpending hbus
      (fun other hother => hmanager other (List.mem_of_mem_erase hother))
      ⟨hnone.connection,hnone.manager,hnone.handler,hnone.handlers⟩
  | stopped hstopping hretry hpending hnone =>
    rw [managerReady_stale (.inl (by exact hstopping))]
    exact .stopped hstopping hretry hpending
      ⟨hnone.connection,hnone.manager,hnone.handler,hnone.handlers⟩
  | @holding c hstarted hstopping hretry hpending hbus hheld =>
    by_cases hconnect : connect = ⟨c,w.bridge.connectSerial⟩
    · subst hconnect
      exact hheld.managerReady hstarted hstopping hretry hpending hbus hmem
    · -- the signal of its connection superseded the call
      have hother : w.bridge.connection ≠ some connect.connection := by
        rcases hheld.calls connect hmem with hs | heq
        · intro heq
          have h₁ : c = connect.connection := by simpa [hheld.held] using heq
          have h₂ := hheld.signalled
          simp [Superseded,← h₁,h₂] at hs
        · exact absurd heq hconnect
      rw [managerReady_stale (.inr (.inl (by exact hother)))]
      exact .holding hstarted hstopping hretry hpending hbus (hheld.erase_superseded hconnect)

theorem Phase.connectionClosed (h : Phase w) (hclosed : w.signalled c = false) :
    Phase (if c ∈ w.handlers then
      {w with signalled := fun d => w.signalled d || d == c}.connectionClosed c
      else {w with signalled := fun d => w.signalled d || d == c}) := by
  have hcalls : ∀ connect, Superseded w connect →
      Superseded {w with signalled := fun d => w.signalled d || d == c} connect := by
    intro connect hs
    have hs : w.signalled connect.connection = true := hs
    simp [Superseded,hs]
  cases h with
  | unstarted hstarted hstopping hretry hpending hbus hmanager hnone =>
    rw [if_neg (by simp [hnone.handlers])]
    exact .unstarted hstarted hstopping hretry hpending hbus hmanager
      ⟨hnone.connection,hnone.manager,hnone.handler,hnone.handlers⟩
  | retrying hstarted hstopping hretry hpending hbus hmanager hnone =>
    rw [if_neg (by simp [hnone.handlers])]
    exact .retrying hstarted hstopping hretry hpending hbus
      (fun connect hm => hcalls connect (hmanager connect hm))
      ⟨hnone.connection,hnone.manager,hnone.handler,hnone.handlers⟩
  | connecting hstarted hstopping hretry hpending hbus hmanager hnone =>
    rw [if_neg (by simp [hnone.handlers])]
    exact .connecting hstarted hstopping hretry hpending hbus
      (fun connect hm => hcalls connect (hmanager connect hm))
      ⟨hnone.connection,hnone.manager,hnone.handler,hnone.handlers⟩
  | stopped hstopping hretry hpending hnone =>
    rw [if_neg (by simp [hnone.handlers])]
    exact .stopped hstopping hretry hpending
      ⟨hnone.connection,hnone.manager,hnone.handler,hnone.handlers⟩
  | @holding held hstarted hstopping hretry hpending hbus hheld =>
    by_cases hc : held = c
    · subst hc
      have hhandlers : World.handlers (World.clearManagerConnection {w with
          signalled := fun d => w.signalled d || d == held}) = [] :=
        World.clearManagerConnection_handlers hheld.held hheld.handler hheld.handlers
      rw [if_pos (by simp [hheld.handlers]),World.connectionClosed,
        if_neg (by simp [hstopping,hheld.held])]
      apply Phase.scheduleRetry
      · exact hstarted
      · exact hstopping
      · exact hretry
      · rfl
      · exact hbus
      · intro connect hm
        rcases hheld.calls connect hm with hs | rfl
        · exact hcalls connect hs
        · show (w.signalled held || held == held) = true
          simp
      · exact ⟨rfl,rfl,rfl,hhandlers⟩
    · rw [if_neg (by simp [hheld.handlers,Ne.symm hc])]
      refine .holding hstarted hstopping hretry hpending hbus
        ⟨hheld.held,hheld.handler,hheld.handlers,?_,?_,hheld.once,hheld.manager⟩
      · simp [hheld.signalled,hc]
      · exact fun connect hm => (hheld.calls connect hm).imp_left (hcalls connect)

theorem Phase.close (h : Phase w) :
    Phase {w with closed := fun d => w.closed d || d == c} := by
  cases h with
  | unstarted hstarted hstopping hretry hpending hbus hmanager hnone =>
    exact .unstarted hstarted hstopping hretry hpending hbus hmanager
      ⟨hnone.connection,hnone.manager,hnone.handler,hnone.handlers⟩
  | retrying hstarted hstopping hretry hpending hbus hmanager hnone =>
    exact .retrying hstarted hstopping hretry hpending hbus hmanager
      ⟨hnone.connection,hnone.manager,hnone.handler,hnone.handlers⟩
  | connecting hstarted hstopping hretry hpending hbus hmanager hnone =>
    exact .connecting hstarted hstopping hretry hpending hbus hmanager
      ⟨hnone.connection,hnone.manager,hnone.handler,hnone.handlers⟩
  | stopped hstopping hretry hpending hnone =>
    exact .stopped hstopping hretry hpending
      ⟨hnone.connection,hnone.manager,hnone.handler,hnone.handlers⟩
  | holding hstarted hstopping hretry hpending hbus hheld =>
    refine .holding hstarted hstopping hretry hpending hbus
      ⟨hheld.held,hheld.handler,hheld.handlers,hheld.signalled,hheld.calls,hheld.once,?_⟩
    rcases hheld.manager with hm | ⟨hm,hcall | hclosed⟩
    · exact .inl hm
    · exact .inr ⟨hm,.inl hcall⟩
    · exact .inr ⟨hm,.inr (by simp [hclosed])⟩

theorem Inv.of_initial (h : Initial w) : Inv w := by
  obtain ⟨hbridge,hbus,hmanager,hhandlers,hsignalled⟩ := h
  constructor
  · simp [hsignalled]
  · apply Phase.unstarted
    · simp [hbridge,bridgeNew]
    · simp [hbridge,bridgeNew]
    · simp [hbridge,bridgeNew]
    · simp [hbridge,bridgeNew]
    · exact hbus
    · exact hmanager
    · constructor
      · simp [hbridge,bridgeNew]
      · simp [hbridge,bridgeNew]
      · simp [hbridge,bridgeNew]
      · exact hhandlers

theorem Inv.of_kept (h : Inv w) (hkept : World.Kept w w') (hphase : Phase w') : Inv w' := by
  constructor
  · intro connection hs
    rw [hkept.closed]
    exact h.closed connection (hkept.signalled ▸ hs)
  · exact hphase

theorem Inv.step {event : Event} (h : Inv w) (hs : step w event = some w') : Inv w' := by
  cases event with
  | start =>
    obtain rfl := Option.some.inj hs
    exact h.of_kept w.kept_l850glBridgeStart h.phase.l850glBridgeStart
  | stop =>
    obtain rfl := Option.some.inj hs
    exact h.of_kept w.kept_l850glBridgeStop h.phase.l850glBridgeStop
  | busReady connect connection =>
    simp only [Connection.step,Option.ite_none_right_eq_some,Option.some.injEq] at hs
    obtain ⟨hmem,rfl⟩ := hs
    have hkept := World.kept_busReady {w with busCalls := w.busCalls.erase connect} connect
      connection
    exact h.of_kept ⟨hkept.closed,hkept.signalled,hkept.stopping⟩ (Phase.busReady h hmem)
  | managerReady connect created =>
    simp only [Connection.step,Option.ite_none_right_eq_some,Option.some.injEq] at hs
    obtain ⟨hmem,rfl⟩ := hs
    have hkept := World.kept_managerReady {w with managerCalls := w.managerCalls.erase connect}
      connect created
    exact h.of_kept ⟨hkept.closed,hkept.signalled,hkept.stopping⟩ (h.phase.managerReady hmem)
  | close connection =>
    obtain rfl := Option.some.inj hs
    constructor
    · intro other hsignalled
      have h₁ := h.closed other hsignalled
      simp [h₁]
    · exact h.phase.close
  | closedSignal connection =>
    simp only [Connection.step,Option.ite_none_right_eq_some,Option.some.injEq,
      Bool.and_eq_true,Bool.not_eq_true'] at hs
    obtain ⟨⟨hclosed,hsignalled⟩,rfl⟩ := hs
    constructor
    · have hemitted : ∀ other, (w.signalled other || other == connection) = true →
          w.closed other = true := by
        intro other ho
        rcases Bool.or_eq_true _ _ ▸ ho with ho | ho
        · exact h.closed other ho
        · exact (beq_iff_eq.mp ho) ▸ hclosed
      intro other ho
      split at ho
      · have hkept := World.kept_connectionClosed
          {w with signalled := fun d => w.signalled d || d == connection} connection
        rw [if_pos (by assumption),hkept.closed]
        exact hemitted other (by simpa [hkept.signalled] using ho)
      · rw [if_neg (by assumption)]
        exact hemitted other ho
    · exact h.phase.connectionClosed hsignalled
  | retry =>
    simp only [Connection.step,Option.ite_none_right_eq_some,Option.some.injEq] at hs
    obtain ⟨harmed,rfl⟩ := hs
    exact h.of_kept w.kept_retryConnectCb (h.phase.retryConnectCb harmed)

theorem Inv.of_reachable (h : bridgeSystem.Reachable w) : Inv w := by
  apply System.Reachable.invariant _ _ h
  · exact fun _ hs => Inv.of_initial hs
  · exact fun s event t hinv hs => Inv.step hinv hs

theorem step_stopping {event : Event} (hs : step w event = some w')
    (h : w.bridge.stopping = true ∨ event = .stop) : w'.bridge.stopping = true := by
  cases event with
  | start =>
    obtain rfl := Option.some.inj hs
    exact w.kept_l850glBridgeStart.stopping (h.resolve_right (by simp))
  | stop =>
    obtain rfl := Option.some.inj hs
    exact w.l850glBridgeStop_stopping
  | busReady connect connection =>
    simp only [step,Option.ite_none_right_eq_some,Option.some.injEq] at hs
    obtain ⟨_,rfl⟩ := hs
    exact (World.kept_busReady _ _ _).stopping (h.resolve_right (by simp))
  | managerReady connect created =>
    simp only [step,Option.ite_none_right_eq_some,Option.some.injEq] at hs
    obtain ⟨_,rfl⟩ := hs
    exact (World.kept_managerReady _ _ _).stopping (h.resolve_right (by simp))
  | close connection =>
    obtain rfl := Option.some.inj hs
    exact h.resolve_right (by simp)
  | closedSignal connection =>
    simp only [step,Option.ite_none_right_eq_some,Option.some.injEq] at hs
    obtain ⟨_,rfl⟩ := hs
    have hstopping : w.bridge.stopping = true := h.resolve_right (by simp)
    split
    · exact (World.kept_connectionClosed _ _).stopping hstopping
    · exact hstopping
  | retry =>
    simp only [step,Option.ite_none_right_eq_some,Option.some.injEq] at hs
    obtain ⟨_,rfl⟩ := hs
    exact w.kept_retryConnectCb.stopping (h.resolve_right (by simp))

/-- The bridge is to have a connection. -/
def Running (bridge : Bridge) : Prop := bridge.started = true ∧ bridge.stopping = false

def ExactlyOneSource (bridge : Bridge) : Prop :=
  [bridge.retrySource,bridge.connectPending,bridge.connection.isSome].count true = 1

/-- The manager is being created, is installed, or the closed signal is still to be delivered
to the handler. -/
def Attended (w : World) (connection : ConnectionRef) : Prop :=
  ⟨connection,w.bridge.connectSerial⟩ ∈ w.managerCalls ∨ w.bridge.manager = some connection ∨
    w.closed connection = true ∧ w.signalled connection = false ∧ connection ∈ w.handlers

/-- A manager call that belongs to the attempt under way. -/
def Current (w : World) (connect : ManagerConnectContext) : Prop :=
  w.bridge.connection = some connect.connection ∧ connect.serial = w.bridge.connectSerial

instance (w : World) (connect : ManagerConnectContext) : Decidable (Current w connect) :=
  inferInstanceAs (Decidable (_ ∧ _))

def attempts (w : World) : Nat := w.busCalls.length+w.managerCalls.countP (Current w ·)

/-- Some callback is due that moves the bridge on. -/
def Progress (w : World) : Prop :=
  ∃ event w', event ≠ .start ∧ event ≠ .stop ∧ step w event = some w' ∧ w'.bridge ≠ w.bridge

theorem Holding.attended (h : Holding w c) : Attended w c := by
  rcases h.manager with ⟨hm,_⟩ | ⟨_,hcall | hclosed⟩
  · exact .inr (.inl hm)
  · exact .inl hcall
  · exact .inr (.inr ⟨hclosed,h.signalled,by simp [h.handlers]⟩)

theorem Holding.countP_current (h : Holding w c) : w.managerCalls.countP (Current w ·) ≤ 1 := by
  have hcurrent : ∀ connect ∈ w.managerCalls, decide (Current w connect) = true ↔
      (connect == ⟨c,w.bridge.connectSerial⟩) = true := by
    intro connect _
    simp only [Current,h.held,Option.some.injEq,decide_eq_true_eq,beq_iff_eq]
    cases connect
    simp [eq_comm]
  have hcount := h.once
  rw [List.count] at hcount
  rw [List.countP_congr hcurrent]
  exact hcount

theorem connectionClosed_connection (h : w.bridge.connection = some c)
    (hstopping : w.bridge.stopping = false) : (w.connectionClosed c).bridge.connection = none := by
  rw [World.connectionClosed,if_neg (by simp [h,hstopping]),World.scheduleRetry]
  split <;> rfl

theorem Holding.progress (h : Holding w c) (hstopping : w.bridge.stopping = false)
    (hnone : w.bridge.manager = none) : Progress w := by
  cases hclosed : w.closed c with
  | true =>
    have hstep : step w (.closedSignal c) = some (World.connectionClosed
        {w with signalled := fun d => w.signalled d || d == c} c) := by
      simp [step,hclosed,h.signalled,h.handlers]
    have hdropped := @connectionClosed_connection
      {w with signalled := fun d => w.signalled d || d == c} c h.held hstopping
    refine ⟨_,_,by simp,by simp,hstep,fun heq => ?_⟩
    rw [heq,h.held] at hdropped
    simp at hdropped
  | false =>
    have hcall : ⟨c,w.bridge.connectSerial⟩ ∈ w.managerCalls := by
      rcases h.manager with ⟨hm,_⟩ | ⟨_,hcall | hc⟩
      · simp [hm] at hnone
      · exact hcall
      · simp [hclosed] at hc
    have hstep : step w (.managerReady ⟨c,w.bridge.connectSerial⟩ true) =
        some {w with
          managerCalls := w.managerCalls.erase ⟨c,w.bridge.connectSerial⟩
          bridge := {w.bridge with manager := some c}} := by
      rw [step,if_pos hcall,World.managerReady,if_neg (by simp [hstopping,h.held,hclosed])]
      rfl
    refine ⟨_,_,by simp,by simp,hstep,fun heq => ?_⟩
    rw [← heq] at hnone
    simp at hnone

theorem Inv.progress (h : Inv w) (hrunning : Running w.bridge)
    (hnone : w.bridge.manager = none) : Progress w := by
  cases h.phase with
  | unstarted hstarted => simp [Running,hstarted] at hrunning
  | stopped hstopping => simp [Running,hstopping] at hrunning
  | holding _ hstopping _ _ _ hheld => exact hheld.progress hstopping hnone
  | retrying hstarted hstopping hretry hpending hbus hmanager hdisconnected =>
    have hstep : Connection.step w .retry = some w.retryConnectCb := by
      simp [Connection.step,hretry]
    refine ⟨_,_,by simp,by simp,hstep,fun heq => ?_⟩
    have h₁ : w.retryConnectCb.bridge.retrySource = false := by
      rw [World.retryConnectCb]
      split
      · rw [World.bridgeConnect]
        split <;> rfl
      · rfl
    simp [heq,hretry] at h₁
  | connecting hstarted hstopping hretry hpending hbus hmanager hdisconnected =>
    have hstep : Connection.step w (.busReady ⟨w.bridge.connectSerial⟩ none) =
        some ({w with busCalls := []}.setConnectPending false).scheduleRetry := by
      have hrunning : ¬w.bridge.stopping = true := by simp [hstopping]
      have herase : w.busCalls.erase ⟨w.bridge.connectSerial⟩ = [] := by simp [hbus]
      rw [Connection.step,if_pos (by simp [hbus]),herase,World.busReady,if_neg (by simp)]
      simp only
      rw [if_neg (by exact hrunning)]
    refine ⟨_,_,by simp,by simp,hstep,fun heq => ?_⟩
    have h₁ : World.scheduleRetry (World.setConnectPending {w with busCalls := []} false) =
        {World.setConnectPending {w with busCalls := []} false with
          bridge := {w.bridge with connectPending := false,retrySource := true}} :=
      World.scheduleRetry_eq hstopping hretry
    rw [h₁] at heq
    have h₂ := congrArg Bridge.retrySource heq
    simp [hretry] at h₂

theorem busReady_superseded {connect : BusConnectContext} {connection : Option ConnectionRef}
    (h : connect.serial ≠ w.bridge.connectSerial) : w.busReady connect connection = w := by
  rw [World.busReady,if_pos (by simpa using h)]

/-- The running bridge always has exactly one source that wakes it up, and no second attempt. -/
theorem Inv.running (h : Inv w) (hrunning : Running w.bridge) :
    ExactlyOneSource w.bridge ∧ attempts w ≤ 1 ∧
      ∀ c, w.bridge.connection = some c → Attended w c := by
  have hidle : Disconnected w → w.managerCalls.countP (Current w ·) = 0 := by
    intro hnone
    simp [Current,hnone.connection]
  cases h.phase with
  | unstarted hstarted => simp [Running,hstarted] at hrunning
  | stopped hstopping => simp [Running,hstopping] at hrunning
  | retrying hstarted hstopping hretry hpending hbus hmanager hnone =>
    refine ⟨?_,?_,?_⟩
    · simp [ExactlyOneSource,hretry,hpending,hnone.connection]
    · simp [attempts,hbus,hidle hnone]
    · simp [hnone.connection]
  | connecting hstarted hstopping hretry hpending hbus hmanager hnone =>
    refine ⟨?_,?_,?_⟩
    · simp [ExactlyOneSource,hretry,hpending,hnone.connection]
    · simp [attempts,hbus,hidle hnone]
    · simp [hnone.connection]
  | @holding c hstarted hstopping hretry hpending hbus hheld =>
    refine ⟨?_,?_,?_⟩
    · simp [ExactlyOneSource,hretry,hpending,hheld.held]
    · have hcount := hheld.countP_current
      simp only [attempts,hbus,List.length_nil]
      omega
    · intro d hd
      obtain rfl : c = d := by simpa [hheld.held] using hd
      exact hheld.attended

theorem Inv.manager (h : Inv w) (hmanager : w.bridge.manager = some c) :
    w.bridge.connection = some c := by
  cases h.phase with
  | unstarted _ _ _ _ _ _ hnone => simp [hnone.manager] at hmanager
  | retrying _ _ _ _ _ _ hnone => simp [hnone.manager] at hmanager
  | connecting _ _ _ _ _ _ hnone => simp [hnone.manager] at hmanager
  | stopped _ _ _ hnone => simp [hnone.manager] at hmanager
  | @holding d _ _ _ _ _ hheld =>
    rcases hheld.manager with ⟨hm,_⟩ | ⟨hm,_⟩
    · rw [← hmanager,hm]
      exact hheld.held
    · simp [hm] at hmanager

theorem Inv.stopped (h : Inv w) (hstopping : w.bridge.stopping = true) :
    Disconnected w ∧ w.bridge.retrySource = false ∧ w.bridge.connectPending = false := by
  cases h.phase with
  | unstarted _ hrunning => simp [hrunning] at hstopping
  | retrying _ hrunning => simp [hrunning] at hstopping
  | connecting _ hrunning => simp [hrunning] at hstopping
  | holding _ hrunning => simp [hrunning] at hstopping
  | stopped _ hretry hpending hnone => exact ⟨hnone,hretry,hpending⟩

/-- The reconnect discipline of the bridge, between any two callbacks of any run. -/
theorem bridgeSystem_reconnects (h : bridgeSystem.Reachable w) :
    (Running w.bridge → ExactlyOneSource w.bridge ∧ attempts w ≤ 1 ∧
      (∀ c, w.bridge.connection = some c → Attended w c) ∧
      (w.bridge.manager = none → Progress w)) ∧
    (∀ connect connection w', connect.serial ≠ w.bridge.connectSerial →
      step w (.busReady connect connection) = some w' → w'.bridge = w.bridge) ∧
    (∀ connect created w', ¬Current w connect →
      step w (.managerReady connect created) = some w' → w'.bridge = w.bridge) ∧
    (∀ c, w.bridge.manager = some c → w.bridge.connection = some c) ∧
    (w.bridge.stopping = true → w.bridge.manager = none ∧ w.bridge.connection = none ∧
      w.bridge.retrySource = false ∧ w.bridge.connectPending = false) ∧
    ∀ event w', step w event = some w' → w.bridge.stopping = true ∨ event = .stop →
      w'.bridge.stopping = true := by
  have hinv := Inv.of_reachable h
  refine ⟨?_,?_,?_,?_,?_,?_⟩
  · intro hrunning
    obtain ⟨hone,hattempts,hattended⟩ := hinv.running hrunning
    exact ⟨hone,hattempts,hattended,hinv.progress hrunning⟩
  · intro connect connection w' hserial hs
    simp only [step,Option.ite_none_right_eq_some,Option.some.injEq] at hs
    obtain ⟨_,rfl⟩ := hs
    rw [busReady_superseded (by exact hserial)]
  · intro connect created w' hcurrent hs
    simp only [step,Option.ite_none_right_eq_some,Option.some.injEq] at hs
    obtain ⟨_,rfl⟩ := hs
    have hstale : w.bridge.connection ≠ some connect.connection ∨
        connect.serial ≠ w.bridge.connectSerial := by
      by_contra hboth
      apply hcurrent
      simpa [not_or,Current] using hboth
    rw [managerReady_stale (.inr (by exact hstale))]
  · exact fun c hc => hinv.manager hc
  · intro hstopping
    obtain ⟨hnone,hretry,hpending⟩ := hinv.stopped hstopping
    exact ⟨hnone.manager,hnone.connection,hretry,hpending⟩
  · exact fun event w' hs hstop => step_stopping hs hstop

/-- A first connection whose manager is installed and that is then closed. -/
def sampleRun : List Event :=
  [.start,.busReady ⟨1⟩ (some 0),.managerReady ⟨0,1⟩ true,.close 0,.closedSignal 0,.retry]

def sampleStart : World := ⟨bridgeNew,[],[],[],fun _ => false,fun _ => false⟩

def sampleWorld : World := (bridgeSystem.run sampleStart sampleRun).getD sampleStart

theorem bridgeSystem_reconnects_sample :
    bridgeSystem.run sampleStart sampleRun = some sampleWorld ∧
    sampleWorld.bridge.started = true ∧ sampleWorld.bridge.stopping = false ∧
    sampleWorld.busCalls = [⟨3⟩] ∧ sampleWorld.bridge.manager = none ∧
    ExactlyOneSource sampleWorld.bridge ∧ Progress sampleWorld := by
  have hrun : bridgeSystem.run sampleStart sampleRun = some sampleWorld := rfl
  have hreachable : bridgeSystem.Reachable sampleWorld :=
    System.reachable_run (.start ⟨rfl,rfl,rfl,rfl,rfl⟩) hrun
  have hrunning := (bridgeSystem_reconnects hreachable).1 ⟨rfl,rfl⟩
  exact ⟨hrun,rfl,rfl,rfl,rfl,hrunning.1,hrunning.2.2.2 rfl⟩

end Connection
end L850GL
