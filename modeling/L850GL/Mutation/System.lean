import L850GL.Identity
import L850GL.Lib.Transition
import L850GL.Mutation.Operation

/-! Admission of `set_cell_lock` and `clear_cell_lock`, and the runs of one admitted operation
under every order of replies, source callbacks and connection events. -/
namespace L850GL
namespace Mutation

open Cell Identity

structure SetCellLockRequest where
  modemId : CString
  generation : Nat
  earfcn : Nat
  pci : Option Nat
  confirm : Bool
  deriving DecidableEq,Repr

structure ClearCellLockRequest where
  modemId : CString
  generation : Nat
  confirm : Bool
  deriving DecidableEq,Repr

def l850RequestedModem (tables : Tables) (bridge : Bridge) (modemId : CString)
    (generation : Nat) : Except String ModemRef :=
  if ¬ l850glIdentityIsValid modemId then .error "invalid_argument"
  else match bridge.l850glBridgeFindModem modemId with
    | none =>
      .error (if bridge.managerAvailable then "stale_identity" else "dependency_unavailable")
    | some ref =>
      let modem := bridge.modems ref
      if modem.generation ≠ generation then .error "stale_generation"
      else if ¬ modem.l850glModemAttestMutationTarget then .error "unsupported"
      else if l850ModemHasActiveMutation tables modem ∨ l850ModemHasActiveScan tables ref ∨
          l850ModemHasActiveCarrierQuery tables ref ∨ modem.voltageRefreshPending then
        .error "busy"
      else .ok ref

def refuseRequested (bridge : Bridge) (code : String) : Admission :=
  .refused (sendL850Error bridge none code
    (code == "dependency_unavailable" || code == "busy") 0)

/-- A request is nothing when `parse_exact_fields` refused the message. -/
def methodSetCellLock (tables : Tables) (ubus : Ubus) (bridge : Bridge)
    (request : Option SetCellLockRequest) : Admission :=
  let invalid : Admission := .refused (sendL850Error bridge none "invalid_argument" false 0)
  match request with
  | none => invalid
  | some request =>
    if ¬ request.confirm then invalid
    else match l850glL850EarfcnToBand request.earfcn with
      | none => invalid
      | some band =>
        if request.pci.any (· > 503) then invalid
        else match l850RequestedModem tables bridge request.modemId request.generation with
          | .error code => refuseRequested bridge code
          | .ok ref =>
            let modem := bridge.modems ref
            let retryAfter := advancedRetryAfterMs bridge ref
            if ¬ modem.lteBandIsSupported band then
              .refused (sendL850Error bridge (some modem) "not_ready" true 0)
            else if modem.mutationBusy ∨ modem.voltageRefreshPending ∨ retryAfter > 0 then
              .refused (sendL850Error bridge (some modem) "busy" true retryAfter)
            else match l850glL850BuildSetCommand request.earfcn request.pci.isSome
                (request.pci.getD 0) l850glL850CommandMax with
              | none => .refused (sendL850Error bridge (some modem) "invalid_argument" false 0)
              | some command =>
                l850MutationStart ubus bridge ref .set request.earfcn request.pci.isSome
                  (request.pci.getD 0) band command

def methodClearCellLock (tables : Tables) (ubus : Ubus) (bridge : Bridge)
    (request : Option ClearCellLockRequest) : Admission :=
  let invalid : Admission := .refused (sendL850Error bridge none "invalid_argument" false 0)
  match request with
  | none => invalid
  | some request =>
    if ¬ request.confirm then invalid
    else match l850RequestedModem tables bridge request.modemId request.generation with
      | .error code => refuseRequested bridge code
      | .ok ref =>
        let modem := bridge.modems ref
        let retryAfter := advancedRetryAfterMs bridge ref
        if ¬ modem.l850SupportedLteBandsAvailable then
          .refused (sendL850Error bridge (some modem) "not_ready" true 0)
        else if modem.mutationBusy ∨ modem.voltageRefreshPending ∨ retryAfter > 0 then
          .refused (sendL850Error bridge (some modem) "busy" true retryAfter)
        else l850MutationStart ubus bridge ref .clear l850glL850ClearFrequency false
          l850glL850PciWildcard 0 []

def commandReady (s : State) (call : PendingCall) (result : CommandResult) : State :=
  match call.callback with
  | .probeReady => l850MutationProbeReady s call.source result
  | .setReady => l850MutationSetReady s call.source result
  | .nvmReady => l850MutationNvmReady s call.source result
  | .resetReady => l850MutationResetReady s result
  | .cellReady => l850MutationCellReady s call.source result

/-- `cancel_l850_mutation_operations` on this operation, which leaves its table when freed. -/
def cancelL850MutationOperations (s : State) (transportLost : Bool) : State :=
  if s.released then s
  else ({s with operation := {s.operation with
    deferred := false,transportLost := transportLost}}).gCancellableCancel s.operation.cancellable

def connectionLost (s : State) : State :=
  if s.ubus.stopping then s
  else cancelL850MutationOperations
    (({s with ubus := {s.ubus with connected := false}}).observe .connectionLost) true

def l850glUbusStop (s : State) : State :=
  if s.ubus.stopping then s
  else cancelL850MutationOperations
    (({s with ubus := {s.ubus with
      connected := false,contextInitialized := false,stopping := true}}).observe .stopped) true

theorem cancelL850MutationOperations_ubus (s : State) (transportLost : Bool) :
    (cancelL850MutationOperations s transportLost).ubus = s.ubus := by
  unfold cancelL850MutationOperations
  split
  · rfl
  · rfl

/-- Both do to the connection what they do for the other operations. -/
theorem connectionLost_ubus (s : State) : (connectionLost s).ubus = s.ubus.lost := by
  rw [connectionLost,Ubus.lost]
  split
  · rfl
  · rw [cancelL850MutationOperations_ubus]
    rfl

theorem l850glUbusStop_ubus (s : State) : (l850glUbusStop s).ubus = s.ubus.stopped := by
  rw [l850glUbusStop,Ubus.stopped]
  split
  · rfl
  · rw [cancelL850MutationOperations_ubus]
    rfl

/-- What the main loop runs next.  Every event comes with the reports of ModemManager, the
table and the clock as they are by then. -/
inductive Event
  | finish (index : Nat) (result : CommandResult) (bridge : Bridge)
  | source (id : Nat) (bridge : Bridge)
  | connectionLost (bridge : Bridge)
  | reconnected (bridge : Bridge)
  | shutdown (bridge : Bridge)
  | stop (bridge : Bridge)

def Event.bridge : Event → Bridge
  | .finish _ _ bridge | .source _ bridge | .connectionLost bridge | .reconnected bridge
  | .shutdown bridge | .stop bridge => bridge

/-- A poll source is off the main loop while its callback runs and back on it when the callback
returns `G_SOURCE_CONTINUE`. -/
def dispatchSource (s : State) (source : Source) : State :=
  let s := {s with sources := s.sources.filter fun other => other.id != source.id}
  match source.callback with
  | .timeout => l850MutationTimeout s
  | .poll =>
    let polled := l850MutationPoll s
    if polled.2 then {polled.1 with sources := polled.1.sources++[source]} else polled.1

def step (s : State) : Event → Option State
  | .finish index result bridge =>
    match s.calls[index]? with
    | none => none
    | some call =>
      let result := s.mmModemCommandFinish call result
      let s := {s with bridge := s.bridge.refresh bridge,calls := s.calls.eraseIdx index}
      some (commandReady (s.observe (.finished call result s.bridge.now)) call result)
  | .source id bridge =>
    match s.sources.find? fun source => source.id == id with
    | none => none
    | some source => some (dispatchSource {s with bridge := s.bridge.refresh bridge} source)
  | .connectionLost bridge => some (connectionLost {s with bridge := s.bridge.refresh bridge})
  | .reconnected bridge =>
    if s.ubus.connected ∨ s.ubus.stopping then none
    else some {s with
      bridge := s.bridge.refresh bridge
      ubus := {s.ubus with
        connected := true,contextInitialized := true,connection := s.ubus.connection+1}}
  | .shutdown bridge =>
    if s.ubus.connected then none
    else some {s with
      bridge := s.bridge.refresh bridge,ubus := {s.ubus with contextInitialized := false}}
  | .stop bridge => some (l850glUbusStop {s with bridge := s.bridge.refresh bridge})

/-- A request is served over a connection that is up. -/
def Ubus.serving (ubus : Ubus) : Prop :=
  ubus.connected = true ∧ ubus.contextInitialized = true ∧ ubus.stopping = false

def Admitted (s : State) : Prop :=
  ∃ tables ubus bridge, Ubus.serving ubus ∧
    ((∃ request, methodSetCellLock tables ubus bridge request = .started s) ∨
      ∃ request, methodClearCellLock tables ubus bridge request = .started s)

/-- The runs of one lock operation. -/
def mutationSystem : System State Event := ⟨Admitted,step⟩

end Mutation
end L850GL
