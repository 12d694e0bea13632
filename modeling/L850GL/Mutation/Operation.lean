import L850GL.Errors
import L850GL.Modem
import L850GL.MutationPolicy

/-! One PCI lock operation of `ubus_glib.c`: its record, the calls and main-loop sources that
belong to it, and the callbacks as state-passing functions. -/
namespace L850GL
namespace Mutation

open Cell Errors MutationPolicy

def l850MutationOperationTimeoutSeconds : Nat := 130
def l850NvmVerifyTimeoutSeconds : Int := 10
def l850NvmVerifyPollMs : Nat := 1000
def l850ReprobeTimeoutSeconds : Int := 45
def l850RegistrationTimeoutSeconds : Int := 60
def l850ReprobePollMs : Nat := 500
def l850RegistrationPollMs : Nat := 1000
def l850PostMutationCooldownSeconds : Nat := 60

inductive L850MutationType
  | set | clear
  deriving DecidableEq,Repr

inductive L850MutationPhase
  | protocolProbe | setCommand | preResetNvmVerify | resetCommand | reprobe | registration
  | nvmVerify | cellVerify
  deriving DecidableEq,Repr

/-- `request` is the ubus connection the deferred request arrived on. -/
structure L850MutationOperation where
  type : L850MutationType
  phase : L850MutationPhase
  original : ModemRef
  replacement : Option ModemRef
  cancellable : Nat
  request : Nat
  originalGeneration : Nat
  replacementGeneration : Nat
  timeoutSource : Nat
  pollSource : Nat
  phaseDeadline : Int
  physdev : CString
  setCommand : CString
  earfcn : Nat
  pci : Nat
  band : Nat
  nvmVerifier : NvmVerifier
  verificationStage : Option String
  hasPci : Bool
  timedOut : Bool
  transportLost : Bool
  deferred : Bool
  commandPending : Bool
  setDispatched : Bool
  configurationAcknowledged : Bool
  resetDispatched : Bool

inductive CommandCallback
  | probeReady | setReady | nvmReady | resetReady | cellReady
  deriving DecidableEq,Repr

/-- A command handed to ModemManager whose callback has not run. -/
structure PendingCall where
  callback : CommandCallback
  target : ModemRef
  source : Nat
  command : CString
  cancellable : Nat
  deriving DecidableEq,Repr

structure CommandResult where
  response : Option CString
  error : Option GError
  deriving DecidableEq,Repr

inductive SourceCallback
  | timeout | poll
  deriving DecidableEq,Repr

structure Source where
  id : Nat
  callback : SourceCallback
  intervalMs : Nat
  deriving DecidableEq,Repr

/-- What a run shows: commands with the record they went to, finished calls, the stages of the
verification, the global timeout, loss of the connection, and how the operation ended. -/
inductive Observation
  | command (target : ModemRef) (record : Modem) (text : CString)
  | finished (call : PendingCall) (result : CommandResult) (now : Int)
  | window (stage : NvmVerifyStage) (deadline : Int)
  | adopted (replacement : ModemRef) (record : Modem)
  | registered (replacement : ModemRef) (record : Modem)
  | deadlineFired
  | connectionLost
  | stopped
  | failed (state code : String) (retryable : Bool)
  | succeeded (serving : Option L850Cell)
  | reply (connection : Nat) (body : Reply)
  | released

/-- The operation with what GLib and ubus hold for it.  `trace` is newest first. -/
structure State where
  operation : L850MutationOperation
  released : Bool
  calls : List PendingCall
  sources : List Source
  nextSource : Nat
  nextCancellable : Nat
  cancelled : List Nat
  ubus : Ubus
  bridge : Bridge
  trace : List Observation

namespace State

def observe (s : State) (o : Observation) : State := {s with trace := o::s.trace}

def modem (s : State) (ref : ModemRef) : Modem := s.bridge.modems ref

def gSourceRemove (s : State) (id : Nat) : State :=
  {s with sources := s.sources.filter fun source => source.id != id}

/-- `operation->poll_source = g_timeout_add (interval, l850_mutation_poll, operation)`. -/
def armPoll (s : State) (intervalMs : Nat) : State :=
  {s with
    operation := {s.operation with pollSource := s.nextSource}
    sources := s.sources++[⟨s.nextSource,.poll,intervalMs⟩]
    nextSource := s.nextSource+1}

def l850MutationReplaceCancellable (s : State) : State :=
  {s with
    operation := {s.operation with cancellable := s.nextCancellable}
    nextCancellable := s.nextCancellable+1}

def gCancellableCancel (s : State) (cancellable : Nat) : State :=
  {s with cancelled := cancellable::s.cancelled}

def mmModemCommand (s : State) (callback : CommandCallback) (target : ModemRef)
    (command : CString) : State :=
  {s with
    calls := s.calls++[⟨callback,target,(s.modem target).modem,command,s.operation.cancellable⟩]
    trace := .command target (s.modem target) command::s.trace}

/-- `mm_modem_command_finish`; a call whose cancellable was cancelled finishes with an error. -/
def mmModemCommandFinish (s : State) (call : PendingCall) (result : CommandResult) :
    CommandResult :=
  if call.cancellable ∈ s.cancelled then ⟨none,some gIoErrorCancelled⟩ else result

end State

open State

def l850MutationResponseModem (op : L850MutationOperation) : ModemRef :=
  op.replacement.getD op.original

def l850MutationApplyCooldown (now : Int) (modem : Modem) : Modem :=
  let deadline := now+(l850PostMutationCooldownSeconds : Int)*Bridge.usec
  {modem with advancedCooldownUntil := max modem.advancedCooldownUntil deadline}

def l850MutationReleaseModem (bridge : Bridge) (ref : Option ModemRef) (applyCooldown : Bool) :
    Bridge :=
  match ref with
  | none => bridge
  | some ref =>
    let modem := bridge.modems ref
    let modem := if applyCooldown then l850MutationApplyCooldown bridge.now modem else modem
    let modem := if modem.mutationKind = .l850 then
        modem.clearMutation
      else modem
    bridge.updateModem ref modem

def l850MutationOperationFree (s : State) : State :=
  let op := s.operation
  let s := if op.timeoutSource ≠ 0 then s.gSourceRemove op.timeoutSource else s
  let s := if op.pollSource ≠ 0 then s.gSourceRemove op.pollSource else s
  let bridge := l850MutationReleaseModem s.bridge op.replacement op.setDispatched
  let bridge := if some op.original ≠ op.replacement then
      l850MutationReleaseModem bridge (some op.original) op.setDispatched
    else bridge
  {s with bridge := bridge,released := true,trace := .released::s.trace}

def l850MutationCompleteBuffer (s : State) (body : Reply) : State :=
  let s := if s.operation.deferred ∧ s.ubus.connected ∧ s.ubus.contextInitialized ∧
      ¬ s.ubus.stopping then s.observe (.reply s.ubus.connection body) else s
  l850MutationOperationFree {s with operation := {s.operation with deferred := false}}

def failureBody (s : State) (state code : String) (retryable : Bool) : Reply :=
  let op := s.operation
  addCommon s.bridge.time false++(s.modem (l850MutationResponseModem op)).addModemIdentity++
    (if op.replacement.isSome then [("replacement",.u8 true)] else [])++
    [("state",.text state),("configuration_acknowledged",.u8 op.configurationAcknowledged)]++
    (op.verificationStage.toList.map fun stage => ("verification_stage",.text stage))++
    [errorTable code (l850ErrorMessage code) retryable]

def l850MutationCompleteFailure (s : State) (state code : String) (retryable : Bool) : State :=
  l850MutationCompleteBuffer (s.observe (.failed state code retryable))
    (failureBody s state code retryable)

def verificationTable (type : L850MutationType) (serving : Option L850Cell) : String × Blob :=
  ("verification",.table ([("registration",.u8 true),("nvm",.u8 true)]++
    match type,serving with
    | .set,some cell => [("serving_cell",.u8 true),("earfcn",.u32 cell.earfcn),
        ("pci",.u32 cell.pci),("band",.u32 cell.band)]
    | _,_ => []))

/-- The body of a verified reply for the adopted record `modem`. -/
def successBody (time : Nat) (modem : Modem) (type : L850MutationType)
    (serving : Option L850Cell) : Reply :=
  addCommon time true++modem.addModemIdentity++
    [("accepted",.u8 true),("replacement",.u8 true),
     ("operation",.text (if type = .clear then "clear_cell_lock" else "set_cell_lock")),
     ("state",.text (if type = .clear then "cleared_verified" else "applied_verified")),
     ("cooldown_ms",.u32 (l850PostMutationCooldownSeconds*1000)),
     verificationTable type serving]

/-- The reply `l850_mutation_complete_success` builds in a state. -/
def successReply (s : State) (serving : Option L850Cell) : Reply :=
  successBody s.bridge.time (s.modem (l850MutationResponseModem s.operation)) s.operation.type
    serving

def l850MutationCompleteSuccess (s : State) (serving : Option L850Cell) : State :=
  l850MutationCompleteBuffer (s.observe (.succeeded serving)) (successReply s serving)

def l850MutationErrorIsUncertain (op : L850MutationOperation) (error : Option GError) : Bool :=
  let remote := gDbusErrorGetRemoteError error
  op.timedOut || op.transportLost || advancedErrorHasUnknownOutcome error remote ||
    remoteErrorHasSuffix remote ".Core.Cancelled"

def l850MutationOriginalIsValid (s : State) (source : Nat) : Bool :=
  let original := s.modem s.operation.original
  original.live && original.generation == s.operation.originalGeneration &&
    source == original.modem && original.l850glModemAttestMutationTarget &&
    original.physdev == some s.operation.physdev

def l850MutationReplacementIsValid (s : State) (source : Nat) : Bool :=
  match s.operation.replacement with
  | none => false
  | some ref =>
    let replacement := s.modem ref
    replacement.live && replacement.generation == s.operation.replacementGeneration &&
      source == replacement.modem && replacement.l850glModemAttestMutationTarget &&
      replacement.physdev == some s.operation.physdev

def l850MutationStartReprobe (s : State) : State :=
  let s := {s with operation := {s.operation with
    phase := .reprobe
    phaseDeadline := s.bridge.now+l850ReprobeTimeoutSeconds*Bridge.usec}}
  s.l850MutationReplaceCancellable.armPoll l850ReprobePollMs

/-- The verdict of `l850_mutation_reset_ready` on the error of the reset. -/
def resetFinish (s : State) (error : Option GError) : ResetFinish :=
  if error.isNone then .clean
  else if l850MutationErrorIsUncertain s.operation error then .uncertain
  else if (l850NormalizeError s.bridge.mmCheckVersion124 error false false).code = "unavailable"
    then .unclassifiedFailure
  else .definiteFailure

def l850MutationResetReady (s : State) (result : CommandResult) : State :=
  let s := {s with operation := {s.operation with commandPending := false}}
  if s.operation.timedOut ∨ s.operation.transportLost then
    l850MutationCompleteFailure s "outcome_unknown" "outcome_unknown" false
  else if ¬ l850glResetFinishShouldReprobe (resetFinish s result.error) then
    l850MutationCompleteFailure s "lock_applied_reset_required"
      (l850NormalizeError s.bridge.mmCheckVersion124 result.error false false).code false
  else l850MutationStartReprobe s

def l850MutationStartReset (s : State) : State :=
  if ¬ l850MutationOriginalIsValid s (s.modem s.operation.original).modem then
    l850MutationCompleteFailure s "lock_applied_reset_required" "device_gone" false
  else
    let s := {s with operation := {s.operation with
      phase := .resetCommand,resetDispatched := true,commandPending := true}}
    s.l850MutationReplaceCancellable.mmModemCommand .resetReady s.operation.original
      l850glL850ResetCommand

def l850MutationStartNvmCommand (s : State) : State :=
  let modem := if s.operation.phase = .preResetNvmVerify then s.operation.original
    else l850MutationResponseModem s.operation
  let s := {s with operation := {s.operation with commandPending := true}}
  s.l850MutationReplaceCancellable.mmModemCommand .nvmReady modem l850glL850NvmQueryCommand

def nvmVerifyPhase : NvmVerifyStage → L850MutationPhase
  | .preReset => .preResetNvmVerify
  | .postReset => .nvmVerify

def nvmVerifyStageName : NvmVerifyStage → String
  | .preReset => "pre_reset_nvm"
  | .postReset => "post_reset_nvm"

def l850MutationStartNvmVerification (s : State) (stage : NvmVerifyStage) : State :=
  let deadline := s.bridge.now+l850NvmVerifyTimeoutSeconds*Bridge.usec
  let s := {s with operation := {s.operation with
    phase := nvmVerifyPhase stage
    phaseDeadline := deadline
    verificationStage := some (nvmVerifyStageName stage)
    nvmVerifier := l850glNvmVerifierInit stage}}
  l850MutationStartNvmCommand (s.observe (.window stage deadline))

def l850MutationSetReady (s : State) (source : Nat) (result : CommandResult) : State :=
  let s := {s with operation := {s.operation with commandPending := false}}
  let original := s.modem s.operation.original
  if l850MutationErrorIsUncertain s.operation result.error ∨ ¬ original.live ∨
      source ≠ original.modem ∨ original.generation ≠ s.operation.originalGeneration then
    l850MutationCompleteFailure s "outcome_unknown" "outcome_unknown" false
  else match result.error,result.response with
    | none,some response =>
      if ¬ l850glL850SetResponseIsSuccess response then
        l850MutationCompleteFailure s "malformed_response" "malformed_response" false
      else
        l850MutationStartNvmVerification {s with operation := {s.operation with
          configurationAcknowledged := true}} .preReset
    | _,_ =>
      let normalized := l850NormalizeError s.bridge.mmCheckVersion124 result.error false false
      l850MutationCompleteFailure s normalized.code
        (if normalized.code = "unavailable" then "operation_failed" else normalized.code)
        normalized.retryable

inductive Replacement
  | absent | ambiguous | found (ref : ModemRef)
  deriving DecidableEq,Repr

/-- A record of the table that may be the modem after its reset. -/
def isReplacement (s : State) (candidate : ModemRef) : Bool :=
  let record := s.modem candidate
  candidate != s.operation.original && record.generation != s.operation.originalGeneration &&
    record.physdev == some s.operation.physdev && record.l850glModemAttestMutationTarget

def l850MutationFindReplacement (s : State) : Replacement :=
  match s.bridge.l850glBridgeSnapshotModems.filter (isReplacement s) with
  | [] => .absent
  | [ref] => .found ref
  | _ => .ambiguous

/-- The adoption of a replacement inside the reprobe branch of the poll. -/
def adoptReplacement (s : State) (ref : ModemRef) : State :=
  let record := s.modem ref
  {s with
    operation := {s.operation with
      replacement := some ref
      replacementGeneration := record.generation
      phase := .registration
      phaseDeadline := s.bridge.now+l850RegistrationTimeoutSeconds*Bridge.usec
      pollSource := 0}
    bridge := s.bridge.updateModem ref record.acquireL850
    trace := .adopted ref record::s.trace}

/-- The poll callback; the flag is `G_SOURCE_CONTINUE`. -/
def l850MutationPoll (s : State) : State × Bool :=
  let now := s.bridge.now
  let stopped := {s with operation := {s.operation with pollSource := 0}}
  if s.operation.timedOut ∨ s.operation.transportLost ∨ s.ubus.stopping then
    (l850MutationCompleteFailure stopped
      (if s.operation.phase = .preResetNvmVerify then "lock_applied_reset_required"
        else "outcome_unknown") "outcome_unknown" false,false)
  else match s.operation.phase with
    | .preResetNvmVerify =>
      if now ≥ s.operation.phaseDeadline then
        (l850MutationCompleteFailure stopped "lock_applied_reset_required"
          "verification_mismatch" false,false)
      else if ¬ l850MutationOriginalIsValid s (s.modem s.operation.original).modem then
        (l850MutationCompleteFailure stopped "lock_applied_reset_required"
          "outcome_unknown" false,false)
      else (l850MutationStartNvmCommand stopped,false)
    | .nvmVerify =>
      if now ≥ s.operation.phaseDeadline then
        (l850MutationCompleteFailure stopped "verification_mismatch"
          "verification_mismatch" false,false)
      else if ¬ l850MutationReplacementIsValid s
          (s.modem (l850MutationResponseModem s.operation)).modem then
        (l850MutationCompleteFailure stopped "outcome_unknown" "outcome_unknown" false,false)
      else (l850MutationStartNvmCommand stopped,false)
    | .reprobe =>
      match l850MutationFindReplacement s with
      | .ambiguous =>
        (l850MutationCompleteFailure stopped "verification_mismatch"
          "verification_mismatch" false,false)
      | .found ref =>
        if (s.modem ref).mutationBusy then
          (l850MutationCompleteFailure stopped "outcome_unknown" "busy" false,false)
        else
          let adopted := adoptReplacement s ref
          if (s.modem ref).l850ModemIsRegistered then
            (l850MutationStartNvmVerification (adopted.observe (.registered ref (s.modem ref)))
              .postReset,false)
          else (adopted.armPoll l850RegistrationPollMs,false)
      | .absent =>
        if now ≥ s.operation.phaseDeadline then
          (l850MutationCompleteFailure stopped "reprobe_timeout" "reprobe_timeout" false,false)
        else (s,true)
    | .registration =>
      let ref := l850MutationResponseModem s.operation
      if ¬ l850MutationReplacementIsValid s (s.modem ref).modem then
        (l850MutationCompleteFailure stopped "outcome_unknown" "outcome_unknown" false,false)
      else if (s.modem ref).l850ModemIsRegistered then
        (l850MutationStartNvmVerification (stopped.observe (.registered ref (s.modem ref)))
          .postReset,false)
      else if now ≥ s.operation.phaseDeadline then
        (l850MutationCompleteFailure stopped "registration_timeout"
          "registration_timeout" false,false)
      else (s,true)
    | _ =>
      (l850MutationCompleteFailure stopped "outcome_unknown" "outcome_unknown" false,false)

def l850MutationCellReady (s : State) (source : Nat) (result : CommandResult) : State :=
  let s := {s with operation := {s.operation with commandPending := false}}
  let op := s.operation
  let ref := l850MutationResponseModem op
  let mismatch := l850MutationCompleteFailure s "verification_mismatch"
    "verification_mismatch" false
  if ¬ l850MutationReplacementIsValid s source ∨
      l850MutationErrorIsUncertain op result.error then
    l850MutationCompleteFailure s "outcome_unknown" "outcome_unknown" false
  else match result.error,result.response with
    | none,some response =>
      match l850glL850CellParse response with
      | .error _ => mismatch
      | .ok cells =>
        if cells.any fun cell => ¬ (s.modem ref).lteBandIsSupported cell.band then mismatch
        else match (cells.filter (·.serving)).getLast? with
          | none => mismatch
          | some serving =>
            if serving.earfcn ≠ op.earfcn ∨ (op.hasPci ∧ serving.pci ≠ op.pci) then mismatch
            else match (s.modem ref).servingCellCacheStore s.bridge.now serving
                "expert-postcondition" with
              | none => mismatch
              | some modem =>
                l850MutationCompleteSuccess {s with bridge := s.bridge.updateModem ref modem}
                  (some serving)
    | _,_ => l850MutationCompleteFailure s "outcome_unknown" "outcome_unknown" false

/-- The end of `l850_mutation_nvm_ready`, reached when the verifier is ready. -/
def nvmVerified (s : State) (preReset : Bool) : State :=
  let s := {s with operation := {s.operation with verificationStage := none}}
  if preReset then l850MutationStartReset s
  else if s.operation.type = .clear then l850MutationCompleteSuccess s none
  else
    let s := {s with operation := {s.operation with
      phase := .cellVerify,commandPending := true}}
    s.l850MutationReplaceCancellable.mmModemCommand .cellReady
      (l850MutationResponseModem s.operation) l850glL850ScanCommand

def l850MutationNvmReady (s : State) (source : Nat) (result : CommandResult) : State :=
  let preReset : Bool := s.operation.phase == .preResetNvmVerify
  let s := {s with operation := {s.operation with commandPending := false}}
  let op := s.operation
  let unknown := l850MutationCompleteFailure s
    (if preReset then "lock_applied_reset_required" else "outcome_unknown")
    "outcome_unknown" false
  if (op.phase ≠ .preResetNvmVerify ∧ op.phase ≠ .nvmVerify) ∨
      (preReset ∧ ¬ l850MutationOriginalIsValid s source) ∨
      (¬ preReset ∧ ¬ l850MutationReplacementIsValid s source) ∨
      l850MutationErrorIsUncertain op result.error then unknown
  else match result.error,result.response with
    | none,some response =>
      let rejected := if preReset then "lock_applied_reset_required" else "verification_mismatch"
      match l850glL850NvmParse response with
      | .error _ =>
        l850MutationCompleteFailure {s with operation := {op with
          nvmVerifier := (l850glNvmVerifierObserve op.nvmVerifier .invalid).1}}
          rejected "malformed_response" false
      | .ok lockState =>
        let isMatch := l850glL850LockStateMatches lockState (op.type == .clear) op.earfcn
          op.hasPci op.pci
        let observed := l850glNvmVerifierObserve op.nvmVerifier
          (if isMatch then .matched else .mismatch)
        let s := {s with operation := {op with nvmVerifier := observed.1}}
        if observed.2 = .failInvalid then
          l850MutationCompleteFailure s rejected "malformed_response" false
        else if s.bridge.now ≥ op.phaseDeadline then
          l850MutationCompleteFailure s rejected "verification_mismatch" false
        else if observed.2 = .retry then s.armPoll l850NvmVerifyPollMs
        else nvmVerified s preReset
    | _,_ => unknown

/-- The global timeout; the callback always returns `G_SOURCE_REMOVE`. -/
def l850MutationTimeout (s : State) : State :=
  let s := {s with operation := {s.operation with timeoutSource := 0,timedOut := true}}
  (s.gCancellableCancel s.operation.cancellable).observe .deadlineFired

def tuple (op : L850MutationOperation) : CString :=
  match op.type with
  | .clear => l850glL850ClearCommand
  | .set => op.setCommand

def l850MutationDispatchSet (s : State) : State :=
  if ¬ l850MutationOriginalIsValid s (s.modem s.operation.original).modem then
    l850MutationCompleteFailure s "device_gone" "device_gone" false
  else
    let s := {s with operation := {s.operation with
      phase := .setCommand,setDispatched := true,commandPending := true}}
    s.l850MutationReplaceCancellable.mmModemCommand .setReady s.operation.original
      (tuple s.operation)

def l850MutationProbeReady (s : State) (source : Nat) (result : CommandResult) : State :=
  let s := {s with operation := {s.operation with commandPending := false}}
  if s.operation.phase ≠ .protocolProbe ∨ ¬ l850MutationOriginalIsValid s source then
    l850MutationCompleteFailure s "device_gone" "device_gone" false
  else match result.error,result.response with
    | none,some response =>
      match l850glL850NvmParse response with
      | .error _ =>
        l850MutationCompleteFailure s "unsupported_protocol" "unsupported_protocol" false
      | .ok _ => l850MutationDispatchSet s
    | _,_ =>
      let normalized := l850NormalizeError s.bridge.mmCheckVersion124 result.error
        s.operation.timedOut s.operation.transportLost
      l850MutationCompleteFailure s normalized.code normalized.code normalized.retryable

/-- `l850_mutation_operation_new`, called from a ubus method, so over a live connection. -/
def l850MutationOperationNew (ubus : Ubus) (bridge : Bridge) (ref : ModemRef)
    (type : L850MutationType) (earfcn : Nat) (hasPci : Bool) (pci band : Nat)
    (setCommand : CString) : Option State :=
  let modem := bridge.modems ref
  match modem.physdev with
  | none => none
  | some physdev =>
    if physdev = [] then none
    else some {
      operation := {
        type := type, phase := .protocolProbe, original := ref, replacement := none
        cancellable := 0, request := ubus.connection
        originalGeneration := modem.generation, replacementGeneration := 0
        timeoutSource := 1, pollSource := 0, phaseDeadline := 0, physdev := physdev
        setCommand := setCommand.take (l850glL850CommandMax-1)
        earfcn := earfcn, pci := pci, band := band
        nvmVerifier := ⟨.preReset,0⟩, verificationStage := none, hasPci := hasPci
        timedOut := false, transportLost := false, deferred := true
        commandPending := false, setDispatched := false
        configurationAcknowledged := false, resetDispatched := false }
      released := false
      calls := []
      sources := [⟨1,.timeout,l850MutationOperationTimeoutSeconds*1000⟩]
      nextSource := 2
      nextCancellable := 1
      cancelled := []
      ubus := ubus
      bridge := bridge.updateModem ref modem.acquireL850
      trace := [] }

/-- What a request of the expert object comes to. -/
inductive Admission
  | refused (body : Reply)
  | started (s : State)

def sendL850Error (bridge : Bridge) (modem : Option Modem) (code : String) (retryable : Bool)
    (retryAfterMs : Nat) : Reply :=
  addCommon bridge.time false++(modem.elim [] Modem.addModemIdentity)++[("state",.text code)]++
    (if retryAfterMs > 0 then [("retry_after_ms",.u32 retryAfterMs)] else [])++
    [errorTable code (l850ErrorMessage code) retryable]

def l850MutationStart (ubus : Ubus) (bridge : Bridge) (ref : ModemRef)
    (type : L850MutationType) (earfcn : Nat) (hasPci : Bool) (pci band : Nat)
    (setCommand : CString) : Admission :=
  match l850MutationOperationNew ubus bridge ref type earfcn hasPci pci band setCommand with
  | none => .refused (sendL850Error bridge (some (bridge.modems ref)) "unsupported" false 0)
  | some s =>
    let s := {s with operation := {s.operation with commandPending := true}}
    .started (s.mmModemCommand .probeReady s.operation.original l850glL850NvmQueryCommand)

/-- The tables of live expert operations: physical devices held by lock operations, records
under a cell scan and under a carrier query. -/
structure Tables where
  l850MutationOperations : List CString
  l850ScanOperations : List ModemRef
  l850CarrierOperations : List ModemRef

def l850ModemHasActiveMutation (tables : Tables) (modem : Modem) : Bool :=
  match modem.physdev with
  | none => false
  | some physdev => physdev != [] && tables.l850MutationOperations.contains physdev

def l850ModemHasActiveScan (tables : Tables) (ref : ModemRef) : Bool :=
  tables.l850ScanOperations.contains ref

def l850ModemHasActiveCarrierQuery (tables : Tables) (ref : ModemRef) : Bool :=
  tables.l850CarrierOperations.contains ref

/-- `cooldown_remaining_ms`. -/
def cooldownRemainingMs (now deadline : Int) : Nat :=
  if deadline ≤ 0 ∨ deadline-now ≤ 0 then 0
  else min (((deadline-now)+999)/1000).toNat uint32Max

def advancedRetryAfterMs (bridge : Bridge) (ref : ModemRef) : Nat :=
  cooldownRemainingMs bridge.now (bridge.modems ref).advancedCooldownUntil

end Mutation
end L850GL
