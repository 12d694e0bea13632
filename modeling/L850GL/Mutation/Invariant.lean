import L850GL.Lib.Trace
import L850GL.Mutation.System

/-! The invariant of one lock operation.  Every observation of a run has a reason in what was
observed before it, and the phase of a live operation tells what it waits for. -/
namespace L850GL
namespace Mutation

open Cell Errors MutationPolicy

/-- The part of an operation that is fixed at admission. -/
structure Lock where
  original : ModemRef
  generation : Nat
  physdev : CString
  type : L850MutationType
  command : CString
  earfcn : Nat
  hasPci : Bool
  pci : Nat
  request : Nat

def L850MutationOperation.lock (op : L850MutationOperation) : Lock :=
  ⟨op.original,op.originalGeneration,op.physdev,op.type,tuple op,op.earfcn,op.hasPci,op.pci,
    op.request⟩

namespace Lock

variable (lock : Lock)

def IsTuple (o : Observation) : Prop := ∃ target record, o = .command target record lock.command

def IsReset (o : Observation) : Prop :=
  ∃ target record, o = .command target record l850glL850ResetCommand

def IsReply (o : Observation) : Prop := ∃ connection body, o = .reply connection body

/-- An NVM read that parsed and shows the requested lock state. -/
def Matches (result : CommandResult) : Prop :=
  ∃ response lockState, result.error = none ∧ result.response = some response ∧
    l850glL850NvmParse response = .ok lockState ∧
    l850glL850LockStateMatches lockState (lock.type == .clear) lock.earfcn lock.hasPci
      lock.pci = true

/-- The probe read of the original was accepted by the NVM parser. -/
def ProbeAccepted (past : List Observation) : Prop :=
  ∃ call result now response lockState, .finished call result now ∈ past ∧
    call.callback = .probeReady ∧ call.target = lock.original ∧
    call.command = l850glL850NvmQueryCommand ∧ result.error = none ∧
    result.response = some response ∧ l850glL850NvmParse response = .ok lockState

/-- The tuple was answered with the exact acknowledgement. -/
def Acknowledged (past : List Observation) : Prop :=
  ∃ call result now, .finished call result now ∈ past ∧ call.callback = .setReady ∧
    call.target = lock.original ∧ call.command = lock.command ∧ result.error = none ∧
    result.response = some l850SetSuccess

end Lock

/-- The NVM window opened last. -/
def openWindow : List Observation → Option NvmVerifyStage
  | [] => none
  | .window stage _::_ => some stage
  | _::past => openWindow past

/-- The NVM reads finished since the last window was opened, the newest first. -/
def windowReads : List Observation → List (PendingCall × CommandResult)
  | [] => []
  | .window _ _::_ => []
  | .finished call result _::past =>
    if call.callback = .nvmReady then (call,result)::windowReads past else windowReads past
  | _::past => windowReads past

/-- Neither the global timeout nor the end of the connection came before. -/
structure Undisturbed (past : List Observation) : Prop where
  deadline : .deadlineFired ∉ past
  connection : .connectionLost ∉ past
  stop : .stopped ∉ past
  released : .released ∉ past

/-- The record is the one the operation was admitted for: live, with the same proxy,
generation and device, and attested. -/
structure SameOriginal (lock : Lock) (object : Nat) (record : Modem) : Prop where
  live : record.live = true
  object : record.modem = object
  generation : record.generation = lock.generation
  physdev : record.physdev = some lock.physdev
  attested : record.l850glModemAttestMutationTarget = true

/-- Why a command may be handed to ModemManager. -/
inductive CommandReason (lock : Lock) (object : Nat) (past : List Observation) :
    ModemRef → Modem → CString → Prop
  | query {target record text}
      (h : text = l850glL850NvmQueryCommand ∨ text = l850glL850ScanCommand) :
      CommandReason lock object past target record text
  | tuple {record} (hrecord : SameOriginal lock object record)
      (hprobe : lock.ProbeAccepted past) (honce : ∀ o ∈ past, ¬ lock.IsTuple o) :
      CommandReason lock object past lock.original record lock.command
  | reset {record} (hrecord : SameOriginal lock object record)
      (hack : lock.Acknowledged past) (hwindow : openWindow past = some .preReset)
      (hreads : ∃ last previous rest, windowReads past = last::previous::rest ∧
        last.1.target = lock.original ∧ lock.Matches last.2 ∧
        previous.1.target = lock.original ∧ lock.Matches previous.2)
      (honce : ∀ o ∈ past, ¬ Lock.IsReset o) :
      CommandReason lock object past lock.original record l850glL850ResetCommand

def Lock.ResetOfOriginal (lock : Lock) (o : Observation) : Prop :=
  ∃ record, o = .command lock.original record l850glL850ResetCommand

def IsRegistered (ref : ModemRef) (o : Observation) : Prop :=
  ∃ record, o = .registered ref record ∧ record.l850ModemIsRegistered = true

def Lock.MatchingRead (lock : Lock) (ref : ModemRef) (deadline : Int) (o : Observation) : Prop :=
  ∃ call result now, o = .finished call result now ∧ call.target = ref ∧
    call.command = l850glL850NvmQueryCommand ∧ lock.Matches result ∧ now < deadline

def Lock.ServingRead (lock : Lock) (ref : ModemRef) (cell : L850Cell) (o : Observation) : Prop :=
  ∃ call result now response cells, o = .finished call result now ∧ call.target = ref ∧
    call.command = l850glL850ScanCommand ∧ result.error = none ∧
    result.response = some response ∧ l850glL850CellParse response = .ok cells ∧
    cells.filter (·.serving) = [cell] ∧ cell.earfcn = lock.earfcn ∧
    (lock.hasPci = true → cell.pci = lock.pci)

/-- The record a lock operation may adopt in place of its original. -/
structure Adoptable (lock : Lock) (ref : ModemRef) (record : Modem) : Prop where
  other : ref ≠ lock.original
  generation : record.generation ≠ lock.generation
  physdev : record.physdev = some lock.physdev
  attested : record.l850glModemAttestMutationTarget = true

/-- Reset of the original, then adoption of `ref`. -/
def Lock.adoption (lock : Lock) (ref : ModemRef) (record : Modem) : List (Observation → Prop) :=
  [(· = .adopted ref record),lock.ResetOfOriginal]

/-- Reset, adoption, registration, and a window with this deadline. -/
def Lock.opening (lock : Lock) (ref : ModemRef) (record : Modem) (deadline : Int) :
    List (Observation → Prop) :=
  (· = .window .postReset deadline)::IsRegistered ref::lock.adoption ref record

/-- The last step of a verification, absent for a clear. -/
def Lock.closing (lock : Lock) (ref : ModemRef) :
    Option L850Cell → List (Observation → Prop)
  | none => []
  | some cell => [lock.ServingRead ref cell]

structure Verified (lock : Lock) (past : List Observation) (serving : Option L850Cell) : Prop where
  undisturbed : Undisturbed past
  cell : serving = none ↔ lock.type = .clear
  steps : ∃ ref record deadline, Adoptable lock ref record ∧
    Occurs (lock.closing ref serving++lock.MatchingRead ref deadline::
      lock.opening ref record deadline) past

def Reason (lock : Lock) (object : Nat) (past : List Observation) : Observation → Prop
  | .command target record text =>
    Undisturbed past ∧ (target = lock.original → record.modem = object) ∧
      CommandReason lock object past target record text
  | .succeeded serving => Verified lock past serving
  | .reply connection _ => connection = lock.request ∧ ∀ o ∈ past, ¬ Lock.IsReply o
  | .released => .released ∉ past
  | _ => True

/-- The command text of a tuple, which no other command shares. -/
def IsTupleText (text : CString) : Prop := "AT@SIC".toList <+: text

theorem IsTupleText.ne {text other : CString} (h : IsTupleText text)
    (hother : ¬ "AT@SIC".toList <+: other) : other ≠ text := by
  rintro rfl
  exact hother h

/-- What the phase of a live operation says about the past. -/
def PhaseFacts (op : L850MutationOperation) (past : List Observation) : Prop :=
  match op.phase with
  | .protocolProbe => (∀ o ∈ past, ¬ op.lock.IsTuple o) ∧ ∀ o ∈ past, ¬ Lock.IsReset o
  | .setCommand => ∀ o ∈ past, ¬ Lock.IsReset o
  | .preResetNvmVerify =>
    (∀ o ∈ past, ¬ Lock.IsReset o) ∧ op.lock.Acknowledged past ∧
      openWindow past = some .preReset ∧ op.nvmVerifier.stage = .preReset ∧
      (op.nvmVerifier.consecutiveMatches = 0 ∨
        op.nvmVerifier.consecutiveMatches = 1 ∧ ∃ read rest, windowReads past = read::rest ∧
          read.1.target = op.original ∧ op.lock.Matches read.2)
  | .resetCommand | .reprobe => Occurs [op.lock.ResetOfOriginal] past
  | .registration => ∃ ref record, op.replacement = some ref ∧ Adoptable op.lock ref record ∧
      Occurs (op.lock.adoption ref record) past
  | .nvmVerify => ∃ ref record, op.replacement = some ref ∧ Adoptable op.lock ref record ∧
      Occurs (op.lock.opening ref record op.phaseDeadline) past
  | .cellVerify => op.type = .set ∧ ∃ ref record deadline, op.replacement = some ref ∧
      Adoptable op.lock ref record ∧ Occurs (op.lock.MatchingRead ref deadline::
        op.lock.opening ref record deadline) past

/-- The command a phase waits for: its callback, its target and its text. -/
def expectedCall (op : L850MutationOperation) :
    Option (CommandCallback × ModemRef × CString) :=
  match op.phase with
  | .protocolProbe => some (.probeReady,op.original,l850glL850NvmQueryCommand)
  | .setCommand => some (.setReady,op.original,tuple op)
  | .preResetNvmVerify => some (.nvmReady,op.original,l850glL850NvmQueryCommand)
  | .resetCommand => some (.resetReady,op.original,l850glL850ResetCommand)
  | .reprobe | .registration => none
  | .nvmVerify => some (.nvmReady,l850MutationResponseModem op,l850glL850NvmQueryCommand)
  | .cellVerify => some (.cellReady,l850MutationResponseModem op,l850glL850ScanCommand)

/-- The phases that wait on the poll source. -/
def L850MutationPhase.polls : L850MutationPhase → Bool
  | .preResetNvmVerify | .reprobe | .registration | .nvmVerify => true
  | _ => false

def timeoutSources (op : L850MutationOperation) : List Source :=
  if op.timeoutSource = 0 then []
  else [⟨op.timeoutSource,.timeout,l850MutationOperationTimeoutSeconds*1000⟩]

/-- What a live operation waits for between two callbacks. -/
inductive Wait
  | reply (pending : PendingCall)
  | tick (source : Source)

def Wait.calls : Wait → List PendingCall
  | .reply pending => [pending]
  | .tick _ => []

def Wait.sources : Wait → List Source
  | .reply _ => []
  | .tick source => [source]

def Wait.Fits (op : L850MutationOperation) : Wait → Prop
  | .reply pending => pending.cancellable = op.cancellable ∧
      expectedCall op = some (pending.callback,pending.target,pending.command)
  | .tick source => source.callback = .poll ∧ source.id = op.pollSource ∧
      op.timeoutSource < source.id ∧ op.phase.polls = true

/-- A live operation while one of its callbacks runs: nothing but the global timeout is armed. -/
structure Idle (object : Nat) (s : State) : Prop where
  reasons : Justified (Reason s.operation.lock object) s.trace
  command : IsTupleText s.operation.lock.command
  live : s.released = false
  calls : s.calls = []
  sources : s.sources = timeoutSources s.operation
  next : s.operation.timeoutSource < s.nextSource ∧ 0 < s.nextSource
  cancellables : ∀ c ∈ s.operation.cancellable::s.cancelled, c < s.nextCancellable
  object : (s.modem s.operation.original).modem = object
  timeout : .deadlineFired ∈ s.trace ∨ s.operation.timeoutSource ≠ 0
  deadline : .deadlineFired ∈ s.trace → s.operation.timedOut = true
  lost : .connectionLost ∈ s.trace ∨ .stopped ∈ s.trace → s.operation.transportLost = true
  stopping : s.ubus.stopping = true → s.operation.transportLost = true
  replies : ∀ o ∈ s.trace, ¬ Lock.IsReply o
  free : .released ∉ s.trace
  connection : s.operation.deferred = true →
    s.ubus.connected = true ∧ s.ubus.connection = s.operation.request

/-- The operation is neither timed out nor cut off. -/
def Unharmed (op : L850MutationOperation) : Prop :=
  op.timedOut = false ∧ op.transportLost = false

/-- A live operation between two callbacks. -/
structure Waiting (object : Nat) (s : State) (wait : Wait) : Prop where
  idle : Idle object {s with calls := [],sources := timeoutSources s.operation}
  calls : s.calls = wait.calls
  sources : s.sources = timeoutSources s.operation++wait.sources
  next : ∀ source ∈ wait.sources, source.id < s.nextSource
  fits : wait.Fits s.operation
  facts : PhaseFacts s.operation s.trace
  cancelled : Unharmed s.operation ∨ s.operation.cancellable ∈ s.cancelled

/-- A released operation keeps nothing armed. -/
structure Released (object : Nat) (s : State) : Prop where
  reasons : Justified (Reason s.operation.lock object) s.trace
  command : IsTupleText s.operation.lock.command
  released : s.released = true
  calls : s.calls = []
  sources : s.sources = []

def Inv (object : Nat) (s : State) : Prop := Released object s ∨ ∃ wait, Waiting object s wait

end Mutation
end L850GL
