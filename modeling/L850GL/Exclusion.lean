import L850GL.Advanced.Marks
import L850GL.Cooldown
import L850GL.Reads.Marks
import L850GL.Sms.Marks
import L850GL.Status.System

/-! One bridge with everything that runs on its modems: SMS operations, band and mode changes, lock
operations, cell scans, carrier queries and voltage queries, in any order. -/
namespace L850GL
namespace Exclusion

open Cooldown Mutation Ownership Sms

/-- `L850VoltageQuery`, with the proxy that its command was handed to. -/
structure VoltageQuery where
  modem : ModemRef
  source : Nat
  generation : Nat
  deriving DecidableEq,Repr

/-- The records, table and clock as the last step left them, the five kinds of operations, and the
voltage queries whose callback has not run. -/
structure World where
  bridge : Bridge
  sms : Sms.World
  advanced : Advanced.World
  mutations : List Mutation.State
  reads : Reads.World
  status : ModemRef → Status.ModemStatus
  queries : Nat → Option VoltageQuery
  nextQuery : Nat

namespace World

/-- The records at the time of a report.  The bridge makes and removes them and puts its marks on
them, and the report tells the rest. -/
def current (w : World) (report : Bridge) : Bridge :=
  {report with
    mmCheckVersion124 := w.bridge.mmCheckVersion124
    modems := fun ref =>
      let reported := report.modems ref
      {w.bridge.modems ref with
        device := reported.device
        physdev := reported.physdev
        supported := reported.supported
        hardwareAttested := reported.hardwareAttested
        state := reported.state
        supportedBands := reported.supportedBands
        voltageRefreshPending := (w.status ref).voltageRefreshPending}}

def reported (w : World) (report : Bridge) : World := {w with bridge := w.current report}

def devices (w : World) : List CString :=
  (w.mutations.filter fun s => !s.released).map (·.operation.physdev)

def tables (w : World) : Tables := w.reads.tables w.devices

def smsAt (w : World) : Sms.World := {w.sms with bridge := w.bridge}
def advancedAt (w : World) : Advanced.World := {w.advanced with bridge := w.bridge}
def readsAt (w : World) : Reads.World := {w.reads with bridge := w.bridge}

def admission (w : World) : Admission → World
  | .refused _ => w
  | .started s => {w with bridge := w.bridge.refresh s.bridge,mutations := w.mutations++[s]}

def statusAfter (w : World) : Sms.Event → ModemRef → Status.ModemStatus
  | .admitted => Function.update w.status w.sms.admitted (.new (w.status w.sms.admitted).report)
  | .removed ref => Function.update w.status ref (w.status ref).markRemoved
  | _ => w.status

/-- `l850_voltage_refresh`, with the query that it sends. -/
def voltageRefresh (w : World) (ref : ModemRef) : World :=
  let modem := w.bridge.modems ref
  let status := Status.l850VoltageRefresh w.tables modem ref w.bridge.now (w.status ref)
  let asked := !(w.status ref).voltageRefreshPending && status.voltageRefreshPending
  let w := {w with status := Function.update w.status ref status}
  if !asked then w
  else {w with
    queries := Function.update w.queries w.nextQuery (some ⟨ref,modem.modem,modem.generation⟩)
    nextQuery := w.nextQuery+1}

/-- `l850_voltage_ready`; there is no response when the command failed. -/
def voltageReady (w : World) (id : Nat) (query : VoltageQuery) (response : Option CString) :
    World :=
  let modem := w.bridge.modems query.modem
  {w with
    queries := Function.update w.queries id none
    status := Function.update w.status query.modem
      (Status.l850VoltageReady modem w.bridge.now query.source query.generation response
        (w.status query.modem))}

end World

/-- What runs next; a lock operation is named by its place.  Each kind of operation hears of a
removed record and of the connection by an event of its own. -/
inductive Event
  | sms (event : Sms.Event)
  | advanced (event : Advanced.Event)
  | setCellLock (ubus : Ubus) (request : Option SetCellLockRequest)
  | clearCellLock (ubus : Ubus) (request : Option ClearCellLockRequest)
  | mutation (index : Nat) (event : Mutation.Event)
  | reads (event : Reads.Event)
  | voltageRefresh (ref : ModemRef)
  | voltageReady (id : Nat) (response : Option CString)

section

variable (sha256 : CString → Digest) (random : Nat → Option (Vector UInt8 16))

/-- One event.  A request looks at the tables of all the others. -/
def handle (w : World) : Event → Option World
  | .sms event =>
    (Sms.handle sha256 random w.smsAt (event.withTables w.tables)).map fun sms =>
      {w with bridge := sms.bridge,sms := sms,status := w.statusAfter event}
  | .advanced event =>
    (Advanced.step w.advancedAt ((event.withTables w.tables).withBridge w.bridge)).map
      fun advanced => {w with bridge := advanced.bridge,advanced := advanced}
  | .setCellLock ubus request =>
    if !serves ubus then none
    else some (w.admission (methodSetCellLock w.tables ubus w.bridge request))
  | .clearCellLock ubus request =>
    if !serves ubus then none
    else some (w.admission (methodClearCellLock w.tables ubus w.bridge request))
  | .mutation index event =>
    (w.mutations[index]?).bind fun s =>
      (Mutation.step s (event.withBridge w.bridge)).map fun t =>
        {w with bridge := w.bridge.refresh t.bridge,mutations := w.mutations.set index t}
  | .reads event =>
    (Reads.step w.readsAt ((event.withMutations w.devices).withBridge w.bridge)).map
      fun reads => {w with bridge := reads.bridge,reads := reads}
  | .voltageRefresh ref => some (w.voltageRefresh ref)
  | .voltageReady id response =>
    (w.queries id).map fun query => w.voltageReady id query response

/-- An event runs at the time of its report, which is never before the last one. -/
def step (w : World) (input : Bridge × Event) : Option World :=
  if input.1.now < w.bridge.now ∨ int64Max ≤ input.1.now then none
  else handle sha256 random (w.reported input.1) input.2

end

structure Initial (w : World) : Prop where
  sms : Sms.Initial {w.sms with bridge := w.bridge}
  advanced : Advanced.Initial w.advanced
  mutations : w.mutations = []
  reads : Reads.Initial w.reads
  queries : w.queries = fun _ => none

def bridgeSystem (sha256 : CString → Digest) (random : Nat → Option (Vector UInt8 16)) :
    System World (Bridge × Event) := ⟨Initial,step sha256 random⟩

inductive Owner
  | sms (op : Sms.OperationRef)
  | advanced (ref : Advanced.OperationRef)
  | mutation (index : Nat)
  deriving DecidableEq,Repr

def Owner.tag : Owner → RecordMark
  | .sms op => Sms.tag op
  | .advanced ref => Advanced.tag ref
  | .mutation _ => Mutation.tag ()

/-- The operation has the record as its target, as its original or as its adopted replacement. -/
def Owns (w : World) (ref : ModemRef) : Owner → Prop
  | .sms op => Sms.Owns w.sms ref op
  | .advanced op => Advanced.Owns w.advanced ref op
  | .mutation index => ∃ s,w.mutations[index]? = some s ∧ Mutation.Owns s ref ()

inductive Activity
  | sms (op : Sms.OperationRef)
  | advanced (ref : Advanced.OperationRef)
  | mutation (index : Nat)
  | scan (ref : Reads.OperationRef)
  | carrier (ref : Reads.OperationRef)
  | voltage (id : Nat)
  deriving DecidableEq,Repr

/-- In progress on a record; a lock operation is so on every record of its device. -/
def Uses (w : World) (ref : ModemRef) : Activity → Prop
  | .sms op => Sms.Owns w.sms ref op
  | .advanced op => Advanced.Owns w.advanced ref op
  | .mutation index => ∃ s,w.mutations[index]? = some s ∧ s.released = false ∧
      (w.bridge.modems ref).physdev = some s.operation.physdev
  | .scan op => Reads.Uses w.reads .scan ref op
  | .carrier op => Reads.Uses w.reads .carrier ref op
  | .voltage id => ∃ query,w.queries id = some query ∧ query.modem = ref

/-- In progress on a record; a lock operation is so on the record that it was asked for. -/
def Targets (w : World) (ref : ModemRef) : Activity → Prop
  | .mutation index => ∃ s,w.mutations[index]? = some s ∧ s.released = false ∧
      s.operation.original = ref
  | activity => Uses w ref activity

/-- No two live records are of one device. -/
def Distinct (w : World) : Prop :=
  ∀ a b device,(w.bridge.modems a).live = true → (w.bridge.modems b).live = true →
    (w.bridge.modems a).physdev = some device → (w.bridge.modems b).physdev = some device → a = b

/-- ModemManager gives every live record a device of its own, once and for all. -/
structure Faithful (sha256 : CString → Digest) (random : Nat → Option (Vector UInt8 16))
    (w : World) (input : Bridge × Event) : Prop where
  stable : ∀ ref,(w.bridge.modems ref).live = true →
    (input.1.modems ref).physdev = (w.bridge.modems ref).physdev
  distinct : ∀ w',step sha256 random w input = some w' → Distinct w'

end Exclusion
end L850GL
