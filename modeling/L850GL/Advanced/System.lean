import L850GL.Advanced.Operation
import L850GL.Lib.Transition

/-! The runs of the band and mode operations, with libubus running handlers from inside the
blocking lookup of `set_modes`, and the life of an operation. -/
namespace L850GL
namespace Advanced

open Mutation Network World

/-- What runs next.  Every event comes with the reports of ModemManager, the table and the
clock as they are by then. -/
inductive Event
  | setBands (tables : Tables) (request : Option SetBandsRequest)
      (resolved : Except (String × Bool) (List Nat)) (bridge : Bridge)
  | setModes (tables : Tables) (request : Option SetModesRequest)
      (update : NetworkModeUpdateResult) (bridge : Bridge)
  | lookedUp (lookup : Option Nat) (invoked : Bool)
  | reloadReply (ref : OperationRef) (succeeded : Bool) (bridge : Bridge)
  | timeout (ref : OperationRef) (bridge : Bridge)
  | bandsReady (ref : OperationRef) (source : Nat) (error : Option GError) (bridge : Bridge)
  | modemRemoved (ref : OperationRef) (bridge : Bridge)
  | connectionLost (bridge : Bridge)
  | reconnected (bridge : Bridge)
  | shutdown (bridge : Bridge)
  | stop (bridge : Bridge)

def World.refresh (w : World) (bridge : Bridge) : World :=
  {w with bridge := w.bridge.refresh bridge}

/-- While `set_modes` waits in the lookup only libubus runs: it delivers replies to requests
that were sent before and may find the connection lost. -/
def step (w : World) : Event → Option World
  | .setBands tables request resolved bridge =>
    if w.blocked.isSome || !w.ubus.connected then none
    else some (methodSetBands (w.refresh bridge) tables request resolved).1
  | .setModes tables request update bridge =>
    if w.blocked.isSome || !w.ubus.connected then none
    else some (methodSetModes (w.refresh bridge) tables request update).1
  | .lookedUp lookup invoked =>
    match w.blocked with
    | none => none
    | some ref => some (setModesLookedUp w ref lookup invoked)
  | .reloadReply ref succeeded bridge =>
    if !(w.slots ref).networkRequest then none
    else some (advancedNetworkReloadComplete (w.refresh bridge) ref succeeded)
  | .timeout ref bridge =>
    if w.blocked.isSome || !(w.slots ref).timer then none
    else some (advancedOperationTimeout (w.refresh bridge) ref)
  | .bandsReady ref source error bridge =>
    if w.blocked.isSome || !(w.slots ref).call then none
    else some (advancedOperationReady (w.refresh bridge) ref source error)
  | .modemRemoved ref bridge =>
    if w.blocked.isSome || !(w.slots ref).call then none
    else some ((w.refresh bridge).updateSlot ref fun slot => {slot with cancelled := true})
  | .connectionLost bridge => some (connectionLost (w.refresh bridge))
  | .reconnected bridge =>
    if w.blocked.isSome || w.ubus.connected || w.ubus.stopping then none
    else some {w.refresh bridge with ubus := {w.ubus with
      connected := true,contextInitialized := true,connection := w.ubus.connection+1}}
  | .shutdown bridge =>
    if w.blocked.isSome || w.ubus.connected then none
    else some {w.refresh bridge with ubus := {w.ubus with contextInitialized := false}}
  | .stop bridge =>
    if w.blocked.isSome then none else some (l850glUbusStop (w.refresh bridge))

/-- A connection that is up has its context, and the bridge is not stopping. -/
def UbusOk (ubus : Ubus) : Prop :=
  ubus.connected = true → ubus.contextInitialized = true ∧ ubus.stopping = false

def Initial (w : World) : Prop :=
  w.slots = (fun _ => Slot.empty) ∧ w.next = 0 ∧ w.advancedOperations = [] ∧ w.blocked = none ∧
    UbusOk w.ubus

def advancedSystem : System World Event := ⟨Initial,step⟩

/-- No connection loss runs inside the lookup of `set_modes`. -/
def LookupUndisturbed (w : World) (event : Event) : Prop :=
  w.blocked ≠ none → ∀ bridge, event ≠ .connectionLost bridge

/-- The ways an operation ends before it is released. -/
def Closed (τ : List Observation) : Prop :=
  ∃ type, τ = [.dropped,.created type] ∨ (∃ body, τ = [.completed body,.created type]) ∨
    ∃ body connection, τ = [.answered connection,.completed body,.created type]

namespace Slot

/-- A live operation and what is held of it. -/
structure Live (slot : Slot) (op : AdvancedOperation) : Prop where
  memory : slot.memory = some op
  timer : slot.timer = op.timeoutSource
  networkRequest : slot.networkRequest = op.networkRequestPending
  history : slot.history = [.created op.type]
  modes : op.type = .modes → op.timeoutSource = true ∧ slot.call = false
  bands : op.type = .bands → slot.call = true ∧ op.networkRequestPending = false

/-- A freed operation that nobody holds any more. -/
structure Gone (slot : Slot) : Prop where
  memory : slot.memory = none
  timer : slot.timer = false
  networkRequest : slot.networkRequest = false
  call : slot.call = false
  history : ∃ τ, slot.history = .released::τ ∧ Closed τ

/-- An operation about to be freed. -/
structure Closing (slot : Slot) (op : AdvancedOperation) : Prop where
  memory : slot.memory = some op
  timer : slot.timer = op.timeoutSource
  networkRequest : slot.networkRequest = op.networkRequestPending
  call : slot.call = false
  history : Closed slot.history

end Slot

/-- Where an operation is in its life. -/
inductive Life (w : World) (ref : OperationRef) : Prop
  | unborn (hnext : w.next ≤ ref) (hslot : w.slots ref = Slot.empty)
      (htable : ref ∉ w.advancedOperations)
  | live {op : AdvancedOperation} (hnext : ref < w.next) (hslot : (w.slots ref).Live op)
      (htable : ref ∈ w.advancedOperations)
  | gone (hnext : ref < w.next) (hslot : (w.slots ref).Gone)
      (htable : ref ∉ w.advancedOperations)

def LiveModes (w : World) (ref : OperationRef) : Prop :=
  ∃ op, (w.slots ref).memory = some op ∧ op.type = .modes

/-- The lives of all operations while requests are served or being cancelled. -/
structure Lives (w : World) : Prop where
  life : ∀ ref, Life w ref
  nodup : w.advancedOperations.Nodup
  context : ∀ ref, LiveModes w ref → w.ubus.contextInitialized = true

structure Inv (w : World) : Prop extends Lives w where
  ubus : UbusOk w.ubus
  serving : ∀ ref, LiveModes w ref → w.ubus.connected = true
  blocked : ∀ ref, w.blocked = some ref → ∃ op, (w.slots ref).memory = some op ∧
    op.type = .modes ∧ op.networkRequestPending = false

variable {w w' : World} {ref other : OperationRef} {op : AdvancedOperation}

theorem Life.frame (h : Life w ref) (hslot : w'.slots ref = w.slots ref)
    (hnext : w'.next = w.next)
    (htable : ref ∈ w'.advancedOperations ↔ ref ∈ w.advancedOperations) : Life w' ref := by
  cases h with
  | unborn h₁ h₂ h₃ => exact .unborn (hnext ▸ h₁) (hslot.trans h₂) fun h => h₃ (htable.mp h)
  | live h₁ h₂ h₃ => exact .live (hnext ▸ h₁) (hslot ▸ h₂) (htable.mpr h₃)
  | gone h₁ h₂ h₃ => exact .gone (hnext ▸ h₁) (hslot ▸ h₂) fun h => h₃ (htable.mp h)

theorem Life.live_of_memory (h : Life w ref) (hm : (w.slots ref).memory = some op) :
    ref < w.next ∧ (w.slots ref).Live op ∧ ref ∈ w.advancedOperations := by
  cases h with
  | unborn _ hslot _ => rw [hslot] at hm; cases hm
  | live hnext hslot htable =>
    have h₁ := hslot.memory.symm.trans hm
    cases h₁
    exact ⟨hnext,hslot,htable⟩
  | gone _ hslot _ => rw [hslot.memory] at hm; cases hm

/-- A step that leaves all but one operation alone. -/
theorem Lives.single (h : Lives w) (hnext : w'.next = w.next)
    (hslots : ∀ other, other ≠ ref → w'.slots other = w.slots other)
    (htable : ∀ other, other ≠ ref →
      (other ∈ w'.advancedOperations ↔ other ∈ w.advancedOperations))
    (hnodup : w'.advancedOperations.Nodup) (hlife : Life w' ref)
    (hcontext : w'.ubus.contextInitialized = w.ubus.contextInitialized)
    (hmodes : LiveModes w' ref → w.ubus.contextInitialized = true) : Lives w' where
  life other := by
    by_cases ho : other = ref
    · exact ho ▸ hlife
    · exact (h.life other).frame (hslots other ho) hnext (htable other ho)
  nodup := hnodup
  context other ho := by
    rw [hcontext]
    by_cases he : other = ref
    · exact hmodes (he ▸ ho)
    · obtain ⟨op,h₁,h₂⟩ := ho
      exact h.context other ⟨op,hslots other he ▸ h₁,h₂⟩

/-- What freeing leaves of the other operations and of the connection. -/
structure Frees (w w' : World) (ref : OperationRef) : Prop where
  next : w'.next = w.next
  ubus : w'.ubus = w.ubus
  blocked : w'.blocked = w.blocked
  slots : ∀ other, other ≠ ref → w'.slots other = w.slots other
  table : w'.advancedOperations = w.advancedOperations.filter (· != ref)
  gone : (w'.slots ref).Gone

theorem Frees.lives (h : Frees w w' ref) (hw : Lives w) (hnext : ref < w.next) : Lives w' := by
  refine hw.single h.next h.slots (fun other ho => by simp [h.table,ho]) ?_ ?_
    (by rw [h.ubus]) ?_
  · rw [h.table]
    exact hw.nodup.filter _
  · exact .gone (h.next ▸ hnext) h.gone (by simp [h.table])
  · rintro ⟨op,hm,-⟩
    rw [h.gone.memory] at hm
    cases hm

/-- Freeing an operation that is closing, with a context to abort its request on. -/
theorem advancedOperationFree_frees (op : AdvancedOperation) (h : (w.slots ref).Closing op)
    (hcontext : op.networkRequestPending = true → w.ubus.contextInitialized = true) :
    Frees w (advancedOperationFree w ref) ref := by
  rw [advancedOperationFree,withOperation_some _ _ _ h.memory]
  refine ⟨rfl,rfl,rfl,fun other ho => by simp [updateSlot_other _ _ _ ho],rfl,?_⟩
  refine ⟨by simp,by simp [h.timer],?_,by simp [h.call],?_⟩
  · cases hp : op.networkRequestPending with
    | false => simp [h.networkRequest,hp]
    | true => simp [hcontext hp]
  · exact ⟨_,by simp,h.history⟩

theorem Frees.trans_updateSlot {f : Slot → Slot} (h : Frees (w.updateSlot ref f) w' ref) :
    Frees w w' ref :=
  ⟨h.next,h.ubus,h.blocked,
    fun other ho => (h.slots other ho).trans (updateSlot_other _ _ _ ho),h.table,h.gone⟩

/-- An operation that may be completed: live, or closing over to its one completion. -/
structure Slot.Open (slot : Slot) (op : AdvancedOperation) : Prop where
  memory : slot.memory = some op
  timer : slot.timer = op.timeoutSource
  networkRequest : slot.networkRequest = op.networkRequestPending
  call : slot.call = false
  history : slot.history = [.created op.type]

theorem advancedOperationCompleteBuffer_frees {body : Reply} (h : (w.slots ref).Open op)
    (hcontext : op.networkRequestPending = true → w.ubus.contextInitialized = true) :
    Frees w (advancedOperationCompleteBuffer w ref body) ref := by
  rw [advancedOperationCompleteBuffer,withOperation_some _ _ _ h.memory]
  refine Frees.trans_updateSlot (advancedOperationFree_frees {op with deferred := false}
    ⟨by simp,by simp [h.timer],by simp [h.networkRequest],by simp [h.call],?_⟩ hcontext)
  rw [updateSlot_self]
  refine ⟨op.type,?_⟩
  dsimp only
  split
  · exact .inr (.inr ⟨body,w.ubus.connection,by simp [h.history]⟩)
  · exact .inr (.inl ⟨body,by simp [h.history]⟩)

theorem advancedOperationCompleteSuccess_frees (op : AdvancedOperation)
    (h : (w.slots ref).Open op)
    (hcontext : op.networkRequestPending = true → w.ubus.contextInitialized = true) :
    Frees w (advancedOperationCompleteSuccess w ref) ref := by
  rw [advancedOperationCompleteSuccess,withOperation_some _ _ _ h.memory]
  exact advancedOperationCompleteBuffer_frees h hcontext

end Advanced
end L850GL
