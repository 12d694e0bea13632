import L850GL.Advanced.Completion

/-! Exactly-once completion of band and mode operations, and the nesting that breaks it. -/
namespace L850GL
namespace Advanced

open Mutation Network World

namespace Observation

def isReleased : Observation → Bool
  | .released => true
  | _ => false

def isAnswered : Observation → Bool
  | .answered _ => true
  | _ => false

/-- The end of an operation: a completed request or the walk over the table. -/
def isEnd : Observation → Bool
  | .completed _ | .dropped => true
  | _ => false

def isFault : Observation → Bool
  | .fault => true
  | _ => false

end Observation

open Observation

/-- An operation ends and is released exactly once, is answered at most once, and is never used
after it was freed. -/
structure Orderly (slot : Slot) : Prop where
  faultless : slot.history.countP isFault = 0
  releasedOnce : slot.history.countP isReleased ≤ 1
  endsOnce : slot.history.countP isEnd = slot.history.countP isReleased
  answeredOnce : slot.history.countP isAnswered ≤ 1
  freed : slot.memory = none ↔ slot.history = [] ∨ slot.history.countP isReleased = 1
  /-- nothing can call back into a freed operation -/
  forgotten : slot.memory = none →
    slot.timer = false ∧ slot.networkRequest = false ∧ slot.call = false
  /-- a live mode operation has its timeout armed -/
  awaited : ∀ op, slot.memory = some op → op.type = .modes → slot.timer = true

theorem Life.orderly {w : World} {ref : OperationRef} (h : Life w ref) :
    Orderly (w.slots ref) := by
  cases h with
  | unborn _ hslot _ =>
    rw [hslot]
    exact ⟨rfl,by simp [Slot.empty],rfl,by simp [Slot.empty],by simp [Slot.empty],
      fun _ => ⟨rfl,rfl,rfl⟩,fun op hm => by cases hm⟩
  | @live op _ hl _ =>
    refine ⟨?_,?_,?_,?_,?_,?_,?_⟩
    · simp [hl.history,isFault]
    · simp [hl.history,isReleased]
    · simp [hl.history,isReleased,isEnd]
    · simp [hl.history,isAnswered]
    · simp [hl.history,hl.memory,isReleased]
    · intro hm
      rw [hl.memory] at hm
      cases hm
    · intro op' hm ht
      rw [hl.memory] at hm
      cases hm
      rw [hl.timer]
      exact (hl.modes ht).1
  | gone _ hg _ =>
    obtain ⟨τ,hτ,type,hclosed⟩ := hg.history
    have hmemory : ∀ op, (w.slots ref).memory = some op → (w.slots ref).timer = true := by
      intro op hm
      rw [hg.memory] at hm
      cases hm
    rcases hclosed with rfl | ⟨body,rfl⟩ | ⟨body,connection,rfl⟩
    all_goals
      exact ⟨by rw [hτ]; rfl,by rw [hτ]; exact Nat.le_refl 1,by rw [hτ]; rfl,
        by rw [hτ]; simp [List.countP_cons,isAnswered],
        by rw [hτ]; simp [hg.memory,List.countP_cons,isReleased],
        fun _ => ⟨hg.timer,hg.networkRequest,hg.call⟩,fun op hm _ => hmemory op hm⟩

/-- What holds of every operation in a state: its history so far, and that the timeout of a
live mode operation releases it. -/
def ExactlyOnce (w : World) : Prop :=
  ∀ ref, Orderly (w.slots ref) ∧
    ∀ op, (w.slots ref).memory = some op → op.type = .modes → w.blocked = none →
      ∀ bridge, ∃ w', step w (.timeout ref bridge) = some w' ∧ (w'.slots ref).memory = none ∧
        Orderly (w'.slots ref)

theorem Inv.exactlyOnce {w : World} (h : Inv w) : ExactlyOnce w := by
  intro ref
  refine ⟨(h.life ref).orderly,fun op hm ht hb bridge => ?_⟩
  have hl := ((h.life ref).live_of_memory hm).2.1
  have hfrees := advancedOperationTimeout_frees (h.refresh bridge).toLives hl ht
  refine ⟨_,?_,hfrees.gone.memory,?_⟩
  · simp [step,hb,hl.timer,(hl.modes ht).1]
  · exact ((advancedOperationTimeout_inv (h.refresh bridge) hb
      (by simpa [World.refresh,hl.timer] using (hl.modes ht).1)).life ref).orderly

/-- In a run in which the connection is not lost inside a lookup, every operation ends once. -/
theorem setModes_exactlyOnce {w : World}
    (h : advancedSystem.ReachableUnder LookupUndisturbed w) : ExactlyOnce w :=
  (reachableUnder_inv h).exactlyOnce

def sampleWorld : World where
  slots := fun _ => Slot.empty
  next := 0
  advancedOperations := []
  blocked := none
  ubus := sampleUbus
  bridge := sampleBridge false

def sampleModesRequest : SetModesRequest where
  modemId := "l850gl-00112233445566778899aabbccddeeff".toList
  generation := 1
  allowed := "4g".toList
  preferred := "none".toList
  confirm := true

/-- The modes are written, the network object is found and its reload answers. -/
def sampleReload : List Event :=
  [.setModes ⟨[],[],[]⟩ (some sampleModesRequest) .ok (sampleBridge false),
   .lookedUp (some 7) true,.reloadReply 0 true (sampleBridge false)]

theorem sampleReload_history : (advancedSystem.run sampleWorld sampleReload).map
    (fun w => (w.slots 0).history.map isReleased) = some [true,false,false,false] := by
  decide +kernel

/-- The rule at a run that reloads the network. -/
theorem setModes_exactlyOnce_sample : ∃ w, advancedSystem.run sampleWorld sampleReload = some w ∧
    ExactlyOnce w := by
  obtain ⟨w,hw,-⟩ := Option.map_eq_some_iff.mp sampleReload_history
  have hstart : advancedSystem.start sampleWorld := ⟨rfl,rfl,rfl,rfl,fun _ => ⟨rfl,rfl⟩⟩
  refine ⟨w,hw,setModes_exactlyOnce (System.ReachableUnder.of_run (.start hstart) ?_ hw)⟩
  intro w e he hb bridge
  simp only [sampleReload,List.mem_cons,List.not_mem_nil,or_false] at he
  rcases he with rfl | rfl | rfl
  all_goals simp

theorem setModesLookedUp_freed {w : World} {ref : OperationRef}
    (hm : (w.slots ref).memory = none) (lookup : Option Nat) (invoked : Bool) :
    .fault ∈ ((setModesLookedUp w ref lookup invoked).slots ref).history := by
  cases lookup with
  | none =>
    rw [setModesLookedUp,advancedOperationCompleteSuccess,
      withOperation_none {w with blocked := none} ref _ hm]
    simp [observe]
  | some id =>
    rw [setModesLookedUp,withOperation_none {w with blocked := none} ref _ hm]
    simp [observe]

/-- A connection loss inside the lookup frees the operation that the method then uses. -/
theorem nestedLoss_fault {w : World} {ref : OperationRef} (h : Inv w)
    (hb : w.blocked = some ref) (bridge : Bridge) (lookup : Option Nat) (invoked : Bool) :
    ∃ w' w'', step w (.connectionLost bridge) = some w' ∧
      step w' (.lookedUp lookup invoked) = some w'' ∧ .fault ∈ (w''.slots ref).history := by
  obtain ⟨op,hm,ht,-⟩ := h.blocked ref hb
  have hstop := (h.ubus (h.serving ref ⟨op,hm,ht⟩)).2
  have hw := h.toLives.withUbus {w.ubus with connected := false} (w.bridge.refresh bridge)
    w.blocked fun ⟨other,hl⟩ => h.context other hl
  obtain ⟨-,-,h₁,-,h₂⟩ := cancelAdvancedOperations_spec hw
  have hlost : connectionLost (w.refresh bridge) = cancelAdvancedOperations {w with
      ubus := {w.ubus with connected := false},bridge := w.bridge.refresh bridge} true := by
    simp [connectionLost,World.refresh,hstop]
  have hblocked : (connectionLost (w.refresh bridge)).blocked = some ref := by
    rw [hlost]
    exact h₁.trans hb
  have hfreed : ((connectionLost (w.refresh bridge)).slots ref).memory = none := by
    rw [hlost]
    exact (h₂ ref ⟨op,hm,ht⟩).memory
  exact ⟨_,_,rfl,by simp only [step,hblocked],setModesLookedUp_freed hfreed lookup invoked⟩

/-- A connection lost while the network object is looked up. -/
def sampleNestedLoss : List Event :=
  [.setModes ⟨[],[],[]⟩ (some sampleModesRequest) .ok (sampleBridge false),
   .connectionLost (sampleBridge false),.lookedUp none false]

theorem sampleNestedLoss_fault : (advancedSystem.run sampleWorld sampleNestedLoss).map
    (fun w => (w.slots 0).history.countP isFault) = some 1 := by
  decide +kernel

/-- The method completes the operation that the nested loss has freed. -/
theorem setModes_used_after_release :
    ¬∀ w, advancedSystem.Reachable w → ExactlyOnce w := by
  intro h
  obtain ⟨w,hw,hfault⟩ := Option.map_eq_some_iff.mp sampleNestedLoss_fault
  have hstart : advancedSystem.start sampleWorld := ⟨rfl,rfl,rfl,rfl,fun _ => ⟨rfl,rfl⟩⟩
  have h₁ := (h w (System.reachable_run (.start hstart) hw) 0).1.faultless
  rw [hfault] at h₁
  cases h₁

end Advanced
end L850GL
