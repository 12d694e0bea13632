import L850GL.Mutation.Marks
import L850GL.Reads.Discipline
import L850GL.Reads.Spacing

/-! The records under a cell scan or a carrier query. -/
namespace L850GL
namespace Reads

open Mutation World

variable {w w' w'' : World} {ref : OperationRef} {op : ReadOperation} {kind : ReadKind}
  {modem : ModemRef} {mutations : List CString} {body : Reply}

/-- A live operation of a kind, on a record. -/
def Uses (w : World) (kind : ReadKind) (modem : ModemRef) (ref : OperationRef) : Prop :=
  ref ∈ w.operations kind ∧ (w.slots ref).memory.map (·.modem) = some modem

theorem mem_modemsUnder : modem ∈ w.modemsUnder kind ↔ ∃ ref,Uses w kind modem ref := by
  simp [modemsUnder,Uses]

/-- No operation is new, and none has another record. -/
def Shrinks (w w' : World) : Prop :=
  ∀ kind modem ref,Uses w' kind modem ref → Uses w kind modem ref

/-- An operation is made on a record that nothing else uses, the lock state apart. -/
structure Begins (mutations : List CString) (w w' : World) (kind : ReadKind) (modem : ModemRef) :
    Prop where
  spare : kind ≠ .status → Spare (w.tables mutations) (w.bridge.modems modem) modem
  uses : ∀ kind' modem' ref,Uses w' kind' modem' ref →
    Uses w kind' modem' ref ∨ kind' = kind ∧ modem' = modem ∧ ref = w.next

/-- What an event does to the records under a read. -/
inductive Moved (mutations : List CString) (w w' : World) : Prop
  | shrinks (h : Shrinks w w')
  | begins {kind : ReadKind} {modem : ModemRef} (h : Begins mutations w w' kind modem)

theorem Shrinks.refl (w : World) : Shrinks w w := fun _ _ _ h => h

/-- The tables stay, and every block keeps its record. -/
theorem Shrinks.of_slots (hoperations : w'.operations = w.operations)
    (hslots : ∀ ref,(w'.slots ref).memory.map (·.modem) = (w.slots ref).memory.map (·.modem)) :
    Shrinks w w' := by
  intro kind modem ref huses
  rw [Uses,hoperations,hslots] at huses
  exact huses

theorem Shrinks.updateSlot {f : Slot → Slot} (h : (f (w.slots ref)).memory.map (·.modem) =
    (w.slots ref).memory.map (·.modem)) : Shrinks w (w.updateSlot ref f) := by
  refine .of_slots rfl fun other => ?_
  by_cases ho : other = ref
  · rw [ho,updateSlot_self,h]
  · rw [updateSlot_other _ _ _ ho]

theorem Ends.shrinks (h : Ends kind w w' ref op body) : Shrinks w w' := by
  intro kind' modem other huses
  obtain ⟨htable,hmemory⟩ := huses
  rw [h.slots] at hmemory
  have hother : other ≠ ref := by
    rintro rfl
    simp [Slot.freed] at hmemory
  rw [Function.update_of_ne hother] at hmemory
  refine ⟨?_,hmemory⟩
  rw [h.operations] at htable
  by_cases hk : kind' = kind
  · rw [hk,Function.update_self,List.mem_filter] at htable
    rw [hk]
    exact htable.1
  · rwa [Function.update_of_ne hk] at htable

theorem Tidy.not_mem (h : Tidy w) (kind : ReadKind) : w.next ∉ w.operations kind := by
  rcases h.slots w.next with ⟨-,hnot⟩ | ⟨op,kind',hwaits,-⟩
  · exact hnot kind
  · exact absurd (h.fresh w.next (Nat.le_refl _)).1 hwaits.not_idle

theorem readOperationNew_uses (h : Tidy w) (kind : ReadKind) (callback : ReadCallback)
    (modem : ModemRef) (kind' : ReadKind) (modem' : ModemRef) (ref : OperationRef)
    (huses : Uses (readOperationNew kind callback w modem) kind' modem' ref) :
    Uses w kind' modem' ref ∨ kind' = kind ∧ modem' = modem ∧ ref = w.next := by
  obtain ⟨htable,hmemory⟩ := huses
  by_cases hr : ref = w.next
  · subst hr
    have hkind : kind' = kind := by
      by_contra hk
      simp only [readOperationNew,World.observe,Function.update_of_ne hk] at htable
      exact h.not_mem kind' htable
    refine .inr ⟨hkind,?_,rfl⟩
    simpa [readOperationNew,World.observe,World.updateSlot,newOperation,eq_comm] using hmemory
  · left
    constructor
    · by_cases hk : kind' = kind
      · simpa [readOperationNew,World.observe,World.updateSlot,hk,hr] using htable
      · simpa [readOperationNew,World.observe,World.updateSlot,hk] using htable
    · simpa [readOperationNew,World.observe,World.updateSlot,hr] using hmemory

theorem refuse_moved (code : String) (retryable : Bool) (retryAfterMs : Nat)
    (modem : Option ModemRef) :
    Moved mutations w (w.refuse modem code retryable retryAfterMs) := .shrinks (.refl w)

theorem requestedRead_moved {request : Option ReadRequest} {serve : ModemRef → World}
    (h : ∀ modem,((w.bridge.modems modem).mutationBusy = false →
      Spare (w.tables mutations) (w.bridge.modems modem) modem) →
        Moved mutations w (serve modem)) :
    Moved mutations w (requestedRead w mutations request serve) := by
  unfold requestedRead
  split
  · exact refuse_moved _ _ _ _
  · split
    · exact refuse_moved _ _ _ _
    · rename_i hok
      exact h _ (l850RequestedModem_spare hok)

theorem methodCellLockStatus_moved (h : Tidy w) (request : Option ReadRequest) :
    Moved mutations w (methodCellLockStatus w mutations request) := by
  refine requestedRead_moved fun modem _ => ?_
  split
  · exact refuse_moved _ _ _ _
  · exact .begins ⟨fun hkind => absurd rfl hkind,readOperationNew_uses h .status _ modem⟩

theorem methodCellScan_moved (h : Tidy w) (request : Option ReadRequest) :
    Moved mutations w (methodCellScan w mutations request) := by
  refine requestedRead_moved fun modem hspare => ?_
  dsimp only
  split
  · exact refuse_moved _ _ _ _
  rename_i hidle
  split
  · exact refuse_moved _ _ _ _
  split
  · exact refuse_moved _ _ _ _
  split
  · exact refuse_moved _ _ _ _
  · exact .begins ⟨fun _ => hspare (by simpa using hidle),readOperationNew_uses h .scan _ modem⟩

theorem methodGetCarrierInfo_moved (h : Tidy w) (request : Option ReadRequest) :
    Moved mutations w (methodGetCarrierInfo w mutations request) := by
  refine requestedRead_moved fun modem hspare => ?_
  dsimp only
  split
  · exact refuse_moved _ _ _ _
  rename_i hidle
  split
  · exact refuse_moved _ _ _ _
  split
  · exact refuse_moved _ _ _ _
  · refine .begins ⟨fun _ => hspare ?_,readOperationNew_uses h .carrier _ modem⟩
    simp only [Bool.or_eq_true,not_or,Bool.not_eq_true] at hidle
    exact hidle.1.1

theorem readReady_shrinks (w : World) (mutations : List CString) (ref : OperationRef)
    (callback : ReadCallback) (source : Nat) (result : ReadResult) :
    Shrinks w (readReady w mutations ref callback source result) := by
  cases hmemory : (w.slots ref).memory with
  | none =>
    rw [readReady_fault hmemory]
    exact .refl w
  | some op =>
    rcases readReady_effect hmemory with ⟨body,hends⟩ | ⟨-,hfall⟩
    · exact hends.shrinks
    · rw [hfall]
      exact .updateSlot (by rw [hmemory]; rfl)

theorem readTimeout_shrinks (w : World) (ref : OperationRef) : Shrinks w (readTimeout w ref) := by
  have htimer : Shrinks w (w.updateSlot ref fun slot => {slot with timer := false}) :=
    .updateSlot rfl
  unfold readTimeout
  dsimp only
  cases hmemory : (w.slots ref).memory with
  | none =>
    rw [withOperation,updateSlot_self,hmemory]
    exact htimer
  | some op =>
    have hmemory' : ((w.updateSlot ref fun slot => {slot with timer := false}).slots ref).memory =
        some op := by
      rw [updateSlot_self]
      exact hmemory
    rw [withOperation_some _ _ _ hmemory']
    have hcancelled : Shrinks (w.updateSlot ref fun slot => {slot with timer := false})
        ((w.updateSlot ref fun slot => {slot with timer := false}).updateSlot ref fun slot =>
          {slot with
            memory := some {op with timeoutSource := false,timedOut := true},cancelled := true}) :=
      .updateSlot (by rw [updateSlot_self,hmemory]; rfl)
    exact fun kind modem other huses => htimer kind modem other (hcancelled kind modem other huses)

theorem readParentCancelled_shrinks (w : World) (ref : OperationRef) :
    Shrinks w (readParentCancelled w ref) := by
  unfold readParentCancelled withOperation
  split
  · exact .refl w
  · exact .updateSlot rfl

theorem cutOff_modem (slot : Slot) :
    slot.cutOff.memory.map (·.modem) = slot.memory.map (·.modem) := by
  rw [Slot.cutOff,Option.map_map]
  rfl

theorem cancelReadOperations_shrinks (kind : ReadKind) (w : World) :
    Shrinks w (cancelReadOperations kind w true) := by
  refine .of_slots rfl fun ref => ?_
  rw [cancelReadOperations_slots]
  split
  · exact cutOff_modem _
  · rfl

theorem cancelOperations_shrinks (w : World) : Shrinks w (cancelOperations w) :=
  fun _ _ _ h => cancelReadOperations_shrinks .scan w _ _ _
    (cancelReadOperations_shrinks .status _ _ _ _ (cancelReadOperations_shrinks .carrier _ _ _ _ h))

/-- The devices under a lock operation that an event looks at. -/
def Event.withMutations (mutations : List CString) : Event → Event
  | .cellLockStatus _ request bridge => .cellLockStatus mutations request bridge
  | .cellScan _ request bridge => .cellScan mutations request bridge
  | .getCarrierInfo _ request bridge => .getCarrierInfo mutations request bridge
  | .finish ref result _ bridge => .finish ref result mutations bridge
  | event => event

/-- An event on the records and with the devices that its world has already. -/
theorem step_moved {event : Event} (bridge : Bridge) (h : Tidy w)
    (hs : step (w.refresh bridge) ((event.withMutations mutations).withBridge bridge) = some w') :
    Moved mutations (w.refresh bridge) w' := by
  have ht : Tidy (w.refresh bridge) := h.refresh bridge
  cases event with
  | cellLockStatus _ request _ =>
    simp only [Event.withMutations,Event.withBridge,step,Option.ite_none_left_eq_some,
      Option.some.injEq] at hs
    obtain ⟨-,rfl⟩ := hs
    exact methodCellLockStatus_moved ht request
  | cellScan _ request _ =>
    simp only [Event.withMutations,Event.withBridge,step,Option.ite_none_left_eq_some,
      Option.some.injEq] at hs
    obtain ⟨-,rfl⟩ := hs
    exact methodCellScan_moved ht request
  | getCarrierInfo _ request _ =>
    simp only [Event.withMutations,Event.withBridge,step,Option.ite_none_left_eq_some,
      Option.some.injEq] at hs
    obtain ⟨-,rfl⟩ := hs
    exact methodGetCarrierInfo_moved ht request
  | finish ref result _ _ =>
    simp only [Event.withMutations,Event.withBridge,step] at hs
    split at hs
    · cases hs
    · rename_i callback source hcall
      obtain rfl := Option.some.inj hs
      have hcalled : Shrinks (w.refresh bridge) ((w.refresh bridge).updateSlot ref fun slot =>
          {slot with call := none}) := .updateSlot rfl
      exact .shrinks fun kind modem ref huses => hcalled kind modem ref
        (readReady_shrinks _ _ _ _ _ _ kind modem ref huses)
  | timeout ref _ =>
    simp only [Event.withMutations,Event.withBridge,step,Option.ite_none_left_eq_some,
      Option.some.injEq] at hs
    obtain ⟨-,rfl⟩ := hs
    exact .shrinks (readTimeout_shrinks _ ref)
  | modemRemoved ref _ =>
    simp only [Event.withMutations,Event.withBridge,step,Option.ite_none_left_eq_some,
      Option.some.injEq] at hs
    obtain ⟨-,rfl⟩ := hs
    exact .shrinks (readParentCancelled_shrinks _ ref)
  | connectionLost _ =>
    obtain rfl := Option.some.inj hs
    unfold connectionLost
    split
    · exact .shrinks (.refl _)
    · exact .shrinks (cancelOperations_shrinks _)
  | reconnected _ =>
    simp only [Event.withMutations,Event.withBridge,step,Option.ite_none_left_eq_some,
      Option.some.injEq] at hs
    obtain ⟨-,rfl⟩ := hs
    exact .shrinks (.refl _)
  | shutdown _ =>
    simp only [Event.withMutations,Event.withBridge,step,Option.ite_none_left_eq_some,
      Option.some.injEq] at hs
    obtain ⟨-,rfl⟩ := hs
    exact .shrinks (.refl _)
  | stop _ =>
    obtain rfl := Option.some.inj hs
    unfold l850glUbusStop
    split
    · exact .shrinks (.refl _)
    · exact .shrinks fun kind modem ref huses => cancelOperations_shrinks _ kind modem ref huses

end Reads
end L850GL
