import L850GL.Advanced.System

/-! What the band and mode changes do to the time until which a record is left alone. -/
namespace L850GL
namespace Advanced

open Mutation Network World

variable {w w' w'' : World} {ref : OperationRef} {op : AdvancedOperation} {body : Reply}

/-- The cooldown that an operation leaves on its record. -/
def Cooled (bridge : Bridge) (op : AdvancedOperation) : Prop :=
  bridge.now+(op.cooldownSeconds : Int)*Bridge.usec ≤
    (bridge.modems op.modem).advancedCooldownUntil

/-- An operation goes on, or its record has its cooldown. -/
inductive Fate (bridge : Bridge) : Option AdvancedOperation → Option AdvancedOperation → Prop
  | none : Fate bridge none none
  | live {op op' : AdvancedOperation} (hmodem : op'.modem = op.modem)
      (hseconds : op'.cooldownSeconds = op.cooldownSeconds) : Fate bridge (some op) (some op')
  | freed {op : AdvancedOperation} (h : Cooled bridge op) : Fate bridge (some op) none

/-- Whatever is freed leaves its cooldown. -/
structure Cools (w w' : World) : Prop extends Bridge.Extends w.bridge w'.bridge where
  next : w'.next = w.next
  fate : ∀ ref,Fate w'.bridge (w.slots ref).memory (w'.slots ref).memory

theorem Cooled.extend {bridge bridge' : Bridge} (hop : Cooled bridge op)
    (h : Bridge.Extends bridge bridge') : Cooled bridge' op := by
  rw [Cooled,h.now]
  exact Int.le_trans hop (h.cooldown op.modem)

theorem Fate.refl (bridge : Bridge) (memory : Option AdvancedOperation) :
    Fate bridge memory memory := by
  cases memory with
  | none => exact .none
  | some op => exact .live rfl rfl

theorem Fate.trans {bridge bridge' : Bridge} {memory memory' memory'' : Option AdvancedOperation}
    (h : Fate bridge memory memory') (h' : Fate bridge' memory' memory'')
    (hbridge : Bridge.Extends bridge bridge') : Fate bridge' memory memory'' := by
  cases h with
  | none => exact h'
  | live hmodem hseconds =>
    cases h' with
    | live hmodem' hseconds' => exact .live (hmodem'.trans hmodem) (hseconds'.trans hseconds)
    | freed hcooled =>
      rw [Cooled,hseconds,hmodem] at hcooled
      exact .freed hcooled
  | freed hcooled =>
    cases h' with
    | none => exact .freed (hcooled.extend hbridge)

theorem Cools.refl (w : World) : Cools w w := ⟨.refl w.bridge,rfl,fun _ => .refl w.bridge _⟩

theorem Cools.trans (h : Cools w w') (h' : Cools w' w'') : Cools w w'' :=
  ⟨h.toExtends.trans h'.toExtends,h'.next.trans h.next,
    fun ref => (h.fate ref).trans (h'.fate ref) h'.toExtends⟩

/-- A slot is written, and its operation keeps its record. -/
theorem Cools.updateSlot {f : Slot → Slot}
    (h : Fate w.bridge (w.slots ref).memory (f (w.slots ref)).memory) :
    Cools w (w.updateSlot ref f) := by
  refine ⟨.refl w.bridge,rfl,fun other => ?_⟩
  by_cases ho : other = ref
  · subst ho
    rwa [updateSlot_self]
  · rw [updateSlot_other _ _ _ ho]
    exact .refl w.bridge _

theorem Cools.withOperation {use : AdvancedOperation → World}
    (h : ∀ op,(w.slots ref).memory = some op → Cools w (use op)) :
    Cools w (w.withOperation ref use) := by
  cases hmemory : (w.slots ref).memory with
  | none =>
    rw [withOperation_none _ _ _ hmemory]
    exact Cools.updateSlot (.refl w.bridge _)
  | some op =>
    rw [withOperation_some _ _ _ hmemory]
    exact h op hmemory

/-- The operation is written back. -/
theorem Cools.updateMemory {f : Slot → Slot} (hmemory : (w.slots ref).memory = some op)
    (hf : (f (w.slots ref)).memory.map (fun op => (op.modem,op.cooldownSeconds)) =
      some (op.modem,op.cooldownSeconds)) : Cools w (w.updateSlot ref f) := by
  obtain ⟨op',hop',hkept⟩ := Option.map_eq_some_iff.mp hf
  rw [Prod.mk.injEq] at hkept
  exact Cools.updateSlot (by rw [hmemory,hop']; exact .live hkept.1 hkept.2)

theorem advancedOperationApplyCooldown_le (now : Int) (seconds : Nat) (modem : Modem) :
    modem.advancedCooldownUntil ≤
        (advancedOperationApplyCooldown now seconds modem).advancedCooldownUntil ∧
      now+(seconds : Int)*Bridge.usec ≤
        (advancedOperationApplyCooldown now seconds modem).advancedCooldownUntil :=
  ⟨Int.le_max_left _ _,Int.le_max_right _ _⟩

@[simp] theorem releaseModem_advancedCooldownUntil (ref : OperationRef) (modem : Modem) :
    (releaseModem ref modem).advancedCooldownUntil = modem.advancedCooldownUntil := by
  unfold releaseModem
  split
  · rfl
  · rfl

theorem advancedOperationFree_cools (w : World) (ref : OperationRef) :
    Cools w (advancedOperationFree w ref) := by
  refine Cools.withOperation fun op hmemory => ?_
  obtain ⟨hold,hcooled⟩ := advancedOperationApplyCooldown_le w.bridge.now op.cooldownSeconds
    (w.bridge.modems op.modem)
  refine ⟨Bridge.Extends.updateModem (by simpa using hold),rfl,fun other => ?_⟩
  by_cases ho : other = ref
  · subst ho
    rw [updateSlot_self,hmemory]
    refine .freed ?_
    rw [Cooled,updateSlot_bridge,Bridge.updateModem_self,releaseModem_advancedCooldownUntil]
    exact hcooled
  · rw [updateSlot_other _ _ _ ho]
    exact .refl _ _

theorem advancedOperationCompleteBuffer_cools (w : World) (ref : OperationRef) (body : Reply) :
    Cools w (advancedOperationCompleteBuffer w ref body) :=
  Cools.withOperation fun _ hmemory =>
    (Cools.updateMemory hmemory rfl).trans (advancedOperationFree_cools _ ref)

theorem advancedOperationCompleteSuccess_cools (w : World) (ref : OperationRef) :
    Cools w (advancedOperationCompleteSuccess w ref) :=
  Cools.withOperation fun _ _ => advancedOperationCompleteBuffer_cools w ref _

theorem cancelAdvancedOperation_cools (w : World) (transportLost : Bool) (ref : OperationRef) :
    Cools w (cancelAdvancedOperation transportLost w ref) := by
  refine Cools.withOperation fun op hmemory => ?_
  dsimp only
  split
  · exact (Cools.updateMemory hmemory rfl).trans (advancedOperationFree_cools _ ref)
  · exact Cools.updateMemory hmemory rfl

/-- The connection is lost for one operation after the other. -/
theorem cancelAdvancedOperations_cools (w : World) (transportLost : Bool) :
    Cools w (cancelAdvancedOperations w transportLost) := by
  have hwalk : ∀ (refs : List OperationRef) (w : World),
      Cools w (refs.foldl (cancelAdvancedOperation transportLost) w) := by
    intro refs
    induction refs with
    | nil => exact fun w => .refl w
    | cons ref refs ih =>
      exact fun w => (cancelAdvancedOperation_cools w transportLost ref).trans (ih _)
  exact hwalk w.advancedOperations w

/-- Neither the connection nor the lookup concerns a cooldown. -/
theorem Cools.withRest (h : Cools w w') (blocked : Option OperationRef) (ubus : Ubus) :
    Cools w {w' with blocked := blocked,ubus := ubus} := ⟨h.toExtends,h.next,h.fate⟩

theorem connectionLost_cools (w : World) : Cools w (connectionLost w) := by
  unfold connectionLost
  split
  · exact .refl w
  · exact ((Cools.refl w).withRest w.blocked _).trans (cancelAdvancedOperations_cools _ true)

theorem l850glUbusStop_cools (w : World) : Cools w (l850glUbusStop w) := by
  unfold l850glUbusStop
  split
  · exact .refl w
  · have hcancel := ((Cools.refl w).withRest w.blocked
      {w.ubus with connected := false,stopping := true}).trans
        (cancelAdvancedOperations_cools _ true)
    exact hcancel.withRest _ _

theorem advancedOperationTimeout_cools (w : World) (ref : OperationRef) :
    Cools w (advancedOperationTimeout w ref) := by
  have htimer : Cools w (w.updateSlot ref fun slot => {slot with timer := false}) :=
    Cools.updateSlot (.refl w.bridge _)
  refine htimer.trans (Cools.withOperation fun op hmemory => ?_)
  dsimp only
  split
  · exact (Cools.updateMemory hmemory rfl).trans (advancedOperationCompleteSuccess_cools _ ref)
  · exact Cools.updateMemory hmemory rfl

theorem advancedNetworkReloadComplete_cools (w : World) (ref : OperationRef) (succeeded : Bool) :
    Cools w (advancedNetworkReloadComplete w ref succeeded) := by
  have hrequest : Cools w (w.updateSlot ref fun slot => {slot with networkRequest := false}) :=
    Cools.updateSlot (.refl w.bridge _)
  refine hrequest.trans (Cools.withOperation fun op hmemory => ?_)
  dsimp only
  split
  · exact .refl _
  · exact (Cools.updateMemory hmemory rfl).trans (advancedOperationCompleteSuccess_cools _ ref)

theorem advancedOperationReady_cools (w : World) (ref : OperationRef) (source : Nat)
    (error : Option GError) : Cools w (advancedOperationReady w ref source error) := by
  have hcall : Cools w (w.updateSlot ref fun slot => {slot with call := false}) :=
    Cools.updateSlot (.refl w.bridge _)
  refine hcall.trans (Cools.withOperation fun op _ => ?_)
  split
  · exact advancedOperationCompleteBuffer_cools _ ref _
  · exact advancedOperationCompleteSuccess_cools _ ref

theorem setModesLookedUp_cools (w : World) (ref : OperationRef) (lookup : Option Nat)
    (invoked : Bool) : Cools w (setModesLookedUp w ref lookup invoked) := by
  have hserved := (Cools.refl w).withRest none w.ubus
  unfold setModesLookedUp
  split
  · exact hserved.trans (advancedOperationCompleteSuccess_cools _ ref)
  · refine hserved.trans (Cools.withOperation fun op hmemory => ?_)
    split
    · exact advancedOperationCompleteSuccess_cools _ ref
    · exact Cools.updateMemory hmemory rfl

/-- Both requests are admitted by `advanced_mutation_modem`. -/
theorem advancedMutationModem_ok {tables : Tables} {bridge : Bridge} {modemId : CString}
    {generation : Nat} {modem : ModemRef}
    (h : advancedMutationModem tables bridge modemId generation = .ok modem) :
    bridge.l850glBridgeFindModem modemId = some modem ∧ advancedRetryAfterMs bridge modem = 0 := by
  unfold advancedMutationModem at h
  split at h
  · cases h
  rename_i ref hfound
  dsimp only at h
  split at h
  · cases h
  split at h
  · cases h
  split at h
  · cases h
  split at h
  · cases h
  rename_i hready
  cases h
  refine ⟨hfound,?_⟩
  by_contra hwaiting
  exact hready (by simp [Nat.pos_of_ne_zero hwaiting])

/-- A new operation holds its record and leaves it alone from now on. -/
structure Admits (w w' : World) (modemId : CString) : Prop where
  admitted : ∃ modem,w.bridge.l850glBridgeFindModem modemId = some modem ∧
    advancedRetryAfterMs w.bridge modem = 0 ∧
    w.bridge.now+(advancedShortCooldownSeconds : Int)*Bridge.usec ≤
      (w'.bridge.modems modem).advancedCooldownUntil ∧
    ∀ op,(w'.slots w.next).memory = some op → op.modem = modem ∧
      op.cooldownSeconds = advancedShortCooldownSeconds
  bridge : Bridge.Extends w.bridge w'.bridge
  next : w'.next = w.next+1
  fate : ∀ ref,ref ≠ w.next → Fate w'.bridge (w.slots ref).memory (w'.slots ref).memory

theorem advancedOperationNew_memory (w : World) (modem : ModemRef) (type : AdvancedOperationType) :
    ((advancedOperationNew w modem type).slots w.next).memory =
      some (newOperation w modem type) := by
  simp [advancedOperationNew,World.updateSlot]

theorem advancedOperationNew_slot (w : World) (modem : ModemRef) (type : AdvancedOperationType)
    (h : ref ≠ w.next) : (advancedOperationNew w modem type).slots ref = w.slots ref := by
  simp [advancedOperationNew,World.updateSlot,h]

theorem advancedOperationNew_extends (w : World) (modem : ModemRef) (type : AdvancedOperationType) :
    Bridge.Extends w.bridge (advancedOperationNew w modem type).bridge :=
  Bridge.Extends.updateModem (advancedOperationApplyCooldown_le _ _ _).1

theorem Cools.admits {modemId : CString} {modem : ModemRef} (type : AdvancedOperationType)
    (h : Cools (advancedOperationNew w modem type) w')
    (hfound : w.bridge.l850glBridgeFindModem modemId = some modem)
    (hready : advancedRetryAfterMs w.bridge modem = 0) : Admits w w' modemId := by
  have hcooled : w.bridge.now+(advancedShortCooldownSeconds : Int)*Bridge.usec ≤
      ((advancedOperationNew w modem type).bridge.modems modem).advancedCooldownUntil := by
    rw [advancedOperationNew,Bridge.updateModem_self]
    exact (advancedOperationApplyCooldown_le _ _ _).2
  refine ⟨⟨modem,hfound,hready,Int.le_trans hcooled (h.cooldown modem),fun op hop => ?_⟩,
    (advancedOperationNew_extends w modem type).trans h.toExtends,h.next,fun ref hr => ?_⟩
  · have hfate := h.fate w.next
    rw [advancedOperationNew_memory,hop] at hfate
    cases hfate with
    | live hmodem hseconds => exact ⟨hmodem,hseconds⟩
  · rw [← advancedOperationNew_slot w modem type hr]
    exact h.fate ref

/-- A request leaves everything as it is, or is admitted. -/
def Requests (w w' : World) (modemId : Option CString) : Prop :=
  w' = w ∨ ∃ value,modemId = some value ∧ Admits w w' value

theorem methodSetBands_requests (w : World) (tables : Tables) (request : Option SetBandsRequest)
    (resolved : Except (String × Bool) (List Nat)) :
    Requests w (methodSetBands w tables request resolved).1 (request.map (·.modemId)) := by
  cases request with
  | none => exact .inl rfl
  | some request =>
    simp only [methodSetBands]
    split
    · exact .inl rfl
    split
    · exact .inl rfl
    rename_i modem hok
    obtain ⟨hfound,hready⟩ := advancedMutationModem_ok hok
    split
    · exact .inl rfl
    · refine .inr ⟨request.modemId,rfl,Cools.admits .bands ?_ hfound hready⟩
      exact Cools.withOperation fun op hmemory => Cools.updateMemory hmemory rfl

theorem methodSetModes_requests (w : World) (tables : Tables) (request : Option SetModesRequest)
    (update : NetworkModeUpdateResult) :
    Requests w (methodSetModes w tables request update).1 (request.map (·.modemId)) := by
  cases request with
  | none => exact .inl rfl
  | some request =>
    simp only [methodSetModes]
    split
    · exact .inl rfl
    split
    · exact .inl rfl
    split
    · exact .inl rfl
    rename_i modem hok
    obtain ⟨hfound,hready⟩ := advancedMutationModem_ok hok
    split
    · exact .inl rfl
    refine .inr ⟨request.modemId,rfl,?_⟩
    split
    · refine Cools.admits .modes ?_ hfound hready
      exact advancedOperationCompleteBuffer_cools _ _ _
    · refine Cools.admits .modes ?_ hfound hready
      exact (Cools.withOperation fun op hmemory => Cools.updateMemory hmemory rfl).withRest _ _

/-- The report that an event comes with; the end of the lookup has none. -/
def Event.withBridge (bridge : Bridge) : Event → Event
  | .setBands tables request resolved _ => .setBands tables request resolved bridge
  | .setModes tables request update _ => .setModes tables request update bridge
  | .lookedUp lookup invoked => .lookedUp lookup invoked
  | .reloadReply ref succeeded _ => .reloadReply ref succeeded bridge
  | .timeout ref _ => .timeout ref bridge
  | .bandsReady ref source error _ => .bandsReady ref source error bridge
  | .modemRemoved ref _ => .modemRemoved ref bridge
  | .connectionLost _ => .connectionLost bridge
  | .reconnected _ => .reconnected bridge
  | .shutdown _ => .shutdown bridge
  | .stop _ => .stop bridge

/-- The record that an event is a request for. -/
def Event.requested : Event → Option CString
  | .setBands _ request _ _ => request.map (·.modemId)
  | .setModes _ request _ _ => request.map (·.modemId)
  | _ => none

def Event.isRequest : Event → Bool
  | .setBands _ _ _ _ | .setModes _ _ _ _ => true
  | _ => false

theorem step_requests {event : Event} {bridge : Bridge}
    (hs : step (w.refresh bridge) (event.withBridge bridge) = some w')
    (hrequest : event.isRequest = true) : Requests (w.refresh bridge) w' event.requested := by
  cases event with
  | setBands tables request resolved _ =>
    simp only [Event.withBridge,step,Option.ite_none_left_eq_some,Option.some.injEq] at hs
    obtain ⟨-,rfl⟩ := hs
    exact methodSetBands_requests _ tables request resolved
  | setModes tables request update _ =>
    simp only [Event.withBridge,step,Option.ite_none_left_eq_some,Option.some.injEq] at hs
    obtain ⟨-,rfl⟩ := hs
    exact methodSetModes_requests _ tables request update
  | _ => cases hrequest

/-- An event at the time and on the records that its world has already. -/
theorem step_cools {event : Event} {bridge : Bridge}
    (hs : step (w.refresh bridge) (event.withBridge bridge) = some w') :
    Cools (w.refresh bridge) w' ∨
      ∃ modemId,event.requested = some modemId ∧ Admits (w.refresh bridge) w' modemId := by
  have hrequests : event.isRequest = true → Cools (w.refresh bridge) w' ∨
      ∃ modemId,event.requested = some modemId ∧ Admits (w.refresh bridge) w' modemId := by
    intro hrequest
    rcases step_requests hs hrequest with rfl | h
    · exact .inl (.refl _)
    · exact .inr h
  cases event with
  | setBands tables request resolved _ => exact hrequests rfl
  | setModes tables request update _ => exact hrequests rfl
  | lookedUp lookup invoked =>
    simp only [Event.withBridge,step] at hs
    split at hs
    · cases hs
    · obtain rfl := Option.some.inj hs
      exact .inl (setModesLookedUp_cools _ _ lookup invoked)
  | reloadReply ref succeeded _ =>
    simp only [Event.withBridge,step,Option.ite_none_left_eq_some,Option.some.injEq] at hs
    obtain ⟨-,rfl⟩ := hs
    exact .inl (advancedNetworkReloadComplete_cools _ ref succeeded)
  | timeout ref _ =>
    simp only [Event.withBridge,step,Option.ite_none_left_eq_some,Option.some.injEq] at hs
    obtain ⟨-,rfl⟩ := hs
    exact .inl (advancedOperationTimeout_cools _ ref)
  | bandsReady ref source error _ =>
    simp only [Event.withBridge,step,Option.ite_none_left_eq_some,Option.some.injEq] at hs
    obtain ⟨-,rfl⟩ := hs
    exact .inl (advancedOperationReady_cools _ ref source error)
  | modemRemoved ref _ =>
    simp only [Event.withBridge,step,Option.ite_none_left_eq_some,Option.some.injEq] at hs
    obtain ⟨-,rfl⟩ := hs
    exact .inl (Cools.updateSlot (.refl _ _))
  | connectionLost _ =>
    obtain rfl := Option.some.inj hs
    exact .inl (connectionLost_cools _)
  | reconnected _ =>
    simp only [Event.withBridge,step,Option.ite_none_left_eq_some,Option.some.injEq] at hs
    obtain ⟨-,rfl⟩ := hs
    exact .inl ((Cools.refl _).withRest _ _)
  | shutdown _ =>
    simp only [Event.withBridge,step,Option.ite_none_left_eq_some,Option.some.injEq] at hs
    obtain ⟨-,rfl⟩ := hs
    exact .inl ((Cools.refl _).withRest _ _)
  | stop _ =>
    simp only [Event.withBridge,step,Option.ite_none_left_eq_some,Option.some.injEq] at hs
    obtain ⟨-,rfl⟩ := hs
    exact .inl (l850glUbusStop_cools _)

end Advanced
end L850GL
