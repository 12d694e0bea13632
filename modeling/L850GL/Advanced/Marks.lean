import L850GL.Advanced.Cooldown
import L850GL.Marks

/-! What a band or mode change does to the mark of its record. -/
namespace L850GL
namespace Advanced

open Bridge Mutation Network Ownership World

/-- The operations that own a record. -/
def Owns (w : World) (modem : ModemRef) (ref : OperationRef) : Prop :=
  ∃ op,(w.slots ref).memory = some op ∧ op.modem = modem

def tag (ref : OperationRef) : RecordMark := (true,.advanced,some (.advanced ref))

/-- Operations may end, and each takes its own mark with it. -/
structure Ends (w w' : World) : Prop extends
  Bridge.Releases tag w.bridge w'.bridge (Owns w) (Owns w') where
  next : w'.next = w.next

variable {w w' w'' : World} {ref : OperationRef} {op : AdvancedOperation}

theorem tag_ne_unmarked (ref : OperationRef) : tag ref ≠ Modem.unmarked := by
  simp [Modem.unmarked,tag]

theorem Ends.refl (w : World) : Ends w w := ⟨.refl w.bridge (Owns w),rfl⟩

theorem Ends.trans (h : Ends w w') (h' : Ends w' w'') : Ends w w'' :=
  ⟨h.toReleases.trans tag_ne_unmarked h'.toReleases,h'.next.trans h.next⟩

/-- Neither the connection nor the lookup concerns a record. -/
theorem Ends.withRest (h : Ends w w') (blocked : Option OperationRef) (ubus : Ubus) :
    Ends w {w' with blocked := blocked,ubus := ubus} := ⟨⟨h.same,h.leaves⟩,h.next⟩

theorem owns_iff (w : World) (modem : ModemRef) (ref : OperationRef) :
    Owns w modem ref ↔ (w.slots ref).memory.map (·.modem) = some modem := by
  rw [Owns,Option.map_eq_some_iff]

/-- A slot is written, and its operation keeps its record. -/
theorem Ends.updateSlot {f : Slot → Slot}
    (h : (f (w.slots ref)).memory.map (·.modem) = (w.slots ref).memory.map (·.modem)) :
    Ends w (w.updateSlot ref f) := by
  refine ⟨.of_same rfl fun modem other => ?_,rfl⟩
  rw [owns_iff,owns_iff]
  by_cases ho : other = ref
  · rw [ho,updateSlot_self,h]
  · rw [updateSlot_other _ _ _ ho]

theorem Ends.updateMemory {f : Slot → Slot} (hmemory : (w.slots ref).memory = some op)
    (hf : (f (w.slots ref)).memory.map (·.modem) = some op.modem) :
    Ends w (w.updateSlot ref f) := .updateSlot (by rw [hf,hmemory]; rfl)

theorem Ends.withOperation {use : AdvancedOperation → World}
    (h : ∀ op,(w.slots ref).memory = some op → Ends w (use op)) :
    Ends w (w.withOperation ref use) := by
  cases hmemory : (w.slots ref).memory with
  | none =>
    rw [withOperation_none _ _ _ hmemory]
    exact .updateSlot rfl
  | some op =>
    rw [withOperation_some _ _ _ hmemory]
    exact h op hmemory

theorem releaseModem_mark (ref : OperationRef) (now : Int) (seconds : Nat) (modem : Modem) :
    let released := releaseModem ref (advancedOperationApplyCooldown now seconds modem)
    released.bare = modem.bare ∧ (released.mark = Modem.unmarked ∧ tag ref ≠ Modem.unmarked ∨
      released.mark = modem.mark ∧ modem.mark ≠ tag ref) := by
  dsimp only [releaseModem]
  split
  · exact ⟨rfl,.inl ⟨rfl,tag_ne_unmarked ref⟩⟩
  · rename_i h
    refine ⟨rfl,.inr ⟨rfl,fun htag => h ?_⟩⟩
    simp only [Modem.mark,tag,Prod.mk.injEq] at htag
    exact htag.2

theorem advancedOperationFree_ends (w : World) (ref : OperationRef) :
    Ends w (advancedOperationFree w ref) := by
  refine Ends.withOperation fun op hmemory => ?_
  obtain ⟨hbare,hmark⟩ := releaseModem_mark ref w.bridge.now op.cooldownSeconds
    (w.bridge.modems op.modem)
  refine ⟨⟨.updateModem hbare,fun modem => ?_⟩,rfl⟩
  by_cases ho : modem = op.modem
  · refine .one (a:=ref) ⟨op,hmemory,ho.symm⟩ ?_ fun other => ?_
    · rw [ho,updateSlot_bridge,Bridge.updateModem_self]
      exact hmark
    · rw [owns_iff,owns_iff]
      by_cases he : other = ref
      · subst he
        simp
      · rw [updateSlot_other _ _ _ he]
        simp [he]
  · refine .kept (by rw [updateSlot_bridge,updateModem_other _ _ ho]) fun other => ?_
    rw [owns_iff,owns_iff]
    by_cases he : other = ref
    · subst he
      simpa [hmemory] using fun h => ho h.symm
    · rw [updateSlot_other _ _ _ he]

theorem advancedOperationCompleteBuffer_ends (w : World) (ref : OperationRef) (body : Reply) :
    Ends w (advancedOperationCompleteBuffer w ref body) :=
  Ends.withOperation fun _ hmemory =>
    (Ends.updateMemory hmemory rfl).trans (advancedOperationFree_ends _ ref)

theorem advancedOperationCompleteSuccess_ends (w : World) (ref : OperationRef) :
    Ends w (advancedOperationCompleteSuccess w ref) :=
  Ends.withOperation fun _ _ => advancedOperationCompleteBuffer_ends w ref _

theorem cancelAdvancedOperation_ends (w : World) (transportLost : Bool) (ref : OperationRef) :
    Ends w (cancelAdvancedOperation transportLost w ref) := by
  refine Ends.withOperation fun op hmemory => ?_
  dsimp only
  split
  · exact (Ends.updateMemory hmemory rfl).trans (advancedOperationFree_ends _ ref)
  · exact Ends.updateMemory hmemory rfl

/-- The connection is lost for one operation after the other. -/
theorem cancelAdvancedOperations_ends (w : World) (transportLost : Bool) :
    Ends w (cancelAdvancedOperations w transportLost) := by
  have hwalk : ∀ (refs : List OperationRef) (w : World),
      Ends w (refs.foldl (cancelAdvancedOperation transportLost) w) := by
    intro refs
    induction refs with
    | nil => exact fun w => .refl w
    | cons ref refs ih =>
      exact fun w => (cancelAdvancedOperation_ends w transportLost ref).trans (ih _)
  exact hwalk w.advancedOperations w

theorem connectionLost_ends (w : World) : Ends w (connectionLost w) := by
  unfold connectionLost
  split
  · exact .refl w
  · exact ((Ends.refl w).withRest w.blocked _).trans (cancelAdvancedOperations_ends _ true)

theorem l850glUbusStop_ends (w : World) : Ends w (l850glUbusStop w) := by
  unfold l850glUbusStop
  split
  · exact .refl w
  · have hcancel := ((Ends.refl w).withRest w.blocked
      {w.ubus with connected := false,stopping := true}).trans
        (cancelAdvancedOperations_ends _ true)
    exact hcancel.withRest _ _

theorem advancedOperationTimeout_ends (w : World) (ref : OperationRef) :
    Ends w (advancedOperationTimeout w ref) := by
  have htimer : Ends w (w.updateSlot ref fun slot => {slot with timer := false}) :=
    Ends.updateSlot rfl
  refine htimer.trans (Ends.withOperation fun op hmemory => ?_)
  dsimp only
  split
  · exact (Ends.updateMemory hmemory rfl).trans (advancedOperationCompleteSuccess_ends _ ref)
  · exact Ends.updateMemory hmemory rfl

theorem advancedNetworkReloadComplete_ends (w : World) (ref : OperationRef) (succeeded : Bool) :
    Ends w (advancedNetworkReloadComplete w ref succeeded) := by
  have hrequest : Ends w (w.updateSlot ref fun slot => {slot with networkRequest := false}) :=
    Ends.updateSlot rfl
  refine hrequest.trans (Ends.withOperation fun op hmemory => ?_)
  dsimp only
  split
  · exact .refl _
  · exact (Ends.updateMemory hmemory rfl).trans (advancedOperationCompleteSuccess_ends _ ref)

theorem advancedOperationReady_ends (w : World) (ref : OperationRef) (source : Nat)
    (error : Option GError) : Ends w (advancedOperationReady w ref source error) := by
  have hcall : Ends w (w.updateSlot ref fun slot => {slot with call := false}) :=
    Ends.updateSlot rfl
  refine hcall.trans (Ends.withOperation fun op _ => ?_)
  split
  · exact advancedOperationCompleteBuffer_ends _ ref _
  · exact advancedOperationCompleteSuccess_ends _ ref

theorem setModesLookedUp_ends (w : World) (ref : OperationRef) (lookup : Option Nat)
    (invoked : Bool) : Ends w (setModesLookedUp w ref lookup invoked) := by
  have hserved := (Ends.refl w).withRest none w.ubus
  unfold setModesLookedUp
  split
  · exact hserved.trans (advancedOperationCompleteSuccess_ends _ ref)
  · refine hserved.trans (Ends.withOperation fun op hmemory => ?_)
    split
    · exact advancedOperationCompleteSuccess_ends _ ref
    · exact Ends.updateMemory hmemory rfl

/-- What `advanced_mutation_modem` lets through. -/
theorem advancedMutationModem_spare {tables : Tables} {bridge : Bridge} {modemId : CString}
    {generation : Nat} {modem : ModemRef}
    (h : advancedMutationModem tables bridge modemId generation = .ok modem) :
    Spare tables (bridge.modems modem) modem := by
  unfold advancedMutationModem at h
  split at h
  · cases h
  dsimp only at h
  split at h
  · cases h
  split at h
  · cases h
  rename_i hattested
  split at h
  · cases h
  rename_i hspare
  split at h
  · cases h
  rename_i hready
  cases h
  simp only [Bool.not_eq_true',Bool.not_eq_false,Modem.l850glModemAttestMutationTarget,
    Bool.and_eq_true] at hattested
  simp only [Bool.or_eq_true,not_or,Bool.not_eq_true] at hspare hready
  exact ⟨hattested.1.1,hready.1,hspare.1.1.1,hspare.1.1.2,hspare.1.2,hspare.2⟩

/-- An operation is made on a record that nothing else uses. -/
structure Begins (tables : Tables) (w w' : World) (modem : ModemRef)
    (type : AdvancedOperationType) : Prop where
  spare : Spare tables (w.bridge.modems modem) modem
  ends : Ends (advancedOperationNew w modem type) w'

/-- What a request comes to. -/
def Requested (tables : Tables) (w w' : World) : Prop :=
  w' = w ∨ ∃ modem type,Begins tables w w' modem type

theorem methodSetBands_requested (w : World) (tables : Tables) (request : Option SetBandsRequest)
    (resolved : Except (String × Bool) (List Nat)) :
    Requested tables w (methodSetBands w tables request resolved).1 := by
  cases request with
  | none => exact .inl rfl
  | some request =>
    simp only [methodSetBands]
    split
    · exact .inl rfl
    split
    · exact .inl rfl
    rename_i modem hok
    split
    · exact .inl rfl
    · refine .inr ⟨modem,.bands,advancedMutationModem_spare hok,?_⟩
      exact Ends.withOperation fun op hmemory => Ends.updateMemory hmemory rfl

theorem methodSetModes_requested (w : World) (tables : Tables) (request : Option SetModesRequest)
    (update : NetworkModeUpdateResult) :
    Requested tables w (methodSetModes w tables request update).1 := by
  cases request with
  | none => exact .inl rfl
  | some request =>
    simp only [methodSetModes]
    split
    · exact .inl rfl
    split
    · exact .inl rfl
    split
    · exact .inl rfl
    rename_i modem hok
    split
    · exact .inl rfl
    refine .inr ⟨modem,.modes,advancedMutationModem_spare hok,?_⟩
    split
    · exact advancedOperationCompleteBuffer_ends _ _ _
    · exact (Ends.withOperation fun op hmemory => Ends.updateMemory hmemory rfl).withRest _ _

/-- The tables that a request looks at. -/
def Event.withTables (tables : Tables) : Event → Event
  | .setBands _ request resolved bridge => .setBands tables request resolved bridge
  | .setModes _ request update bridge => .setModes tables request update bridge
  | event => event

/-- An event at the time, on the records and with the tables that its world has already. -/
theorem step_ends (w : World) (bridge : Bridge) {event : Event} {tables : Tables}
    (hs : step (w.refresh bridge) ((event.withTables tables).withBridge bridge) = some w') :
    Ends (w.refresh bridge) w' ∨
      ∃ modem type,Begins tables (w.refresh bridge) w' modem type := by
  have hrequested : Requested tables (w.refresh bridge) w' → Ends (w.refresh bridge) w' ∨
      ∃ modem type,Begins tables (w.refresh bridge) w' modem type := by
    rintro (rfl | h)
    · exact .inl (.refl _)
    · exact .inr h
  cases event with
  | setBands _ request resolved _ =>
    simp only [Event.withTables,Event.withBridge,step,Option.ite_none_left_eq_some,
      Option.some.injEq] at hs
    obtain ⟨-,rfl⟩ := hs
    exact hrequested (methodSetBands_requested _ tables request resolved)
  | setModes _ request update _ =>
    simp only [Event.withTables,Event.withBridge,step,Option.ite_none_left_eq_some,
      Option.some.injEq] at hs
    obtain ⟨-,rfl⟩ := hs
    exact hrequested (methodSetModes_requested _ tables request update)
  | lookedUp lookup invoked =>
    simp only [Event.withTables,Event.withBridge,step] at hs
    split at hs
    · cases hs
    · obtain rfl := Option.some.inj hs
      exact .inl (setModesLookedUp_ends _ _ lookup invoked)
  | reloadReply ref succeeded _ =>
    simp only [Event.withTables,Event.withBridge,step,Option.ite_none_left_eq_some,
      Option.some.injEq] at hs
    obtain ⟨-,rfl⟩ := hs
    exact .inl (advancedNetworkReloadComplete_ends _ ref succeeded)
  | timeout ref _ =>
    simp only [Event.withTables,Event.withBridge,step,Option.ite_none_left_eq_some,
      Option.some.injEq] at hs
    obtain ⟨-,rfl⟩ := hs
    exact .inl (advancedOperationTimeout_ends _ ref)
  | bandsReady ref source error _ =>
    simp only [Event.withTables,Event.withBridge,step,Option.ite_none_left_eq_some,
      Option.some.injEq] at hs
    obtain ⟨-,rfl⟩ := hs
    exact .inl (advancedOperationReady_ends _ ref source error)
  | modemRemoved ref _ =>
    simp only [Event.withTables,Event.withBridge,step,Option.ite_none_left_eq_some,
      Option.some.injEq] at hs
    obtain ⟨-,rfl⟩ := hs
    exact .inl (Ends.updateSlot rfl)
  | connectionLost _ =>
    obtain rfl := Option.some.inj hs
    exact .inl (connectionLost_ends _)
  | reconnected _ =>
    simp only [Event.withTables,Event.withBridge,step,Option.ite_none_left_eq_some,
      Option.some.injEq] at hs
    obtain ⟨-,rfl⟩ := hs
    exact .inl ((Ends.refl _).withRest _ _)
  | shutdown _ =>
    simp only [Event.withTables,Event.withBridge,step,Option.ite_none_left_eq_some,
      Option.some.injEq] at hs
    obtain ⟨-,rfl⟩ := hs
    exact .inl ((Ends.refl _).withRest _ _)
  | stop _ =>
    simp only [Event.withTables,Event.withBridge,step,Option.some.injEq,
      Option.ite_none_left_eq_some] at hs
    obtain ⟨-,rfl⟩ := hs
    exact .inl (l850glUbusStop_ends _)

/-- The owners once an operation has been made, in a slot that nobody used. -/
theorem advancedOperationNew_turns (w : World) (modem : ModemRef) (type : AdvancedOperationType)
    (hfresh : (w.slots w.next).memory = none)
    (hidle : (w.bridge.modems modem).mark = Modem.unmarked) :
    Turns tag w.bridge (advancedOperationNew w modem type).bridge (Owns w)
      (Owns (advancedOperationNew w modem type)) := by
  refine .take (b:=w.next) hidle rfl rfl fun other ref => ?_
  rw [owns_iff,owns_iff]
  by_cases hr : ref = w.next
  · subst hr
    simp [advancedOperationNew_memory,hfresh,newOperation,eq_comm]
  · rw [advancedOperationNew_slot w modem type hr]
    simp [hr]

end Advanced
end L850GL
