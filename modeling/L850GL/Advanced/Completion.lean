import L850GL.Advanced.System

/-! Each step keeps every operation in its life, and what that says about a whole run. -/
namespace L850GL
namespace Advanced

open Mutation Network World

variable {w w' : World} {ref other : OperationRef} {op op' : AdvancedOperation}

theorem Slot.Live.opened {slot : Slot} (h : slot.Live op) (hm : op.type = .modes) :
    slot.Open op :=
  ⟨h.memory,h.timer,h.networkRequest,(h.modes hm).2,h.history⟩

theorem Slot.Gone.not_liveModes (h : (w.slots ref).Gone) : ¬LiveModes w ref := by
  rintro ⟨op,hm,-⟩
  rw [h.memory] at hm
  cases hm

theorem Lives.mem_table (h : Lives w) (hr : ref ∈ w.advancedOperations) :
    ∃ op, (w.slots ref).memory = some op := by
  cases h.life ref with
  | unborn _ _ htable => exact absurd hr htable
  | live _ hslot _ => exact ⟨_,hslot.memory⟩
  | gone _ _ htable => exact absurd hr htable

theorem Lives.modes_context (h : Lives w) (hl : (w.slots ref).Live op) (ht : op.type = .modes) :
    w.ubus.contextInitialized = true := h.context ref ⟨op,hl.memory,ht⟩

theorem Lives.pending_context (h : Lives w) (hl : (w.slots ref).Live op)
    (hp : op.networkRequestPending = true) : w.ubus.contextInitialized = true := by
  cases ht : op.type with
  | modes => exact h.modes_context hl ht
  | bands =>
    have h₁ := (hl.bands ht).2
    rw [hp] at h₁
    cases h₁

/-- The walk over the table, one operation at a time. -/
structure Cancels (w w' : World) (ref : OperationRef) : Prop where
  lives : Lives w'
  ubus : w'.ubus = w.ubus
  blocked : w'.blocked = w.blocked
  slots : ∀ other, other ≠ ref → w'.slots other = w.slots other
  dead : ¬LiveModes w' ref
  gone : LiveModes w ref → (w'.slots ref).Gone

theorem Frees.cancels (h : Frees w w' ref) (hw : Lives w) (hnext : ref < w.next) :
    Cancels w w' ref :=
  ⟨h.lives hw hnext,h.ubus,h.blocked,h.slots,h.gone.not_liveModes,fun _ => h.gone⟩

theorem cancelAdvancedOperation_cancels (transportLost : Bool) (h : Lives w)
    (hm : (w.slots ref).memory = some op) :
    Cancels w (cancelAdvancedOperation transportLost w ref) ref := by
  obtain ⟨hnext,hl,htable⟩ := (h.life ref).live_of_memory hm
  rw [cancelAdvancedOperation,withOperation_some _ _ _ hm]
  cases ht : op.type with
  | modes =>
    have hc := h.modes_context hl ht
    refine Frees.cancels (Frees.trans_updateSlot (advancedOperationFree_frees {op with
      deferred := false,transportLost := transportLost
      networkRequestPending := op.networkRequestPending &&
        !(op.networkRequestPending && w.ubus.contextInitialized)} ?_ fun _ => hc)) h hnext
    exact ⟨by simp [ht],by simp [hl.timer],by simp [hl.networkRequest],
      by simp [(hl.modes ht).2],op.type,.inl (by simp [hl.history])⟩
  | bands =>
    dsimp only
    have hdead : ¬LiveModes (w.updateSlot ref fun slot => {slot with
        memory := some {op with deferred := false,transportLost := transportLost}
        cancelled := true}) ref := by
      rintro ⟨op',h₁,h₂⟩
      simp only [updateSlot_self,Option.some.injEq] at h₁
      rw [← h₁,ht] at h₂
      cases h₂
    rw [ht] at hdead
    refine ⟨?_,rfl,rfl,fun other ho => updateSlot_other _ _ _ ho,hdead,?_⟩
    rotate_left
    · rintro ⟨op',h₁,h₂⟩
      rw [hm,Option.some.injEq] at h₁
      rw [← h₁,ht] at h₂
      cases h₂
    refine h.single rfl (fun other ho => updateSlot_other _ _ _ ho) (fun _ _ => Iff.rfl) h.nodup
      ?_ rfl (fun hl => absurd hl hdead)
    refine .live hnext (show Slot.Live _ {op with
      deferred := false,transportLost := transportLost} from ?_) htable
    exact ⟨by simp [ht],by simp [hl.timer],by simp [hl.networkRequest],by simp [hl.history],
      by simp [ht],by simpa using hl.bands⟩

/-- The walk over any operations that live. -/
theorem foldl_cancelAdvancedOperation {transportLost : Bool} (refs : List OperationRef)
    (h : Lives w) (hnodup : refs.Nodup)
    (hmem : ∀ ref ∈ refs, ∃ op, (w.slots ref).memory = some op) :
    let final := refs.foldl (cancelAdvancedOperation transportLost) w
    Lives final ∧ final.ubus = w.ubus ∧ final.blocked = w.blocked ∧
      (∀ ref, LiveModes final ref → LiveModes w ref ∧ ref ∉ refs) ∧
      (∀ ref, ref ∉ refs → final.slots ref = w.slots ref) ∧
      ∀ ref ∈ refs, LiveModes w ref → (final.slots ref).Gone := by
  induction refs generalizing w with
  | nil => exact ⟨h,rfl,rfl,fun ref hr => ⟨hr,by simp⟩,fun _ _ => rfl,by simp⟩
  | cons r refs ih =>
    obtain ⟨op,hop⟩ := hmem r (by simp)
    have h₁ := cancelAdvancedOperation_cancels transportLost h hop
    obtain ⟨hr,hnodup⟩ := List.nodup_cons.mp hnodup
    have hne : ∀ ref ∈ refs, ref ≠ r := fun ref hm he => hr (he ▸ hm)
    obtain ⟨h₂,h₃,h₄,h₅,h₆,h₇⟩ := ih h₁.lives hnodup fun ref hm => by
      rw [h₁.slots ref (hne ref hm)]
      exact hmem ref (by simp [hm])
    refine ⟨h₂,h₃.trans h₁.ubus,h₄.trans h₁.blocked,fun ref hl => ?_,fun ref hn => ?_,
      fun ref hin hl => ?_⟩
    · obtain ⟨hl₁,hl₂⟩ := h₅ ref hl
      have hne' : ref ≠ r := by
        rintro rfl
        exact h₁.dead hl₁
      obtain ⟨op,hm,ht⟩ := hl₁
      exact ⟨⟨op,h₁.slots ref hne' ▸ hm,ht⟩,by simp [hne',hl₂]⟩
    · simp only [List.mem_cons,not_or] at hn
      exact (h₆ ref hn.2).trans (h₁.slots ref hn.1)
    · rcases List.mem_cons.mp hin with rfl | hin
      · exact (h₆ _ hr) ▸ h₁.gone hl
      · obtain ⟨op,hm,ht⟩ := hl
        exact h₇ ref hin ⟨op,(h₁.slots ref (hne ref hin)).symm ▸ hm,ht⟩

/-- After the walk every mode operation is gone. -/
theorem cancelAdvancedOperations_spec {transportLost : Bool} (h : Lives w) :
    let final := cancelAdvancedOperations w transportLost
    Lives final ∧ final.ubus = w.ubus ∧ final.blocked = w.blocked ∧
      (∀ ref, ¬LiveModes final ref) ∧ ∀ ref, LiveModes w ref → (final.slots ref).Gone := by
  obtain ⟨h₁,h₂,h₃,h₄,-,h₅⟩ := foldl_cancelAdvancedOperation
    w.advancedOperations h h.nodup fun ref hr => h.mem_table hr
  refine ⟨h₁,h₂,h₃,fun ref hl => ?_,fun ref hl => ?_⟩
  · obtain ⟨⟨op,hm,-⟩,hr⟩ := h₄ ref hl
    exact hr ((h.life ref).live_of_memory hm).2.2
  · obtain ⟨op,hm,ht⟩ := hl
    exact h₅ ref ((h.life ref).live_of_memory hm).2.2 ⟨op,hm,ht⟩

/-- The connection and the bridge matter to the lives only through the context. -/
theorem Lives.withUbus (h : Lives w) (ubus : Ubus) (bridge : Bridge)
    (blocked : Option OperationRef)
    (hc : (∃ ref, LiveModes w ref) → ubus.contextInitialized = true) :
    Lives {w with ubus := ubus,bridge := bridge,blocked := blocked} where
  life ref := (h.life ref).frame rfl rfl Iff.rfl
  nodup := h.nodup
  context ref hl := hc ⟨ref,hl⟩

theorem Inv.refresh (h : Inv w) (bridge : Bridge) : Inv (w.refresh bridge) where
  toLives := h.toLives.withUbus _ _ _ fun ⟨ref,hl⟩ => h.context ref hl
  ubus := h.ubus
  serving := h.serving
  blocked := h.blocked

/-- An operation that is freed outside its own method. -/
theorem Inv.frees (h : Inv w) (hf : Frees w w' ref) (hnext : ref < w.next)
    (hb : w.blocked ≠ some ref) : Inv w' where
  toLives := hf.lives h.toLives hnext
  ubus := hf.ubus ▸ h.ubus
  serving other hl := by
    have hne : other ≠ ref := by
      rintro rfl
      exact hf.gone.not_liveModes hl
    obtain ⟨op,hm,ht⟩ := hl
    rw [hf.ubus]
    exact h.serving other ⟨op,hf.slots other hne ▸ hm,ht⟩
  blocked other ho := by
    rw [hf.blocked] at ho
    have hne : other ≠ ref := by
      rintro rfl
      exact hb ho
    rw [hf.slots other hne]
    exact h.blocked other ho

/-- A step that leaves its operation alive. -/
theorem Inv.updateSlot (h : Inv w) {f : Slot → Slot} (hl : (w.slots ref).Live op)
    (hl' : (f (w.slots ref)).Live op') (ht : op'.type = op.type)
    (hb : w.blocked = some ref → op'.networkRequestPending = false) :
    Inv (w.updateSlot ref f) := by
  obtain ⟨hnext,-,htable⟩ := (h.life ref).live_of_memory hl.memory
  have hmodes : LiveModes (w.updateSlot ref f) ref → LiveModes w ref := by
    rintro ⟨op'',hm,ht'⟩
    rw [updateSlot_self,hl'.memory] at hm
    cases hm
    exact ⟨op,hl.memory,ht ▸ ht'⟩
  have hother : ∀ other, other ≠ ref → (w.updateSlot ref f).slots other = w.slots other :=
    fun other ho => updateSlot_other _ _ _ ho
  refine ⟨?_,h.ubus,fun other hm => ?_,fun other ho => ?_⟩
  · refine h.toLives.single rfl hother (fun _ _ => Iff.rfl) h.nodup ?_ rfl
      fun hm => h.context ref (hmodes hm)
    exact .live hnext (by simpa using hl') htable
  · by_cases he : other = ref
    · exact h.serving ref (hmodes (he ▸ hm))
    · obtain ⟨op'',hm,ht'⟩ := hm
      exact h.serving other ⟨op'',hother other he ▸ hm,ht'⟩
  · by_cases he : other = ref
    · subst he
      refine ⟨op',by simpa using hl'.memory,?_,hb ho⟩
      obtain ⟨op'',hm,ht',-⟩ := h.blocked _ ho
      have h₁ := hl.memory.symm.trans hm
      cases h₁
      exact ht.trans ht'
    · rw [hother other he]
      exact h.blocked other ho

/-- The timeout of a mode operation frees it. -/
theorem advancedOperationTimeout_frees (h : Lives w) (hl : (w.slots ref).Live op)
    (ht : op.type = .modes) : Frees w (advancedOperationTimeout w ref) ref := by
  have hc := h.modes_context hl ht
  rw [advancedOperationTimeout,withOperation_some _ _ _
      (show _ = some op by simp [hl.memory])]
  simp only [ht]
  refine Frees.trans_updateSlot (Frees.trans_updateSlot
    (advancedOperationCompleteSuccess_frees {op with
      timeoutSource := false,timedOut := true
      networkRequestPending := op.networkRequestPending &&
        !(op.networkRequestPending && w.ubus.contextInitialized)
      activation := some "outcome_unknown"} ?_ fun _ => hc))
  exact ⟨by simp [ht],by simp,by simp [hl.networkRequest],by simp [(hl.modes ht).2],
    by simp [hl.history]⟩

theorem advancedOperationTimeout_inv (h : Inv w) (hb : w.blocked = none)
    (ht : (w.slots ref).timer = true) : Inv (advancedOperationTimeout w ref) := by
  cases h.life ref with
  | unborn _ hslot _ => rw [hslot] at ht; cases ht
  | gone _ hslot _ => rw [hslot.timer] at ht; cases ht
  | @live op hnext hl htable =>
    cases htype : op.type with
    | modes =>
      exact h.frees (advancedOperationTimeout_frees h.toLives hl htype) hnext (by simp [hb])
    | bands =>
      rw [advancedOperationTimeout,withOperation_some _ _ _
      (show _ = some op by simp [hl.memory])]
      have h₁ : ∀ f g : Slot → Slot, (w.updateSlot ref f).updateSlot ref g =
          w.updateSlot ref (g ∘ f) := by
        intro f g
        simp [World.updateSlot]
      simp only [htype]
      rw [h₁]
      refine h.updateSlot hl (show Slot.Live _ {op with
        timeoutSource := false,timedOut := true} from ?_) rfl (by simp [hb])
      exact ⟨by simp [htype],by simp,by simp [hl.networkRequest],by simp [hl.history],
        by simp [htype],by simpa using hl.bands⟩

theorem advancedNetworkReloadComplete_inv (h : Inv w) {succeeded : Bool}
    (hn : (w.slots ref).networkRequest = true) :
    Inv (advancedNetworkReloadComplete w ref succeeded) := by
  cases h.life ref with
  | unborn _ hslot _ => rw [hslot] at hn; cases hn
  | gone _ hslot _ => rw [hslot.networkRequest] at hn; cases hn
  | @live op hnext hl htable =>
    have hp : op.networkRequestPending = true := hl.networkRequest ▸ hn
    have hmodes : op.type = .modes := by
      cases ht : op.type with
      | modes => rfl
      | bands =>
        have h₁ := (hl.bands ht).2
        rw [hp] at h₁
        cases h₁
    have hblocked : w.blocked ≠ some ref := by
      intro hb
      obtain ⟨op',hm,-,hp'⟩ := h.blocked ref hb
      have h₁ := hl.memory.symm.trans hm
      cases h₁
      rw [hp] at hp'
      cases hp'
    rw [advancedNetworkReloadComplete,withOperation_some _ _ _
      (show _ = some op by simp [hl.memory])]
    simp only [hp,Bool.not_true,Bool.false_eq_true,if_false]
    refine h.frees (Frees.trans_updateSlot (Frees.trans_updateSlot
      (advancedOperationCompleteSuccess_frees {op with
        networkRequestPending := false
        activation := some (if succeeded then "reloaded" else "failed")} ?_ (by simp))))
        hnext hblocked
    exact ⟨by simp,by simp [hl.timer],by simp,by simp [(hl.modes hmodes).2],by simp [hl.history]⟩

theorem advancedOperationReady_inv (h : Inv w) {source : Nat} {error : Option GError}
    (hb : w.blocked = none) (hcall : (w.slots ref).call = true) :
    Inv (advancedOperationReady w ref source error) := by
  cases h.life ref with
  | unborn _ hslot _ => rw [hslot] at hcall; cases hcall
  | gone _ hslot _ => rw [hslot.call] at hcall; cases hcall
  | @live op hnext hl htable =>
    rw [advancedOperationReady,withOperation_some _ _ _
      (show _ = some op by simp [hl.memory])]
    have hopen : ((w.updateSlot ref fun slot => {slot with call := false}).slots ref).Open op :=
      ⟨by simp [hl.memory],by simp [hl.timer],by simp [hl.networkRequest],by simp,
        by simp [hl.history]⟩
    have hcontext := fun hp => h.pending_context hl hp
    split
    · exact h.frees (Frees.trans_updateSlot
        (advancedOperationCompleteBuffer_frees hopen hcontext)) hnext (by simp [hb])
    · exact h.frees (Frees.trans_updateSlot
        (advancedOperationCompleteSuccess_frees op hopen hcontext)) hnext (by simp [hb])

/-- A new operation, as its method leaves it. -/
theorem Inv.born (h : Inv w) (hw' : w'.next = w.next+1)
    (hslots : ∀ other, other ≠ w.next → w'.slots other = w.slots other)
    (htable : w'.advancedOperations = w.advancedOperations++[w.next]) (hubus : w'.ubus = w.ubus)
    (hl : (w'.slots w.next).Live op) (hconnected : w.ubus.connected = true)
    (hb : w'.blocked = none ∨ w'.blocked = some w.next ∧ op.type = .modes ∧
      op.networkRequestPending = false) : Inv w' := by
  have hfresh : w.next ∉ w.advancedOperations := by
    intro hm
    obtain ⟨op',hop'⟩ := h.mem_table hm
    exact absurd ((h.life _).live_of_memory hop').1 (Nat.lt_irrefl _)
  refine ⟨⟨fun other => ?_,?_,fun other _ => ?_⟩,hubus ▸ h.ubus,fun other _ => ?_,
    fun other ho => ?_⟩
  · by_cases ho : other = w.next
    · subst ho
      exact .live (hw' ▸ Nat.lt_succ_self _) hl (by simp [htable])
    · have hmem : other ∈ w'.advancedOperations ↔ other ∈ w.advancedOperations := by
        simp [htable,ho]
      cases h.life other with
      | unborn h₁ h₂ h₃ =>
        exact .unborn (hw' ▸ Nat.lt_of_le_of_ne h₁ (Ne.symm ho)) ((hslots other ho).trans h₂)
          fun hm => h₃ (hmem.mp hm)
      | live h₁ h₂ h₃ =>
        exact .live (hw' ▸ Nat.lt_succ_of_lt h₁) (hslots other ho ▸ h₂) (hmem.mpr h₃)
      | gone h₁ h₂ h₃ =>
        exact .gone (hw' ▸ Nat.lt_succ_of_lt h₁) (hslots other ho ▸ h₂)
          fun hm => h₃ (hmem.mp hm)
  · rw [htable]
    exact List.nodup_append.mpr ⟨h.nodup,by simp,by
      rintro a ha b hb rfl
      simp only [List.mem_singleton] at hb
      exact hfresh (hb ▸ ha)⟩
  · rw [hubus]
    exact (h.ubus hconnected).1
  · rw [hubus]
    exact hconnected
  · rcases hb with hb | ⟨hb,ht,hp⟩
    · rw [hb] at ho
      cases ho
    · rw [hb] at ho
      cases ho
      exact ⟨op,hl.memory,ht,hp⟩

/-- The slot of an operation that `advanced_operation_new` has just made. -/
theorem advancedOperationNew_open (w : World) (modem : ModemRef) (type : AdvancedOperationType) :
    ((advancedOperationNew w modem type).slots w.next).Open (newOperation w modem type) := by
  refine ⟨?_,?_,?_,?_,?_⟩
  all_goals simp [advancedOperationNew,World.updateSlot,newOperation]

theorem advancedOperationNew_other (w : World) (modem : ModemRef) (type : AdvancedOperationType)
    (ho : other ≠ w.next) : (advancedOperationNew w modem type).slots other = w.slots other := by
  simp [advancedOperationNew,World.updateSlot,ho]

theorem advancedOperationNew_modes_inv (h : Inv w) (hconnected : w.ubus.connected = true)
    (hb : w.blocked = none) (modem : ModemRef) : Inv (advancedOperationNew w modem .modes) := by
  have ho := advancedOperationNew_open w modem .modes
  refine h.born rfl (fun other => advancedOperationNew_other w modem .modes) rfl rfl
    (show Slot.Live _ (newOperation w modem .modes) from ?_) hconnected (.inl hb)
  refine ⟨ho.memory,ho.timer,ho.networkRequest,ho.history,?_,?_⟩
  · intro _
    exact ⟨rfl,ho.call⟩
  · intro ht
    cases ht

theorem methodSetBands_inv (h : Inv w) (hconnected : w.ubus.connected = true)
    (hb : w.blocked = none) (tables : Tables) (request : Option SetBandsRequest)
    (resolved : Except (String × Bool) (List Nat)) :
    Inv (methodSetBands w tables request resolved).1 := by
  simp only [methodSetBands]
  split
  · exact h
  split
  · exact h
  split
  · exact h
  rename_i modem hmodem
  split
  · exact h
  rename_i bands
  have ho := advancedOperationNew_open w modem .bands
  rw [withOperation_some _ _ _ ho.memory]
  refine h.born rfl (fun other hne => ?_) rfl rfl (show Slot.Live _
    {newOperation w modem .bands with bands := bands,dispatched := true} from ?_)
    hconnected (.inl hb)
  · rw [updateSlot_other _ _ _ hne,advancedOperationNew_other w modem .bands hne]
  · refine ⟨by simp,by simp [ho.timer],by simp [ho.networkRequest],by simp [ho.history],?_,?_⟩
    · intro ht
      cases ht
    · intro _
      exact ⟨by simp,rfl⟩

theorem methodSetModes_inv (h : Inv w) (hconnected : w.ubus.connected = true)
    (hb : w.blocked = none) (tables : Tables) (request : Option SetModesRequest)
    (update : NetworkModeUpdateResult) : Inv (methodSetModes w tables request update).1 := by
  simp only [methodSetModes]
  split
  · exact h
  split
  · exact h
  split
  · exact h
  split
  · exact h
  rename_i modem hmodem
  split
  · exact h
  have ho := advancedOperationNew_open w modem .modes
  split
  · exact (advancedOperationNew_modes_inv h hconnected hb modem).frees
      (advancedOperationCompleteBuffer_frees ho fun hp => by cases hp) (Nat.lt_succ_self _)
      (by simp [advancedOperationNew,hb])
  · rw [withOperation_some _ _ _ ho.memory]
    refine h.born rfl (fun other hne => ?_) rfl rfl
      (show Slot.Live _ {newOperation w modem .modes with
        persisted := true,dispatched := true,activation := some "pending"} from ?_) hconnected
      (.inr ⟨rfl,rfl,rfl⟩)
    · have h₁ := updateSlot_other (advancedOperationNew w modem .modes) w.next (fun slot =>
        {slot with memory := some {newOperation w modem .modes with
          persisted := true,dispatched := true,activation := some "pending"}}) hne
      exact h₁.trans (advancedOperationNew_other w modem .modes hne)
    · refine ⟨by simp,by simp [ho.timer],by simp [ho.networkRequest],by simp [ho.history],?_,?_⟩
      · intro _
        exact ⟨rfl,by simp [ho.call]⟩
      · intro ht
        cases ht

theorem setModesLookedUp_inv (h : Inv w) (hb : w.blocked = some ref) (lookup : Option Nat)
    (invoked : Bool) : Inv (setModesLookedUp w ref lookup invoked) := by
  obtain ⟨op,hm,htype,hp⟩ := h.blocked ref hb
  obtain ⟨hnext,hl,htable⟩ := (h.life ref).live_of_memory hm
  have hw : Inv {w with blocked := none} :=
    ⟨h.toLives.withUbus _ _ _ fun ⟨other,ho⟩ => h.context other ho,h.ubus,h.serving,by simp⟩
  have hsuccess := hw.frees (advancedOperationCompleteSuccess_frees op
    (w:={w with blocked := none}) (hl.opened htype) fun _ => h.modes_context hl htype) hnext
      (by simp)
  cases lookup with
  | none => exact hsuccess
  | some id =>
    rw [setModesLookedUp,withOperation_some {w with blocked := none} _ _ hm]
    cases invoked with
    | false => exact hsuccess
    | true =>
      simp only [Bool.not_true,Bool.false_eq_true,if_false]
      refine hw.updateSlot hl (show Slot.Live _ {op with networkRequestPending := true} from ?_)
        rfl (by simp)
      exact ⟨rfl,hl.timer,rfl,hl.history,hl.modes,by simp [htype]⟩

theorem connectionLost_inv (h : Inv w) (hb : w.blocked = none) : Inv (connectionLost w) := by
  rw [connectionLost]
  split
  · exact h
  · have hw := h.toLives.withUbus {w.ubus with connected := false} w.bridge w.blocked
      fun hlive => hlive.elim h.context
    obtain ⟨h₁,h₂,h₃,h₄,-⟩ := cancelAdvancedOperations_spec hw
    refine ⟨h₁,?_,fun ref hl => absurd hl (h₄ ref),fun ref hr => ?_⟩
    · rw [h₂]
      simp [UbusOk]
    · rw [h₃,hb] at hr
      cases hr

theorem l850glUbusStop_inv (h : Inv w) (hb : w.blocked = none) : Inv (l850glUbusStop w) := by
  rw [l850glUbusStop]
  split
  · exact h
  · have hw := h.toLives.withUbus {w.ubus with connected := false,stopping := true} w.bridge
      w.blocked fun hlive => hlive.elim h.context
    obtain ⟨h₁,h₂,h₃,h₄,-⟩ := cancelAdvancedOperations_spec hw
    refine ⟨h₁.withUbus _ _ _ fun hlive => hlive.elim fun ref hl => absurd hl (h₄ ref),?_,
      fun ref hl => absurd hl (h₄ ref),fun ref hr => ?_⟩
    · simp [UbusOk,h₂]
    · rw [show (cancelAdvancedOperations _ true).blocked = none from h₃.trans hb] at hr
      cases hr

/-- Every step that meets the condition keeps every operation in its life. -/
theorem step_inv {event : Event} (h : Inv w) (hG : LookupUndisturbed w event)
    (hs : step w event = some w') : Inv w' := by
  cases event with
  | setBands tables request resolved bridge =>
    simp only [step,Option.ite_none_left_eq_some,Bool.or_eq_true,not_or,Bool.not_eq_true,
      Option.isSome_eq_false_iff,Option.isNone_iff_eq_none,Bool.not_eq_false',
      Option.some.injEq] at hs
    obtain ⟨⟨hb,hc⟩,rfl⟩ := hs
    exact methodSetBands_inv (h.refresh bridge) hc hb _ _ _
  | setModes tables request update bridge =>
    simp only [step,Option.ite_none_left_eq_some,Bool.or_eq_true,not_or,Bool.not_eq_true,
      Option.isSome_eq_false_iff,Option.isNone_iff_eq_none,Bool.not_eq_false',
      Option.some.injEq] at hs
    obtain ⟨⟨hb,hc⟩,rfl⟩ := hs
    exact methodSetModes_inv (h.refresh bridge) hc hb _ _ _
  | lookedUp lookup invoked =>
    simp only [step] at hs
    split at hs
    · cases hs
    · rename_i ref hb
      cases hs
      exact setModesLookedUp_inv h hb _ _
  | reloadReply ref succeeded bridge =>
    simp only [step,Option.ite_none_left_eq_some,Bool.not_eq_true,Bool.not_eq_false',
      Option.some.injEq] at hs
    obtain ⟨hn,rfl⟩ := hs
    exact advancedNetworkReloadComplete_inv (h.refresh bridge) hn
  | timeout ref bridge =>
    simp only [step,Option.ite_none_left_eq_some,Bool.or_eq_true,not_or,Bool.not_eq_true,
      Option.isSome_eq_false_iff,Option.isNone_iff_eq_none,Bool.not_eq_false',
      Option.some.injEq] at hs
    obtain ⟨⟨hb,ht⟩,rfl⟩ := hs
    exact advancedOperationTimeout_inv (h.refresh bridge) hb ht
  | bandsReady ref source error bridge =>
    simp only [step,Option.ite_none_left_eq_some,Bool.or_eq_true,not_or,Bool.not_eq_true,
      Option.isSome_eq_false_iff,Option.isNone_iff_eq_none,Bool.not_eq_false',
      Option.some.injEq] at hs
    obtain ⟨⟨hb,hc⟩,rfl⟩ := hs
    exact advancedOperationReady_inv (h.refresh bridge) hb hc
  | modemRemoved ref bridge =>
    simp only [step,Option.ite_none_left_eq_some,Bool.or_eq_true,not_or,Bool.not_eq_true,
      Option.isSome_eq_false_iff,Option.isNone_iff_eq_none,Bool.not_eq_false',
      Option.some.injEq] at hs
    obtain ⟨⟨hb,hc⟩,rfl⟩ := hs
    cases h.life ref with
    | unborn _ hslot _ => rw [hslot] at hc; cases hc
    | gone _ hslot _ => rw [hslot.call] at hc; cases hc
    | live _ hl _ =>
      exact (h.refresh bridge).updateSlot hl ⟨hl.memory,hl.timer,hl.networkRequest,hl.history,
        hl.modes,hl.bands⟩ rfl (by simp [World.refresh,hb])
  | connectionLost bridge =>
    cases hs
    have hb : w.blocked = none := by
      by_contra hb
      exact hG hb bridge rfl
    exact connectionLost_inv (h.refresh bridge) hb
  | reconnected bridge =>
    simp only [step,Option.ite_none_left_eq_some,Bool.or_eq_true,not_or,Bool.not_eq_true,
      Option.isSome_eq_false_iff,Option.isNone_iff_eq_none,Option.some.injEq] at hs
    obtain ⟨⟨⟨hb,hc⟩,hstop⟩,rfl⟩ := hs
    refine ⟨h.toLives.withUbus _ _ _ fun _ => rfl,fun _ => ⟨rfl,hstop⟩,fun ref hl => rfl,
      fun ref hr => ?_⟩
    rw [show w.blocked = some ref from hr] at hb
    cases hb
  | shutdown bridge =>
    simp only [step,Option.ite_none_left_eq_some,Bool.or_eq_true,not_or,Bool.not_eq_true,
      Option.isSome_eq_false_iff,Option.isNone_iff_eq_none,Option.some.injEq] at hs
    obtain ⟨⟨hb,hc⟩,rfl⟩ := hs
    have hdead : ∀ ref, ¬LiveModes w ref := by
      intro ref hl
      rw [h.serving ref hl] at hc
      cases hc
    refine ⟨h.toLives.withUbus _ _ _ fun ⟨ref,hl⟩ => absurd hl (hdead ref),?_,
      fun ref hl => absurd hl (hdead ref),fun ref hr => ?_⟩
    · simp [UbusOk,hc]
    · rw [show w.blocked = some ref from hr] at hb
      cases hb
  | stop bridge =>
    simp only [step,Option.ite_none_left_eq_some,Bool.not_eq_true,Option.isSome_eq_false_iff,
      Option.isNone_iff_eq_none,Option.some.injEq] at hs
    obtain ⟨hb,rfl⟩ := hs
    exact l850glUbusStop_inv (h.refresh bridge) hb

theorem reachableUnder_inv (h : advancedSystem.ReachableUnder LookupUndisturbed w) : Inv w := by
  refine h.invariant (P := Inv) ?_ fun w e w' hw hG hs => step_inv hw hG hs
  rintro w ⟨h₁,h₂,h₃,h₄,h₅⟩
  refine ⟨⟨fun ref => .unborn (h₂ ▸ Nat.zero_le ref) (by rw [h₁]) (by simp [h₃]),by simp [h₃],?_⟩,
    h₅,?_,by simp [h₄]⟩
  · rintro ref ⟨op,hm,-⟩
    rw [h₁] at hm
    cases hm
  · rintro ref ⟨op,hm,-⟩
    rw [h₁] at hm
    cases hm

end Advanced
end L850GL
