import L850GL.Advanced.Completion
import L850GL.Lib.Deferral

/-! The requests behind the band changes, in all runs: also in those in which a mode change is used
after it was freed. -/
namespace L850GL
namespace Advanced

open Mutation Network World

variable {w w' w'' : World} {ref other : OperationRef} {op : AdvancedOperation} {event : Event}
  {body : Reply}

/-- What an observation says of the request of an operation. -/
def Observation.mark : Observation → Option RequestMark
  | .answered connection => some (.answered connection)
  | .released => some .released
  | _ => none

def Observation.createsBands : Observation → Bool
  | .created .bands => true
  | _ => false

/-- A block that was made for a band change. -/
def Slot.isBands (slot : Slot) : Bool := slot.history.any Observation.createsBands

/-- The band changes as deferred requests. -/
def bandsView (w : World) : Deferrals where
  requests ref := (w.slots ref).memory.bind fun op =>
    if op.type = .bands then some (op.request,op.deferred) else none
  marks ref :=
    if (w.slots ref).isBands then (w.slots ref).history.filterMap Observation.mark else []
  connected := w.ubus.connected
  connection := w.ubus.connection

def bandsCalls (w : World) (ref : OperationRef) : Nat := if (w.slots ref).call then 1 else 0

/-- The band change whose call returns with an event. -/
def bandsReturns (_ : World) : Event → Option OperationRef
  | .bandsReady ref _ _ _ => some ref
  | _ => none

/-- A block of a mode change, or of none. -/
structure Slot.Modes (slot : Slot) : Prop where
  history : slot.isBands = false
  memory : ∀ op,slot.memory = some op → op.type = .modes
  call : slot.call = false

/-- A band change that waits for its call. -/
structure Slot.Waits (slot : Slot) (op : AdvancedOperation) : Prop where
  memory : slot.memory = some op
  type : op.type = .bands
  timer : slot.timer = op.timeoutSource
  call : slot.call = true
  networkRequest : slot.networkRequest = false
  pending : op.networkRequestPending = false
  history : slot.history = [.created .bands]

/-- A band change that is over. -/
structure Slot.Over (slot : Slot) : Prop where
  memory : slot.memory = none
  timer : slot.timer = false
  call : slot.call = false
  networkRequest : slot.networkRequest = false
  history : slot.isBands = true

/-- The band changes between two events. -/
structure Tidy (w : World) : Prop where
  slots : ∀ ref,(w.slots ref).Modes ∨ ((∃ op,(w.slots ref).Waits op) ∧ ref ∈ w.advancedOperations) ∨
    (w.slots ref).Over ∧ ref ∉ w.advancedOperations
  fresh : ∀ ref,w.next ≤ ref → w.slots ref = Slot.empty
  known : ∀ ref ∈ w.advancedOperations,ref < w.next
  blocked : ∀ ref,w.blocked = some ref → ref < w.next ∧ (w.slots ref).Modes
  ubus : UbusOk w.ubus

/-- Only the mode change `ref` was touched. -/
structure Aside (w w' : World) (ref : OperationRef) : Prop where
  next : w'.next = w.next
  ubus : w'.ubus = w.ubus
  slots : ∀ other,other ≠ ref → w'.slots other = w.slots other
  table : ∀ other,other ≠ ref → (other ∈ w'.advancedOperations ↔ other ∈ w.advancedOperations)
  known : ∀ other ∈ w'.advancedOperations,other ∈ w.advancedOperations
  blocked : w'.blocked = w.blocked
  modes : (w'.slots ref).Modes

theorem Aside.refl (h : (w.slots ref).Modes) : Aside w w ref :=
  ⟨rfl,rfl,fun _ _ => rfl,fun _ _ => Iff.rfl,fun _ hmem => hmem,rfl,h⟩

theorem Aside.trans (h : Aside w w' ref) (h' : Aside w' w'' ref) : Aside w w'' ref :=
  ⟨h'.next.trans h.next,h'.ubus.trans h.ubus,
    fun other ho => (h'.slots other ho).trans (h.slots other ho),
    fun other ho => (h'.table other ho).trans (h.table other ho),
    fun other hmem => h.known other (h'.known other hmem),h'.blocked.trans h.blocked,h'.modes⟩

theorem Aside.updateSlot {f : Slot → Slot} (h : (f (w.slots ref)).Modes) :
    Aside w (w.updateSlot ref f) ref :=
  ⟨rfl,rfl,fun _ ho => updateSlot_other _ _ _ ho,fun _ _ => Iff.rfl,fun _ hmem => hmem,rfl,by
    rw [updateSlot_self]
    exact h⟩

/-- A callback that finds its block freed only records the fault. -/
theorem Aside.withOperation {use : AdvancedOperation → World} (h : (w.slots ref).Modes)
    (huse : ∀ op,(w.slots ref).memory = some op → op.type = .modes → Aside w (use op) ref) :
    Aside w (w.withOperation ref use) ref := by
  cases hmemory : (w.slots ref).memory with
  | none =>
    rw [withOperation_none _ _ _ hmemory]
    exact Aside.updateSlot ⟨by simpa [Slot.isBands,Observation.createsBands] using h.history,
      h.memory,h.call⟩
  | some op =>
    rw [withOperation_some _ _ _ hmemory]
    exact huse op hmemory (h.memory op hmemory)

theorem advancedOperationFree_aside (h : (w.slots ref).Modes) :
    Aside w (advancedOperationFree w ref) ref := by
  refine Aside.withOperation h fun op _ _ => ?_
  refine ⟨rfl,rfl,fun other ho => updateSlot_other _ _ _ ho,fun other ho => ?_,fun other hmem => ?_,
    rfl,?_⟩
  · simp [ho]
  · exact (List.mem_filter.mp hmem).1
  · rw [updateSlot_self]
    exact ⟨by simpa [Slot.isBands,Observation.createsBands] using h.history,
      fun op hop => (by cases hop),h.call⟩

theorem advancedOperationCompleteBuffer_aside (h : (w.slots ref).Modes) :
    Aside w (advancedOperationCompleteBuffer w ref body) ref := by
  refine Aside.withOperation h fun op _ hop => ?_
  have hmarked : Aside w (w.updateSlot ref fun slot => {slot with
      memory := some {op with deferred := false}
      history := (if (op.deferred && w.ubus.connected && w.ubus.contextInitialized &&
        !w.ubus.stopping) = true then [.answered w.ubus.connection] else [])++
          .completed body::slot.history}) ref := by
    refine Aside.updateSlot ⟨?_,fun op' hop' => ?_,h.call⟩
    · have hold := h.history
      simp only [Slot.isBands] at hold ⊢
      split
      · simpa [Observation.createsBands] using hold
      · simpa [Observation.createsBands] using hold
    · cases hop'
      exact hop
  exact hmarked.trans (advancedOperationFree_aside hmarked.modes)

theorem advancedOperationCompleteSuccess_aside (h : (w.slots ref).Modes) :
    Aside w (advancedOperationCompleteSuccess w ref) ref :=
  Aside.withOperation h fun _ _ _ => advancedOperationCompleteBuffer_aside h

/-- What the loss of the connection does to a band change. -/
def Slot.cutOff (slot : Slot) : Slot :=
  {slot with
    memory := slot.memory.map fun op => {op with deferred := false,transportLost := true}
    cancelled := true}

theorem Slot.Waits.cutOff {slot : Slot} (h : slot.Waits op) :
    slot.cutOff.Waits {op with deferred := false,transportLost := true} where
  memory := by rw [Slot.cutOff,h.memory]; rfl
  type := h.type
  timer := h.timer
  call := h.call
  networkRequest := h.networkRequest
  pending := h.pending
  history := h.history

theorem Slot.cutOff_cutOff (slot : Slot) : slot.cutOff.cutOff = slot.cutOff := by
  unfold Slot.cutOff
  cases slot.memory with
  | none => rfl
  | some op => rfl

theorem Slot.Waits.not_modes {slot : Slot} (h : slot.Waits op) : ¬slot.Modes := by
  intro hmodes
  have hcall := hmodes.call
  rw [h.call] at hcall
  cases hcall

theorem cancelAdvancedOperation_modes (h : (w.slots ref).Modes) :
    Aside w (cancelAdvancedOperation true w ref) ref := by
  refine Aside.withOperation h fun op _ hop => ?_
  simp only [hop]
  refine Aside.trans (Aside.updateSlot ⟨?_,fun op' hop' => ?_,h.call⟩)
    (advancedOperationFree_aside ?_)
  · simpa [Slot.isBands,Observation.createsBands] using h.history
  · cases hop'
    rfl
  · rw [updateSlot_self]
    refine ⟨?_,fun op' hop' => ?_,h.call⟩
    · simpa [Slot.isBands,Observation.createsBands] using h.history
    · cases hop'
      rfl

theorem cancelAdvancedOperation_bands (h : (w.slots ref).Waits op) :
    cancelAdvancedOperation true w ref = w.updateSlot ref Slot.cutOff := by
  rw [cancelAdvancedOperation,withOperation_some _ _ _ h.memory]
  simp only [h.type,World.updateSlot,Slot.cutOff,h.memory,Option.map_some]

/-- The walk over some live operations when the connection is lost. -/
structure Cancelled (refs : List OperationRef) (w w' : World) : Prop where
  next : w'.next = w.next
  ubus : w'.ubus = w.ubus
  blocked : w'.blocked = w.blocked
  modes : ∀ ref,(w.slots ref).Modes → (w'.slots ref).Modes
  waits : ∀ ref op,(w.slots ref).Waits op → (ref ∈ w'.advancedOperations ↔
    ref ∈ w.advancedOperations) ∧
      (ref ∈ refs → w'.slots ref = (w.slots ref).cutOff) ∧ (ref ∉ refs → w'.slots ref = w.slots ref)
  others : ∀ ref,ref ∉ refs → w'.slots ref = w.slots ref ∧
    (ref ∈ w'.advancedOperations ↔ ref ∈ w.advancedOperations)

theorem foldl_cancelAdvancedOperation_spec (refs : List OperationRef)
    (h : ∀ ref ∈ refs,(w.slots ref).Modes ∨ ∃ op,(w.slots ref).Waits op) :
    Cancelled refs w (refs.foldl (cancelAdvancedOperation true) w) := by
  induction refs generalizing w with
  | nil => exact ⟨rfl,rfl,rfl,fun _ hm => hm,fun _ _ _ => ⟨Iff.rfl,fun hmem => (by cases hmem),
      fun _ => rfl⟩,fun _ _ => ⟨rfl,Iff.rfl⟩⟩
  | cons first refs ih =>
    rw [List.foldl_cons]
    rcases h first List.mem_cons_self with hmodes | ⟨op,hwaits⟩
    · have haside := cancelAdvancedOperation_modes hmodes
      have hstep := ih (w:=cancelAdvancedOperation true w first) fun ref hmem => by
        by_cases hr : ref = first
        · exact .inl (hr ▸ haside.modes)
        · rw [haside.slots ref hr]
          exact h ref (List.mem_cons_of_mem _ hmem)
      refine ⟨hstep.next.trans haside.next,hstep.ubus.trans haside.ubus,
        hstep.blocked.trans haside.blocked,fun ref hm => ?_,fun ref op hw => ?_,fun ref hmem => ?_⟩
      · refine hstep.modes ref ?_
        by_cases hr : ref = first
        · exact hr ▸ haside.modes
        · exact haside.slots ref hr ▸ hm
      · have hr : ref ≠ first := by
          rintro rfl
          exact hw.not_modes hmodes
        have hsame := haside.slots ref hr
        obtain ⟨htable,hin,hout⟩ := hstep.waits ref op (hsame ▸ hw)
        refine ⟨htable.trans (haside.table ref hr),fun hmem => ?_,fun hmem => ?_⟩
        · rw [hin ((List.mem_cons.mp hmem).resolve_left hr),hsame]
        · rw [hout (fun hmem' => hmem (List.mem_cons_of_mem _ hmem')),hsame]
      · rw [List.mem_cons,not_or] at hmem
        obtain ⟨hslot,htable⟩ := hstep.others ref hmem.2
        exact ⟨hslot.trans (haside.slots ref hmem.1),htable.trans (haside.table ref hmem.1)⟩
    · have hcut := cancelAdvancedOperation_bands hwaits
      rw [hcut]
      have hself : (w.updateSlot first Slot.cutOff).slots first = (w.slots first).cutOff :=
        updateSlot_self _ _ _
      have hkept : ∀ ref,ref ≠ first → (w.updateSlot first Slot.cutOff).slots ref = w.slots ref :=
        fun ref hr => updateSlot_other _ _ _ hr
      have hstep := ih (w:=w.updateSlot first Slot.cutOff) fun ref hmem => by
        by_cases hr : ref = first
        · subst hr
          rw [hself]
          exact .inr ⟨_,hwaits.cutOff⟩
        · rw [hkept ref hr]
          exact h ref (List.mem_cons_of_mem _ hmem)
      refine ⟨hstep.next,hstep.ubus,hstep.blocked,fun ref hm => ?_,fun ref op hw => ?_,
        fun ref hmem => ?_⟩
      · have hr : ref ≠ first := by
          rintro rfl
          exact hwaits.not_modes hm
        exact hstep.modes ref (hkept ref hr ▸ hm)
      · by_cases hr : ref = first
        · subst hr
          obtain ⟨htable,hin,hout⟩ := hstep.waits ref _ (hself.symm ▸ hw.cutOff)
          refine ⟨htable,fun _ => ?_,fun hmem => absurd List.mem_cons_self hmem⟩
          by_cases hagain : ref ∈ refs
          · rw [hin hagain,hself,Slot.cutOff_cutOff]
          · rw [hout hagain,hself]
        · obtain ⟨htable,hin,hout⟩ := hstep.waits ref op (hkept ref hr ▸ hw)
          rw [hkept ref hr] at hin hout
          exact ⟨htable,fun hmem => hin ((List.mem_cons.mp hmem).resolve_left hr),
            fun hmem => hout fun hmem' => hmem (List.mem_cons_of_mem _ hmem')⟩
      · rw [List.mem_cons,not_or] at hmem
        obtain ⟨hslot,htable⟩ := hstep.others ref hmem.2
        exact ⟨hslot.trans (hkept ref hmem.1),htable⟩

theorem Slot.Modes.view {slot : Slot} (h : slot.Modes) :
    (slot.memory.bind fun op => if op.type = .bands then some (op.request,op.deferred) else none) =
        none ∧
      (if slot.isBands then slot.history.filterMap Observation.mark else []) = [] := by
  rw [h.history]
  refine ⟨?_,by simp⟩
  cases hmemory : slot.memory with
  | none => rfl
  | some op => simp [h.memory op hmemory]

theorem Slot.Waits.view {slot : Slot} (h : slot.Waits op) :
    (slot.memory.bind fun op => if op.type = .bands then some (op.request,op.deferred) else none) =
        some (op.request,op.deferred) ∧
      (if slot.isBands then slot.history.filterMap Observation.mark else []) = [] := by
  rw [h.memory,h.history]
  exact ⟨by simp [h.type],by simp [Observation.mark]⟩

/-- What happens aside from the band changes leaves them as they are. -/
theorem Aside.bandsView (h : Aside w w' ref) (hmodes : (w.slots ref).Modes) :
    bandsView w' = bandsView w := by
  refine Deferrals.ext ?_ ?_ (congrArg Ubus.connected h.ubus) (congrArg Ubus.connection h.ubus)
  · funext other
    by_cases ho : other = ref
    · subst ho
      exact h.modes.view.1.trans hmodes.view.1.symm
    · simp [Advanced.bandsView,h.slots other ho]
  · funext other
    by_cases ho : other = ref
    · subst ho
      exact h.modes.view.2.trans hmodes.view.2.symm
    · simp [Advanced.bandsView,h.slots other ho]

theorem Aside.tidy (h : Aside w w' ref) (hw : Tidy w) (href : ref < w.next) : Tidy w' where
  slots other := by
    by_cases ho : other = ref
    · exact .inl (ho ▸ h.modes)
    · rw [h.slots other ho,h.table other ho]
      exact hw.slots other
  fresh other hle := by
    rw [h.next] at hle
    have ho : other ≠ ref := by
      rintro rfl
      exact absurd href (Nat.not_lt.mpr hle)
    rw [h.slots other ho]
    exact hw.fresh other hle
  known other hother := h.next ▸ hw.known other (h.known other hother)
  blocked other hother := by
    rw [h.blocked] at hother
    obtain ⟨hlt,hslot⟩ := hw.blocked other hother
    refine ⟨h.next ▸ hlt,?_⟩
    by_cases ho : other = ref
    · exact ho ▸ h.modes
    · exact h.slots other ho ▸ hslot
  ubus := h.ubus ▸ hw.ubus

theorem Tidy.refresh (h : Tidy w) (bridge : Bridge) : Tidy (w.refresh bridge) :=
  ⟨h.slots,h.fresh,h.known,h.blocked,h.ubus⟩

theorem Tidy.withBlocked (h : Tidy w) {blocked : Option OperationRef}
    (hblocked : ∀ ref,blocked = some ref → ref < w.next ∧ (w.slots ref).Modes) :
    Tidy {w with blocked := blocked} :=
  ⟨h.slots,h.fresh,h.known,hblocked,h.ubus⟩

theorem Slot.empty_modes : Slot.empty.Modes := ⟨rfl,fun op hop => (by cases hop),rfl⟩

/-- A block that something is held of has been made. -/
theorem Tidy.lt_next (h : Tidy w) (hslot : w.slots ref ≠ Slot.empty) : ref < w.next := by
  by_contra hle
  exact hslot (h.fresh ref (Nat.le_of_not_lt hle))

/-- A new operation, in a block of its own. -/
theorem Tidy.born (h : Tidy w) (hnext : w'.next = w.next+1) (hubus : w'.ubus = w.ubus)
    (hblocked : w'.blocked = w.blocked)
    (hslots : ∀ other,other ≠ w.next → w'.slots other = w.slots other)
    (htable : w'.advancedOperations = w.advancedOperations++[w.next])
    (hself : (w'.slots w.next).Modes ∨ ∃ op,(w'.slots w.next).Waits op) : Tidy w' where
  slots other := by
    rw [htable,List.mem_append,List.mem_singleton]
    by_cases ho : other = w.next
    · subst ho
      rcases hself with hmodes | hwaits
      · exact .inl hmodes
      · exact .inr (.inl ⟨hwaits,.inr rfl⟩)
    · rw [hslots other ho]
      simp only [ho,or_false]
      exact h.slots other
  fresh other hle := by
    rw [hnext] at hle
    have ho : other ≠ w.next := by
      rintro rfl
      exact absurd hle (Nat.not_succ_le_self _)
    rw [hslots other ho]
    exact h.fresh other (Nat.le_of_succ_le hle)
  known other hother := by
    rw [hnext]
    rw [htable,List.mem_append,List.mem_singleton] at hother
    rcases hother with hother | rfl
    · exact Nat.lt_succ_of_lt (h.known other hother)
    · exact Nat.lt_succ_self _
  blocked other hother := by
    rw [hblocked] at hother
    obtain ⟨hlt,hmodes⟩ := h.blocked other hother
    have ho : other ≠ w.next := by
      rintro rfl
      exact absurd hlt (Nat.lt_irrefl _)
    rw [hnext,hslots other ho]
    exact ⟨Nat.lt_succ_of_lt hlt,hmodes⟩
  ubus := hubus ▸ h.ubus

theorem advancedOperationNew_self (w : World) (modem : ModemRef) (type : AdvancedOperationType) :
    (advancedOperationNew w modem type).slots w.next =
      ⟨some (newOperation w modem type),true,false,false,false,[.created type]⟩ := by
  simp [advancedOperationNew,World.updateSlot]

/-- A mode change that begins is none of the band changes. -/
theorem advancedOperationNew_modes (h : Tidy w) (modem : ModemRef) :
    let born := advancedOperationNew w modem .modes
    Tidy born ∧ bandsView born = bandsView w ∧ (born.slots w.next).Modes := by
  intro born
  have hothers : ∀ other,other ≠ w.next → born.slots other = w.slots other :=
    fun other ho => advancedOperationNew_other w modem .modes ho
  have hmodes : (born.slots w.next).Modes := by
    rw [advancedOperationNew_self]
    refine ⟨rfl,fun op hop => ?_,rfl⟩
    cases hop
    rfl
  have hfresh : (w.slots w.next).Modes := by
    rw [h.fresh w.next (Nat.le_refl _)]
    exact Slot.empty_modes
  refine ⟨h.born rfl rfl rfl hothers rfl (.inl hmodes),?_,hmodes⟩
  refine Deferrals.ext ?_ ?_ rfl rfl
  · funext other
    by_cases ho : other = w.next
    · subst ho
      exact hmodes.view.1.trans hfresh.view.1.symm
    · simp [bandsView,hothers other ho]
  · funext other
    by_cases ho : other = w.next
    · subst ho
      exact hmodes.view.2.trans hfresh.view.2.symm
    · simp [bandsView,hothers other ho]

theorem methodSetBands_move (h : Tidy w) (hconnected : w.ubus.connected = true)
    (tables : Tables) (request : Option SetBandsRequest)
    (resolved : Except (String × Bool) (List Nat)) :
    Tidy (methodSetBands w tables request resolved).1 ∧
      Deferrals.Move (bandsView w) none
        (bandsView (methodSetBands w tables request resolved).1) := by
  have hsame : Tidy w ∧ Deferrals.Move (bandsView w) none (bandsView w) := ⟨h,.same⟩
  simp only [methodSetBands]
  split
  · exact hsame
  split
  · exact hsame
  split
  · exact hsame
  rename_i modem hmodem
  split
  · exact hsame
  rename_i bands
  have hself := advancedOperationNew_self w modem .bands
  rw [withOperation_some _ _ _ (by rw [hself])]
  obtain ⟨begun,hbegun⟩ : ∃ begun,begun = (advancedOperationNew w modem .bands).updateSlot w.next
      fun slot => {slot with
        memory := some {newOperation w modem .bands with bands := bands,dispatched := true}
        call := true} := ⟨_,rfl⟩
  rw [← hbegun]
  have hslot : begun.slots w.next = ⟨some {newOperation w modem .bands with
      bands := bands,dispatched := true},true,false,true,false,[.created .bands]⟩ := by
    rw [hbegun,updateSlot_self,hself]
  have hothers : ∀ other,other ≠ w.next → begun.slots other = w.slots other := by
    intro other ho
    rw [hbegun,updateSlot_other _ _ _ ho,advancedOperationNew_other w modem .bands ho]
  have hfresh := h.fresh w.next (Nat.le_refl _)
  have hwaits : (begun.slots w.next).Waits {newOperation w modem .bands with
      bands := bands,dispatched := true} := by
    rw [hslot]
    exact ⟨rfl,rfl,rfl,rfl,rfl,rfl,rfl⟩
  refine ⟨h.born (by rw [hbegun]; rfl) (by rw [hbegun]; rfl) (by rw [hbegun]; rfl) hothers
    (by rw [hbegun]; rfl) (.inr ⟨_,hwaits⟩),?_⟩
  have hview : bandsView begun = (bandsView w).opened w.next := by
    refine Deferrals.ext ?_ ?_ (by rw [hbegun]; rfl) (by rw [hbegun]; rfl)
    · funext other
      by_cases ho : other = w.next
      · subst ho
        simp only [Deferrals.opened,Function.update_self]
        exact hwaits.view.1
      · simp [bandsView,Deferrals.opened,hothers other ho,ho]
    · funext other
      by_cases ho : other = w.next
      · subst ho
        have hnone : (bandsView w).marks w.next = [] := by
          simp [bandsView,hfresh,Slot.empty]
        exact hwaits.view.2.trans hnone.symm
      · simp [bandsView,Deferrals.opened,hothers other ho]
  rw [hview]
  refine .opened ?_ ?_ hconnected
  · simp [bandsView,hfresh,Slot.empty]
  · simp [bandsView,hfresh,Slot.empty]

theorem methodSetModes_move (h : Tidy w) (tables : Tables) (request : Option SetModesRequest)
    (update : NetworkModeUpdateResult) : Tidy (methodSetModes w tables request update).1 ∧
      bandsView (methodSetModes w tables request update).1 = bandsView w := by
  have hsame : Tidy w ∧ bandsView w = bandsView w := ⟨h,rfl⟩
  simp only [methodSetModes]
  split
  · exact hsame
  split
  · exact hsame
  split
  · exact hsame
  split
  · exact hsame
  rename_i modem hmodem
  split
  · exact hsame
  obtain ⟨hborn,hview,hmodes⟩ := advancedOperationNew_modes h modem
  have hlt : w.next < (advancedOperationNew w modem .modes).next := Nat.lt_succ_self _
  split
  · have haside := @advancedOperationCompleteBuffer_aside _ _ (addCommon w.bridge.time false++
      [errorTable (modesUpdateError update).1 (Errors.advancedErrorMessage
        (modesUpdateError update).1) (modesUpdateError update).2]) hmodes
    exact ⟨haside.tidy hborn hlt,(haside.bandsView hmodes).trans hview⟩
  · have haside : Aside (advancedOperationNew w modem .modes)
        ((advancedOperationNew w modem .modes).withOperation w.next fun op =>
          (advancedOperationNew w modem .modes).updateSlot w.next fun slot => {slot with
            memory := some {op with
              persisted := true,dispatched := true,activation := some "pending"}}) w.next := by
      refine Aside.withOperation hmodes fun op _ hop => ?_
      refine Aside.updateSlot ⟨hmodes.history,fun op' hop' => ?_,hmodes.call⟩
      cases hop'
      exact hop
    have htidy := haside.tidy hborn hlt
    refine ⟨htidy.withBlocked fun ref href => ?_,(haside.bandsView hmodes).trans hview⟩
    obtain rfl := Option.some.inj href
    exact ⟨haside.next ▸ hlt,haside.modes⟩

theorem setModesLookedUp_move (h : Tidy w) (hblocked : w.blocked = some ref) (lookup : Option Nat)
    (invoked : Bool) : Tidy (setModesLookedUp w ref lookup invoked) ∧
      bandsView (setModesLookedUp w ref lookup invoked) = bandsView w := by
  obtain ⟨hlt,hmodes⟩ := h.blocked ref hblocked
  have hfree : Tidy {w with blocked := none} := h.withBlocked fun ref href => by cases href
  have hsuccess : Aside {w with blocked := none}
      (advancedOperationCompleteSuccess {w with blocked := none} ref) ref :=
    advancedOperationCompleteSuccess_aside hmodes
  have haside : Aside {w with blocked := none} (setModesLookedUp w ref lookup invoked) ref := by
    cases lookup with
    | none => exact hsuccess
    | some id =>
      refine Aside.withOperation hmodes fun op _ hop => ?_
      split
      · exact hsuccess
      · refine Aside.updateSlot ⟨hmodes.history,fun op' hop' => ?_,hmodes.call⟩
        cases hop'
        exact hop
  exact ⟨haside.tidy hfree hlt,haside.bandsView hmodes⟩

theorem advancedNetworkReloadComplete_move (h : Tidy w)
    (hrequest : (w.slots ref).networkRequest = true) (succeeded : Bool) :
    Tidy (advancedNetworkReloadComplete w ref succeeded) ∧
      bandsView (advancedNetworkReloadComplete w ref succeeded) = bandsView w := by
  have hmodes : (w.slots ref).Modes := by
    rcases h.slots ref with hmodes | ⟨⟨op,hwaits⟩,-⟩ | ⟨hover,-⟩
    · exact hmodes
    · rw [hwaits.networkRequest] at hrequest
      cases hrequest
    · rw [hover.networkRequest] at hrequest
      cases hrequest
  have hlt : ref < w.next := h.lt_next fun hempty => by
    rw [hempty] at hrequest
    cases hrequest
  have haside : Aside w (advancedNetworkReloadComplete w ref succeeded) ref := by
    have hdropped :
        Aside w (w.updateSlot ref fun slot => {slot with networkRequest := false}) ref :=
      Aside.updateSlot ⟨hmodes.history,hmodes.memory,hmodes.call⟩
    refine hdropped.trans (Aside.withOperation hdropped.modes fun op _ hop => ?_)
    split
    · exact Aside.refl hdropped.modes
    · refine Aside.trans (Aside.updateSlot ⟨hdropped.modes.history,fun op' hop' => ?_,
        hdropped.modes.call⟩) (advancedOperationCompleteSuccess_aside ?_)
      · cases hop'
        exact hop
      · rw [updateSlot_self]
        refine ⟨hdropped.modes.history,fun op' hop' => ?_,hdropped.modes.call⟩
        cases hop'
        exact hop
  exact ⟨haside.tidy h hlt,haside.bandsView hmodes⟩

/-- A change of flags that only the callback of the call will read. -/
theorem Slot.Waits.move (hwaits : (w.slots ref).Waits op) (h : Tidy w) {f : Slot → Slot}
    {flagged : AdvancedOperation} (hflagged : (f (w.slots ref)).Waits flagged)
    (hrequest : flagged.request = op.request) (hdeferred : flagged.deferred = op.deferred) :
    Tidy (w.updateSlot ref f) ∧ bandsView (w.updateSlot ref f) = bandsView w := by
  have hself : (w.updateSlot ref f).slots ref = f (w.slots ref) := updateSlot_self _ _ _
  have hothers : ∀ other,other ≠ ref → (w.updateSlot ref f).slots other = w.slots other :=
    fun other ho => updateSlot_other _ _ _ ho
  have hlt : ref < w.next := h.lt_next fun hempty => by
    have hcall := hwaits.call
    rw [hempty] at hcall
    cases hcall
  refine ⟨⟨fun other => ?_,fun other hle => ?_,h.known,fun other hother => ?_,h.ubus⟩,?_⟩
  · by_cases ho : other = ref
    · subst ho
      rcases h.slots other with hmodes | ⟨-,htable⟩ | ⟨hover,-⟩
      · exact absurd hmodes hwaits.not_modes
      · exact .inr (.inl ⟨⟨flagged,hself ▸ hflagged⟩,htable⟩)
      · have hcall := hwaits.call
        rw [hover.call] at hcall
        cases hcall
    · rw [hothers other ho]
      exact h.slots other
  · have ho : other ≠ ref := by
      rintro rfl
      exact absurd hlt (Nat.not_lt.mpr hle)
    rw [hothers other ho]
    exact h.fresh other hle
  · obtain ⟨hlt',hmodes⟩ := h.blocked other hother
    have ho : other ≠ ref := by
      rintro rfl
      exact hwaits.not_modes hmodes
    rw [hothers other ho]
    exact ⟨hlt',hmodes⟩
  · refine Deferrals.ext ?_ ?_ rfl rfl
    · funext other
      by_cases ho : other = ref
      · subst ho
        have hnew := (hself ▸ hflagged : ((w.updateSlot other f).slots other).Waits flagged).view.1
        rw [hrequest,hdeferred] at hnew
        exact hnew.trans hwaits.view.1.symm
      · simp [bandsView,hothers other ho]
    · funext other
      by_cases ho : other = ref
      · subst ho
        have hnew := (hself ▸ hflagged : ((w.updateSlot other f).slots other).Waits flagged).view.2
        exact hnew.trans hwaits.view.2.symm
      · simp [bandsView,hothers other ho]

theorem advancedOperationTimeout_move (h : Tidy w) (htimer : (w.slots ref).timer = true) :
    Tidy (advancedOperationTimeout w ref) ∧
      bandsView (advancedOperationTimeout w ref) = bandsView w := by
  rcases h.slots ref with hmodes | ⟨⟨op,hwaits⟩,-⟩ | ⟨hover,-⟩
  · have hlt : ref < w.next := h.lt_next fun hempty => by
      rw [hempty] at htimer
      cases htimer
    have haside : Aside w (advancedOperationTimeout w ref) ref := by
      have hfired : Aside w (w.updateSlot ref fun slot => {slot with timer := false}) ref :=
        Aside.updateSlot ⟨hmodes.history,hmodes.memory,hmodes.call⟩
      refine hfired.trans (Aside.withOperation hfired.modes fun op _ hop => ?_)
      simp only [hop]
      refine Aside.trans (Aside.updateSlot ⟨hfired.modes.history,fun op' hop' => ?_,
        hfired.modes.call⟩) (advancedOperationCompleteSuccess_aside ?_)
      · cases hop'
        rfl
      · rw [updateSlot_self]
        refine ⟨hfired.modes.history,fun op' hop' => ?_,hfired.modes.call⟩
        cases hop'
        rfl
    exact ⟨haside.tidy h hlt,haside.bandsView hmodes⟩
  · have heq : advancedOperationTimeout w ref = w.updateSlot ref fun slot => {slot with
        memory := some {op with timeoutSource := false,timedOut := true}
        timer := false
        cancelled := true} := by
      rw [advancedOperationTimeout,withOperation_some _ _ _
        (by rw [updateSlot_self]; exact hwaits.memory)]
      simp only [hwaits.type,World.updateSlot,Function.update_self,Function.update_idem]
    rw [heq]
    exact hwaits.move h (f:=fun slot => {slot with
        memory := some {op with timeoutSource := false,timedOut := true}
        timer := false
        cancelled := true}) ⟨rfl,hwaits.type,rfl,hwaits.call,hwaits.networkRequest,hwaits.pending,
      hwaits.history⟩ rfl rfl
  · rw [hover.timer] at htimer
    cases htimer

/-- The end of a band change whose call has returned. -/
theorem advancedOperationCompleteBuffer_bands (h : Tidy w) (hwaits : (w.slots ref).Waits op)
    (body : Reply) :
    let called := w.updateSlot ref fun slot => {slot with call := false}
    Tidy (advancedOperationCompleteBuffer called ref body) ∧
      Deferrals.Move (bandsView w) (some ref)
        (bandsView (advancedOperationCompleteBuffer called ref body)) := by
  intro called
  have hself : called.slots ref = {w.slots ref with call := false} := updateSlot_self _ _ _
  have hmemory : (called.slots ref).memory = some op := by
    rw [hself]
    exact hwaits.memory
  obtain ⟨w',hw'⟩ : ∃ w',w' = advancedOperationCompleteBuffer called ref body := ⟨_,rfl⟩
  have hanswers : (op.deferred && w.ubus.connected && w.ubus.contextInitialized &&
      !w.ubus.stopping) = (op.deferred && w.ubus.connected) := by
    cases hconnected : w.ubus.connected with
    | false => simp
    | true =>
      obtain ⟨hcontext,hstopping⟩ := h.ubus hconnected
      simp [hcontext,hstopping]
  have hslot : w'.slots ref = {w.slots ref with
      memory := none
      timer := (w.slots ref).timer && !op.timeoutSource
      networkRequest := (w.slots ref).networkRequest &&
        !(op.networkRequestPending && w.ubus.contextInitialized)
      call := false
      history := .released::((if op.deferred && w.ubus.connected then
        [.answered w.ubus.connection] else [])++.completed body::(w.slots ref).history)} := by
    rw [hw',advancedOperationCompleteBuffer,withOperation_some _ _ _ hmemory]
    dsimp only
    rw [advancedOperationFree,withOperation_some _ _ _ (by rw [updateSlot_self])]
    simp only [World.updateSlot,Function.update_self,Function.update_idem,called,hanswers]
  have hrest : (∀ other,other ≠ ref → w'.slots other = w.slots other) ∧ w'.next = w.next ∧
      w'.ubus = w.ubus ∧ w'.blocked = w.blocked ∧
      w'.advancedOperations = w.advancedOperations.filter (· != ref) := by
    rw [hw',advancedOperationCompleteBuffer,withOperation_some _ _ _ hmemory]
    dsimp only
    rw [advancedOperationFree,withOperation_some _ _ _ (by rw [updateSlot_self])]
    refine ⟨fun other ho => ?_,rfl,rfl,rfl,rfl⟩
    simp [World.updateSlot,called,ho]
  obtain ⟨hothers,hnext,hubus,hblocked,htable⟩ := hrest
  rw [← hw']
  have hover : (w'.slots ref).Over := by
    rw [hslot]
    refine ⟨rfl,by simp [hwaits.timer],rfl,by simp [hwaits.networkRequest],?_⟩
    simp [Slot.isBands,hwaits.history,Observation.createsBands]
  have hlt : ref < w.next := h.lt_next fun hempty => by
    have hcall := hwaits.call
    rw [hempty] at hcall
    cases hcall
  refine ⟨⟨fun other => ?_,fun other hle => ?_,fun other hother => ?_,fun other hother => ?_,
    hubus ▸ h.ubus⟩,?_⟩
  · by_cases ho : other = ref
    · subst ho
      exact .inr (.inr ⟨hover,by simp [htable]⟩)
    · rw [hothers other ho,htable]
      simpa [ho] using h.slots other
  · rw [hnext] at hle
    have ho : other ≠ ref := by
      rintro rfl
      exact absurd hlt (Nat.not_lt.mpr hle)
    rw [hothers other ho]
    exact h.fresh other hle
  · rw [htable] at hother
    exact hnext ▸ h.known other (List.mem_filter.mp hother).1
  · rw [hblocked] at hother
    obtain ⟨hlt',hmodes⟩ := h.blocked other hother
    have ho : other ≠ ref := by
      rintro rfl
      exact hwaits.not_modes hmodes
    rw [hothers other ho]
    exact ⟨hnext ▸ hlt',hmodes⟩
  · have hview : bandsView w' = (bandsView w).closed ref (op.request,op.deferred) := by
      refine Deferrals.ext ?_ ?_ (congrArg Ubus.connected hubus) (congrArg Ubus.connection hubus)
      · funext other
        by_cases ho : other = ref
        · subst ho
          simp [bandsView,Deferrals.closed,hover.memory]
        · simp [bandsView,Deferrals.closed,hothers other ho,ho]
      · funext other
        by_cases ho : other = ref
        · subst ho
          have hold : (bandsView w).marks other = [] := hwaits.view.2
          have hending : (bandsView w).ending (op.request,op.deferred) = .released::
              (if op.deferred && w.ubus.connected then [.answered w.ubus.connection] else []) := rfl
          have hnew : (bandsView w').marks other =
              if (w'.slots other).isBands then (w'.slots other).history.filterMap Observation.mark
              else [] := rfl
          have hclosed : ((bandsView w).closed other (op.request,op.deferred)).marks other =
              (bandsView w).ending (op.request,op.deferred)++(bandsView w).marks other := by
            simp [Deferrals.closed]
          rw [hnew,hclosed,hover.history,hslot,hwaits.history,hold,hending]
          by_cases hup : (op.deferred && w.ubus.connected) = true
          · rw [if_pos hup,if_pos hup]
            simp [Observation.mark]
          · rw [if_neg hup,if_neg hup]
            simp [Observation.mark]
        · simp [bandsView,Deferrals.closed,hothers other ho,ho]
    rw [hview]
    exact .closed hwaits.view.1

theorem advancedOperationReady_move (h : Tidy w) (hcall : (w.slots ref).call = true)
    (source : Nat) (error : Option GError) :
    Tidy (advancedOperationReady w ref source error) ∧ Deferrals.Move (bandsView w) (some ref)
      (bandsView (advancedOperationReady w ref source error)) := by
  rcases h.slots ref with hmodes | ⟨⟨op,hwaits⟩,-⟩ | ⟨hover,-⟩
  · rw [hmodes.call] at hcall
    cases hcall
  · have hmemory : ((w.updateSlot ref fun slot => {slot with call := false}).slots ref).memory =
        some op := by
      rw [updateSlot_self]
      exact hwaits.memory
    rw [advancedOperationReady,withOperation_some _ _ _ hmemory]
    split
    · exact advancedOperationCompleteBuffer_bands h hwaits _
    · rw [advancedOperationCompleteSuccess,withOperation_some _ _ _ hmemory]
      exact advancedOperationCompleteBuffer_bands h hwaits _
  · rw [hover.call] at hcall
    cases hcall

/-- With the connection gone, no band change may answer any more. -/
theorem cancelAdvancedOperations_move (h : Tidy w) (ubus : Ubus) (hdown : ubus.connected = false)
    (hconnection : ubus.connection = w.ubus.connection) :
    let w' := cancelAdvancedOperations {w with ubus := ubus} true
    Tidy w' ∧ bandsView w' = (bandsView w).lost := by
  intro w'
  have hwalk : Cancelled w.advancedOperations {w with ubus := ubus} w' := by
    refine foldl_cancelAdvancedOperation_spec w.advancedOperations fun ref hmem => ?_
    rcases h.slots ref with hmodes | ⟨hwaits,-⟩ | ⟨-,hnot⟩
    · exact .inl hmodes
    · exact .inr hwaits
    · exact absurd hmem hnot
  have hubus : w'.ubus = ubus := hwalk.ubus
  have hknown : ∀ ref ∈ w'.advancedOperations,ref ∈ w.advancedOperations := by
    intro ref hmem
    by_contra hnot
    exact hnot ((hwalk.others ref hnot).2.mp hmem)
  constructor
  · refine ⟨fun ref => ?_,fun ref hle => ?_,fun ref hmem => ?_,fun ref href => ?_,?_⟩
    · rcases h.slots ref with hmodes | ⟨⟨op,hwaits⟩,htable⟩ | ⟨hover,hnot⟩
      · exact .inl (hwalk.modes ref hmodes)
      · obtain ⟨hiff,hin,-⟩ := hwalk.waits ref op hwaits
        refine .inr (.inl ⟨⟨{op with deferred := false,transportLost := true},?_⟩,hiff.mpr htable⟩)
        rw [hin htable]
        exact hwaits.cutOff
      · obtain ⟨hsame,hiff⟩ := hwalk.others ref hnot
        exact .inr (.inr ⟨hsame ▸ hover,fun hmem => hnot (hiff.mp hmem)⟩)
    · have hle' : w.next ≤ ref := hwalk.next ▸ hle
      have hnot : ref ∉ w.advancedOperations :=
        fun hmem => absurd (h.known ref hmem) (Nat.not_lt.mpr hle')
      exact (hwalk.others ref hnot).1.trans (h.fresh ref hle')
    · rw [hwalk.next]
      exact h.known ref (hknown ref hmem)
    · have hblocked : w'.blocked = w.blocked := hwalk.blocked
      rw [hblocked] at href
      obtain ⟨hlt,hmodes⟩ := h.blocked ref href
      exact ⟨hwalk.next ▸ hlt,hwalk.modes ref hmodes⟩
    · intro hup
      rw [hubus,hdown] at hup
      cases hup
  · have hviews : ∀ ref,((bandsView w').requests ref = (bandsView w).lost.requests ref) ∧
        (bandsView w').marks ref = (bandsView w).marks ref := by
      intro ref
      rcases h.slots ref with hmodes | ⟨⟨op,hwaits⟩,htable⟩ | ⟨hover,hnot⟩
      · have hafter := hwalk.modes ref hmodes
        have hold : (bandsView w).requests ref = none := hmodes.view.1
        refine ⟨hafter.view.1.trans ?_,hafter.view.2.trans hmodes.view.2.symm⟩
        simp [Deferrals.lost,hold]
      · have hslot := (hwalk.waits ref op hwaits).2.1 htable
        have hafter : (w'.slots ref).Waits {op with deferred := false,transportLost := true} := by
          rw [hslot]
          exact hwaits.cutOff
        have hold : (bandsView w).requests ref = some (op.request,op.deferred) := hwaits.view.1
        refine ⟨hafter.view.1.trans ?_,hafter.view.2.trans hwaits.view.2.symm⟩
        simp [Deferrals.lost,hold]
      · have hsame : w'.slots ref = w.slots ref := (hwalk.others ref hnot).1
        refine ⟨?_,by simp [bandsView,hsame]⟩
        simp [bandsView,Deferrals.lost,hsame,hover.memory]
    refine Deferrals.ext (funext fun ref => (hviews ref).1) (funext fun ref => (hviews ref).2) ?_ ?_
    · exact (congrArg Ubus.connected hubus).trans hdown
    · exact (congrArg Ubus.connection hubus).trans hconnection

theorem step_move (hw : Tidy w) (hs : step w event = some w') :
    Tidy w' ∧ Deferrals.Move (bandsView w) (bandsReturns w event) (bandsView w') := by
  cases event with
  | setBands tables request resolved bridge =>
    simp only [step] at hs
    split at hs
    · cases hs
    · rename_i hready
      obtain rfl := Option.some.inj hs
      simp only [Bool.or_eq_true,not_or,Bool.not_eq_true,Bool.not_eq_false'] at hready
      exact methodSetBands_move (hw.refresh bridge) hready.2 tables request resolved
  | setModes tables request update bridge =>
    simp only [step] at hs
    split at hs
    · cases hs
    · obtain rfl := Option.some.inj hs
      obtain ⟨htidy,hview⟩ := methodSetModes_move (hw.refresh bridge) tables request update
      exact ⟨htidy,by rw [hview]; exact .same⟩
  | lookedUp lookup invoked =>
    simp only [step] at hs
    split at hs
    · cases hs
    · rename_i ref hblocked
      obtain rfl := Option.some.inj hs
      obtain ⟨htidy,hview⟩ := setModesLookedUp_move hw hblocked lookup invoked
      exact ⟨htidy,by rw [hview]; exact .same⟩
  | reloadReply ref succeeded bridge =>
    simp only [step] at hs
    split at hs
    · cases hs
    · rename_i hrequest
      obtain rfl := Option.some.inj hs
      have hrequest' : (w.slots ref).networkRequest = true := by simpa using hrequest
      obtain ⟨htidy,hview⟩ := advancedNetworkReloadComplete_move (hw.refresh bridge)
        hrequest' succeeded
      exact ⟨htidy,by rw [hview]; exact .same⟩
  | timeout ref bridge =>
    simp only [step] at hs
    split at hs
    · cases hs
    · rename_i hready
      obtain rfl := Option.some.inj hs
      simp only [Bool.or_eq_true,not_or,Bool.not_eq_true,Bool.not_eq_false'] at hready
      obtain ⟨htidy,hview⟩ := advancedOperationTimeout_move (hw.refresh bridge) hready.2
      exact ⟨htidy,by rw [hview]; exact .same⟩
  | bandsReady ref source error bridge =>
    simp only [step] at hs
    split at hs
    · cases hs
    · rename_i hready
      obtain rfl := Option.some.inj hs
      simp only [Bool.or_eq_true,not_or,Bool.not_eq_true,Bool.not_eq_false'] at hready
      exact advancedOperationReady_move (hw.refresh bridge) hready.2 source error
  | modemRemoved ref bridge =>
    simp only [step] at hs
    split at hs
    · cases hs
    · rename_i hready
      obtain rfl := Option.some.inj hs
      simp only [Bool.or_eq_true,not_or,Bool.not_eq_true,Bool.not_eq_false'] at hready
      rcases hw.slots ref with hmodes | ⟨⟨op,hwaits⟩,-⟩ | ⟨hover,-⟩
      · rw [hmodes.call] at hready
        cases hready.2
      · obtain ⟨htidy,hview⟩ := Slot.Waits.move (w:=w.refresh bridge)
          (f:=fun slot => {slot with cancelled := true}) hwaits (hw.refresh bridge)
          ⟨hwaits.memory,hwaits.type,hwaits.timer,hwaits.call,hwaits.networkRequest,hwaits.pending,
            hwaits.history⟩ rfl rfl
        exact ⟨htidy,by rw [hview]; exact .same⟩
      · rw [hover.call] at hready
        cases hready.2
  | connectionLost bridge =>
    obtain rfl := Option.some.inj hs
    rw [connectionLost]
    split
    · exact ⟨hw.refresh bridge,.same⟩
    · obtain ⟨htidy,hview⟩ := cancelAdvancedOperations_move (hw.refresh bridge)
        {w.ubus with connected := false} rfl rfl
      refine ⟨htidy,?_⟩
      rw [show bandsView w = bandsView (w.refresh bridge) from rfl]
      exact hview ▸ .lost
  | reconnected bridge =>
    simp only [step] at hs
    split at hs
    · cases hs
    · rename_i hdown
      obtain rfl := Option.some.inj hs
      simp only [Bool.or_eq_true,not_or,Bool.not_eq_true] at hdown
      exact ⟨⟨hw.slots,hw.fresh,hw.known,hw.blocked,fun _ => ⟨rfl,hdown.2⟩⟩,
        .reconnected hdown.1.2⟩
  | shutdown bridge =>
    simp only [step] at hs
    split at hs
    · cases hs
    · rename_i hdown
      obtain rfl := Option.some.inj hs
      simp only [Bool.or_eq_true,not_or,Bool.not_eq_true] at hdown
      exact ⟨⟨hw.slots,hw.fresh,hw.known,hw.blocked,fun hup => absurd hup (by simp [hdown.2])⟩,
        .same⟩
  | stop bridge =>
    simp only [step] at hs
    split at hs
    · cases hs
    · obtain rfl := Option.some.inj hs
      rw [l850glUbusStop]
      split
      · exact ⟨hw.refresh bridge,.same⟩
      · obtain ⟨htidy,hview⟩ := cancelAdvancedOperations_move (hw.refresh bridge)
          {w.ubus with connected := false,stopping := true} rfl rfl
        have hlost : Deferrals.Move (bandsView w) none (bandsView w).lost := .lost
        refine ⟨⟨htidy.slots,htidy.fresh,htidy.known,htidy.blocked,fun hup => ?_⟩,?_⟩
        · have hdown : (cancelAdvancedOperations {w.refresh bridge with
              ubus := {w.ubus with connected := false,stopping := true}} true).ubus.connected =
                false := congrArg Deferrals.connected hview
          exact absurd (hup.symm.trans hdown) (by decide)
        · exact hview ▸ hlost

theorem reachable_tidy (h : advancedSystem.Reachable w) : Tidy w := by
  refine h.invariant (P:=Tidy) (fun w (h₀ : Initial w) => ?_)
    fun w event w' hw hs => (step_move hw hs).1
  obtain ⟨hslots,-,htable,hblocked,hubus⟩ := h₀
  refine ⟨fun ref => .inl ?_,fun ref _ => by rw [hslots],fun ref hmem => ?_,fun ref href => ?_,
    hubus⟩
  · rw [hslots]
    exact Slot.empty_modes
  · rw [htable] at hmem
    cases hmem
  · rw [hblocked] at href
    cases href

/-- The band changes of every run keep the discipline. -/
theorem advancedSystem_disciplined :
    Disciplined advancedSystem bandsView bandsCalls bandsReturns := by
  refine disciplined_of_moves (fun w h₀ => ⟨fun ref request hrequest => ?_,fun ref _ => .inl ?_⟩)
    (fun w event w' hw hs => (step_move (reachable_tidy hw) hs).2) fun w ref hw => ?_
  · have hslots : w.slots = fun _ => Slot.empty := And.left h₀
    simp [bandsView,hslots,Slot.empty] at hrequest
  · have hslots : w.slots = fun _ => Slot.empty := And.left h₀
    simp [bandsView,hslots,Slot.empty,Slot.isBands]
  · rcases (reachable_tidy hw).slots ref with hmodes | ⟨⟨op,hwaits⟩,-⟩ | ⟨hover,-⟩
    · have hnone : (bandsView w).requests ref = none := hmodes.view.1
      simp [bandsCalls,hmodes.call,hnone]
    · have hsome : (bandsView w).requests ref = some (op.request,op.deferred) := hwaits.view.1
      simp [bandsCalls,hwaits.call,hsome]
    · simp [bandsCalls,bandsView,hover.call,hover.memory]

end Advanced
end L850GL
