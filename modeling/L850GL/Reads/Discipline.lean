import L850GL.Advanced.Discipline
import L850GL.Lib.Deferral
import L850GL.Reads.Effects
import L850GL.Sms.Discipline

/-! The requests behind the reads: each operation waits for one call, ends in its callback and is
answered exactly when its connection is still up. -/
namespace L850GL
namespace Reads

open Mutation World

variable {w w' : World} {ref other : OperationRef} {op : ReadOperation} {kind : ReadKind}
  {body : Reply} {source : Nat} {mutations : List CString} {event : Event}

def Observation.mark (ref : OperationRef) : Observation → Option RequestMark
  | .answered other connection _ => if other = ref then some (.answered connection) else none
  | .released other => if other = ref then some .released else none
  | _ => none

def view (w : World) : Deferrals where
  requests ref := (w.slots ref).memory.map fun op => (op.request,op.deferred)
  marks ref := w.trace.filterMap (Observation.mark ref)
  connected := w.ubus.connected
  connection := w.ubus.connection

def calls (w : World) (ref : OperationRef) : Nat := if (w.slots ref).call.isSome then 1 else 0

def returns (_ : World) : Event → Option OperationRef
  | .finish ref _ _ _ => some ref
  | _ => none

def UbusOk (ubus : Ubus) : Prop :=
  ubus.connected = true → ubus.contextInitialized = true ∧ ubus.stopping = false

/-- What is held of a live operation: its timeout, its handler and one call, for its own kind. -/
structure Slot.Waits (slot : Slot) (op : ReadOperation) (kind : ReadKind) : Prop where
  memory : slot.memory = some op
  timer : slot.timer = op.timeoutSource
  handler : slot.handler = op.parentCancelHandler
  call : ∃ callback source,slot.call = some (callback,source) ∧ callback.kind = kind

/-- Nothing is held of an operation that is over, or was never made. -/
structure Slot.Idle (slot : Slot) : Prop where
  memory : slot.memory = none
  timer : slot.timer = false
  handler : slot.handler = false
  call : slot.call = none

/-- The blocks and the tables between two events. -/
structure Tidy (w : World) : Prop where
  slots : ∀ ref,(w.slots ref).Idle ∧ (∀ kind,ref ∉ w.operations kind) ∨
    ∃ op kind,(w.slots ref).Waits op kind ∧ ∀ other,ref ∈ w.operations other ↔ other = kind
  fresh : ∀ ref,w.next ≤ ref → (w.slots ref).Idle ∧ (view w).marks ref = []
  ubus : UbusOk w.ubus

theorem Slot.Waits.not_idle {slot : Slot} (h : slot.Waits op kind) : ¬slot.Idle := by
  intro hidle
  have hnone := hidle.memory
  rw [h.memory] at hnone
  cases hnone

theorem Tidy.waits (h : Tidy w) (hmemory : (w.slots ref).memory = some op) :
    ref < w.next ∧ ∃ kind,(w.slots ref).Waits op kind ∧
      ∀ other,ref ∈ w.operations other ↔ other = kind := by
  have hnot : ¬(w.slots ref).Idle := by
    intro hidle
    have hnone := hidle.memory
    rw [hmemory] at hnone
    cases hnone
  refine ⟨?_,?_⟩
  · by_contra hle
    exact hnot (h.fresh ref (Nat.le_of_not_lt hle)).1
  · rcases h.slots ref with ⟨hidle,-⟩ | ⟨live,kind,hwaits,htable⟩
    · exact absurd hidle hnot
    · have heq : live = op := Option.some.inj (hwaits.memory.symm.trans hmemory)
      exact ⟨kind,heq ▸ hwaits,htable⟩

theorem Tidy.single (h : Tidy w) (href : ref < w.next) (hnext : w'.next = w.next)
    (hslots : ∀ other,other ≠ ref → w'.slots other = w.slots other)
    (htables : ∀ other,other ≠ ref → ∀ kind,other ∈ w'.operations kind ↔ other ∈ w.operations kind)
    (hmarks : ∀ other,other ≠ ref → (view w').marks other = (view w).marks other)
    (hubus : UbusOk w'.ubus)
    (hself : (w'.slots ref).Idle ∧ (∀ kind,ref ∉ w'.operations kind) ∨
      ∃ op kind,(w'.slots ref).Waits op kind ∧ ∀ other,ref ∈ w'.operations other ↔ other = kind) :
    Tidy w' where
  slots other := by
    by_cases ho : other = ref
    · exact ho ▸ hself
    · rw [hslots other ho]
      simp only [htables other ho]
      exact h.slots other
  fresh other hle := by
    rw [hnext] at hle
    have ho : other ≠ ref := by
      rintro rfl
      exact absurd href (Nat.not_lt.mpr hle)
    rw [hslots other ho,hmarks other ho]
    exact h.fresh other hle
  ubus := hubus

theorem Tidy.refresh (h : Tidy w) (bridge : Bridge) : Tidy (w.refresh bridge) :=
  ⟨h.slots,h.fresh,h.ubus⟩

theorem readOperationNew_move (h : Tidy w) (hconnected : w.ubus.connected = true)
    (callback : ReadCallback) (modem : ModemRef) :
    Tidy (readOperationNew callback.kind callback w modem) ∧
      Deferrals.Move (view w) none (view (readOperationNew callback.kind callback w modem)) := by
  obtain ⟨hidle,hmarks⟩ := h.fresh w.next (Nat.le_refl _)
  have hnot : ∀ kind,w.next ∉ w.operations kind := by
    rcases h.slots w.next with ⟨-,hnot⟩ | ⟨op,kind,hwaits,-⟩
    · exact hnot
    · exact absurd hidle hwaits.not_idle
  obtain ⟨w',hw'⟩ : ∃ w',w' = readOperationNew callback.kind callback w modem := ⟨_,rfl⟩
  rw [← hw']
  have hself : w'.slots w.next = ⟨some (newOperation w modem),true,true,
      some (callback,(w.bridge.modems modem).modem),false⟩ := by
    rw [hw']
    simp [readOperationNew,World.observe,World.updateSlot]
  have hother : ∀ other,other ≠ w.next → w'.slots other = w.slots other := by
    intro other ho
    rw [hw']
    simp [readOperationNew,World.observe,World.updateSlot,ho]
  have hmarksEq : (view w').marks = (view w).marks := by
    rw [hw']
    rfl
  have htable : ∀ other kind,other ∈ w'.operations kind ↔
      other ∈ w.operations kind ∨ other = w.next ∧ kind = callback.kind := by
    intro other kind
    rw [hw']
    by_cases hk : kind = callback.kind
    · subst hk
      simp [readOperationNew,World.observe]
    · simp [readOperationNew,World.observe,World.updateSlot,hk]
  constructor
  · constructor
    · intro other
      by_cases ho : other = w.next
      · subst ho
        refine .inr ⟨newOperation w modem,callback.kind,?_,fun kind => ?_⟩
        · rw [hself]
          exact ⟨rfl,rfl,rfl,callback,_,rfl,rfl⟩
        · rw [htable]
          simp [hnot]
      · rw [hother other ho]
        simp only [htable,ho,false_and,or_false]
        exact h.slots other
    · intro other hle
      have hnext : w'.next = w.next+1 := by rw [hw']; rfl
      rw [hnext] at hle
      have ho : other ≠ w.next := by
        rintro rfl
        exact absurd hle (Nat.not_succ_le_self _)
      rw [hother other ho,hmarksEq]
      exact h.fresh other (Nat.le_of_succ_le hle)
    · rw [hw']
      exact h.ubus
  · have hview : view w' = (view w).opened w.next := by
      refine Deferrals.ext ?_ hmarksEq ?_ ?_
      · funext other
        by_cases ho : other = w.next
        · subst ho
          simp [view,Deferrals.opened,hself,newOperation]
        · simp [view,Deferrals.opened,hother other ho,ho]
      · rw [hw']
        rfl
      · rw [hw']
        rfl
    rw [hview]
    refine .opened ?_ hmarks hconnected
    simp [view,hidle.memory]

theorem ends_marks (hubus : UbusOk w.ubus) (h : Ends kind w w' ref op body) (other : OperationRef) :
    (view w').marks other = if other = ref then
      (view w).ending (op.request,op.deferred)++(view w).marks other else (view w).marks other := by
  have hanswers : answers w ref op body = if op.deferred && w.ubus.connected then
      [.answered ref w.ubus.connection body] else [] := by
    unfold answers
    cases hconnected : w.ubus.connected with
    | false => simp
    | true =>
      obtain ⟨hcontext,hstopping⟩ := hubus hconnected
      simp [hcontext,hstopping]
  have hcompleted : (Observation.completed ref kind op.modem w.bridge.now body::w.trace).filterMap
      (Observation.mark other) = w.trace.filterMap (Observation.mark other) :=
    List.filterMap_cons_none rfl
  have hending : (view w).ending (op.request,op.deferred) = .released::
      (if op.deferred && w.ubus.connected then [.answered w.ubus.connection] else []) := rfl
  have htrace : (view w').marks other = w'.trace.filterMap (Observation.mark other) := rfl
  rw [htrace,h.trace,hanswers,hending]
  by_cases hup : (op.deferred && w.ubus.connected) = true
  · rw [if_pos hup,if_pos hup]
    by_cases ho : other = ref
    · subst ho
      simp [view,Observation.mark,hcompleted]
    · simp [view,Observation.mark,hcompleted,ho,Ne.symm ho]
  · rw [if_neg hup,if_neg hup]
    by_cases ho : other = ref
    · subst ho
      simp [view,Observation.mark,hcompleted]
    · simp [view,Observation.mark,hcompleted,ho,Ne.symm ho]

/-- A callback ends its operation, or leaves it with the vendor command. -/
theorem readReady_move (h : Tidy w) {callback : ReadCallback}
    (hcall : (w.slots ref).call = some (callback,source)) (result : ReadResult) :
    let called := w.updateSlot ref fun slot => {slot with call := none}
    Tidy (readReady called mutations ref callback source result) ∧
      Deferrals.Move (view w) (some ref)
        (view (readReady called mutations ref callback source result)) := by
  intro called
  obtain ⟨op,kind,hwaits,htable⟩ : ∃ op kind,(w.slots ref).Waits op kind ∧
      ∀ other,ref ∈ w.operations other ↔ other = kind := by
    rcases h.slots ref with ⟨hidle,-⟩ | hlive
    · rw [hidle.call] at hcall
      cases hcall
    · exact hlive
  have href := (h.waits hwaits.memory).1
  have hkind : callback.kind = kind := by
    obtain ⟨other,_,hother,hkind⟩ := hwaits.call
    rw [hcall] at hother
    cases hother
    exact hkind
  have hself : called.slots ref = {w.slots ref with call := none} := updateSlot_self _ _ _
  have hothers : ∀ other,other ≠ ref → called.slots other = w.slots other :=
    fun other ho => updateSlot_other _ _ _ ho
  have hmemory : (called.slots ref).memory = some op := by rw [hself]; exact hwaits.memory
  have hviewCalled : view called = view w := by
    refine Deferrals.ext ?_ rfl rfl rfl
    funext other
    by_cases ho : other = ref
    · subst ho
      simp [view,hself]
    · simp [view,hothers other ho]
  obtain ⟨w',hw'⟩ : ∃ w',w' = readReady called mutations ref callback source result := ⟨_,rfl⟩
  have heffect : (∃ body,Ends callback.kind called w' ref op body) ∨
      callback.kind = .scan ∧ w' = fallBack called ref op := by
    rw [hw']
    exact readReady_effect hmemory
  rw [← hw']
  rcases heffect with ⟨body,hends⟩ | ⟨hscan,hfall⟩
  · have hmarks := ends_marks (w:=called) h.ubus hends
    have hfreed : w'.slots ref = (called.slots ref).freed op := by
      rw [hends.slots,Function.update_self]
    have hkept : ∀ other,other ≠ ref → w'.slots other = w.slots other := by
      intro other ho
      rw [hends.slots,Function.update_of_ne ho,hothers other ho]
    have hidle : (w'.slots ref).Idle := by
      rw [hfreed,hself]
      refine ⟨rfl,?_,?_,rfl⟩
      · simp [Slot.freed,hwaits.timer]
      · simp [Slot.freed,hwaits.handler]
    constructor
    · refine h.single href hends.next hkept (fun other ho kind' => ?_) (fun other ho => ?_)
        (hends.ubus ▸ h.ubus) (.inl ⟨hidle,fun kind' => ?_⟩)
      · rw [hends.operations]
        by_cases hk : kind' = callback.kind
        · subst hk
          simp [called,World.updateSlot,ho]
        · simp [called,World.updateSlot,hk]
      · rw [hmarks other,if_neg ho,hviewCalled]
      · rw [hends.operations]
        by_cases hk : kind' = callback.kind
        · subst hk
          simp
        · rw [Function.update_of_ne hk]
          exact fun hmem => hk (((htable kind').mp hmem).trans hkind.symm)
    · have hview : view w' = (view w).closed ref (op.request,op.deferred) := by
        refine Deferrals.ext ?_ ?_ ?_ ?_
        · funext other
          by_cases ho : other = ref
          · subst ho
            simp [view,Deferrals.closed,hidle.memory]
          · simp [view,Deferrals.closed,hkept other ho,ho]
        · funext other
          rw [hmarks other,hviewCalled]
          by_cases ho : other = ref
          · subst ho
            simp [Deferrals.closed]
          · simp [Deferrals.closed,ho]
        · exact congrArg Ubus.connected hends.ubus
        · exact congrArg Ubus.connection hends.ubus
      rw [hview]
      refine .closed ?_
      simp [view,hwaits.memory]
  · have hback : w'.slots ref = {w.slots ref with
        memory := some {op with vendorFallback := true}
        call := some (.vendorScanReady,(called.bridge.modems op.modem).modem)} := by
      rw [hfall,fallBack,updateSlot_self,hself]
    have hkept : ∀ other,other ≠ ref → w'.slots other = w.slots other := by
      intro other ho
      rw [hfall,fallBack,updateSlot_other _ _ _ ho,hothers other ho]
    have hview : view w' = view w := by
      refine Deferrals.ext ?_ ?_ ?_ ?_
      · funext other
        by_cases ho : other = ref
        · subst ho
          simp [view,hback,hwaits.memory]
        · simp [view,hkept other ho]
      · rw [hfall]
        rfl
      · rw [hfall]
        rfl
      · rw [hfall]
        rfl
    constructor
    · refine h.single href (by rw [hfall]; rfl) hkept (fun other _ kind' => by rw [hfall]; rfl)
        (fun other _ => by rw [hview]) (by rw [hfall]; exact h.ubus)
        (.inr ⟨{op with vendorFallback := true},kind,?_,fun kind' => ?_⟩)
      · rw [hback]
        exact ⟨rfl,hwaits.timer,hwaits.handler,.vendorScanReady,_,rfl,hscan.symm.trans hkind⟩
      · rw [hfall]
        exact htable kind'
    · rw [hview]
      exact .same

theorem cancel_move (h : Tidy w) (hmemory : (w.slots ref).memory = some op) {timer : Bool}
    {flagged : ReadOperation} (hrequest : flagged.request = op.request)
    (hdeferred : flagged.deferred = op.deferred) (htimer : timer = flagged.timeoutSource)
    (hhandler : flagged.parentCancelHandler = op.parentCancelHandler) :
    let w' := w.updateSlot ref fun slot => {slot with
      memory := some flagged,timer := timer,cancelled := true}
    Tidy w' ∧ view w' = view w := by
  intro w'
  obtain ⟨href,kind,hwaits,htable⟩ := h.waits hmemory
  have hself : w'.slots ref = {w.slots ref with
      memory := some flagged,timer := timer,cancelled := true} := updateSlot_self _ _ _
  have hkept : ∀ other,other ≠ ref → w'.slots other = w.slots other :=
    fun other ho => updateSlot_other _ _ _ ho
  constructor
  · refine h.single href rfl hkept (fun _ _ _ => Iff.rfl) (fun _ _ => rfl) h.ubus
      (.inr ⟨flagged,kind,?_,htable⟩)
    rw [hself]
    exact ⟨rfl,htimer,hwaits.handler.trans hhandler.symm,hwaits.call⟩
  · refine Deferrals.ext ?_ rfl rfl rfl
    funext other
    by_cases ho : other = ref
    · subst ho
      simp [view,hself,hmemory,hrequest,hdeferred]
    · simp [view,hkept other ho]

theorem readTimeout_move (h : Tidy w) (htimer : (w.slots ref).timer = true) :
    Tidy (readTimeout w ref) ∧ view (readTimeout w ref) = view w := by
  obtain ⟨op,hmemory⟩ : ∃ op,(w.slots ref).memory = some op := by
    rcases h.slots ref with ⟨hidle,-⟩ | ⟨op,kind,hwaits,-⟩
    · rw [hidle.timer] at htimer
      cases htimer
    · exact ⟨op,hwaits.memory⟩
  have heq : readTimeout w ref = w.updateSlot ref fun slot => {slot with
      memory := some {op with timeoutSource := false,timedOut := true}
      timer := false
      cancelled := true} := by
    rw [readTimeout,withOperation_some _ _ _ (by rw [updateSlot_self]; exact hmemory)]
    simp only [World.updateSlot,Function.update_self,Function.update_idem]
  rw [heq]
  exact cancel_move h hmemory rfl rfl rfl rfl

theorem readParentCancelled_move (h : Tidy w) (hhandler : (w.slots ref).handler = true) :
    Tidy (readParentCancelled w ref) ∧ view (readParentCancelled w ref) = view w := by
  obtain ⟨op,kind,hwaits⟩ : ∃ op kind,(w.slots ref).Waits op kind := by
    rcases h.slots ref with ⟨hidle,-⟩ | ⟨op,kind,hwaits,-⟩
    · rw [hidle.handler] at hhandler
      cases hhandler
    · exact ⟨op,kind,hwaits⟩
  have heq : readParentCancelled w ref = w.updateSlot ref fun slot => {slot with
      memory := some op,timer := op.timeoutSource,cancelled := true} := by
    rw [readParentCancelled,withOperation_some _ _ _ hwaits.memory]
    simp only [World.updateSlot,← hwaits.memory,← hwaits.timer]
  rw [heq]
  exact cancel_move h hwaits.memory rfl rfl rfl rfl

/-- What the loss of the connection does to a live operation. -/
def Slot.cutOff (slot : Slot) : Slot :=
  {slot with
    memory := slot.memory.map fun op => {op with deferred := false,transportLost := true}
    cancelled := true}

theorem Slot.cutOff_cutOff (slot : Slot) : slot.cutOff.cutOff = slot.cutOff := by
  unfold Slot.cutOff
  cases slot.memory with
  | none => rfl
  | some op => rfl

theorem cancelReadOperations_slots (kind : ReadKind) (w : World) (ref : OperationRef) :
    (cancelReadOperations kind w true).slots ref =
      if ref ∈ w.operations kind then (w.slots ref).cutOff else w.slots ref := rfl

theorem cancelOperations_slots (w : World) (ref : OperationRef) :
    (∀ kind,ref ∈ w.operations kind → (cancelOperations w).slots ref = (w.slots ref).cutOff) ∧
      ((∀ kind,ref ∉ w.operations kind) → (cancelOperations w).slots ref = w.slots ref) := by
  have htables : ∀ kind (v : World),(cancelReadOperations kind v true).operations = v.operations :=
    fun _ _ => rfl
  have hslots : (cancelOperations w).slots ref =
      let scan := if ref ∈ w.operations .scan then (w.slots ref).cutOff else w.slots ref
      let status := if ref ∈ w.operations .status then scan.cutOff else scan
      if ref ∈ w.operations .carrier then status.cutOff else status := by
    simp only [cancelOperations,cancelL850CarrierOperations,cancelL850StatusOperations,
      cancelL850ScanOperations,cancelReadOperations_slots,htables]
  rw [hslots]
  constructor
  · intro kind hkind
    cases kind with
    | status => simp [hkind,apply_ite Slot.cutOff,Slot.cutOff_cutOff]
    | scan => simp [hkind,Slot.cutOff_cutOff]
    | carrier => simp [hkind,apply_ite Slot.cutOff,Slot.cutOff_cutOff]
  · intro hnot
    simp [hnot]

/-- With the connection gone, no operation may answer any more. -/
theorem lose_move (h : Tidy w) (ubus : Ubus) (hdown : ubus.connected = false)
    (hconnection : ubus.connection = w.ubus.connection) (o : Observation)
    (ho : ∀ ref,o.mark ref = none) :
    Tidy (cancelOperations ({w with ubus := ubus}.observe o)) ∧
      view (cancelOperations ({w with ubus := ubus}.observe o)) = (view w).lost := by
  obtain ⟨w',hw'⟩ : ∃ w',w' = cancelOperations ({w with ubus := ubus}.observe o) := ⟨_,rfl⟩
  have hcut : ∀ ref kind,ref ∈ w.operations kind → w'.slots ref = (w.slots ref).cutOff := by
    intro ref kind hkind
    rw [hw']
    exact (cancelOperations_slots _ ref).1 kind hkind
  have hkept : ∀ ref,(∀ kind,ref ∉ w.operations kind) → w'.slots ref = w.slots ref := by
    intro ref hnot
    rw [hw']
    exact (cancelOperations_slots _ ref).2 hnot
  have hmarks : (view w').marks = (view w).marks := by
    funext ref
    rw [hw']
    exact List.filterMap_cons_none (ho ref)
  have hubus : w'.ubus = ubus := by rw [hw']; rfl
  rw [← hw']
  constructor
  · constructor
    · intro ref
      have htables : w'.operations = w.operations := by rw [hw']; rfl
      rw [htables]
      rcases h.slots ref with ⟨hidle,hnot⟩ | ⟨op,kind,hwaits,htable⟩
      · rw [hkept ref hnot]
        exact .inl ⟨hidle,hnot⟩
      · rw [hcut ref kind ((htable kind).mpr rfl)]
        refine .inr ⟨{op with deferred := false,transportLost := true},kind,?_,htable⟩
        exact ⟨by rw [Slot.cutOff,hwaits.memory]; rfl,hwaits.timer,hwaits.handler,hwaits.call⟩
    · intro ref hle
      have hnext : w'.next = w.next := by rw [hw']; rfl
      rw [hnext] at hle
      obtain ⟨hidle,hnone⟩ := h.fresh ref hle
      rw [hmarks]
      rcases h.slots ref with ⟨-,hnot⟩ | ⟨op,kind,hwaits,-⟩
      · rw [hkept ref hnot]
        exact ⟨hidle,hnone⟩
      · exact absurd hidle hwaits.not_idle
    · intro hup
      rw [hubus,hdown] at hup
      cases hup
  · refine Deferrals.ext ?_ hmarks ?_ ?_
    · funext ref
      simp only [view,Deferrals.lost]
      rcases h.slots ref with ⟨hidle,hnot⟩ | ⟨op,kind,hwaits,htable⟩
      · rw [hkept ref hnot,hidle.memory]
        rfl
      · rw [hcut ref kind ((htable kind).mpr rfl),Slot.cutOff,hwaits.memory]
        rfl
    · exact (congrArg Ubus.connected hubus).trans hdown
    · exact (congrArg Ubus.connection hubus).trans hconnection

theorem Serves.move (h : Serves kind w w') (hw : Tidy w) (hconnected : w.ubus.connected = true) :
    Tidy w' ∧ Deferrals.Move (view w) none (view w') := by
  cases h with
  | refused body h =>
    have hview : view w' = view w := by
      rw [h]
      refine Deferrals.ext rfl (funext fun ref => ?_) rfl rfl
      have hnone : (Observation.refused body).mark ref = none := rfl
      exact List.filterMap_cons_none hnone
    refine ⟨⟨?_,?_,?_⟩,?_⟩
    · rw [h]
      exact hw.slots
    · rw [hview,h]
      exact hw.fresh
    · rw [h]
      exact hw.ubus
    · rw [hview]
      exact .same
  | started callback modem hkind _ _ h =>
    subst hkind
    rw [h]
    exact readOperationNew_move hw hconnected callback modem

theorem step_move (hw : Tidy w) (hs : step w event = some w') :
    Tidy w' ∧ Deferrals.Move (view w) (returns w event) (view w') := by
  have hserved : ∀ {kind : ReadKind} {served : World} (bridge : Bridge),
      (if (!w.ubus.connected) = true then none else some served) = some w' →
      Serves kind (w.refresh bridge) served →
      Tidy w' ∧ Deferrals.Move (view w) none (view w') := by
    intro kind served bridge hs hserves
    split at hs
    · cases hs
    · rename_i hup
      obtain rfl := Option.some.inj hs
      have hconnected : w.ubus.connected = true := by simpa using hup
      exact hserves.move (hw.refresh bridge) hconnected
  cases event with
  | cellLockStatus mutations request bridge =>
    exact hserved bridge hs (methodCellLockStatus_serves _ mutations request)
  | cellScan mutations request bridge =>
    exact hserved bridge hs (methodCellScan_serves _ mutations request)
  | getCarrierInfo mutations request bridge =>
    exact hserved bridge hs (methodGetCarrierInfo_serves _ mutations request)
  | finish ref result mutations bridge =>
    simp only [step] at hs
    split at hs
    · cases hs
    · rename_i callback source hcall
      obtain rfl := Option.some.inj hs
      exact readReady_move (hw.refresh bridge) hcall _
  | timeout ref bridge =>
    simp only [step] at hs
    split at hs
    · cases hs
    · rename_i htimer
      obtain rfl := Option.some.inj hs
      have htimer' : (w.slots ref).timer = true := by simpa using htimer
      obtain ⟨htidy,hview⟩ := readTimeout_move (hw.refresh bridge) htimer'
      exact ⟨htidy,by rw [hview]; exact .same⟩
  | modemRemoved ref bridge =>
    simp only [step] at hs
    split at hs
    · cases hs
    · rename_i hhandler
      obtain rfl := Option.some.inj hs
      have hhandler' : (w.slots ref).handler = true := by simpa using hhandler
      obtain ⟨htidy,hview⟩ := readParentCancelled_move (hw.refresh bridge) hhandler'
      exact ⟨htidy,by rw [hview]; exact .same⟩
  | connectionLost bridge =>
    obtain rfl := Option.some.inj hs
    rw [connectionLost]
    split
    · exact ⟨hw.refresh bridge,.same⟩
    · have hlose := lose_move (hw.refresh bridge) {w.ubus with connected := false} rfl rfl
        (.connectionLost w.ubus.connection) fun _ => rfl
      exact ⟨hlose.1,hlose.2 ▸ .lost⟩
  | reconnected bridge =>
    simp only [step] at hs
    split at hs
    · cases hs
    · rename_i hdown
      obtain rfl := Option.some.inj hs
      simp only [Bool.or_eq_true,not_or,Bool.not_eq_true] at hdown
      exact ⟨⟨hw.slots,hw.fresh,fun _ => ⟨rfl,hdown.2⟩⟩,.reconnected hdown.1⟩
  | shutdown bridge =>
    simp only [step] at hs
    split at hs
    · cases hs
    · rename_i hdown
      obtain rfl := Option.some.inj hs
      exact ⟨⟨hw.slots,hw.fresh,fun hup => absurd hup hdown⟩,.same⟩
  | stop bridge =>
    obtain rfl := Option.some.inj hs
    rw [l850glUbusStop]
    split
    · exact ⟨hw.refresh bridge,.same⟩
    · have hlose := lose_move (hw.refresh bridge)
        {w.ubus with connected := false,stopping := true} rfl rfl
        (.connectionLost w.ubus.connection) fun _ => rfl
      refine ⟨⟨hlose.1.slots,hlose.1.fresh,?_⟩,?_⟩
      · intro hup
        cases hup
      · have hview := hlose.2
        rw [show view w = view (w.refresh bridge) from rfl]
        exact hview ▸ Deferrals.Move.lost

theorem reachable_tidy (h : readsSystem.Reachable w) : Tidy w := by
  refine h.invariant (P:=Tidy) (fun w (h₀ : Initial w) => ?_)
    fun w event w' hw hs => (step_move hw hs).1
  have hidle : ∀ ref,(w.slots ref).Idle := by
    intro ref
    rw [h₀.slots]
    exact ⟨rfl,rfl,rfl,rfl⟩
  refine ⟨fun ref => .inl ⟨hidle ref,fun kind => ?_⟩,fun ref _ => ⟨hidle ref,?_⟩,h₀.ubus⟩
  · rw [h₀.operations]
    exact List.not_mem_nil
  · simp [view,h₀.trace]

/-- The lock states, scans and carrier queries of every run keep the discipline. -/
theorem readsSystem_disciplined : Disciplined readsSystem view calls returns := by
  refine disciplined_of_moves (fun w h₀ => ⟨fun ref request hrequest => ?_,fun ref _ => .inl ?_⟩)
    (fun w event w' hw hs => (step_move (reachable_tidy hw) hs).2) fun w ref hw => ?_
  · have hslots := Initial.slots h₀
    simp [view,hslots,Slot.empty] at hrequest
  · have htrace := Initial.trace h₀
    simp [view,htrace]
  · rcases (reachable_tidy hw).slots ref with ⟨hidle,-⟩ | ⟨op,kind,hwaits,-⟩
    · simp [calls,view,hidle.call,hidle.memory]
    · obtain ⟨callback,source,hcall,-⟩ := hwaits.call
      simp [calls,view,hcall,hwaits.memory]

end Reads

/-- The deferred requests, mode changes and cell locks apart: in every run of each part, whatever
order completions, timeouts, removals, lost connections, reconnects and the stop come in. -/
theorem deferredRequests_disciplined (sha256 : CString → Sms.Digest)
    (random : Nat → Option (Vector UInt8 16)) :
    Disciplined (Sms.startedSystem sha256 random) Sms.requestsView Sms.smsCalls
        Sms.smsReturns ∧
      Disciplined Advanced.advancedSystem Advanced.bandsView Advanced.bandsCalls
        Advanced.bandsReturns ∧
      Disciplined Reads.readsSystem Reads.view Reads.calls Reads.returns :=
  ⟨Sms.startedSystem_disciplined sha256 random,Advanced.advancedSystem_disciplined,
    Reads.readsSystem_disciplined⟩

end L850GL
