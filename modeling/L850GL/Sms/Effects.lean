import L850GL.Sms.System

/-! What one event can do to the messaging half of the bridge: nothing to its operations, start
one, dispatch its message, end it, change an epoch, or make or remove a record. -/
namespace L850GL
namespace Sms

open Errors Messaging Mutation World ExpiringQueue

/-- What an operation keeps from its start to its end, the dispatch of its message apart. -/
def SmsOperation.identity (operation : SmsOperation) : SmsOperation :=
  {operation with
    properties := none
    sms := none
    request := 0
    timeoutSource := false
    timedOut := false
    transportLost := false
    deferred := false
    cancelled := false}

def Call.operation : Call → Option OperationRef
  | .list _ _ _ => none
  | .create op | .send op | .delete op _ => some op

/-- `m'` is in the epoch of `m`, with at most its expired tokens dropped. -/
structure Messaging.Ledger (now : Int) (m m' : Messaging) : Prop where
  messaging : m'.messaging = m.messaging
  epoch : m'.messagingGeneration = m.messagingGeneration
  dedupe : m'.smsDedupe = m.smsDedupe ∨ m'.smsDedupe = prune now m.smsDedupe

/-- A step that neither starts, dispatches nor ends an operation. -/
structure Passive (w w' : World) : Prop where
  bridge : w'.bridge = w.bridge
  admitted : w'.admitted = w.admitted
  next : w'.next = w.next
  operations : ∀ op, (w'.operations op).map SmsOperation.identity =
    (w.operations op).map SmsOperation.identity
  messaging : ∀ ref, (w.messaging ref).Ledger w.bridge.now (w'.messaging ref)
  ready : ∀ ref, (w'.messaging ref).smsCacheState.isReady = true →
    (w.messaging ref).smsCacheState.isReady = true ∨
      .listed ref (w.messaging ref).messagingGeneration ∈ w'.trace
  calls : ∃ later, w'.calls = w.calls++later ∧ ∀ c ∈ later, c.operation = none
  trace : ∃ later, w'.trace = later++w.trace ∧
    ∀ o ∈ later, ∃ ref, o = .listed ref (w.messaging ref).messagingGeneration

variable {w w' w'' : World} {ref other : ModemRef} {op : OperationRef} {operation : SmsOperation}
  {m m' m'' : Messaging} {now : Int}

theorem Messaging.Ledger.refl (m : Messaging) : m.Ledger now m := ⟨rfl,rfl,.inl rfl⟩

theorem Messaging.Ledger.trans (h : m.Ledger now m') (h' : m'.Ledger now m'') :
    m.Ledger now m'' := by
  refine ⟨h'.messaging.trans h.messaging,h'.epoch.trans h.epoch,?_⟩
  have hprune : ∀ q : Queue CString SmsResult, prune now (prune now q) = prune now q := by
    intro q
    simp [prune,List.filter_filter]
  rcases h.dedupe with h₁ | h₁
  · rw [← h₁]
    exact h'.dedupe
  · right
    rcases h'.dedupe with h₂ | h₂
    · rw [h₂,h₁]
    · rw [h₂,h₁,hprune]

theorem Passive.refl (w : World) : Passive w w :=
  ⟨rfl,rfl,rfl,fun _ => rfl,fun _ => .refl _,fun _ h => .inl h,⟨[],by simp,by simp⟩,
    ⟨[],rfl,by simp⟩⟩

theorem Passive.trans (h : Passive w w') (h' : Passive w' w'') : Passive w w'' := by
  obtain ⟨c₁,hc₁,hn₁⟩ := h.calls
  obtain ⟨c₂,hc₂,hn₂⟩ := h'.calls
  obtain ⟨t₁,ht₁,hl₁⟩ := h.trace
  obtain ⟨t₂,ht₂,hl₂⟩ := h'.trace
  refine ⟨h'.bridge.trans h.bridge,h'.admitted.trans h.admitted,h'.next.trans h.next,
    fun op => (h'.operations op).trans (h.operations op),fun ref => ?_,fun ref hr => ?_,
    ⟨c₁++c₂,by rw [hc₂,hc₁,List.append_assoc],?_⟩,⟨t₂++t₁,by rw [ht₂,ht₁,List.append_assoc],?_⟩⟩
  · have h₁ := h'.messaging ref
    rw [h.bridge] at h₁
    exact (h.messaging ref).trans h₁
  · rcases h'.ready ref hr with h₁ | h₁
    · rcases h.ready ref h₁ with h₂ | h₂
      · exact .inl h₂
      · exact .inr (ht₂ ▸ List.mem_append_right _ h₂)
    · rw [(h.messaging ref).epoch] at h₁
      exact .inr h₁
  · intro c hc
    exact (List.mem_append.mp hc).elim (hn₁ c) (hn₂ c)
  · intro o ho
    rcases List.mem_append.mp ho with ho | ho
    · obtain ⟨ref,rfl⟩ := hl₂ o ho
      exact ⟨ref,by rw [(h.messaging ref).epoch]⟩
    · exact hl₁ o ho

/-- A record's messaging half written back in its epoch. -/
theorem Passive.updateMessaging (hm : (w.messaging ref).Ledger w.bridge.now m)
    (hr : m.smsCacheState.isReady = true → (w.messaging ref).smsCacheState.isReady = true) :
    Passive w (w.updateMessaging ref m) := by
  refine ⟨rfl,rfl,rfl,fun _ => rfl,fun other => ?_,fun other h => ?_,⟨[],by simp
    [World.updateMessaging],by simp⟩,⟨[],rfl,by simp⟩⟩
  all_goals simp only [World.updateMessaging] at *
  · by_cases ho : other = ref
    · subst ho
      simpa using hm
    · simpa [ho] using Ledger.refl (w.messaging other)
  · left
    by_cases ho : other = ref
    · subst ho
      exact hr (by simpa using h)
    · simpa [ho] using h

theorem Passive.updateOperation {value : Option SmsOperation}
    (h : value.map SmsOperation.identity = (w.operations op).map SmsOperation.identity) :
    Passive w (w.updateOperation op value) := by
  refine ⟨rfl,rfl,rfl,fun other => ?_,fun _ => .refl _,fun _ h => .inl h,⟨[],by simp
    [World.updateOperation],by simp⟩,⟨[],rfl,by simp⟩⟩
  simp only [World.updateOperation]
  by_cases ho : other = op
  · subst ho
    simpa using h
  · simp [ho]

theorem Messaging.querySms_ledger (now : Int) (m : Messaging) :
    m.Ledger now m.querySms.1 := by
  simp only [Messaging.querySms]
  split
  · exact .refl m
  split
  · exact ⟨rfl,rfl,.inl rfl⟩
  · exact ⟨rfl,rfl,.inl rfl⟩

theorem Messaging.querySms_ready (m : Messaging) :
    m.querySms.1.smsCacheState.isReady = m.smsCacheState.isReady := by
  simp only [Messaging.querySms]
  split
  · rfl
  split
  · rfl
  · dsimp only
    split
    · rfl
    · rename_i h
      rw [Bool.not_eq_true] at h
      rw [h]
      rfl

theorem querySms_passive (w : World) (ref : ModemRef) : Passive w (w.querySms ref) := by
  have h₁ := Passive.updateMessaging (w:=w)
    (Messaging.querySms_ledger _ (w.messaging ref)) (by rw [Messaging.querySms_ready]; exact id)
  simp only [World.querySms]
  split
  · exact .refl w
  split
  · refine h₁.trans ⟨rfl,rfl,rfl,fun _ => rfl,fun _ => .refl _,fun _ h => .inl h,⟨_,rfl,?_⟩,
      ⟨[],rfl,by simp⟩⟩
    simp [Call.operation]
  · exact h₁

theorem cancelMutation_passive (w : World) (ref : ModemRef) : Passive w (cancelMutation w ref) := by
  simp only [cancelMutation]
  split
  · refine Passive.updateOperation ?_
    rw [Option.map_map]
    rfl
  · exact .refl w

theorem Messaging.smsAdded_ledger (m : Messaging) (path : Option CString) :
    m.Ledger now (m.smsAdded path) := by
  simp only [Messaging.smsAdded]
  split
  · exact ⟨rfl,rfl,.inl rfl⟩
  · exact ⟨rfl,rfl,.inl rfl⟩

theorem Messaging.smsAdded_state (m : Messaging) (path : Option CString) :
    (m.smsAdded path).smsCacheState = m.smsCacheState := by
  simp only [Messaging.smsAdded]
  split
  · rfl
  · rfl

theorem Messaging.smsDeleted_ledger (m : Messaging) (path : CString) :
    m.Ledger now (m.smsDeleted path) := by
  simp only [Messaging.smsDeleted]
  split_ifs
  all_goals
    split
    · exact ⟨rfl,rfl,.inl rfl⟩
    · exact ⟨rfl,rfl,.inl rfl⟩

theorem Messaging.smsDeleted_state (m : Messaging) (path : CString) :
    (m.smsDeleted path).smsCacheState = m.smsCacheState := by
  simp only [Messaging.smsDeleted]
  split_ifs
  all_goals
    split
    · rfl
    · rfl

theorem smsAdded_passive (w : World) (ref : ModemRef) (path : Option CString) :
    Passive w (smsAdded w ref path) := by
  refine (Passive.updateMessaging (Messaging.smsAdded_ledger _ _) ?_).trans (querySms_passive _ _)
  rw [Messaging.smsAdded_state]
  exact id

theorem smsDeleted_passive (w : World) (ref : ModemRef) (path : Option CString) :
    Passive w (smsDeleted w ref path) := by
  simp only [smsDeleted]
  split
  · exact .refl w
  · refine (Passive.updateMessaging (Messaging.smsDeleted_ledger _ _) ?_).trans
      (querySms_passive _ _)
    rw [Messaging.smsDeleted_state]
    exact id

theorem smsPropertiesChanged_passive (w : World) (ref : ModemRef) (path : CString)
    (properties : Nat → SmsProperties) :
    Passive w (smsPropertiesChanged w ref path properties) := by
  have h₁ : Passive w {w with properties := properties} :=
    ⟨rfl,rfl,rfl,fun _ => rfl,fun _ => .refl _,fun _ h => .inl h,⟨[],by simp,by simp⟩,
      ⟨[],rfl,by simp⟩⟩
  simp only [smsPropertiesChanged]
  split
  · exact h₁
  split
  · exact h₁.trans (Passive.updateMessaging (w:={w with properties := properties})
      ⟨rfl,rfl,.inl rfl⟩ id)
  · exact h₁

theorem smsOperationTimeout_passive (ho : w.operations op = some operation) :
    Passive w (smsOperationTimeout w op) := by
  simp only [smsOperationTimeout,withOperation,ho]
  exact Passive.updateOperation (by simp [ho,SmsOperation.identity])

theorem cancelSmsOperations_passive (w : World) (ubus : Ubus) (transportLost : Bool) :
    Passive w (cancelSmsOperations {w with ubus := ubus} transportLost) := by
  refine ⟨rfl,rfl,rfl,fun op => ?_,fun _ => .refl _,fun _ h => .inl h,⟨[],by simp
    [cancelSmsOperations],by simp⟩,⟨[],rfl,by simp⟩⟩
  simp only [cancelSmsOperations,Option.map_map]
  rfl

theorem Passive.withUbus (h : Passive w w') (ubus : Ubus) : Passive w {w' with ubus := ubus} :=
  ⟨h.bridge,h.admitted,h.next,h.operations,h.messaging,h.ready,h.calls,h.trace⟩

theorem connectionLost_passive (w : World) : Passive w (connectionLost w) := by
  simp only [connectionLost]
  split
  · exact .refl w
  · exact cancelSmsOperations_passive w _ _

theorem l850glUbusStop_passive (w : World) : Passive w (l850glUbusStop w) := by
  simp only [l850glUbusStop]
  split
  · exact .refl w
  · exact (cancelSmsOperations_passive w _ _).withUbus _

theorem Messaging.rebuildCache_ledger (now : Int) (ref : ModemRef)
    (random : Nat → Option (Vector UInt8 16)) (m : Messaging)
    (generation : Nat) (properties : Nat → SmsProperties) (messages : List MMSms) (drawn : Nat) :
    m.Ledger now (m.rebuildCache random ref generation properties messages drawn).1 := by
  simp only [Messaging.rebuildCache]
  split
  · exact ⟨rfl,rfl,.inl rfl⟩
  · exact ⟨rfl,rfl,.inl rfl⟩

theorem smsListReady_passive (random : Nat → Option (Vector UInt8 16)) (w : World)
    (ref : ModemRef) (source epoch : Nat) (messages : List MMSms) (error : Option GError) :
    Passive w (smsListReady random w ref source epoch messages error) := by
  simp only [smsListReady]
  split
  · exact .refl w
  rename_i hcurrent
  have hepoch : (w.messaging ref).messagingGeneration = epoch := by
    simp only [Bool.or_eq_true,not_or,bne_iff_ne,ne_eq,Decidable.not_not] at hcurrent
    exact hcurrent.2
  have hlisted : Passive w (if messages.isEmpty && error.isSome then
      w.updateMessaging ref (Messaging.listFailed {w.messaging ref with
        smsQueryPending := false,smsQueryDirty := false} (gErrorMatches error (.io .cancelled)))
    else
      let rebuilt := Messaging.rebuildCache random {w.messaging ref with
        smsQueryPending := false,smsQueryDirty := false} ref (w.modem ref).generation w.properties
        messages w.drawn
      ({w.updateMessaging ref rebuilt.1 with drawn := rebuilt.2}).observe (.listed ref epoch)) := by
    split
    · refine Passive.updateMessaging ⟨rfl,rfl,.inl rfl⟩ ?_
      intro h
      cases hc : gErrorMatches error (.io .cancelled) <;>
        simp [Messaging.listFailed,hc,Messaging.clearSmsCache,Messaging.smsRevisionBump,
          SmsCacheState.isReady] at h
    · have hl := Messaging.rebuildCache_ledger w.bridge.now ref random
        {w.messaging ref with smsQueryPending := false,smsQueryDirty := false}
        (w.modem ref).generation w.properties messages w.drawn
      refine ⟨rfl,rfl,rfl,fun _ => rfl,fun other => ?_,fun other h => ?_,⟨[],by simp
        [observe,updateMessaging],by simp⟩,⟨[.listed ref epoch],rfl,by simp [hepoch]⟩⟩
      · by_cases ho : other = ref
        · subst ho
          simpa [observe,updateMessaging] using ⟨hl.messaging,hl.epoch,hl.dedupe⟩
        · simpa [observe,updateMessaging,ho] using Ledger.refl (w.messaging other)
      · by_cases ho : other = ref
        · subst ho
          right
          rw [hepoch]
          exact List.mem_cons_self
        · left
          simpa [observe,updateMessaging,ho] using h
  split
  · exact hlisted.trans (querySms_passive _ _)
  · exact hlisted

theorem methodListSms_passive (w : World) (request : Option ListSmsRequest) :
    Passive w (methodListSms w request).1 := by
  cases request with
  | none => exact .refl w
  | some request =>
    simp only [methodListSms]
    split
    · exact .refl w
    split
    · exact .refl w
    split
    · exact .refl w
    split
    · split
      · exact .refl w
      · exact .refl w
    split
    · exact .refl w
    split
    · exact querySms_passive _ _
    · exact .refl w

theorem mem_evictions {o : Observation} {m : Messaging} {now : Int} {token : CString}
    (h : o ∈ evictions ref m now token) : ∃ epoch key, o = .evicted ref epoch key := by
  simp only [evictions] at h
  split at h
  · cases h
  · obtain ⟨entry,-,rfl⟩ := List.mem_map.mp h
    exact ⟨_,_,rfl⟩

/-- The observations an operation ends with. -/
inductive ClosingOf (op : OperationRef) : Observation → Prop
  | failed (code : String) (retryable : Bool) : ClosingOf op (.failed op code retryable)
  | succeeded : ClosingOf op (.succeeded op)
  | replied (connection : Nat) : ClosingOf op (.replied op connection)
  | released : ClosingOf op (.released op)

/-- What freeing an operation changes, its token apart. -/
structure Frees (w w' : World) (op : OperationRef) (operation : SmsOperation) : Prop where
  bridge : w'.bridge =
    w.bridge.updateModem operation.modem (releaseModem op (w.modem operation.modem))
  admitted : w'.admitted = w.admitted
  next : w'.next = w.next
  operations : w'.operations = Function.update w.operations op none
  calls : w'.calls = w.calls
  others : ∀ ref, ref ≠ operation.modem → w'.messaging ref = w.messaging ref
  messaging : (w'.messaging operation.modem).messaging = (w.messaging operation.modem).messaging
  epoch : (w'.messaging operation.modem).messagingGeneration =
    (w.messaging operation.modem).messagingGeneration
  state : (w'.messaging operation.modem).smsCacheState =
    (w.messaging operation.modem).smsCacheState

/-- What the end of an operation does to the token cache, and what it shows. -/
inductive Settle (w w' : World) (op : OperationRef) (operation : SmsOperation) : Prop
  | silent (later : List Observation) (htrace : w'.trace = later++w.trace)
      (hlater : ∀ o ∈ later, ClosingOf op o) (hreleased : .released op ∈ later)
      (hdedupe : (w'.messaging operation.modem).smsDedupe =
        (w.messaging operation.modem).smsDedupe)
      (hreason : operation.type = .delete ∨ operation.clientToken = none ∨
        smsOperationStaleCode w operation ≠ none)
  | removed (later : List Observation) (token : CString) (code : String) (retryable : Bool)
      (htrace : w'.trace = later++w.trace) (hlater : ∀ o ∈ later, ClosingOf op o)
      (hreleased : .released op ∈ later) (hfailed : .failed op code retryable ∈ later)
      (htoken : operation.clientToken = some token)
      (hdedupe : (w'.messaging operation.modem).smsDedupe =
        remove (prune w.bridge.now (w.messaging operation.modem).smsDedupe) token)
      (hreason : code ≠ "outcome_unknown" ∨ smsOperationStaleCode w operation ≠ none)
  | stored (later : List Observation) (first : Observation) (token : CString) (result : SmsResult)
      (htrace : w'.trace = later++.stored op operation.modem
        (w.messaging operation.modem).messagingGeneration token w.bridge.now::
        (evictions operation.modem (w.messaging operation.modem) w.bridge.now token++
          first::w.trace))
      (hlater : ∀ o ∈ later, ClosingOf op o) (hfirst : ClosingOf op first)
      (hreleased : .released op ∈ later) (htoken : operation.clientToken = some token)
      (hcurrent : smsOperationStaleCode w operation = none)
      (hdigest : result.requestDigest = operation.requestDigest)
      (hdedupe : (w'.messaging operation.modem).smsDedupe =
        put l850glSmsDedupeMax (prune w.bridge.now (w.messaging operation.modem).smsDedupe)
          ⟨token,result,l850glSmsDedupeExpiry w.bridge.now⟩)

/-- An operation that ends. -/
structure Completes (w w' : World) (op : OperationRef) (operation : SmsOperation) : Prop extends
    Frees w w' op operation where
  settle : Settle w w' op operation

section

variable (m : Messaging) (smsId : Option CString)

@[simp] theorem Messaging.releaseSmsId_messaging :
    (m.releaseSmsId smsId).messaging = m.messaging := by cases smsId <;> rfl

@[simp] theorem Messaging.releaseSmsId_messagingGeneration :
    (m.releaseSmsId smsId).messagingGeneration = m.messagingGeneration := by cases smsId <;> rfl

@[simp] theorem Messaging.releaseSmsId_smsCacheState :
    (m.releaseSmsId smsId).smsCacheState = m.smsCacheState := by cases smsId <;> rfl

@[simp] theorem Messaging.releaseSmsId_smsDedupe :
    (m.releaseSmsId smsId).smsDedupe = m.smsDedupe := by cases smsId <;> rfl

end

theorem smsOperationFree_spec (op : OperationRef) (operation : SmsOperation)
    (ho : w.operations op = some operation) :
    Frees w (smsOperationFree w op) op operation ∧
      (∀ ref, ((smsOperationFree w op).messaging ref).smsDedupe = (w.messaging ref).smsDedupe) ∧
      (smsOperationFree w op).trace = .released op::w.trace := by
  simp only [smsOperationFree,withOperation,ho]
  refine ⟨⟨rfl,rfl,rfl,rfl,rfl,fun ref hr => ?_,?_,?_,?_⟩,fun ref => ?_,rfl⟩
  all_goals simp only [observe,updateMessaging,World.updateOperation,Function.update_self,
    releaseSmsId_messaging,releaseSmsId_messagingGeneration,releaseSmsId_smsCacheState]
  · simp [hr]
  · by_cases hr : ref = operation.modem
    · subst hr
      simp
    · simp [hr]

/-- Updating an operation and freeing it is freeing it. -/
theorem Frees.of_updateOperation {value : Option SmsOperation}
    (h : Frees (w.updateOperation op value) w' op operation) : Frees w w' op operation := by
  refine ⟨h.bridge,h.admitted,h.next,?_,h.calls,h.others,h.messaging,h.epoch,h.state⟩
  rw [h.operations]
  simp [World.updateOperation]

theorem smsOperationCompleteBuffer_spec (ho : w.operations op = some operation) :
    Frees w (smsOperationCompleteBuffer w op) op operation ∧
      (∀ ref, ((smsOperationCompleteBuffer w op).messaging ref).smsDedupe =
        (w.messaging ref).smsDedupe) ∧
      ∃ later, (smsOperationCompleteBuffer w op).trace = later++w.trace ∧
        (∀ o ∈ later, ClosingOf op o) ∧ .released op ∈ later := by
  simp only [smsOperationCompleteBuffer,withOperation,ho]
  split
  · obtain ⟨h₁,h₂,h₃⟩ := smsOperationFree_spec op {operation with deferred := false}
      (w:=(w.observe (.replied op w.ubus.connection)).updateOperation op
        (some {operation with deferred := false})) (by simp [World.updateOperation])
    have h₄ := h₁.of_updateOperation
    refine ⟨⟨h₄.bridge,h₄.admitted,h₄.next,h₄.operations,h₄.calls,h₄.others,h₄.messaging,
      h₄.epoch,h₄.state⟩,h₂,[.released op,.replied op w.ubus.connection],h₃,?_,by simp⟩
    intro o ho
    simp only [List.mem_cons,List.not_mem_nil,or_false] at ho
    rcases ho with rfl | rfl
    · exact .released
    · exact .replied _
  · obtain ⟨h₁,h₂,h₃⟩ := smsOperationFree_spec op {operation with deferred := false}
      (w:=w.updateOperation op (some {operation with deferred := false}))
      (by simp [World.updateOperation])
    have h₄ := h₁.of_updateOperation
    refine ⟨⟨h₄.bridge,h₄.admitted,h₄.next,h₄.operations,h₄.calls,h₄.others,h₄.messaging,
      h₄.epoch,h₄.state⟩,h₂,[.released op],h₃,?_,by simp⟩
    intro o ho
    rw [List.mem_singleton] at ho
    exact ho ▸ .released

/-- A step that changes the token cache of one record and the trace only. -/
structure Stores (w w' : World) (ref : ModemRef) : Prop where
  bridge : w'.bridge = w.bridge
  admitted : w'.admitted = w.admitted
  next : w'.next = w.next
  operations : w'.operations = w.operations
  calls : w'.calls = w.calls
  others : ∀ other, other ≠ ref → w'.messaging other = w.messaging other
  messaging : (w'.messaging ref).messaging = (w.messaging ref).messaging
  epoch : (w'.messaging ref).messagingGeneration = (w.messaging ref).messagingGeneration
  state : (w'.messaging ref).smsCacheState = (w.messaging ref).smsCacheState

theorem Stores.frees (h : Stores w w' operation.modem) (h' : Frees w' w'' op operation) :
    Frees w w'' op operation where
  bridge := by rw [h'.bridge,World.modem,World.modem,h.bridge]
  admitted := h'.admitted.trans h.admitted
  next := h'.next.trans h.next
  operations := by rw [h'.operations,h.operations]
  calls := h'.calls.trans h.calls
  others ref hr := (h'.others ref hr).trans (h.others ref hr)
  messaging := h'.messaging.trans h.messaging
  epoch := h'.epoch.trans h.epoch
  state := h'.state.trans h.state

theorem observe_stores (w : World) (ref : ModemRef) (o : Observation) :
    Stores w (w.observe o) ref :=
  ⟨rfl,rfl,rfl,rfl,rfl,fun _ _ => rfl,rfl,rfl,rfl⟩

theorem updateMessaging_stores (hm : m.messaging = (w.messaging ref).messaging)
    (he : m.messagingGeneration = (w.messaging ref).messagingGeneration)
    (hs : m.smsCacheState = (w.messaging ref).smsCacheState) :
    Stores w (w.updateMessaging ref m) ref := by
  refine ⟨rfl,rfl,rfl,rfl,rfl,fun other ho => ?_,?_,?_,?_⟩
  all_goals simp only [updateMessaging,Function.update_self]
  · simp [ho]
  · exact hm
  · exact he
  · exact hs

theorem Stores.trans (h : Stores w w' ref) (h' : Stores w' w'' ref) : Stores w w'' ref :=
  ⟨h'.bridge.trans h.bridge,h'.admitted.trans h.admitted,h'.next.trans h.next,
    h'.operations.trans h.operations,h'.calls.trans h.calls,
    fun other ho => (h'.others other ho).trans (h.others other ho),
    h'.messaging.trans h.messaging,h'.epoch.trans h.epoch,h'.state.trans h.state⟩

theorem smsDedupeStore_stores (w : World) (op : OperationRef) (operation : SmsOperation)
    (result : SmsResult) : Stores w (smsDedupeStore w op operation result) operation.modem := by
  simp only [smsDedupeStore]
  split
  · exact ⟨rfl,rfl,rfl,rfl,rfl,fun _ _ => rfl,rfl,rfl,rfl⟩
  · have h := updateMessaging_stores (w:=w)
      (m:=(w.messaging operation.modem).smsDedupeStore w.bridge.now ‹CString› result) rfl rfl rfl
    exact ⟨h.bridge,h.admitted,h.next,h.operations,h.calls,h.others,h.messaging,h.epoch,h.state⟩

theorem smsDedupeRemove_stores (w : World) (operation : SmsOperation) :
    Stores w (smsDedupeRemove w operation) operation.modem := by
  simp only [smsDedupeRemove]
  split
  · exact ⟨rfl,rfl,rfl,rfl,rfl,fun _ _ => rfl,rfl,rfl,rfl⟩
  · exact updateMessaging_stores rfl rfl rfl

theorem smsOperationStaleCode_observe (w : World) (o : Observation) (operation : SmsOperation) :
    smsOperationStaleCode (w.observe o) operation = smsOperationStaleCode w operation := rfl

theorem Passive.smsOperationStaleCode_eq (h : Passive w w') (operation : SmsOperation) :
    smsOperationStaleCode w' operation = smsOperationStaleCode w operation := by
  simp only [smsOperationStaleCode]
  rw [World.modem,World.modem,h.bridge,(h.messaging _).messaging,(h.messaging _).epoch]

/-- Storing a result and freeing the operation. -/
theorem Completes.of_store {first : Observation} {result : SmsResult}
    (ho : w.operations op = some operation) (hfirst : ClosingOf op first)
    (hdigest : result.requestDigest = operation.requestDigest)
    (hcurrent : smsOperationStaleCode w operation = none) :
    Completes w (smsOperationCompleteBuffer
      (smsDedupeStore (w.observe first) op operation result) op) op operation := by
  have hs := (observe_stores w operation.modem first).trans
    (smsDedupeStore_stores (w.observe first) op operation result)
  obtain ⟨h₁,h₂,later,h₃,h₄,h₅⟩ := smsOperationCompleteBuffer_spec
    (w:=smsDedupeStore (w.observe first) op operation result)
    (by rw [hs.operations]; exact ho)
  refine ⟨hs.frees h₁,?_⟩
  cases ht : operation.clientToken with
  | none =>
    have hw : smsDedupeStore (w.observe first) op operation result = w.observe first := by
      simp [smsDedupeStore,ht]
    rw [hw] at h₂ h₃ ⊢
    refine .silent (later++[first]) (by rw [h₃]; simp [observe]) ?_ (by simp [h₅]) (h₂ _)
      (.inr (.inl ht))
    intro o ho
    rcases List.mem_append.mp ho with ho | ho
    · exact h₄ o ho
    · exact List.mem_singleton.mp ho ▸ hfirst
  | some token =>
    refine .stored later first token result ?_ h₄ hfirst h₅ ht hcurrent hdigest ?_
    · rw [h₃]
      simp only [smsDedupeStore,ht]
      rfl
    · rw [h₂]
      simp [smsDedupeStore,ht,observe,updateMessaging,Messaging.smsDedupeStore,
        Messaging.smsDedupePrune]

/-- Freeing an operation with nothing to store. -/
theorem Completes.of_silent {first : Observation} (ho : w.operations op = some operation)
    (hfirst : ClosingOf op first)
    (hreason : operation.type = .delete ∨ operation.clientToken = none ∨
      smsOperationStaleCode w operation ≠ none) :
    Completes w (smsOperationCompleteBuffer (w.observe first) op) op operation := by
  obtain ⟨h₁,h₂,later,h₃,h₄,h₅⟩ := smsOperationCompleteBuffer_spec (w:=w.observe first) ho
  refine ⟨(observe_stores w operation.modem first).frees h₁,?_⟩
  refine .silent (later++[first]) (by rw [h₃]; simp [observe]) ?_ (by simp [h₅]) (h₂ _) hreason
  intro o ho
  rcases List.mem_append.mp ho with ho | ho
  · exact h₄ o ho
  · exact List.mem_singleton.mp ho ▸ hfirst

theorem smsOperationCompleteError_completes (ho : w.operations op = some operation)
    (code : String) (retryable : Bool) :
    Completes w (smsOperationCompleteError w op code retryable) op operation := by
  simp only [smsOperationCompleteError,withOperation,ho]
  have hfirst : ClosingOf op (.failed op code retryable) := .failed _ _
  cases htype : operation.type with
  | delete => exact Completes.of_silent ho hfirst (.inl htype)
  | send =>
    dsimp only
    split
    · rename_i hcurrent
      exact Completes.of_store ho hfirst rfl (Option.isNone_iff_eq_none.mp hcurrent.1)
    · rename_i hreason
      rw [smsOperationStaleCode_observe] at hreason
      have hs := (observe_stores w operation.modem (.failed op code retryable)).trans
        (smsDedupeRemove_stores (w.observe (.failed op code retryable)) operation)
      cases ht : operation.clientToken with
      | none =>
        have hw : smsDedupeRemove (w.observe (.failed op code retryable)) operation =
            w.observe (.failed op code retryable) := by
          simp [smsDedupeRemove,ht]
        rw [hw]
        exact Completes.of_silent ho hfirst (.inr (.inl ht))
      | some token =>
        obtain ⟨h₁,h₂,later,h₃,h₄,h₅⟩ := smsOperationCompleteBuffer_spec
          (w:=smsDedupeRemove (w.observe (.failed op code retryable)) operation)
          (by rw [hs.operations]; exact ho)
        refine ⟨hs.frees h₁,.removed (later++[.failed op code retryable]) token code retryable ?_
          ?_ (by simp [h₅]) (by simp) ht ?_ ?_⟩
        · rw [h₃]
          simp [smsDedupeRemove,ht,observe,updateMessaging]
        · intro o ho
          rcases List.mem_append.mp ho with ho | ho
          · exact h₄ o ho
          · exact List.mem_singleton.mp ho ▸ hfirst
        · rw [h₂]
          simp [smsDedupeRemove,ht,observe,updateMessaging,Messaging.smsDedupeRemove,
            Messaging.smsDedupePrune]
        · by_cases hcode : code = "outcome_unknown"
          · right
            intro hstale
            exact hreason ⟨by rw [hstale]; rfl,hcode⟩
          · exact .inl hcode

theorem smsOperationCompleteNormalizedError_completes (ho : w.operations op = some operation)
    (error : Option GError) :
    Completes w (smsOperationCompleteNormalizedError w op error) op operation := by
  simp only [smsOperationCompleteNormalizedError,withOperation,ho]
  exact smsOperationCompleteError_completes ho _ _

theorem smsOperationCompleteSend_completes {storeDedupe : Bool}
    (ho : w.operations op = some operation)
    (hstore : storeDedupe = true ↔ smsOperationStaleCode w operation = none) :
    Completes w (smsOperationCompleteSend w op storeDedupe) op operation := by
  simp only [smsOperationCompleteSend,withOperation,ho]
  split
  · rename_i h
    exact Completes.of_store ho .succeeded rfl (hstore.mp h)
  · rename_i h
    exact Completes.of_silent ho .succeeded (.inr (.inr fun hcurrent => h (hstore.mpr hcurrent)))

theorem smsOperationCompleteDelete_completes (ho : w.operations op = some operation)
    (htype : operation.type = .delete) :
    Completes w (smsOperationCompleteDelete w op) op operation :=
  Completes.of_silent ho .succeeded (.inl htype)

/-- An operation whose message goes to `Sms.Send`. -/
structure Dispatches (w w' : World) (op : OperationRef) (operation : SmsOperation) : Prop where
  current : smsOperationStaleCode w operation = none
  bridge : w'.bridge = w.bridge
  admitted : w'.admitted = w.admitted
  next : w'.next = w.next
  operations : ∃ sending, w'.operations = Function.update w.operations op (some sending) ∧
    sending.identity = {operation.identity with sendDispatched := true}
  messaging : w'.messaging = w.messaging
  calls : w'.calls = w.calls++[.send op]
  trace : w'.trace = .sent op operation.modem operation.messagingGeneration
    (operation.clientToken.getD []) w.bridge.now::w.trace

/-- A new operation on an idle record. -/
structure Starts (w w' : World) (operation : SmsOperation) : Prop where
  idle : (w.modem operation.modem).mutationBusy = false
  attested : (w.modem operation.modem).l850glModemAttestMutationTarget = true
  source : (w.messaging operation.modem).messaging = some operation.messaging
  generation : operation.generation = (w.modem operation.modem).generation
  messagingGeneration : operation.messagingGeneration =
    (w.messaging operation.modem).messagingGeneration
  undispatched : operation.sendDispatched = false
  bridge : w'.bridge = w.bridge.updateModem operation.modem
    (acquireModem w.next (w.modem operation.modem))
  admitted : w'.admitted = w.admitted
  next : w'.next = w.next+1
  operations : w'.operations = Function.update w.operations w.next (some operation)
  others : ∀ ref, ref ≠ operation.modem → w'.messaging ref = w.messaging ref
  messaging : (w'.messaging operation.modem).messaging = (w.messaging operation.modem).messaging
  epoch : (w'.messaging operation.modem).messagingGeneration =
    (w.messaging operation.modem).messagingGeneration
  state : (w'.messaging operation.modem).smsCacheState =
    (w.messaging operation.modem).smsCacheState

/-- A new message, under a token that the cache does not know. -/
structure StartsSend (sha256 : CString → Digest) (w w' : World) (operation : SmsOperation)
    (token recipient text : CString) : Prop extends Starts w w' operation where
  type : operation.type = .send
  clientToken : operation.clientToken = some token
  valid : l850glSmsRecipientIsValid recipient = true
  digest : operation.requestDigest = some (l850glSmsRequestDigest sha256 recipient text)
  unknown : find (prune w.bridge.now (w.messaging operation.modem).smsDedupe) token = none
  calls : w'.calls = w.calls++[.create w.next]
  trace : w'.trace = .created w.next operation.modem operation.messagingGeneration token recipient
    text w.bridge.now::.stored w.next operation.modem operation.messagingGeneration token
      w.bridge.now::(evictions operation.modem (w.messaging operation.modem) w.bridge.now token++
        w.trace)
  dedupe : ∃ result : SmsResult, result.requestDigest = operation.requestDigest ∧
    (w'.messaging operation.modem).smsDedupe =
      put l850glSmsDedupeMax (prune w.bridge.now (w.messaging operation.modem).smsDedupe)
        ⟨token,result,l850glSmsDedupeExpiry w.bridge.now⟩

structure StartsDelete (w w' : World) (operation : SmsOperation) (path : CString) : Prop extends
    Starts w w' operation where
  type : operation.type = .delete
  clientToken : operation.clientToken = none
  calls : w'.calls = w.calls++[.delete w.next path]
  trace : ∃ smsId, w'.trace = .deleting w.next operation.modem operation.messagingGeneration smsId
    path::w.trace
  dedupe : (w'.messaging operation.modem).smsDedupe = (w.messaging operation.modem).smsDedupe

theorem Messaging.admitReservedSms_ledger (now : Int) (ref : ModemRef) (generation : Nat)
    (sms : MMSms) (reservedId : CString) :
    m.Ledger now (m.admitReservedSms ref generation sms reservedId).1 ∧
      (m.admitReservedSms ref generation sms reservedId).1.smsCacheState = m.smsCacheState := by
  simp only [Messaging.admitReservedSms]
  split
  · exact ⟨.refl m,rfl⟩
  split
  · exact ⟨.refl m,rfl⟩
  split
  · exact ⟨.refl m,rfl⟩
  split
  · split
    · exact ⟨.refl m,rfl⟩
    · split
      · exact ⟨⟨rfl,rfl,.inl rfl⟩,rfl⟩
      · exact ⟨⟨rfl,rfl,.inl rfl⟩,rfl⟩
  · split
    · exact ⟨⟨rfl,rfl,.inl rfl⟩,rfl⟩
    · exact ⟨⟨rfl,rfl,.inl rfl⟩,rfl⟩

/-- A created message is dispatched, or its operation ends. -/
theorem smsCreateReady_spec (ho : w.operations op = some operation) (sms : Option MMSms)
    (error : Option GError) :
    ∃ w₁ o₁, Passive w w₁ ∧ w₁.operations op = some o₁ ∧
      (Completes w₁ (smsCreateReady w op sms error) op o₁ ∨
        Dispatches w₁ (smsCreateReady w op sms error) op o₁) := by
  have hself : ∀ (v : World) (value : SmsOperation),
      (v.updateOperation op (some value)).operations op = some value := by
    intro v value
    simp [World.updateOperation]
  have h₁ : Passive w (w.updateOperation op (some {operation with properties := none})) :=
    Passive.updateOperation (by simp [ho,SmsOperation.identity])
  simp only [smsCreateReady,withOperation,ho]
  cases sms with
  | none =>
    exact ⟨_,_,h₁,hself _ _,.inl (smsOperationCompleteNormalizedError_completes (hself _ _) _)⟩
  | some sms =>
    have h₂ : Passive w ((w.updateOperation op (some {operation with properties := none})
        ).updateOperation op (some {operation with properties := none,sms := some sms})) :=
      h₁.trans (Passive.updateOperation (by simp [World.updateOperation,SmsOperation.identity]))
    dsimp only
    split
    · exact ⟨_,_,h₂,hself _ _,.inl (smsOperationCompleteError_completes (hself _ _) _ _)⟩
    have hl := Messaging.admitReservedSms_ledger w.bridge.now operation.modem
      (m:=w.messaging operation.modem) (w.modem operation.modem).generation sms
      (operation.smsId.getD [])
    have h₃ := h₂.trans (Passive.updateMessaging
      (m:=((w.messaging operation.modem).admitReservedSms operation.modem
        (w.modem operation.modem).generation sms (operation.smsId.getD [])).1) hl.1
      (by rw [hl.2]; exact id))
    split
    · exact ⟨_,_,h₃,hself _ _,
        .inl (smsOperationCompleteError_completes (by exact hself _ _) _ _)⟩
    split
    · exact ⟨_,_,h₃,hself _ _,
        .inl (smsOperationCompleteError_completes (by exact hself _ _) _ _)⟩
    rename_i hcurrent
    split
    · exact ⟨_,_,h₃,hself _ _,
        .inl (smsOperationCompleteError_completes (by exact hself _ _) _ _)⟩
    · exact ⟨_,_,h₃,hself _ _,.inr ⟨hcurrent,rfl,rfl,rfl,⟨{operation with
        properties := none,sms := some sms,sendDispatched := true,timedOut := false
        timeoutSource := true},rfl,rfl⟩,rfl,rfl,rfl⟩⟩

theorem querySms_operations (w : World) (ref : ModemRef) :
    (w.querySms ref).operations = w.operations := by
  simp only [World.querySms]
  split
  · rfl
  · split
    · rfl
    · rfl

theorem smsSendReady_spec (ho : w.operations op = some operation) (sent : Bool)
    (error : Option GError) :
    ∃ w₁, Passive w w₁ ∧ w₁.operations op = some operation ∧
      Completes w₁ (smsSendReady w op sent error) op operation := by
  simp only [smsSendReady,withOperation,ho]
  split
  · exact ⟨w,.refl w,ho,smsOperationCompleteNormalizedError_completes ho error⟩
  split
  · rename_i hstale
    refine ⟨w,.refl w,ho,smsOperationCompleteSend_completes ho ?_⟩
    simp [hstale]
  · rename_i hcurrent
    have hq := querySms_passive w operation.modem
    have ho' : (w.querySms operation.modem).operations op = some operation := by
      rw [querySms_operations]
      exact ho
    refine ⟨_,hq,ho',smsOperationCompleteSend_completes ho' ?_⟩
    simp [hq.smsOperationStaleCode_eq,hcurrent]

theorem smsDeleteReady_spec (ho : w.operations op = some operation)
    (htype : operation.type = .delete) (deleted : Bool) (error : Option GError) :
    ∃ w₁, Passive w w₁ ∧ w₁.operations op = some operation ∧
      Completes w₁ (smsDeleteReady w op deleted error) op operation := by
  simp only [smsDeleteReady,withOperation,ho]
  split
  · exact ⟨w,.refl w,ho,smsOperationCompleteNormalizedError_completes ho error⟩
  split
  · exact ⟨w,.refl w,ho,smsOperationCompleteDelete_completes ho htype⟩
  · have ho' : (w.querySms operation.modem).operations op = some operation := by
      rw [querySms_operations]
      exact ho
    exact ⟨_,querySms_passive w operation.modem,ho',
      smsOperationCompleteDelete_completes ho' htype⟩

end Sms
end L850GL
