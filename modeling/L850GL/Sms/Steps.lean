import L850GL.Sms.Effects
import Mathlib.Data.List.Perm.Basic

/-! Every event has one of the effects, and every operation in flight has exactly one call that
has not been answered. -/
namespace L850GL
namespace Sms

open Errors Identity Messaging Mutation World ExpiringQueue

variable {w w' w₁ : World} {ref : ModemRef} {op : OperationRef} {operation : SmsOperation}
  {m : Messaging} {now : Int} {sha256 : CString → Digest}
  {random : Nat → Option (Vector UInt8 16)}

theorem smsMutationModem_ok {tables : Tables} {modemId : CString} {generation epoch : Nat}
    (h : smsMutationModem w tables modemId generation epoch = .ok ref) :
    (w.modem ref).l850glModemAttestMutationTarget = true ∧
      (w.messaging ref).messagingGeneration = epoch ∧
      (w.messaging ref).messaging.isSome = true := by
  simp only [smsMutationModem] at h
  split at h
  · cases h
  split at h
  · cases h
  split at h
  · cases h
  rename_i hepoch
  split at h
  · cases h
  rename_i hsome
  split at h
  · cases h
  rename_i hattested
  split at h
  · cases h
  · simp only [Except.ok.injEq] at h
    subst h
    exact ⟨by simpa using hattested,by simpa using hepoch,
      Option.isSome_iff_ne_none.mpr (by simpa using hsome)⟩

theorem Messaging.reserveSmsId_ledger (random : Nat → Option (Vector UInt8 16)) (m : Messaging)
    (drawn : Nat) : m.Ledger now (m.reserveSmsId random drawn).1 ∧
      (m.reserveSmsId random drawn).1.smsCacheState = m.smsCacheState := by
  simp only [Messaging.reserveSmsId]
  split
  · exact ⟨.refl m,rfl⟩
  · exact ⟨⟨rfl,rfl,.inl rfl⟩,rfl⟩

theorem smsDedupeStore_token (op : OperationRef) {result : SmsResult} {token : CString}
    (ht : operation.clientToken = some token) :
    (smsDedupeStore w op operation result).trace = .stored op operation.modem
        (w.messaging operation.modem).messagingGeneration token w.bridge.now::
        (evictions operation.modem (w.messaging operation.modem) w.bridge.now token++w.trace) ∧
      ((smsDedupeStore w op operation result).messaging operation.modem).smsDedupe =
        put l850glSmsDedupeMax (prune w.bridge.now (w.messaging operation.modem).smsDedupe)
          ⟨token,result,l850glSmsDedupeExpiry w.bridge.now⟩ := by
  refine ⟨?_,?_⟩
  · simp only [smsDedupeStore,ht]
    rfl
  · simp [smsDedupeStore,ht,updateMessaging,Messaging.smsDedupeStore,Messaging.smsDedupePrune]

@[simp] theorem acquireModem_attested (modem : Modem) :
    (acquireModem op modem).l850glModemAttestMutationTarget =
      modem.l850glModemAttestMutationTarget := rfl

theorem startSend_spec {source : Nat} {request : SendSmsRequest} {smsId : CString}
    (hidle : (w.modem ref).mutationBusy = false)
    (hattested : (w.modem ref).l850glModemAttestMutationTarget = true)
    (hsource : (w.messaging ref).messaging = some source)
    (hvalid : l850glSmsRecipientIsValid request.recipient = true)
    (hunknown : find (prune w.bridge.now (w.messaging ref).smsDedupe) request.clientToken = none) :
    StartsSend sha256 w (startSend sha256 w ref source request smsId)
      (sendOperation sha256 w ref source request smsId) request.clientToken request.recipient
      request.text := by
  have ht : (sendOperation sha256 w ref source request smsId).clientToken =
    some request.clientToken := rfl
  simp only [startSend]
  have hs := smsDedupeStore_stores
    (smsOperationNew w (sendOperation sha256 w ref source request smsId)) w.next
    (sendOperation sha256 w ref source request smsId) ⟨false,some smsId,none,some "busy",true,
      (sendOperation sha256 w ref source request smsId).requestDigest⟩
  obtain ⟨htrace,hdedupe⟩ := smsDedupeStore_token w.next
    (w:=smsOperationNew w (sendOperation sha256 w ref source request smsId)) ht
  have hmodem : (smsOperationNew w (sendOperation sha256 w ref source request smsId)).modem ref =
      acquireModem w.next (w.modem ref) := by
    simp [World.modem,smsOperationNew,sendOperation,newOperation]
  rw [if_neg]
  · refine ⟨⟨hidle,hattested,hsource,rfl,rfl,rfl,hs.bridge,hs.admitted,hs.next,hs.operations,
      hs.others,hs.messaging,hs.epoch,hs.state⟩,rfl,ht,hvalid,rfl,hunknown,?_,?_,⟨_,rfl,hdedupe⟩⟩
    · simp only [observe,call,hs.calls]
      rfl
    · simp only [observe,call,htrace,hs.bridge]
      rfl
  · rw [World.modem,hs.bridge]
    rw [World.modem] at hmodem
    rw [hmodem,acquireModem_attested,hattested]
    decide

theorem SendSmsRequest.isValid_recipient {request : SendSmsRequest}
    (h : request.isValid = true) : l850glSmsRecipientIsValid request.recipient = true := by
  simp only [SendSmsRequest.isValid,Bool.and_eq_true] at h
  exact h.1.1.2

/-- A request is answered at once, or starts an operation. -/
inductive Sends (sha256 : CString → Digest) (request : SendSmsRequest) (w w' : World) : Prop
  | answered (h : Passive w w')
  | started {w₁ : World} {operation : SmsOperation} (h : Passive w w₁)
      (h' : StartsSend sha256 w₁ w' operation request.clientToken request.recipient request.text)

theorem sendNewSms_spec (sha256 : CString → Digest)
    (random : Nat → Option (Vector UInt8 16)) {request : SendSmsRequest}
    (hattested : (w.modem ref).l850glModemAttestMutationTarget = true)
    (hvalid : l850glSmsRecipientIsValid request.recipient = true)
    (hunknown : find (prune w.bridge.now (w.messaging ref).smsDedupe) request.clientToken = none) :
    Sends sha256 request w (sendNewSms sha256 random w ref request).1 := by
  obtain ⟨hl,hs⟩ := Messaging.reserveSmsId_ledger random (w.messaging ref)
    w.drawn
  have h₁ := Passive.updateMessaging (w:=w) hl (by rw [hs]; exact id)
  have h₂ : Passive w {w.updateMessaging ref ((w.messaging ref).reserveSmsId random w.drawn).1 with
      drawn := ((w.messaging ref).reserveSmsId random w.drawn).2.2} :=
    ⟨h₁.bridge,h₁.admitted,h₁.next,h₁.operations,h₁.messaging,h₁.ready,h₁.calls,h₁.trace⟩
  simp only [sendNewSms]
  split
  · exact .answered (.refl w)
  rename_i hidle
  split
  · rename_i hsource
    refine .started h₂ (startSend_spec ?_ hattested hsource hvalid ?_)
    · simpa [World.modem,updateMessaging] using hidle
    · simp only [updateMessaging,Function.update_self]
      rcases hl.dedupe with hd | hd
      · rw [hd]
        exact hunknown
      · rw [hd]
        simpa [prune,List.filter_filter] using hunknown
  · exact .answered h₂

theorem sendSmsOn_spec {request : SendSmsRequest}
    (hattested : (w.modem ref).l850glModemAttestMutationTarget = true)
    (hvalid : l850glSmsRecipientIsValid request.recipient = true) :
    Sends sha256 request w (sendSmsOn sha256 random w ref request).1 := by
  have h₁ : Passive w (w.updateMessaging ref ((w.messaging ref).smsDedupePrune w.bridge.now)) :=
    Passive.updateMessaging ⟨rfl,rfl,.inr rfl⟩ id
  simp only [sendSmsOn,Messaging.smsDedupeFind]
  split
  · split
    · exact .answered h₁
    · exact .answered h₁
  rename_i hunknown
  have h₂ := sendNewSms_spec sha256 random
    (w:=w.updateMessaging ref ((w.messaging ref).smsDedupePrune w.bridge.now)) hattested hvalid (by
      simp only [updateMessaging,Function.update_self,Messaging.smsDedupePrune] at hunknown ⊢
      simpa [prune,List.filter_filter] using hunknown)
  cases h₂ with
  | answered h => exact .answered (h₁.trans h)
  | started h h' => exact .started (h₁.trans h) h'

theorem methodSendSms_spec (tables : Tables) (request : Option SendSmsRequest) :
    Passive w (methodSendSms sha256 random w tables request).1 ∨
      ∃ value, request = some value ∧
        Sends sha256 value w (methodSendSms sha256 random w tables request).1 := by
  cases request with
  | none => exact .inl (.refl w)
  | some request =>
    simp only [methodSendSms]
    split
    · exact .inl (.refl w)
    rename_i hvalid
    split
    · exact .inl (.refl w)
    · rename_i ref hok
      exact .inr ⟨request,rfl,sendSmsOn_spec (smsMutationModem_ok hok).1
        (SendSmsRequest.isValid_recipient (by simpa using hvalid))⟩

theorem startDelete_spec {source : Nat} {smsId path : CString} {operation : SmsOperation}
    (hop : operation = {newOperation w ref source .delete with smsId := some smsId})
    (hidle : (w.modem ref).mutationBusy = false)
    (hattested : (w.modem ref).l850glModemAttestMutationTarget = true)
    (hsource : (w.messaging ref).messaging = some source) :
    StartsDelete w (((smsOperationNew w operation).call (.delete w.next path)).observe
      (.deleting w.next ref operation.messagingGeneration smsId path)) operation path := by
  subst hop
  exact ⟨⟨hidle,hattested,hsource,rfl,rfl,rfl,rfl,rfl,rfl,rfl,fun _ _ => rfl,rfl,rfl,rfl⟩,rfl,rfl,
    rfl,⟨smsId,rfl⟩,rfl⟩

inductive Deletes (w w' : World) : Prop
  | answered (h : Passive w w')
  | started {operation : SmsOperation} {path : CString} (h : StartsDelete w w' operation path)

theorem deleteSmsOn_spec {request : DeleteSmsRequest}
    (hattested : (w.modem ref).l850glModemAttestMutationTarget = true) :
    Deletes w (deleteSmsOn w ref request).1 := by
  simp only [deleteSmsOn]
  split
  · exact .answered (querySms_passive w ref)
  split
  · exact .answered (.refl w)
  rename_i hidle
  split
  · rename_i hsource
    split
    · exact .answered (.refl w)
    split
    · exact .answered (.refl w)
    rw [if_neg]
    · exact .started (startDelete_spec rfl (by simpa using hidle) hattested hsource)
    · have hmodem : ∀ operation : SmsOperation, operation.modem = ref →
          (smsOperationNew w operation).modem ref = acquireModem w.next (w.modem ref) := by
        rintro operation rfl
        simp [World.modem,smsOperationNew]
      rw [hmodem _ rfl,acquireModem_attested,hattested]
      decide
  · exact .answered (.refl w)

theorem methodDeleteSms_spec (tables : Tables) (request : Option DeleteSmsRequest) :
    Deletes w (methodDeleteSms w tables request).1 := by
  cases request with
  | none => exact .answered (.refl w)
  | some request =>
    simp only [methodDeleteSms]
    split
    · exact .answered (.refl w)
    split
    · exact .answered (.refl w)
    · rename_i ref hok
      exact deleteSmsOn_spec (smsMutationModem_ok hok).1

/-- The call at `index` is answered. -/
def World.answer (w : World) (index : Nat) : World := {w with calls := w.calls.eraseIdx index}

/-- What an event can do. -/
inductive Effect (sha256 : CString → Digest) (w w' : World) : Event → Prop
  | passive {event : Event} (h : Passive w w') : Effect sha256 w w' event
  | listed {event : Event} {index : Nat} {ref : ModemRef} {source epoch : Nat}
      (hcall : w.calls[index]? = some (.list ref source epoch)) (h : Passive (w.answer index) w') :
      Effect sha256 w w' event
  | completed {event : Event} {index : Nat} {call : Call} {op : OperationRef}
      {operation : SmsOperation} {w₁ : World} (hcall : w.calls[index]? = some call)
      (hop : call.operation = some op) (h : Passive (w.answer index) w₁)
      (ho : w₁.operations op = some operation) (h' : Completes w₁ w' op operation) :
      Effect sha256 w w' event
  | dispatched {event : Event} {index : Nat} {op : OperationRef} {operation : SmsOperation}
      {w₁ : World} (hcall : w.calls[index]? = some (.create op)) (h : Passive (w.answer index) w₁)
      (ho : w₁.operations op = some operation) (h' : Dispatches w₁ w' op operation) :
      Effect sha256 w w' event
  | startedSend {event : Event} {w₁ : World} {operation : SmsOperation}
      {token recipient text : CString} (h : Passive w w₁)
      (h' : StartsSend sha256 w₁ w' operation token recipient text) : Effect sha256 w w' event
  | startedDelete {event : Event} {operation : SmsOperation} {path : CString}
      (h : StartsDelete w w' operation path) : Effect sha256 w w' event
  | epochChanged {ref : ModemRef} {forceEpoch : Bool} {object : Option Nat} {w₁ : World}
      (hlive : (w.modem ref).live = true)
      (hchanged : forceEpoch = true ∨ object ≠ (w.messaging ref).messaging) (h : Passive w w₁)
      (hm : w₁.messaging = w.messaging)
      (h' : Passive (w₁.updateMessaging ref ((w.messaging ref).changeEpoch object)) w') :
      Effect sha256 w w' (.reconcile ref forceEpoch object)
  | admitted (h : w' = admitModem w) : Effect sha256 w w' .admitted
  | removed {ref : ModemRef} {w₁ : World} (hlive : (w.modem ref).live = true) (h : Passive w w₁)
      (h' : w' = {w₁ with
        bridge := w.bridge.updateModem ref (w.modem ref).modemMarkRemoved}) :
      Effect sha256 w w' (.removed ref)

/-- The operation a call belongs to is at the stage the call was made in. -/
def Call.Fits (call : Call) (operation : SmsOperation) : Prop :=
  match call with
  | .list _ _ _ => True
  | .create _ => operation.type = .send ∧ operation.sendDispatched = false
  | .send _ => operation.type = .send ∧ operation.sendDispatched = true
  | .delete _ _ => operation.type = .delete

/-- Every operation in flight has one call that has not been answered, except the operation
`idle` whose callback runs. -/
structure Pending (w : World) (idle : Option OperationRef) : Prop where
  fresh : ∀ op, w.next ≤ op → w.operations op = none
  count : ∀ op, w.calls.countP (fun call => call.operation == some op) =
    if (w.operations op).isSome = true ∧ idle ≠ some op then 1 else 0
  fits : ∀ call ∈ w.calls, ∀ op operation, call.operation = some op →
    w.operations op = some operation → call.Fits operation

theorem Pending.exists_operation (h : Pending w none) {call : Call} (hc : call ∈ w.calls)
    (hop : call.operation = some op) :
    ∃ operation, w.operations op = some operation ∧ call.Fits operation := by
  have h₁ := h.count op
  have h₂ : 0 < w.calls.countP (fun call => call.operation == some op) :=
    List.countP_pos_iff.mpr ⟨call,hc,by simp [hop]⟩
  cases ho : w.operations op with
  | none =>
    rw [ho] at h₁
    simp only [Option.isSome_none,Bool.false_eq_true,false_and,if_false] at h₁
    omega
  | some operation => exact ⟨operation,rfl,h.fits call hc op operation hop ho⟩

theorem reconcileMessaging_effect (hlive : (w.modem ref).live = true) (forceEpoch : Bool)
    (object : Option Nat) :
    Effect sha256 w (reconcileMessaging w ref forceEpoch object)
      (.reconcile ref forceEpoch object) := by
  simp only [reconcileMessaging]
  split
  · exact .passive (.refl w)
  rename_i hchanged
  have hchanged' : forceEpoch = true ∨ object ≠ (w.messaging ref).messaging := by
    by_cases hf : forceEpoch = true
    · exact .inl hf
    · right
      intro ho
      exact hchanged (by simp [hf,ho])
  have hcancel : (cancelMutation w ref).messaging = w.messaging := by
    simp only [cancelMutation]
    split
    · rfl
    · rfl
  by_cases hk : (w.modem ref).mutationKind = .sms
  · rw [if_pos hk]
    exact .epochChanged hlive hchanged' (cancelMutation_passive w ref) hcancel
      (querySms_passive _ _)
  · rw [if_neg hk]
    exact .epochChanged hlive hchanged' (.refl w) rfl (querySms_passive _ _)

theorem markRemoved_effect (hlive : (w.modem ref).live = true) :
    Effect sha256 w (markRemoved w ref) (.removed ref) := by
  have h₁ := cancelMutation_passive w ref
  have h₂ : Passive w ((cancelMutation w ref).updateMessaging ref
      ((cancelMutation w ref).messaging ref).clearSmsCache) :=
    h₁.trans (Passive.updateMessaging ⟨rfl,rfl,.inl rfl⟩ id)
  refine .removed hlive h₂ ?_
  simp only [markRemoved,updateMessaging,World.modem,h₁.bridge]

theorem finish_effect (h : Pending w none) {index : Nat} {call : Call} {outcome : Outcome}
    {event : Event} (hcall : w.calls[index]? = some call) :
    Effect sha256 w (finish random (w.answer index) call outcome) event := by
  have hmem := List.mem_of_getElem? hcall
  cases call with
  | list ref source epoch => exact .listed hcall (smsListReady_passive _ _ _ _ _ _ _)
  | create op =>
    obtain ⟨operation,ho,-⟩ := h.exists_operation hmem rfl
    obtain ⟨w₁,o₁,hp,ho₁,hc | hd⟩ := smsCreateReady_spec (w:=w.answer index) ho outcome.sms
      outcome.error
    · exact .completed hcall rfl hp ho₁ hc
    · exact .dispatched hcall hp ho₁ hd
  | send op =>
    obtain ⟨operation,ho,-⟩ := h.exists_operation hmem rfl
    obtain ⟨w₁,hp,ho₁,hc⟩ := smsSendReady_spec (w:=w.answer index) ho outcome.succeeded
      outcome.error
    exact .completed hcall rfl hp ho₁ hc
  | delete op path =>
    obtain ⟨operation,ho,hfits⟩ := h.exists_operation hmem rfl
    obtain ⟨w₁,hp,ho₁,hc⟩ := smsDeleteReady_spec (w:=w.answer index) ho hfits outcome.succeeded
      outcome.error
    exact .completed hcall rfl hp ho₁ hc

theorem handle_effect (h : Pending w none) {event : Event}
    (hs : handle sha256 random w event = some w') : Effect sha256 w w' event := by
  cases event with
  | sendSms tables request =>
    simp only [handle,Option.ite_none_left_eq_some,Option.some.injEq] at hs
    obtain ⟨-,rfl⟩ := hs
    rcases methodSendSms_spec (w:=w) tables request with
      h₁ | ⟨value,-,h₁⟩
    · exact .passive h₁
    · cases h₁ with
      | answered h₂ => exact .passive h₂
      | started h₂ h₃ => exact .startedSend h₂ h₃
  | deleteSms tables request =>
    simp only [handle,Option.ite_none_left_eq_some,Option.some.injEq] at hs
    obtain ⟨-,rfl⟩ := hs
    cases methodDeleteSms_spec (w:=w) tables request with
    | answered h₁ => exact .passive h₁
    | started h₁ => exact .startedDelete h₁
  | listSms request =>
    simp only [handle,Option.ite_none_left_eq_some,Option.some.injEq] at hs
    obtain ⟨-,rfl⟩ := hs
    exact .passive (methodListSms_passive w request)
  | finish index outcome =>
    simp only [handle] at hs
    split at hs
    · cases hs
    · rename_i call hcall
      cases hs
      exact finish_effect h hcall
  | timeout op =>
    simp only [handle] at hs
    split at hs
    · cases hs
    · rename_i operation ho
      simp only [Option.ite_none_right_eq_some,Option.some.injEq] at hs
      obtain ⟨-,rfl⟩ := hs
      exact .passive (smsOperationTimeout_passive ho)
  | added ref path =>
    simp only [handle,Option.ite_none_right_eq_some,Option.some.injEq] at hs
    obtain ⟨-,rfl⟩ := hs
    exact .passive (smsAdded_passive w ref path)
  | deleted ref path =>
    simp only [handle,Option.ite_none_right_eq_some,Option.some.injEq] at hs
    obtain ⟨-,rfl⟩ := hs
    exact .passive (smsDeleted_passive w ref path)
  | smsPropertiesChanged ref path properties =>
    cases hs
    exact .passive (smsPropertiesChanged_passive w ref path properties)
  | reconcile ref forceEpoch object =>
    simp only [handle,Option.ite_none_right_eq_some,Option.some.injEq] at hs
    obtain ⟨hlive,rfl⟩ := hs
    exact reconcileMessaging_effect hlive forceEpoch object
  | refreshSms ref =>
    cases hs
    exact .passive (querySms_passive w ref)
  | admitted =>
    simp only [handle,Option.ite_none_left_eq_some,Option.some.injEq] at hs
    obtain ⟨-,rfl⟩ := hs
    exact .admitted rfl
  | removed ref =>
    simp only [handle,Option.ite_none_right_eq_some,Option.some.injEq] at hs
    obtain ⟨hlive,rfl⟩ := hs
    exact markRemoved_effect hlive
  | connectionLost =>
    cases hs
    exact .passive (connectionLost_passive w)
  | reconnected =>
    simp only [handle,Option.ite_none_left_eq_some,Option.some.injEq] at hs
    obtain ⟨-,rfl⟩ := hs
    exact .passive ((Passive.refl w).withUbus _)
  | shutdown =>
    simp only [handle,Option.ite_none_left_eq_some,Option.some.injEq] at hs
    obtain ⟨-,rfl⟩ := hs
    exact .passive ((Passive.refl w).withUbus _)
  | stop =>
    cases hs
    exact .passive (l850glUbusStop_passive w)

/-- What two operations with one identity have in common. -/
structure SmsOperation.Same (o' o : SmsOperation) : Prop where
  type : o'.type = o.type
  modem : o'.modem = o.modem
  messaging : o'.messaging = o.messaging
  generation : o'.generation = o.generation
  messagingGeneration : o'.messagingGeneration = o.messagingGeneration
  clientToken : o'.clientToken = o.clientToken
  requestDigest : o'.requestDigest = o.requestDigest
  sendDispatched : o'.sendDispatched = o.sendDispatched

theorem SmsOperation.Same.of_identity {o o' : SmsOperation} (h : o'.identity = o.identity) :
    o'.Same o := by
  simp only [SmsOperation.identity,SmsOperation.mk.injEq] at h
  obtain ⟨h₁,h₂,h₃,-,-,-,h₄,h₅,-,h₆,-,h₇,-,h₈,-⟩ := h
  exact ⟨h₁,h₂,h₃,h₄,h₅,h₆,h₇,h₈⟩

theorem Call.Fits.of_identity {call : Call} {o o' : SmsOperation} (h : call.Fits o)
    (hid : o'.identity = o.identity) : call.Fits o' := by
  have h₁ := SmsOperation.Same.of_identity hid
  cases call with
  | list => trivial
  | create => exact ⟨h₁.type.trans h.1,h₁.sendDispatched.trans h.2⟩
  | send => exact ⟨h₁.type.trans h.1,h₁.sendDispatched.trans h.2⟩
  | delete => exact h₁.type.trans h

theorem Passive.exists_operation (h : Passive w w') {o' : SmsOperation}
    (ho : w'.operations op = some o') :
    ∃ o, w.operations op = some o ∧ o'.identity = o.identity := by
  have h₁ := h.operations op
  rw [ho] at h₁
  obtain ⟨o,ho',hid⟩ := Option.map_eq_some_iff.mp h₁.symm
  exact ⟨o,ho',hid.symm⟩

theorem Passive.operations_isSome (h : Passive w w') (op : OperationRef) :
    (w'.operations op).isSome = (w.operations op).isSome := by
  have h₁ := congrArg Option.isSome (h.operations op)
  simpa using h₁

theorem Passive.pending {idle : Option OperationRef} (h : Passive w w') (hp : Pending w idle) :
    Pending w' idle := by
  obtain ⟨later,hcalls,hlater⟩ := h.calls
  refine ⟨fun op ho => ?_,fun op => ?_,fun call hc op o' hop ho => ?_⟩
  · have h₁ := h.operations_isSome op
    rw [hp.fresh op (h.next ▸ ho)] at h₁
    simpa using h₁
  · have h₁ : later.countP (fun call => call.operation == some op) = 0 := by
      rw [List.countP_eq_zero]
      intro c hc
      simp [hlater c hc]
    rw [hcalls,List.countP_append,h₁,Nat.add_zero,hp.count op,h.operations_isSome op]
  · rw [hcalls] at hc
    rcases List.mem_append.mp hc with hc | hc
    · obtain ⟨o,ho,hid⟩ := h.exists_operation ho
      exact (hp.fits call hc op o hop ho).of_identity hid
    · rw [hlater call hc] at hop
      cases hop

theorem Pending.answer {index : Nat} {call : Call} (h : Pending w none)
    (hcall : w.calls[index]? = some call) : Pending (w.answer index) call.operation := by
  obtain ⟨hlt,hget⟩ := List.getElem?_eq_some_iff.mp hcall
  refine ⟨h.fresh,fun op => ?_,fun c hc => h.fits c (List.mem_of_mem_eraseIdx hc)⟩
  have h₁ := (List.getElem_cons_eraseIdx_perm hlt).countP_eq fun call =>
    call.operation == some op
  rw [hget,List.countP_cons,h.count op] at h₁
  simp only [World.answer]
  by_cases hop : call.operation = some op
  · obtain ⟨operation,ho,-⟩ := h.exists_operation (List.mem_of_getElem? hcall) hop
    simp only [hop,ho,beq_self_eq_true,if_true,Option.isSome_some,ne_eq,
      not_true_eq_false,and_false,if_false,reduceCtorEq,not_false_eq_true,and_self] at h₁ ⊢
    omega
  · have hop' : (call.operation == some op) = false := by simpa using hop
    simpa [hop,hop'] using h₁

/-- An operation whose `Messaging.Create` was answered has not been dispatched. -/
theorem Pending.created_operation {index : Nat} (hp : Pending w none)
    (hcall : w.calls[index]? = some (.create op)) (h : Passive (w.answer index) w₁)
    (ho : w₁.operations op = some operation) :
    operation.type = .send ∧ operation.sendDispatched = false := by
  obtain ⟨o,ho₀,hfits⟩ := hp.exists_operation (List.mem_of_getElem? hcall) rfl
  obtain ⟨o',ho',hid⟩ := h.exists_operation ho
  have hoo : o = o' := Option.some.inj (ho₀.symm.trans ho')
  subst hoo
  have hs := SmsOperation.Same.of_identity hid
  exact ⟨hs.type.trans hfits.1,hs.sendDispatched.trans hfits.2⟩

/-- The end of an operation whose call was answered. -/
theorem Frees.pending (h : Frees w w' op operation) (hp : Pending w (some op)) :
    Pending w' none := by
  refine ⟨fun other ho => ?_,fun other => ?_,fun call hc other o hop ho => ?_⟩
  · rw [h.operations]
    by_cases he : other = op
    · simp [he]
    · simpa [he] using hp.fresh other (h.next ▸ ho)
  · rw [h.calls,hp.count other,h.operations]
    by_cases he : other = op
    · simp [he]
    · simp [he,Ne.symm he]
  · rw [h.calls] at hc
    rw [h.operations] at ho
    by_cases he : other = op
    · simp [he] at ho
    · exact hp.fits call hc other o hop (by simpa [he] using ho)

theorem Dispatches.pending (h : Dispatches w w' op operation)
    (ho : w.operations op = some operation) (htype : operation.type = .send)
    (hp : Pending w (some op)) : Pending w' none := by
  obtain ⟨sending,hops,hid⟩ := h.operations
  have hfresh : op < w.next := by
    by_contra hlt
    rw [hp.fresh op (Nat.le_of_not_lt hlt)] at ho
    cases ho
  refine ⟨fun other hle => ?_,fun other => ?_,fun call hc other o hop ho' => ?_⟩
  · rw [h.next] at hle
    have hne : other ≠ op := fun he => absurd hfresh (Nat.not_lt.mpr (he ▸ hle))
    rw [hops]
    simpa [hne] using hp.fresh other hle
  · rw [h.calls,List.countP_append,hp.count other,hops]
    by_cases he : other = op
    · simp [he,Call.operation]
    · simp [he,Ne.symm he,Call.operation]
  · rw [h.calls] at hc
    rw [hops] at ho'
    rcases List.mem_append.mp hc with hold | hc
    · have he : other ≠ op := by
        intro he
        have h₁ := hp.count op
        have h₂ : 0 < w.calls.countP (fun call => call.operation == some op) :=
          List.countP_pos_iff.mpr ⟨call,hold,by simp [hop,he]⟩
        simp only [ne_eq,not_true_eq_false,and_false,if_false] at h₁
        omega
      exact hp.fits call hold other o hop (by simpa [he] using ho')
    · rw [List.mem_singleton] at hc
      subst hc
      simp only [Call.operation,Option.some.injEq] at hop
      subst hop
      simp only [Function.update_self,Option.some.injEq] at ho'
      subst ho'
      simp only [SmsOperation.identity,SmsOperation.mk.injEq] at hid
      exact ⟨hid.1.trans htype,hid.2.2.2.2.2.2.2.2.2.2.2.2.2.1⟩

theorem Starts.pending {call : Call} (h : Starts w w' operation) (hp : Pending w none)
    (hcalls : w'.calls = w.calls++[call]) (hop : call.operation = some w.next)
    (hfits : call.Fits operation) : Pending w' none := by
  have hnone := hp.fresh w.next (Nat.le_refl _)
  refine ⟨fun other hle => ?_,fun other => ?_,fun c hc other o hop' ho' => ?_⟩
  · rw [h.next] at hle
    have hne : other ≠ w.next := fun he => by
      rw [he] at hle
      exact absurd hle (Nat.not_succ_le_self _)
    rw [h.operations]
    simpa [hne] using hp.fresh other (Nat.le_of_succ_le hle)
  · rw [hcalls,List.countP_append,hp.count other,h.operations]
    by_cases he : other = w.next
    · simp [he,hop,hnone]
    · simp [he,Ne.symm he,hop]
  · rw [h.operations] at ho'
    by_cases he : other = w.next
    · subst he
      simp only [Function.update_self,Option.some.injEq] at ho'
      subst ho'
      rw [hcalls] at hc
      rcases List.mem_append.mp hc with hc | hc
      · obtain ⟨o',ho',-⟩ := hp.exists_operation hc hop'
        rw [hnone] at ho'
        cases ho'
      · rw [List.mem_singleton] at hc
        exact hc ▸ hfits
    · rw [hcalls] at hc
      rcases List.mem_append.mp hc with hc | hc
      · exact hp.fits c hc other o hop' (by simpa [he] using ho')
      · rw [List.mem_singleton.mp hc,hop,Option.some.injEq] at hop'
        exact absurd hop'.symm he

theorem Effect.pending {event : Event} (h : Effect sha256 w w' event) (hp : Pending w none) :
    Pending w' none := by
  cases h with
  | passive h => exact h.pending hp
  | listed hcall h => exact h.pending (hp.answer hcall)
  | completed hcall hop h ho h' =>
    have h₁ := hp.answer hcall
    rw [hop] at h₁
    exact h'.toFrees.pending (h.pending h₁)
  | dispatched hcall h ho h' =>
    exact h'.pending ho (hp.created_operation hcall h ho).1 (h.pending (hp.answer hcall))
  | startedSend h h' =>
    exact h'.toStarts.pending (h.pending hp) h'.calls rfl ⟨h'.type,h'.undispatched⟩
  | startedDelete h => exact h.toStarts.pending hp h.calls rfl h.type
  | epochChanged _ _ h _ h' =>
    have h₁ := h.pending hp
    exact h'.pending ⟨h₁.fresh,h₁.count,h₁.fits⟩
  | admitted h =>
    subst h
    exact ⟨hp.fresh,hp.count,hp.fits⟩
  | removed _ h h' =>
    have h₁ := h.pending hp
    subst h'
    exact ⟨h₁.fresh,h₁.count,h₁.fits⟩

theorem Pending.refresh (h : Pending w none) (bridge : Bridge) : Pending (w.refresh bridge) none :=
  ⟨h.fresh,h.count,h.fits⟩

/-- A step is a refresh and one effect. -/
theorem step_effect (h : Pending w none) {event : Event × Bridge}
    (hs : step sha256 random w event = some w') :
    (w.bridge.now ≤ event.2.now ∧ event.2.now < int64Max) ∧
      Effect sha256 (w.refresh event.2) w' event.1 := by
  simp only [step,Option.ite_none_right_eq_some] at hs
  exact ⟨hs.1,handle_effect (h.refresh event.2) hs.2⟩

theorem step_pending (h : Pending w none) {event : Event × Bridge}
    (hs : step sha256 random w event = some w') : Pending w' none :=
  (step_effect h hs).2.pending (h.refresh event.2)

theorem Initial.pending (h : Initial w) : Pending w none := by
  refine ⟨fun op _ => h.operations op,fun op => ?_,fun call hc => ?_⟩
  · simp [h.calls,h.operations]
  · rw [h.calls] at hc
    cases hc

end Sms
end L850GL
