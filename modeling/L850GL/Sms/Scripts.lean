import L850GL.Sms.Changes

/-! The script of every callback, request and signal. -/
namespace L850GL
namespace Sms

open Errors Identity Messaging Mutation World

variable {w w' w₁ : World} {ref : ModemRef} {op : OperationRef} {operation : SmsOperation}
  {m : Messaging} {sha256 : CString → Digest} {random : Nat → Option (Vector UInt8 16)}
  {changes changes' : List Change}

theorem smsOperationStaleCode_eq_none :
    smsOperationStaleCode w operation = none ↔
      (w.modem operation.modem).live = true ∧
      (w.modem operation.modem).generation = operation.generation ∧
      (w.messaging operation.modem).messagingGeneration = operation.messagingGeneration ∧
      (w.messaging operation.modem).messaging = some operation.messaging := by
  by_cases hl : (w.modem operation.modem).live = true
  · simp only [smsOperationStaleCode,hl]
    by_cases hg : (w.modem operation.modem).generation = operation.generation
    · simp [hg]
    · simp [hg]
  · simp [smsOperationStaleCode,hl]

theorem Settlement.congr {o : SmsOperation} {ok : Bool} (h : Settlement w₁ o ok changes)
    (hnow : w₁.bridge.now = w.bridge.now)
    (hstale : smsOperationStaleCode w₁ o = smsOperationStaleCode w operation)
    (htype : o.type = operation.type) (htoken : o.clientToken = operation.clientToken) :
    Settlement w operation ok changes := by
  cases h with
  | nothing h =>
    rw [htype,htoken] at h
    exact .nothing h
  | stale hok h =>
    rw [hstale] at h
    exact .stale hok h
  | removed token h =>
    rw [htoken] at h
    rw [hnow]
    exact .removed token h
  | stored token result h hcurrent hresult =>
    rw [htoken] at h
    rw [hstale] at hcurrent
    rw [hnow]
    exact .stored token result h hcurrent hresult

theorem Ended.of_frees {o : SmsOperation} (h : Frees w₁ w' op o)
    (ho : ∀ other, other ≠ op → w₁.operations other = w.operations other) : Ended w w' op := by
  refine ⟨?_,fun other hne => ?_⟩
  · rw [h.operations,Function.update_self]
  · rw [h.operations,Function.update_of_ne hne]
    exact ho other hne

/-- A callback that works on its operation and has not ended it. -/
structure Working (random : Nat → Option (Vector UInt8 16)) (w v : World) (op : OperationRef)
    (operation o : SmsOperation) (before : List Change) : Prop where
  known : v.operations op = some o
  identity : o.identity = operation.identity
  others : ∀ other, other ≠ op → v.operations other = w.operations other
  now : v.bridge.now = w.bridge.now
  stale : smsOperationStaleCode v o = smsOperationStaleCode w operation
  runs : Runs random operation.modem w v before

theorem Working.error_script {v : World} {o : SmsOperation} {index : Nat} {outcome : Outcome}
    {call : Call} {before : List Change} (h : Working random w v op operation o before)
    (ha : AnswersCall w index call op operation) (hb : Before w operation call outcome before)
    (code : String) (retryable : Bool) :
    ∃ changes, Runs random operation.modem w (smsOperationCompleteError v op code retryable)
        changes ∧
      Script sha256 random w (smsOperationCompleteError v op code retryable)
        (.finish index outcome) operation.modem changes := by
  have hid := h.identity
  simp only [SmsOperation.identity,SmsOperation.mk.injEq] at hid
  obtain ⟨htype,hmodem,-,-,-,-,-,-,-,htoken,hsmsId,-⟩ := hid
  obtain ⟨settlement,hs,hr⟩ := smsOperationCompleteError_runs random h.known code
    retryable outcome.succeeded
  rw [hmodem,hsmsId] at hr
  have h₁ := h.runs.trans hr
  rw [← List.append_assoc] at h₁
  exact ⟨_,h₁,.ended _ _ ha hb (hs.congr h.now h.stale htype htoken)
    (.of_frees (smsOperationCompleteError_completes h.known _ _).toFrees h.others)⟩

theorem Carried.of_continues (value : SmsOperation) (ho : w.operations op = some operation)
    (hops : ∀ other, other ≠ op → w'.operations other = w.operations other)
    (hop : w'.operations op = some value) (h : operation.Continues value) : Carried w w' := by
  intro other
  by_cases hne : other = op
  · rw [hne,ho,hop]
    exact .some h
  · rw [hops other hne]
    cases w.operations other with
    | none => exact .none
    | some o => exact .some (.refl o)

theorem smsCreateReady_script {index : Nat} {outcome : Outcome}
    (ha : AnswersCall w index (.create op) op operation) :
    ∃ changes, Runs random operation.modem w
        (smsCreateReady (w.answer index) op outcome.sms outcome.error) changes ∧
      Script sha256 random w (smsCreateReady (w.answer index) op outcome.sms outcome.error)
        (.finish index outcome) operation.modem changes := by
  have ho : (w.answer index).operations op = some operation := ha.known
  have hself : ∀ (v : World) (value : SmsOperation),
      (v.updateOperation op (some value)).operations op = some value := by
    intro v value
    simp [World.updateOperation]
  have h₁ : Working random w ((w.answer index).updateOperation op
      (some {operation with properties := none})) op operation
      {operation with properties := none} [] := by
    refine ⟨hself _ _,rfl,fun other hne => ?_,rfl,rfl,⟨rfl,fun _ _ => rfl,rfl⟩⟩
    simp [World.updateOperation,hne,World.answer]
  simp only [smsCreateReady,withOperation,ho]
  cases hsms : outcome.sms with
  | none =>
    dsimp only
    simp only [smsOperationCompleteNormalizedError,withOperation,hself]
    exact h₁.error_script ha .nothing _ _
  | some sms =>
    have h₂ : Working random w (((w.answer index).updateOperation op
        (some {operation with properties := none})).updateOperation op
          (some {operation with properties := none,sms := some sms})) op operation
        {operation with properties := none,sms := some sms} [] := by
      refine ⟨hself _ _,rfl,fun other hne => ?_,rfl,rfl,⟨rfl,fun _ _ => rfl,rfl⟩⟩
      simp [World.updateOperation,hne,World.answer]
    dsimp only
    split
    · exact h₂.error_script ha .nothing _ _
    rename_i hcurrent
    have hcurrent' : smsOperationStaleCode w operation = none := hcurrent
    have hl := Messaging.admitReservedSms_ledger w.bridge.now operation.modem
      (m:=w.messaging operation.modem) (w.modem operation.modem).generation sms
      (operation.smsId.getD [])
    have h₃ : Working random w ((((w.answer index).updateOperation op
        (some {operation with properties := none})).updateOperation op
          (some {operation with properties := none,sms := some sms})).updateMessaging
            operation.modem ((w.messaging operation.modem).admitReservedSms operation.modem
              (w.modem operation.modem).generation sms (operation.smsId.getD [])).1) op operation
        {operation with properties := none,sms := some sms}
        [.enter (w.modem operation.modem).generation sms (operation.smsId.getD [])] := by
      have hp : Passive w (w.updateMessaging operation.modem ((w.messaging operation.modem
          ).admitReservedSms operation.modem (w.modem operation.modem).generation sms
            (operation.smsId.getD [])).1) := .updateMessaging hl.1 (by rw [hl.2]; exact id)
      exact ⟨hself _ _,rfl,h₂.others,rfl,hp.smsOperationStaleCode_eq operation,
        .of_update _ rfl rfl rfl rfl⟩
    split
    · exact h₃.error_script ha (.admitted op sms rfl hsms hcurrent') _ _
    split
    · exact h₃.error_script ha (.admitted op sms rfl hsms hcurrent') _ _
    split
    · exact h₃.error_script ha (.admitted op sms rfl hsms hcurrent') _ _
    · refine ⟨_,h₃.runs.of_eq rfl rfl rfl rfl rfl rfl,.dispatched ha hsms hcurrent'
        (Carried.of_continues _ ha.known (fun other hne => ?_) (hself _ _)
          ⟨rfl,rfl,rfl,rfl,rfl,rfl,rfl,rfl,id⟩)⟩
      simp [World.updateOperation,hne,World.answer,observe,World.call,updateMessaging]

theorem smsSendReady_script {index : Nat} {outcome : Outcome}
    (ha : AnswersCall w index (.send op) op operation) :
    ∃ changes, Runs random operation.modem w
        (smsSendReady (w.answer index) op outcome.succeeded outcome.error) changes ∧
      Script sha256 random w (smsSendReady (w.answer index) op outcome.succeeded outcome.error)
        (.finish index outcome) operation.modem changes := by
  have ho : (w.answer index).operations op = some operation := ha.known
  have h₁ : Working random w (w.answer index) op operation operation [] :=
    ⟨ho,rfl,fun _ _ => rfl,rfl,rfl,⟨rfl,fun _ _ => rfl,rfl⟩⟩
  simp only [smsSendReady,withOperation,ho]
  split
  · simp only [smsOperationCompleteNormalizedError,withOperation,ho]
    exact h₁.error_script ha .nothing _ _
  rename_i hsent
  have hsent' : outcome.succeeded = true := by simpa using hsent
  split
  · rename_i stale hstale
    have hf : (false = true ↔ smsOperationStaleCode (w.answer index) operation = none) := by
      simp [hstale]
    obtain ⟨settlement,hs,hr⟩ := smsOperationCompleteSend_runs random ho hf
    refine ⟨_,hr.of_eq rfl rfl rfl rfl rfl rfl,.ended [] _ ha .nothing ?_
      (.of_frees (smsOperationCompleteSend_completes ho hf).toFrees fun _ _ => rfl)⟩
    rw [hsent']
    exact hs.congr rfl rfl rfl rfl
  · rename_i hcurrent
    have hlive := (smsOperationStaleCode_eq_none.mp hcurrent).1
    have hq := querySms_passive (w.answer index) operation.modem
    have hcurrent' := (hq.smsOperationStaleCode_eq operation).trans hcurrent
    have ho' : ((w.answer index).querySms operation.modem).operations op = some operation := by
      rw [querySms_operations]
      exact ho
    have ht : (true = true ↔ smsOperationStaleCode ((w.answer index).querySms operation.modem)
        operation = none) := by simp [hcurrent']
    obtain ⟨settlement,hs,hr⟩ := smsOperationCompleteSend_runs random ho' ht
    have h₂ := ((querySms_runs random hlive).of_eq (v:=w) rfl rfl rfl rfl rfl rfl).trans hr
    rw [← List.append_assoc] at h₂
    refine ⟨_,h₂,.ended _ _ ha (.queried hcurrent) ?_
      (.of_frees (smsOperationCompleteSend_completes ho' ht).toFrees fun other hne => ?_)⟩
    · rw [hsent']
      exact hs.congr (by rw [hq.bridge]; rfl) (hq.smsOperationStaleCode_eq operation) rfl rfl
    · rw [querySms_operations]
      rfl

theorem smsDeleteReady_script {index : Nat} {outcome : Outcome} {path : CString}
    (ha : AnswersCall w index (.delete op path) op operation) (htype : operation.type = .delete) :
    ∃ changes, Runs random operation.modem w
        (smsDeleteReady (w.answer index) op outcome.succeeded outcome.error) changes ∧
      Script sha256 random w (smsDeleteReady (w.answer index) op outcome.succeeded outcome.error)
        (.finish index outcome) operation.modem changes := by
  have ho : (w.answer index).operations op = some operation := ha.known
  have h₁ : Working random w (w.answer index) op operation operation [] :=
    ⟨ho,rfl,fun _ _ => rfl,rfl,rfl,⟨rfl,fun _ _ => rfl,rfl⟩⟩
  simp only [smsDeleteReady,withOperation,ho]
  split
  · simp only [smsOperationCompleteNormalizedError,withOperation,ho]
    exact h₁.error_script ha .nothing _ _
  split
  · have h₂ := smsOperationCompleteBuffer_runs random
      (w:=(w.answer index).observe (.succeeded op)) ho
    exact ⟨_,h₂.of_eq rfl rfl rfl rfl rfl rfl,.ended [] [] ha .nothing
      (.nothing (.inl htype)) (.of_frees (smsOperationCompleteDelete_completes ho htype).toFrees
        fun _ _ => rfl)⟩
  · rename_i hcurrent
    have hlive := (smsOperationStaleCode_eq_none.mp hcurrent).1
    have ho' : ((w.answer index).querySms operation.modem).operations op = some operation := by
      rw [querySms_operations]
      exact ho
    have h₂ := smsOperationCompleteBuffer_runs random
      (w:=((w.answer index).querySms operation.modem).observe (.succeeded op)) ho'
    have h₃ := ((querySms_runs random hlive).of_eq (v:=w) rfl rfl rfl rfl rfl
      rfl).trans h₂.of_observe
    refine ⟨_,h₃,.ended _ [] ha (.queried hcurrent) (.nothing (.inl htype))
      (.of_frees (smsOperationCompleteDelete_completes ho' htype).toFrees fun other hne => ?_)⟩
    rw [querySms_operations]
    rfl

theorem smsListReady_script {index : Nat} {outcome : Outcome} {source epoch : Nat}
    (hcall : w.calls[index]? = some (.list ref source epoch)) :
    ∃ changes, Runs random ref w (smsListReady random (w.answer index) ref source epoch
        outcome.messages outcome.error) changes ∧
      Script sha256 random w (smsListReady random (w.answer index) ref source epoch
        outcome.messages outcome.error) (.finish index outcome) ref changes := by
  simp only [smsListReady]
  split
  · exact ⟨[],⟨rfl,fun _ _ => rfl,rfl⟩,.idle (.of_eq rfl)⟩
  rename_i hcurrent
  simp only [Bool.or_eq_true,not_or,bne_iff_ne,ne_eq,Decidable.not_not,
    Bool.not_eq_eq_eq_not,Bool.not_true,Bool.not_eq_false] at hcurrent
  obtain ⟨⟨hlive,hsource⟩,hepoch⟩ := hcurrent
  -- the listing itself, before a query that became due while it was in flight
  have hdone : ∀ (change : Change) (v : World), Runs random ref w v [change] →
      (v.modem ref).live = true → v.operations = w.operations →
      ∃ later, later = (if (w.messaging ref).smsQueryDirty then [Change.querySms] else []) ∧
        Runs random ref w (if (w.messaging ref).smsQueryDirty then v.querySms ref else v)
          (change::later) ∧
        Carried w (if (w.messaging ref).smsQueryDirty then v.querySms ref else v) := by
    intro change v hr hl ho
    refine ⟨_,rfl,?_,?_⟩
    · by_cases hd : (w.messaging ref).smsQueryDirty = true
      · rw [if_pos hd,if_pos hd]
        exact hr.trans (querySms_runs random hl)
      · rw [if_neg hd,if_neg hd]
        exact hr
    · refine .of_eq ?_
      split
      · rw [querySms_operations,ho]
      · exact ho
  by_cases hfailed : (outcome.messages.isEmpty && outcome.error.isSome) = true
  · rw [if_pos hfailed]
    obtain ⟨later,hlater,hr,hc⟩ := hdone (.listFailed
      (gErrorMatches outcome.error (.io .cancelled)))
      ((w.answer index).updateMessaging ref ((w.messaging ref).answered.listFailed
        (gErrorMatches outcome.error (.io .cancelled)))) (.of_update _ rfl rfl rfl rfl) hlive rfl
    exact ⟨_,hr,.listFailed hcall hlive hsource hepoch hc later hlater⟩
  · rw [if_neg hfailed]
    have hr : Runs random ref w (({(w.answer index).updateMessaging ref
        ((w.messaging ref).answered.rebuildCache random ref (w.modem ref).generation w.properties
          outcome.messages w.drawn).1 with
        drawn := ((w.messaging ref).answered.rebuildCache random ref (w.modem ref).generation
          w.properties outcome.messages w.drawn).2}).observe (.listed ref epoch))
        [.rebuild (w.modem ref).generation w.properties outcome.messages] := by
      refine ⟨?_,fun other ho => ?_,rfl⟩
      · simp [observe,updateMessaging,applyAll,Change.apply]
      · simp [observe,updateMessaging,ho,World.answer]
    obtain ⟨later,hlater,hr,hc⟩ := hdone _ _ hr hlive rfl
    exact ⟨_,hr,.listed hcall hlive hsource hepoch hc later hlater⟩

theorem startSend_runs (sha256 : CString → Digest) (random : Nat → Option (Vector UInt8 16))
    (source : Nat) (request : SendSmsRequest) (smsId : CString)
    (hattested : (w.modem ref).l850glModemAttestMutationTarget = true) :
    Runs random ref w (startSend sha256 w ref source request smsId)
        [.dedupeStore w.bridge.now request.clientToken
          (busyMarker (sendOperation sha256 w ref source request smsId) smsId)] ∧
      (startSend sha256 w ref source request smsId).operations =
        Function.update w.operations w.next
          (some (sendOperation sha256 w ref source request smsId)) := by
  have ht : (sendOperation sha256 w ref source request smsId).clientToken =
    some request.clientToken := rfl
  have hs := smsDedupeStore_stores (smsOperationNew w (sendOperation sha256 w ref source request
    smsId)) w.next (sendOperation sha256 w ref source request smsId)
      (busyMarker (sendOperation sha256 w ref source request smsId) smsId)
  have hr := smsDedupeStore_runs random (w:=smsOperationNew w (sendOperation sha256 w ref
    source request smsId)) w.next
      (busyMarker (sendOperation sha256 w ref source request smsId) smsId) ht
  have hmodem : (smsOperationNew w (sendOperation sha256 w ref source request smsId)).modem ref =
      acquireModem w.next (w.modem ref) := by
    simp [World.modem,smsOperationNew,sendOperation,newOperation]
  have ho := hs.operations
  simp only [busyMarker] at hs hr ho ⊢
  simp only [startSend]
  rw [if_neg]
  · exact ⟨hr.of_eq rfl rfl rfl rfl rfl rfl,ho⟩
  · rw [World.modem,hs.bridge]
    rw [World.modem] at hmodem
    rw [hmodem,acquireModem_attested,hattested]
    decide

/-- `method_send_sms` behind its lookups, with an id reserved when there is one. -/
def World.reserving (random : Nat → Option (Vector UInt8 16)) (w : World) (ref : ModemRef) :
    World :=
  let reserved := ((w.messaging ref).smsDedupePrune w.bridge.now).reserveSmsId random w.drawn
  {w.updateMessaging ref reserved.1 with drawn := reserved.2.2}

theorem reserving_runs (random : Nat → Option (Vector UInt8 16)) (w : World) (ref : ModemRef) :
    Runs random ref w (w.reserving random ref) [.dedupePrune w.bridge.now,.reserve] := by
  refine ⟨?_,fun other ho => ?_,rfl⟩
  · simp [World.reserving,updateMessaging,applyAll,Change.apply]
  · simp [World.reserving,updateMessaging,ho]

theorem reserving_ledger (random : Nat → Option (Vector UInt8 16)) (w : World) (ref : ModemRef) :
    ((w.reserving random ref).messaging ref).messaging = (w.messaging ref).messaging ∧
      ((w.reserving random ref).messaging ref).messagingGeneration =
        (w.messaging ref).messagingGeneration := by
  have hl : Messaging.Ledger w.bridge.now _ _ := (Messaging.reserveSmsId_ledger random
    ((w.messaging ref).smsDedupePrune w.bridge.now) w.drawn).1
  simp only [World.reserving,updateMessaging,Function.update_self]
  exact ⟨hl.messaging,hl.epoch⟩

theorem sendNewSms_eq (sha256 : CString → Digest) (random : Nat → Option (Vector UInt8 16))
    (w : World) (request : SendSmsRequest)
    (hidle : (w.modem ref).mutationBusy = false)
    (hsome : (w.messaging ref).messaging.isSome = true) :
    ∃ reply, sendNewSms sha256 random (w.updateMessaging ref ((w.messaging ref).smsDedupePrune
        w.bridge.now)) ref request = reply ∧
      ((((w.messaging ref).smsDedupePrune w.bridge.now).reserveSmsId random w.drawn).2.1 = none ∧
        reply.1 = w.reserving random ref ∨
      ∃ smsId source, (((w.messaging ref).smsDedupePrune w.bridge.now).reserveSmsId random
          w.drawn).2.1 = some smsId ∧ (w.messaging ref).messaging = some source ∧
        reply.1 = startSend sha256 (w.reserving random ref) ref source request smsId) := by
  have hbusy : ((w.updateMessaging ref ((w.messaging ref).smsDedupePrune w.bridge.now)).modem
    ref).mutationBusy = false := hidle
  have hself : (w.updateMessaging ref ((w.messaging ref).smsDedupePrune w.bridge.now)).messaging
      ref = (w.messaging ref).smsDedupePrune w.bridge.now := by simp [updateMessaging]
  have hw : {(w.updateMessaging ref ((w.messaging ref).smsDedupePrune
        w.bridge.now)).updateMessaging ref (((w.messaging ref).smsDedupePrune
          w.bridge.now).reserveSmsId random w.drawn).1 with
      drawn := (((w.messaging ref).smsDedupePrune w.bridge.now).reserveSmsId random
        w.drawn).2.2} = w.reserving random ref := by
    simp [updateMessaging,World.reserving]
  have hdrawn : (w.updateMessaging ref ((w.messaging ref).smsDedupePrune w.bridge.now)).drawn =
    w.drawn := rfl
  refine ⟨_,rfl,?_⟩
  obtain ⟨source,hsource⟩ := Option.isSome_iff_exists.mp hsome
  have hsource' : (((w.updateMessaging ref ((w.messaging ref).smsDedupePrune
      w.bridge.now)).updateMessaging ref (((w.messaging ref).smsDedupePrune
        w.bridge.now).reserveSmsId random w.drawn).1).messaging ref).messaging = some source := by
    simpa [updateMessaging,World.reserving] using (reserving_ledger random w ref).1.trans hsource
  simp only [sendNewSms,hbusy,hself,hdrawn,Bool.false_eq_true,if_false,hw]
  cases hid : (((w.messaging ref).smsDedupePrune w.bridge.now).reserveSmsId random
      w.drawn).2.1 with
  | none => exact .inl ⟨rfl,rfl⟩
  | some smsId =>
    right
    rw [hsource']
    exact ⟨smsId,source,rfl,hsource,rfl⟩

theorem sendSmsOn_script (tables : Tables) {request : SendSmsRequest}
    (hattested : (w.modem ref).l850glModemAttestMutationTarget = true)
    (hsome : (w.messaging ref).messaging.isSome = true) :
    ∃ changes, Runs random ref w (sendSmsOn sha256 random w ref request).1 changes ∧
      Script sha256 random w (sendSmsOn sha256 random w ref request).1
        (.sendSms tables (some request)) ref changes := by
  have hprune : Runs random ref w (w.updateMessaging ref ((w.messaging ref).smsDedupePrune
      w.bridge.now)) [.dedupePrune w.bridge.now] := .of_update _ rfl rfl rfl rfl
  have hlive : (w.modem ref).live = true := by
    simp only [Modem.l850glModemAttestMutationTarget,Bool.and_eq_true] at hattested
    exact hattested.1.1
  simp only [sendSmsOn,Messaging.smsDedupeFind]
  split
  · split
    · exact ⟨_,hprune,.known (.of_eq rfl)⟩
    · exact ⟨_,hprune,.known (.of_eq rfl)⟩
  by_cases hbusy : (w.modem ref).mutationBusy = true
  · have hbusy' : ((w.updateMessaging ref ((w.messaging ref).smsDedupePrune w.bridge.now)).modem
      ref).mutationBusy = true := hbusy
    simp only [sendNewSms,hbusy',if_true]
    exact ⟨_,hprune,.known (.of_eq rfl)⟩
  have hidle : (w.modem ref).mutationBusy = false := by simpa using hbusy
  obtain ⟨reply,hreply,hcases⟩ := sendNewSms_eq sha256 random w request hidle
    hsome
  rw [hreply]
  rcases hcases with ⟨hid,hw⟩ | ⟨smsId,source,hid,hsource,hw⟩
  · rw [hw]
    exact ⟨_,reserving_runs random w ref,.noId hid (.of_eq rfl)⟩
  · rw [hw]
    have hop : sendOperation sha256 (w.reserving random ref) ref source request smsId =
        sendOperation sha256 w ref source request smsId := by
      simp only [sendOperation,newOperation,(reserving_ledger random w ref).2]
      rfl
    obtain ⟨hr,ho⟩ := startSend_runs sha256 random
      source request smsId (w:=w.reserving random ref) hattested
    rw [hop] at hr ho
    exact ⟨_,(reserving_runs random w ref).trans hr,.startedSend hid hlive hidle hsource ho⟩

theorem methodSendSms_script (tables : Tables) (request : Option SendSmsRequest) :
    ∃ ref changes, Runs random ref w (methodSendSms sha256 random w tables request).1 changes ∧
      Script sha256 random w (methodSendSms sha256 random w tables request).1
        (.sendSms tables request) ref changes := by
  cases request with
  | none => exact ⟨0,[],.refl w 0,.idle (.of_eq rfl)⟩
  | some request =>
    simp only [methodSendSms]
    split
    · exact ⟨0,[],.refl w 0,.idle (.of_eq rfl)⟩
    split
    · exact ⟨0,[],.refl w 0,.idle (.of_eq rfl)⟩
    · rename_i ref hok
      have h := smsMutationModem_ok hok
      exact ⟨ref,sendSmsOn_script tables h.1 h.2.2⟩

theorem deleteSmsOn_script {tables : Tables} {request : DeleteSmsRequest}
    (hattested : (w.modem ref).l850glModemAttestMutationTarget = true) :
    ∃ changes, Runs random ref w (deleteSmsOn w ref request).1 changes ∧
      Script sha256 random w (deleteSmsOn w ref request).1 (.deleteSms tables (some request)) ref
        changes := by
  have hlive : (w.modem ref).live = true := by
    simp only [Modem.l850glModemAttestMutationTarget,Bool.and_eq_true] at hattested
    exact hattested.1.1
  simp only [deleteSmsOn]
  split
  · exact ⟨_,querySms_runs random hlive,.queried rfl hlive (.of_eq (querySms_operations w ref))⟩
  rename_i hready
  split
  · exact ⟨[],.refl w ref,.idle (.of_eq rfl)⟩
  rename_i hidle
  split
  · rename_i entry source hfound hsource
    split
    · exact ⟨[],.refl w ref,.idle (.of_eq rfl)⟩
    split
    · exact ⟨[],.refl w ref,.idle (.of_eq rfl)⟩
    rw [if_neg]
    · exact ⟨[],⟨rfl,fun _ _ => rfl,rfl⟩,.startedDelete (by simpa using hidle) hlive
        (by simpa using hready) hsource hfound rfl⟩
    · have hmodem : ∀ operation : SmsOperation, operation.modem = ref →
          (smsOperationNew w operation).modem ref = acquireModem w.next (w.modem ref) := by
        rintro operation rfl
        simp [World.modem,smsOperationNew]
      rw [hmodem _ rfl,acquireModem_attested,hattested]
      decide
  · exact ⟨[],.refl w ref,.idle (.of_eq rfl)⟩

theorem methodDeleteSms_script (tables : Tables) (request : Option DeleteSmsRequest) :
    ∃ ref changes, Runs random ref w (methodDeleteSms w tables request).1 changes ∧
      Script sha256 random w (methodDeleteSms w tables request).1 (.deleteSms tables request) ref
        changes := by
  cases request with
  | none => exact ⟨0,[],.refl w 0,.idle (.of_eq rfl)⟩
  | some request =>
    simp only [methodDeleteSms]
    split
    · exact ⟨0,[],.refl w 0,.idle (.of_eq rfl)⟩
    split
    · exact ⟨0,[],.refl w 0,.idle (.of_eq rfl)⟩
    · rename_i ref hok
      exact ⟨ref,deleteSmsOn_script (smsMutationModem_ok hok).1⟩

theorem methodListSms_script (request : Option ListSmsRequest) :
    ∃ ref changes, Runs random ref w (methodListSms w request).1 changes ∧
      Script sha256 random w (methodListSms w request).1 (.listSms request) ref changes := by
  cases request with
  | none => exact ⟨0,[],.refl w 0,.idle (.of_eq rfl)⟩
  | some request =>
    simp only [methodListSms]
    split
    · exact ⟨0,[],.refl w 0,.idle (.of_eq rfl)⟩
    split
    · exact ⟨0,[],.refl w 0,.idle (.of_eq rfl)⟩
    split
    · exact ⟨0,[],.refl w 0,.idle (.of_eq rfl)⟩
    split
    · split
      · exact ⟨0,[],.refl w 0,.idle (.of_eq rfl)⟩
      · exact ⟨0,[],.refl w 0,.idle (.of_eq rfl)⟩
    rename_i ref hfound
    split
    · exact ⟨0,[],.refl w 0,.idle (.of_eq rfl)⟩
    split
    · by_cases hlive : (w.modem ref).live = true
      · exact ⟨ref,_,querySms_runs random hlive,.queried rfl hlive
          (.of_eq (querySms_operations w ref))⟩
      · rw [querySms_dead (by simpa using hlive)]
        exact ⟨0,[],.refl w 0,.idle (.of_eq rfl)⟩
    · exact ⟨0,[],.refl w 0,.idle (.of_eq rfl)⟩

theorem cancelMutation_carried (w : World) (ref : ModemRef) : Carried w (cancelMutation w ref) := by
  simp only [cancelMutation]
  split
  · rename_i op hop
    intro other
    by_cases ho : other = op
    · subst ho
      simp only [World.updateOperation,Function.update_self]
      cases w.operations other with
      | none => exact .none
      | some o => exact .some ⟨rfl,rfl,rfl,rfl,rfl,rfl,rfl,rfl,fun _ => rfl⟩
    · simp only [World.updateOperation,Function.update_of_ne ho]
      exact Carried.of_eq (w:=w) rfl other
  · exact .of_eq rfl

theorem Carried.cancelSmsOperations (ubus : Ubus) (transportLost : Bool) :
    Carried w (cancelSmsOperations {w with ubus := ubus} transportLost) := by
  intro op
  simp only [Sms.cancelSmsOperations]
  cases w.operations op with
  | none => exact .none
  | some o => exact .some ⟨rfl,rfl,rfl,rfl,rfl,rfl,rfl,rfl,fun _ => rfl⟩

/-- The world with what ModemManager reports about its messages by now. -/
def World.report (w : World) (event : Event) : World :=
  match event with
  | .smsPropertiesChanged _ _ properties => {w with properties := properties}
  | _ => w

theorem Carried.trans (h : Carried w w₁) (h' : w'.operations = w₁.operations) : Carried w w' := by
  intro op
  rw [h']
  exact h op

theorem reconcileMessaging_script (hlive : (w.modem ref).live = true) (forceEpoch : Bool)
    (object : Option Nat) :
    ∃ changes, Runs random ref w (reconcileMessaging w ref forceEpoch object) changes ∧
      Script sha256 random w (reconcileMessaging w ref forceEpoch object)
        (.reconcile ref forceEpoch object) ref changes := by
  simp only [reconcileMessaging]
  split
  · exact ⟨[],.refl w ref,.idle (.of_eq rfl)⟩
  rename_i hchanged
  have hchanged' : forceEpoch = true ∨ object ≠ (w.messaging ref).messaging := by
    by_cases hf : forceEpoch = true
    · exact .inl hf
    · right
      intro ho
      exact hchanged (by simp [hf,ho])
  have hcancel : ∀ v : World, v.messaging = w.messaging → v.drawn = w.drawn →
      v.properties = w.properties → v.bridge = w.bridge → Carried w v →
      ∃ changes, Runs random ref w ((v.updateMessaging ref ((w.messaging ref).changeEpoch
          object)).querySms ref) changes ∧
        Script sha256 random w ((v.updateMessaging ref ((w.messaging ref).changeEpoch
          object)).querySms ref) (.reconcile ref forceEpoch object) ref changes := by
    intro v hm hd hp hb hc
    have hr : Runs random ref w (v.updateMessaging ref ((w.messaging ref).changeEpoch object))
        [.epoch object] := .of_update _ (by rw [updateMessaging,hm]) hd hp rfl
    have hl : ((v.updateMessaging ref ((w.messaging ref).changeEpoch object)).modem ref).live =
        true := by
      rw [World.modem,updateMessaging,hb]
      exact hlive
    exact ⟨_,hr.trans (querySms_runs random hl),.epochChanged hlive hchanged'
      (hc.trans (querySms_operations _ _))⟩
  by_cases hk : (w.modem ref).mutationKind = .sms
  · rw [if_pos hk]
    have hb := (cancelMutation_passive w ref).bridge
    refine hcancel _ ?_ ?_ ?_ hb (cancelMutation_carried w ref)
    all_goals
      simp only [cancelMutation]
      split
      · rfl
      · rfl
  · rw [if_neg hk]
    exact hcancel w rfl rfl rfl rfl (.of_eq rfl)

theorem markRemoved_script (hlive : (w.modem ref).live = true) :
    ∃ changes, Runs random ref w (markRemoved w ref) changes ∧
      Script sha256 random w (markRemoved w ref) (.removed ref) ref changes := by
  have hm : (cancelMutation w ref).messaging = w.messaging ∧
      (cancelMutation w ref).drawn = w.drawn ∧
      (cancelMutation w ref).properties = w.properties := by
    simp only [cancelMutation]
    split
    · exact ⟨rfl,rfl,rfl⟩
    · exact ⟨rfl,rfl,rfl⟩
  refine ⟨[.clear],.of_update (m:=(w.messaging ref).clearSmsCache) _ ?_ ?_ ?_ rfl,
    .removed hlive ((cancelMutation_carried w ref).trans rfl)⟩
  · simp only [markRemoved,updateMessaging,hm.1]
  · exact hm.2.1
  · exact hm.2.2

theorem smsAdded_script {path : Option CString} (hlive : (w.modem ref).live = true)
    (hsome : (w.messaging ref).messaging.isSome = true) :
    ∃ changes, Runs random ref w (smsAdded w ref path) changes ∧
      Script sha256 random w (smsAdded w ref path) (.added ref path) ref changes := by
  have hr : Runs random ref w (w.updateMessaging ref ((w.messaging ref).smsAdded path))
    [.added path] := .of_update _ rfl rfl rfl rfl
  exact ⟨_,hr.trans (querySms_runs random hlive),
    .added hlive hsome (.of_eq (querySms_operations _ _))⟩

theorem smsDeleted_script {path : Option CString} (hlive : (w.modem ref).live = true)
    (hsome : (w.messaging ref).messaging.isSome = true) :
    ∃ changes, Runs random ref w (smsDeleted w ref path) changes ∧
      Script sha256 random w (smsDeleted w ref path) (.deleted ref path) ref changes := by
  cases hp : path.filter gVariantIsObjectPath with
  | none =>
    simp only [smsDeleted,hp]
    exact ⟨[],.refl w ref,.idle (.of_eq rfl)⟩
  | some value =>
    obtain ⟨rfl,hvalid⟩ := Option.filter_eq_some_iff.mp hp
    have hr : Runs random ref w (w.updateMessaging ref ((w.messaging ref).smsDeleted value))
      [.deleted value] := .of_update _ rfl rfl rfl rfl
    simp only [smsDeleted,hp]
    exact ⟨_,hr.trans (querySms_runs random hlive),
      .deleted hlive hsome hvalid (.of_eq (querySms_operations _ _))⟩

theorem smsPropertiesChanged_script {path : CString} {properties : Nat → SmsProperties} :
    ∃ changes, Runs random ref {w with properties := properties}
        (smsPropertiesChanged w ref path properties) changes ∧
      Script sha256 random w (smsPropertiesChanged w ref path properties)
        (.smsPropertiesChanged ref path properties) ref changes := by
  simp only [smsPropertiesChanged]
  split
  · exact ⟨[],.refl _ ref,.idle (.of_eq rfl)⟩
  split
  · exact ⟨_,.of_update (m:=(w.messaging ref).smsRevisionBump) .revisionBump rfl rfl rfl rfl,
      .changed (.of_eq rfl)⟩
  · exact ⟨[],.refl _ ref,.idle (.of_eq rfl)⟩

theorem finish_script (h : Pending w none) {index : Nat} {call : Call} {outcome : Outcome}
    (hcall : w.calls[index]? = some call) :
    ∃ ref changes, Runs random ref w (finish random (w.answer index) call outcome) changes ∧
      Script sha256 random w (finish random (w.answer index) call outcome)
        (.finish index outcome) ref changes := by
  have hmem := List.mem_of_getElem? hcall
  cases call with
  | list ref source epoch => exact ⟨ref,smsListReady_script hcall⟩
  | create op =>
    obtain ⟨operation,ho,-⟩ := h.exists_operation hmem rfl
    exact ⟨_,smsCreateReady_script ⟨hcall,rfl,ho⟩⟩
  | send op =>
    obtain ⟨operation,ho,-⟩ := h.exists_operation hmem rfl
    exact ⟨_,smsSendReady_script ⟨hcall,rfl,ho⟩⟩
  | delete op path =>
    obtain ⟨operation,ho,hfits⟩ := h.exists_operation hmem rfl
    exact ⟨_,smsDeleteReady_script ⟨hcall,rfl,ho⟩ hfits⟩

/-- An event changes the messages of at most one record, by one of the scripts. -/
theorem handle_script (h : Pending w none) {event : Event}
    (hs : handle sha256 random w event = some w') :
    ∃ ref changes, Runs random ref (w.report event) w' changes ∧
      Script sha256 random w w' event ref changes := by
  cases event with
  | sendSms tables request =>
    simp only [handle,Option.ite_none_left_eq_some,Option.some.injEq] at hs
    obtain ⟨-,rfl⟩ := hs
    exact methodSendSms_script tables request
  | deleteSms tables request =>
    simp only [handle,Option.ite_none_left_eq_some,Option.some.injEq] at hs
    obtain ⟨-,rfl⟩ := hs
    exact methodDeleteSms_script tables request
  | listSms request =>
    simp only [handle,Option.ite_none_left_eq_some,Option.some.injEq] at hs
    obtain ⟨-,rfl⟩ := hs
    exact methodListSms_script request
  | finish index outcome =>
    simp only [handle] at hs
    split at hs
    · cases hs
    · rename_i call hcall
      cases hs
      exact finish_script h hcall
  | timeout op =>
    simp only [handle] at hs
    split at hs
    · cases hs
    · rename_i operation ho
      simp only [Option.ite_none_right_eq_some,Option.some.injEq] at hs
      obtain ⟨-,rfl⟩ := hs
      refine ⟨0,[],?_,.idle ?_⟩
      · simp only [smsOperationTimeout,withOperation,ho]
        exact ⟨rfl,fun _ _ => rfl,rfl⟩
      · simp only [smsOperationTimeout,withOperation,ho]
        refine Carried.of_continues {operation with
            timeoutSource := false,timedOut := true,cancelled := true} ho
          (fun other hne => ?_) ?_
          ⟨rfl,rfl,rfl,rfl,rfl,rfl,rfl,rfl,fun _ => rfl⟩
        · simp [World.updateOperation,hne]
        · simp [World.updateOperation]
  | added ref path =>
    simp only [handle,Option.ite_none_right_eq_some,Option.some.injEq,Bool.and_eq_true] at hs
    obtain ⟨⟨hlive,hsome⟩,rfl⟩ := hs
    exact ⟨ref,smsAdded_script hlive hsome⟩
  | deleted ref path =>
    simp only [handle,Option.ite_none_right_eq_some,Option.some.injEq,Bool.and_eq_true] at hs
    obtain ⟨⟨hlive,hsome⟩,rfl⟩ := hs
    exact ⟨ref,smsDeleted_script hlive hsome⟩
  | smsPropertiesChanged ref path properties =>
    cases hs
    exact ⟨ref,smsPropertiesChanged_script⟩
  | reconcile ref forceEpoch object =>
    simp only [handle,Option.ite_none_right_eq_some,Option.some.injEq] at hs
    obtain ⟨hlive,rfl⟩ := hs
    exact ⟨ref,reconcileMessaging_script hlive forceEpoch object⟩
  | refreshSms ref =>
    cases hs
    by_cases hlive : (w.modem ref).live = true
    · exact ⟨ref,_,querySms_runs random hlive,.queried rfl hlive
        (.of_eq (querySms_operations w ref))⟩
    · rw [querySms_dead (by simpa using hlive)]
      exact ⟨ref,[],.refl w ref,.idle (.of_eq rfl)⟩
  | admitted =>
    simp only [handle,Option.ite_none_left_eq_some,Option.some.injEq] at hs
    obtain ⟨-,rfl⟩ := hs
    exact ⟨0,[],⟨rfl,fun _ _ => rfl,rfl⟩,.idle (.of_eq rfl)⟩
  | removed ref =>
    simp only [handle,Option.ite_none_right_eq_some,Option.some.injEq] at hs
    obtain ⟨hlive,rfl⟩ := hs
    exact ⟨ref,markRemoved_script hlive⟩
  | connectionLost =>
    cases hs
    refine ⟨0,[],?_,.idle ?_⟩
    · simp only [connectionLost]
      split
      · exact .refl w 0
      · exact ⟨rfl,fun _ _ => rfl,rfl⟩
    · simp only [connectionLost]
      split
      · exact .of_eq rfl
      · exact .cancelSmsOperations _ _
  | reconnected =>
    simp only [handle,Option.ite_none_left_eq_some,Option.some.injEq] at hs
    obtain ⟨-,rfl⟩ := hs
    exact ⟨0,[],⟨rfl,fun _ _ => rfl,rfl⟩,.idle (.of_eq rfl)⟩
  | shutdown =>
    simp only [handle,Option.ite_none_left_eq_some,Option.some.injEq] at hs
    obtain ⟨-,rfl⟩ := hs
    exact ⟨0,[],⟨rfl,fun _ _ => rfl,rfl⟩,.idle (.of_eq rfl)⟩
  | stop =>
    cases hs
    refine ⟨0,[],?_,.idle ?_⟩
    · simp only [l850glUbusStop]
      split
      · exact .refl w 0
      · exact ⟨rfl,fun _ _ => rfl,rfl⟩
    · simp only [l850glUbusStop]
      split
      · exact .of_eq rfl
      · exact (Carried.cancelSmsOperations _ _).trans rfl

end Sms
end L850GL
