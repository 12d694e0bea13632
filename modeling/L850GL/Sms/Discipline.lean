import L850GL.Sms.Steps
import L850GL.Lib.Deferral

/-! The requests behind the SMS operations, in all runs. -/
namespace L850GL
namespace Sms

open Errors Messaging Mutation World

variable {w w' w'' w₁ : World} {op : OperationRef} {operation : SmsOperation} {ref : ModemRef}
  {sha256 : CString → Digest} {random : Nat → Option (Vector UInt8 16)}

/-- What an observation says of the request of an operation. -/
def Observation.mark (op : OperationRef) : Observation → Option RequestMark
  | .replied other connection => if other = op then some (.answered connection) else none
  | .released other => if other = op then some .released else none
  | _ => none

/-- The connection of the request, and whether the request may still be answered. -/
def SmsOperation.deferredRequest (operation : SmsOperation) : Nat × Bool :=
  (operation.request,operation.deferred)

/-- The SMS operations as deferred requests. -/
def requestsView (w : World) : Deferrals where
  requests op := (w.operations op).map SmsOperation.deferredRequest
  marks op := w.trace.filterMap (Observation.mark op)
  connected := w.ubus.connected
  connection := w.ubus.connection

def smsCalls (w : World) (op : OperationRef) : Nat :=
  w.calls.countP fun call => call.operation == some op

/-- The operation whose call returns with an event. -/
def smsReturns (w : World) : Event × Bridge → Option OperationRef
  | (.finish index _,_) => (w.calls[index]?).bind Call.operation
  | _ => none

/-- The bridge at its start, where a connection that is up has its context. -/
structure Started (w : World) : Prop extends Initial w where
  ubus : w.ubus.connected = true → w.ubus.contextInitialized = true ∧ w.ubus.stopping = false

def startedSystem (sha256 : CString → Digest) (random : Nat → Option (Vector UInt8 16)) :
    System World (Event × Bridge) := {smsSystem sha256 random with start := Started}

/-- Nothing that concerns a deferred request changes. -/
structure Quiet (w w' : World) : Prop where
  view : requestsView w' = requestsView w
  next : w'.next = w.next
  ubus : w'.ubus = w.ubus

theorem Quiet.refl (w : World) : Quiet w w := ⟨rfl,rfl,rfl⟩

theorem Quiet.trans (h : Quiet w w') (h' : Quiet w' w'') : Quiet w w'' :=
  ⟨h'.view.trans h.view,h'.next.trans h.next,h'.ubus.trans h.ubus⟩

theorem updateMessaging_quiet (w : World) (ref : ModemRef) (m : Messaging) :
    Quiet w (w.updateMessaging ref m) := ⟨rfl,rfl,rfl⟩

theorem updateOperation_quiet {value : Option SmsOperation}
    (h : value.map SmsOperation.deferredRequest = (requestsView w).requests op) :
    Quiet w (w.updateOperation op value) := by
  refine ⟨Deferrals.ext ?_ rfl rfl rfl,rfl,rfl⟩
  funext other
  by_cases ho : other = op
  · subst ho
    simpa [requestsView,World.updateOperation] using h
  · simp [requestsView,World.updateOperation,ho]

/-- An observation that is about no request. -/
theorem observe_quiet {o : Observation} (h : ∀ op,o.mark op = none) : Quiet w (w.observe o) := by
  refine ⟨Deferrals.ext rfl ?_ rfl rfl,rfl,rfl⟩
  funext op
  exact List.filterMap_cons_none (h op)

theorem call_quiet (w : World) (c : Call) : Quiet w (w.call c) := ⟨rfl,rfl,rfl⟩

theorem querySms_quiet (w : World) (ref : ModemRef) : Quiet w (w.querySms ref) := by
  simp only [World.querySms]
  split
  · exact .refl w
  split
  · exact ⟨rfl,rfl,rfl⟩
  · exact ⟨rfl,rfl,rfl⟩

theorem smsDedupeStore_quiet (w : World) (op : OperationRef) (operation : SmsOperation)
    (result : SmsResult) : Quiet w (smsDedupeStore w op operation result) := by
  simp only [smsDedupeStore]
  split
  · exact .refl w
  rename_i token _
  refine ⟨Deferrals.ext rfl ?_ rfl rfl,rfl,rfl⟩
  funext other
  have hevicted : (evictions operation.modem (w.messaging operation.modem) w.bridge.now
      token).filterMap (Observation.mark other) = [] := by
    rw [List.filterMap_eq_nil_iff]
    intro o ho
    obtain ⟨epoch,key,rfl⟩ := mem_evictions ho
    rfl
  simp only [requestsView,List.cons_append]
  rw [List.filterMap_cons_none (by rfl),List.filterMap_append,hevicted]
  rfl

theorem smsDedupeRemove_quiet (w : World) (operation : SmsOperation) :
    Quiet w (smsDedupeRemove w operation) := by
  simp only [smsDedupeRemove]
  split
  · exact .refl w
  · exact updateMessaging_quiet w _ _

theorem cancelMutation_quiet (w : World) (ref : ModemRef) : Quiet w (cancelMutation w ref) := by
  simp only [cancelMutation]
  split
  · refine updateOperation_quiet ?_
    simp only [requestsView,Option.map_map]
    rfl
  · exact .refl w

theorem reconcileMessaging_quiet (w : World) (ref : ModemRef) (forceEpoch : Bool)
    (messaging : Option Nat) : Quiet w (reconcileMessaging w ref forceEpoch messaging) := by
  simp only [reconcileMessaging]
  split
  · exact .refl w
  refine Quiet.trans ?_ ((updateMessaging_quiet _ _ _).trans (querySms_quiet _ _))
  split
  · exact cancelMutation_quiet w ref
  · exact .refl w

theorem markRemoved_quiet (w : World) (ref : ModemRef) : Quiet w (markRemoved w ref) :=
  (cancelMutation_quiet w ref).trans ⟨rfl,rfl,rfl⟩

theorem smsAdded_quiet (w : World) (ref : ModemRef) (path : Option CString) :
    Quiet w (smsAdded w ref path) :=
  (updateMessaging_quiet _ _ _).trans (querySms_quiet _ _)

theorem smsDeleted_quiet (w : World) (ref : ModemRef) (path : Option CString) :
    Quiet w (smsDeleted w ref path) := by
  simp only [smsDeleted]
  split
  · exact .refl w
  · exact (updateMessaging_quiet _ _ _).trans (querySms_quiet _ _)

theorem smsPropertiesChanged_quiet (w : World) (ref : ModemRef) (path : CString)
    (properties : Nat → SmsProperties) :
    Quiet w (smsPropertiesChanged w ref path properties) := by
  simp only [smsPropertiesChanged]
  split
  · exact ⟨rfl,rfl,rfl⟩
  split
  · exact ⟨rfl,rfl,rfl⟩
  · exact ⟨rfl,rfl,rfl⟩

theorem smsOperationTimeout_quiet (ho : w.operations op = some operation) :
    Quiet w (smsOperationTimeout w op) := by
  simp only [smsOperationTimeout,withOperation,ho]
  exact updateOperation_quiet (by simp [requestsView,ho,SmsOperation.deferredRequest])

theorem methodListSms_quiet (w : World) (request : Option ListSmsRequest) :
    Quiet w (methodListSms w request).1 := by
  cases request with
  | none => exact .refl w
  | some request =>
    simp only [methodListSms]
    split
    · exact .refl w
    split
    · exact .refl w
    split
    · exact .refl w
    split
    · split
      · exact .refl w
      · exact .refl w
    split
    · exact .refl w
    split
    · exact querySms_quiet w _
    · exact .refl w

theorem smsListReady_quiet (w : World) (ref : ModemRef) (source epoch : Nat)
    (messages : List MMSms) (error : Option GError) :
    Quiet w (smsListReady random w ref source epoch messages error) := by
  simp only [smsListReady]
  split
  · exact .refl w
  have hquery : ∀ requery : Bool,∀ v,Quiet w v →
      Quiet w (if requery then v.querySms ref else v) := by
    intro requery v hv
    split
    · exact hv.trans (querySms_quiet v ref)
    · exact hv
  refine hquery _ _ ?_
  split
  · exact ⟨rfl,rfl,rfl⟩
  · exact ⟨rfl,rfl,rfl⟩

/-- The operation ends, with an answer when its request can still get one. -/
structure Closes (w w' : World) (op : OperationRef) (request : Nat × Bool) : Prop where
  view : requestsView w' = (requestsView w).closed op request
  next : w'.next = w.next
  ubus : w'.ubus = w.ubus

theorem Quiet.closes {request : Nat × Bool} (h : Quiet w w₁) (h' : Closes w₁ w' op request) :
    Closes w w' op request :=
  ⟨h.view ▸ h'.view,h'.next.trans h.next,h'.ubus.trans h.ubus⟩

/-- An observation about the request of one operation. -/
theorem observe_marks {o : Observation} {mark : RequestMark} (hmark : o.mark op = some mark)
    (hother : ∀ other,other ≠ op → o.mark other = none) :
    (requestsView (w.observe o)).marks =
      Function.update (requestsView w).marks op (mark::(requestsView w).marks op) := by
  funext other
  by_cases ho : other = op
  · subst ho
    simp [requestsView,observe,hmark]
  · simp [requestsView,observe,hother other ho,ho]

theorem smsOperationFree_view (ho : w.operations op = some operation) :
    requestsView (smsOperationFree w op) = {requestsView w with
      requests := Function.update (requestsView w).requests op none
      marks :=
        Function.update (requestsView w).marks op (.released::(requestsView w).marks op)} := by
  simp only [smsOperationFree,withOperation,ho]
  refine Deferrals.ext ?_ (observe_marks (by simp [Observation.mark]) ?_) rfl rfl
  · funext other
    by_cases hother : other = op
    · subst hother
      simp [requestsView,observe,World.updateOperation]
    · simp [requestsView,observe,World.updateOperation,hother]
      rfl
  · intro other hother
    simp [Observation.mark,Ne.symm hother]

theorem smsOperationFree_rest (ho : w.operations op = some operation) :
    (smsOperationFree w op).next = w.next ∧ (smsOperationFree w op).ubus = w.ubus := by
  simp only [smsOperationFree,withOperation,ho]
  exact ⟨rfl,rfl⟩

theorem smsOperationCompleteBuffer_closes (ho : w.operations op = some operation)
    (hubus : w.ubus.connected = true → w.ubus.contextInitialized = true ∧
      w.ubus.stopping = false) :
    Closes w (smsOperationCompleteBuffer w op) op operation.deferredRequest := by
  have hcarried : (operation.deferred && w.ubus.connected && w.ubus.contextInitialized &&
      !w.ubus.stopping) = (operation.deferred && w.ubus.connected) := by
    by_cases hup : w.ubus.connected = true
    · simp [hubus hup]
    · simp [hup]
  have hself : ∀ v : World,(v.updateOperation op (some {operation with deferred := false})
      ).operations op = some {operation with deferred := false} := by
    intro v
    simp [World.updateOperation]
  have hrequests : ∀ v : World,v.operations = w.operations →
      Function.update (requestsView (v.updateOperation op (some {operation with deferred := false}))
        ).requests op none = Function.update (requestsView w).requests op none := by
    intro v hv
    funext other
    by_cases hother : other = op
    · subst hother
      simp
    · simp [requestsView,World.updateOperation,hv,hother]
  simp only [smsOperationCompleteBuffer,withOperation,ho,hcarried]
  split
  · rename_i hanswered
    obtain ⟨hnext,hubus'⟩ := smsOperationFree_rest (hself
      (w.observe (.replied op w.ubus.connection)))
    refine ⟨?_,hnext,hubus'⟩
    rw [smsOperationFree_view (hself _)]
    refine Deferrals.ext (hrequests _ rfl) ?_ rfl rfl
    have hmarks : (requestsView (w.observe (.replied op w.ubus.connection))).marks =
        Function.update (requestsView w).marks op
          (.answered w.ubus.connection::(requestsView w).marks op) := by
      refine observe_marks (by simp [Observation.mark]) fun other hother => ?_
      simp [Observation.mark,Ne.symm hother]
    have hending : (requestsView w).ending operation.deferredRequest =
        [.released,.answered w.ubus.connection] := by
      simp only [Deferrals.ending]
      rw [if_pos (by exact hanswered)]
      rfl
    simp only [Deferrals.closed,hending]
    rw [show
      (requestsView ((w.observe (.replied op w.ubus.connection)).updateOperation op _)).marks =
      (requestsView (w.observe (.replied op w.ubus.connection))).marks from rfl,hmarks]
    simp
  · rename_i hsilent
    obtain ⟨hnext,hubus'⟩ := smsOperationFree_rest (hself w)
    refine ⟨?_,hnext,hubus'⟩
    rw [smsOperationFree_view (hself _)]
    refine Deferrals.ext (hrequests _ rfl) ?_ rfl rfl
    have hending : (requestsView w).ending operation.deferredRequest = [.released] := by
      simp only [Deferrals.ending]
      rw [if_neg (by exact hsilent)]
    simp only [Deferrals.closed,hending]
    rfl

theorem observe_failed_quiet (w : World) (op : OperationRef) (code : String) (retryable : Bool) :
    Quiet w (w.observe (.failed op code retryable)) := observe_quiet fun _ => rfl

theorem observe_succeeded_quiet (w : World) (op : OperationRef) :
    Quiet w (w.observe (.succeeded op)) := observe_quiet fun _ => rfl

theorem smsDedupeStore_operations (w : World) (op : OperationRef) (operation : SmsOperation)
    (result : SmsResult) : (smsDedupeStore w op operation result).operations = w.operations := by
  simp only [smsDedupeStore]
  split
  · rfl
  · rfl

theorem smsDedupeRemove_operations (w : World) (operation : SmsOperation) :
    (smsDedupeRemove w operation).operations = w.operations := by
  simp only [smsDedupeRemove]
  split
  · rfl
  · rfl

/-- The context of a connection that is up. -/
abbrev Serving (w : World) : Prop :=
  w.ubus.connected = true → w.ubus.contextInitialized = true ∧ w.ubus.stopping = false

theorem Quiet.serving (h : Quiet w w') (hw : Serving w) : Serving w' := by
  intro hup
  rw [h.ubus] at hup ⊢
  exact hw hup

/-- An operation ends after quiet steps that keep it. -/
theorem Quiet.completes (h : Quiet w w₁) (hops : w₁.operations = w.operations)
    (ho : w.operations op = some operation) (hw : Serving w) :
    Closes w (smsOperationCompleteBuffer w₁ op) op operation.deferredRequest :=
  h.closes (smsOperationCompleteBuffer_closes (hops ▸ ho) (h.serving hw))

theorem smsOperationCompleteError_closes (ho : w.operations op = some operation) (hw : Serving w)
    (code : String) (retryable : Bool) :
    Closes w (smsOperationCompleteError w op code retryable) op operation.deferredRequest := by
  have hfailed := observe_failed_quiet w op code retryable
  simp only [smsOperationCompleteError,withOperation,ho]
  split
  · exact hfailed.completes rfl ho hw
  split
  · exact (hfailed.trans (smsDedupeStore_quiet _ _ _ _)).completes
      (smsDedupeStore_operations _ _ _ _) ho hw
  · exact (hfailed.trans (smsDedupeRemove_quiet _ _)).completes
      (smsDedupeRemove_operations _ _) ho hw

theorem smsOperationCompleteNormalizedError_closes (ho : w.operations op = some operation)
    (hw : Serving w) (error : Option GError) :
    Closes w (smsOperationCompleteNormalizedError w op error) op operation.deferredRequest := by
  simp only [smsOperationCompleteNormalizedError,withOperation,ho]
  exact smsOperationCompleteError_closes ho hw _ _

theorem smsOperationCompleteSend_closes (ho : w.operations op = some operation) (hw : Serving w)
    (storeDedupe : Bool) :
    Closes w (smsOperationCompleteSend w op storeDedupe) op operation.deferredRequest := by
  have hsucceeded := observe_succeeded_quiet w op
  simp only [smsOperationCompleteSend,withOperation,ho]
  split
  · exact (hsucceeded.trans (smsDedupeStore_quiet _ _ _ _)).completes
      (smsDedupeStore_operations _ _ _ _) ho hw
  · exact hsucceeded.completes rfl ho hw

theorem smsOperationCompleteDelete_closes (ho : w.operations op = some operation)
    (hw : Serving w) : Closes w (smsOperationCompleteDelete w op) op operation.deferredRequest :=
  (observe_succeeded_quiet w op).completes rfl ho hw

/-- A created message is sent, which the request does not see, or its operation ends. -/
theorem smsCreateReady_closes (ho : w.operations op = some operation) (hw : Serving w)
    (sms : Option MMSms) (error : Option GError) :
    Quiet w (smsCreateReady w op sms error) ∨
      Closes w (smsCreateReady w op sms error) op operation.deferredRequest := by
  have hquiet : ∀ (v : World) (value : SmsOperation),Quiet w v →
      value.deferredRequest = operation.deferredRequest →
      Quiet w (v.updateOperation op (some value)) := by
    intro v value hv hrequest
    refine hv.trans (updateOperation_quiet ?_)
    rw [hv.view]
    simp [requestsView,ho,hrequest]
  have hself : ∀ (v : World) (value : SmsOperation),
      (v.updateOperation op (some value)).operations op = some value := by
    intro v value
    simp [World.updateOperation]
  have hends : ∀ (v : World) (value : SmsOperation) (code : String),Quiet w v →
      v.operations op = some value → value.deferredRequest = operation.deferredRequest →
      Closes w (smsOperationCompleteError v op code false) op operation.deferredRequest := by
    intro v value code hv hvalue hrequest
    rw [← hrequest]
    exact hv.closes (smsOperationCompleteError_closes hvalue (hv.serving hw) code false)
  have hprepared := hquiet w {operation with properties := none} (.refl w) rfl
  simp only [smsCreateReady,withOperation,ho]
  cases sms with
  | none =>
    exact .inr (hprepared.closes (smsOperationCompleteNormalizedError_closes (hself _ _)
      (hprepared.serving hw) error))
  | some sms =>
    have hcreated := hquiet _ {operation with properties := none,sms := some sms} hprepared rfl
    have hkept := hself (w.updateOperation op (some {operation with properties := none}))
      {operation with properties := none,sms := some sms}
    dsimp only
    split
    · exact .inr (hends _ _ _ hcreated hkept rfl)
    have hadmitted := hcreated.trans (updateMessaging_quiet _ operation.modem
      ((w.messaging operation.modem).admitReservedSms operation.modem
        (w.modem operation.modem).generation sms (operation.smsId.getD [])).1)
    split
    · exact .inr (hends _ _ _ hadmitted hkept rfl)
    split
    · exact .inr (hends _ _ _ hadmitted hkept rfl)
    split
    · exact .inr (hends _ _ _ hadmitted hkept rfl)
    · have hdispatched := hquiet _ {operation with
        properties := none,sms := some sms,sendDispatched := true,timedOut := false
        timeoutSource := true} hadmitted rfl
      exact .inl ((hdispatched.trans (call_quiet _ (.send op))).trans (observe_quiet fun _ => rfl))

theorem smsSendReady_closes (ho : w.operations op = some operation) (hw : Serving w) (sent : Bool)
    (error : Option GError) :
    Closes w (smsSendReady w op sent error) op operation.deferredRequest := by
  simp only [smsSendReady,withOperation,ho]
  split
  · exact smsOperationCompleteNormalizedError_closes ho hw error
  split
  · exact smsOperationCompleteSend_closes ho hw false
  · have hquery := querySms_quiet w operation.modem
    exact hquery.closes (smsOperationCompleteSend_closes
      (by rw [querySms_operations]; exact ho) (hquery.serving hw) true)

theorem smsDeleteReady_closes (ho : w.operations op = some operation) (hw : Serving w)
    (deleted : Bool) (error : Option GError) :
    Closes w (smsDeleteReady w op deleted error) op operation.deferredRequest := by
  simp only [smsDeleteReady,withOperation,ho]
  split
  · exact smsOperationCompleteNormalizedError_closes ho hw error
  split
  · exact smsOperationCompleteDelete_closes ho hw
  · have hquery := querySms_quiet w operation.modem
    exact hquery.closes (smsOperationCompleteDelete_closes
      (by rw [querySms_operations]; exact ho) (hquery.serving hw))

/-- An operation begins, with a request on the connection that is up. -/
structure Opens (w w' : World) : Prop where
  view : requestsView w' = (requestsView w).opened w.next
  next : w'.next = w.next+1
  ubus : w'.ubus = w.ubus

theorem Quiet.opens (h : Quiet w w₁) (h' : Opens w₁ w') : Opens w w' :=
  ⟨h.next ▸ h.view ▸ h'.view,h.next ▸ h'.next,h'.ubus.trans h.ubus⟩

theorem Opens.quiet (h : Opens w w₁) (h' : Quiet w₁ w') : Opens w w' :=
  ⟨h'.view.trans h.view,h'.next.trans h.next,h'.ubus.trans h.ubus⟩

theorem smsOperationNew_opens (w : World)
    (h : operation.deferredRequest = (w.ubus.connection,true)) :
    Opens w (smsOperationNew w operation) := by
  refine ⟨Deferrals.ext ?_ rfl rfl rfl,rfl,rfl⟩
  funext op
  by_cases ho : op = w.next
  · subst ho
    simp [requestsView,Deferrals.opened,smsOperationNew,World.updateOperation,h]
  · simp [requestsView,Deferrals.opened,smsOperationNew,World.updateOperation,ho]

theorem startSend_opens {source : Nat} {request : SendSmsRequest} {smsId : CString}
    (hattested : (w.modem ref).l850glModemAttestMutationTarget = true) :
    Opens w (startSend sha256 w ref source request smsId) := by
  have hnew : Opens w (smsOperationNew w (sendOperation sha256 w ref source request smsId)) :=
    smsOperationNew_opens w rfl
  have hkept : ((smsDedupeStore
      (smsOperationNew w (sendOperation sha256 w ref source request smsId)) w.next
      (sendOperation sha256 w ref source request smsId)
      ⟨false,some smsId,none,some "busy",true,
        (sendOperation sha256 w ref source request smsId).requestDigest⟩).modem ref
          ).l850glModemAttestMutationTarget = true := by
    rw [World.modem,(smsDedupeStore_stores _ _ _ _).bridge]
    simpa [smsOperationNew,sendOperation,newOperation] using hattested
  simp only [startSend]
  rw [if_neg (by rw [hkept]; decide)]
  exact hnew.quiet ((smsDedupeStore_quiet _ _ _ _).trans
    ((call_quiet _ _).trans (observe_quiet fun _ => rfl)))

/-- A request is answered at once, or begins an operation. -/
def Asks (w w' : World) : Prop := Quiet w w' ∨ Opens w w'

theorem sendNewSms_asks {request : SendSmsRequest}
    (hattested : (w.modem ref).l850glModemAttestMutationTarget = true) :
    Asks w (sendNewSms sha256 random w ref request).1 := by
  have hreserved : Quiet w {w.updateMessaging ref ((w.messaging ref).reserveSmsId random w.drawn).1
      with drawn := ((w.messaging ref).reserveSmsId random w.drawn).2.2} := ⟨rfl,rfl,rfl⟩
  simp only [sendNewSms]
  split
  · exact .inl (.refl w)
  split
  · exact .inr (hreserved.opens (startSend_opens hattested))
  · exact .inl hreserved

theorem sendSmsOn_asks {request : SendSmsRequest}
    (hattested : (w.modem ref).l850glModemAttestMutationTarget = true) :
    Asks w (sendSmsOn sha256 random w ref request).1 := by
  have hfound := updateMessaging_quiet w ref
    ((w.messaging ref).smsDedupeFind w.bridge.now request.clientToken).1
  simp only [sendSmsOn]
  split
  · split
    · exact .inl hfound
    · exact .inl hfound
  · rcases @sendNewSms_asks (w.updateMessaging ref _) ref sha256 random request hattested with h | h
    · exact .inl (hfound.trans h)
    · exact .inr (hfound.opens h)

theorem methodSendSms_asks (w : World) (tables : Tables) (request : Option SendSmsRequest) :
    Asks w (methodSendSms sha256 random w tables request).1 := by
  cases request with
  | none => exact .inl (.refl w)
  | some request =>
    simp only [methodSendSms]
    split
    · exact .inl (.refl w)
    split
    · exact .inl (.refl w)
    · rename_i hok
      exact sendSmsOn_asks (smsMutationModem_ok hok).1

theorem deleteSmsOn_asks {request : DeleteSmsRequest}
    (hattested : (w.modem ref).l850glModemAttestMutationTarget = true) :
    Asks w (deleteSmsOn w ref request).1 := by
  simp only [deleteSmsOn]
  split
  · exact .inl (querySms_quiet w ref)
  split
  · exact .inl (.refl w)
  split
  · split
    · exact .inl (.refl w)
    split
    · exact .inl (.refl w)
    rw [if_neg]
    · exact .inr ((smsOperationNew_opens w rfl).quiet
        ((call_quiet _ _).trans (observe_quiet fun _ => rfl)))
    · simpa [World.modem,smsOperationNew,newOperation] using hattested
  · exact .inl (.refl w)

theorem methodDeleteSms_asks (w : World) (tables : Tables) (request : Option DeleteSmsRequest) :
    Asks w (methodDeleteSms w tables request).1 := by
  cases request with
  | none => exact .inl (.refl w)
  | some request =>
    simp only [methodDeleteSms]
    split
    · exact .inl (.refl w)
    split
    · exact .inl (.refl w)
    · rename_i hok
      exact deleteSmsOn_asks (smsMutationModem_ok hok).1

/-- The SMS operations between two events. -/
structure Tidy (w : World) : Prop where
  pending : Pending w none
  unmarked : ∀ op,w.next ≤ op → (requestsView w).marks op = []
  ubus : Serving w

theorem Quiet.move (h : Quiet w w') (hw : Tidy w) (hp : Pending w' none)
    {returned : Option OperationRef} :
    Tidy w' ∧ Deferrals.Move (requestsView w) returned (requestsView w') := by
  refine ⟨⟨hp,fun op hle => ?_,h.serving hw.ubus⟩,h.view ▸ .same⟩
  rw [h.view]
  exact hw.unmarked op (h.next ▸ hle)

theorem Tidy.requests_eq_none (h : Tidy w) (hle : w.next ≤ op) :
    (requestsView w).requests op = none := by
  simp [requestsView,h.pending.fresh op hle]

theorem Opens.move (h : Opens w w') (hw : Tidy w) (hp : Pending w' none)
    (hup : w.ubus.connected = true) :
    Tidy w' ∧ Deferrals.Move (requestsView w) none (requestsView w') := by
  refine ⟨⟨hp,fun op hle => ?_,?_⟩,?_⟩
  · rw [h.view]
    rw [h.next] at hle
    exact hw.unmarked op (Nat.le_of_succ_le hle)
  · intro hup'
    rw [h.ubus] at hup' ⊢
    exact hw.ubus hup'
  · rw [h.view]
    exact .opened (hw.requests_eq_none (Nat.le_refl _)) (hw.unmarked _ (Nat.le_refl _)) hup

theorem Closes.move (h : Closes w w' op operation.deferredRequest) (hw : Tidy w)
    (hp : Pending w' none) (ho : w.operations op = some operation) :
    Tidy w' ∧ Deferrals.Move (requestsView w) (some op) (requestsView w') := by
  have hview : (requestsView w).requests op = some operation.deferredRequest := by simp
    [requestsView,ho]
  refine ⟨⟨hp,fun other hle => ?_,?_⟩,?_⟩
  · rw [h.next] at hle
    have hother : other ≠ op := by
      rintro rfl
      rw [hw.pending.fresh other hle] at ho
      cases ho
    rw [h.view]
    simpa [Deferrals.closed,hother] using hw.unmarked other hle
  · intro hup
    rw [h.ubus] at hup ⊢
    exact hw.ubus hup
  · rw [h.view]
    exact .closed hview

theorem Asks.move (h : Asks w w') (hw : Tidy w) (hp : Pending w' none)
    (hup : w.ubus.connected = true) :
    Tidy w' ∧ Deferrals.Move (requestsView w) none (requestsView w') := by
  rcases h with h | h
  · exact h.move hw hp
  · exact h.move hw hp hup

theorem cancelSmsOperations_view (w : World) (ubus : Ubus) (transportLost : Bool)
    (hdown : ubus.connected = false) (hconnection : ubus.connection = w.ubus.connection) :
    requestsView (cancelSmsOperations {w with ubus := ubus} transportLost) =
      (requestsView w).lost := by
  refine Deferrals.ext ?_ rfl hdown hconnection
  funext op
  simp only [requestsView,Deferrals.lost,cancelSmsOperations,Option.map_map]
  rfl

theorem Tidy.refresh (h : Tidy w) (bridge : Bridge) : Tidy (w.refresh bridge) :=
  ⟨h.pending.refresh bridge,h.unmarked,h.ubus⟩

/-- The answer to a call. -/
theorem finish_move {index : Nat} {call : Call} {outcome : Outcome} (hw : Tidy w)
    (hcall : w.calls[index]? = some call)
    (hp : Pending (finish random (w.answer index) call outcome) none) :
    Tidy (finish random (w.answer index) call outcome) ∧
      Deferrals.Move (requestsView w) call.operation
        (requestsView (finish random (w.answer index) call outcome)) := by
  have hanswer : Quiet w (w.answer index) := ⟨rfl,rfl,rfl⟩
  have hmem := List.mem_of_getElem? hcall
  cases call with
  | list ref source epoch =>
    exact (hanswer.trans (smsListReady_quiet _ _ _ _ _ _)).move hw hp
  | create op =>
    obtain ⟨operation,ho,-⟩ := hw.pending.exists_operation hmem rfl
    rcases smsCreateReady_closes (w:=w.answer index) ho (hanswer.serving hw.ubus) outcome.sms
      outcome.error with h | h
    · exact (hanswer.trans h).move hw hp
    · exact (hanswer.closes h).move hw hp ho
  | send op =>
    obtain ⟨operation,ho,-⟩ := hw.pending.exists_operation hmem rfl
    exact (hanswer.closes (smsSendReady_closes (w:=w.answer index) ho (hanswer.serving hw.ubus)
      outcome.succeeded outcome.error)).move hw hp ho
  | delete op path =>
    obtain ⟨operation,ho,-⟩ := hw.pending.exists_operation hmem rfl
    exact (hanswer.closes (smsDeleteReady_closes (w:=w.answer index) ho (hanswer.serving hw.ubus)
      outcome.succeeded outcome.error)).move hw hp ho

theorem handle_move {event : Event} (bridge : Bridge) (hw : Tidy w)
    (hp : Pending w' none) (hs : handle sha256 random w event = some w') :
    Tidy w' ∧ Deferrals.Move (requestsView w) (smsReturns w (event,bridge)) (requestsView w') := by
  cases event with
  | sendSms tables request =>
    simp only [handle,Option.ite_none_left_eq_some,Option.some.injEq] at hs
    obtain ⟨hup,rfl⟩ := hs
    exact (methodSendSms_asks w tables request).move hw hp (by simpa using hup)
  | deleteSms tables request =>
    simp only [handle,Option.ite_none_left_eq_some,Option.some.injEq] at hs
    obtain ⟨hup,rfl⟩ := hs
    exact (methodDeleteSms_asks w tables request).move hw hp (by simpa using hup)
  | listSms request =>
    simp only [handle,Option.ite_none_left_eq_some,Option.some.injEq] at hs
    obtain ⟨-,rfl⟩ := hs
    exact (methodListSms_quiet w request).move hw hp
  | finish index outcome =>
    simp only [handle] at hs
    split at hs
    · cases hs
    · rename_i call hcall
      obtain rfl := Option.some.inj hs
      have hreturns : smsReturns w (.finish index outcome,bridge) = call.operation := by
        simp [smsReturns,hcall]
      rw [hreturns]
      exact finish_move hw hcall hp
  | timeout op =>
    simp only [handle] at hs
    split at hs
    · cases hs
    · rename_i operation ho
      simp only [Option.ite_none_right_eq_some,Option.some.injEq] at hs
      obtain ⟨-,rfl⟩ := hs
      exact (smsOperationTimeout_quiet ho).move hw hp
  | added ref path =>
    simp only [handle,Option.ite_none_right_eq_some,Option.some.injEq] at hs
    obtain ⟨-,rfl⟩ := hs
    exact (smsAdded_quiet w ref path).move hw hp
  | deleted ref path =>
    simp only [handle,Option.ite_none_right_eq_some,Option.some.injEq] at hs
    obtain ⟨-,rfl⟩ := hs
    exact (smsDeleted_quiet w ref path).move hw hp
  | smsPropertiesChanged ref path properties =>
    obtain rfl := Option.some.inj hs
    exact (smsPropertiesChanged_quiet w ref path properties).move hw hp
  | reconcile ref forceEpoch object =>
    simp only [handle,Option.ite_none_right_eq_some,Option.some.injEq] at hs
    obtain ⟨-,rfl⟩ := hs
    exact (reconcileMessaging_quiet w ref forceEpoch object).move hw hp
  | refreshSms ref =>
    obtain rfl := Option.some.inj hs
    exact (querySms_quiet w ref).move hw hp
  | admitted =>
    simp only [handle,Option.ite_none_left_eq_some,Option.some.injEq] at hs
    obtain ⟨-,rfl⟩ := hs
    have hquiet : Quiet w (admitModem w) := ⟨rfl,rfl,rfl⟩
    exact hquiet.move hw hp
  | removed ref =>
    simp only [handle,Option.ite_none_right_eq_some,Option.some.injEq] at hs
    obtain ⟨-,rfl⟩ := hs
    exact (markRemoved_quiet w ref).move hw hp
  | connectionLost =>
    obtain rfl := Option.some.inj hs
    rw [connectionLost] at hp ⊢
    by_cases hstopping : w.ubus.stopping = true
    · rw [if_pos hstopping] at hp ⊢
      exact (Quiet.refl w).move hw hp
    · rw [if_neg hstopping] at hp ⊢
      refine ⟨⟨hp,hw.unmarked,fun hup => by cases hup⟩,?_⟩
      have hview := cancelSmsOperations_view w {w.ubus with connected := false} true rfl rfl
      exact hview ▸ Deferrals.Move.lost
  | reconnected =>
    simp only [handle,Option.ite_none_left_eq_some,Option.some.injEq] at hs
    obtain ⟨hdown,rfl⟩ := hs
    simp only [Bool.or_eq_true,not_or,Bool.not_eq_true] at hdown
    exact ⟨⟨hp,hw.unmarked,fun _ => ⟨rfl,hdown.2⟩⟩,.reconnected hdown.1⟩
  | shutdown =>
    simp only [handle,Option.ite_none_left_eq_some,Option.some.injEq] at hs
    obtain ⟨hdown,rfl⟩ := hs
    exact ⟨⟨hp,hw.unmarked,fun hup => absurd hup hdown⟩,.same⟩
  | stop =>
    obtain rfl := Option.some.inj hs
    rw [l850glUbusStop] at hp ⊢
    by_cases hstopping : w.ubus.stopping = true
    · rw [if_pos hstopping] at hp ⊢
      exact (Quiet.refl w).move hw hp
    · rw [if_neg hstopping] at hp ⊢
      refine ⟨⟨hp,hw.unmarked,fun hup => by cases hup⟩,?_⟩
      have hview := cancelSmsOperations_view w {w.ubus with connected := false,stopping := true}
        true rfl rfl
      exact hview ▸ Deferrals.Move.lost

theorem step_move {event : Event × Bridge} (hw : Tidy w)
    (hs : step sha256 random w event = some w') :
    Tidy w' ∧ Deferrals.Move (requestsView w) (smsReturns w event) (requestsView w') := by
  have hp := step_pending hw.pending hs
  simp only [step,Option.ite_none_right_eq_some] at hs
  exact handle_move (w:=w.refresh event.2) event.2 (hw.refresh event.2) hp hs.2

theorem reachable_tidy (h : (startedSystem sha256 random).Reachable w) : Tidy w := by
  refine h.invariant (P:=Tidy) (fun w (h₀ : Started w) => ?_)
    fun w event w' hw hs => (step_move hw hs).1
  refine ⟨h₀.toInitial.pending,fun op _ => ?_,h₀.ubus⟩
  simp [requestsView,h₀.trace]

/-- The SMS operations of every run keep the discipline. -/
theorem startedSystem_disciplined (sha256 : CString → Digest)
    (random : Nat → Option (Vector UInt8 16)) :
    Disciplined (startedSystem sha256 random) requestsView smsCalls smsReturns := by
  refine disciplined_of_moves (fun w h₀ => ⟨fun op request hrequest => ?_,fun op _ => .inl ?_⟩)
    (fun w event w' hw hs => (step_move (reachable_tidy hw) hs).2) fun w op hw => ?_
  · have hoperations := (Started.toInitial h₀).operations
    simp [requestsView,hoperations] at hrequest
  · have htrace := (Started.toInitial h₀).trace
    simp [requestsView,htrace]
  · have hcount := (reachable_tidy hw).pending.count op
    simpa [smsCalls,requestsView] using hcount

end Sms
end L850GL
