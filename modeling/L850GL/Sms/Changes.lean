import L850GL.Lib.AssocList
import L850GL.Sms.Holding

/-! Every event as a short script of changes to the messages of one record. -/
namespace L850GL
namespace Sms

open Errors Identity Messaging Mutation World

/-- One change to a record's messages. -/
inductive Change
  | querySms
  | dedupePrune (now : Int)
  | dedupeRemove (now : Int) (clientToken : CString)
  | dedupeStore (now : Int) (clientToken : CString) (result : SmsResult)
  | reserve
  | release (smsId : Option CString)
  | enter (generation : Nat) (sms : MMSms) (reservedId : CString)
  | listFailed (cancelled : Bool)
  | rebuild (generation : Nat) (properties : Nat → SmsProperties) (messages : List MMSms)
  | added (path : Option CString)
  | deleted (path : CString)
  | revisionBump
  | clear
  | epoch (object : Option Nat)

/-- The query flags as `sms_list_ready` resets them. -/
def Messaging.answered (m : Messaging) : Messaging :=
  {m with smsQueryPending := false,smsQueryDirty := false}

section

variable (random : Nat → Option (Vector UInt8 16)) (ref : ModemRef)

/-- A change to the messages, next to the number of random values used so far. -/
def Change.apply (s : Messaging × Nat) : Change → Messaging × Nat
  | .querySms => (s.1.querySms.1,s.2)
  | .dedupePrune now => (s.1.smsDedupePrune now,s.2)
  | .dedupeRemove now token => (s.1.smsDedupeRemove now token,s.2)
  | .dedupeStore now token result => (s.1.smsDedupeStore now token result,s.2)
  | .reserve => ((s.1.reserveSmsId random s.2).1,(s.1.reserveSmsId random s.2).2.2)
  | .release smsId => (s.1.releaseSmsId smsId,s.2)
  | .enter generation sms reservedId =>
    ((s.1.admitReservedSms ref generation sms reservedId).1,s.2)
  | .listFailed cancelled => (s.1.answered.listFailed cancelled,s.2)
  | .rebuild generation properties messages =>
    s.1.answered.rebuildCache random ref generation properties messages s.2
  | .added path => (s.1.smsAdded path,s.2)
  | .deleted path => (s.1.smsDeleted path,s.2)
  | .revisionBump => (s.1.smsRevisionBump,s.2)
  | .clear => (s.1.clearSmsCache,s.2)
  | .epoch object => (s.1.changeEpoch object,s.2)

def applyAll (s : Messaging × Nat) (changes : List Change) : Messaging × Nat :=
  changes.foldl (Change.apply random ref) s

/-- `w'` has the changes made to the messages of one record, and those of no other. -/
structure Runs (w w' : World) (changes : List Change) : Prop where
  messaging : (w'.messaging ref,w'.drawn) = applyAll random ref (w.messaging ref,w.drawn) changes
  others : ∀ other, other ≠ ref → w'.messaging other = w.messaging other
  properties : w'.properties = w.properties

end

variable {w w' w₁ : World} {ref : ModemRef} {op : OperationRef} {operation : SmsOperation}
  {m : Messaging} {sha256 : CString → Digest} {random : Nat → Option (Vector UInt8 16)}
  {changes changes' : List Change}

/-- What is the same of an operation as long as it is in flight. -/
structure SmsOperation.Continues (o o' : SmsOperation) : Prop where
  type : o'.type = o.type
  modem : o'.modem = o.modem
  messaging : o'.messaging = o.messaging
  generation : o'.generation = o.generation
  messagingGeneration : o'.messagingGeneration = o.messagingGeneration
  clientToken : o'.clientToken = o.clientToken
  smsId : o'.smsId = o.smsId
  requestDigest : o'.requestDigest = o.requestDigest
  cancelled : o.cancelled = true → o'.cancelled = true

/-- No operation starts or ends. -/
def Carried (w w' : World) : Prop :=
  ∀ op, Option.Rel SmsOperation.Continues (w.operations op) (w'.operations op)

/-- Only the operation `op` ends. -/
structure Ended (w w' : World) (op : OperationRef) : Prop where
  gone : w'.operations op = none
  others : ∀ other, other ≠ op → w'.operations other = w.operations other

theorem SmsOperation.Continues.refl (o : SmsOperation) : o.Continues o :=
  ⟨rfl,rfl,rfl,rfl,rfl,rfl,rfl,rfl,id⟩

theorem Carried.of_eq (h : w'.operations = w.operations) : Carried w w' := by
  intro op
  rw [h]
  cases w.operations op with
  | none => exact .none
  | some o => exact .some (.refl o)

/-- How an operation leaves the token cache when it ends; `ok` tells whether its last call was
successful. -/
inductive Settlement (w : World) (operation : SmsOperation) (ok : Bool) : List Change → Prop
  | nothing (h : operation.type = .delete ∨ operation.clientToken = none) :
      Settlement w operation ok []
  | stale (hok : ok = true) (h : smsOperationStaleCode w operation ≠ none) :
      Settlement w operation ok []
  | removed (token : CString) (h : operation.clientToken = some token) :
      Settlement w operation ok [.dedupeRemove w.bridge.now token]
  | stored (token : CString) (result : SmsResult) (h : operation.clientToken = some token)
      (hcurrent : smsOperationStaleCode w operation = none)
      (hresult : result.errorCode ≠ some "busy") :
      Settlement w operation ok [.dedupeStore w.bridge.now token result]

/-- What a callback does to the messages before its operation ends. -/
inductive Before (w : World) (operation : SmsOperation) (call : Call) (outcome : Outcome) :
    List Change → Prop
  | nothing : Before w operation call outcome []
  | queried (h : smsOperationStaleCode w operation = none) :
      Before w operation call outcome [.querySms]
  | admitted (op : OperationRef) (sms : MMSms) (hcall : call = .create op)
      (hsms : outcome.sms = some sms) (h : smsOperationStaleCode w operation = none) :
      Before w operation call outcome
        [.enter (w.modem operation.modem).generation sms (operation.smsId.getD [])]

/-- The call an operation in flight waits for is answered. -/
structure AnswersCall (w : World) (index : Nat) (c : Call) (op : OperationRef)
    (operation : SmsOperation) : Prop where
  call : w.calls[index]? = some c
  belongs : c.operation = some op
  known : w.operations op = some operation

/-- The result `method_send_sms` stores for a token before its operation has one. -/
def busyMarker (operation : SmsOperation) (smsId : CString) : SmsResult :=
  ⟨false,some smsId,none,some "busy",true,operation.requestDigest⟩

def Event.isFinish : Event → Bool
  | .finish _ _ => true
  | _ => false

/-- What an event does to the messages of the record `ref`. -/
inductive Script (sha256 : CString → Digest) (random : Nat → Option (Vector UInt8 16))
    (w w' : World) : Event → ModemRef → List Change → Prop
  | idle {event : Event} {ref : ModemRef} (h : Carried w w') :
      Script sha256 random w w' event ref []
  | queried {event : Event} {ref : ModemRef} (hevent : event.isFinish = false)
      (hlive : (w.modem ref).live = true) (h : Carried w w') :
      Script sha256 random w w' event ref [.querySms]
  | known {tables : Tables} {request : Option SendSmsRequest} {ref : ModemRef}
      (h : Carried w w') :
      Script sha256 random w w' (.sendSms tables request) ref [.dedupePrune w.bridge.now]
  | noId {tables : Tables} {request : Option SendSmsRequest} {ref : ModemRef}
      (hid : (((w.messaging ref).smsDedupePrune w.bridge.now).reserveSmsId random
        w.drawn).2.1 = none) (h : Carried w w') :
      Script sha256 random w w' (.sendSms tables request) ref
        [.dedupePrune w.bridge.now,.reserve]
  | startedSend {tables : Tables} {ref : ModemRef} {source : Nat} {request : SendSmsRequest}
      {smsId : CString}
      (hid : (((w.messaging ref).smsDedupePrune w.bridge.now).reserveSmsId random
        w.drawn).2.1 = some smsId)
      (hlive : (w.modem ref).live = true) (hidle : (w.modem ref).mutationBusy = false)
      (hsource : (w.messaging ref).messaging = some source)
      (hops : w'.operations = Function.update w.operations w.next
        (some (sendOperation sha256 w ref source request smsId))) :
      Script sha256 random w w' (.sendSms tables (some request)) ref
        [.dedupePrune w.bridge.now,.reserve,.dedupeStore w.bridge.now request.clientToken
          (busyMarker (sendOperation sha256 w ref source request smsId) smsId)]
  | startedDelete {tables : Tables} {request : DeleteSmsRequest} {ref : ModemRef} {source : Nat}
      {entry : L850GLSms}
      (hidle : (w.modem ref).mutationBusy = false) (hlive : (w.modem ref).live = true)
      (hready : (w.messaging ref).smsCacheState.isReady = true)
      (hsource : (w.messaging ref).messaging = some source)
      (hfound : (w.messaging ref).findSms (w.modem ref).generation request.smsId = some entry)
      (hops : w'.operations = Function.update w.operations w.next
        (some {newOperation w ref source .delete with smsId := some request.smsId})) :
      Script sha256 random w w' (.deleteSms tables (some request)) ref []
  | listFailed {index : Nat} {outcome : Outcome} {ref : ModemRef} {source epoch : Nat}
      {cancelled : Bool} (hcall : w.calls[index]? = some (.list ref source epoch))
      (hlive : (w.modem ref).live = true)
      (hsource : (w.messaging ref).messaging = some source)
      (hepoch : (w.messaging ref).messagingGeneration = epoch) (h : Carried w w')
      (later : List Change)
      (hlater : later = if (w.messaging ref).smsQueryDirty then [.querySms] else []) :
      Script sha256 random w w' (.finish index outcome) ref (.listFailed cancelled::later)
  | listed {index : Nat} {outcome : Outcome} {ref : ModemRef} {source epoch : Nat}
      (hcall : w.calls[index]? = some (.list ref source epoch))
      (hlive : (w.modem ref).live = true)
      (hsource : (w.messaging ref).messaging = some source)
      (hepoch : (w.messaging ref).messagingGeneration = epoch) (h : Carried w w')
      (later : List Change)
      (hlater : later = if (w.messaging ref).smsQueryDirty then [.querySms] else []) :
      Script sha256 random w w' (.finish index outcome) ref
        (.rebuild (w.modem ref).generation w.properties outcome.messages::later)
  | dispatched {index : Nat} {outcome : Outcome} {op : OperationRef} {operation : SmsOperation}
      {sms : MMSms} (ha : AnswersCall w index (.create op) op operation)
      (hsms : outcome.sms = some sms) (hcurrent : smsOperationStaleCode w operation = none)
      (h : Carried w w') :
      Script sha256 random w w' (.finish index outcome) operation.modem
        [.enter (w.modem operation.modem).generation sms (operation.smsId.getD [])]
  | ended {index : Nat} {outcome : Outcome} {call : Call} {op : OperationRef}
      {operation : SmsOperation} (before settlement : List Change)
      (ha : AnswersCall w index call op operation)
      (hb : Before w operation call outcome before)
      (hs : Settlement w operation outcome.succeeded settlement) (h : Ended w w' op) :
      Script sha256 random w w' (.finish index outcome) operation.modem
        (before++settlement++[.release operation.smsId])
  | added {ref : ModemRef} {path : Option CString} (hlive : (w.modem ref).live = true)
      (hsome : (w.messaging ref).messaging.isSome = true) (h : Carried w w') :
      Script sha256 random w w' (.added ref path) ref [.added path,.querySms]
  | deleted {ref : ModemRef} {path : CString} (hlive : (w.modem ref).live = true)
      (hsome : (w.messaging ref).messaging.isSome = true)
      (hpath : gVariantIsObjectPath path = true) (h : Carried w w') :
      Script sha256 random w w' (.deleted ref (some path)) ref [.deleted path,.querySms]
  | changed {ref : ModemRef} {path : CString} {properties : Nat → SmsProperties}
      (h : Carried w w') :
      Script sha256 random w w' (.smsPropertiesChanged ref path properties) ref [.revisionBump]
  | epochChanged {ref : ModemRef} {forceEpoch : Bool} {object : Option Nat}
      (hlive : (w.modem ref).live = true)
      (hchanged : forceEpoch = true ∨ object ≠ (w.messaging ref).messaging) (h : Carried w w') :
      Script sha256 random w w' (.reconcile ref forceEpoch object) ref [.epoch object,.querySms]
  | removed {ref : ModemRef} (hlive : (w.modem ref).live = true) (h : Carried w w') :
      Script sha256 random w w' (.removed ref) ref [.clear]

theorem applyAll_append (s : Messaging × Nat) (changes changes' : List Change) :
    applyAll random ref s (changes++changes') =
      applyAll random ref (applyAll random ref s changes) changes' :=
  List.foldl_append

theorem Runs.refl (w : World) (ref : ModemRef) : Runs random ref w w [] :=
  ⟨rfl,fun _ _ => rfl,rfl⟩

theorem Runs.trans (h : Runs random ref w w₁ changes) (h' : Runs random ref w₁ w' changes') :
    Runs random ref w w' (changes++changes') := by
  refine ⟨?_,fun other ho => (h'.others other ho).trans (h.others other ho),
    h'.properties.trans h.properties⟩
  rw [applyAll_append,← h.messaging]
  exact h'.messaging

/-- Only the messages of the record are written. -/
theorem Runs.of_update (change : Change) (hm : w'.messaging = Function.update w.messaging ref m)
    (hd : w'.drawn = w.drawn) (hp : w'.properties = w.properties)
    (h : change.apply random ref (w.messaging ref,w.drawn) = (m,w.drawn)) :
    Runs random ref w w' [change] := by
  refine ⟨?_,fun other ho => ?_,hp⟩
  · rw [hm,hd,Function.update_self]
    exact h.symm
  · rw [hm,Function.update_of_ne ho]

/-- The parts of a world that `Runs` does not speak of. -/
theorem Runs.of_eq {v v' : World} (h : Runs random ref w w' changes)
    (hm : v.messaging = w.messaging) (hd : v.drawn = w.drawn) (hp : v.properties = w.properties)
    (hm' : v'.messaging = w'.messaging) (hd' : v'.drawn = w'.drawn)
    (hp' : v'.properties = w'.properties) : Runs random ref v v' changes := by
  refine ⟨?_,fun other ho => ?_,by rw [hp,hp',h.properties]⟩
  · rw [hm,hd,hm',hd']
    exact h.messaging
  · rw [hm,hm']
    exact h.others other ho

theorem Runs.of_observe {o : Observation} (h : Runs random ref (w.observe o) w' changes) :
    Runs random ref w w' changes := ⟨h.messaging,h.others,h.properties⟩

theorem querySms_runs (random : Nat → Option (Vector UInt8 16))
    (hlive : (w.modem ref).live = true) :
    Runs random ref w (w.querySms ref) [.querySms] := by
  simp only [World.querySms,hlive,Bool.not_true,Bool.false_eq_true,if_false]
  split
  · exact .of_update .querySms rfl rfl rfl rfl
  · exact .of_update .querySms rfl rfl rfl rfl

theorem querySms_dead (hlive : (w.modem ref).live = false) : w.querySms ref = w := by
  simp [World.querySms,hlive]

theorem smsOperationCompleteBuffer_runs (random : Nat → Option (Vector UInt8 16))
    (ho : w.operations op = some operation) :
    Runs random operation.modem w (smsOperationCompleteBuffer w op)
      [.release operation.smsId] := by
  simp only [smsOperationCompleteBuffer,withOperation,ho]
  split
  · refine .of_update (.release operation.smsId) (m:=(w.messaging operation.modem).releaseSmsId
      operation.smsId) ?_ ?_ ?_ rfl
    all_goals simp [smsOperationFree,withOperation,World.updateOperation,observe,updateMessaging]
  · refine .of_update (.release operation.smsId) (m:=(w.messaging operation.modem).releaseSmsId
      operation.smsId) ?_ ?_ ?_ rfl
    all_goals simp [smsOperationFree,withOperation,World.updateOperation,observe,updateMessaging]

theorem smsDedupeStore_runs (random : Nat → Option (Vector UInt8 16))
    {token : CString} (op : OperationRef) (result : SmsResult)
    (ht : operation.clientToken = some token) :
    Runs random operation.modem w (smsDedupeStore w op operation result)
      [.dedupeStore w.bridge.now token result] := by
  simp only [smsDedupeStore,ht]
  exact .of_update (.dedupeStore _ _ _) rfl rfl rfl rfl

theorem smsDedupeRemove_runs (random : Nat → Option (Vector UInt8 16))
    {token : CString} (ht : operation.clientToken = some token) :
    Runs random operation.modem w (smsDedupeRemove w operation)
      [.dedupeRemove w.bridge.now token] := by
  simp only [smsDedupeRemove,ht]
  exact .of_update (.dedupeRemove _ _) rfl rfl rfl rfl

theorem smsOperationCompleteError_runs (random : Nat → Option (Vector UInt8 16))
    (ho : w.operations op = some operation) (code : String)
    (retryable ok : Bool) :
    ∃ settlement, Settlement w operation ok settlement ∧
      Runs random operation.modem w (smsOperationCompleteError w op code retryable)
        (settlement++[.release operation.smsId]) := by
  simp only [smsOperationCompleteError,withOperation,ho]
  cases htype : operation.type with
  | delete =>
    have h := smsOperationCompleteBuffer_runs random (w:=w.observe (.failed op code retryable)) ho
    exact ⟨[],.nothing (.inl htype),h.of_observe⟩
  | send =>
    dsimp only
    cases ht : operation.clientToken with
    | none =>
      have hs : smsDedupeStore (w.observe (.failed op code retryable)) op operation
          ⟨false,operation.smsId,none,some code,false,operation.requestDigest⟩ =
          w.observe (.failed op code retryable) := by simp [smsDedupeStore,ht]
      have hr : smsDedupeRemove (w.observe (.failed op code retryable)) operation =
          w.observe (.failed op code retryable) := by simp [smsDedupeRemove,ht]
      rw [hs,hr,ite_self]
      have h := smsOperationCompleteBuffer_runs random (w:=w.observe (.failed op code retryable)) ho
      exact ⟨[],.nothing (.inr ht),h.of_observe⟩
    | some token =>
      split
      · rename_i h
        refine ⟨_,.stored token ⟨false,operation.smsId,none,some code,false,
          operation.requestDigest⟩ ht ?_ ?_,?_⟩
        · exact Option.isNone_iff_eq_none.mp h.1
        · simp [h.2]
        · have h₁ := smsDedupeStore_runs random (w:=w.observe (.failed op code retryable)) op
            ⟨false,operation.smsId,none,some code,false,operation.requestDigest⟩ ht
          refine h₁.of_observe.trans (smsOperationCompleteBuffer_runs random ?_)
          rw [(smsDedupeStore_stores _ _ _ _).operations]
          exact ho
      · have h₁ := smsDedupeRemove_runs random (w:=w.observe (.failed op code retryable)) ht
        refine ⟨_,.removed token ht,h₁.of_observe.trans (smsOperationCompleteBuffer_runs random ?_)⟩
        rw [(smsDedupeRemove_stores _ _).operations]
        exact ho

theorem smsOperationCompleteSend_runs (random : Nat → Option (Vector UInt8 16))
    {storeDedupe : Bool}
    (ho : w.operations op = some operation)
    (hstore : storeDedupe = true ↔ smsOperationStaleCode w operation = none) :
    ∃ settlement, Settlement w operation true settlement ∧
      Runs random operation.modem w (smsOperationCompleteSend w op storeDedupe)
        (settlement++[.release operation.smsId]) := by
  simp only [smsOperationCompleteSend,withOperation,ho]
  split
  · rename_i h
    cases ht : operation.clientToken with
    | none =>
      have h₁ := smsOperationCompleteBuffer_runs random (w:=w.observe (.succeeded op)) ho
      simp only [smsDedupeStore,ht]
      exact ⟨[],.nothing (.inr ht),h₁.of_observe⟩
    | some token =>
      have h₁ := smsDedupeStore_runs random (w:=w.observe (.succeeded op)) op
        ⟨true,operation.smsId,operation.sms.map fun sms =>
          smsStateName (w.properties sms.object).state,none,false,operation.requestDigest⟩ ht
      refine ⟨_,.stored token _ ht (hstore.mp h) ?_,h₁.of_observe.trans
        (smsOperationCompleteBuffer_runs random ?_)⟩
      · simp
      · rw [(smsDedupeStore_stores _ _ _ _).operations]
        exact ho
  · rename_i h
    have h₁ := smsOperationCompleteBuffer_runs random (w:=w.observe (.succeeded op)) ho
    exact ⟨[],.stale rfl fun hc => h (hstore.mpr hc),h₁.of_observe⟩

end Sms
end L850GL
