import L850GL.Sms.AtMostOnce
import L850GL.Sms.CacheReady

/-! How a request that repeats a token is answered. -/
namespace L850GL
namespace Sms

open Errors Identity Messaging Mutation World ExpiringQueue

variable {w w' : World} {ref : ModemRef} {A : OperationRef} {sha256 : CString → Digest}
  {random : Nat → Option (Vector UInt8 16)} {tables : Tables} {request : SendSmsRequest}
  {e : SmsDedupe}

/-- The live entry of a token. -/
structure Answers (w : World) (ref : ModemRef) (token : CString) (e : SmsDedupe) : Prop where
  mem : e ∈ (w.messaging ref).smsDedupe
  key : e.key = token
  live : w.bridge.now < e.expiresAt

/-- A request that sent nothing to ModemManager: it was refused, or answered with the result
recorded for its token. -/
structure Answered (w : World) (ref : ModemRef) (token : CString)
    (served : World × Option Reply) : Prop where
  trace : served.1.trace = w.trace
  calls : served.1.calls = w.calls
  operations : served.1.operations = w.operations
  reply : (∃ code message retryable, served.2 = some (sendError w.bridge code message retryable)) ∨
    ∃ e, Answers w ref token e ∧ served.2 = some (sendCachedSmsResult w ref e.value)

/-- `sha256` tells the two contents apart, or they are one. -/
def NoCollision (sha256 : CString → Digest) (recipient text recipient' text' : CString) : Prop :=
  l850glSmsRequestDigest sha256 recipient text = l850glSmsRequestDigest sha256 recipient' text' →
    requestDigestInput recipient text = requestDigestInput recipient' text'

/-- How `send_sms` serves a request on its record. -/
structure Served (sha256 : CString → Digest) (w : World) (ref : ModemRef)
    (request : SendSmsRequest) (served : World × Option Reply) : Prop where
  /-- No repeat before its time. -/
  repeated : ∀ A t,
    .sent A ref request.messagingGeneration request.clientToken t ∈ w.trace →
    ¬Repeatable w.trace A ref request.messagingGeneration request.clientToken w.bridge.now →
    Answered w ref request.clientToken served
  /-- No second operation next to one in flight. -/
  inFlight : ∀ A operation, w.operations A = some operation → operation.modem = ref →
    Answered w ref request.clientToken served
  /-- A live entry answers its token, and no other content under it. -/
  entry : ∀ e, Answers w ref request.clientToken e → Answered w ref request.clientToken served ∧
    ∃ recipient text, Known sha256 w.trace ref (w.messaging ref).messagingGeneration e.key
        (some (l850glSmsRequestDigest sha256 recipient text)) ∧
      e.value.requestDigest = some (l850glSmsRequestDigest sha256 recipient text) ∧
      (NoCollision sha256 recipient text request.recipient request.text →
        (recipient ≠ request.recipient ∨ text ≠ request.text) → ∃ code message retryable,
          served.2 = some (sendError w.bridge code message retryable))

theorem Answers.find (h : Answers w ref request.clientToken e)
    (hk : (Keys (w.messaging ref).smsDedupe).Nodup) :
    find (prune w.bridge.now (w.messaging ref).smsDedupe) request.clientToken = some e := by
  rw [← h.key]
  exact find_of_mem (hk.sublist (keys_prune _)) (mem_prune.mpr ⟨h.mem,h.live⟩)

theorem sendSmsOn_answered (h : find (prune w.bridge.now (w.messaging ref).smsDedupe)
    request.clientToken = some e) :
    Answered w ref request.clientToken (sendSmsOn sha256 random w ref request) ∧
      (e.value.requestDigest ≠
          some (l850glSmsRequestDigest sha256 request.recipient request.text) →
        ∃ code message retryable, (sendSmsOn sha256 random w ref request).2 =
          some (sendError w.bridge code message retryable)) := by
  obtain ⟨hm,hk⟩ := find_some h
  have ha : Answers w ref request.clientToken e :=
    ⟨(mem_prune.mp hm).1,hk,(mem_prune.mp hm).2⟩
  have hcached : ∀ m, sendCachedSmsResult (w.updateMessaging ref m) ref e.value =
      sendCachedSmsResult w ref e.value ∨ m.messagingGeneration ≠
        (w.messaging ref).messagingGeneration := by
    intro m
    by_cases hg : m.messagingGeneration = (w.messaging ref).messagingGeneration
    · left
      simp [sendCachedSmsResult,updateMessaging,World.modem,hg]
    · exact .inr hg
  simp only [sendSmsOn,Messaging.smsDedupeFind,Messaging.smsDedupePrune,h]
  split
  · exact ⟨⟨rfl,rfl,rfl,.inl ⟨_,_,_,rfl⟩⟩,fun _ => ⟨_,_,_,rfl⟩⟩
  · rename_i hsame
    refine ⟨⟨rfl,rfl,rfl,.inr ⟨e,ha,?_⟩⟩,fun hne => absurd hne hsame⟩
    rcases hcached ((w.messaging ref).smsDedupePrune w.bridge.now) with h₁ | h₁
    · exact congrArg some h₁
    · exact absurd rfl h₁

theorem sendSmsOn_busy (h : (w.modem ref).mutationBusy = true) :
    Answered w ref request.clientToken (sendSmsOn sha256 random w ref request) := by
  cases hf : find (prune w.bridge.now (w.messaging ref).smsDedupe) request.clientToken with
  | some e => exact (sendSmsOn_answered hf).1
  | none =>
    have h₁ : ((w.updateMessaging ref ((w.messaging ref).smsDedupePrune w.bridge.now)).modem ref
      ).mutationBusy = true := h
    simp only [sendSmsOn,Messaging.smsDedupeFind]
    simp only [Messaging.smsDedupePrune] at h₁ ⊢
    simp only [hf,sendNewSms,h₁,if_true]
    exact ⟨rfl,rfl,rfl,.inl ⟨_,_,_,rfl⟩⟩

/-- A request is refused before its record is looked at, or served on its record. -/
theorem methodSendSms_on (hfind : w.bridge.l850glBridgeFindModem request.modemId = some ref) :
    (∃ code message retryable, methodSendSms sha256 random w tables (some request) =
        (w,some (sendError w.bridge code message retryable))) ∨
      request.isValid = true ∧ (w.modem ref).l850glModemAttestMutationTarget = true ∧
        (w.messaging ref).messagingGeneration = request.messagingGeneration ∧
        (w.messaging ref).messaging.isSome = true ∧
        methodSendSms sha256 random w tables (some request) =
          sendSmsOn sha256 random w ref request := by
  simp only [methodSendSms]
  split
  · exact .inl ⟨_,_,_,rfl⟩
  rename_i hvalid
  split
  · exact .inl ⟨_,_,_,rfl⟩
  · rename_i other hok
    have hother : other = ref := by
      have h₁ := hok
      simp only [smsMutationModem,hfind] at h₁
      split_ifs at h₁
      cases h₁
      rfl
    subst hother
    obtain ⟨h₁,h₂,h₃⟩ := smsMutationModem_ok hok
    exact .inr ⟨by simpa using hvalid,h₁,h₂,h₃,rfl⟩

theorem Inv.served (h : Inv sha256 w)
    (hfind : w.bridge.l850glBridgeFindModem request.modemId = some ref) :
    Served sha256 w ref request (methodSendSms sha256 random w tables (some request)) := by
  have hk := h.recorded.keys ref
  have hknown : ∀ e, Answers w ref request.clientToken e → ∃ recipient text,
      Known sha256 w.trace ref (w.messaging ref).messagingGeneration e.key
        (some (l850glSmsRequestDigest sha256 recipient text)) ∧
      l850glSmsRecipientIsValid recipient = true ∧
      e.value.requestDigest = some (l850glSmsRequestDigest sha256 recipient text) := by
    intro e he
    obtain ⟨op,recipient,text,t,hm,hv,hd⟩ := h.recorded.known ref e he.mem
    exact ⟨recipient,text,⟨op,recipient,text,t,hm,hv,rfl⟩,hv,hd⟩
  rcases methodSendSms_on hfind with
    ⟨code,message,retryable,hrefused⟩ | ⟨hvalid,hattested,hepoch,hsome,hon⟩
  · rw [hrefused]
    have ha : Answered w ref request.clientToken
        (w,some (sendError w.bridge code message retryable)) :=
      ⟨rfl,rfl,rfl,.inl ⟨code,message,retryable,rfl⟩⟩
    refine ⟨fun _ _ _ _ => ha,fun _ _ _ _ => ha,fun e he => ⟨ha,?_⟩⟩
    obtain ⟨recipient,text,h₁,-,h₂⟩ := hknown e he
    exact ⟨recipient,text,h₁,h₂,fun _ _ => ⟨code,message,retryable,rfl⟩⟩
  rw [hon]
  have hinflight : ∀ A operation, w.operations A = some operation → operation.modem = ref →
      Answered w ref request.clientToken (sendSmsOn sha256 random w ref request) := by
    intro A operation ho hm
    subst hm
    exact sendSmsOn_busy (h.holding.holds A operation ho).busy
  refine ⟨fun A t hm hn => ?_,hinflight,fun e he => ?_⟩
  · cases hA : w.operations A with
    | some o =>
      rcases (h.recorded.sent A _ _ _ _ hm).flight with ⟨h₁,-⟩ | ⟨o',h₁,h₂,-⟩
      · rw [hA] at h₁
        cases h₁
      · exact hinflight A o' h₁ h₂
    | none =>
      have hlive : (w.modem ref).live = true := by
        simp only [Modem.l850glModemAttestMutationTarget,Bool.and_eq_true] at hattested
        exact hattested.1.1
      rcases h.settled.closed A ref _ _ t hm hepoch.symm hlive hsome hA with h₁ | ⟨e,he,hkey,hs⟩
      · exact absurd h₁ hn
      · have hexp : w.bridge.now < e.expiresAt := by
          by_contra hexp
          exact hn (h.recorded.expired (h.recorded.sent_released hm hA) hexp hs)
        exact (sendSmsOn_answered (Answers.find ⟨he,hkey,hexp⟩ hk)).1
  · obtain ⟨ha,hd⟩ := sendSmsOn_answered (he.find hk)
    obtain ⟨recipient,text,h₁,hv,h₂⟩ := hknown e he
    refine ⟨ha,recipient,text,h₁,h₂,fun hcollision hne => hd fun hsame => ?_⟩
    rw [h₂,Option.some.injEq] at hsame
    obtain ⟨h₃,h₄⟩ := requestDigestInput_inj (l850glSmsRecipientIsValid_length hv)
      (l850glSmsRecipientIsValid_length (SendSmsRequest.isValid_recipient hvalid))
      (hcollision hsame)
    rcases hne with hne | hne
    · exact hne h₃
    · exact hne h₄

/-- In every run a message goes to ModemManager only for a reason, and in every state of a run
requests are answered accordingly. -/
theorem sendSms_atMostOnce (h : (smsSystem sha256 random).Reachable w) :
    Justified AtMostOnce w.trace ∧
      ∀ bridge, w.bridge.now ≤ bridge.now ∧ bridge.now < int64Max → ∀ tables request ref,
        (w.refresh bridge).bridge.l850glBridgeFindModem request.modemId = some ref →
        Served sha256 (w.refresh bridge) ref request
          (methodSendSms sha256 random (w.refresh bridge) tables (some request)) :=
  ⟨(reachable_inv h).settled.justified,fun _ hclock _ _ _ hfind =>
    ((reachable_inv h).refresh hclock).served hfind⟩

def sampleSendRequest (text : CString) : SendSmsRequest where
  modemId := "l850gl-00112233445566778899aabbccddeeff".toList
  generation := 1
  messagingGeneration := 1
  recipient := "+4912345".toList
  text := text
  clientToken := "smsop-00112233445566778899aabbccddeeff".toList

/-- The SHA-256 digests of the sample contents `hello` and `bye`. -/
def sampleSha256 (input : CString) : Digest :=
  if input = requestDigestInput "+4912345".toList "hello".toList then
    #v[242,4,183,72,215,0,229,102,168,253,248,254,102,29,101,173,68,3,30,89,101,238,73,62,125,50,
      164,192,236,46,181,31]
  else
    #v[37,149,255,19,219,210,225,122,38,164,205,253,121,242,212,65,18,235,136,145,23,79,161,67,163,
      255,195,57,76,142,152,133]

def sampleSendSystem : System World (Event × Bridge) :=
  smsSystem sampleSha256 fun _ => some (Vector.replicate 16 1)

/-- A message is created and sent. -/
def sampleSend : List (Event × Bridge) :=
  [.admitted,.reconcile 0 false (some 7),.sendSms ⟨[],[],[]⟩
    (some (sampleSendRequest "hello".toList)),
   .finish 1 ⟨[],some ⟨3,some "/sms/3".toList⟩,true,none⟩,.finish 1 ⟨[],none,true,none⟩].map
    fun event => (event,sampleBridge false)

/-- The attempts of a trace that went out for a token of the first record. -/
def sentWith (token : CString) (trace : List Observation) : Nat :=
  trace.countP fun o => match o with
    | .sent _ ref _ sentToken _ => ref == 0 && sentToken == token
    | _ => false

theorem sampleSend_sent : (sampleSendSystem.run sampleStart sampleSend).map (fun w =>
    (sentWith (sampleSendRequest []).clientToken w.trace,w.bridge.now,
      (w.refresh (sampleBridge false)).bridge.l850glBridgeFindModem
        (sampleSendRequest []).modemId)) = some (1,1000000,some 0) := by
  decide +kernel

/-- The rule at that run and a repeat with another text. -/
theorem sendSms_atMostOnce_sample : ∃ w, sampleSendSystem.run sampleStart sampleSend = some w ∧
    sentWith (sampleSendRequest []).clientToken w.trace = 1 ∧ Justified AtMostOnce w.trace ∧
    Served sampleSha256 (w.refresh (sampleBridge false)) 0 (sampleSendRequest "bye".toList)
      (methodSendSms sampleSha256 (fun _ => some (Vector.replicate 16 1))
        (w.refresh (sampleBridge false)) ⟨[],[],[]⟩ (some (sampleSendRequest "bye".toList))) := by
  obtain ⟨w,hw,hall⟩ := Option.map_eq_some_iff.mp sampleSend_sent
  have hsent := (Prod.mk.inj hall).1
  have hnow := (Prod.mk.inj (Prod.mk.inj hall).2).1
  have hfind := (Prod.mk.inj (Prod.mk.inj hall).2).2
  have hclock : w.bridge.now ≤ (sampleBridge false).now ∧ (sampleBridge false).now < int64Max := by
    rw [hnow]
    decide
  have h₁ := sendSms_atMostOnce (System.reachable_run (S:=sampleSendSystem)
    (.start sampleStart_initial) hw)
  exact ⟨w,hw,hsent,h₁.1,h₁.2 (sampleBridge false) hclock ⟨[],[],[]⟩ _ 0 hfind⟩

end Sms
end L850GL
