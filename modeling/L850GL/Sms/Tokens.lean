import L850GL.Sms.Holding

/-! What the trace remembers of the tokens: who was dispatched under which token, when results
were stored, and where the entries of the token cache come from. -/
namespace L850GL
namespace Sms

open Errors Messaging Mutation World ExpiringQueue

variable {w w' w₁ w'' : World} {ref : ModemRef} {op : OperationRef}
  {operation : SmsOperation} {sha256 : CString → Digest}

/-- `o'` is a later state of the operation `o`. -/
structure Continues (o o' : SmsOperation) : Prop where
  modem : o'.modem = o.modem
  epoch : o'.messagingGeneration = o.messagingGeneration
  token : o'.clientToken = o.clientToken
  digest : o'.requestDigest = o.requestDigest
  dispatched : o.sendDispatched = true → o'.sendDispatched = true

theorem Continues.refl (o : SmsOperation) : Continues o o := ⟨rfl,rfl,rfl,rfl,id⟩

theorem Continues.trans {o o' o'' : SmsOperation} (h : Continues o o') (h' : Continues o' o'') :
    Continues o o'' :=
  ⟨h'.modem.trans h.modem,h'.epoch.trans h.epoch,h'.token.trans h.token,h'.digest.trans h.digest,
    fun hd => h'.dispatched (h.dispatched hd)⟩

/-- How the operations and the epochs of two states of a run are related. -/
structure Evolves (w w' : World) : Prop where
  now : w'.bridge.now = w.bridge.now
  next : w.next ≤ w'.next
  epoch : ∀ ref, (w.messaging ref).messagingGeneration ≤ (w'.messaging ref).messagingGeneration
  trace : w.trace ⊆ w'.trace
  ended : ∀ op, op < w.next → w.operations op = none → w'.operations op = none
  flight : ∀ op o, w.operations op = some o →
    (∃ o', w'.operations op = some o' ∧ Continues o o') ∨
      w'.operations op = none ∧ .released op ∈ w'.trace
  origin : ∀ op o', w'.operations op = some o' →
    (∃ o, w.operations op = some o ∧ Continues o o') ∨ op = w.next ∧ w.next < w'.next

theorem Evolves.refl (w : World) : Evolves w w :=
  ⟨rfl,Nat.le_refl _,fun _ => Nat.le_refl _,fun _ h => h,fun _ _ h => h,
    fun _ o h => .inl ⟨o,h,.refl o⟩,fun _ o h => .inl ⟨o,h,.refl o⟩⟩

theorem Passive.evolves (h : Passive w w') : Evolves w w' := by
  refine ⟨by rw [h.bridge],Nat.le_of_eq h.next.symm,fun ref => Nat.le_of_eq
    (h.messaging ref).epoch.symm,?_,fun op _ hn => ?_,fun op o ho => .inl ?_,
    fun op o' ho' => .inl ?_⟩
  · obtain ⟨later,hl,-⟩ := h.trace
    rw [hl]
    exact List.subset_append_right _ _
  · have h₁ := h.operations_isSome op
    rw [hn] at h₁
    simpa using h₁
  · have h₁ := h.operations op
    rw [ho] at h₁
    obtain ⟨o',ho',hid⟩ := Option.map_eq_some_iff.mp h₁
    have hs := SmsOperation.Same.of_identity hid
    exact ⟨o',ho',hs.modem,hs.messagingGeneration,hs.clientToken,hs.requestDigest,
      fun hd => hs.sendDispatched.trans hd⟩
  · obtain ⟨o,ho,hid⟩ := h.exists_operation ho'
    have hs := SmsOperation.Same.of_identity hid
    exact ⟨o,ho,hs.modem,hs.messagingGeneration,hs.clientToken,hs.requestDigest,
      fun hd => hs.sendDispatched.trans hd⟩

/-- What the end of an operation adds to the trace. -/
inductive Ending (w : World) (op : OperationRef) (operation : SmsOperation) : Observation → Prop
  | closing {o : Observation} (h : ClosingOf op o) : Ending w op operation o
  | stored (token : CString) (htoken : operation.clientToken = some token)
      (hcurrent : smsOperationStaleCode w operation = none) :
      Ending w op operation (.stored op operation.modem
        (w.messaging operation.modem).messagingGeneration token w.bridge.now)
  | evicted (epoch : Nat) (token : CString) :
      Ending w op operation (.evicted operation.modem epoch token)

theorem Ending.of_stored {A : OperationRef} {epoch : Nat} {token : CString} {t : Int}
    (h : Ending w op operation (.stored A ref epoch token t)) : A = op ∧ t = w.bridge.now := by
  generalize ho : Observation.stored A ref epoch token t = o at h
  cases h with
  | closing hc => cases hc <;> cases ho
  | stored =>
    simp only [Observation.stored.injEq] at ho
    exact ⟨ho.1,ho.2.2.2.2⟩
  | evicted => cases ho

theorem Settle.later (h : Settle w w' op operation) : ∃ later, w'.trace = later++w.trace ∧
    (∀ o ∈ later, Ending w op operation o) ∧ .released op ∈ later := by
  cases h with
  | silent later htrace hlater hreleased =>
    exact ⟨later,htrace,fun o ho => .closing (hlater o ho),hreleased⟩
  | removed later token code retryable htrace hlater hreleased =>
    exact ⟨later,htrace,fun o ho => .closing (hlater o ho),hreleased⟩
  | stored later first token result htrace hlater hfirst hreleased htoken hcurrent =>
    refine ⟨later++.stored op operation.modem (w.messaging operation.modem).messagingGeneration
      token w.bridge.now::(evictions operation.modem (w.messaging operation.modem) w.bridge.now
        token++[first]),by simp [htrace],fun o ho => ?_,by simp [hreleased]⟩
    simp only [List.mem_append,List.mem_cons,List.not_mem_nil,or_false] at ho
    rcases ho with ho | rfl | ho | rfl
    · exact .closing (hlater o ho)
    · exact .stored token htoken hcurrent
    · obtain ⟨epoch,key,rfl⟩ := mem_evictions ho
      exact .evicted epoch key
    · exact .closing hfirst

theorem Completes.evolves (h : Completes w w' op operation) : Evolves w w' := by
  obtain ⟨later,htrace,-,hreleased⟩ := h.settle.later
  refine ⟨by rw [h.bridge]; rfl,Nat.le_of_eq h.next.symm,fun ref => ?_,?_,fun other _ hn => ?_,
    fun other o ho' => ?_,fun other o' ho' => .inl ?_⟩
  · by_cases he : ref = operation.modem
    · rw [he,h.epoch]
    · rw [h.others ref he]
  · rw [htrace]
    exact List.subset_append_right _ _
  · rw [h.operations]
    by_cases he : other = op
    · simp [he]
    · simpa [he] using hn
  · rw [h.operations]
    by_cases he : other = op
    · exact .inr ⟨by simp [he],by simp [htrace,he,hreleased]⟩
    · exact .inl ⟨o,by simpa [he] using ho',.refl o⟩
  · rw [h.operations] at ho'
    by_cases he : other = op
    · simp [he] at ho'
    · exact ⟨o',by simpa [he] using ho',.refl o'⟩

theorem Dispatches.evolves (h : Dispatches w w' op operation)
    (ho : w.operations op = some operation) : Evolves w w' := by
  obtain ⟨sending,hops,hid⟩ := h.operations
  have hc : Continues operation sending := by
    simp only [SmsOperation.identity,SmsOperation.mk.injEq] at hid
    obtain ⟨-,h₁,-,-,-,-,-,h₂,-,h₃,-,h₄,-,h₅,-⟩ := hid
    exact ⟨h₁,h₂,h₃,h₄,fun _ => h₅⟩
  refine ⟨by rw [h.bridge],Nat.le_of_eq h.next.symm,fun ref => by rw [h.messaging],?_,
    fun other _ hn => ?_,fun other o ho' => .inl ?_,fun other o' ho' => .inl ?_⟩
  · rw [h.trace]
    exact List.subset_cons_self _ _
  · rw [hops]
    have he : other ≠ op := by
      intro he
      rw [he,ho] at hn
      cases hn
    simpa [he] using hn
  · by_cases he : other = op
    · subst he
      rw [ho,Option.some.injEq] at ho'
      exact ⟨sending,by simp [hops],ho' ▸ hc⟩
    · exact ⟨o,by simpa [hops,he] using ho',.refl o⟩
  · rw [hops] at ho'
    by_cases he : other = op
    · subst he
      simp only [Function.update_self,Option.some.injEq] at ho'
      exact ⟨operation,ho,ho' ▸ hc⟩
    · exact ⟨o',by simpa [he] using ho',.refl o'⟩

theorem Starts.evolves (h : Starts w w' operation) (hp : Pending w none)
    (htrace : w.trace ⊆ w'.trace) : Evolves w w' := by
  have hnone := hp.fresh w.next (Nat.le_refl _)
  refine ⟨by rw [h.bridge]; rfl,by rw [h.next]; exact Nat.le_succ _,fun ref => ?_,htrace,
    fun other hlt hn => ?_,fun other o ho => .inl ?_,fun other o' ho' => ?_⟩
  · by_cases he : ref = operation.modem
    · rw [he,h.epoch]
    · rw [h.others ref he]
  · rw [h.operations]
    simpa [Nat.ne_of_lt hlt] using hn
  · have he : other ≠ w.next := by
      intro he
      rw [he,hnone] at ho
      cases ho
    exact ⟨o,by simpa [h.operations,he] using ho,.refl o⟩
  · by_cases he : other = w.next
    · exact .inr ⟨he,by rw [h.next]; exact Nat.lt_succ_self _⟩
    · rw [h.operations] at ho'
      exact .inl ⟨o',by simpa [he] using ho',.refl o'⟩

/-- An operation that `Sms.Send` was dispatched for. -/
structure Sent (w : World) (op : OperationRef) (ref : ModemRef) (epoch : Nat)
    (token : CString) : Prop where
  born : op < w.next
  bound : epoch ≤ (w.messaging ref).messagingGeneration
  stored : ∃ t, .stored op ref epoch token t ∈ w.trace
  flight : w.operations op = none ∧ .released op ∈ w.trace ∨
    ∃ o, w.operations op = some o ∧ o.modem = ref ∧ o.messagingGeneration = epoch ∧
      o.clientToken = some token ∧ o.sendDispatched = true

/-- A token stands for the content of a message that went to `Messaging.Create`. -/
def Known (sha256 : CString → Digest) (τ : List Observation) (ref : ModemRef) (epoch : Nat)
    (token : CString) (digest : Option Digest) : Prop :=
  ∃ op recipient text t, .created op ref epoch token recipient text t ∈ τ ∧
    l850glSmsRecipientIsValid recipient = true ∧
    digest = some (l850glSmsRequestDigest sha256 recipient text)

structure Recorded (sha256 : CString → Digest) (w : World) : Prop where
  clock : 0 ≤ w.bridge.now ∧ w.bridge.now < int64Max
  stored : ∀ op ref epoch token t, .stored op ref epoch token t ∈ w.trace →
    0 ≤ t ∧ t ≤ w.bridge.now
  released : ∀ op, .released op ∈ w.trace → op < w.next ∧ w.operations op = none
  sent : ∀ op ref epoch token t, .sent op ref epoch token t ∈ w.trace → Sent w op ref epoch token
  started : ∀ op o token, w.operations op = some o → o.clientToken = some token →
    (∃ t, .stored op o.modem o.messagingGeneration token t ∈ w.trace) ∧
      Known sha256 w.trace o.modem o.messagingGeneration token o.requestDigest
  keys : ∀ ref, (Keys (w.messaging ref).smsDedupe).Nodup
  known : ∀ ref, ∀ e ∈ (w.messaging ref).smsDedupe,
    Known sha256 w.trace ref (w.messaging ref).messagingGeneration e.key e.value.requestDigest

theorem Known.mono {τ τ' : List Observation} {epoch : Nat} {token : CString}
    {digest : Option Digest} (h : Known sha256 τ ref epoch token digest) (ht : τ ⊆ τ') :
    Known sha256 τ' ref epoch token digest := by
  obtain ⟨op,recipient,text,t,hm,hd⟩ := h
  exact ⟨op,recipient,text,t,ht hm,hd⟩

theorem Sent.evolve {epoch : Nat} {token : CString} (h : Sent w op ref epoch token)
    (he : Evolves w w') : Sent w' op ref epoch token := by
  obtain ⟨t,ht⟩ := h.stored
  refine ⟨Nat.lt_of_lt_of_le h.born he.next,Nat.le_trans h.bound (he.epoch ref),
    ⟨t,he.trace ht⟩,?_⟩
  rcases h.flight with ⟨hn,hr⟩ | ⟨o,ho,hm,hep,htok,hd⟩
  · exact .inl ⟨he.ended op h.born hn,he.trace hr⟩
  · rcases he.flight op o ho with ⟨o',ho',hc⟩ | hc
    · exact .inr ⟨o',ho',hc.modem.trans hm,hc.epoch.trans hep,hc.token.trans htok,
        hc.dispatched hd⟩
    · exact .inl hc

/-- A step keeps the record when it accounts for what it adds to the trace, for a new operation
and for the token cache. -/
theorem Recorded.evolve (h : Recorded sha256 w) (he : Evolves w w')
    (hstored : ∀ op ref epoch token t, .stored op ref epoch token t ∈ w'.trace →
      .stored op ref epoch token t ∈ w.trace ∨ t = w.bridge.now)
    (hreleased : ∀ op, .released op ∈ w'.trace → .released op ∈ w.trace ∨
      op < w'.next ∧ w'.operations op = none)
    (hsent : ∀ op ref epoch token t, .sent op ref epoch token t ∈ w'.trace →
      .sent op ref epoch token t ∈ w.trace ∨ Sent w' op ref epoch token)
    (hstarted : w.next < w'.next → ∀ o token, w'.operations w.next = some o →
      o.clientToken = some token →
      (∃ t, .stored w.next o.modem o.messagingGeneration token t ∈ w'.trace) ∧
        Known sha256 w'.trace o.modem o.messagingGeneration token o.requestDigest)
    (hkeys : ∀ ref, (Keys (w'.messaging ref).smsDedupe).Nodup)
    (hknown : ∀ ref, ∀ e ∈ (w'.messaging ref).smsDedupe,
      Known sha256 w'.trace ref (w'.messaging ref).messagingGeneration e.key
        e.value.requestDigest) : Recorded sha256 w' := by
  refine ⟨he.now ▸ h.clock,fun op ref epoch token t hm => ?_,fun op hm => ?_,
    fun op ref epoch token t hm => ?_,fun op o' token ho' ht => ?_,hkeys,hknown⟩
  · rw [he.now]
    rcases hstored op ref epoch token t hm with h₁ | rfl
    · exact h.stored op ref epoch token t h₁
    · exact ⟨h.clock.1,Int.le_refl _⟩
  · rcases hreleased op hm with h₁ | h₁
    · obtain ⟨h₂,h₃⟩ := h.released op h₁
      exact ⟨Nat.lt_of_lt_of_le h₂ he.next,he.ended op h₂ h₃⟩
    · exact h₁
  · rcases hsent op ref epoch token t hm with h₁ | h₁
    · exact (h.sent op ref epoch token t h₁).evolve he
    · exact h₁
  · rcases he.origin op o' ho' with ⟨o,ho,hc⟩ | ⟨rfl,hlt⟩
    · obtain ⟨⟨t,h₁⟩,h₂⟩ := h.started op o token ho (hc.token ▸ ht)
      rw [hc.modem,hc.epoch,hc.digest]
      exact ⟨⟨t,he.trace h₁⟩,h₂.mono he.trace⟩
    · exact hstarted hlt o' token ho' ht

theorem Passive.recorded (h : Passive w w') (hw : Recorded sha256 w) : Recorded sha256 w' := by
  have he := h.evolves
  obtain ⟨later,htrace,hlater⟩ := h.trace
  have hold : ∀ o ∈ w'.trace, (∀ ref epoch, o ≠ .listed ref epoch) → o ∈ w.trace := by
    intro o ho hne
    rw [htrace] at ho
    refine (List.mem_append.mp ho).resolve_left fun hl => ?_
    obtain ⟨ref,hr⟩ := hlater o hl
    exact hne _ _ hr
  refine hw.evolve he (fun op ref epoch token t hm => .inl (hold _ hm (by simp)))
    (fun op hm => .inl (hold _ hm (by simp)))
    (fun op ref epoch token t hm => .inl (hold _ hm (by simp)))
    (fun hlt => absurd hlt (by rw [h.next]; exact Nat.lt_irrefl _)) (fun ref => ?_)
    fun ref e hm => ?_
  · rcases (h.messaging ref).dedupe with hd | hd
    · rw [hd]
      exact hw.keys ref
    · rw [hd]
      exact (hw.keys ref).sublist (keys_prune _)
  · rw [(h.messaging ref).epoch]
    refine (hw.known ref e ?_).mono he.trace
    rcases (h.messaging ref).dedupe with hd | hd
    · exact hd ▸ hm
    · exact (mem_prune.mp (hd ▸ hm)).1

/-- What a completed operation leaves in the token cache of its record. -/
theorem Settle.dedupe (h : Settle w w' op operation)
    (hk : (Keys (w.messaging operation.modem).smsDedupe).Nodup) :
    (Keys (w'.messaging operation.modem).smsDedupe).Nodup ∧
      ∀ e ∈ (w'.messaging operation.modem).smsDedupe,
        e ∈ (w.messaging operation.modem).smsDedupe ∨
          operation.clientToken = some e.key ∧ e.value.requestDigest = operation.requestDigest ∧
            smsOperationStaleCode w operation = none := by
  have hp := hk.sublist (keys_prune w.bridge.now)
  cases h with
  | silent later _ _ _ hdedupe =>
    rw [hdedupe]
    exact ⟨hk,fun e he => .inl he⟩
  | removed later token code retryable _ _ _ _ _ hdedupe =>
    rw [hdedupe]
    refine ⟨hp.sublist keys_remove,fun e he => .inl ?_⟩
    exact (mem_prune.mp ((mem_remove hp).mp he).1).1
  | stored later first token result _ _ _ _ htoken hcurrent hdigest hdedupe =>
    rw [hdedupe]
    refine ⟨keys_put hp,fun e he => ?_⟩
    rcases mem_put he with rfl | ⟨he,-⟩
    · exact .inr ⟨htoken,hdigest,hcurrent⟩
    · exact .inl (mem_prune.mp he).1

theorem smsOperationStaleCode_current (h : smsOperationStaleCode w operation = none) :
    (w.modem operation.modem).live = true ∧
      (w.messaging operation.modem).messagingGeneration = operation.messagingGeneration ∧
      (w.messaging operation.modem).messaging = some operation.messaging := by
  simp only [smsOperationStaleCode] at h
  split at h
  · cases h
  rename_i hlive
  split at h
  · cases h
  split at h
  · cases h
  · rename_i hm
    simp only [not_or,ne_eq,Decidable.not_not] at hm
    exact ⟨by simpa using hlive,hm⟩

theorem Completes.recorded (h : Completes w w' op operation)
    (ho : w.operations op = some operation) (hnext : op < w.next) (hw : Recorded sha256 w) :
    Recorded sha256 w' := by
  have he := h.evolves
  obtain ⟨later,htrace,hlater,-⟩ := h.settle.later
  obtain ⟨hkeys,hdedupe⟩ := h.settle.dedupe (hw.keys operation.modem)
  have hsplit : ∀ o ∈ w'.trace, Ending w op operation o ∨ o ∈ w.trace := by
    intro o ho
    rw [htrace] at ho
    exact (List.mem_append.mp ho).imp_left (hlater o)
  refine hw.evolve he (fun A ref epoch token t hm => ?_) (fun A hm => ?_)
    (fun A ref epoch token t hm => ?_)
    (fun hlt => absurd hlt (by rw [h.next]; exact Nat.lt_irrefl _)) (fun ref => ?_)
    fun ref e hm => ?_
  · rcases hsplit _ hm with hm | hm
    · cases hm with
      | closing hc => cases hc
      | stored => exact .inr rfl
    · exact .inl hm
  · rcases hsplit _ hm with hm | hm
    · cases hm with
      | closing hc =>
        cases hc
        exact .inr ⟨by rw [h.next]; exact hnext,by simp [h.operations]⟩
    · exact .inl hm
  · rcases hsplit _ hm with hm | hm
    · cases hm with
      | closing hc => cases hc
    · exact .inl hm
  · by_cases hr : ref = operation.modem
    · rw [hr]
      exact hkeys
    · rw [h.others ref hr]
      exact hw.keys ref
  · by_cases hr : ref = operation.modem
    · subst hr
      rw [h.epoch]
      rcases hdedupe e hm with hm | ⟨htoken,hdigest,hcurrent⟩
      · exact (hw.known _ e hm).mono he.trace
      · rw [hdigest,(smsOperationStaleCode_current hcurrent).2.1]
        exact ((hw.started op operation e.key ho htoken).2).mono he.trace
    · rw [h.others ref hr] at hm ⊢
      exact (hw.known ref e hm).mono he.trace

theorem Dispatches.recorded (h : Dispatches w w' op operation)
    (ho : w.operations op = some operation) (hnext : op < w.next)
    (htoken : operation.clientToken.isSome = true) (hw : Recorded sha256 w) :
    Recorded sha256 w' := by
  have he := h.evolves ho
  obtain ⟨token,ht⟩ := Option.isSome_iff_exists.mp htoken
  have htrace := h.trace
  rw [ht] at htrace
  refine hw.evolve he (fun A ref epoch token t hm => .inl (by simpa [htrace] using hm))
    (fun A hm => .inl (by simpa [htrace] using hm)) (fun A ref epoch token' t hm => ?_)
    (fun hlt => absurd hlt (by rw [h.next]; exact Nat.lt_irrefl _))
    (fun ref => by rw [h.messaging]; exact hw.keys ref) fun ref e hm => ?_
  · rw [htrace] at hm
    rcases List.mem_cons.mp hm with hm | hm
    · right
      simp only [Option.getD_some,Observation.sent.injEq] at hm
      obtain ⟨rfl,rfl,rfl,rfl,-⟩ := hm
      obtain ⟨t,hstored⟩ := (hw.started A operation token' ho ht).1
      obtain ⟨sending,hops,hid⟩ := h.operations
      simp only [SmsOperation.identity,SmsOperation.mk.injEq] at hid
      obtain ⟨-,h₁,-,-,-,-,-,h₂,-,h₃,-,-,-,h₅,-⟩ := hid
      refine ⟨by rw [h.next]; exact hnext,?_,⟨t,he.trace hstored⟩,
        .inr ⟨sending,by simp [hops],h₁,h₂,h₃.trans ht,h₅⟩⟩
      rw [h.messaging,(smsOperationStaleCode_current h.current).2.1]
    · exact .inl hm
  · rw [h.messaging] at hm ⊢
    exact (hw.known ref e hm).mono he.trace

theorem StartsSend.recorded {token recipient text : CString}
    (h : StartsSend sha256 w w' operation token recipient text) (hp : Pending w none)
    (hw : Recorded sha256 w) : Recorded sha256 w' := by
  have hsub : w.trace ⊆ w'.trace := by
    rw [h.trace]
    intro o ho
    simp [ho]
  have he := h.toStarts.evolves hp hsub
  have hpruned := (hw.keys operation.modem).sublist (keys_prune w.bridge.now)
  obtain ⟨result,hdigest,hdedupe⟩ := h.dedupe
  have hself : w'.operations w.next = some operation := by simp [h.operations]
  have hknown : Known sha256 w'.trace operation.modem operation.messagingGeneration token
      operation.requestDigest :=
    ⟨w.next,recipient,text,w.bridge.now,by simp [h.trace],h.valid,h.digest⟩
  have hsplit : ∀ o ∈ w'.trace, o = .created w.next operation.modem
      operation.messagingGeneration token recipient text w.bridge.now ∨
      o = .stored w.next operation.modem operation.messagingGeneration token w.bridge.now ∨
      (∃ epoch key, o = .evicted operation.modem epoch key) ∨ o ∈ w.trace := by
    intro o ho
    rw [h.trace] at ho
    simp only [List.mem_cons,List.mem_append] at ho
    rcases ho with ho | ho | ho | ho
    · exact .inl ho
    · exact .inr (.inl ho)
    · exact .inr (.inr (.inl (mem_evictions ho)))
    · exact .inr (.inr (.inr ho))
  refine hw.evolve he (fun A ref epoch token t hm => ?_) (fun A hm => ?_)
    (fun A ref epoch token t hm => ?_) (fun _ o token' ho ht => ?_) (fun ref => ?_)
    fun ref e hm => ?_
  · rcases hsplit _ hm with hm | hm | ⟨_,_,hm⟩ | hm
    · cases hm
    · cases hm
      exact .inr rfl
    · cases hm
    · exact .inl hm
  · rcases hsplit _ hm with hm | hm | ⟨_,_,hm⟩ | hm
    · cases hm
    · cases hm
    · cases hm
    · exact .inl hm
  · rcases hsplit _ hm with hm | hm | ⟨_,_,hm⟩ | hm
    · cases hm
    · cases hm
    · cases hm
    · exact .inl hm
  · rw [hself,Option.some.injEq] at ho
    subst ho
    rw [h.clientToken,Option.some.injEq] at ht
    subst ht
    exact ⟨⟨w.bridge.now,by simp [h.trace]⟩,hknown⟩
  · by_cases hr : ref = operation.modem
    · rw [hr,hdedupe]
      exact keys_put hpruned
    · rw [h.others ref hr]
      exact hw.keys ref
  · by_cases hr : ref = operation.modem
    · subst hr
      rw [hdedupe] at hm
      rw [h.epoch]
      rcases mem_put hm with rfl | ⟨hm,-⟩
      · rw [hdigest,← h.messagingGeneration]
        exact hknown
      · exact (hw.known _ e (mem_prune.mp hm).1).mono hsub
    · rw [h.others ref hr] at hm ⊢
      exact (hw.known ref e hm).mono hsub

theorem StartsDelete.recorded {path : CString} (h : StartsDelete w w' operation path)
    (hp : Pending w none) (hw : Recorded sha256 w) : Recorded sha256 w' := by
  obtain ⟨smsId,htrace⟩ := h.trace
  have hsub : w.trace ⊆ w'.trace := by
    rw [htrace]
    exact List.subset_cons_self _ _
  have he := h.toStarts.evolves hp hsub
  have hdedupe : ∀ ref, (w'.messaging ref).smsDedupe = (w.messaging ref).smsDedupe := by
    intro ref
    by_cases hr : ref = operation.modem
    · rw [hr,h.dedupe]
    · rw [h.others ref hr]
  refine hw.evolve he (fun A ref epoch token t hm => .inl (by simpa [htrace] using hm))
    (fun A hm => .inl (by simpa [htrace] using hm))
    (fun A ref epoch token t hm => .inl (by simpa [htrace] using hm))
    (fun _ o token ho ht => ?_) (fun ref => by rw [hdedupe]; exact hw.keys ref)
    fun ref e hm => ?_
  · simp only [h.operations,Function.update_self,Option.some.injEq] at ho
    subst ho
    rw [h.clientToken] at ht
    cases ht
  · rw [hdedupe] at hm
    have h₁ := (hw.known ref e hm).mono hsub
    by_cases hr : ref = operation.modem
    · rw [hr,h.epoch,← hr]
      exact h₁
    · rw [h.others ref hr]
      exact h₁

theorem Messaging.changeEpoch_smsDedupe (m : Messaging) (object : Option Nat) :
    (m.changeEpoch object).smsDedupe = [] := by
  simp only [Messaging.changeEpoch]
  split
  · rfl
  · split
    · rfl
    · rfl

theorem changeEpoch_evolves (w : World) (ref : ModemRef) (object : Option Nat) :
    Evolves w (w.updateMessaging ref ((w.messaging ref).changeEpoch object)) := by
  refine {Evolves.refl w with epoch := fun other => ?_}
  by_cases ho : other = ref
  · subst ho
    simp only [updateMessaging,Function.update_self]
    rcases Messaging.changeEpoch_cases (w.messaging other) object with h₁ | ⟨h₁,-⟩
    · rw [h₁]
      exact Nat.le_succ _
    · rw [h₁]
  · simp [updateMessaging,ho]

theorem changeEpoch_recorded (ref : ModemRef) (object : Option Nat) (hw : Recorded sha256 w) :
    Recorded sha256 (w.updateMessaging ref ((w.messaging ref).changeEpoch object)) := by
  refine hw.evolve (changeEpoch_evolves w ref object) (fun _ _ _ _ _ hm => .inl hm)
    (fun _ hm => .inl hm) (fun _ _ _ _ _ hm => .inl hm)
    (fun hlt => absurd hlt (Nat.lt_irrefl _)) (fun other => ?_) fun other e hm => ?_
  · by_cases ho : other = ref
    · subst ho
      simp [updateMessaging,Messaging.changeEpoch_smsDedupe,Keys]
    · simpa [updateMessaging,ho] using hw.keys other
  · by_cases ho : other = ref
    · subst ho
      simp [updateMessaging,Messaging.changeEpoch_smsDedupe] at hm
    · simp only [updateMessaging,Function.update_of_ne ho] at hm ⊢
      exact hw.known other e hm

theorem Pending.lt_next {idle : Option OperationRef} (h : Pending w idle)
    (ho : w.operations op = some operation) : op < w.next := by
  by_contra hlt
  rw [h.fresh op (Nat.le_of_not_lt hlt)] at ho
  cases ho

/-- The record does not depend on the modems and the calls. -/
theorem Recorded.other (hw : Recorded sha256 w) (admitted : ModemRef)
    (modems : ModemRef → Modem) (calls : List Call) :
    Recorded sha256 {w with
      admitted := admitted,calls := calls,bridge := {w.bridge with modems := modems}} :=
  ⟨hw.clock,hw.stored,hw.released,fun A ref epoch token t hm =>
    (hw.sent A ref epoch token t hm).evolve {Evolves.refl w with},hw.started,hw.keys,hw.known⟩

theorem Effect.recorded {event : Event} (h : Effect sha256 w w' event) (hp : Pending w none)
    (hh : Holding w) (hw : Recorded sha256 w) : Recorded sha256 w' := by
  have hanswer : ∀ index, Recorded sha256 (w.answer index) := fun index => hw.other _ _ _
  cases h with
  | passive h => exact h.recorded hw
  | listed hcall h => exact h.recorded (hanswer _)
  | completed hcall hop h ho h' =>
    exact h'.recorded ho ((h.pending (hp.answer hcall)).lt_next ho) (h.recorded (hanswer _))
  | dispatched hcall h ho h' =>
    have htoken := ((h.holding (hh.answer _)).holds _ _ ho).token.mp
      (hp.created_operation hcall h ho).1
    exact h'.recorded ho ((h.pending (hp.answer hcall)).lt_next ho) htoken
      (h.recorded (hanswer _))
  | startedSend h h' => exact h'.recorded (h.pending hp) (h.recorded hw)
  | startedDelete h => exact h.recorded hp hw
  | @epochChanged ref forceEpoch object w₁ hlive hchanged h hm h' =>
    have h₁ := changeEpoch_recorded ref object (h.recorded hw)
    rw [hm] at h₁
    exact h'.recorded h₁
  | admitted h =>
    subst h
    exact hw.other _ _ _
  | @removed ref w₁ _ h h' =>
    subst h'
    have h₁ := (h.recorded hw).other w₁.admitted
      (w.bridge.updateModem ref (w.modem ref).modemMarkRemoved).modems w₁.calls
    rw [h.bridge] at h₁
    exact h₁

/-- Between two events the clock may move on. -/
theorem Recorded.refresh (hw : Recorded sha256 w) {bridge : Bridge}
    (hclock : w.bridge.now ≤ bridge.now ∧ bridge.now < int64Max) :
    Recorded sha256 (w.refresh bridge) := by
  refine ⟨⟨Int.le_trans hw.clock.1 hclock.1,hclock.2⟩,fun A ref epoch token t hm => ?_,hw.released,
    fun A ref epoch token t hm => ?_,hw.started,hw.keys,hw.known⟩
  · obtain ⟨h₁,h₂⟩ := hw.stored A ref epoch token t hm
    exact ⟨h₁,Int.le_trans h₂ hclock.1⟩
  · obtain ⟨h₁,h₂,h₃,h₄⟩ := hw.sent A ref epoch token t hm
    exact ⟨h₁,h₂,h₃,h₄⟩

theorem Initial.recorded (h : Initial w) : Recorded sha256 w := by
  refine ⟨h.clock,fun _ _ _ _ _ hm => ?_,fun _ hm => ?_,fun _ _ _ _ _ hm => ?_,
    fun op o _ ho => ?_,fun ref => ?_,fun ref e hm => ?_⟩
  · rw [h.trace] at hm
    cases hm
  · rw [h.trace] at hm
    cases hm
  · rw [h.trace] at hm
    cases hm
  · rw [h.operations] at ho
    cases ho
  · rw [h.messaging]
    exact List.nodup_nil
  · rw [h.messaging] at hm
    cases hm

end Sms
end L850GL
