import L850GL.Lib.Trace
import L850GL.Sms.Tokens

/-! A token's message reaches ModemManager again only when its earlier attempt has ended and has
failed, has outlived its entry or has been evicted. -/
namespace L850GL
namespace Sms

open Errors Messaging Mutation World ExpiringQueue

variable {w w' w₁ : World} {ref : ModemRef} {op A C : OperationRef} {epoch : Nat}
  {token : CString} {operation : SmsOperation} {sha256 : CString → Digest} {now now' : Int}
  {τ later : List Observation}

/-- The attempt `A` under a token is over, with a definite failure, with its last result stored
300 s ago, or with that result evicted. -/
def Repeatable (τ : List Observation) (A : OperationRef) (ref : ModemRef) (epoch : Nat)
    (token : CString) (now : Int) : Prop :=
  .released A ∈ τ ∧
    ((∃ code retryable, .failed A code retryable ∈ τ ∧ code ≠ "outcome_unknown") ∨
      (∀ t, .stored A ref epoch token t ∈ τ → t+dedupeWindow ≤ now) ∨
      ∃ later earlier, τ = later++.evicted ref epoch token::earlier ∧
        (∃ t, .stored A ref epoch token t ∈ earlier) ∧
        ∀ t, .stored A ref epoch token t ∉ later)

/-- The reason for a message that goes to `Messaging.Create` or to `Sms.Send`. -/
def AtMostOnce (past : List Observation) : Observation → Prop
  | .created _ ref epoch token _ _ now =>
    ∀ A t, .sent A ref epoch token t ∈ past → Repeatable past A ref epoch token now
  | .sent C ref epoch token now =>
    ∀ A t, .sent A ref epoch token t ∈ past → A ≠ C ∧ Repeatable past A ref epoch token now
  | _ => True

theorem Repeatable.append {l : List Observation} (h : Repeatable τ A ref epoch token now)
    (hl : ∀ t, .stored A ref epoch token t ∉ l) (hnow : now ≤ now') :
    Repeatable (l++τ) A ref epoch token now' := by
  obtain ⟨hreleased,h⟩ := h
  refine ⟨List.mem_append_right _ hreleased,?_⟩
  rcases h with ⟨code,retryable,hf,hc⟩ | h | ⟨l',earlier,rfl,hs,hn⟩
  · exact .inl ⟨code,retryable,List.mem_append_right _ hf,hc⟩
  · refine .inr (.inl fun t ht => ?_)
    have h₁ := h t ((List.mem_append.mp ht).resolve_left (hl t))
    omega
  · refine .inr (.inr ⟨l++l',earlier,by simp,hs,fun t ht => ?_⟩)
    exact (List.mem_append.mp ht).elim (hl t) (hn t)

theorem Repeatable.of_evicted {mid rest : List Observation} (hreleased : .released A ∈ rest)
    (hm : .evicted ref epoch token ∈ mid) (hl : ∀ t, .stored A ref epoch token t ∉ later)
    (hmid : ∀ t, .stored A ref epoch token t ∉ mid)
    (hs : ∃ t, .stored A ref epoch token t ∈ rest) :
    Repeatable (later++(mid++rest)) A ref epoch token now := by
  obtain ⟨l,r,rfl⟩ := List.append_of_mem hm
  refine ⟨by simp [hreleased],.inr (.inr ⟨later++l,r++rest,by simp,?_,fun t ht => ?_⟩)⟩
  · obtain ⟨t,ht⟩ := hs
    exact ⟨t,List.mem_append_right _ ht⟩
  · rcases List.mem_append.mp ht with ht | ht
    · exact hl t ht
    · exact hmid t (List.mem_append_left _ ht)

/-- A token with an attempt that is over: it may be repeated, or the cache still answers it. -/
def Guarded (w : World) (A : OperationRef) (ref : ModemRef) (epoch : Nat) (token : CString) :
    Prop :=
  Repeatable w.trace A ref epoch token w.bridge.now ∨
    ∃ e ∈ (w.messaging ref).smsDedupe, e.key = token ∧
      ∀ t, .stored A ref epoch token t ∈ w.trace → l850glSmsDedupeExpiry t ≤ e.expiresAt

structure Settled (w : World) : Prop where
  closed : ∀ A ref epoch token t, .sent A ref epoch token t ∈ w.trace →
    epoch = (w.messaging ref).messagingGeneration → (w.modem ref).live = true →
    (w.messaging ref).messaging.isSome = true → w.operations A = none →
    Guarded w A ref epoch token
  inflight : ∀ C o, w.operations C = some o → ∀ A epoch token t,
    .sent A o.modem epoch token t ∈ w.trace → A ≠ C → epoch ≤ o.messagingGeneration ∧
      (epoch = o.messagingGeneration → o.clientToken = some token →
        Repeatable w.trace A o.modem epoch token w.bridge.now)
  justified : Justified AtMostOnce w.trace

theorem Recorded.expired (hw : Recorded sha256 w) (hreleased : .released A ∈ w.trace)
    {e : SmsDedupe} (he : ¬w.bridge.now < e.expiresAt)
    (hs : ∀ t, .stored A ref epoch token t ∈ w.trace → l850glSmsDedupeExpiry t ≤ e.expiresAt) :
    Repeatable w.trace A ref epoch token w.bridge.now := by
  refine ⟨hreleased,.inr (.inl fun t ht => ?_)⟩
  have h₁ := hs t ht
  exact l850glSmsDedupeExpiry_le (hw.stored A ref epoch token t ht).1 hw.clock.2 (by omega)

theorem Recorded.sent_released (hw : Recorded sha256 w) {t : Int}
    (hm : .sent A ref epoch token t ∈ w.trace) (hn : w.operations A = none) :
    .released A ∈ w.trace := by
  rcases (hw.sent A ref epoch token t hm).flight with h | ⟨o,ho,-⟩
  · exact h.2
  · rw [hn] at ho
    cases ho

/-- An attempt stays guarded while it stores nothing and its entry stays, expires, or gives way
to a reason. -/
theorem Guarded.transport (h : Guarded w A ref epoch token) (htrace : w'.trace = later++w.trace)
    (hl : ∀ t, .stored A ref epoch token t ∉ later) (hnow : w'.bridge.now = w.bridge.now)
    (hentry : ∀ e ∈ (w.messaging ref).smsDedupe, e.key = token →
      (∀ t, .stored A ref epoch token t ∈ w.trace → l850glSmsDedupeExpiry t ≤ e.expiresAt) →
      Repeatable w'.trace A ref epoch token w'.bridge.now ∨ e ∈ (w'.messaging ref).smsDedupe) :
    Guarded w' A ref epoch token := by
  rcases h with h | ⟨e,he,hk,hs⟩
  · left
    rw [htrace,hnow]
    exact h.append hl (Int.le_refl _)
  · rcases hentry e he hk hs with h | h
    · exact .inl h
    · refine .inr ⟨e,h,hk,fun t ht => hs t ?_⟩
      rw [htrace] at ht
      exact (List.mem_append.mp ht).resolve_left (hl t)

theorem Passive.settled (h : Passive w w') (hr : Recorded sha256 w) (hw : Settled w) :
    Settled w' := by
  obtain ⟨later,htrace,hlater⟩ := h.trace
  have hlisted : ∀ o, (∀ ref epoch, o ≠ .listed ref epoch) → o ∉ later := by
    intro o hne ho
    obtain ⟨ref,hr⟩ := hlater o ho
    exact hne _ _ hr
  have hsent : ∀ {A ref epoch token t}, .sent A ref epoch token t ∈ w'.trace →
      .sent A ref epoch token t ∈ w.trace := by
    intro A ref epoch token t hm
    rw [htrace] at hm
    exact (List.mem_append.mp hm).resolve_left (hlisted _ (by simp))
  refine ⟨fun A ref epoch token t hm he hl hmsg hn => ?_,fun C o' ho' A epoch token t hm hne => ?_,
    ?_⟩
  · have hn' : w.operations A = none := by
      have h₁ := h.operations_isSome A
      rw [hn] at h₁
      simpa using h₁.symm
    rw [(h.messaging ref).epoch] at he
    rw [(h.messaging ref).messaging] at hmsg
    rw [World.modem,h.bridge] at hl
    refine (hw.closed A ref epoch token t (hsent hm) he hl hmsg hn').transport htrace
      (fun t => hlisted _ (by simp)) (by rw [h.bridge]) fun e hmem hk hs => ?_
    by_cases hexp : w.bridge.now < e.expiresAt
    · right
      rcases (h.messaging ref).dedupe with hd | hd
      · exact hd ▸ hmem
      · exact hd ▸ mem_prune.mpr ⟨hmem,hexp⟩
    · left
      have h₁ := hr.expired (hr.sent_released (hsent hm) hn') hexp hs
      rw [htrace,h.bridge]
      exact h₁.append (fun t => hlisted _ (by simp)) (Int.le_refl _)
  · obtain ⟨o,ho,hid⟩ := h.exists_operation ho'
    have hsame := SmsOperation.Same.of_identity hid
    rw [hsame.modem] at hm ⊢
    rw [hsame.messagingGeneration,hsame.clientToken]
    obtain ⟨h₁,h₂⟩ := hw.inflight C o ho A epoch token t (hsent hm) hne
    refine ⟨h₁,fun he ht => ?_⟩
    rw [htrace,h.bridge]
    exact (h₂ he ht).append (fun t => hlisted _ (by simp)) (Int.le_refl _)
  · rw [htrace]
    refine hw.justified.append fun o ho past => ?_
    obtain ⟨ref,rfl⟩ := hlater o ho
    trivial

theorem mem_put_or_evicted (entry : SmsDedupe) {m : Messaging} {e : SmsDedupe}
    (he : e ∈ prune now m.smsDedupe) (hk : e.key ≠ entry.key) :
    e ∈ put l850glSmsDedupeMax (prune now m.smsDedupe) entry ∨
      .evicted ref m.messagingGeneration e.key ∈ evictions ref m now entry.key := by
  by_cases hev : find (prune now m.smsDedupe) entry.key = none ∧
      e ∈ evicted l850glSmsDedupeMax (prune now m.smsDedupe)
  · right
    simp only [evictions,hev.1]
    exact List.mem_map_of_mem hev.2
  · left
    exact mem_put_of_mem he hk fun hn hm => hev ⟨hn,hm⟩

theorem Holds.current (h : Holds w op operation)
    (he : operation.messagingGeneration = (w.messaging operation.modem).messagingGeneration)
    (hl : (w.modem operation.modem).live = true)
    (hm : (w.messaging operation.modem).messaging.isSome = true) :
    smsOperationStaleCode w operation = none := by
  have hsource : (w.messaging operation.modem).messaging = some operation.messaging := by
    rcases h.source he with h₁ | h₁
    · rw [h₁] at hm
      cases hm
    · exact h₁
  simp [smsOperationStaleCode,hl,h.generation,he,hsource]

theorem Completes.closed_self (h : Completes w w' op operation) (hh : Holds w op operation)
    (hr : Recorded sha256 w) (ht : operation.clientToken = some token)
    (hcurrent : smsOperationStaleCode w operation = none) :
    Guarded w' op operation.modem operation.messagingGeneration token := by
  have hsend : operation.type = .send := hh.token.mpr (by simp [ht])
  obtain ⟨later,htrace,hlater,-⟩ := h.settle.later
  cases h.settle with
  | silent _ _ _ _ _ hreason =>
    rcases hreason with h₁ | h₁ | h₁
    · rw [hsend] at h₁
      cases h₁
    · rw [ht] at h₁
      cases h₁
    · exact absurd hcurrent h₁
  | removed l token' code retryable htrace' _ hreleased hfailed _ _ hreason =>
    left
    rw [htrace']
    exact ⟨List.mem_append_left _ hreleased,.inl ⟨code,retryable,List.mem_append_left _ hfailed,
      hreason.resolve_right fun hs => hs hcurrent⟩⟩
  | stored l first token' result _ _ _ _ htoken _ _ hdedupe =>
    rw [ht,Option.some.injEq] at htoken
    subst htoken
    refine .inr ⟨_,hdedupe ▸ put_self_mem,rfl,fun t hm => ?_⟩
    rw [htrace] at hm
    rcases List.mem_append.mp hm with hm | hm
    · exact Int.le_of_eq (by rw [(hlater _ hm).of_stored.2])
    · obtain ⟨h₁,h₂⟩ := hr.stored _ _ _ _ _ hm
      exact l850glSmsDedupeExpiry_mono h₁ h₂

/-- The attempts that ended before, on the record of a completed operation. -/
theorem Completes.closed_other (h : Completes w w' op operation) (hr : Recorded sha256 w)
    (hne : A ≠ op) {t : Int}
    (hm : .sent A operation.modem epoch token t ∈ w.trace) (hn : w.operations A = none)
    (hsame : operation.clientToken = some token →
      Repeatable w.trace A operation.modem epoch token w.bridge.now)
    (he : epoch = (w.messaging operation.modem).messagingGeneration)
    (hg : Guarded w A operation.modem epoch token) :
    Guarded w' A operation.modem epoch token := by
  have hnow : w'.bridge.now = w.bridge.now := by
    rw [h.bridge]
    rfl
  obtain ⟨later,htrace,hlater,-⟩ := h.settle.later
  have hl : ∀ t, .stored A operation.modem epoch token t ∉ later := by
    intro t ht
    exact hne (hlater _ ht).of_stored.1
  have hreleased := hr.sent_released hm hn
  refine hg.transport htrace hl hnow fun e hmem hk hs => ?_
  have hkeep : Repeatable w.trace A operation.modem epoch token w.bridge.now →
      Repeatable w'.trace A operation.modem epoch token w'.bridge.now := by
    intro h₁
    rw [htrace,hnow]
    exact h₁.append hl (Int.le_refl _)
  by_cases hexp : w.bridge.now < e.expiresAt
  · have hp := mem_prune.mpr ⟨hmem,hexp⟩
    have hnodup := (hr.keys operation.modem).sublist (keys_prune w.bridge.now)
    cases h.settle with
    | silent _ _ _ _ hdedupe => exact .inr (hdedupe ▸ hmem)
    | removed _ token' _ _ _ _ _ _ htoken hdedupe =>
      by_cases htok : token' = token
      · exact .inl (hkeep (hsame (htok ▸ htoken)))
      · right
        rw [hdedupe]
        exact (mem_remove hnodup).mpr ⟨hp,fun h₁ => htok (h₁.symm.trans hk)⟩
    | stored l first token' result htrace' hl' hfirst _ htoken _ _ hdedupe =>
      by_cases htok : token' = token
      · exact .inl (hkeep (hsame (htok ▸ htoken)))
      rcases mem_put_or_evicted
        ⟨token',result,l850glSmsDedupeExpiry w.bridge.now⟩ hp
        (fun h₁ => htok (h₁.symm.trans hk)) with h₁ | h₁
      · exact .inr (hdedupe ▸ h₁)
      · left
        rw [hk,← he] at h₁
        rw [htrace',List.append_cons]
        refine Repeatable.of_evicted (List.mem_cons_of_mem _ hreleased) h₁ (fun t ht => ?_)
          (fun t ht => ?_) ?_
        · simp only [List.mem_append,List.mem_singleton,Observation.stored.injEq] at ht
          rcases ht with ht | ht
          · cases hl' _ ht
          · exact hne ht.1
        · obtain ⟨_,_,ho⟩ := mem_evictions ht
          cases ho
        · obtain ⟨t,ht⟩ := (hr.sent A _ _ _ _ hm).stored
          exact ⟨t,List.mem_cons_of_mem _ ht⟩
  · exact .inl (hkeep (hr.expired hreleased hexp hs))

theorem Completes.settled (h : Completes w w' op operation)
    (ho : w.operations op = some operation) (hh : Holding w) (hr : Recorded sha256 w)
    (hw : Settled w) : Settled w' := by
  have hholds := hh.holds op operation ho
  obtain ⟨later,htrace,hlater,-⟩ := h.settle.later
  have hnow : w'.bridge.now = w.bridge.now := by
    rw [h.bridge]
    rfl
  have hsent : ∀ {A ref epoch token t}, .sent A ref epoch token t ∈ w'.trace →
      .sent A ref epoch token t ∈ w.trace := by
    intro A ref epoch token t hm
    rw [htrace] at hm
    refine (List.mem_append.mp hm).resolve_left fun ho => ?_
    cases hlater _ ho with
    | closing hc => cases hc
  have hstored : ∀ {A ref epoch token t}, A ≠ op → .stored A ref epoch token t ∉ later := by
    intro A ref epoch token t hne ho
    exact hne (hlater _ ho).of_stored.1
  have hlive : ∀ ref, (w'.modem ref).live = true → (w.modem ref).live = true := by
    intro ref hl
    rw [World.modem,h.bridge] at hl
    by_cases he : ref = operation.modem
    · subst he
      rw [Bridge.updateModem_self,releaseModem_live] at hl
      exact hl
    · rw [Bridge.updateModem_other _ _ he] at hl
      exact hl
  refine ⟨fun A ref epoch token t hm he hl hmsg hn => ?_,fun C o ho' A epoch token t hm hne => ?_,
    ?_⟩
  · have hm := hsent hm
    have hl := hlive ref hl
    by_cases hA : A = op
    · subst hA
      rcases (hr.sent A ref epoch token t hm).flight with ⟨h₁,-⟩ | ⟨o,h₁,hmod,hep,htok,-⟩
      · rw [ho] at h₁
        cases h₁
      · rw [ho,Option.some.injEq] at h₁
        subst h₁
        subst hmod
        subst hep
        rw [h.epoch] at he
        rw [h.messaging] at hmsg
        exact h.closed_self hholds hr htok (hholds.current he hl hmsg)
    · have hn' : w.operations A = none := by simpa [h.operations,hA] using hn
      by_cases hre : ref = operation.modem
      · subst hre
        rw [h.epoch] at he
        rw [h.messaging] at hmsg
        obtain ⟨h₁,h₂⟩ := hw.inflight op operation ho A epoch token t hm hA
        have h₃ := hholds.epoch
        exact h.closed_other hr hA hm hn' (fun ht => h₂ (by omega) ht) he
          (hw.closed A _ epoch token t hm he hl hmsg hn')
      · rw [h.others ref hre] at he hmsg
        refine (hw.closed A ref epoch token t hm he hl hmsg hn').transport htrace
          (fun t => hstored hA) hnow fun e hmem _ _ => .inr ?_
        rw [h.others ref hre]
        exact hmem
  · rw [h.operations] at ho'
    by_cases hC : C = op
    · simp [hC] at ho'
    have ho₁ : w.operations C = some o := by simpa [hC] using ho'
    have hA : A ≠ op := by
      intro hA
      subst hA
      rcases (hr.sent A _ _ _ _ (hsent hm)).flight with ⟨h₁,-⟩ | ⟨o',h₁,hmod,-⟩
      · rw [ho] at h₁
        cases h₁
      · rw [ho,Option.some.injEq] at h₁
        subst h₁
        exact hne (hholds.unique (hh.holds C o ho₁) hmod)
    obtain ⟨h₁,h₂⟩ := hw.inflight C o ho₁ A epoch token t (hsent hm) hne
    refine ⟨h₁,fun he ht => ?_⟩
    rw [htrace,hnow]
    exact (h₂ he ht).append (fun t => hstored hA) (Int.le_refl _)
  · rw [htrace]
    refine hw.justified.append fun o ho past => ?_
    cases hlater o ho with
    | closing hc => cases hc <;> trivial
    | stored => trivial
    | evicted => trivial

theorem Dispatches.settled (h : Dispatches w w' op operation)
    (ho : w.operations op = some operation) (hundispatched : operation.sendDispatched = false)
    (htoken : operation.clientToken.isSome = true) (hh : Holding w) (hr : Recorded sha256 w)
    (hw : Settled w) : Settled w' := by
  have hnow : w'.bridge.now = w.bridge.now := by rw [h.bridge]
  obtain ⟨token,ht⟩ := Option.isSome_iff_exists.mp htoken
  have htrace := h.trace
  rw [ht,Option.getD_some] at htrace
  have htrace' : w'.trace = [.sent op operation.modem operation.messagingGeneration token
      w.bridge.now]++w.trace := htrace
  obtain ⟨sending,hops,hid⟩ := h.operations
  have hunsent : ∀ {ref epoch token t}, .sent op ref epoch token t ∉ w.trace := by
    intro ref epoch token t hm
    rcases (hr.sent op ref epoch token t hm).flight with ⟨h₁,-⟩ | ⟨o,h₁,-,-,-,hd⟩
    · rw [ho] at h₁
      cases h₁
    · rw [ho,Option.some.injEq] at h₁
      subst h₁
      rw [hundispatched] at hd
      cases hd
  have hcontinues : ∀ C o', w'.operations C = some o' →
      ∃ o, w.operations C = some o ∧ Continues o o' := by
    intro C o' ho'
    rcases (h.evolves ho).origin C o' ho' with h₁ | ⟨-,h₁⟩
    · exact h₁
    · rw [h.next] at h₁
      exact absurd h₁ (Nat.lt_irrefl _)
  refine ⟨fun A ref epoch token' t hm he hl hmsg hn => ?_,
    fun C o' ho' A epoch token' t hm hne => ?_,?_⟩
  · rw [h.messaging] at he hmsg
    rw [World.modem,h.bridge] at hl
    rw [hops] at hn
    have hA : A ≠ op := by
      intro hA
      simp [hA] at hn
    rw [htrace] at hm
    have hm : .sent A ref epoch token' t ∈ w.trace := by
      refine (List.mem_cons.mp hm).resolve_left fun h₁ => ?_
      simp only [Observation.sent.injEq] at h₁
      exact hA h₁.1
    refine (hw.closed A ref epoch token' t hm he hl hmsg (by simpa [hA] using hn)).transport
      htrace' (fun t => by simp) hnow fun e hmem _ _ => .inr ?_
    rw [h.messaging]
    exact hmem
  · obtain ⟨o,ho₁,hc⟩ := hcontinues C o' ho'
    rw [hc.modem] at hm ⊢
    rw [hc.epoch,hc.token]
    rw [htrace] at hm
    have hm : .sent A o.modem epoch token' t ∈ w.trace := by
      refine (List.mem_cons.mp hm).resolve_left fun h₁ => ?_
      simp only [Observation.sent.injEq] at h₁
      exact hne (h₁.1.trans ((hh.holds op operation ho).unique (hh.holds C o ho₁) h₁.2.1.symm))
    obtain ⟨h₁,h₂⟩ := hw.inflight C o ho₁ A epoch token' t hm hne
    refine ⟨h₁,fun he ht' => ?_⟩
    rw [htrace',hnow]
    exact (h₂ he ht').append (fun t => by simp) (Int.le_refl _)
  · rw [htrace]
    refine ⟨fun A t hm => ?_,hw.justified⟩
    have hA : A ≠ op := by
      intro hA
      subst hA
      exact hunsent hm
    exact ⟨hA,(hw.inflight op operation ho A _ token t hm hA).2 rfl ht⟩

/-- The attempts under the token of a new message are over and may be repeated. -/
theorem StartsSend.repeatable {recipient text : CString}
    (h : StartsSend sha256 w w' operation token recipient text) (hh : Holding w)
    (hr : Recorded sha256 w) (hw : Settled w) {t : Int}
    (hm : .sent A operation.modem operation.messagingGeneration token t ∈ w.trace) :
    Repeatable w.trace A operation.modem operation.messagingGeneration token w.bridge.now := by
  have hn : w.operations A = none := by
    rcases (hr.sent A _ _ _ _ hm).flight with ⟨h₁,-⟩ | ⟨o,h₁,hmod,-⟩
    · exact h₁
    · have h₂ := (hh.holds A o h₁).busy
      rw [hmod,h.idle] at h₂
      cases h₂
  have hlive : (w.modem operation.modem).live = true := by
    have h₁ := h.attested
    simp only [Modem.l850glModemAttestMutationTarget,Bool.and_eq_true] at h₁
    exact h₁.1.1
  rcases hw.closed A _ _ token t hm h.messagingGeneration hlive (by rw [h.source]; rfl) hn with
    h₁ | ⟨e,hmem,hk,hs⟩
  · exact h₁
  · refine hr.expired (hr.sent_released hm hn) (fun hexp => ?_) hs
    refine find_eq_none.mp h.unknown ?_
    rw [← hk]
    exact List.mem_map_of_mem (mem_prune.mpr ⟨hmem,hexp⟩)

theorem StartsSend.settled {recipient text : CString}
    (h : StartsSend sha256 w w' operation token recipient text) (hh : Holding w)
    (hr : Recorded sha256 w) (hw : Settled w) : Settled w' := by
  have hnow : w'.bridge.now = w.bridge.now := by
    rw [h.bridge]
    rfl
  have htrace : w'.trace = (.created w.next operation.modem operation.messagingGeneration token
      recipient text w.bridge.now::.stored w.next operation.modem operation.messagingGeneration
        token w.bridge.now::evictions operation.modem (w.messaging operation.modem) w.bridge.now
          token)++w.trace := by
    rw [h.trace]
    simp
  have hsent : ∀ {A ref epoch token t}, .sent A ref epoch token t ∈ w'.trace →
      .sent A ref epoch token t ∈ w.trace := by
    intro A ref epoch token' t hm
    rw [h.trace] at hm
    simp only [List.mem_cons,List.mem_append,reduceCtorEq,false_or] at hm
    refine hm.resolve_left fun ho => ?_
    obtain ⟨_,_,ho⟩ := mem_evictions ho
    cases ho
  have hstored : ∀ {A ref epoch token' t}, A ≠ w.next → .stored A ref epoch token' t ∉
      (.created w.next operation.modem operation.messagingGeneration token
      recipient text w.bridge.now::.stored w.next operation.modem operation.messagingGeneration
        token w.bridge.now::evictions operation.modem (w.messaging operation.modem) w.bridge.now
          token) := by
    intro A ref epoch token' t hne ho
    simp only [List.mem_cons,reduceCtorEq,false_or,Observation.stored.injEq] at ho
    rcases ho with ho | ho
    · exact hne ho.1
    · obtain ⟨_,_,ho⟩ := mem_evictions ho
      cases ho
  have hborn : ∀ {A ref epoch token t}, .sent A ref epoch token t ∈ w.trace → A ≠ w.next :=
    fun hm => Nat.ne_of_lt (hr.sent _ _ _ _ _ hm).born
  obtain ⟨result,-,hdedupe⟩ := h.dedupe
  refine ⟨fun A ref epoch token' t hm he hl hmsg hn => ?_,
    fun C o ho A epoch token' t hm hne => ?_,?_⟩
  · have hm := hsent hm
    have hA := hborn hm
    have hn' : w.operations A = none := by simpa [h.operations,hA] using hn
    by_cases hre : ref = operation.modem
    · subst hre
      rw [h.epoch] at he
      rw [h.messaging] at hmsg
      have hl : (w.modem operation.modem).live = true := by
        rw [World.modem,h.bridge,Bridge.updateModem_self] at hl
        exact hl
      have hkeep : ∀ {token'}, Repeatable w.trace A operation.modem epoch token' w.bridge.now →
          Repeatable w'.trace A operation.modem epoch token' w'.bridge.now := by
        intro token' h₁
        rw [htrace,hnow]
        exact h₁.append (fun t => hstored hA) (Int.le_refl _)
      refine (hw.closed A _ epoch token' t hm he hl hmsg hn').transport htrace
        (fun t => hstored hA) hnow fun e hmem hk hs => ?_
      by_cases htok : token' = token
      · subst htok
        rw [he,← h.messagingGeneration] at hm
        have h₁ := h.repeatable hh hr hw hm
        rw [h.messagingGeneration,← he] at h₁
        exact .inl (hkeep h₁)
      by_cases hexp : w.bridge.now < e.expiresAt
      · rcases mem_put_or_evicted
          ⟨token,result,l850glSmsDedupeExpiry w.bridge.now⟩
          (mem_prune.mpr ⟨hmem,hexp⟩) (fun h₁ => htok (hk.symm.trans h₁)) with h₁ | h₁
        · exact .inr (hdedupe ▸ h₁)
        · left
          rw [hk,← he] at h₁
          rw [h.trace,← List.singleton_append (l:=_::(_++_)),← List.singleton_append (l:=_++_),
            ← List.append_assoc]
          refine Repeatable.of_evicted (hr.sent_released hm hn') h₁ (fun t ht => ?_)
            (fun t ht => ?_) (hr.sent A _ _ _ _ hm).stored
          · simp only [List.mem_append,List.mem_singleton,reduceCtorEq,false_or,
              Observation.stored.injEq] at ht
            exact hA ht.1
          · obtain ⟨_,_,ho⟩ := mem_evictions ht
            cases ho
      · exact .inl (hkeep (hr.expired (hr.sent_released hm hn') hexp hs))
    · rw [h.others ref hre] at he hmsg
      rw [World.modem,h.bridge,Bridge.updateModem_other _ _ hre] at hl
      refine (hw.closed A ref epoch token' t hm he hl hmsg hn').transport htrace
        (fun t => hstored hA) hnow fun e hmem _ _ => .inr ?_
      rw [h.others ref hre]
      exact hmem
  · have hm := hsent hm
    have hA := hborn hm
    have happend : ∀ {ref token'}, Repeatable w.trace A ref epoch token' w.bridge.now →
        Repeatable w'.trace A ref epoch token' w'.bridge.now := by
      intro ref token' h₁
      rw [htrace,hnow]
      exact h₁.append (fun t => hstored hA) (Int.le_refl _)
    rw [h.operations] at ho
    by_cases hC : C = w.next
    · subst hC
      simp only [Function.update_self,Option.some.injEq] at ho
      subst ho
      refine ⟨?_,fun he ht => happend ?_⟩
      · rw [h.messagingGeneration]
        exact (hr.sent A _ _ _ _ hm).bound
      · rw [h.clientToken,Option.some.injEq] at ht
        subst ht
        subst he
        exact h.repeatable hh hr hw hm
    · obtain ⟨h₁,h₂⟩ := hw.inflight C o (by simpa [hC] using ho) A epoch token' t hm hne
      exact ⟨h₁,fun he ht => happend (h₂ he ht)⟩
  · rw [h.trace]
    refine ⟨fun A t hm => ?_,trivial,hw.justified.append fun o ho past => ?_⟩
    · simp only [List.mem_cons,List.mem_append,reduceCtorEq,false_or] at hm
      have hm : .sent A operation.modem operation.messagingGeneration token t ∈ w.trace := by
        refine hm.resolve_left fun ho => ?_
        obtain ⟨_,_,ho⟩ := mem_evictions ho
        cases ho
      refine Repeatable.append (l:=_::_) (h.repeatable hh hr hw hm) (fun t ht => ?_)
        (Int.le_refl _)
      exact hstored (hborn hm) (List.mem_cons_of_mem _ ht)
    · obtain ⟨_,_,rfl⟩ := mem_evictions ho
      trivial

theorem StartsDelete.settled {path : CString} (h : StartsDelete w w' operation path)
    (hr : Recorded sha256 w) (hw : Settled w) : Settled w' := by
  have hnow : w'.bridge.now = w.bridge.now := by
    rw [h.bridge]
    rfl
  obtain ⟨smsId,htrace⟩ := h.trace
  have htrace' : w'.trace = [.deleting w.next operation.modem operation.messagingGeneration smsId
      path]++w.trace := htrace
  have hsent : ∀ {A ref epoch token t}, .sent A ref epoch token t ∈ w'.trace →
      .sent A ref epoch token t ∈ w.trace := by
    intro A ref epoch token t hm
    simpa [htrace] using hm
  have hborn : ∀ {A ref epoch token t}, .sent A ref epoch token t ∈ w.trace → A ≠ w.next :=
    fun hm => Nat.ne_of_lt (hr.sent _ _ _ _ _ hm).born
  refine ⟨fun A ref epoch token t hm he hl hmsg hn => ?_,
    fun C o ho A epoch token t hm hne => ?_,?_⟩
  · have hm := hsent hm
    have hn' : w.operations A = none := by simpa [h.operations,hborn hm] using hn
    by_cases hre : ref = operation.modem
    · subst hre
      rw [h.epoch] at he
      rw [h.messaging] at hmsg
      have hl : (w.modem operation.modem).live = true := by
        rw [World.modem,h.bridge,Bridge.updateModem_self] at hl
        exact hl
      refine (hw.closed A _ epoch token t hm he hl hmsg hn').transport htrace' (fun t => by simp)
        hnow fun e hmem _ _ => .inr ?_
      rw [h.dedupe]
      exact hmem
    · rw [h.others ref hre] at he hmsg
      rw [World.modem,h.bridge,Bridge.updateModem_other _ _ hre] at hl
      refine (hw.closed A ref epoch token t hm he hl hmsg hn').transport htrace'
        (fun t => by simp) hnow fun e hmem _ _ => .inr ?_
      rw [h.others ref hre]
      exact hmem
  · have hm := hsent hm
    rw [h.operations] at ho
    by_cases hC : C = w.next
    · subst hC
      simp only [Function.update_self,Option.some.injEq] at ho
      subst ho
      refine ⟨?_,fun _ ht => ?_⟩
      · rw [h.messagingGeneration]
        exact (hr.sent A _ _ _ _ hm).bound
      · rw [h.clientToken] at ht
        cases ht
    · obtain ⟨h₁,h₂⟩ := hw.inflight C o (by simpa [hC] using ho) A epoch token t hm hne
      refine ⟨h₁,fun he ht => ?_⟩
      rw [htrace',hnow]
      exact (h₂ he ht).append (fun t => by simp) (Int.le_refl _)
  · rw [htrace]
    exact ⟨trivial,hw.justified⟩

/-- In a new epoch nothing was sent before, and without a messaging object nothing is promised. -/
theorem changeEpoch_settled (ref : ModemRef) (object : Option Nat)
    (hr : Recorded sha256 w) (hw : Settled w) :
    Settled (w.updateMessaging ref ((w.messaging ref).changeEpoch object)) := by
  refine ⟨fun A other epoch token t hm he hl hmsg hn => ?_,hw.inflight,hw.justified⟩
  by_cases ho : other = ref
  · subst ho
    simp only [updateMessaging,Function.update_self] at he hmsg
    have hb := (hr.sent A _ _ _ _ hm).bound
    rcases Messaging.changeEpoch_cases (w.messaging other) object with h₁ | ⟨-,h₁⟩
    · omega
    · rw [h₁] at hmsg
      cases hmsg
  · simp only [updateMessaging,Function.update_of_ne ho] at he hmsg
    rcases hw.closed A other epoch token t hm he hl hmsg hn with h₁ | ⟨e,hmem,h₁⟩
    · exact .inl h₁
    · refine .inr ⟨e,?_,h₁⟩
      simpa [updateMessaging,ho] using hmem

/-- What is promised of the records that live does not depend on the others. -/
theorem Settled.other (hw : Settled w) (admitted : ModemRef) (modems : ModemRef → Modem)
    (calls : List Call)
    (hlive : ∀ ref, (modems ref).live = true → (w.messaging ref).messaging.isSome = true →
      (w.modem ref).live = true) :
    Settled {w with
      admitted := admitted,calls := calls,bridge := {w.bridge with modems := modems}} :=
  ⟨fun A ref epoch token t hm he hl hmsg hn =>
    hw.closed A ref epoch token t hm he (hlive ref hl hmsg) hmsg hn,hw.inflight,hw.justified⟩

theorem Effect.settled {event : Event} (h : Effect sha256 w w' event) (hp : Pending w none)
    (hh : Holding w) (hr : Recorded sha256 w) (hw : Settled w) : Settled w' := by
  have hanswer : ∀ index, Settled (w.answer index) :=
    fun index => hw.other _ _ _ fun _ hl _ => hl
  have hranswer : ∀ index, Recorded sha256 (w.answer index) := fun index => hr.other _ _ _
  cases h with
  | passive h => exact h.settled hr hw
  | listed hcall h => exact h.settled (hranswer _) (hanswer _)
  | completed hcall hop h ho h' =>
    exact h'.settled ho (h.holding (hh.answer _)) (h.recorded (hranswer _))
      (h.settled (hranswer _) (hanswer _))
  | dispatched hcall h ho h' =>
    have hho := h.holding (hh.answer _)
    obtain ⟨htype,hundispatched⟩ := hp.created_operation hcall h ho
    exact h'.settled ho hundispatched ((hho.holds _ _ ho).token.mp htype) hho
      (h.recorded (hranswer _)) (h.settled (hranswer _) (hanswer _))
  | startedSend h h' =>
    exact h'.settled (h.holding hh) (h.recorded hr) (h.settled hr hw)
  | startedDelete h => exact h.settled hr hw
  | @epochChanged ref forceEpoch object w₁ hlive hchanged h hm h' =>
    have hr' := h.recorded hr
    have h₁ := changeEpoch_settled ref object hr' (h.settled hr hw)
    have h₂ := changeEpoch_recorded ref object hr'
    rw [hm] at h₁ h₂
    exact h'.settled h₂ h₁
  | admitted h =>
    subst h
    refine hw.other _ _ _ fun ref hl hmsg => ?_
    by_cases he : ref = w.admitted
    · rw [hh.fresh ref (Nat.le_of_eq he.symm)] at hmsg
      cases hmsg
    · rw [World.modem]
      simpa [Bridge.updateModem,he] using hl
  | @removed ref w₁ _ h h' =>
    subst h'
    have h₁ := (h.settled hr hw).other w₁.admitted
      (w.bridge.updateModem ref (w.modem ref).modemMarkRemoved).modems w₁.calls fun other hl _ => by
        rw [World.modem,h.bridge]
        by_cases he : other = ref
        · subst he
          rw [Bridge.updateModem_self] at hl
          cases hl
        · rw [Bridge.updateModem_other _ _ he] at hl
          exact hl
    rw [h.bridge] at h₁
    exact h₁

theorem Settled.refresh (hw : Settled w) {bridge : Bridge} (hclock : w.bridge.now ≤ bridge.now) :
    Settled (w.refresh bridge) := by
  have hkeep : ∀ {A ref epoch token}, Repeatable w.trace A ref epoch token w.bridge.now →
      Repeatable (w.refresh bridge).trace A ref epoch token (w.refresh bridge).bridge.now :=
    fun h => h.append (fun _ => List.not_mem_nil) hclock
  refine ⟨fun A ref epoch token t hm he hl hmsg hn => ?_,fun C o ho A epoch token t hm hne => ?_,
    hw.justified⟩
  · have hl : (w.modem ref).live = true := by
      simpa [World.refresh,World.modem,refreshModem_live] using hl
    exact (hw.closed A ref epoch token t hm he hl hmsg hn).imp_left hkeep
  · obtain ⟨h₁,h₂⟩ := hw.inflight C o ho A epoch token t hm hne
    exact ⟨h₁,fun he ht => hkeep (h₂ he ht)⟩

theorem Initial.settled (h : Initial w) : Settled w := by
  refine ⟨fun _ _ _ _ _ hm => ?_,fun _ _ ho => ?_,?_⟩
  · rw [h.trace] at hm
    cases hm
  · rw [h.operations] at ho
    cases ho
  · rw [h.trace]
    trivial

/-- What holds in every state of a run. -/
structure Inv (sha256 : CString → Digest) (w : World) : Prop where
  pending : Pending w none
  holding : Holding w
  recorded : Recorded sha256 w
  settled : Settled w

theorem Inv.refresh (h : Inv sha256 w) {bridge : Bridge}
    (hclock : w.bridge.now ≤ bridge.now ∧ bridge.now < int64Max) :
    Inv sha256 (w.refresh bridge) :=
  ⟨h.pending.refresh bridge,h.holding.refresh bridge,h.recorded.refresh hclock,
    h.settled.refresh hclock.1⟩

theorem reachable_inv {random : Nat → Option (Vector UInt8 16)}
    (h : (smsSystem sha256 random).Reachable w) : Inv sha256 w := by
  refine h.invariant (P:=Inv sha256) (fun w (h₀ : Initial w) =>
    ⟨h₀.pending,h₀.holding,h₀.recorded,h₀.settled⟩) fun w event w' hw hs => ?_
  obtain ⟨hclock,he⟩ := step_effect hw.pending hs
  have h₁ := hw.refresh hclock
  exact ⟨he.pending h₁.pending,he.holding h₁.holding,he.recorded h₁.pending h₁.holding h₁.recorded,
    he.settled h₁.pending h₁.holding h₁.recorded h₁.settled⟩

end Sms
end L850GL
