import L850GL.Sms.Steps

/-! An SMS operation in flight holds its record, so that a record has at most one. -/
namespace L850GL
namespace Sms

open Errors Messaging Mutation World

variable {w w' w₁ : World} {ref : ModemRef} {op op' : OperationRef}
  {operation operation' : SmsOperation} {sha256 : CString → Digest}

/-- What an operation in flight has on its record. -/
structure Holds (w : World) (op : OperationRef) (operation : SmsOperation) : Prop where
  admitted : operation.modem < w.admitted
  busy : (w.modem operation.modem).mutationBusy = true
  kind : (w.modem operation.modem).mutationKind = .sms
  cancellable : (w.modem operation.modem).mutationCancellable = some (.sms op)
  generation : operation.generation = (w.modem operation.modem).generation
  epoch : operation.messagingGeneration ≤ (w.messaging operation.modem).messagingGeneration
  source : operation.messagingGeneration = (w.messaging operation.modem).messagingGeneration →
    (w.messaging operation.modem).messaging = none ∨
      (w.messaging operation.modem).messaging = some operation.messaging
  token : operation.type = .send ↔ operation.clientToken.isSome = true

structure Holding (w : World) : Prop where
  live : ∀ ref, (w.modem ref).live = true → ref < w.admitted
  fresh : ∀ ref, w.admitted ≤ ref → (w.messaging ref).messaging = none
  holds : ∀ op operation, w.operations op = some operation → Holds w op operation

theorem Holds.unique (h : Holds w op operation) (h' : Holds w op' operation')
    (hm : operation.modem = operation'.modem) : op = op' := by
  have h₁ := h.cancellable
  rw [hm,h'.cancellable] at h₁
  cases h₁
  rfl

/-- The marks of a record that its operation relies on. -/
structure KeepsMarks (modem modem' : Modem) : Prop where
  busy : modem'.mutationBusy = modem.mutationBusy
  kind : modem'.mutationKind = modem.mutationKind
  cancellable : modem'.mutationCancellable = modem.mutationCancellable
  generation : modem'.generation = modem.generation

theorem KeepsMarks.refl (modem : Modem) : KeepsMarks modem modem := ⟨rfl,rfl,rfl,rfl⟩

/-- An operation whose record keeps its marks and its epoch, or moves on to an epoch that the
operation is not of. -/
theorem Holds.keep (h : Holds w op operation) (hadm : w.admitted ≤ w'.admitted)
    (hmodem : KeepsMarks (w.modem operation.modem) (w'.modem operation.modem))
    (hepoch : (w.messaging operation.modem).messagingGeneration ≤
      (w'.messaging operation.modem).messagingGeneration)
    (hsource : (w'.messaging operation.modem).messagingGeneration =
      (w.messaging operation.modem).messagingGeneration →
      (w'.messaging operation.modem).messaging = none ∨
        (w'.messaging operation.modem).messaging = (w.messaging operation.modem).messaging) :
    Holds w' op operation := by
  refine ⟨Nat.lt_of_lt_of_le h.admitted hadm,?_,?_,?_,?_,Nat.le_trans h.epoch hepoch,?_,h.token⟩
  · rw [hmodem.busy]
    exact h.busy
  · rw [hmodem.kind]
    exact h.kind
  · rw [hmodem.cancellable]
    exact h.cancellable
  · rw [hmodem.generation]
    exact h.generation
  · intro he
    have h₁ := h.epoch
    have h₂ : (w'.messaging operation.modem).messagingGeneration =
      (w.messaging operation.modem).messagingGeneration := by omega
    rcases hsource h₂ with h₃ | h₃
    · exact .inl h₃
    · rw [h₃]
      exact h.source (he.trans h₂)

theorem Holds.of_same (h : Holds w op operation) (hs : operation'.Same operation) :
    Holds w op operation' := by
  obtain ⟨h₁,h₂,h₃,h₄,h₅,h₆,-,-⟩ := hs
  exact ⟨h₂ ▸ h.admitted,h₂ ▸ h.busy,h₂ ▸ h.kind,h₂ ▸ h.cancellable,
    by rw [h₄,h₂]; exact h.generation,by rw [h₅,h₂]; exact h.epoch,
    by rw [h₅,h₂,h₃]; exact h.source,by rw [h₁,h₆]; exact h.token⟩

theorem Passive.holding (h : Passive w w') (hw : Holding w) : Holding w' := by
  have hmodem : ∀ ref, w'.modem ref = w.modem ref := fun ref => by rw [World.modem,h.bridge]; rfl
  refine ⟨fun ref hl => ?_,fun ref hr => ?_,fun op o' ho' => ?_⟩
  · rw [h.admitted]
    exact hw.live ref (hmodem ref ▸ hl)
  · rw [(h.messaging ref).messaging]
    exact hw.fresh ref (h.admitted ▸ hr)
  · obtain ⟨o,ho,hid⟩ := h.exists_operation ho'
    refine (Holds.of_same (hw.holds op o ho) (.of_identity hid)).keep (Nat.le_of_eq h.admitted.symm)
      ?_ (Nat.le_of_eq (h.messaging _).epoch.symm) fun _ => .inr (h.messaging _).messaging
    rw [hmodem]
    exact .refl _

theorem releaseModem_live (op : OperationRef) (modem : Modem) :
    (releaseModem op modem).live = modem.live := by
  simp only [releaseModem]
  split
  · rfl
  · rfl

theorem Frees.holding (h : Frees w w' op operation) (ho : w.operations op = some operation)
    (hw : Holding w) : Holding w' := by
  have hmessaging : ∀ ref, (w'.messaging ref).messaging = (w.messaging ref).messaging := by
    intro ref
    by_cases he : ref = operation.modem
    · rw [he,h.messaging]
    · rw [h.others ref he]
  have hepoch : ∀ ref, (w'.messaging ref).messagingGeneration =
      (w.messaging ref).messagingGeneration := by
    intro ref
    by_cases he : ref = operation.modem
    · rw [he,h.epoch]
    · rw [h.others ref he]
  refine ⟨fun ref hl => ?_,fun ref hr => ?_,fun other o ho' => ?_⟩
  · rw [h.admitted]
    refine hw.live ref ?_
    rw [World.modem,h.bridge] at hl
    by_cases he : ref = operation.modem
    · subst he
      rw [Bridge.updateModem_self,releaseModem_live] at hl
      exact hl
    · rw [Bridge.updateModem_other _ _ he] at hl
      exact hl
  · rw [hmessaging]
    exact hw.fresh ref (h.admitted ▸ hr)
  · rw [h.operations] at ho'
    by_cases he : other = op
    · simp [he] at ho'
    have ho₁ : w.operations other = some o := by simpa [he] using ho'
    have hne : o.modem ≠ operation.modem :=
      fun hm => he ((hw.holds other o ho₁).unique (hw.holds op operation ho) hm)
    refine (hw.holds other o ho₁).keep (Nat.le_of_eq h.admitted.symm) ?_
      (Nat.le_of_eq (hepoch _).symm) fun _ => .inr (hmessaging _)
    rw [World.modem,World.modem,h.bridge,Bridge.updateModem_other _ _ hne]
    exact .refl _

theorem Dispatches.holding (h : Dispatches w w' op operation)
    (ho : w.operations op = some operation) (hw : Holding w) : Holding w' := by
  have hmodem : ∀ ref, w'.modem ref = w.modem ref := fun ref => by rw [World.modem,h.bridge]; rfl
  obtain ⟨sending,hops,hid⟩ := h.operations
  have hkeep : ∀ other o, Holds w other o → Holds w' other o := by
    intro other o ho
    refine ho.keep (Nat.le_of_eq h.admitted.symm) ?_ (by rw [h.messaging]) fun _ =>
      .inr (by rw [h.messaging])
    rw [hmodem]
    exact .refl _
  refine ⟨fun ref hl => ?_,fun ref hr => ?_,fun other o ho' => hkeep other o ?_⟩
  · rw [h.admitted]
    exact hw.live ref (hmodem ref ▸ hl)
  · rw [h.messaging]
    exact hw.fresh ref (h.admitted ▸ hr)
  · rw [hops] at ho'
    by_cases he : other = op
    · subst he
      simp only [Function.update_self,Option.some.injEq] at ho'
      subst ho'
      have h₁ := hw.holds other operation ho
      simp only [SmsOperation.identity,SmsOperation.mk.injEq] at hid
      obtain ⟨h₂,h₃,h₄,-,-,-,h₅,h₆,-,h₇,-⟩ := hid
      exact ⟨h₃ ▸ h₁.admitted,h₃ ▸ h₁.busy,h₃ ▸ h₁.kind,h₃ ▸ h₁.cancellable,
        by rw [h₅,h₃]; exact h₁.generation,by rw [h₆,h₃]; exact h₁.epoch,
        by rw [h₆,h₃,h₄]; exact h₁.source,by rw [h₂,h₇]; exact h₁.token⟩
    · exact hw.holds other o (by simpa [he] using ho')

theorem Starts.holding (h : Starts w w' operation)
    (htoken : operation.type = .send ↔ operation.clientToken.isSome = true) (hw : Holding w) :
    Holding w' := by
  have hlive : (w.modem operation.modem).live = true := by
    have h₁ := h.attested
    simp only [Modem.l850glModemAttestMutationTarget,Bool.and_eq_true] at h₁
    exact h₁.1.1
  have hmessaging : ∀ ref, (w'.messaging ref).messaging = (w.messaging ref).messaging := by
    intro ref
    by_cases he : ref = operation.modem
    · rw [he,h.messaging]
    · rw [h.others ref he]
  have hepoch : ∀ ref, (w'.messaging ref).messagingGeneration =
      (w.messaging ref).messagingGeneration := by
    intro ref
    by_cases he : ref = operation.modem
    · rw [he,h.epoch]
    · rw [h.others ref he]
  have hself : w'.modem operation.modem = acquireModem w.next (w.modem operation.modem) := by
    rw [World.modem,h.bridge,Bridge.updateModem_self]
  refine ⟨fun ref hl => ?_,fun ref hr => ?_,fun other o ho' => ?_⟩
  · rw [h.admitted]
    by_cases he : ref = operation.modem
    · exact he ▸ hw.live _ hlive
    · rw [World.modem,h.bridge,Bridge.updateModem_other _ _ he] at hl
      exact hw.live ref hl
  · rw [hmessaging]
    exact hw.fresh ref (h.admitted ▸ hr)
  · rw [h.operations] at ho'
    by_cases he : other = w.next
    · subst he
      simp only [Function.update_self,Option.some.injEq] at ho'
      subst ho'
      refine ⟨h.admitted ▸ hw.live _ hlive,by rw [hself]; rfl,by rw [hself]; rfl,
        by rw [hself]; rfl,by rw [hself]; exact h.generation,?_,fun _ => .inr ?_,htoken⟩
      · rw [hepoch,h.messagingGeneration]
      · rw [hmessaging,h.source]
    · have ho₁ : w.operations other = some o := by simpa [he] using ho'
      have h₁ := hw.holds other o ho₁
      have hne : o.modem ≠ operation.modem := by
        intro hm
        have h₂ := h.idle
        rw [← hm,h₁.busy] at h₂
        cases h₂
      refine h₁.keep (Nat.le_of_eq h.admitted.symm) ?_ (Nat.le_of_eq (hepoch _).symm)
        fun _ => .inr (hmessaging _)
      rw [World.modem,World.modem,h.bridge,Bridge.updateModem_other _ _ hne]
      exact .refl _

/-- An epoch change either raises the epoch or leaves no messaging object. -/
theorem Messaging.changeEpoch_cases (m : Messaging) (object : Option Nat) :
    (m.changeEpoch object).messagingGeneration = m.messagingGeneration+1 ∨
      (m.changeEpoch object).messagingGeneration = m.messagingGeneration ∧
        (m.changeEpoch object).messaging = none := by
  simp only [Messaging.changeEpoch]
  split
  · exact .inr ⟨rfl,rfl⟩
  · left
    split
    · rfl
    · rfl

theorem changeEpoch_holding (object : Option Nat) (hlive : (w.modem ref).live = true)
    (hw : Holding w) :
    Holding (w.updateMessaging ref ((w.messaging ref).changeEpoch object)) := by
  refine ⟨hw.live,fun other ho => ?_,fun op o ho => ?_⟩
  · have hne : other ≠ ref := by
      intro he
      have h₁ := hw.live ref hlive
      simp only [updateMessaging] at ho
      exact absurd (he ▸ ho) (Nat.not_le.mpr h₁)
    simpa [updateMessaging,hne] using hw.fresh other ho
  · have hcases := Messaging.changeEpoch_cases (w.messaging ref) object
    refine (hw.holds op o ho).keep (Nat.le_refl _) (.refl _) ?_ ?_
    · by_cases he : o.modem = ref
      · simp only [updateMessaging,he,Function.update_self]
        rcases hcases with h₁ | ⟨h₁,-⟩
        · rw [h₁]
          exact Nat.le_succ _
        · rw [h₁]
      · simp [updateMessaging,he]
    · by_cases he : o.modem = ref
      · simp only [updateMessaging,he,Function.update_self]
        rcases hcases with h₁ | ⟨-,h₁⟩
        · intro h₂
          rw [h₁] at h₂
          exact absurd h₂ (Nat.succ_ne_self _)
        · exact fun _ => .inl h₁
      · simp [updateMessaging,he]

theorem admitModem_holding (hw : Holding w) : Holding (admitModem w) := by
  refine ⟨fun ref hl => ?_,fun ref hr => hw.fresh ref (Nat.le_of_succ_le hr),fun op o ho => ?_⟩
  · by_cases he : ref = w.admitted
    · rw [he]
      exact Nat.lt_succ_self _
    · simp only [admitModem,World.modem,Bridge.updateModem_other _ _ he] at hl
      exact Nat.lt_succ_of_lt (hw.live ref hl)
  · have h₁ := hw.holds op o ho
    have hne : o.modem ≠ w.admitted := Nat.ne_of_lt h₁.admitted
    refine h₁.keep (Nat.le_succ _) ?_ (Nat.le_refl _) fun _ => .inr rfl
    simp only [admitModem,World.modem,Bridge.updateModem_other _ _ hne]
    exact .refl _

theorem markRemoved_holding (h : w₁.bridge = w.bridge) (hw : Holding w₁) :
    Holding {w₁ with bridge := w.bridge.updateModem ref (w.modem ref).modemMarkRemoved} := by
  refine ⟨fun other hl => ?_,hw.fresh,fun op o ho => ?_⟩
  · by_cases he : other = ref
    · subst he
      rw [World.modem,Bridge.updateModem_self] at hl
      cases hl
    · rw [World.modem,Bridge.updateModem_other _ _ he,← h] at hl
      exact hw.live other hl
  · refine (hw.holds op o ho).keep (Nat.le_refl _) ?_ (Nat.le_refl _) fun _ => .inr rfl
    rw [World.modem,World.modem,h]
    by_cases he : o.modem = ref
    · rw [he,Bridge.updateModem_self]
      exact ⟨rfl,rfl,rfl,rfl⟩
    · rw [Bridge.updateModem_other _ _ he]
      exact .refl _

theorem Holding.answer (hw : Holding w) (index : Nat) : Holding (w.answer index) :=
  ⟨hw.live,hw.fresh,fun op o ho => (hw.holds op o ho).keep (Nat.le_refl _) (.refl _)
    (Nat.le_refl _) fun _ => .inr rfl⟩

theorem Effect.holding {event : Event} (h : Effect sha256 w w' event) (hw : Holding w) :
    Holding w' := by
  cases h with
  | passive h => exact h.holding hw
  | listed hcall h => exact h.holding (hw.answer _)
  | completed hcall hop h ho h' => exact h'.toFrees.holding ho (h.holding (hw.answer _))
  | dispatched hcall h ho h' => exact h'.holding ho (h.holding (hw.answer _))
  | startedSend h h' =>
    exact h'.toStarts.holding (by simp [h'.type,h'.clientToken]) (h.holding hw)
  | startedDelete h => exact h.toStarts.holding (by simp [h.type,h.clientToken]) hw
  | @epochChanged ref forceEpoch object w₁ hlive hchanged h hm h' =>
    have hlive' : (w₁.modem ref).live = true := by
      rw [World.modem,h.bridge]
      exact hlive
    have h₁ := changeEpoch_holding object hlive' (h.holding hw)
    rw [hm] at h₁
    exact h'.holding h₁
  | admitted h =>
    subst h
    exact admitModem_holding hw
  | removed _ h h' =>
    subst h'
    exact markRemoved_holding h.bridge (h.holding hw)

theorem refreshModem_kept {old new : Modem} (h : old.mutationKind = .sms) :
    KeepsMarks old (refreshModem old new) := by
  simp only [refreshModem,h,true_or,if_true]
  exact ⟨rfl,by simp [h],rfl,rfl⟩

theorem refreshModem_live (old new : Modem) : (refreshModem old new).live = old.live := by
  simp only [refreshModem]
  split
  · rfl
  · rfl

theorem Holding.refresh (hw : Holding w) (bridge : Bridge) : Holding (w.refresh bridge) := by
  refine ⟨fun ref hl => hw.live ref ?_,hw.fresh,fun op o ho => ?_⟩
  · simpa [World.refresh,World.modem,refreshModem_live] using hl
  · have h₁ := hw.holds op o ho
    exact h₁.keep (Nat.le_refl _) (refreshModem_kept h₁.kind) (Nat.le_refl _) fun _ => .inr rfl

theorem Initial.holding (h : Initial w) : Holding w := by
  refine ⟨fun ref hl => ?_,fun ref _ => ?_,fun op o ho => ?_⟩
  · rw [(h.modems ref).1] at hl
    cases hl
  · rw [h.messaging]
    rfl
  · rw [h.operations] at ho
    cases ho

end Sms
end L850GL
