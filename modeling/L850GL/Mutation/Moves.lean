import L850GL.Mutation.StateMachine

/-! Every callback of a lock operation stutters or takes a declared transition, in its phase or in
its reply. -/
namespace L850GL
namespace Mutation

open Cell Errors MutationPolicy State

variable {object : Nat} {s t : State} {call : PendingCall} {result : CommandResult}

/-- No reply to the tuple is behind an observation list. -/
def Unanswered (past : List Observation) : Prop :=
  ∀ call result now, .finished call result now ∈ past → call.callback ≠ .setReady

/-- A running callback. -/
structure Running (object : Nat) (s : State) (call : PendingCall) (result : CommandResult) :
    Prop extends Replied object s call result where
  flagged : Flagged s.operation
  unanswered : s.operation.phase.acknowledged = false → Unanswered s.trace.tail

theorem Running.not_acknowledged (h : Running object s call result)
    (hphase : s.operation.phase.acknowledged = false) (hresult : call.callback = .setReady →
      result.error = none → result.response ≠ some l850SetSuccess) :
    ¬ s.operation.lock.Acknowledged s.trace := by
  rintro ⟨c,r,now,hm,hset,-,-,herror,hresponse⟩
  obtain ⟨past,htrace,-⟩ := h.past
  have hpast := h.unanswered hphase
  rw [htrace] at hm hpast
  rcases List.mem_cons.mp hm with heq | hm
  · cases heq
    exact hresult hset herror hresponse
  · exact hpast c r now hm hset

theorem follows_outcomeUnknown {phase : L850MutationPhase} :
    Follows (declaredState phase) .outcomeUnknown := by
  cases phase <;> decide

theorem Ends.unknown (hs : Flagged s.operation) {op : L850MutationOperation}
    (hop : op.shown = s.operation.shown) (code : String) (retryable : Bool) :
    Ends s (l850MutationCompleteFailure {s with operation := op} "outcome_unknown" code
      retryable) :=
  .fail hs hop code retryable fun _ => ⟨.outcomeUnknown,rfl,follows_outcomeUnknown⟩

theorem Ends.declared (hs : Flagged s.operation) {op : L850MutationOperation}
    (hop : op.shown = s.operation.shown) (declared : L850State) (code : String)
    (retryable : Bool) (hfollows : Follows (declaredState s.operation.phase) declared) :
    Ends s (l850MutationCompleteFailure {s with operation := op} (l850glL850StateName declared)
      code retryable) :=
  .fail hs hop code retryable fun _ => ⟨declared,rfl,hfollows⟩

theorem probeReady_moves (h : Running object s call result)
    (hcall : call.callback = .probeReady) :
    Moves s (l850MutationProbeReady s call.source result) ∧
      (l850MutationProbeReady s call.source result).operation.phase.acknowledged = false := by
  obtain ⟨hphase,htarget,-⟩ := expectedCall_probe (hcall ▸ h.expected)
  have hack : s.operation.phase.acknowledged = false := by rw [hphase]; rfl
  have hnot : ¬ s.operation.lock.Acknowledged s.trace :=
    h.not_acknowledged hack fun hset => by rw [hcall] at hset; cases hset
  have hfail : ∀ state code retryable, Moves s (l850MutationCompleteFailure {s with
      operation := {s.operation with commandPending := false}} state code retryable) ∧
      (l850MutationCompleteFailure {s with operation := {s.operation with
        commandPending := false}} state code retryable).operation.phase.acknowledged = false := by
    intro state code retryable
    refine ⟨.inr (.fail h.flagged (by rfl) code retryable fun ha => absurd ha hnot),?_⟩
    rw [l850MutationCompleteFailure,completeBuffer_operation]
    exact hack
  unfold l850MutationProbeReady
  dsimp only
  split
  · exact hfail _ _ _
  split
  · split
    · exact hfail _ _ _
    · unfold l850MutationDispatchSet
      split
      · exact hfail _ _ _
      · refine ⟨.inl ?_,rfl⟩
        have h₁ : Continues s {s with operation := {s.operation with
            phase := .setCommand,setDispatched := true,commandPending := true}} := by
          apply Continues.withOperation
          · rfl
          · rw [hphase]
            exact .inl rfl
          · refine ⟨?_,?_,fun _ => rfl⟩
            · rw [h.flagged.acknowledged,hphase]
              rfl
            · rw [h.flagged.stage,hphase]
              rfl
        exact h₁.command _ _ _
  · exact hfail _ _ _

theorem startNvmVerification_continues (stage : NvmVerifyStage)
    (h : Kept s t) (hlive : t.released = s.released)
    (htrace : ∃ new, t.trace = new++s.trace ∧ ∀ o ∈ new, Silent o)
    (hack : t.operation.configurationAcknowledged = true)
    (hdispatched : t.operation.setDispatched = true)
    (hfollows : Follows (declaredState s.operation.phase) (declaredState (nvmVerifyPhase stage))) :
    Continues s (l850MutationStartNvmVerification t stage) := by
  have h₁ : Continues s {t with operation := {t.operation with
      phase := nvmVerifyPhase stage
      phaseDeadline := t.bridge.now+l850NvmVerifyTimeoutSeconds*Bridge.usec
      verificationStage := some (nvmVerifyStageName stage)
      nvmVerifier := l850glNvmVerifierInit stage
      commandPending := true}} := {
    lock := h.lock
    now := h.now
    modems := h.modems
    calls := h.calls
    live := hlive
    follows := hfollows
    flagged := by
      refine ⟨?_,?_,fun _ => hdispatched⟩
      · cases stage <;> exact hack
      · cases stage <;> rfl
    trace := htrace }
  exact (h₁.observe (o := .window stage
    (t.bridge.now+l850NvmVerifyTimeoutSeconds*Bridge.usec)) trivial).command _ _ _

/-- The reply to the tuple ends the operation, or is the exact acknowledgement of a live
original. -/
theorem setReady_moves (h : Running object s call result) (hcall : call.callback = .setReady)
    (hsource : call.source = (s.modem call.target).modem)
    (hgeneration : (s.modem s.operation.original).generation = s.operation.originalGeneration) :
    Ends s (l850MutationSetReady s call.source result) ∧
        ¬ (result = ⟨some l850SetSuccess,none⟩ ∧
          (s.modem s.operation.original).live = true) ∨
      Continues s (l850MutationSetReady s call.source result) ∧
        (l850MutationSetReady s call.source result).operation.phase.acknowledged = true ∧
        result = ⟨some l850SetSuccess,none⟩ ∧ (s.modem s.operation.original).live = true := by
  obtain ⟨hphase,htarget,-⟩ := expectedCall_set (hcall ▸ h.expected)
  have hother : result ≠ ⟨some l850SetSuccess,none⟩ →
      ¬ s.operation.lock.Acknowledged s.trace := by
    intro hne
    refine h.not_acknowledged (by rw [hphase]; rfl) fun _ herror hresponse => hne ?_
    cases result
    cases herror
    cases hresponse
    rfl
  unfold l850MutationSetReady
  dsimp only
  split
  · rename_i hstopped
    refine .inl ⟨.unknown h.flagged (by rfl) _ _,?_⟩
    rintro ⟨rfl,hlive⟩
    rcases hstopped with hc | hc | hc | hc
    · have hu := h.unharmed rfl
      simp [l850MutationErrorIsUncertain,hu.1,hu.2,advancedErrorHasUnknownOutcome,
        gDbusErrorGetRemoteError,remoteErrorHasSuffix] at hc
    · exact hc hlive
    · rw [hsource,htarget] at hc
      exact hc rfl
    · exact hc hgeneration
  rename_i hcertain
  simp only [not_or,not_not] at hcertain
  split
  · rename_i response herror hresponse
    split
    · rename_i hreject
      have hne : result ≠ ⟨some l850SetSuccess,none⟩ := by
        rintro rfl
        cases hresponse
        exact hreject (by simp [l850glL850SetResponseIsSuccess])
      exact .inl ⟨.fail h.flagged (by rfl) _ _ fun ha => absurd ha (hother hne),
        fun hc => hne hc.1⟩
    · rename_i hexact
      have hresult : response = l850SetSuccess := by
        simpa [l850glL850SetResponseIsSuccess] using hexact
      refine .inr ⟨?_,rfl,?_,hcertain.2.1⟩
      · apply startNvmVerification_continues .preReset
        · exact Kept.withOperation rfl
        · rfl
        · exact ⟨[],rfl,by simp⟩
        · rfl
        · exact h.flagged.dispatched (by simp [hphase])
        · rw [hphase]
          decide
      · cases result
        cases herror
        cases hresponse
        rw [hresult]
  · rename_i hnone
    have hne : result ≠ ⟨some l850SetSuccess,none⟩ := by
      rintro rfl
      exact hnone _ rfl rfl
    exact .inl ⟨.fail h.flagged (by rfl) _ _ fun ha => absurd ha (hother hne),
      fun hc => hne hc.1⟩

theorem resetReady_moves (h : Running object s call result) (hcall : call.callback = .resetReady) :
    Moves s (l850MutationResetReady s result) := by
  have hphase := expectedCall_reset (hcall ▸ h.expected)
  have happlied : Follows (declaredState s.operation.phase) .lockAppliedResetRequired := by
    rw [hphase]
    decide
  unfold l850MutationResetReady
  dsimp only
  split
  · exact .inr (.unknown h.flagged (by rfl) _ _)
  split
  · exact .inr (.declared h.flagged (by rfl) .lockAppliedResetRequired _ _ happlied)
  · left
    have h₁ : Continues s {s with operation := {s.operation with
        phase := .reprobe
        phaseDeadline := s.bridge.now+l850ReprobeTimeoutSeconds*Bridge.usec
        commandPending := false}} := by
      apply Continues.withOperation
      · rfl
      · rw [hphase]
        exact .inr rfl
      · refine ⟨?_,?_,fun _ => h.flagged.dispatched (by simp [hphase])⟩
        · rw [h.flagged.acknowledged,hphase]
          rfl
        · rw [h.flagged.stage,hphase]
          rfl
    exact h₁.replaceCancellable.armPoll _

/-- The end of a window: the reset, the reply to a clear, or the scan. -/
theorem nvmVerified_moves {op : L850MutationOperation} {source : Nat} {preReset : Bool}
    (hs : Flagged s.operation) (hop : op.shown = s.operation.shown)
    (hdispatched : s.operation.setDispatched = true)
    (hphase : preReset = true ∧ s.operation.phase = .preResetNvmVerify ∧
        l850MutationOriginalIsValid {s with operation := op} source = true ∨
      preReset = false ∧ s.operation.phase = .nvmVerify) :
    Moves s (nvmVerified {s with operation := op} preReset) := by
  simp only [L850MutationOperation.shown,Prod.mk.injEq] at hop
  obtain ⟨hlock,hopPhase,hack,hstage,hopDispatched⟩ := hop
  unfold nvmVerified
  dsimp only
  rcases hphase with ⟨rfl,hphase,hvalid⟩ | ⟨rfl,hphase⟩
  · rw [if_pos rfl]
    unfold l850MutationStartReset
    have hsource : source = (s.modem op.original).modem := by
      simp only [l850MutationOriginalIsValid,Bool.and_eq_true,beq_iff_eq] at hvalid
      exact hvalid.1.1.2
    rw [if_neg (not_not.mpr (hsource ▸ hvalid))]
    left
    have h₁ : Continues s {s with operation := {op with
        verificationStage := none
        phase := .resetCommand
        resetDispatched := true
        commandPending := true}} := by
      apply Continues.withOperation
      · exact hlock
      · rw [hphase]
        exact .inl rfl
      · refine ⟨?_,rfl,fun _ => hopDispatched.trans hdispatched⟩
        show op.configurationAcknowledged = true
        rw [hack,hs.acknowledged,hphase]
        rfl
    exact h₁.command _ _ _
  · rw [if_neg Bool.false_ne_true]
    split
    · right
      apply Ends.succeed
      · exact Kept.withOperation hlock
      · rfl
      · exact hopPhase
      · exact hack
      · exact hopDispatched
      · rw [hphase]
        rfl
    · left
      have h₁ : Continues s {s with operation := {op with
          verificationStage := none,phase := .cellVerify,commandPending := true}} := by
        apply Continues.withOperation
        · exact hlock
        · rw [hphase]
          exact .inl rfl
        · refine ⟨?_,rfl,fun _ => hopDispatched.trans hdispatched⟩
          show op.configurationAcknowledged = true
          rw [hack,hs.acknowledged,hphase]
          rfl
      exact h₁.command _ _ _

/-- The reads of an NVM window: they poll again, fail with the state of the window, or go on. -/
theorem nvmReady_moves (h : Running object s call result) (hcall : call.callback = .nvmReady) :
    Moves s (l850MutationNvmReady s call.source result) := by
  obtain ⟨-,hwindow⟩ := expectedCall_nvm (hcall ▸ h.expected)
  have hphases : s.operation.phase = .preResetNvmVerify ∨ s.operation.phase = .nvmVerify :=
    hwindow.imp And.left And.left
  have hack : s.operation.configurationAcknowledged = true := by
    rw [h.flagged.acknowledged]
    rcases hphases with hphase | hphase <;> rw [hphase] <;> rfl
  have hdispatched : s.operation.setDispatched = true := by
    apply h.flagged.dispatched
    rcases hphases with hphase | hphase <;> simp [hphase]
  have hunknown : ∀ op : L850MutationOperation, op.shown = s.operation.shown → ∀ code retryable,
      Moves s (l850MutationCompleteFailure {s with operation := op}
        (if (s.operation.phase == .preResetNvmVerify) = true then "lock_applied_reset_required"
          else "outcome_unknown") code retryable) := by
    intro op hop code retryable
    rcases hphases with hphase | hphase
    · simp only [hphase,beq_self_eq_true,if_true]
      exact .inr (.declared h.flagged hop .lockAppliedResetRequired _ _ (by rw [hphase]; decide))
    · rw [if_neg (by simp [hphase])]
      exact .inr (.unknown h.flagged hop _ _)
  have hrejected : ∀ op : L850MutationOperation, op.shown = s.operation.shown →
      ∀ code retryable, Moves s (l850MutationCompleteFailure {s with operation := op}
        (if (s.operation.phase == .preResetNvmVerify) = true then "lock_applied_reset_required"
          else "verification_mismatch") code retryable) := by
    intro op hop code retryable
    rcases hphases with hphase | hphase
    · simp only [hphase,beq_self_eq_true,if_true]
      exact .inr (.declared h.flagged hop .lockAppliedResetRequired _ _ (by rw [hphase]; decide))
    · rw [if_neg (by simp [hphase])]
      exact .inr (.declared h.flagged hop .verificationMismatch _ _ (by rw [hphase]; decide))
  unfold l850MutationNvmReady
  dsimp only
  split
  · exact hunknown _ (by rfl) _ _
  rename_i hvalid
  split
  · split
    · exact hrejected _ (by rfl) _ _
    rename_i lockState _
    generalize (if l850glL850LockStateMatches lockState (s.operation.type == .clear)
      s.operation.earfcn s.operation.hasPci s.operation.pci = true then
      NvmObservation.matched else NvmObservation.mismatch) = o
    split
    · exact hrejected _ (by rfl) _ _
    split
    · exact hrejected _ (by rfl) _ _
    split
    · left
      apply Continues.armPoll
      apply Continues.withOperation
      · rfl
      · exact .inl rfl
      · exact ⟨h.flagged.acknowledged,h.flagged.stage,h.flagged.dispatched⟩
    · apply nvmVerified_moves h.flagged (by rfl) hdispatched
      rcases hphases with hphase | hphase
      · refine .inl ⟨by simp [hphase],hphase,?_⟩
        by_contra hn
        exact hvalid (.inr (.inl ⟨by simp [hphase],hn⟩))
      · exact .inr ⟨by simp [hphase],hphase⟩
  · exact hunknown _ (by rfl) _ _

theorem cellReady_moves (h : Running object s call result) (hcall : call.callback = .cellReady) :
    Moves s (l850MutationCellReady s call.source result) := by
  obtain ⟨hphase,-,-⟩ := expectedCall_cell (hcall ▸ h.expected)
  have hmismatch : ∀ op : L850MutationOperation, op.shown = s.operation.shown →
      Moves s (l850MutationCompleteFailure {s with operation := op} "verification_mismatch"
        "verification_mismatch" false) := fun op hop =>
    .inr (.declared h.flagged hop .verificationMismatch _ _ (by rw [hphase]; decide))
  unfold l850MutationCellReady
  dsimp only
  split
  · exact .inr (.unknown h.flagged (by rfl) _ _)
  split
  · split
    · exact hmismatch _ (by rfl)
    split
    · exact hmismatch _ (by rfl)
    split
    · exact hmismatch _ (by rfl)
    split
    · exact hmismatch _ (by rfl)
    split
    · exact hmismatch _ (by rfl)
    rename_i modem hstore
    have hsame : SameModem (s.modem (l850MutationResponseModem s.operation)) modem := by
      unfold Modem.servingCellCacheStore at hstore
      split at hstore
      · cases hstore
      · cases hstore
        exact ⟨rfl,rfl,Int.le_refl _⟩
    right
    apply Ends.succeed
    · exact ⟨rfl,rfl,updateModem_same hsame,fun _ => .inl⟩
    · rfl
    · rfl
    · rfl
    · rfl
    · rw [hphase]
      rfl
  · exact .inr (.unknown h.flagged (by rfl) _ _)

theorem L850MutationPhase.acknowledged_of_polls {phase : L850MutationPhase}
    (h : phase.polls = true) : phase.acknowledged = true := by
  cases phase with
  | protocolProbe => cases h
  | setCommand => cases h
  | _ => rfl

theorem startNvmCommand_continues (hs : Flagged s.operation) {op : L850MutationOperation}
    (hop : op.shown = s.operation.shown) :
    Continues s (l850MutationStartNvmCommand {s with operation := op}) := by
  simp only [L850MutationOperation.shown,Prod.mk.injEq] at hop
  obtain ⟨hlock,hphase,hack,hstage,hdispatched⟩ := hop
  have h₁ : Continues s {s with operation := {op with commandPending := true}} := by
    apply Continues.withOperation
    · exact hlock
    · exact .inl (congrArg declaredState hphase)
    · refine ⟨?_,?_,?_⟩
      · rw [hack,hs.acknowledged,hphase]
      · rw [hstage,hs.stage,hphase]
      · rw [hdispatched,hphase]
        exact hs.dispatched
  exact h₁.command _ _ _

/-- A poll comes back unchanged, or hands the operation on. -/
theorem poll_moves (hs : Flagged s.operation) (hpolls : s.operation.phase.polls = true) :
    (l850MutationPoll s).2 = true ∧ (l850MutationPoll s).1 = s ∨
      (l850MutationPoll s).2 = false ∧ Moves s (l850MutationPoll s).1 := by
  have hnotProbe : s.operation.phase ≠ .protocolProbe := by
    intro hphase
    rw [hphase] at hpolls
    cases hpolls
  have hack : s.operation.configurationAcknowledged = true := by
    rw [hs.acknowledged]
    exact L850MutationPhase.acknowledged_of_polls hpolls
  have hdispatched := hs.dispatched hnotProbe
  have hfail : ∀ declared, Follows (declaredState s.operation.phase) declared → ∀ code,
      Moves s (l850MutationCompleteFailure {s with operation := {s.operation with pollSource := 0}}
        (l850glL850StateName declared) code false) :=
    fun declared hfollows code => .inr (.declared hs (by rfl) declared code false hfollows)
  have hunknown := hfail .outcomeUnknown follows_outcomeUnknown
  unfold l850MutationPoll
  dsimp only
  split
  · refine .inr ⟨rfl,?_⟩
    by_cases hphase : s.operation.phase = .preResetNvmVerify
    · rw [if_pos hphase]
      exact hfail .lockAppliedResetRequired (by rw [hphase]; decide) _
    · rw [if_neg hphase]
      exact hunknown _
  split
  · rename_i hphase
    have happlied := hfail .lockAppliedResetRequired (by rw [hphase]; decide)
    split
    · exact .inr ⟨rfl,happlied _⟩
    split
    · exact .inr ⟨rfl,happlied _⟩
    · exact .inr ⟨rfl,.inl (startNvmCommand_continues hs (by rfl))⟩
  · rename_i hphase
    split
    · exact .inr ⟨rfl,hfail .verificationMismatch (by rw [hphase]; decide) _⟩
    split
    · exact .inr ⟨rfl,hunknown _⟩
    · exact .inr ⟨rfl,.inl (startNvmCommand_continues hs (by rfl))⟩
  · rename_i hphase
    split
    · exact .inr ⟨rfl,hfail .verificationMismatch (by rw [hphase]; decide) _⟩
    · rename_i ref href
      split
      · exact .inr ⟨rfl,hunknown _⟩
      have hkept : Kept s (adoptReplacement s ref) := by
        refine ⟨rfl,rfl,updateModem_same ?_,fun _ => .inl⟩
        exact ⟨rfl,rfl,Int.le_refl _⟩
      split
      · refine .inr ⟨rfl,.inl ?_⟩
        apply startNvmVerification_continues .postReset
        · exact ⟨hkept.lock,hkept.now,hkept.modems,hkept.calls⟩
        · rfl
        · exact ⟨[.registered ref (s.modem ref),.adopted ref (s.modem ref)],rfl,
            by simp [Silent]⟩
        · exact hack
        · exact hdispatched
        · rw [hphase]
          exact .inl rfl
      · refine .inr ⟨rfl,.inl ?_⟩
        apply Continues.armPoll
        exact { hkept with
          live := rfl
          follows := by
            rw [hphase]
            exact .inl rfl
          flagged := by
            refine ⟨hack,?_,fun _ => hdispatched⟩
            show s.operation.verificationStage = none
            rw [hs.stage,hphase]
            rfl
          trace := ⟨[.adopted ref (s.modem ref)],rfl,by simp [Silent]⟩ }
    · split
      · exact .inr ⟨rfl,hfail .reprobeTimeout (by rw [hphase]; decide) _⟩
      · exact .inl ⟨rfl,rfl⟩
  · rename_i hphase
    split
    · exact .inr ⟨rfl,hunknown _⟩
    split
    · refine .inr ⟨rfl,.inl ?_⟩
      apply startNvmVerification_continues .postReset
      · exact ⟨rfl,rfl,fun _ => .refl _,fun _ => .inl⟩
      · rfl
      · exact ⟨[.registered _ _],rfl,by simp [Silent]⟩
      · exact hack
      · exact hdispatched
      · rw [hphase]
        exact .inl rfl
    split
    · exact .inr ⟨rfl,hfail .registrationTimeout (by rw [hphase]; decide) _⟩
    · exact .inl ⟨rfl,rfl⟩
  · exact .inr ⟨rfl,hunknown _⟩

end Mutation
end L850GL
