import L850GL.Mutation.Completion

/-! Every callback of a lock operation keeps the invariant. -/
namespace L850GL
namespace Mutation

open Cell Errors MutationPolicy State

variable {object : Nat} {s : State} {call : PendingCall} {result : CommandResult}

theorem PhaseFacts.cons {op : L850MutationOperation} {past : List Observation} {o : Observation}
    (h : PhaseFacts op past) (htuple : ¬ op.lock.IsTuple o) (hreset : ¬ Lock.IsReset o)
    (hwindow : openWindow (o::past) = openWindow past)
    (hreads : windowReads (o::past) = windowReads past) : PhaseFacts op (o::past) := by
  unfold PhaseFacts at h ⊢
  split at h
  · exact ⟨List.forall_mem_cons.mpr ⟨htuple,h.1⟩,List.forall_mem_cons.mpr ⟨hreset,h.2⟩⟩
  · exact List.forall_mem_cons.mpr ⟨hreset,h⟩
  · obtain ⟨h₁,⟨c,r,now,hm,hrest⟩,h₃,h₄,h₅⟩ := h
    refine ⟨List.forall_mem_cons.mpr ⟨hreset,h₁⟩,⟨c,r,now,List.mem_cons_of_mem _ hm,hrest⟩,
      hwindow.trans h₃,h₄,?_⟩
    simpa only [hreads] using h₅
  · exact Occurs.cons _ h
  · exact Occurs.cons _ h
  · obtain ⟨ref,record,h₁,h₂,h₃⟩ := h
    exact ⟨ref,record,h₁,h₂,h₃.cons _⟩
  · obtain ⟨ref,record,h₁,h₂,h₃⟩ := h
    exact ⟨ref,record,h₁,h₂,h₃.cons _⟩
  · obtain ⟨h₀,ref,record,deadline,h₁,h₂,h₃⟩ := h
    exact ⟨h₀,ref,record,deadline,h₁,h₂,h₃.cons _⟩

/-- A read-only query is no tuple and no reset. -/
theorem not_isTuple_query {lock : Lock} (h : IsTupleText lock.command) {text : CString}
    (htext : text = l850glL850NvmQueryCommand ∨ text = l850glL850ScanCommand)
    (target : ModemRef) (record : Modem) : ¬ lock.IsTuple (.command target record text) := by
  rintro ⟨t,r,he⟩
  simp only [Observation.command.injEq] at he
  have h₁ : ¬ "AT@SIC".toList <+: text := by rcases htext with rfl | rfl <;> decide
  exact h.ne h₁ he.2.2

theorem not_isReset_query {text : CString}
    (htext : text = l850glL850NvmQueryCommand ∨ text = l850glL850ScanCommand)
    (target : ModemRef) (record : Modem) : ¬ Lock.IsReset (.command target record text) := by
  rintro ⟨t,r,he⟩
  simp only [Observation.command.injEq] at he
  have h₁ : text ≠ l850glL850ResetCommand := by rcases htext with rfl | rfl <;> decide
  exact h₁ he.2.2

theorem IsTupleText.not_isReset {lock : Lock} (h : IsTupleText lock.command)
    (target : ModemRef) (record : Modem) :
    ¬ Lock.IsReset (.command target record lock.command) := by
  rintro ⟨t,r,he⟩
  simp only [Observation.command.injEq] at he
  exact h.ne (by decide : ¬ "AT@SIC".toList <+: l850glL850ResetCommand) he.2.2.symm

theorem Idle.startNvmCommand (h : Idle object s) (hu : Unharmed s.operation)
    (hphase : s.operation.phase = .preResetNvmVerify ∨ s.operation.phase = .nvmVerify)
    (hfacts : PhaseFacts s.operation s.trace) :
    Inv object (l850MutationStartNvmCommand s) := by
  have hquery : l850glL850NvmQueryCommand = l850glL850NvmQueryCommand ∨
      l850glL850NvmQueryCommand = l850glL850ScanCommand := .inl rfl
  have h₁ := h.withOperation {s.operation with commandPending := true} rfl
  refine h₁.dispatch hu ?_ (.query (.inl rfl)) ?_
  · rcases hphase with hphase | hphase <;>
      simp [expectedCall,hphase,l850MutationResponseModem]
  · exact PhaseFacts.cons hfacts
      (not_isTuple_query h.command hquery _ _) (not_isReset_query hquery _ _) rfl rfl

theorem Idle.startPreReset (h : Idle object s) (hu : Unharmed s.operation)
    (hack : s.operation.lock.Acknowledged s.trace) (hreset : ∀ o ∈ s.trace, ¬ Lock.IsReset o) :
    Inv object (l850MutationStartNvmVerification s .preReset) := by
  have h₁ := h.withOperation {s.operation with
    phase := .preResetNvmVerify
    phaseDeadline := s.bridge.now+l850NvmVerifyTimeoutSeconds*Bridge.usec
    verificationStage := some (nvmVerifyStageName .preReset)
    nvmVerifier := l850glNvmVerifierInit .preReset} rfl
  have h₂ := h₁.observe (o := .window .preReset
    (s.bridge.now+l850NvmVerifyTimeoutSeconds*Bridge.usec)) (by simp [Benign,Lock.IsReply]) trivial
  refine h₂.startNvmCommand hu (.inl rfl) ?_
  obtain ⟨c,r,now,hm,hrest⟩ := hack
  exact ⟨List.forall_mem_cons.mpr ⟨by simp [Lock.IsReset],hreset⟩,
    ⟨c,r,now,List.mem_cons_of_mem _ hm,hrest⟩,rfl,rfl,.inl rfl⟩

theorem Idle.startPostReset (h : Idle object s) (hu : Unharmed s.operation)
    {ref : ModemRef} {record : Modem} (href : s.operation.replacement = some ref)
    (hadoptable : Adoptable s.operation.lock ref record)
    (hoccurs : Occurs (IsRegistered ref::s.operation.lock.adoption ref record) s.trace) :
    Inv object (l850MutationStartNvmVerification s .postReset) := by
  have h₁ := h.withOperation {s.operation with
    phase := .nvmVerify
    phaseDeadline := s.bridge.now+l850NvmVerifyTimeoutSeconds*Bridge.usec
    verificationStage := some (nvmVerifyStageName .postReset)
    nvmVerifier := l850glNvmVerifierInit .postReset} rfl
  have h₂ := h₁.observe (o := .window .postReset
    (s.bridge.now+l850NvmVerifyTimeoutSeconds*Bridge.usec)) (by simp [Benign,Lock.IsReply]) trivial
  exact h₂.startNvmCommand hu (.inr rfl) ⟨ref,record,href,hadoptable,hoccurs.push rfl⟩

/-- The state in which the callback of a finished call runs. -/
structure Replied (object : Nat) (s : State) (call : PendingCall) (result : CommandResult) :
    Prop where
  idle : Idle object s
  past : ∃ past, s.trace = .finished call result s.bridge.now::past ∧
    PhaseFacts s.operation past
  expected : expectedCall s.operation = some (call.callback,call.target,call.command)
  unharmed : result.error = none → Unharmed s.operation

theorem expectedCall_probe {op : L850MutationOperation} {target : ModemRef} {text : CString}
    (h : expectedCall op = some (.probeReady,target,text)) :
    op.phase = .protocolProbe ∧ target = op.original ∧ text = l850glL850NvmQueryCommand := by
  unfold expectedCall at h
  split at h <;> simp_all

theorem expectedCall_set {op : L850MutationOperation} {target : ModemRef} {text : CString}
    (h : expectedCall op = some (.setReady,target,text)) :
    op.phase = .setCommand ∧ target = op.original ∧ text = tuple op := by
  unfold expectedCall at h
  split at h <;> simp_all

theorem expectedCall_reset {op : L850MutationOperation} {target : ModemRef} {text : CString}
    (h : expectedCall op = some (.resetReady,target,text)) : op.phase = .resetCommand := by
  unfold expectedCall at h
  split at h <;> simp_all

theorem expectedCall_nvm {op : L850MutationOperation} {target : ModemRef} {text : CString}
    (h : expectedCall op = some (.nvmReady,target,text)) : text = l850glL850NvmQueryCommand ∧
      (op.phase = .preResetNvmVerify ∧ target = op.original ∨
        op.phase = .nvmVerify ∧ target = l850MutationResponseModem op) := by
  unfold expectedCall at h
  split at h <;> simp_all

theorem expectedCall_cell {op : L850MutationOperation} {target : ModemRef} {text : CString}
    (h : expectedCall op = some (.cellReady,target,text)) : op.phase = .cellVerify ∧
      target = l850MutationResponseModem op ∧ text = l850glL850ScanCommand := by
  unfold expectedCall at h
  split at h <;> simp_all

theorem Idle.sameOriginal (h : Idle object s) {source : Nat}
    (hvalid : l850MutationOriginalIsValid s source = true) :
    SameOriginal s.operation.lock object (s.modem s.operation.original) := by
  simp only [l850MutationOriginalIsValid,Bool.and_eq_true,beq_iff_eq] at hvalid
  obtain ⟨⟨⟨⟨hlive,hgeneration⟩,-⟩,hattest⟩,hphysdev⟩ := hvalid
  exact ⟨hlive,h.object,hgeneration,hphysdev,hattest⟩

theorem unharmed_of_certain {op : L850MutationOperation} {error : Option GError}
    (h : ¬ l850MutationErrorIsUncertain op error = true) : Unharmed op := by
  simp only [l850MutationErrorIsUncertain,Bool.or_eq_true,not_or,Bool.not_eq_true] at h
  exact ⟨h.1.1.1,h.1.1.2⟩

theorem dispatchSet_inv (h : Idle object s) (hu : Unharmed s.operation)
    (hprobe : s.operation.lock.ProbeAccepted s.trace)
    (htuple : ∀ o ∈ s.trace, ¬ s.operation.lock.IsTuple o)
    (hreset : ∀ o ∈ s.trace, ¬ Lock.IsReset o) : Inv object (l850MutationDispatchSet s) := by
  unfold l850MutationDispatchSet
  split
  · exact h.completeFailure _ _ _
  · rename_i hvalid
    have hsame := h.sameOriginal (not_not.mp hvalid)
    have h₁ := h.withOperation {s.operation with
      phase := .setCommand,setDispatched := true,commandPending := true} rfl
    refine h₁.dispatch hu rfl (.tuple hsame hprobe htuple) ?_
    exact List.forall_mem_cons.mpr ⟨h.command.not_isReset _ _,hreset⟩

theorem probeReady_inv (h : Replied object s call result) (hcall : call.callback = .probeReady) :
    Inv object (l850MutationProbeReady s call.source result) := by
  obtain ⟨past,htrace,hfacts⟩ := h.past
  obtain ⟨hphase,htarget,htext⟩ := expectedCall_probe (hcall ▸ h.expected)
  have h₁ := h.idle.withOperation {s.operation with commandPending := false} rfl
  simp only [PhaseFacts,hphase] at hfacts
  unfold l850MutationProbeReady
  dsimp only
  split
  · exact h₁.completeFailure _ _ _
  split
  · rename_i response herror hresponse
    split
    · exact h₁.completeFailure _ _ _
    · rename_i lockState hparse
      refine dispatchSet_inv h₁ (h.unharmed herror) ?_ ?_ ?_
      · exact ⟨call,result,s.bridge.now,response,lockState,htrace ▸ List.mem_cons_self,hcall,
          htarget,htext,herror,hresponse,hparse⟩
      · show ∀ o ∈ s.trace,_
        rw [htrace]
        exact List.forall_mem_cons.mpr ⟨by simp [Lock.IsTuple],hfacts.1⟩
      · show ∀ o ∈ s.trace,_
        rw [htrace]
        exact List.forall_mem_cons.mpr ⟨by simp [Lock.IsReset],hfacts.2⟩
  · exact h₁.completeFailure _ _ _

theorem setReady_inv (h : Replied object s call result) (hcall : call.callback = .setReady) :
    Inv object (l850MutationSetReady s call.source result) := by
  obtain ⟨past,htrace,hfacts⟩ := h.past
  obtain ⟨hphase,htarget,htext⟩ := expectedCall_set (hcall ▸ h.expected)
  have h₁ := h.idle.withOperation {s.operation with commandPending := false} rfl
  simp only [PhaseFacts,hphase] at hfacts
  unfold l850MutationSetReady
  dsimp only
  split
  · exact h₁.completeFailure _ _ _
  split
  · rename_i response herror hresponse
    split
    · exact h₁.completeFailure _ _ _
    · rename_i hack
      have hexact : response = l850SetSuccess := by
        simpa [l850glL850SetResponseIsSuccess] using hack
      have h₂ := h₁.withOperation {s.operation with
        commandPending := false,configurationAcknowledged := true} rfl
      refine h₂.startPreReset (h.unharmed herror) ?_ ?_
      · exact ⟨call,result,s.bridge.now,htrace ▸ List.mem_cons_self,hcall,htarget,htext,herror,
          hexact ▸ hresponse⟩
      · show ∀ o ∈ s.trace,_
        rw [htrace]
        exact List.forall_mem_cons.mpr ⟨by simp [Lock.IsReset],hfacts⟩
  · exact h₁.completeFailure _ _ _

theorem startReprobe_inv (h : Idle object s) (hu : Unharmed s.operation)
    (hreset : Occurs [s.operation.lock.ResetOfOriginal] s.trace) :
    Inv object (l850MutationStartReprobe s) := by
  have h₁ := h.withOperation {s.operation with
    phase := .reprobe
    phaseDeadline := s.bridge.now+l850ReprobeTimeoutSeconds*Bridge.usec} rfl
  exact h₁.replaceCancellable.armPoll hu rfl hreset l850ReprobePollMs

theorem resetReady_inv (h : Replied object s call result) (hcall : call.callback = .resetReady) :
    Inv object (l850MutationResetReady s result) := by
  obtain ⟨past,htrace,hfacts⟩ := h.past
  have hphase := expectedCall_reset (hcall ▸ h.expected)
  have h₁ := h.idle.withOperation {s.operation with commandPending := false} rfl
  simp only [PhaseFacts,hphase] at hfacts
  unfold l850MutationResetReady
  dsimp only
  split
  · exact h₁.completeFailure _ _ _
  rename_i hflags
  split
  · exact h₁.completeFailure _ _ _
  · refine startReprobe_inv h₁ ?_ ?_
    · simpa [Unharmed] using hflags
    · show Occurs _ s.trace
      rw [htrace]
      exact hfacts.cons _

theorem nvmVerified_pre (h : Idle object s) (hu : Unharmed s.operation)
    (hack : s.operation.lock.Acknowledged s.trace) (hwindow : openWindow s.trace = some .preReset)
    (hreads : ∃ last previous rest, windowReads s.trace = last::previous::rest ∧
      last.1.target = s.operation.original ∧ s.operation.lock.Matches last.2 ∧
      previous.1.target = s.operation.original ∧ s.operation.lock.Matches previous.2)
    (hreset : ∀ o ∈ s.trace, ¬ Lock.IsReset o) : Inv object (nvmVerified s true) := by
  have h₁ := h.withOperation {s.operation with verificationStage := none} rfl
  show Inv object (l850MutationStartReset _)
  unfold l850MutationStartReset
  split
  · exact h₁.completeFailure _ _ _
  · rename_i hvalid
    have hsame := h₁.sameOriginal (not_not.mp hvalid)
    have h₂ := h₁.withOperation {s.operation with
      verificationStage := none
      phase := .resetCommand,resetDispatched := true,commandPending := true} rfl
    refine h₂.dispatch hu rfl (.reset hsame hack hwindow hreads hreset) ?_
    exact Occurs.nil.push ⟨_,rfl⟩

theorem nvmVerified_post (h : Idle object s) (hu : Unharmed s.operation)
    (deadline : Int) {ref : ModemRef} {record : Modem}
    (href : s.operation.replacement = some ref) (hadoptable : Adoptable s.operation.lock ref record)
    (hoccurs : Occurs (s.operation.lock.MatchingRead ref deadline::
      s.operation.lock.opening ref record deadline) s.trace) :
    Inv object (nvmVerified s false) := by
  have h₁ := h.withOperation {s.operation with verificationStage := none} rfl
  unfold nvmVerified
  simp only [Bool.false_eq_true,if_false]
  split
  · rename_i hclear
    refine h₁.completeSuccess ⟨h.undisturbed hu,?_,ref,record,deadline,hadoptable,hoccurs⟩
    exact iff_of_true rfl hclear
  · rename_i hset
    have hquery : l850glL850ScanCommand = l850glL850NvmQueryCommand ∨
        l850glL850ScanCommand = l850glL850ScanCommand := .inr rfl
    have htype : s.operation.type = .set := by
      cases ht : s.operation.type with
      | set => rfl
      | clear => exact absurd ht hset
    have h₂ := h.withOperation {s.operation with
      verificationStage := none,phase := .cellVerify,commandPending := true} rfl
    refine h₂.dispatch hu rfl (.query hquery) ?_
    exact ⟨htype,ref,record,deadline,href,hadoptable,hoccurs.cons _⟩

/-- What an accepted read tells a verifier in the pre-reset window. -/
theorem preReset_retry {op : L850MutationOperation} {past : List Observation} {now : Int}
    {o : NvmObservation} (hcall : call.callback = .nvmReady) (htarget : call.target = op.original)
    (hstage : op.nvmVerifier.stage = .preReset)
    (hmatch : o = .matched → op.lock.Matches result)
    (hretry : (l850glNvmVerifierObserve op.nvmVerifier o).2 = .retry) :
    (l850glNvmVerifierObserve op.nvmVerifier o).1.consecutiveMatches = 0 ∨
      (l850glNvmVerifierObserve op.nvmVerifier o).1.consecutiveMatches = 1 ∧
        ∃ read rest, windowReads (.finished call result now::past) = read::rest ∧
          read.1.target = op.original ∧ op.lock.Matches read.2 := by
  rcases l850glNvmVerifierObserve_retry hretry with hzero | ⟨ho,hcount,hlt⟩
  · exact .inl hzero
  · have h₁ : requiredMatches op.nvmVerifier.stage = 2 := by rw [hstage]; rfl
    refine .inr ⟨by omega,(call,result),windowReads past,?_,htarget,hmatch ho⟩
    simp [windowReads,hcall]

theorem nvmReady_pre (h : Replied object s call result) (hcall : call.callback = .nvmReady)
    (hphase : s.operation.phase = .preResetNvmVerify)
    (htarget : call.target = s.operation.original) :
    Inv object (l850MutationNvmReady s call.source result) := by
  obtain ⟨past,htrace,hfacts⟩ := h.past
  simp only [PhaseFacts,hphase] at hfacts
  obtain ⟨hreset,hack,hwindow,hstage,hcount⟩ := hfacts
  have hreset' : ∀ o ∈ s.trace,¬ Lock.IsReset o := by
    rw [htrace]
    exact List.forall_mem_cons.mpr ⟨by simp [Lock.IsReset],hreset⟩
  have hack' : s.operation.lock.Acknowledged s.trace := by
    obtain ⟨c,r,now,hm,hrest⟩ := hack
    exact ⟨c,r,now,htrace ▸ List.mem_cons_of_mem _ hm,hrest⟩
  have hwindow' : openWindow s.trace = some .preReset := by rw [htrace]; exact hwindow
  have h₁ := h.idle.withOperation {s.operation with commandPending := false} rfl
  have hpre : (s.operation.phase == .preResetNvmVerify) = true := by rw [hphase]; rfl
  unfold l850MutationNvmReady
  simp only [hpre,if_true]
  split
  · exact h₁.completeFailure _ _ _
  split
  · rename_i response herror hresponse
    have hu := h.unharmed herror
    split
    · exact (h.idle.withOperation {s.operation with
        commandPending := false
        nvmVerifier := (l850glNvmVerifierObserve s.operation.nvmVerifier .invalid).1}
        rfl).completeFailure _ _ _
    · rename_i lockState hparse
      generalize ho : (if l850glL850LockStateMatches lockState (s.operation.type == .clear)
        s.operation.earfcn s.operation.hasPci s.operation.pci = true then
        NvmObservation.matched else NvmObservation.mismatch) = o
      have hmatch : o = .matched → s.operation.lock.Matches result := by
        rintro rfl
        refine ⟨response,lockState,herror,hresponse,hparse,?_⟩
        show l850glL850LockStateMatches lockState (s.operation.type == .clear)
          s.operation.earfcn s.operation.hasPci s.operation.pci = true
        by_contra hn
        rw [if_neg hn] at ho
        cases ho
      have h₂ := h.idle.withOperation {s.operation with
        commandPending := false
        nvmVerifier := (l850glNvmVerifierObserve s.operation.nvmVerifier o).1} rfl
      split
      · exact h₂.completeFailure _ _ _
      split
      · exact h₂.completeFailure _ _ _
      split
      · rename_i hretry
        refine h₂.armPoll hu (by simp [L850MutationPhase.polls,hphase]) ?_ _
        simp only [PhaseFacts,hphase]
        refine ⟨hreset',hack',hwindow',?_,?_⟩
        · rw [l850glNvmVerifierObserve_stage]; exact hstage
        · rw [htrace]
          exact preReset_retry hcall htarget hstage hmatch hretry
      · rename_i hfail _ hretry
        have hready : (l850glNvmVerifierObserve s.operation.nvmVerifier o).2 = .ready := by
          cases hd : (l850glNvmVerifierObserve s.operation.nvmVerifier o).2 with
          | retry => exact absurd hd hretry
          | failInvalid => exact absurd hd hfail
          | ready => rfl
        obtain ⟨hmatched,hrequired⟩ := l850glNvmVerifierObserve_ready hready
        have htwo : requiredMatches s.operation.nvmVerifier.stage = 2 := by rw [hstage]; rfl
        obtain ⟨hone,read,rest,hread,hreadTarget,hreadMatch⟩ := hcount.resolve_left (by omega)
        refine nvmVerified_pre h₂ hu hack' hwindow' ⟨(call,result),read,rest,?_,htarget,
          hmatch hmatched,hreadTarget,hreadMatch⟩ hreset'
        show windowReads s.trace = _
        rw [htrace]
        simp [windowReads,hcall,hread]
  · exact h₁.completeFailure _ _ _

theorem nvmReady_post (h : Replied object s call result)
    (htext : call.command = l850glL850NvmQueryCommand)
    (hphase : s.operation.phase = .nvmVerify)
    (htarget : call.target = l850MutationResponseModem s.operation) :
    Inv object (l850MutationNvmReady s call.source result) := by
  obtain ⟨past,htrace,hfacts⟩ := h.past
  simp only [PhaseFacts,hphase] at hfacts
  obtain ⟨ref,record,href,hadoptable,hoccurs⟩ := hfacts
  have hoccurs' : Occurs (s.operation.lock.opening ref record s.operation.phaseDeadline)
      s.trace := by
    rw [htrace]
    exact hoccurs.cons _
  have h₁ := h.idle.withOperation {s.operation with commandPending := false} rfl
  have hpre : (s.operation.phase == .preResetNvmVerify) = false := by rw [hphase]; rfl
  unfold l850MutationNvmReady
  simp only [hpre,Bool.false_eq_true,if_false]
  split
  · exact h₁.completeFailure _ _ _
  split
  · rename_i response herror hresponse
    have hu := h.unharmed herror
    split
    · exact (h.idle.withOperation {s.operation with
        commandPending := false
        nvmVerifier := (l850glNvmVerifierObserve s.operation.nvmVerifier .invalid).1}
        rfl).completeFailure _ _ _
    · rename_i lockState hparse
      generalize ho : (if l850glL850LockStateMatches lockState (s.operation.type == .clear)
        s.operation.earfcn s.operation.hasPci s.operation.pci = true then
        NvmObservation.matched else NvmObservation.mismatch) = o
      have h₂ := h.idle.withOperation {s.operation with
        commandPending := false
        nvmVerifier := (l850glNvmVerifierObserve s.operation.nvmVerifier o).1} rfl
      split
      · exact h₂.completeFailure _ _ _
      split
      · exact h₂.completeFailure _ _ _
      rename_i hdeadline
      split
      · refine h₂.armPoll hu (by simp [L850MutationPhase.polls,hphase]) ?_ _
        simp only [PhaseFacts,hphase]
        exact ⟨ref,record,href,hadoptable,hoccurs'⟩
      · rename_i hfail hretry
        have hmatched : o = .matched := by
          cases o with
          | matched => rfl
          | mismatch => exact absurd rfl hretry
          | invalid => exact absurd rfl hfail
        have hmatches : s.operation.lock.Matches result := by
          refine ⟨response,lockState,herror,hresponse,hparse,?_⟩
          show l850glL850LockStateMatches lockState (s.operation.type == .clear)
            s.operation.earfcn s.operation.hasPci s.operation.pci = true
          by_contra hn
          rw [if_neg hn,hmatched] at ho
          cases ho
        refine nvmVerified_post h₂ hu s.operation.phaseDeadline href hadoptable ?_
        show Occurs _ s.trace
        rw [htrace]
        refine hoccurs.push ⟨call,result,s.bridge.now,rfl,?_,htext,hmatches,Int.not_le.mp hdeadline⟩
        rw [htarget,l850MutationResponseModem,href]
        rfl
  · exact h₁.completeFailure _ _ _

theorem nvmReady_inv (h : Replied object s call result) (hcall : call.callback = .nvmReady) :
    Inv object (l850MutationNvmReady s call.source result) := by
  obtain ⟨htext,⟨hphase,htarget⟩ | ⟨hphase,htarget⟩⟩ := expectedCall_nvm (hcall ▸ h.expected)
  · exact nvmReady_pre h hcall hphase htarget
  · exact nvmReady_post h htext hphase htarget

theorem filter_serving_eq {cells : List L850Cell} {serving : L850Cell}
    (hcount : servingCount cells ≤ 1)
    (hlast : (cells.filter (·.serving)).getLast? = some serving) :
    cells.filter (·.serving) = [serving] := by
  rw [servingCount,List.countP_eq_length_filter] at hcount
  cases hc : cells.filter (·.serving) with
  | nil => simp [hc] at hlast
  | cons cell rest =>
    cases rest with
    | nil =>
      rw [hc] at hlast
      simp only [List.getLast?_singleton,Option.some.injEq] at hlast
      rw [hlast]
    | cons other rest => simp [hc] at hcount

theorem cellReady_inv (h : Replied object s call result) (hcall : call.callback = .cellReady) :
    Inv object (l850MutationCellReady s call.source result) := by
  obtain ⟨past,htrace,hfacts⟩ := h.past
  obtain ⟨hphase,htarget,htext⟩ := expectedCall_cell (hcall ▸ h.expected)
  simp only [PhaseFacts,hphase] at hfacts
  obtain ⟨htype,ref,record,deadline,href,hadoptable,hoccurs⟩ := hfacts
  have h₁ := h.idle.withOperation {s.operation with commandPending := false} rfl
  unfold l850MutationCellReady
  dsimp only
  split
  · exact h₁.completeFailure _ _ _
  split
  · rename_i response herror hresponse
    split
    · exact h₁.completeFailure _ _ _
    rename_i cells hparse
    split
    · exact h₁.completeFailure _ _ _
    split
    · exact h₁.completeFailure _ _ _
    rename_i serving hserving
    split
    · exact h₁.completeFailure _ _ _
    rename_i hmatch
    split
    · exact h₁.completeFailure _ _ _
    rename_i modem hstore
    have hu := h.unharmed herror
    have hone := filter_serving_eq (l850glL850CellParse_serving hparse) hserving
    have h₂ : Idle object {s with
        operation := {s.operation with commandPending := false}
        bridge := s.bridge.updateModem (l850MutationResponseModem s.operation) modem} := by
      exact h₁.withBridge ((Bridge.updateModem_proxy s.bridge
        (Modem.servingCellCacheStore_proxy hstore) s.operation.original).trans h.idle.object)
    refine h₂.completeSuccess ⟨h.idle.undisturbed hu,?_,ref,record,deadline,hadoptable,?_⟩
    · exact iff_of_false (by simp) (by simp [L850MutationOperation.lock,htype])
    · show Occurs _ s.trace
      rw [htrace]
      refine hoccurs.push ⟨call,result,s.bridge.now,response,cells,rfl,?_,htext,herror,hresponse,
        hparse,hone,?_,?_⟩
      · rw [htarget,l850MutationResponseModem,href]
        rfl
      · by_contra hn
        exact hmatch (.inl hn)
      · intro hp
        by_contra hn
        exact hmatch (.inr ⟨hp,hn⟩)
  · exact h₁.completeFailure _ _ _

theorem isReplacement_adoptable {ref : ModemRef} (h : isReplacement s ref = true) :
    Adoptable s.operation.lock ref (s.modem ref) := by
  simp only [isReplacement,Bool.and_eq_true,bne_iff_ne,ne_eq,beq_iff_eq] at h
  exact ⟨h.1.1.1,h.1.1.2,h.1.2,h.2⟩

theorem findReplacement_found {ref : ModemRef} (h : l850MutationFindReplacement s = .found ref) :
    Adoptable s.operation.lock ref (s.modem ref) := by
  unfold l850MutationFindReplacement at h
  split at h
  · cases h
  · rename_i other hlist
    have hmem : ref ∈ s.bridge.l850glBridgeSnapshotModems.filter (isReplacement s) := by
      rw [hlist]
      cases h
      exact List.mem_singleton_self _
    exact isReplacement_adoptable (List.of_mem_filter hmem)
  · cases h

theorem adoptReplacement_idle (h : Idle object s) {ref : ModemRef}
    (hadoptable : Adoptable s.operation.lock ref (s.modem ref)) :
    Idle object (adoptReplacement s ref) := by
  have h₁ := h.withOperation {s.operation with
    replacement := some ref
    replacementGeneration := (s.modem ref).generation
    phase := .registration
    phaseDeadline := s.bridge.now+l850RegistrationTimeoutSeconds*Bridge.usec
    pollSource := 0} rfl
  have hother : s.operation.original ≠ ref := hadoptable.other.symm
  have hobject : ((s.bridge.updateModem ref
      (s.modem ref).acquireL850).modems
        s.operation.original).modem = object := by
    rw [Bridge.updateModem_other _ _ hother]
    exact h.object
  have h₂ := h₁.withBridge hobject
  exact h₂.observe (o := .adopted ref (s.modem ref)) (by simp [Benign,Lock.IsReply]) trivial

/-- A poll either comes back to the same state with its source armed, or hands the operation on. -/
theorem poll_inv (h : Idle object s) (hfacts : PhaseFacts s.operation s.trace) :
    (l850MutationPoll s).2 = true ∧ (l850MutationPoll s).1 = s ∧ Unharmed s.operation ∨
      (l850MutationPoll s).2 = false ∧ Inv object (l850MutationPoll s).1 := by
  have h₁ := h.withOperation {s.operation with pollSource := 0} rfl
  unfold l850MutationPoll
  dsimp only
  split
  · exact .inr ⟨rfl,h₁.completeFailure _ _ _⟩
  rename_i hflags
  have hu : Unharmed s.operation := by
    simp only [not_or,Bool.not_eq_true] at hflags
    exact ⟨hflags.1,hflags.2.1⟩
  split
  · rename_i hphase
    split
    · exact .inr ⟨rfl,h₁.completeFailure _ _ _⟩
    split
    · exact .inr ⟨rfl,h₁.completeFailure _ _ _⟩
    · exact .inr ⟨rfl,h₁.startNvmCommand hu (.inl hphase) hfacts⟩
  · rename_i hphase
    split
    · exact .inr ⟨rfl,h₁.completeFailure _ _ _⟩
    split
    · exact .inr ⟨rfl,h₁.completeFailure _ _ _⟩
    · exact .inr ⟨rfl,h₁.startNvmCommand hu (.inr hphase) hfacts⟩
  · rename_i hphase
    simp only [PhaseFacts,hphase] at hfacts
    split
    · exact .inr ⟨rfl,h₁.completeFailure _ _ _⟩
    · rename_i ref href
      split
      · exact .inr ⟨rfl,h₁.completeFailure _ _ _⟩
      have hadoptable := findReplacement_found href
      have h₂ := adoptReplacement_idle h hadoptable
      have h₃ : Occurs (s.operation.lock.adoption ref (s.modem ref))
          (adoptReplacement s ref).trace := hfacts.push rfl
      split
      · rename_i hregistered
        have h₄ := h₂.observe (o := .registered ref (s.modem ref))
          (by simp [Benign,Lock.IsReply]) trivial
        exact .inr ⟨rfl,h₄.startPostReset hu rfl hadoptable (h₃.push ⟨_,rfl,hregistered⟩)⟩
      · exact .inr ⟨rfl,h₂.armPoll hu rfl ⟨ref,s.modem ref,rfl,hadoptable,h₃⟩ _⟩
    · split
      · exact .inr ⟨rfl,h₁.completeFailure _ _ _⟩
      · exact .inl ⟨rfl,rfl,hu⟩
  · rename_i hphase
    simp only [PhaseFacts,hphase] at hfacts
    obtain ⟨ref,record,href,hadoptable,hoccurs⟩ := hfacts
    have hresponse : l850MutationResponseModem s.operation = ref := by
      rw [l850MutationResponseModem,href]
      rfl
    split
    · exact .inr ⟨rfl,h₁.completeFailure _ _ _⟩
    split
    · rename_i hregistered
      rw [hresponse] at hregistered ⊢
      have h₂ := h₁.observe (o := .registered ref (s.modem ref))
        (by simp [Benign,Lock.IsReply]) trivial
      exact .inr ⟨rfl,h₂.startPostReset hu href hadoptable (hoccurs.push ⟨_,rfl,hregistered⟩)⟩
    split
    · exact .inr ⟨rfl,h₁.completeFailure _ _ _⟩
    · exact .inl ⟨rfl,rfl,hu⟩
  · exact .inr ⟨rfl,h₁.completeFailure _ _ _⟩

theorem commandReady_inv (h : Replied object s call result) :
    Inv object (commandReady s call result) := by
  unfold commandReady
  cases hcall : call.callback with
  | probeReady => exact probeReady_inv h hcall
  | setReady => exact setReady_inv h hcall
  | nvmReady => exact nvmReady_inv h hcall
  | resetReady => exact resetReady_inv h hcall
  | cellReady => exact cellReady_inv h hcall

end Mutation
end L850GL
