import L850GL.Mutation.Callbacks

/-! The invariant of a lock operation over whole runs. -/
namespace L850GL
namespace Mutation

open Cell Errors State

variable {object : Nat} {s t : State}

theorem Waiting.withBridge {wait : Wait} (h : Waiting object s wait) (bridge : Bridge) :
    Waiting object {s with bridge := s.bridge.refresh bridge} wait :=
  { h with idle := h.idle.withBridge h.idle.object }

/-- A finished call hands its state to the callback. -/
theorem Waiting.replied {pending : PendingCall} (h : Waiting object s (.reply pending))
    (result : CommandResult) :
    Replied object (({s with calls := []}).observe
      (.finished pending (s.mmModemCommandFinish pending result) s.bridge.now)) pending
      (s.mmModemCommandFinish pending result) := by
  have hsources : s.sources = timeoutSources s.operation :=
    h.sources.trans (List.append_nil _)
  have h₁ : Idle object {s with calls := []} := { h.idle with
    reasons := h.idle.reasons
    command := h.idle.command
    sources := hsources }
  refine ⟨h₁.observe (by simp [Benign,Lock.IsReply]) trivial,⟨_,rfl,h.facts⟩,h.fits.2,?_⟩
  intro herror
  refine h.cancelled.resolve_right fun hcancelled => ?_
  rw [← h.fits.1] at hcancelled
  simp [mmModemCommandFinish,hcancelled] at herror

theorem step_finish {wait : Wait} (h : Waiting object s wait) {index : Nat}
    {result : CommandResult} {bridge : Bridge}
    (hstep : step s (.finish index result bridge) = some t) : Inv object t := by
  unfold step at hstep
  dsimp only at hstep
  split at hstep
  · cases hstep
  · rename_i call hcall
    rw [h.calls] at hcall
    cases wait with
    | tick source => simp [Wait.calls] at hcall
    | reply pending =>
      cases index with
      | succ index => simp [Wait.calls] at hcall
      | zero =>
        simp only [Wait.calls,List.getElem?_cons_zero,
          Option.some.injEq] at hcall
        subst hcall
        have h₁ := commandReady_inv ((h.withBridge bridge).replied result)
        rw [Option.some.injEq] at hstep
        rw [← hstep]
        have h₂ : s.calls.eraseIdx 0 = [] := by rw [h.calls]; rfl
        rw [h₂]
        exact h₁

/-- The global timeout fires while the operation waits. -/
theorem Waiting.timeout {wait : Wait} (h : Waiting object s wait) :
    Waiting object (l850MutationTimeout {s with sources := wait.sources}) wait := by
  have h₁ := h.idle
  have hfacts := h.facts.cons (o := .deadlineFired) (by simp [Lock.IsTuple])
    (by simp [Lock.IsReset]) rfl rfl
  exact {
    idle := {
      reasons := h₁.reasons.cons trivial
      command := h₁.command
      live := h₁.live
      calls := rfl
      sources := rfl
      next := ⟨h₁.next.2,h₁.next.2⟩
      cancellables := by
        intro c hc
        rcases List.mem_cons.mp hc with rfl | hc
        · exact h₁.cancellable_lt
        · exact h₁.cancellables c hc
      object := h₁.object
      timeout := .inl List.mem_cons_self
      deadline := fun _ => rfl
      lost := fun hm => h₁.lost (by
        simpa [l850MutationTimeout,State.observe,State.gCancellableCancel] using hm)
      stopping := h₁.stopping
      replies := List.forall_mem_cons.mpr ⟨by simp [Lock.IsReply],h₁.replies⟩
      free := by simpa [l850MutationTimeout,State.observe,State.gCancellableCancel] using h₁.free
      connection := h₁.connection }
    calls := h.calls
    sources := rfl
    next := h.next
    fits := by
      cases wait with
      | reply pending => exact h.fits
      | tick source => exact ⟨h.fits.1,h.fits.2.1,(Nat.zero_le _).trans_lt h.fits.2.2.1,
          h.fits.2.2.2⟩
    facts := hfacts
    cancelled := .inr List.mem_cons_self }

theorem step_source {wait : Wait} (h : Waiting object s wait) {id : Nat} {bridge : Bridge}
    (hstep : step s (.source id bridge) = some t) : Inv object t := by
  unfold step at hstep
  dsimp only at hstep
  split at hstep
  · cases hstep
  rename_i source hfind
  rw [Option.some.injEq] at hstep
  have hmem := List.mem_of_find?_eq_some hfind
  rw [h.sources,List.mem_append] at hmem
  have h₁ := h.withBridge bridge
  rcases hmem with hmem | hmem
  · -- the global timeout
    unfold timeoutSources at hmem
    split at hmem
    · cases hmem
    rename_i harmed
    have hsource := List.mem_singleton.mp hmem
    subst hsource
    have hkeep : (s.sources.filter fun other => other.id != s.operation.timeoutSource) =
        wait.sources := by
      have h₂ : ∀ other ∈ wait.sources, (other.id != s.operation.timeoutSource) = true := by
        intro other hother
        cases wait with
        | reply pending => cases hother
        | tick source =>
          have h₃ := List.mem_singleton.mp hother
          have h₄ := h.fits.2.2.1
          simp only [bne_iff_ne,ne_eq,h₃]
          omega
      rw [h.sources,List.filter_append,List.filter_eq_self.mpr h₂]
      simp [timeoutSources,harmed]
    rw [← hstep]
    unfold dispatchSource
    dsimp only
    rw [hkeep]
    exact .inr ⟨wait,h₁.timeout⟩
  · -- a poll tick
    cases wait with
    | reply pending => cases hmem
    | tick armed =>
      have hsource := List.mem_singleton.mp hmem
      subst hsource
      have hkeep : (s.sources.filter fun other => other.id != source.id) =
          timeoutSources s.operation := by
        have h₂ : s.operation.timeoutSource ≠ source.id := h.fits.2.2.1.ne
        rw [h.sources,List.filter_append]
        unfold timeoutSources
        split <;> simp [Wait.sources,h₂]
      have hidle : Idle object {s with
          bridge := s.bridge.refresh bridge,sources := timeoutSources s.operation} :=
        { h₁.idle with
          reasons := h₁.idle.reasons
          command := h₁.idle.command
          calls := h.calls }
      rw [← hstep]
      unfold dispatchSource
      dsimp only
      rw [hkeep,h.fits.1]
      dsimp only
      rcases poll_inv hidle h.facts with ⟨hagain,hsame,hu⟩ | ⟨hdone,hinv⟩
      · rw [if_pos hagain,hsame]
        refine .inr ⟨.tick source,?_⟩
        exact { h₁ with
          idle := h₁.idle
          sources := rfl
          fits := h.fits }
      · rw [if_neg (by simp [hdone])]
        exact hinv

/-- The end of the connection while the operation waits. -/
theorem Waiting.cancel {wait : Wait} (h : Waiting object s wait) {o : Observation} {ubus : Ubus}
    (ho : o = .connectionLost ∨ o = .stopped) :
    Waiting object (cancelL850MutationOperations (({s with ubus := ubus}).observe o) true)
      wait := by
  have h₁ := h.idle
  have hlive : s.released = false := h₁.live
  have hfacts : PhaseFacts s.operation (o::s.trace) := by
    rcases ho with rfl | rfl <;>
      exact h.facts.cons (by simp [Lock.IsTuple]) (by simp [Lock.IsReset]) rfl rfl
  have hreply : ¬ Lock.IsReply o := by rcases ho with rfl | rfl <;> simp [Lock.IsReply]
  have hreleased : Observation.released ≠ o := by rcases ho with rfl | rfl <;> simp
  have hdeadline : Observation.deadlineFired ≠ o := by rcases ho with rfl | rfl <;> simp
  have hreason : Reason s.operation.lock object s.trace o := by
    rcases ho with rfl | rfl <;> trivial
  have hcancel : cancelL850MutationOperations (({s with ubus := ubus}).observe o) true =
      {s with
        ubus := ubus
        trace := o::s.trace
        operation := {s.operation with deferred := false,transportLost := true}
        cancelled := s.operation.cancellable::s.cancelled} := by
    simp [cancelL850MutationOperations,State.observe,State.gCancellableCancel,hlive]
  rw [hcancel]
  exact {
    idle := {
      reasons := h₁.reasons.cons hreason
      command := h₁.command
      live := hlive
      calls := rfl
      sources := rfl
      next := h₁.next
      cancellables := by
        intro c hc
        rcases List.mem_cons.mp hc with rfl | hc
        · exact h₁.cancellable_lt
        · exact h₁.cancellables c hc
      object := h₁.object
      timeout := h₁.timeout.imp (List.mem_cons_of_mem _) id
      deadline := fun hm => h₁.deadline ((List.mem_cons.mp hm).resolve_left hdeadline)
      lost := fun _ => rfl
      stopping := fun _ => rfl
      replies := List.forall_mem_cons.mpr ⟨hreply,h₁.replies⟩
      free := fun hm => h₁.free ((List.mem_cons.mp hm).resolve_left hreleased)
      connection := by simp }
    calls := h.calls
    sources := h.sources
    next := h.next
    fits := by cases wait <;> exact h.fits
    facts := hfacts
    cancelled := .inr List.mem_cons_self }

/-- A change of the connection that leaves the operation alone. -/
theorem Waiting.withUbus {wait : Wait} (h : Waiting object s wait) {ubus : Ubus}
    (hstopping : ubus.stopping = true → s.ubus.stopping = true)
    (hconnection : s.ubus.connected = true →
      ubus.connected = true ∧ ubus.connection = s.ubus.connection) :
    Waiting object {s with ubus := ubus} wait :=
  { h with
    idle := { h.idle with
      reasons := h.idle.reasons
      command := h.idle.command
      stopping := fun hs => h.idle.stopping (hstopping hs)
      connection := fun hd => by
        have h₁ := h.idle.connection hd
        have h₂ := hconnection h₁.1
        exact ⟨h₂.1,h₂.2.trans h₁.2⟩ } }

theorem step_waiting {wait : Wait} (h : Waiting object s wait) {event : Event}
    (hstep : step s event = some t) : Inv object t := by
  cases event with
  | finish index result bridge => exact step_finish h hstep
  | source id bridge => exact step_source h hstep
  | connectionLost bridge =>
    have h₁ := h.withBridge bridge
    simp only [step,connectionLost,Option.some.injEq] at hstep
    subst hstep
    split
    · exact .inr ⟨wait,h₁⟩
    · exact .inr ⟨wait,h₁.cancel (.inl rfl)⟩
  | reconnected bridge =>
    have h₁ := h.withBridge bridge
    simp only [step] at hstep
    split at hstep
    · cases hstep
    · rename_i hdown
      rw [not_or] at hdown
      rw [Option.some.injEq] at hstep
      subst hstep
      exact .inr ⟨wait,h₁.withUbus id fun hc => absurd hc hdown.1⟩
  | shutdown bridge =>
    have h₁ := h.withBridge bridge
    simp only [step] at hstep
    split at hstep
    · cases hstep
    · rename_i hdown
      rw [Option.some.injEq] at hstep
      subst hstep
      exact .inr ⟨wait,h₁.withUbus id fun hc => absurd hc hdown⟩
  | stop bridge =>
    have h₁ := h.withBridge bridge
    simp only [step,l850glUbusStop,Option.some.injEq] at hstep
    subst hstep
    split
    · exact .inr ⟨wait,h₁⟩
    · exact .inr ⟨wait,h₁.cancel (.inr rfl)⟩

theorem step_released (h : Released object s) {event : Event} (hstep : step s event = some t) :
    Released object t := by
  have hcancel : ∀ u : State, u.released = true → ∀ b, cancelL850MutationOperations u b = u := by
    intro u hu b
    simp [cancelL850MutationOperations,hu]
  cases event with
  | finish index result bridge => simp [step,h.calls] at hstep
  | source id bridge => simp [step,h.sources] at hstep
  | connectionLost bridge =>
    simp only [step,connectionLost,Option.some.injEq] at hstep
    subst hstep
    split
    · exact { h with reasons := h.reasons,command := h.command }
    · rw [hcancel]
      · exact { h with reasons := h.reasons.cons trivial,command := h.command }
      · exact h.released
  | reconnected bridge =>
    simp only [step] at hstep
    split at hstep
    · cases hstep
    · rw [Option.some.injEq] at hstep
      subst hstep
      exact { h with reasons := h.reasons,command := h.command }
  | shutdown bridge =>
    simp only [step] at hstep
    split at hstep
    · cases hstep
    · rw [Option.some.injEq] at hstep
      subst hstep
      exact { h with reasons := h.reasons,command := h.command }
  | stop bridge =>
    simp only [step,l850glUbusStop,Option.some.injEq] at hstep
    subst hstep
    split
    · exact { h with reasons := h.reasons,command := h.command }
    · rw [hcancel]
      · exact { h with reasons := h.reasons.cons trivial,command := h.command }
      · exact h.released

theorem step_inv {event : Event} (h : Inv object s) (hstep : step s event = some t) :
    Inv object t := by
  rcases h with h | ⟨wait,h⟩
  · exact .inl (step_released h hstep)
  · exact step_waiting h hstep

theorem buildSetCommand_length {earfcn : Nat} {hasPci : Bool} {pci size : Nat} {command : CString}
    (h : l850glL850BuildSetCommand earfcn hasPci pci size = some command) :
    IsTupleText command ∧ command.length < size := by
  unfold l850glL850BuildSetCommand at h
  split at h
  · cases h
  split at h
  · cases h
  generalize (if hasPci = true then pci else l850glL850PciWildcard) = shown at h
  dsimp only at h
  split at h
  · cases h
  · rename_i hlength
    rw [Option.some.injEq] at h
    subst h
    refine ⟨?_,not_le.mp hlength⟩
    simp only [List.append_assoc]
    exact (by decide : "AT@SIC".toList <+: "AT@SIC:FREQ_LOCK(0,3,".toList).trans
      (List.prefix_append _ _)

theorem start_inv {ubus : Ubus} {bridge : Bridge} {ref : ModemRef} {type : L850MutationType}
    {earfcn pci band : Nat} {hasPci : Bool} {command : CString} (hubus : Ubus.serving ubus)
    (hcommand : type = .set → IsTupleText command ∧ command.length < l850glL850CommandMax)
    (h : l850MutationStart ubus bridge ref type earfcn hasPci pci band command = .started s) :
    Inv (bridge.modems ref).modem s := by
  unfold l850MutationStart l850MutationOperationNew at h
  dsimp only at h
  split at h
  · cases h
  rename_i u hnew
  rw [Admission.started.injEq] at h
  subst h
  split at hnew
  · cases hnew
  split at hnew
  · cases hnew
  rename_i physdev hphysdev hempty
  rw [Option.some.injEq] at hnew
  subst hnew
  have htext : ∀ op : L850MutationOperation, op.type = type →
      op.setCommand = command.take (l850glL850CommandMax-1) → IsTupleText op.lock.command := by
    intro op htype hset
    show IsTupleText (tuple op)
    unfold tuple
    cases ht : op.type with
    | clear => exact (by decide : "AT@SIC".toList <+: l850glL850ClearCommand)
    | set =>
      obtain ⟨h₁,h₂⟩ := hcommand (htype.symm.trans ht)
      have h₃ : command.take (l850glL850CommandMax-1) = command :=
        List.take_of_length_le (by omega)
      rw [hset,h₃]
      exact h₁
  refine .inr ⟨.reply ⟨.probeReady,ref,(bridge.modems ref).modem,l850glL850NvmQueryCommand,0⟩,?_⟩
  exact {
    idle := {
      reasons := by
        refine Justified.nil.cons ⟨⟨by simp,by simp,by simp,by simp⟩,?_,.query (.inl rfl)⟩
        simp [State.modem]
      command := htext _ rfl rfl
      live := rfl
      calls := rfl
      sources := rfl
      next := by simp [State.mmModemCommand]
      cancellables := by simp [State.mmModemCommand]
      object := by simp [State.mmModemCommand,State.modem]
      timeout := .inr (by simp [State.mmModemCommand])
      deadline := by simp [State.mmModemCommand]
      lost := by simp [State.mmModemCommand]
      stopping := by simp [State.mmModemCommand,hubus.2.2]
      replies := by simp [State.mmModemCommand,Lock.IsReply]
      free := by simp [State.mmModemCommand]
      connection := fun _ => ⟨hubus.1,rfl⟩ }
    calls := by simp [State.mmModemCommand,State.modem,Wait.calls]
    sources := rfl
    next := by simp [Wait.sources]
    fits := ⟨rfl,rfl⟩
    facts := by
      have hquery : l850glL850NvmQueryCommand = l850glL850NvmQueryCommand ∨
        l850glL850NvmQueryCommand = l850glL850ScanCommand := .inl rfl
      exact ⟨List.forall_mem_singleton.mpr (not_isTuple_query (htext _ rfl rfl) hquery _ _),
        List.forall_mem_singleton.mpr (not_isReset_query hquery _ _)⟩
    cancelled := .inl ⟨rfl,rfl⟩ }

theorem methodSetCellLock_inv {tables : Tables} {ubus : Ubus} {bridge : Bridge}
    {request : Option SetCellLockRequest} (hubus : Ubus.serving ubus)
    (h : methodSetCellLock tables ubus bridge request = .started s) : ∃ object, Inv object s := by
  unfold methodSetCellLock refuseRequested at h
  dsimp only at h
  repeat' split at h
  all_goals first
    | cases h
    | exact ⟨_,start_inv hubus (fun _ => buildSetCommand_length ‹_›) h⟩

theorem methodClearCellLock_inv {tables : Tables} {ubus : Ubus} {bridge : Bridge}
    {request : Option ClearCellLockRequest} (hubus : Ubus.serving ubus)
    (h : methodClearCellLock tables ubus bridge request = .started s) :
    ∃ object, Inv object s := by
  unfold methodClearCellLock refuseRequested at h
  dsimp only at h
  repeat' split at h
  all_goals first
    | cases h
    | exact ⟨_,start_inv hubus (by simp) h⟩

/-- Every state of every run meets the invariant. -/
theorem reachable_inv (h : mutationSystem.Reachable s) : ∃ object, Inv object s := by
  refine h.invariant (P := fun s => ∃ object, Inv object s) ?_ ?_
  · rintro s ⟨tables,ubus,bridge,hubus,⟨request,hs⟩ | ⟨request,hs⟩⟩
    · exact methodSetCellLock_inv hubus hs
    · exact methodClearCellLock_inv hubus hs
  · rintro s event t ⟨object,hs⟩ hstep
    exact ⟨object,step_inv hs hstep⟩

end Mutation
end L850GL
