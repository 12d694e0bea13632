import L850GL.Mutation.WriteSafety

/-! No stuck, overlapping or runaway operation: one thing is always pending, a lost operation ends
at its next callback, and a released one keeps nothing. -/
namespace L850GL
namespace Mutation

open Cell Errors MutationPolicy State

variable {object : Nat} {s t : State} {call : PendingCall} {result : CommandResult}

def pollSources (s : State) : List Source := s.sources.filter fun source => source.callback == .poll

def isReply : Observation → Bool
  | .reply _ _ => true
  | _ => false

theorem isReply_iff {o : Observation} : isReply o = true ↔ Lock.IsReply o := by
  cases o <;> simp [isReply,Lock.IsReply]

/-- The global timeout fired or the connection that carried the request ended. -/
def Lost (s : State) : Prop :=
  .deadlineFired ∈ s.trace ∨ .connectionLost ∈ s.trace ∨ .stopped ∈ s.trace

theorem completeFailure_commands (s : State) (state code : String) (retryable : Bool) :
    (l850MutationCompleteFailure s state code retryable).released = true ∧
      commandsSent (l850MutationCompleteFailure s state code retryable) = commandsSent s := by
  refine ⟨rfl,?_⟩
  unfold commandsSent l850MutationCompleteFailure
  rw [completeBuffer_trace]
  split <;> simp [State.observe]

/-- The operation ends in a failure reply over the same commands. -/
def EndsWith (s t : State) : Prop := t.released = true ∧ commandsSent t = commandsSent s

theorem commandReady_lost (call : PendingCall) (hlost : ¬ Unharmed s.operation)
    (herror : result.error ≠ none) :
    EndsWith s (commandReady s call result) := by
  have huncertain : l850MutationErrorIsUncertain s.operation result.error = true := by
    by_contra hn
    exact hlost (unharmed_of_certain hn)
  have hflags : s.operation.timedOut = true ∨ s.operation.transportLost = true := by
    by_contra hn
    rw [not_or,Bool.not_eq_true,Bool.not_eq_true] at hn
    exact hlost hn
  unfold commandReady
  cases call.callback with
  | probeReady =>
    unfold l850MutationProbeReady
    dsimp only
    split
    · exact completeFailure_commands _ _ _ _
    split
    · exact absurd ‹_› herror
    · exact completeFailure_commands _ _ _ _
  | setReady =>
    unfold l850MutationSetReady
    dsimp only
    rw [if_pos (.inl huncertain)]
    exact completeFailure_commands _ _ _ _
  | nvmReady =>
    unfold l850MutationNvmReady
    dsimp only
    rw [if_pos (.inr (.inr (.inr huncertain)))]
    exact completeFailure_commands _ _ _ _
  | resetReady =>
    unfold l850MutationResetReady
    dsimp only
    rw [if_pos hflags]
    exact completeFailure_commands _ _ _ _
  | cellReady =>
    unfold l850MutationCellReady
    dsimp only
    rw [if_pos (.inr huncertain)]
    exact completeFailure_commands _ _ _ _

theorem poll_lost (hlost : ¬ Unharmed s.operation) :
    (l850MutationPoll s).2 = false ∧ EndsWith s (l850MutationPoll s).1 := by
  have hflags : s.operation.timedOut = true ∨ s.operation.transportLost = true ∨
      s.ubus.stopping = true := by
    by_contra hn
    rw [not_or,not_or,Bool.not_eq_true,Bool.not_eq_true] at hn
    exact hlost ⟨hn.1,hn.2.1⟩
  unfold l850MutationPoll
  dsimp only
  rw [if_pos hflags]
  exact ⟨rfl,completeFailure_commands _ _ _ _⟩

theorem Waiting.not_unharmed {wait : Wait} (h : Waiting object s wait) (hlost : Lost s) :
    ¬ Unharmed s.operation := by
  rintro ⟨htimedOut,htransport⟩
  rcases hlost with hd | hc
  · simpa [htimedOut] using h.idle.deadline hd
  · simpa [htransport] using h.idle.lost hc

/-- A reply, or a tick of the poll source. -/
def Event.resumes (s : State) : Event → Prop
  | .finish _ _ _ => True
  | .source id _ => ∃ source ∈ pollSources s, source.id = id
  | _ => False

theorem Waiting.resume_lost {wait : Wait} (h : Waiting object s wait) (hlost : Lost s)
    {event : Event} (hresumes : event.resumes s) (hstep : step s event = some t) :
    EndsWith s t := by
  have hharmed := h.not_unharmed hlost
  cases event with
  | finish index result bridge =>
    simp only [step] at hstep
    split at hstep
    · cases hstep
    · rename_i call hcall
      rw [Option.some.injEq] at hstep
      subst hstep
      have hpending : call.cancellable = s.operation.cancellable := by
        rw [h.calls] at hcall
        cases wait with
        | tick source => simp [Wait.calls] at hcall
        | reply pending =>
          have hmem := List.mem_of_getElem? hcall
          rw [List.mem_singleton.mp hmem]
          exact h.fits.1
      have hcancelled : call.cancellable ∈ s.cancelled :=
        hpending ▸ h.cancelled.resolve_left hharmed
      have herror : (s.mmModemCommandFinish call result).error ≠ none := by
        simp [mmModemCommandFinish,hcancelled]
      have h₁ := commandReady_lost call (s := ({s with
        bridge := s.bridge.refresh bridge,calls := s.calls.eraseIdx index}).observe
          (.finished call (s.mmModemCommandFinish call result) (s.bridge.refresh bridge).now))
        hharmed herror
      exact ⟨h₁.1,h₁.2.trans (by simp [commandsSent,State.observe])⟩
  | source id bridge =>
    simp only [step] at hstep
    split at hstep
    · cases hstep
    · rename_i source hfind
      rw [Option.some.injEq] at hstep
      subst hstep
      obtain ⟨armed,harmed,hid⟩ := hresumes
      have hmem := List.mem_of_find?_eq_some hfind
      have hfound : source.id = id := by simpa using List.find?_some hfind
      have hpoll : source.callback = .poll := by
        have harmedPoll := List.mem_filter.mp harmed
        rw [h.sources,List.mem_append] at hmem harmedPoll
        rcases hmem with hmem | hmem
        · -- the poll source has another identifier than the global timeout
          exfalso
          have htimeout : source.id = s.operation.timeoutSource ∧ source.callback = .timeout := by
            unfold timeoutSources at hmem
            split at hmem
            · cases hmem
            · rw [List.mem_singleton.mp hmem]
              exact ⟨rfl,rfl⟩
          rcases harmedPoll.1 with ha | ha
          · unfold timeoutSources at ha
            split at ha
            · cases ha
            · rw [List.mem_singleton.mp ha] at harmedPoll
              simp at harmedPoll
          · cases wait with
            | reply pending => cases ha
            | tick tick =>
              rw [List.mem_singleton.mp ha] at hid
              have hlt := h.fits.2.2.1
              omega
        · cases wait with
          | reply pending => cases hmem
          | tick tick =>
            rw [List.mem_singleton.mp hmem]
            exact h.fits.1
      have h₁ := poll_lost (s := {s with
        bridge := s.bridge.refresh bridge
        sources := s.sources.filter fun other => other.id != source.id}) hharmed
      unfold dispatchSource
      rw [hpoll]
      dsimp only
      rw [if_neg (by simp [h₁.1])]
      exact h₁.2
  | _ => cases hresumes

/-- The order of a live operation and what its release leaves. -/
structure Orderly (s : State) : Prop where
  pending : s.released = false →
    s.calls.length = 1 ∧ pollSources s = [] ∨ s.calls = [] ∧ (pollSources s).length = 1
  timeout : s.released = false →
    .deadlineFired ∈ s.trace ∨ ∃ source ∈ s.sources, source.callback = .timeout
  ends : s.released = false → Lost s → ∀ event t, event.resumes s → step s event = some t →
    t.released = true ∧ commandsSent t = commandsSent s
  silent : ∀ later target record text past,
    s.trace = later++.command target record text::past → Undisturbed past
  answeredOnce : s.trace.countP isReply ≤ 1
  answeredHere : ∀ connection body, .reply connection body ∈ s.trace →
    connection = s.operation.request
  releasedOnce : s.trace.countP (fun o => o matches .released) ≤ 1
  clean : s.released = true → s.calls = [] ∧ s.sources = []

theorem pollSources_timeout (op : L850MutationOperation) :
    (timeoutSources op).filter (fun source => source.callback == .poll) = [] := by
  unfold timeoutSources
  split <;> simp

theorem Waiting.pending {wait : Wait} (h : Waiting object s wait) :
    s.calls.length = 1 ∧ pollSources s = [] ∨ s.calls = [] ∧ (pollSources s).length = 1 := by
  have hpolls : pollSources s = wait.sources.filter fun source => source.callback == .poll := by
    rw [pollSources,h.sources,List.filter_append,pollSources_timeout,List.nil_append]
  rw [hpolls,h.calls]
  cases wait with
  | reply pending => exact .inl ⟨rfl,rfl⟩
  | tick source =>
    have hpoll : source.callback = .poll := h.fits.1
    exact .inr ⟨rfl,by simp [Wait.sources,hpoll]⟩

theorem Waiting.timeout_armed {wait : Wait} (h : Waiting object s wait) :
    .deadlineFired ∈ s.trace ∨ ∃ source ∈ s.sources, source.callback = .timeout := by
  refine h.idle.timeout.imp id fun harmed => ?_
  refine ⟨⟨s.operation.timeoutSource,.timeout,l850MutationOperationTimeoutSeconds*1000⟩,?_,rfl⟩
  rw [h.sources]
  have hne : s.operation.timeoutSource ≠ 0 := harmed
  simp [timeoutSources,hne]

/-- Between two callbacks exactly one command or one poll source is pending; a lost operation
ends at its next callback without a command; the request is answered at most once, on its own
connection; and nothing is left at release. -/
theorem l850Mutation_orderly (h : mutationSystem.Reachable s) : Orderly s := by
  obtain ⟨object,hinv⟩ := reachable_inv h
  have hreasons := hinv.reasons
  have hlive : s.released = false → ∃ wait, Waiting object s wait := by
    intro hr
    rcases hinv with hinv | hwait
    · rw [hinv.released] at hr
      cases hr
    · exact hwait
  exact {
    pending := fun hr => (hlive hr).elim fun _ hw => hw.pending
    timeout := fun hr => (hlive hr).elim fun _ hw => hw.timeout_armed
    ends := fun hr hlost event t hresumes hstep =>
      (hlive hr).elim fun _ hw => hw.resume_lost hlost hresumes hstep
    silent := by
      intro later target record text past htrace
      rw [htrace] at hreasons
      exact hreasons.split.1
    answeredOnce := by
      refine hreasons.countP_le_one fun past e he hreply o ho => ?_
      obtain ⟨connection,body,rfl⟩ := isReply_iff.mp hreply
      rw [Bool.eq_false_iff]
      exact fun hearlier => he.2 o ho (isReply_iff.mp hearlier)
    answeredHere := by
      intro connection body hmem
      obtain ⟨later,past,htrace⟩ := List.append_of_mem hmem
      rw [htrace] at hreasons
      exact hreasons.split.1
    releasedOnce := by
      refine hreasons.countP_le_one fun past e he hreleased o ho => ?_
      cases e <;> simp at hreleased
      cases o <;> simp
      exact he ho
    clean := by
      intro hr
      rcases hinv with hinv | ⟨wait,hwait⟩
      · exact ⟨hinv.calls,hinv.sources⟩
      · have hfree : s.released = false := hwait.idle.live
        rw [hfree] at hr
        cases hr }

/-- The order at the end of a verified run. -/
theorem l850Mutation_orderly_sample : ∃ s, sampleRun sampleEvents = some s ∧ Orderly s := by
  obtain ⟨s,hs,-⟩ := Option.map_eq_some_iff.mp sampleRun_commands
  exact ⟨s,hs,l850Mutation_orderly (sampleRun_reachable hs)⟩

end Mutation
end L850GL
