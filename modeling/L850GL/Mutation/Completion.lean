import L850GL.Mutation.Invariant

/-! What the building blocks of the callbacks do to an operation: completion, dispatch of the next
command, arming the poll. -/
namespace L850GL
namespace Mutation

open Cell Errors MutationPolicy State

variable {object : Nat} {s : State}

/-- The fields of an operation the invariant of a running callback looks at. -/
def L850MutationOperation.core (op : L850MutationOperation) :=
  (op.lock,op.timeoutSource,op.cancellable,op.timedOut,op.transportLost,op.deferred)

theorem Idle.withOperation (h : Idle object s) (op : L850MutationOperation)
    (hop : op.core = s.operation.core) : Idle object {s with operation := op} := by
  simp only [L850MutationOperation.core,Prod.mk.injEq] at hop
  obtain ⟨hlock,htimeout,hcancellable,htimedOut,hlost,hdeferred⟩ := hop
  have horiginal : op.original = s.operation.original := congrArg Lock.original hlock
  have hrequest : op.request = s.operation.request := congrArg Lock.request hlock
  exact {
    reasons := by simpa only [hlock] using h.reasons
    command := by simpa only [hlock] using h.command
    live := h.live
    calls := h.calls
    sources := by simpa only [timeoutSources,htimeout] using h.sources
    next := by simpa only [htimeout] using h.next
    cancellables := by simpa only [hcancellable] using h.cancellables
    object := by simpa only [State.modem,horiginal] using h.object
    timeout := by simpa only [htimeout] using h.timeout
    deadline := by simpa only [htimedOut] using h.deadline
    lost := by simpa only [hlost] using h.lost
    stopping := by simpa only [hlost] using h.stopping
    replies := h.replies
    free := h.free
    connection := by simpa only [hdeferred,hrequest] using h.connection }

theorem Idle.withBridge (h : Idle object s) {bridge : Bridge}
    (hbridge : (bridge.modems s.operation.original).modem = object) :
    Idle object {s with bridge := bridge} :=
  { h with
    reasons := h.reasons
    command := h.command
    object := hbridge }

/-- Observations that neither end the operation nor disturb it. -/
def Benign (o : Observation) : Prop :=
  o ≠ .deadlineFired ∧ o ≠ .connectionLost ∧ o ≠ .stopped ∧ o ≠ .released ∧ ¬ Lock.IsReply o

theorem Idle.observe (h : Idle object s) {o : Observation} (ho : Benign o)
    (hreason : Reason s.operation.lock object s.trace o) : Idle object (s.observe o) := by
  obtain ⟨h₁,h₂,h₃,h₄,h₅⟩ := ho
  exact { h with
    reasons := h.reasons.cons hreason
    timeout := h.timeout.imp (List.mem_cons_of_mem _) id
    deadline := fun hm => h.deadline ((List.mem_cons.mp hm).resolve_left (Ne.symm h₁))
    lost := fun hm => h.lost (hm.imp (fun h' => (List.mem_cons.mp h').resolve_left (Ne.symm h₂))
      fun h' => (List.mem_cons.mp h').resolve_left (Ne.symm h₃))
    replies := by
      intro o' ho'
      rcases List.mem_cons.mp ho' with rfl | ho'
      · exact h₅
      · exact h.replies o' ho'
    free := fun hm => h.free ((List.mem_cons.mp hm).resolve_left (Ne.symm h₄)) }

theorem Idle.undisturbed (h : Idle object s) (hu : Unharmed s.operation) :
    Undisturbed s.trace where
  deadline hm := by simpa [hu.1] using h.deadline hm
  connection hm := by simpa [hu.2] using h.lost (.inl hm)
  stop hm := by simpa [hu.2] using h.lost (.inr hm)
  released := h.free

/-- The reply of a completion, sent only while the request is still open. -/
theorem completeBuffer_trace (s : State) (body : Reply) :
    (l850MutationCompleteBuffer s body).trace = .released::
      (if s.operation.deferred ∧ s.ubus.connected ∧ s.ubus.contextInitialized ∧ ¬ s.ubus.stopping
        then [.reply s.ubus.connection body] else [])++s.trace := by
  unfold l850MutationCompleteBuffer l850MutationOperationFree
  split <;> (dsimp only; split <;> split <;> rfl)

theorem completeBuffer_calls (s : State) (body : Reply) :
    (l850MutationCompleteBuffer s body).calls = s.calls := by
  unfold l850MutationCompleteBuffer l850MutationOperationFree
  split <;> (dsimp only; split <;> split <;> rfl)

@[simp] theorem completeBuffer_released (s : State) (body : Reply) :
    (l850MutationCompleteBuffer s body).released = true := rfl

@[simp] theorem completeBuffer_lock (s : State) (body : Reply) :
    (l850MutationCompleteBuffer s body).operation.lock = s.operation.lock := by
  unfold l850MutationCompleteBuffer l850MutationOperationFree
  split <;> (dsimp only; split <;> split <;> rfl)

theorem completeBuffer_sources (h : Idle object s) (body : Reply) :
    (l850MutationCompleteBuffer s body).sources = [] := by
  have h₁ : ∀ t : State, t.operation.timeoutSource = s.operation.timeoutSource →
      t.sources = s.sources → (l850MutationOperationFree t).sources = [] := by
    intro t ht hs
    unfold l850MutationOperationFree
    by_cases hz : s.operation.timeoutSource = 0
    · have h₂ : t.sources = [] := by rw [hs,h.sources]; simp [timeoutSources,hz]
      dsimp only
      split <;> split <;> simp [gSourceRemove,h₂]
    · have h₂ : (t.gSourceRemove t.operation.timeoutSource).sources = [] := by
        simp [gSourceRemove,hs,h.sources,timeoutSources,hz,ht]
      simp only [ht,ne_eq,hz,not_false_eq_true,if_true] at h₂ ⊢
      split
      · simp [gSourceRemove] at h₂ ⊢
        exact fun x hx _ => h₂ x hx
      · exact h₂
  unfold l850MutationCompleteBuffer
  split <;> exact h₁ _ rfl rfl

theorem Idle.completeBuffer (h : Idle object s) (body : Reply) :
    Released object (l850MutationCompleteBuffer s body) where
  reasons := by
    rw [completeBuffer_lock,completeBuffer_trace]
    split
    · rename_i hopen
      have h₁ := h.connection hopen.1
      have h₂ : Reason s.operation.lock object s.trace (.reply s.ubus.connection body) :=
        ⟨h₁.2,h.replies⟩
      refine (h.reasons.cons h₂).cons ?_
      simpa [Reason] using h.free
    · exact h.reasons.cons h.free
  command := by rw [completeBuffer_lock]; exact h.command
  released := rfl
  calls := by rw [completeBuffer_calls,h.calls]
  sources := completeBuffer_sources h body

theorem Idle.completeFailure (h : Idle object s) (state code : String) (retryable : Bool) :
    Inv object (l850MutationCompleteFailure s state code retryable) := by
  have h₁ : Benign (.failed state code retryable) := by simp [Benign,Lock.IsReply]
  exact .inl ((h.observe h₁ trivial).completeBuffer _)

theorem Idle.completeSuccess (h : Idle object s) {serving : Option L850Cell}
    (hverified : Verified s.operation.lock s.trace serving) :
    Inv object (l850MutationCompleteSuccess s serving) := by
  have h₁ : Benign (.succeeded serving) := by simp [Benign,Lock.IsReply]
  exact .inl ((h.observe h₁ hverified).completeBuffer _)

theorem Idle.cancellable_lt (h : Idle object s) :
    s.operation.cancellable < s.nextCancellable := h.cancellables _ (by simp)

theorem Idle.replaceCancellable (h : Idle object s) :
    Idle object s.l850MutationReplaceCancellable :=
  { h with
    reasons := h.reasons
    command := h.command
    cancellables := by
      intro c hc
      rcases List.mem_cons.mp hc with rfl | hc
      · exact Nat.lt_succ_self _
      · exact (h.cancellables c (List.mem_cons_of_mem _ hc)).trans (Nat.lt_succ_self _) }

/-- Handing over the command a phase expects keeps the invariant. -/
theorem Idle.dispatch (h : Idle object s) (hu : Unharmed s.operation)
    {callback : CommandCallback} {target : ModemRef} {text : CString}
    (hexpected : expectedCall s.operation = some (callback,target,text))
    (hreason : CommandReason s.operation.lock object s.trace target (s.modem target) text)
    (hfacts : PhaseFacts s.operation (.command target (s.modem target) text::s.trace)) :
    Inv object (s.l850MutationReplaceCancellable.mmModemCommand callback target text) := by
  have hproxy : target = s.operation.original → (s.modem target).modem = object :=
    fun ht => ht ▸ h.object
  have h₁ := (h.replaceCancellable).observe (o := .command target (s.modem target) text)
    (by simp [Benign,Lock.IsReply]) ⟨h.undisturbed hu,hproxy,hreason⟩
  refine .inr ⟨.reply ⟨callback,target,(s.modem target).modem,text,s.nextCancellable⟩,?_⟩
  exact {
    idle := { h₁ with
      reasons := h₁.reasons
      calls := rfl
      sources := rfl
      command := h₁.command }
    calls := by
      have h₂ : s.calls = [] := h.calls
      simp [mmModemCommand,l850MutationReplaceCancellable,h₂,Wait.calls,State.modem]
    sources := by
      have h₂ : s.sources = timeoutSources s.operation := h.sources
      exact h₂.trans (List.append_nil _).symm
    next := by simp [Wait.sources]
    fits := ⟨rfl,hexpected⟩
    facts := hfacts
    cancelled := .inl hu }

theorem Idle.armPoll (h : Idle object s) (hu : Unharmed s.operation)
    (hphase : s.operation.phase.polls = true) (hfacts : PhaseFacts s.operation s.trace)
    (intervalMs : Nat) : Inv object (s.armPoll intervalMs) := by
  refine .inr ⟨.tick ⟨s.nextSource,.poll,intervalMs⟩,?_⟩
  exact {
    idle := { h with
      reasons := h.reasons
      command := h.command
      calls := rfl
      sources := rfl
      next := ⟨h.next.1.trans (Nat.lt_succ_self _),Nat.succ_pos _⟩ }
    calls := h.calls
    sources := by
      have h₁ : s.sources = timeoutSources s.operation := h.sources
      simp [State.armPoll,h₁,Wait.sources,timeoutSources]
    next := by simp [State.armPoll,Wait.sources]
    fits := ⟨rfl,rfl,h.next.1,hphase⟩
    facts := hfacts
    cancelled := .inl hu }

end Mutation
end L850GL
