import L850GL.Mutation.Refinement

/-! What the lock operations do to the time until which a record is left alone. -/
namespace L850GL
namespace Mutation

open Cell State

/-- An event with another report. -/
def Event.withBridge (bridge : Bridge) : Event → Event
  | .finish index result _ => .finish index result bridge
  | .source id _ => .source id bridge
  | .connectionLost _ => .connectionLost bridge
  | .reconnected _ => .reconnected bridge
  | .shutdown _ => .shutdown bridge
  | .stop _ => .stop bridge

@[simp] theorem Event.withBridge_bridge (event : Event) (bridge : Bridge) :
    (event.withBridge bridge).bridge = bridge := by
  cases event <;> rfl

variable {s t u : State} {object : Nat} {event : Event} {bridge report : Bridge}

/-- The tuple went out. -/
def Dispatched (s : State) : Prop := ∃ o ∈ s.trace,s.operation.lock.IsTuple o

/-- A step leaves no shorter cooldown than the report it came with, and the end of an operation
that wrote its tuple leaves both records alone. -/
structure Spares (report : Bridge) (s t : State) : Prop extends Bridge.Extends report t.bridge where
  freed : s.released = false → t.released = true →
    t.operation.setDispatched = true ∨ Dispatched s → Cooled t

theorem Prepares.extends (hp : Prepares report s u) : Bridge.Extends report u.bridge := by
  rw [hp.bridge]
  exact ⟨rfl,fun _ => Int.le_refl _⟩

theorem Moves.extends (h : Moves s t) : Bridge.Extends s.bridge t.bridge :=
  ⟨h.kept.now,fun modem => (h.kept.modems modem).cooldown⟩

/-- While the operation lives, the tuple is out only with the flag set. -/
theorem Waiting.setDispatched {wait : Wait} (h : Waiting object s wait) (ht : Tracked s)
    (hdispatched : Dispatched s) : s.operation.setDispatched = true := by
  apply (ht.flagged h.idle.live).dispatched
  intro hphase
  obtain ⟨o,ho,htuple⟩ := hdispatched
  have hfacts := h.facts
  rw [PhaseFacts,hphase] at hfacts
  exact hfacts.1 o ho htuple

theorem step_spares (h : mutationSystem.Reachable s) (hstep : step s event = some t) :
    Spares event.bridge s t := by
  obtain ⟨object,hinv⟩ := reachable_inv h
  have ht := tracked_reachable h
  rcases hinv with hinv | ⟨wait,hwait⟩
  · obtain ⟨-,-,-,hbridge,-⟩ := step_released_still hinv hstep
    refine ⟨?_,fun hlive => ?_⟩
    · rw [hbridge]
      exact ⟨rfl,fun _ => Int.le_refl _⟩
    · rw [hinv.released] at hlive
      cases hlive
  · obtain ⟨u,hp,hmoves,-⟩ := (step_advances hwait ht hstep).moves
    refine ⟨hp.extends.trans hmoves.extends,fun hlive hfreed hdispatched => ?_⟩
    rcases hmoves with hgoes | hends
    · rw [hgoes.live,hp.released,hlive] at hfreed
      cases hfreed
    · apply hends.cooled
      rcases hdispatched with hflag | hout
      · exact hflag
      · rw [hends.dispatched,hp.operation]
        exact hwait.setDispatched ht hout

/-- A lock operation is started on a record whose cooldown is over. -/
structure Admits (bridge : Bridge) (s : State) : Prop extends Bridge.Extends bridge s.bridge where
  live : s.released = false
  ready : advancedRetryAfterMs bridge s.operation.original = 0

theorem l850MutationStart_admits {ubus : Ubus} {ref : ModemRef} {type : L850MutationType}
    {earfcn pci band : Nat} {hasPci : Bool} {command : CString}
    (hready : advancedRetryAfterMs bridge ref = 0)
    (h : l850MutationStart ubus bridge ref type earfcn hasPci pci band command = .started s) :
    Admits bridge s := by
  unfold l850MutationStart l850MutationOperationNew at h
  dsimp only at h
  split at h
  · cases h
  rename_i u hnew
  rw [Admission.started.injEq] at h
  subst h
  split at hnew
  · cases hnew
  split at hnew
  · cases hnew
  rw [Option.some.injEq] at hnew
  subst hnew
  exact ⟨Bridge.Extends.updateModem (Int.le_refl _),rfl,hready⟩

theorem methodSetCellLock_admits {tables : Tables} {ubus : Ubus}
    {request : Option SetCellLockRequest}
    (h : methodSetCellLock tables ubus bridge request = .started s) : Admits bridge s := by
  unfold methodSetCellLock refuseRequested at h
  dsimp only at h
  split at h
  · cases h
  split at h
  · cases h
  split at h
  · cases h
  split at h
  · cases h
  split at h
  · cases h
  split at h
  · cases h
  split at h
  · cases h
  rename_i hready
  split at h
  · cases h
  · exact l850MutationStart_admits (by omega) h

theorem methodClearCellLock_admits {tables : Tables} {ubus : Ubus}
    {request : Option ClearCellLockRequest}
    (h : methodClearCellLock tables ubus bridge request = .started s) : Admits bridge s := by
  unfold methodClearCellLock refuseRequested at h
  dsimp only at h
  split at h
  · cases h
  split at h
  · cases h
  split at h
  · cases h
  split at h
  · cases h
  split at h
  · cases h
  rename_i hready
  exact l850MutationStart_admits (by omega) h

end Mutation
end L850GL
