import L850GL.Marks
import L850GL.Mutation.Cooldown

/-! What a lock operation does to the marks of its two records. -/
namespace L850GL
namespace Mutation

open Bridge Cell MutationPolicy Ownership State

/-- A live operation owns its original and the replacement that it has adopted. -/
def Owns (s : State) (ref : ModemRef) (_ : Unit) : Prop :=
  s.released = false ∧ (ref = s.operation.original ∨ s.operation.replacement = some ref)

def tag (_ : Unit) : RecordMark := (true,.l850,some .l850)

/-- The phases after the adoption of a replacement. -/
def L850MutationPhase.adopted : L850MutationPhase → Bool
  | .registration | .nvmVerify | .cellVerify => true
  | _ => false

/-- Nothing is adopted before the reprobe finds it. -/
def Settled (op : L850MutationOperation) : Prop :=
  op.replacement = none ∨ op.phase.adopted = true

/-- The part of an operation that tells which records are its own. -/
def L850MutationOperation.records (op : L850MutationOperation) :=
  (op.original,op.replacement,op.physdev)

/-- The operation and its records are what they were. -/
structure Goes (s t : State) : Prop where
  bridge : t.bridge = s.bridge
  live : t.released = s.released
  records : t.operation.records = s.operation.records
  settled : Settled s.operation → Settled t.operation

structure Adopts (s t : State) (ref : ModemRef) : Prop where
  phase : s.operation.phase = .reprobe
  found : (s.modem ref).live = true
  idle : (s.modem ref).mutationBusy = false
  bridge : t.bridge = s.bridge.updateModem ref (s.modem ref).acquireL850
  live : t.released = s.released
  records : t.operation.records = (s.operation.original,some ref,s.operation.physdev)
  adopted : t.operation.phase.adopted = true

structure Leaves (s t : State) : Prop where
  released : t.released = true
  device : t.operation.physdev = s.operation.physdev
  releases : Bridge.Releases tag s.bridge t.bridge (Owns s) (Owns t)

/-- What a callback does to the records. -/
inductive Handles (s t : State) : Prop
  | goes (h : Goes s t)
  | adopts (ref : ModemRef) (h : Adopts s t ref)
  | leaves (h : Leaves s t)

variable {s t u : State} {object : Nat} {call : PendingCall} {result : CommandResult}

theorem tag_ne_unmarked (x : Unit) : tag x ≠ Modem.unmarked := by
  simp [Modem.unmarked,tag]

theorem Goes.owns (h : Goes s t) (ref : ModemRef) (x : Unit) : Owns t ref x ↔ Owns s ref x := by
  have hrecords := h.records
  simp only [L850MutationOperation.records,Prod.mk.injEq] at hrecords
  rw [Owns,Owns,h.live,hrecords.1,hrecords.2.1]

theorem Goes.releases (h : Goes s t) : Bridge.Releases tag s.bridge t.bridge (Owns s) (Owns t) :=
  .of_same h.bridge h.owns

theorem Goes.device (h : Goes s t) : t.operation.physdev = s.operation.physdev := by
  have hrecords := h.records
  simp only [L850MutationOperation.records,Prod.mk.injEq] at hrecords
  exact hrecords.2.2

/-- What the release of one record comes to. -/
theorem releaseModem_leaves (bridge : Bridge) (ref : ModemRef) (applyCooldown : Bool) :
    SameRecords bridge (l850MutationReleaseModem bridge (some ref) applyCooldown) ∧
      (∀ other,other ≠ ref → (l850MutationReleaseModem bridge (some ref) applyCooldown).modems
        other = bridge.modems other) ∧
      (((l850MutationReleaseModem bridge (some ref) applyCooldown).modems ref).mark =
          Modem.unmarked ∧ tag () ≠ Modem.unmarked ∨
        ((l850MutationReleaseModem bridge (some ref) applyCooldown).modems ref).mark =
          (bridge.modems ref).mark ∧ (bridge.modems ref).mark ≠ tag ()) := by
  have hkept : ∀ modem : Modem,modem.bare = (bridge.modems ref).bare →
      modem.mark = (bridge.modems ref).mark →
      (if modem.mutationKind = .l850 then modem.clearMutation else modem).bare =
          (bridge.modems ref).bare ∧
        ((if modem.mutationKind = .l850 then modem.clearMutation else modem).mark =
            Modem.unmarked ∧ tag () ≠ Modem.unmarked ∨
          (if modem.mutationKind = .l850 then modem.clearMutation else modem).mark =
            (bridge.modems ref).mark ∧ (bridge.modems ref).mark ≠ tag ()) := by
    intro modem hbare hmark
    split
    · exact ⟨hbare,.inl ⟨rfl,tag_ne_unmarked ()⟩⟩
    · rename_i hkind
      refine ⟨hbare,.inr ⟨hmark,fun htag => hkind ?_⟩⟩
      rw [← hmark] at htag
      simp only [Modem.mark,tag,Prod.mk.injEq] at htag
      exact htag.2.1
  obtain ⟨hbare,hmark⟩ := hkept (if applyCooldown then
    l850MutationApplyCooldown bridge.now (bridge.modems ref) else bridge.modems ref)
    (by split <;> rfl) (by split <;> rfl)
  refine ⟨.updateModem hbare,fun other ho => updateModem_other _ _ ho,?_⟩
  simp only [l850MutationReleaseModem,updateModem_self]
  exact hmark

/-- Both records are released when the operation is freed. -/
theorem operationFree_bridge (s : State) : (l850MutationOperationFree s).bridge =
    (let bridge := l850MutationReleaseModem s.bridge s.operation.replacement
        s.operation.setDispatched
      if some s.operation.original ≠ s.operation.replacement then
        l850MutationReleaseModem bridge (some s.operation.original) s.operation.setDispatched
      else bridge) := by
  have hsources : ∀ (c : Prop) [Decidable c] (t : State) (id : Nat),
      (if c then t.gSourceRemove id else t).bridge = t.bridge := by
    intro c _ t id
    split <;> rfl
  simp only [l850MutationOperationFree,hsources]

theorem operationFree_operation (s : State) :
    (l850MutationOperationFree s).operation = s.operation := by
  unfold l850MutationOperationFree
  dsimp only
  split <;> split <;> rfl

theorem operationFree_leaves (hlive : s.released = false) :
    Leaves s (l850MutationOperationFree s) := by
  have hgone : ∀ ref x,¬Owns (l850MutationOperationFree s) ref x := by
    rintro ref x ⟨hfree,-⟩
    cases hfree
  have hleft : ∀ {ref : ModemRef} {mark mark' : RecordMark},Owns s ref () →
      (mark' = Modem.unmarked ∧ tag () ≠ Modem.unmarked ∨ mark' = mark ∧ mark ≠ tag ()) →
      Ownership.Leaves Modem.unmarked tag mark mark' (Owns s ref)
        (Owns (l850MutationOperationFree s) ref) := by
    intro ref mark mark' howns hmark
    refine .one howns hmark fun x => ?_
    exact iff_of_false (hgone ref x) fun h => h.2 rfl
  have hother : ∀ {ref : ModemRef} {mark mark' : RecordMark},¬Owns s ref () → mark' = mark →
      Ownership.Leaves Modem.unmarked tag mark mark' (Owns s ref)
        (Owns (l850MutationOperationFree s) ref) :=
    fun howns hmark => .kept hmark fun x => iff_of_false (hgone _ x) howns
  refine ⟨rfl,by rw [operationFree_operation],?_⟩
  rw [operationFree_bridge]
  cases hreplacement : s.operation.replacement with
  | none =>
    obtain ⟨hsame,hothers,hmark⟩ := releaseModem_leaves s.bridge s.operation.original
      s.operation.setDispatched
    refine ⟨hsame,fun ref => ?_⟩
    by_cases hr : ref = s.operation.original
    · subst hr
      exact hleft ⟨hlive,.inl rfl⟩ hmark
    · refine hother ?_ (congrArg Modem.mark (hothers ref hr))
      simp [Owns,hr,hreplacement]
  | some replacement =>
    obtain ⟨hsame,hothers,hmark⟩ := releaseModem_leaves s.bridge replacement
      s.operation.setDispatched
    dsimp only
    by_cases hr' : s.operation.original = replacement
    · rw [if_neg (by simp [hr'])]
      refine ⟨hsame,fun ref => ?_⟩
      by_cases hr : ref = replacement
      · rw [hr]
        exact hleft ⟨hlive,.inr hreplacement⟩ hmark
      · refine hother ?_ (congrArg Modem.mark (hothers ref hr))
        rintro ⟨-,howned | howned⟩
        · exact hr (howned.trans hr')
        · rw [hreplacement,Option.some.injEq] at howned
          exact hr howned.symm
    · rw [if_pos (by simpa using hr')]
      obtain ⟨hsame',hothers',hmark'⟩ := releaseModem_leaves
        (l850MutationReleaseModem s.bridge (some replacement) s.operation.setDispatched)
        s.operation.original s.operation.setDispatched
      refine ⟨hsame.trans hsame',fun ref => ?_⟩
      by_cases hr : ref = s.operation.original
      · subst hr
        rw [hothers _ hr'] at hmark'
        exact hleft ⟨hlive,.inl rfl⟩ hmark'
      · rw [hothers' ref hr]
        by_cases hr'' : ref = replacement
        · rw [hr'']
          exact hleft ⟨hlive,.inr hreplacement⟩ hmark
        · refine hother ?_ (congrArg Modem.mark (hothers ref hr''))
          simp [Owns,hr,Ne.symm hr'',hreplacement]

/-- A callback that ends its operation. -/
theorem completeBuffer_leaves (body : Reply) (h : Goes s u) (hlive : s.released = false) :
    Leaves s (l850MutationCompleteBuffer u body) := by
  have hshown : ∀ v : State,v.bridge = u.bridge → v.released = u.released →
      v.operation.records = u.operation.records → Leaves s (l850MutationOperationFree v) := by
    intro v hbridge hreleased hrecords
    have hgoes : Bridge.Releases tag s.bridge v.bridge (Owns s) (Owns v) := by
      refine .of_same (hbridge.trans h.bridge) fun ref x => ?_
      rw [← h.owns]
      simp only [L850MutationOperation.records,Prod.mk.injEq] at hrecords
      rw [Owns,Owns,hreleased,hrecords.1,hrecords.2.1]
    have hfree := operationFree_leaves (s:=v) (hreleased.trans (h.live.trans hlive))
    refine ⟨hfree.released,hfree.device.trans ?_,hgoes.trans tag_ne_unmarked hfree.releases⟩
    simp only [L850MutationOperation.records,Prod.mk.injEq] at hrecords
    rw [hrecords.2.2,h.device]
  unfold l850MutationCompleteBuffer
  dsimp only
  split
  · exact hshown _ rfl rfl rfl
  · exact hshown _ rfl rfl rfl

theorem completeFailure_leaves (state code : String) (retryable : Bool) (h : Goes s u)
    (hlive : s.released = false) :
    Leaves s (l850MutationCompleteFailure u state code retryable) :=
  completeBuffer_leaves _ ⟨h.bridge,h.live,h.records,h.settled⟩ hlive

theorem completeSuccess_leaves (serving : Option L850Cell) (h : Goes s u)
    (hlive : s.released = false) : Leaves s (l850MutationCompleteSuccess u serving) :=
  completeBuffer_leaves _ ⟨h.bridge,h.live,h.records,h.settled⟩ hlive

theorem Goes.refl (s : State) : Goes s s := ⟨rfl,rfl,rfl,id⟩

/-- Commands, sources and cancellables are no matter of the records. -/
theorem Goes.withOperation {op : L850MutationOperation} (hrecords : op.records =
    s.operation.records) (hsettled : Settled s.operation → Settled op) :
    Goes s {s with operation := op} := ⟨rfl,rfl,hrecords,hsettled⟩

theorem probeReady_handles (hlive : s.released = false) (source : Nat) (result : CommandResult) :
    Handles s (l850MutationProbeReady s source result) := by
  have hpending : Goes s {s with operation := {s.operation with commandPending := false}} :=
    .withOperation rfl id
  unfold l850MutationProbeReady
  dsimp only
  split
  · exact .leaves (completeFailure_leaves _ _ _ hpending hlive)
  rename_i hphase
  rw [not_or,not_not] at hphase
  split
  · split
    · exact .leaves (completeFailure_leaves _ _ _ hpending hlive)
    · unfold l850MutationDispatchSet
      split
      · exact .leaves (completeFailure_leaves _ _ _ hpending hlive)
      · refine .goes ⟨rfl,rfl,rfl,fun hs => .inl (hs.resolve_right ?_)⟩
        rw [hphase.1]
        decide
  · exact .leaves (completeFailure_leaves _ _ _ hpending hlive)

theorem setReady_handles (hlive : s.released = false) (hphase : s.operation.phase = .setCommand)
    (source : Nat) (result : CommandResult) :
    Handles s (l850MutationSetReady s source result) := by
  have hpending : Goes s {s with operation := {s.operation with commandPending := false}} :=
    .withOperation rfl id
  unfold l850MutationSetReady
  dsimp only
  split
  · exact .leaves (completeFailure_leaves _ _ _ hpending hlive)
  split
  · split
    · exact .leaves (completeFailure_leaves _ _ _ hpending hlive)
    · refine .goes ⟨rfl,rfl,rfl,fun hs => .inl (hs.resolve_right ?_)⟩
      rw [hphase]
      decide
  · exact .leaves (completeFailure_leaves _ _ _ hpending hlive)

theorem resetReady_handles (hlive : s.released = false)
    (hphase : s.operation.phase = .resetCommand) (result : CommandResult) :
    Handles s (l850MutationResetReady s result) := by
  have hpending : Goes s {s with operation := {s.operation with commandPending := false}} :=
    .withOperation rfl id
  unfold l850MutationResetReady
  dsimp only
  split
  · exact .leaves (completeFailure_leaves _ _ _ hpending hlive)
  split
  · exact .leaves (completeFailure_leaves _ _ _ hpending hlive)
  · refine .goes ⟨rfl,rfl,rfl,fun hs => .inl (hs.resolve_right ?_)⟩
    rw [hphase]
    decide

theorem nvmVerified_handles (hlive : s.released = false) (h : Goes s u) {preReset : Bool}
    (hpre : preReset = true → s.operation.phase = .preResetNvmVerify)
    (hpost : preReset = false → s.operation.phase = .nvmVerify) :
    Handles s (nvmVerified u preReset) := by
  have hstage : Goes s {u with operation := {u.operation with verificationStage := none}} :=
    ⟨h.bridge,h.live,h.records,h.settled⟩
  have hrecords := h.records
  cases preReset with
  | true =>
    have hnone : Settled s.operation → u.operation.replacement = none := by
      intro hs
      simp only [L850MutationOperation.records,Prod.mk.injEq] at hrecords
      rw [hrecords.2.1]
      refine hs.resolve_right ?_
      rw [hpre rfl]
      decide
    show Handles s (l850MutationStartReset _)
    unfold l850MutationStartReset
    split
    · exact .leaves (completeFailure_leaves _ _ _ hstage hlive)
    · exact .goes ⟨h.bridge,h.live,h.records,fun hs => .inl (hnone hs)⟩
  | false =>
    unfold nvmVerified
    simp only [Bool.false_eq_true,if_false]
    split
    · exact .leaves (completeSuccess_leaves none hstage hlive)
    · exact .goes ⟨h.bridge,h.live,h.records,fun _ => .inr rfl⟩

theorem nvmReady_handles (hlive : s.released = false) (source : Nat) (result : CommandResult) :
    Handles s (l850MutationNvmReady s source result) := by
  have hgoes : ∀ op : L850MutationOperation,op.records = s.operation.records →
      op.phase = s.operation.phase → Goes s {s with operation := op} := by
    intro op hrecords hphase
    refine .withOperation hrecords fun hs => ?_
    simp only [L850MutationOperation.records,Prod.mk.injEq] at hrecords
    rw [Settled,hrecords.2.1,hphase]
    exact hs
  unfold l850MutationNvmReady
  dsimp only
  split
  · exact .leaves (completeFailure_leaves _ _ _ (hgoes _ rfl rfl) hlive)
  rename_i hvalid
  have hphase : s.operation.phase = .preResetNvmVerify ∨ s.operation.phase = .nvmVerify := by
    by_contra hn
    rw [not_or] at hn
    exact hvalid (.inl hn)
  split
  · split
    · exact .leaves (completeFailure_leaves _ _ _ (hgoes _ rfl rfl) hlive)
    · generalize (if l850glL850LockStateMatches _ _ _ _ _ = true then NvmObservation.matched
        else .mismatch) = observation
      generalize l850glNvmVerifierObserve s.operation.nvmVerifier observation = observed
      split
      · exact .leaves (completeFailure_leaves _ _ _ (hgoes _ rfl rfl) hlive)
      split
      · exact .leaves (completeFailure_leaves _ _ _ (hgoes _ rfl rfl) hlive)
      have h := hgoes {s.operation with
        commandPending := false,nvmVerifier := observed.1} rfl rfl
      split
      · exact .goes ⟨h.bridge,h.live,h.records,h.settled⟩
      · refine nvmVerified_handles hlive h (fun hpre => ?_) fun hpost => ?_
        · simpa using hpre
        · refine hphase.resolve_left fun hp => ?_
          simp [hp] at hpost
  · exact .leaves (completeFailure_leaves _ _ _ (hgoes _ rfl rfl) hlive)

/-- The serving cell is nothing that another operation goes by. -/
theorem servingCellCacheStore_mark {modem stored : Modem} {now : Int} {cell : L850Cell}
    {reason : String} (h : modem.servingCellCacheStore now cell reason = some stored) :
    stored.bare = modem.bare ∧ stored.mark = modem.mark := by
  unfold Modem.servingCellCacheStore at h
  split at h
  · cases h
  · cases h
    exact ⟨rfl,rfl⟩

theorem cellReady_handles (hlive : s.released = false) (source : Nat) (result : CommandResult) :
    Handles s (l850MutationCellReady s source result) := by
  have hpending : Goes s {s with operation := {s.operation with commandPending := false}} :=
    .withOperation rfl id
  have hfailed : ∀ state code retryable,Handles s (l850MutationCompleteFailure {s with
      operation := {s.operation with commandPending := false}} state code retryable) :=
    fun state code retryable => .leaves (completeFailure_leaves _ _ _ hpending hlive)
  unfold l850MutationCellReady
  dsimp only
  split
  · exact hfailed _ _ _
  split
  · split
    · exact hfailed _ _ _
    split
    · exact hfailed _ _ _
    split
    · exact hfailed _ _ _
    split
    · exact hfailed _ _ _
    split
    · exact hfailed _ _ _
    · rename_i modem hstored
      obtain ⟨hbare,hmark⟩ := servingCellCacheStore_mark hstored
      -- the cell is stored before the operation ends
      have hstore : Bridge.Releases tag s.bridge (s.bridge.updateModem
          (l850MutationResponseModem s.operation) modem) (Owns s) (Owns s) := by
        refine ⟨.updateModem hbare,fun ref => .kept ?_ fun _ => Iff.rfl⟩
        by_cases hr : ref = l850MutationResponseModem s.operation
        · rw [hr,updateModem_self]
          exact hmark
        · rw [updateModem_other _ _ hr]
      have hends : ∀ serving,Leaves {s with
          bridge := s.bridge.updateModem (l850MutationResponseModem s.operation) modem}
          (l850MutationCompleteSuccess {s with
            operation := {s.operation with commandPending := false}
            bridge := s.bridge.updateModem (l850MutationResponseModem s.operation) modem}
            serving) :=
        fun serving => completeSuccess_leaves serving ⟨rfl,rfl,rfl,id⟩ hlive
      exact .leaves ⟨(hends _).released,(hends _).device,
        hstore.trans tag_ne_unmarked (hends _).releases⟩
  · exact hfailed _ _ _

theorem poll_handles (hlive : s.released = false) : Handles s (l850MutationPoll s).1 := by
  have hstopped : Goes s {s with operation := {s.operation with pollSource := 0}} :=
    .withOperation rfl id
  have hfailed : ∀ state code retryable,Handles s (l850MutationCompleteFailure {s with
      operation := {s.operation with pollSource := 0}} state code retryable) :=
    fun state code retryable => .leaves (completeFailure_leaves _ _ _ hstopped hlive)
  have hquery : Handles s (l850MutationStartNvmCommand {s with
      operation := {s.operation with pollSource := 0}}) := .goes ⟨rfl,rfl,rfl,id⟩
  unfold l850MutationPoll
  dsimp only
  split
  · exact hfailed _ _ _
  split
  · split
    · exact hfailed _ _ _
    split
    · exact hfailed _ _ _
    · exact hquery
  · split
    · exact hfailed _ _ _
    split
    · exact hfailed _ _ _
    · exact hquery
  · rename_i hphase
    split
    · exact hfailed _ _ _
    · split
      · exact hfailed _ _ _
      · rename_i ref hfound hidle
        rw [Bool.not_eq_true] at hidle
        have hlive' : (s.modem ref).live = true := by
          have hattested := (findReplacement_found hfound).attested
          simp only [Modem.l850glModemAttestMutationTarget,Bool.and_eq_true] at hattested
          exact hattested.1.1
        split
        · exact .adopts ref ⟨hphase,hlive',hidle,rfl,rfl,rfl,rfl⟩
        · exact .adopts ref ⟨hphase,hlive',hidle,rfl,rfl,rfl,rfl⟩
    · split
      · exact hfailed _ _ _
      · exact .goes (.refl s)
  · split
    · exact hfailed _ _ _
    split
    · exact .goes ⟨rfl,rfl,rfl,fun _ => .inr rfl⟩
    split
    · exact hfailed _ _ _
    · exact .goes (.refl s)
  · exact hfailed _ _ _

theorem commandReady_handles (h : Replied object s call result) :
    Handles s (commandReady s call result) := by
  have hlive : s.released = false := h.idle.live
  have hexpected := h.expected
  unfold commandReady
  cases hcallback : call.callback with
  | probeReady => exact probeReady_handles hlive call.source result
  | setReady =>
    rw [hcallback] at hexpected
    exact setReady_handles hlive (expectedCall_set hexpected).1 call.source result
  | nvmReady => exact nvmReady_handles hlive call.source result
  | resetReady =>
    rw [hcallback] at hexpected
    exact resetReady_handles hlive (expectedCall_reset hexpected) result
  | cellReady => exact cellReady_handles hlive call.source result

/-- What a step does to the records as its report has them. -/
structure Marks (report : Bridge) (s t : State) : Prop where
  turned : ∃ u,u.bridge = s.bridge.refresh report ∧ u.released = s.released ∧
    u.operation = s.operation ∧ Handles u t

theorem Handles.withSources (h : Handles s t) (sources : List Source) :
    Handles s {t with sources := sources} := by
  cases h with
  | goes h => exact .goes ⟨h.bridge,h.live,h.records,h.settled⟩
  | adopts ref h => exact .adopts ref ⟨h.phase,h.found,h.idle,h.bridge,h.live,h.records,h.adopted⟩
  | leaves h => exact .leaves ⟨h.released,h.device,h.releases.same,h.releases.leaves⟩

theorem cancel_goes {o : Observation} {ubus : Ubus} :
    Goes s (cancelL850MutationOperations (({s with ubus := ubus}).observe o) true) := by
  unfold cancelL850MutationOperations
  split
  · exact ⟨rfl,rfl,rfl,id⟩
  · exact ⟨rfl,rfl,rfl,id⟩

theorem step_marks {event : Event} (h : mutationSystem.Reachable s) (hlive : s.released = false)
    (hstep : step s event = some t) : Marks event.bridge s t := by
  obtain ⟨object,hinv⟩ := reachable_inv h
  have ht := tracked_reachable h
  obtain ⟨wait,hwait⟩ : ∃ wait,Waiting object s wait := by
    rcases hinv with hinv | hwait
    · rw [hinv.released] at hlive
      cases hlive
    · exact hwait
  cases event with
  | finish index result bridge =>
    obtain ⟨call,u,-,hf,rfl⟩ := finish_running hwait ht hstep
    refine ⟨u,?_,?_,hf.operation,commandReady_handles hf.running.toReplied⟩
    · rw [hf.state]
      rfl
    · rw [hf.state]
      rfl
  | source id bridge =>
    unfold step at hstep
    dsimp only at hstep
    split at hstep
    · cases hstep
    rename_i source hfind
    rw [Option.some.injEq] at hstep
    subst hstep
    unfold dispatchSource
    split
    · refine ⟨{s with bridge := s.bridge.refresh bridge},rfl,rfl,rfl,.goes ⟨rfl,rfl,rfl,fun h => h⟩⟩
    · have hpolled := poll_handles (s:={s with
        bridge := s.bridge.refresh bridge
        sources := s.sources.filter fun other => other.id != source.id}) hlive
      refine ⟨{s with
        bridge := s.bridge.refresh bridge
        sources := s.sources.filter fun other => other.id != source.id},rfl,rfl,rfl,?_⟩
      dsimp only
      split
      · exact hpolled.withSources _
      · exact hpolled
  | connectionLost bridge =>
    simp only [step,connectionLost,Option.some.injEq] at hstep
    subst hstep
    refine ⟨{s with bridge := s.bridge.refresh bridge},rfl,rfl,rfl,.goes ?_⟩
    split
    · exact .refl _
    · exact cancel_goes
  | reconnected bridge =>
    simp only [step] at hstep
    split at hstep
    · cases hstep
    · rw [Option.some.injEq] at hstep
      subst hstep
      exact ⟨{s with bridge := s.bridge.refresh bridge},rfl,rfl,rfl,.goes ⟨rfl,rfl,rfl,id⟩⟩
  | shutdown bridge =>
    simp only [step] at hstep
    split at hstep
    · cases hstep
    · rw [Option.some.injEq] at hstep
      subst hstep
      exact ⟨{s with bridge := s.bridge.refresh bridge},rfl,rfl,rfl,.goes ⟨rfl,rfl,rfl,id⟩⟩
  | stop bridge =>
    simp only [step,l850glUbusStop,Option.some.injEq] at hstep
    subst hstep
    refine ⟨{s with bridge := s.bridge.refresh bridge},rfl,rfl,rfl,.goes ?_⟩
    split
    · exact .refl _
    · exact cancel_goes

theorem Handles.settled (h : Handles s t) (hs : Settled s.operation) :
    t.released = true ∨ Settled t.operation := by
  cases h with
  | goes h => exact .inr (h.settled hs)
  | adopts ref h => exact .inr (.inr h.adopted)
  | leaves h => exact .inl h.released

/-- What the request for a lock makes. -/
structure Begins (tables : Tables) (bridge : Bridge) (s : State) : Prop where
  spare : Spare tables (bridge.modems s.operation.original) s.operation.original
  written : s.bridge = bridge.updateModem s.operation.original
    (bridge.modems s.operation.original).acquireL850
  live : s.released = false
  replacement : s.operation.replacement = none
  device : (bridge.modems s.operation.original).physdev = some s.operation.physdev
  named : s.operation.physdev ≠ []

theorem l850RequestedModem_spare {tables : Tables} {bridge : Bridge} {modemId : CString}
    {generation : Nat} {ref : ModemRef}
    (h : l850RequestedModem tables bridge modemId generation = .ok ref)
    (hidle : (bridge.modems ref).mutationBusy = false) :
    Spare tables (bridge.modems ref) ref := by
  unfold l850RequestedModem at h
  split at h
  · cases h
  split at h
  · cases h
  dsimp only at h
  split at h
  · cases h
  split at h
  · cases h
  rename_i hattested
  split at h
  · cases h
  rename_i hspare
  cases h
  rw [not_not] at hattested
  simp only [Modem.l850glModemAttestMutationTarget,Bool.and_eq_true] at hattested
  simp only [not_or,Bool.not_eq_true] at hspare
  exact ⟨hattested.1.1,hidle,hspare.1,hspare.2.1,hspare.2.2.1,hspare.2.2.2⟩

theorem l850MutationStart_begins {tables : Tables} {ubus : Ubus} {bridge : Bridge} {ref : ModemRef}
    {type : L850MutationType} {earfcn pci band : Nat} {hasPci : Bool} {command : CString}
    (hspare : Spare tables (bridge.modems ref) ref)
    (h : l850MutationStart ubus bridge ref type earfcn hasPci pci band command = .started s) :
    Begins tables bridge s := by
  unfold l850MutationStart l850MutationOperationNew at h
  dsimp only at h
  split at h
  · cases h
  rename_i u hnew
  rw [Admission.started.injEq] at h
  subst h
  split at hnew
  · cases hnew
  rename_i physdev hphysdev
  split at hnew
  · cases hnew
  rename_i hnamed
  rw [Option.some.injEq] at hnew
  subst hnew
  exact ⟨hspare,rfl,rfl,rfl,hphysdev,hnamed⟩

theorem methodSetCellLock_begins {tables : Tables} {ubus : Ubus} {bridge : Bridge}
    {request : Option SetCellLockRequest}
    (h : methodSetCellLock tables ubus bridge request = .started s) :
    Begins tables bridge s := by
  unfold methodSetCellLock refuseRequested at h
  dsimp only at h
  split at h
  · cases h
  split at h
  · cases h
  split at h
  · cases h
  split at h
  · cases h
  split at h
  · cases h
  rename_i hok
  split at h
  · cases h
  split at h
  · cases h
  rename_i hidle
  rw [not_or,Bool.not_eq_true] at hidle
  split at h
  · cases h
  · exact l850MutationStart_begins (l850RequestedModem_spare hok hidle.1) h

theorem methodClearCellLock_begins {tables : Tables} {ubus : Ubus} {bridge : Bridge}
    {request : Option ClearCellLockRequest}
    (h : methodClearCellLock tables ubus bridge request = .started s) :
    Begins tables bridge s := by
  unfold methodClearCellLock refuseRequested at h
  dsimp only at h
  split at h
  · cases h
  split at h
  · cases h
  split at h
  · cases h
  rename_i hok
  split at h
  · cases h
  split at h
  · cases h
  rename_i hidle
  rw [not_or,Bool.not_eq_true] at hidle
  exact l850MutationStart_begins (l850RequestedModem_spare hok hidle.1) h

/-- In every run of a lock operation nothing is adopted before its time, and its device has a
name. -/
theorem reachable_settled (h : mutationSystem.Reachable s) :
    (s.released = true ∨ Settled s.operation) ∧ s.operation.physdev ≠ [] := by
  induction h with
  | start hs =>
    obtain ⟨tables,ubus,bridge,-,⟨request,hs⟩ | ⟨request,hs⟩⟩ := hs
    · have hbegins := methodSetCellLock_begins hs
      exact ⟨.inr (.inl hbegins.replacement),hbegins.named⟩
    · have hbegins := methodClearCellLock_begins hs
      exact ⟨.inr (.inl hbegins.replacement),hbegins.named⟩
  | @step s t event hreach _ hstep ih =>
    by_cases hlive : s.released = false
    · obtain ⟨u,-,-,hop,hhandles⟩ := (step_marks hreach hlive hstep).turned
      have hsettled : Settled u.operation := by
        rw [hop]
        refine ih.1.resolve_left fun hreleased => ?_
        rw [hlive] at hreleased
        cases hreleased
      refine ⟨hhandles.settled hsettled,?_⟩
      have hdevice : t.operation.physdev = u.operation.physdev := by
        cases hhandles with
        | goes h => exact h.device
        | adopts ref h => exact congrArg (·.2.2) h.records
        | leaves h => exact h.device
      rw [hdevice,hop]
      exact ih.2
    · obtain ⟨object,hinv⟩ := reachable_inv hreach
      have hstill : t.operation = s.operation ∧ t.released = s.released := by
        rcases hinv with hinv | ⟨wait,hwait⟩
        · obtain ⟨hop,hreleased,-⟩ := step_released_still hinv hstep
          exact ⟨hop,hreleased⟩
        · exact absurd hwait.idle.live hlive
      rw [hstill.1,hstill.2]
      exact ih

/-- An operation stays on its device, and nothing brings it back. -/
theorem Handles.device (h : Handles s t) : t.operation.physdev = s.operation.physdev ∧
    (t.released = false → s.released = false) := by
  cases h with
  | goes h => exact ⟨h.device,fun hlive => h.live ▸ hlive⟩
  | leaves h =>
    refine ⟨h.device,fun hlive => ?_⟩
    rw [h.released] at hlive
    cases hlive
  | adopts ref h =>
    have hrecords := h.records
    simp only [L850MutationOperation.records,Prod.mk.injEq] at hrecords
    exact ⟨hrecords.2.2,fun hlive => h.live ▸ hlive⟩

theorem Handles.original (h : Handles s t) (hlive : t.released = false) :
    t.operation.original = s.operation.original := by
  cases h with
  | goes h => exact congrArg Prod.fst h.records
  | leaves h =>
    rw [h.released] at hlive
    cases hlive
  | adopts ref h => exact congrArg Prod.fst h.records

/-- What an operation owns it has owned before, or has found alive. -/
theorem Handles.owns (h : Handles s t) {ref : ModemRef} (howns : Owns t ref ()) :
    Owns s ref () ∨ (s.modem ref).live = true := by
  cases h with
  | goes h => exact .inl ((h.owns ref ()).mp howns)
  | leaves h =>
    have hlive := howns.1
    rw [h.released] at hlive
    cases hlive
  | adopts target h =>
    have hrecords := h.records
    simp only [L850MutationOperation.records,Prod.mk.injEq] at hrecords
    obtain ⟨hlive,hrecord⟩ := howns
    rw [hrecords.1,hrecords.2.1,Option.some.injEq] at hrecord
    rcases hrecord with horiginal | hadopted
    · exact .inl ⟨h.live ▸ hlive,.inl horiginal⟩
    · exact .inr (hadopted ▸ h.found)

/-- What a callback does to the records, as turns of its operation. -/
theorem Handles.turns (h : Handles s t) (hlive : s.released = false)
    (hsettled : Settled s.operation)
    (hclean : ∀ ref,(s.modem ref).mutationBusy = false → (s.modem ref).mark = Modem.unmarked) :
    Turns tag s.bridge t.bridge (Owns s) (Owns t) := by
  cases h with
  | goes h => exact h.releases.turns
  | leaves h => exact h.releases.turns
  | adopts ref h =>
    have hnone : s.operation.replacement = none := by
      refine hsettled.resolve_right ?_
      rw [h.phase]
      decide
    have hrecords := h.records
    simp only [L850MutationOperation.records,Prod.mk.injEq] at hrecords
    rw [h.bridge]
    refine .take (b:=()) (hclean ref h.idle) rfl rfl fun other x => ?_
    rw [Owns,Owns,h.live,hlive,hrecords.1,hrecords.2.1,hnone]
    simp [eq_comm]

end Mutation
end L850GL
