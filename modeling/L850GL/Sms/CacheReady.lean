import L850GL.Sms.Steps

/-! The listing behind a ready message cache. -/
namespace L850GL
namespace Sms

open Errors Messaging Mutation World

variable {w w' w₁ : World} {ref : ModemRef} {op : OperationRef} {operation : SmsOperation}
  {sha256 : CString → Digest} {random : Nat → Option (Vector UInt8 16)}

/-- The record's current epoch has a completed listing. -/
def ListedNow (w : World) (ref : ModemRef) : Prop :=
  .listed ref (w.messaging ref).messagingGeneration ∈ w.trace

/-- No epoch change takes a ready cache into an epoch with a messaging object. -/
def ReadyNotCarried (w : World) (event : Event × Bridge) : Prop :=
  ∀ ref forceEpoch object, event.1 = .reconcile ref forceEpoch (some object) →
    (forceEpoch = true ∨ some object ≠ (w.messaging ref).messaging) →
    (w.messaging ref).messagingGeneration ≠ Cell.uint32Max →
    (w.messaging ref).smsCacheState.isReady = false

/-- Every ready cache has its listing. -/
def ReadyListed (w : World) : Prop :=
  ∀ ref, (w.messaging ref).smsCacheState.isReady = true → ListedNow w ref

/-- What the steps of one epoch keep. -/
theorem ReadyListed.keep (h : ReadyListed w)
    (hepoch : ∀ ref, (w'.messaging ref).messagingGeneration =
      (w.messaging ref).messagingGeneration)
    (hready : ∀ ref, (w'.messaging ref).smsCacheState.isReady = true →
      (w.messaging ref).smsCacheState.isReady = true ∨
        .listed ref (w.messaging ref).messagingGeneration ∈ w'.trace)
    (htrace : w.trace ⊆ w'.trace) : ReadyListed w' := by
  intro ref hr
  rw [ListedNow,hepoch]
  rcases hready ref hr with h₁ | h₁
  · exact htrace (h ref h₁)
  · exact h₁

theorem Passive.trace_subset (h : Passive w w') : w.trace ⊆ w'.trace := by
  obtain ⟨later,hl,-⟩ := h.trace
  rw [hl]
  exact List.subset_append_right _ _

theorem Passive.readyListed (h : Passive w w') (hw : ReadyListed w) : ReadyListed w' :=
  hw.keep (fun ref => (h.messaging ref).epoch) h.ready h.trace_subset

theorem Settle.trace_subset (h : Settle w w' op operation) : w.trace ⊆ w'.trace := by
  intro o ho
  cases h with
  | silent later htrace => simp [htrace,ho]
  | removed later token code retryable htrace => simp [htrace,ho]
  | stored later first token result htrace => simp [htrace,ho]

theorem Completes.readyListed (h : Completes w w' op operation) (hw : ReadyListed w) :
    ReadyListed w' := by
  refine hw.keep (fun ref => ?_) (fun ref hr => ?_) h.settle.trace_subset
  · by_cases he : ref = operation.modem
    · rw [he,h.epoch]
    · rw [h.others ref he]
  · left
    by_cases he : ref = operation.modem
    · rw [he,← h.state,← he]
      exact hr
    · rw [← h.others ref he]
      exact hr

theorem Starts.readyListed (h : Starts w w' operation) (htrace : w.trace ⊆ w'.trace)
    (hw : ReadyListed w) : ReadyListed w' := by
  refine hw.keep (fun ref => ?_) (fun ref hr => ?_) htrace
  · by_cases he : ref = operation.modem
    · rw [he,h.epoch]
    · rw [h.others ref he]
  · left
    by_cases he : ref = operation.modem
    · rw [he,← h.state,← he]
      exact hr
    · rw [← h.others ref he]
      exact hr

theorem Messaging.changeEpoch_ready {m : Messaging} {object : Option Nat}
    (h : (m.changeEpoch object).smsCacheState.isReady = true) :
    m.smsCacheState.isReady = true ∧ m.messagingGeneration ≠ Cell.uint32Max ∧
      object.isSome = true := by
  simp only [Messaging.changeEpoch] at h
  split at h
  · cases h
  · rename_i hg
    split at h
    · cases h
    · exact ⟨h,hg,rfl⟩

theorem Effect.readyListed {event : Event × Bridge} (h : Effect sha256 w w' event.1)
    (hG : ReadyNotCarried w event) (hw : ReadyListed w) : ReadyListed w' := by
  generalize he : event.1 = e at h
  cases h with
  | passive h => exact h.readyListed hw
  | listed hcall h => exact h.readyListed (w:=w.answer _) hw
  | completed hcall hop h ho h' => exact h'.readyListed (h.readyListed (w:=w.answer _) hw)
  | dispatched hcall h ho h' =>
    refine (h.readyListed (w:=w.answer _) hw).keep (fun ref => by rw [h'.messaging])
      (fun ref hr => .inl (by rw [← h'.messaging]; exact hr)) ?_
    rw [h'.trace]
    exact List.subset_cons_self _ _
  | startedSend h h' =>
    refine h'.toStarts.readyListed ?_ (h.readyListed hw)
    rw [h'.trace]
    intro o ho
    simp [ho]
  | startedDelete h =>
    obtain ⟨smsId,htrace⟩ := h.trace
    refine h.toStarts.readyListed ?_ hw
    rw [htrace]
    exact List.subset_cons_self _ _
  | @epochChanged ref forceEpoch object w₁ hlive hchanged h hm h' =>
    refine h'.readyListed fun other hr => ?_
    have h₁ := h.readyListed hw
    by_cases ho : other = ref
    · subst ho
      simp only [updateMessaging,Function.update_self] at hr
      obtain ⟨hready,hg,hsome⟩ := Messaging.changeEpoch_ready hr
      obtain ⟨value,rfl⟩ := Option.isSome_iff_exists.mp hsome
      have h₂ := hG other forceEpoch value he hchanged hg
      rw [hready] at h₂
      cases h₂
    · simp only [ListedNow,updateMessaging,ne_eq,ho,not_false_eq_true,Function.update_of_ne] at hr ⊢
      exact h₁ other hr
  | admitted h =>
    subst h
    exact hw
  | removed _ h h' =>
    subst h'
    exact h.readyListed hw

theorem reachableUnder_readyListed {G : World → Event × Bridge → Prop}
    (hG : ∀ w event, G w event → ReadyNotCarried w event)
    (h : (smsSystem sha256 random).ReachableUnder G w) : Pending w none ∧ ReadyListed w := by
  refine h.invariant (P:=fun w => Pending w none ∧ ReadyListed w) (fun w h₀ => ?_)
    fun w event w' hw hg hs => ?_
  · refine ⟨Initial.pending h₀,fun ref hr => ?_⟩
    rw [h₀.messaging ref] at hr
    cases hr
  · exact ⟨step_pending hw.1 hs,(step_effect hw.1 hs).2.readyListed
      (w:=w.refresh event.2) (hG w event hg) hw.2⟩

theorem methodListSms_served {request : Option ListSmsRequest} {snapshot : List L850GLSms}
    (h : (methodListSms w request).2 = .served ref snapshot) :
    (w.messaging ref).smsCacheState.isReady = true := by
  cases request with
  | none => cases h
  | some request =>
    simp only [methodListSms] at h
    split at h
    · cases h
    split at h
    · cases h
    split at h
    · cases h
    split at h
    · split at h
      · cases h
      · cases h
    split at h
    · cases h
    split at h
    · cases h
    · rename_i hready
      cases h
      simpa using hready

theorem deleteSmsOn_ready {request : DeleteSmsRequest}
    (h : (deleteSmsOn w ref request).2 ≠ some (sendSmsMutationLookupError w.bridge "not_ready")) :
    (w.messaging ref).smsCacheState.isReady = true := by
  by_contra hready
  apply h
  rw [deleteSmsOn,if_pos]
  simpa using hready

/-- When no epoch change carries a ready cache over, a ready cache has been listed in its epoch,
and `list_sms` and `delete_sms` take an inventory for complete only then. -/
theorem smsCacheState_listed (h : (smsSystem sha256 random).ReachableUnder ReadyNotCarried w) :
    (∀ ref, (w.modem ref).live = true → (w.messaging ref).smsCacheState.isReady = true →
      ListedNow w ref) ∧
    ∀ bridge, (∀ request ref snapshot,
        (methodListSms (w.refresh bridge) request).2 = .served ref snapshot → ListedNow w ref) ∧
      ∀ tables request ref, smsMutationModem (w.refresh bridge) tables request.modemId
          request.generation request.messagingGeneration = .ok ref →
        (deleteSmsOn (w.refresh bridge) ref request).2 ≠
          some (sendSmsMutationLookupError bridge "not_ready") → ListedNow w ref := by
  obtain ⟨-,hl⟩ := reachableUnder_readyListed (fun _ _ h => h) h
  refine ⟨fun ref _ hr => hl ref hr,fun bridge => ⟨fun request ref snapshot hs => ?_,
    fun tables request ref _ hs => ?_⟩⟩
  · exact hl ref (methodListSms_served (w:=w.refresh bridge) hs)
  · exact hl ref (deleteSmsOn_ready (w:=w.refresh bridge) hs)

/-- Nothing is listed in an epoch that has not begun. -/
def ListedBound (w : World) : Prop :=
  ∀ ref epoch, .listed ref epoch ∈ w.trace → epoch ≤ (w.messaging ref).messagingGeneration

theorem ListedBound.keep (h : ListedBound w)
    (hepoch : ∀ ref, (w.messaging ref).messagingGeneration ≤
      (w'.messaging ref).messagingGeneration)
    (htrace : ∀ ref epoch, .listed ref epoch ∈ w'.trace → .listed ref epoch ∈ w.trace ∨
      epoch = (w.messaging ref).messagingGeneration) : ListedBound w' := by
  intro ref epoch hm
  have h₁ := hepoch ref
  rcases htrace ref epoch hm with h₂ | h₂
  · have h₃ := h ref epoch h₂
    omega
  · omega

theorem Passive.listedBound (h : Passive w w') (hw : ListedBound w) : ListedBound w' := by
  refine hw.keep (fun ref => by rw [(h.messaging ref).epoch]) fun ref epoch hm => ?_
  obtain ⟨later,hl,hlater⟩ := h.trace
  rw [hl] at hm
  rcases List.mem_append.mp hm with hm | hm
  · obtain ⟨other,ho⟩ := hlater _ hm
    cases ho
    exact .inr rfl
  · exact .inl hm

theorem Settle.listed {epoch : Nat} (h : Settle w w' op operation)
    (hm : .listed ref epoch ∈ w'.trace) : .listed ref epoch ∈ w.trace := by
  have hclosing : ∀ later : List Observation, (∀ o ∈ later, ClosingOf op o) →
      .listed ref epoch ∉ later := by
    intro later hl ho
    cases hl _ ho
  cases h with
  | silent later htrace hlater =>
    rw [htrace] at hm
    exact (List.mem_append.mp hm).resolve_left (hclosing later hlater)
  | removed later token code retryable htrace hlater =>
    rw [htrace] at hm
    exact (List.mem_append.mp hm).resolve_left (hclosing later hlater)
  | stored later first token result htrace hlater hfirst =>
    rw [htrace] at hm
    simp only [List.mem_append,List.mem_cons,reduceCtorEq,false_or] at hm
    rcases hm with hm | hm | hm | hm
    · exact absurd hm (hclosing later hlater)
    · obtain ⟨_,_,ho⟩ := mem_evictions hm
      cases ho
    · rw [← hm] at hfirst
      cases hfirst
    · exact hm

theorem Messaging.changeEpoch_epoch (m : Messaging) (object : Option Nat) :
    m.messagingGeneration ≤ (m.changeEpoch object).messagingGeneration := by
  simp only [Messaging.changeEpoch]
  split
  · exact Nat.le_refl _
  · split
    · exact Nat.le_succ _
    · exact Nat.le_succ _

theorem Effect.listedBound {event : Event} (h : Effect sha256 w w' event) (hw : ListedBound w) :
    ListedBound w' := by
  cases h with
  | passive h => exact h.listedBound hw
  | listed hcall h => exact h.listedBound (w:=w.answer _) hw
  | @completed _ _ _ _ operation _ hcall hop h ho h' =>
    refine (h.listedBound (w:=w.answer _) hw).keep (fun ref => ?_)
      fun ref epoch hm => .inl (h'.settle.listed hm)
    by_cases he : ref = operation.modem
    · rw [he,h'.epoch]
    · rw [h'.others ref he]
  | dispatched hcall h ho h' =>
    refine (h.listedBound (w:=w.answer _) hw).keep (fun ref => by rw [h'.messaging])
      fun ref epoch hm => .inl ?_
    rw [h'.trace] at hm
    simpa using hm
  | @startedSend _ _ operation _ _ _ h h' =>
    refine (h.listedBound hw).keep (fun ref => ?_) fun ref epoch hm => .inl ?_
    · by_cases he : ref = operation.modem
      · rw [he,h'.epoch]
      · rw [h'.others ref he]
    · rw [h'.trace] at hm
      simp only [List.mem_cons,List.mem_append,reduceCtorEq,false_or] at hm
      refine hm.resolve_left fun hm => ?_
      obtain ⟨_,_,ho⟩ := mem_evictions hm
      cases ho
  | @startedDelete _ operation _ h =>
    obtain ⟨smsId,htrace⟩ := h.trace
    refine hw.keep (fun ref => ?_) fun ref epoch hm => .inl ?_
    · by_cases he : ref = operation.modem
      · rw [he,h.epoch]
      · rw [h.others ref he]
    · rw [htrace] at hm
      simpa using hm
  | @epochChanged ref forceEpoch object w₁ hlive hchanged h hm h' =>
    refine h'.listedBound ((h.listedBound hw).keep (fun other => ?_) fun _ _ hm => .inl hm)
    by_cases ho : other = ref
    · subst ho
      simpa [updateMessaging,hm] using
        Messaging.changeEpoch_epoch (w.messaging other) object
    · simp [updateMessaging,ho]
  | admitted h =>
    subst h
    exact hw
  | removed _ h h' =>
    subst h'
    exact h.listedBound hw

theorem reachable_listedBound (h : (smsSystem sha256 random).Reachable w) :
    Pending w none ∧ ListedBound w := by
  refine h.invariant (P:=fun w => Pending w none ∧ ListedBound w) (fun w h₀ => ?_)
    fun w event w' hw hs => ?_
  · refine ⟨Initial.pending h₀,fun ref epoch hm => ?_⟩
    rw [h₀.trace] at hm
    cases hm
  · exact ⟨step_pending hw.1 hs,(step_effect hw.1 hs).2.listedBound (w:=w.refresh event.2) hw.2⟩

theorem querySms_self (w : World) (ref : ModemRef) :
    (w.querySms ref).trace = w.trace ∧ ((w.querySms ref).messaging ref = w.messaging ref ∨
      (w.querySms ref).messaging ref = (w.messaging ref).querySms.1) := by
  simp only [World.querySms]
  split
  · exact ⟨rfl,.inl rfl⟩
  · split
    · exact ⟨rfl,.inr (by simp [call,updateMessaging])⟩
    · exact ⟨rfl,.inr (by simp [updateMessaging])⟩

theorem Messaging.querySms_smsByPath (m : Messaging) : m.querySms.1.smsByPath = m.smsByPath := by
  simp only [Messaging.querySms]
  split
  · rfl
  split
  · rfl
  · rfl

theorem reconcileMessaging_changed {forceEpoch : Bool} {object : Option Nat}
    (h : forceEpoch = true ∨ object ≠ (w.messaging ref).messaging) :
    let w' := reconcileMessaging w ref forceEpoch object
    let m := (w.messaging ref).changeEpoch object
    w'.trace = w.trace ∧ (w'.messaging ref = m ∨ w'.messaging ref = m.querySms.1) := by
  have hcancel : (cancelMutation w ref).trace = w.trace := by
    simp only [cancelMutation]
    split
    · rfl
    · rfl
  have hquery : ∀ v : World, v.trace = w.trace →
      ((v.updateMessaging ref ((w.messaging ref).changeEpoch object)).querySms ref).trace =
        w.trace ∧
      (((v.updateMessaging ref ((w.messaging ref).changeEpoch object)).querySms ref).messaging ref =
        (w.messaging ref).changeEpoch object ∨
      ((v.updateMessaging ref ((w.messaging ref).changeEpoch object)).querySms ref).messaging ref =
        ((w.messaging ref).changeEpoch object).querySms.1) := by
    intro v hv
    obtain ⟨h₁,h₂⟩ := querySms_self (v.updateMessaging ref
      ((w.messaging ref).changeEpoch object)) ref
    refine ⟨h₁.trans hv,?_⟩
    simpa [updateMessaging] using h₂
  dsimp only [reconcileMessaging]
  rw [if_neg]
  · split
    · exact hquery _ hcancel
    · exact hquery _ rfl
  · rcases h with h | h
    · simp [h]
    · simp [h]

/-- Carrying a ready cache over leaves it ready, empty and without a listing. -/
theorem reconcileMessaging_carried (h : (smsSystem sha256 random).Reachable w)
    {forceEpoch : Bool} {object : Nat}
    (hchanged : forceEpoch = true ∨ some object ≠ (w.messaging ref).messaging)
    (hg : (w.messaging ref).messagingGeneration ≠ Cell.uint32Max)
    (hr : (w.messaging ref).smsCacheState.isReady = true) :
    let w' := reconcileMessaging w ref forceEpoch (some object)
    (w'.messaging ref).smsCacheState.isReady = true ∧ (w'.messaging ref).smsByPath = [] ∧
      ¬ListedNow w' ref := by
  obtain ⟨htrace,hm⟩ := reconcileMessaging_changed hchanged
  have hm' : (w.messaging ref).changeEpoch (some object) = {(w.messaging ref).leaveEpoch with
      messagingGeneration := (w.messaging ref).messagingGeneration+1
      smsRevision := ((w.messaging ref).changeEpoch (some object)).smsRevision
      messaging := some object} := by
    simp only [Messaging.changeEpoch]
    rw [if_neg (show ¬(w.messaging ref).leaveEpoch.messagingGeneration = Cell.uint32Max from hg)]
    rfl
  have hnew : ((reconcileMessaging w ref forceEpoch (some object)).messaging ref
      ).messagingGeneration = (w.messaging ref).messagingGeneration+1 := by
    have hq := (Messaging.querySms_ledger 0
      ((w.messaging ref).changeEpoch (some object))).epoch
    rcases hm with hm | hm
    · rw [hm,hm']
    · rw [hm,hq,hm']
  refine ⟨?_,?_,fun hl => ?_⟩
  · rcases hm with hm | hm
    · rw [hm,hm']
      exact hr
    · rw [hm,Messaging.querySms_ready,hm']
      exact hr
  · rcases hm with hm | hm
    · rw [hm,hm']
      rfl
    · rw [hm,Messaging.querySms_smsByPath,hm']
      rfl
  · rw [ListedNow,hnew,htrace] at hl
    have h₁ := (reachable_listedBound h).2 ref _ hl
    omega

/-- A bridge that has not seen its modem yet. -/
def sampleStart : World where
  bridge := {sampleBridge false with modems := fun ref => sampleModem false 10 (ref+1)}
  admitted := 0
  messaging := fun _ => Messaging.new
  properties := fun _ => ⟨none,.unknown,none,none,none,.unknown,0,0,.unknown,0⟩
  operations := fun _ => none
  next := 0
  calls := []
  drawn := 0
  ubus := sampleUbus
  trace := []

theorem sampleStart_initial : Initial sampleStart where
  clock := by decide
  modems _ := ⟨rfl,rfl,rfl,rfl⟩
  generations _ := rfl
  admitted := rfl
  messaging _ := rfl
  operations _ := rfl
  calls := rfl
  trace := rfl

def sampleListRequest : ListSmsRequest where
  modemId := "l850gl-00112233445566778899aabbccddeeff".toList
  folder := .all
  limit := smsDefaultLimit
  cursor := []

/-- The modem appears with a messaging object, whose listing ends. -/
def sampleListing : List (Event × Bridge) :=
  [.admitted,.reconcile 0 false (some 7),.finish 0 ⟨[],none,true,none⟩].map
    fun event => (event,sampleBridge false)

def sampleSystem : System World (Event × Bridge) :=
  smsSystem (fun _ => Vector.replicate 32 0) (fun _ => none)

theorem sampleListing_ready : (sampleSystem.run sampleStart sampleListing).map
    (fun w => ((w.modem 0).live,(w.messaging 0).smsCacheState.isReady)) = some (true,true) := by
  decide +kernel

theorem sampleAdmitted_absent : (sampleSystem.step sampleStart (.admitted,sampleBridge false)).map
    (fun w => (w.messaging 0).smsCacheState.isReady) = some false := by
  decide +kernel

/-- The rule at a run with one listing. -/
theorem smsCacheState_listed_sample : ∃ w, sampleSystem.run sampleStart sampleListing = some w ∧
    ListedNow w 0 := by
  obtain ⟨w,hw,hready⟩ := Option.map_eq_some_iff.mp sampleListing_ready
  obtain ⟨hlive,hr⟩ := Prod.mk.inj hready
  refine ⟨w,hw,?_⟩
  have hother : ∀ (v : World) (event : Event × Bridge),
      (∀ ref forceEpoch object, event.1 ≠ .reconcile ref forceEpoch (some object)) →
      ReadyNotCarried v event := fun v event hne ref forceEpoch object he => absurd he (hne _ _ _)
  obtain ⟨w₁,hs₁,h₁,hw⟩ := System.ReachableUnder.run_cons (S:=sampleSystem)
    (.start sampleStart_initial) (hother _ _ (by simp)) hw
  have hadmitted := sampleAdmitted_absent
  rw [hs₁,Option.map_some,Option.some.injEq] at hadmitted
  obtain ⟨w₂,-,h₂,hw⟩ := h₁.run_cons (fun ref forceEpoch object he _ _ => by
    simp only [Event.reconcile.injEq] at he
    rw [← he.1]
    exact hadmitted) hw
  obtain ⟨w₃,-,h₃,hw⟩ := h₂.run_cons (hother _ _ (by simp)) hw
  cases hw
  exact (smsCacheState_listed h₃).1 0 hlive hr

/-- The Sim property changes after that listing. -/
def sampleForcedEpoch : List (Event × Bridge) :=
  sampleListing++[(.reconcile 0 true (some 7),sampleBridge false)]

theorem sampleForcedEpoch_served : (sampleSystem.run sampleStart sampleForcedEpoch).map
    (fun w => ((w.modem 0).live,(w.messaging 0).smsCacheState.isReady,
      (methodListSms (w.refresh (sampleBridge false)) (some sampleListRequest)).2 == .served 0 [],
      w.trace.contains (.listed 0 (w.messaging 0).messagingGeneration))) =
    some (true,true,true,false) := by
  decide +kernel

/-- After the forced epoch the emptied cache is ready, and `list_sms` serves it. -/
theorem smsCacheState_unlisted : ∃ w, sampleSystem.Reachable w ∧ (w.modem 0).live = true ∧
    (w.messaging 0).smsCacheState.isReady = true ∧ ¬ListedNow w 0 ∧
    (methodListSms (w.refresh (sampleBridge false)) (some sampleListRequest)).2 = .served 0 [] := by
  obtain ⟨w,hw,hserved⟩ := Option.map_eq_some_iff.mp sampleForcedEpoch_served
  simp only [Prod.mk.injEq,beq_iff_eq] at hserved
  refine ⟨w,System.reachable_run (.start sampleStart_initial) hw,hserved.1,hserved.2.1,?_,
    hserved.2.2.1⟩
  simpa [ListedNow] using hserved.2.2.2

end Sms
end L850GL
