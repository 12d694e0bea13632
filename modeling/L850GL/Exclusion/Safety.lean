import L850GL.Exclusion.Runs

/-! A record has one owner at most, and a live one has one activity at most. -/
namespace L850GL
namespace Exclusion

open Bridge Cooldown Mutation Ownership Sms

variable {w w' u : World} {ref : ModemRef} {sha256 : CString → Digest}
  {random : Nat → Option (Vector UInt8 16)} {input : Bridge × Event}

theorem Owner.tag_busy (owner : Owner) : owner.tag.1 = true := by
  cases owner with
  | sms op => rfl
  | advanced op => rfl
  | mutation index => rfl

/-- A step hands no record over. -/
theorem Kept.same_owner (h : Kept w w') (hw : Inv w) {owner owner' : Owner}
    (ha : Owns w ref owner) (hb : Owns w' ref owner') : owner' = owner := by
  rcases h.step with hworks | hrenews
  · exact (hworks.turn ref).same_owner (hw.marked ref) Owner.tag_ne_unmarked ha hb
  · exact (hw.marked ref).alone owner' owner ((hrenews.owns ref owner').mp hb) ha

/-- A record is busy exactly while it has an owner, which is the only one and whose mark it
carries. -/
theorem reachable_marked (h : (bridgeSystem sha256 random).Reachable w) (ref : ModemRef) :
    ((w.bridge.modems ref).mutationBusy = true ↔ ∃! owner,Owns w ref owner) ∧
      (∀ owner,Owns w ref owner → (w.bridge.modems ref).mark = owner.tag) ∧
      ((∀ owner,¬Owns w ref owner) → (w.bridge.modems ref).mark = Modem.unmarked) := by
  have hmarked := (reachable_inv h).marked ref
  refine ⟨⟨fun hbusy => ?_,?_⟩,hmarked.owned,hmarked.idle⟩
  · by_contra hnone
    have hidle := hmarked.idle fun owner howns => hnone
      ⟨owner,howns,fun other hother => hmarked.alone other owner hother howns⟩
    rw [Modem.mutationBusy_of_mark hidle] at hbusy
    cases hbusy
  · rintro ⟨owner,howns,-⟩
    exact (congrArg Prod.fst (hmarked.owned owner howns)).trans owner.tag_busy

/-- The owner of a record keeps it with its mark, or leaves it free. -/
theorem reachable_step (h : (bridgeSystem sha256 random).Reachable w)
    (hs : step sha256 random w input = some w') {owner : Owner} (howns : Owns w ref owner) :
    Owns w' ref owner ∧ (w'.bridge.modems ref).mark = (w.bridge.modems ref).mark ∨
      (∀ other,¬Owns w' ref other) ∧ (w'.bridge.modems ref).mark = Modem.unmarked := by
  have hw := reachable_inv h
  have hkept := step_kept hw hs
  have hmarked := hkept.inv.marked ref
  by_cases howned : Owns w' ref owner
  · exact .inl ⟨howned,(hmarked.owned owner howned).trans ((hw.marked ref).owned owner howns).symm⟩
  · have hnone : ∀ other,¬Owns w' ref other := by
      intro other hother
      rw [hkept.same_owner (hw.reported input.1) howns hother] at hother
      exact howned hother
    exact .inr ⟨hnone,hmarked.idle hnone⟩

theorem Progress.targets (h : Progress w w') :
    (∀ ref activity,Targets w' ref activity → Targets w ref activity) ∨
      ∃ activity target,Spare w.tables (w.bridge.modems target) target ∧ ∀ ref other,
        Targets w' ref other → Targets w ref other ∨ other = activity ∧ ref = target := by
  cases h with
  | shrinks hold hasked =>
    refine .inl fun ref activity htargets => ?_
    rcases htargets.cases with ⟨index,rfl,-⟩ | ⟨hother,huses⟩
    · exact hasked ref index htargets
    · exact (hold ref activity huses).targets hother
  | starts activity target hspare hnew hasked =>
    refine .inr ⟨activity,target,hspare,fun ref other htargets => ?_⟩
    rcases htargets.cases with ⟨index,rfl,-⟩ | ⟨hother,huses⟩
    · exact hasked ref index htargets
    · rcases hnew ref other huses with hold | ⟨rfl,hr | ⟨⟨index,hmutation⟩,-⟩⟩
      · exact .inl (hold.targets hother)
      · exact .inr ⟨rfl,hr⟩
      · exact absurd hmutation (hother index)

theorem Renews.targets (h : Renews w w') {activity : Activity}
    (htargets : Targets w' ref activity) : Targets w ref activity := by
  rcases htargets.cases with ⟨index,rfl,-⟩ | ⟨hother,huses⟩
  · rw [Targets,h.mutations] at htargets
    exact htargets
  · exact (h.uses ref activity huses).targets hother

theorem Unborn.not_targets (h : Unborn w ref) (activity : Activity) : ¬Targets w ref activity := by
  intro htargets
  rcases htargets.cases with ⟨index,-,howns⟩ | ⟨hother,huses⟩
  · exact h.unowned index howns
  · obtain ⟨index,hmutation⟩ := h.unused activity huses
    exact hother index hmutation

theorem Initial.not_targets (h : Initial w) (ref : ModemRef) (activity : Activity) :
    ¬Targets w ref activity := by
  intro htargets
  rcases htargets.cases with ⟨index,-,howns⟩ | ⟨-,huses⟩
  · exact h.not_owns ref (.mutation index) howns
  · exact h.not_uses ref activity huses

/-- A live record is asked for by one thing at most, whatever the devices of the records are. -/
theorem reachable_target (h : (bridgeSystem sha256 random).Reachable w) (ref : ModemRef)
    (hlive : (w.bridge.modems ref).live = true) : Alone (Targets w ref) := by
  induction h generalizing ref with
  | start hs => exact fun a _ ha => absurd ha (Initial.not_targets hs ref a)
  | @step w w' input hreach _ hs ih =>
    have hw := (reachable_inv hreach).reported input.1
    have hbefore : (w.bridge.modems ref).live = true →
        Alone (Targets (w.reported input.1) ref) := by
      intro hl a b ha hb
      refine ih ref hl a b ?_ ?_
      · cases a <;> exact ha
      · cases b <;> exact hb
    rcases (step_kept (reachable_inv hreach) hs).step with hworks | hrenews
    · rw [hworks.same.live] at hlive
      rcases hworks.progress.targets with hold | ⟨activity,target,hspare,hnew⟩
      · exact (hbefore hlive).passes (.shrinks (hold ref))
      · by_cases hr : ref = target
        · subst hr
          refine (hbefore hlive).passes (.starts activity
            (hw.not_targets (reported_synced w input.1) hspare) fun other hother => ?_)
          exact (hnew ref other hother).imp_right And.left
        · refine (hbefore hlive).passes (.shrinks fun other hother => ?_)
          exact (hnew ref other hother).resolve_right fun h => hr h.2
    · rcases hrenews.live ref hlive with hl | hunborn
      · exact (hbefore hl).passes (.shrinks fun a => hrenews.targets)
      · exact fun a _ ha => absurd (hrenews.targets ha) (hunborn.not_targets a)

theorem Works.alone (h : Works u w') (hu : Inv u) (hsynced : Synced u) (hdistinct : Distinct w')
    (hlive : (w'.bridge.modems ref).live = true) (halone : Alone (Uses u ref)) :
    Alone (Uses w' ref) := by
  cases h.progress with
  | shrinks hold _ => exact halone.passes (.shrinks (hold ref))
  | starts activity target hspare hnew _ =>
    by_cases hr : ref = target
    · subst hr
      refine halone.passes (.starts activity (hu.not_uses hsynced hspare) fun other huses => ?_)
      rcases hnew ref other huses with hold | ⟨hsame,-⟩
      · exact .inl hold
      · exact .inr hsame
    · refine halone.passes (.shrinks fun other huses => ?_)
      rcases hnew ref other huses with hold | ⟨-,hsame | ⟨-,device,htarget,hdevice⟩⟩
      · exact hold
      · exact absurd hsame hr
      · have htargetLive : (w'.bridge.modems target).live = true := by
          rw [h.same.live]
          exact hspare.live
        rw [← h.same.physdev] at htarget hdevice
        exact absurd (hdistinct ref target device hlive htargetLive hdevice htarget) hr

/-- On a record that has not been made there can be a lock operation, and only one. -/
theorem Unborn.alone (h : Unborn u ref) (hdevices : OneEach u) : Alone (Uses u ref) := by
  intro a b ha hb
  obtain ⟨i,rfl⟩ := h.unused a ha
  obtain ⟨j,rfl⟩ := h.unused b hb
  obtain ⟨s,hs,hlive,hon⟩ := ha
  obtain ⟨t,ht,hlive',hon'⟩ := hb
  rw [hon,Option.some.injEq] at hon'
  rw [hdevices i j s t hs ht hlive hlive' hon']

theorem reported_uses (hstable : (input.1.modems ref).physdev = (w.bridge.modems ref).physdev)
    (activity : Activity) : Uses (w.reported input.1) ref activity ↔ Uses w ref activity := by
  cases activity with
  | mutation index =>
    rw [Uses,Uses]
    show (∃ s,_ ∧ _ ∧ (input.1.modems ref).physdev = _) ↔ _
    rw [hstable]
    rfl
  | _ => exact Iff.rfl

/-- Where every live record has a device of its own, at most one thing is in progress on it: an SMS
operation, a band or mode change, an operation on its lock, a scan, a carrier query or a voltage
query. -/
theorem reachable_alone (h : (bridgeSystem sha256 random).ReachableUnder
    (Faithful sha256 random) w) (ref : ModemRef)
    (hlive : (w.bridge.modems ref).live = true) : Alone (Uses w ref) := by
  induction h generalizing ref with
  | start hs =>
    intro a b ha
    exact absurd ha (Initial.not_uses hs ref a)
  | @step w w' input hreach hfaithful hs ih =>
    have hw := (reachable_inv (hreach.mono fun _ _ _ => trivial)).reported input.1
    have hbefore : (w.bridge.modems ref).live = true → Alone (Uses (w.reported input.1) ref) := by
      intro hl a b ha hb
      have hstable := hfaithful.stable ref hl
      exact ih ref hl a b ((reported_uses hstable a).mp ha) ((reported_uses hstable b).mp hb)
    have hkept := step_kept (reachable_inv (hreach.mono fun _ _ _ => trivial)) hs
    rcases hkept.step with hworks | hrenews
    · refine hworks.alone hw (reported_synced w input.1) (hfaithful.distinct w' hs) hlive ?_
      rw [hworks.same.live] at hlive
      exact hbefore hlive
    · have hshrinks : Passes (Uses (w.reported input.1) ref) (Uses w' ref) :=
        .shrinks (hrenews.uses ref)
      rcases hrenews.live ref hlive with hl | hunborn
      · exact (hbefore hl).passes hshrinks
      · exact (hunborn.alone hw.devices).passes hshrinks

/-- The marks of the records, whose owners change one at a time; what is in progress on the record
that it was asked for; and, where every live record has a device of its own, all that is in progress
on a record. -/
theorem operations_exclusive (h : (bridgeSystem sha256 random).Reachable w) :
    (∀ ref,((w.bridge.modems ref).mutationBusy = true ↔ ∃! owner,Owns w ref owner) ∧
      (∀ owner,Owns w ref owner → (w.bridge.modems ref).mark = owner.tag) ∧
      ((∀ owner,¬Owns w ref owner) → (w.bridge.modems ref).mark = Modem.unmarked)) ∧
    (∀ input w',step sha256 random w input = some w' → ∀ ref owner,Owns w ref owner →
      Owns w' ref owner ∧ (w'.bridge.modems ref).mark = (w.bridge.modems ref).mark ∨
        (∀ other,¬Owns w' ref other) ∧ (w'.bridge.modems ref).mark = Modem.unmarked) ∧
    (∀ ref,(w.bridge.modems ref).live = true → Alone (Targets w ref)) ∧
    ((bridgeSystem sha256 random).ReachableUnder (Faithful sha256 random) w →
      ∀ ref,(w.bridge.modems ref).live = true → Alone (Uses w ref)) :=
  ⟨reachable_marked h,fun _ _ hs _ _ => reachable_step h hs,reachable_target h,
    fun hfaithful => reachable_alone hfaithful⟩

def sampleReport : Status.ModemReport where
  manufacturer := none
  model := none
  revision := none
  equipmentIdentifier := none
  drivers := none
  ports := none
  powerState := .on
  simPath := none
  unlockRequired := .none
  ownNumbers := []
  sim := none
  gpp := none
  accessTechnologies := 0
  signalQuality := 0
  signalRecent := false
  signal := none
  bearers := []
  supportedBands := none
  currentBands := none
  currentModes := none
  messaging := true

/-- Two modems, each in a port of its own. -/
def sampleModems (ref : ModemRef) : Modem :=
  {sampleModem false (10+ref) (ref+1) with
    modemId := "l850gl-00112233445566778899aabbccddeef".toList++[if ref = 0 then 'e' else 'f']
    physdev := some ("/sys/devices/usb".toList++List.replicate (ref+1) '1')}

def sampleStart : World where
  bridge := {sampleBridge false with modems := sampleModems,modemsByPath := [0,1]}
  sms :=
    {bridge := sampleBridge false,admitted := 0,messaging := fun _ => Messaging.new
     properties := fun _ => ⟨none,.unknown,none,none,none,.unknown,0,0,.unknown,0⟩
     operations := fun _ => none,next := 0,calls := [],drawn := 0,ubus := sampleUbus,trace := []}
  advanced := Advanced.sampleWorld
  mutations := []
  reads := Cooldown.sampleWorld.reads
  status := fun _ => Status.ModemStatus.new sampleReport
  queries := fun _ => none
  nextQuery := 0

theorem sampleStart_initial : Initial sampleStart :=
  ⟨⟨by decide,fun _ => ⟨rfl,rfl,rfl,rfl⟩,fun _ => rfl,rfl,fun _ => rfl,fun _ => rfl,rfl,rfl⟩,
    ⟨rfl,rfl,rfl,rfl,fun _ => ⟨rfl,rfl⟩⟩,rfl,⟨rfl,rfl,rfl,fun _ => ⟨rfl,rfl⟩,fun _ => ⟨rfl,rfl⟩,
    rfl⟩,rfl⟩

def sampleSha256 (_ : CString) : Digest := Vector.replicate 32 0

def sampleSystem : System World (Bridge × Event) := bridgeSystem sampleSha256 fun _ => none

/-- Two modems appear, the voltage of the first is asked for, and the lock of the second is
cleared. -/
def sampleEvents : List Event :=
  [.sms .admitted,.sms .admitted,.voltageRefresh 0,.clearCellLock sampleUbus
    (some ⟨"l850gl-00112233445566778899aabbccddeeff".toList,2,true⟩)]

/-- Both modems are said to be in one port. -/
def sampleTwins : Bridge :=
  {sampleStart.bridge with modems := fun ref =>
    {sampleModems ref with physdev := some "/sys/devices/usb1".toList}}

def sampleShared (w : World) : Bool :=
  (w.bridge.modems 0).live && (w.queries 0).any (fun query => query.modem == 0) &&
    (w.mutations[0]?).any fun s => !s.released &&
      (w.bridge.modems 0).physdev == some s.operation.physdev

theorem sampleTwins_shared : (sampleSystem.run sampleStart
    (sampleEvents.map fun event => (sampleTwins,event))).map sampleShared = some true := by
  decide +kernel

/-- Two modems in one port: the lock operation on one of them is no matter of the other. -/
theorem operations_shared : ∃ w,sampleSystem.Reachable w ∧ (w.bridge.modems 0).live = true ∧
    ¬Alone (Uses w 0) := by
  obtain ⟨w,hw,hshared⟩ := Option.map_eq_some_iff.mp sampleTwins_shared
  simp only [sampleShared,Bool.and_eq_true,Option.any_eq_true,beq_iff_eq,
    Bool.not_eq_true'] at hshared
  obtain ⟨⟨hlive,query,hquery,hmodem⟩,s,hs,hreleased,hdevice⟩ := hshared
  refine ⟨w,System.reachable_run (.start sampleStart_initial) hw,hlive,fun halone => ?_⟩
  have hsame := halone (.voltage 0) (.mutation 0) ⟨query,hquery,hmodem⟩
    ⟨s,hs,hreleased,hdevice⟩
  cases hsame

theorem sampleModems_injective {a b : ModemRef}
    (h : (sampleModems a).physdev = (sampleModems b).physdev) : a = b := by
  have hlength := congrArg (fun device => (device.getD []).length) h
  simp only [sampleModems,Option.getD_some,List.length_append,List.length_replicate] at hlength
  exact Nat.succ.inj (Nat.add_left_cancel hlength)

theorem step_physdev (hw : Inv w) (hs : step sha256 random w input = some w') (ref : ModemRef) :
    (w'.bridge.modems ref).physdev = (input.1.modems ref).physdev := by
  rcases (step_kept hw hs).step with hworks | hrenews
  · exact hworks.same.physdev ref
  · exact hrenews.physdev ref

/-- Where the reports leave every modem in its port, a run is faithful. -/
theorem sample_faithful {events : List Event} (h : sampleSystem.ReachableUnder
      (Faithful sampleSha256 fun _ => none) w)
    (hports : ∀ ref,(w.bridge.modems ref).physdev = (sampleModems ref).physdev)
    (hrun : sampleSystem.run w (events.map fun event => (sampleStart.bridge,event)) = some w') :
    sampleSystem.ReachableUnder (Faithful sampleSha256 fun _ => none) w' := by
  induction events generalizing w with
  | nil =>
    obtain rfl := Option.some.inj hrun
    exact h
  | cons event events ih =>
    have hw : Inv w := reachable_inv (h.mono fun _ _ _ => trivial)
    have hstays : ∀ u,step sampleSha256 (fun _ => none) w (sampleStart.bridge,event) = some u →
        ∀ ref,(u.bridge.modems ref).physdev = (sampleModems ref).physdev :=
      fun u hu ref => step_physdev hw hu ref
    have hfaithful : Faithful sampleSha256 (fun _ => none) w (sampleStart.bridge,event) := by
      refine ⟨fun ref _ => (hports ref).symm,fun u hu a b device _ _ ha hb => ?_⟩
      rw [hstays u hu] at ha hb
      exact sampleModems_injective (ha.trans hb.symm)
    obtain ⟨u,hu,hreach,hrest⟩ := h.run_cons hfaithful hrun
    exact ih hreach (hstays u hu) hrest

def sampleBusy (w : World) : Bool :=
  (w.bridge.modems 0).live && (w.bridge.modems 1).live && (w.bridge.modems 1).mutationBusy &&
    (w.queries 0).isSome

theorem sampleEvents_busy : (sampleSystem.run sampleStart
    (sampleEvents.map fun event => (sampleStart.bridge,event))).map sampleBusy = some true := by
  decide +kernel

/-- The rules at a run in which two modems are busy. -/
theorem operations_exclusive_sample : ∃ w,sampleSystem.run sampleStart
      (sampleEvents.map fun event => (sampleStart.bridge,event)) = some w ∧
    (∃! owner,Owns w 1 owner) ∧ Alone (Targets w 0) ∧ Alone (Uses w 0) ∧ Alone (Uses w 1) := by
  obtain ⟨w,hw,hbusy⟩ := Option.map_eq_some_iff.mp sampleEvents_busy
  simp only [sampleBusy,Bool.and_eq_true] at hbusy
  obtain ⟨⟨⟨hfirst,hsecond⟩,hbusy⟩,-⟩ := hbusy
  have hreach := System.reachable_run (S:=sampleSystem) (.start sampleStart_initial) hw
  obtain ⟨hmarked,-,htarget,halone⟩ := operations_exclusive hreach
  have hfaithful := sample_faithful (.start sampleStart_initial) (fun _ => rfl) hw
  exact ⟨w,hw,(hmarked 1).1.mp hbusy,htarget 0 hfirst,halone hfaithful 0 hfirst,
    halone hfaithful 1 hsecond⟩

end Exclusion
end L850GL
