import L850GL.Frontend.DeleteAll
import L850GL.Frontend.SmsReplies
import L850GL.Registry.Identity

/-! Which success replies of `list_modems`, `get_overview`, `get_lock_status` and `list_sms` the
pages accept. -/
namespace L850GL
namespace Frontend

open Gateway Identity JsValue Widgets Registry SafeText Status Sms

section

variable {gateway : Gateway} {w : Status.World} {random : Nat → Option (Vector UInt8 16)}
  {ref : ModemRef} {reply : Reply} {environment : Environment} {request : Option CString}
  {summary : JsValue}

/-- The records of a snapshot are few, and each has a valid identity. -/
theorem snapshot_identities (h : Sound w) : w.bridge.l850glBridgeSnapshotModems.length ≤ 64 ∧
    ∀ ref ∈ w.bridge.l850glBridgeSnapshotModems,
      Identity.l850glIdentityIsValid (w.bridge.modems ref).modemId = true ∧
        (w.bridge.modems ref).generation ≤ Cell.uint32Max := by
  have hsub : w.bridge.l850glBridgeSnapshotModems.Sublist w.registry.admittedRefs :=
    List.filter_sublist
  have hlength : w.registry.admittedRefs.length = w.registry.modemsByPath.length :=
    List.length_map _
  have hcount := hsub.length_le
  have hbounded := h.listed.bounded
  have hmax : maxAdmittedModems = 32 := rfl
  refine ⟨by omega,fun ref hm => ?_⟩
  have hmade := h.registry.made ref (hsub.subset hm)
  have hnext := h.registry.next
  have hlimit := h.registry.bounded
  have hgeneration : (w.bridge.modems ref).generation = ref+1 := h.registry.generations ref hmade
  refine ⟨h.listed.named ref (hsub.subset hm),?_⟩
  rw [hgeneration]
  exact Nat.le_trans (Nat.succ_le_of_lt hmade) (hnext ▸ hlimit)

theorem methodListModems_accepted (h : Sound w) (hclock : (w.clock.time : Int) ≤ maxSafeInteger)
    {messageIsEmpty : Bool}
    (hreply : methodListModems w.bridge w.status messageIsEmpty = .ok reply) :
    listError (gateway.ofReply reply) = none ↔ ∀ ref ∈ w.bridge.l850glBridgeSnapshotModems,
      (w.bridge.modems ref).generation < 2^31 ∧ NarrowNames (w.status ref).report := by
  obtain ⟨hcount,hids⟩ := snapshot_identities h
  unfold methodListModems at hreply
  split at hreply
  · obtain rfl := Except.ok.inj hreply
    rw [ofReply_eq (listModemsReply_distinct w.bridge w.status)]
    exact listError_eq_none hclock hcount hids
  · cases hreply

/-- The refreshes of `get_overview` change no text. -/
theorem narrowOverview_refresh {bridge : Bridge} {status : ModemStatus} :
    NarrowOverview (overviewRefresh environment bridge ref status) ↔ NarrowOverview status := by
  obtain ⟨-,-,hreport,hsim⟩ := overviewRefresh_keeps environment bridge ref status
  have hcached : cachedSim (overviewRefresh environment bridge ref status) = cachedSim status := by
    rw [cachedSim,cachedSim,hreport,hsim]
  constructor
  · rintro ⟨hnames,himei,⟨hnumber,himsi,hiccid⟩,hoperator,hinterface⟩
    rw [hreport] at hnames himei hnumber hoperator hinterface
    rw [hcached] at hnumber himsi hiccid
    exact ⟨hnames,himei,⟨hnumber,himsi,hiccid⟩,hoperator,hinterface⟩
  · rintro ⟨hnames,himei,⟨hnumber,himsi,hiccid⟩,hoperator,hinterface⟩
    rw [← hreport] at hnames himei hnumber hoperator hinterface
    rw [← hcached] at hnumber himsi hiccid
    exact ⟨hnames,himei,⟨hnumber,himsi,hiccid⟩,hoperator,hinterface⟩

theorem methodGetOverview_accepted (h : Sound w) (hclock : (w.clock.time : Int) ≤ maxSafeInteger)
    (hrequest : requestedModem w.bridge request = .ok ref)
    (hsummary : IsSummary gateway summary (w.bridge.modems ref).modemId
      (w.bridge.modems ref).generation)
    (hreply : (methodGetOverview environment w.bridge w.status request).2 = .ok reply) :
    overviewError (gateway.ofReply reply) summary = none ↔ NarrowOverview (w.status ref) := by
  obtain ⟨hcell,hvoltage,-⟩ := overviewRefresh_keeps environment w.bridge ref (w.status ref)
  have hsound := (h.status ref).congr hcell hvoltage
  rw [methodGetOverview,hrequest] at hreply
  obtain rfl := Except.ok.inj hreply
  have htime : (w.bridge.time : Int) ≤ maxSafeInteger := hclock
  rw [ofReply_eq (overviewReply_distinct environment w.bridge ref _)]
  exact (overviewError_eq_none htime hsummary hsound).trans narrowOverview_refresh

theorem methodGetLockStatus_accepted (hclock : (w.clock.time : Int) ≤ maxSafeInteger)
    (hrequest : requestedModem w.bridge request = .ok ref)
    (hsummary : IsSummary gateway summary (w.bridge.modems ref).modemId
      (w.bridge.modems ref).generation)
    (hreply : methodGetLockStatus environment w.bridge w.status request = .ok reply) :
    lockError (gateway.ofReply reply) summary = none := by
  rw [methodGetLockStatus,hrequest] at hreply
  obtain rfl := Except.ok.inj hreply
  rw [ofReply_eq (lockStatusReply_distinct environment w.bridge ref _)]
  exact lockError_eq_none hclock hsummary

end

/-- In every reachable state each page accepts a success reply exactly when the texts in it that
both sides bound alike are narrow and its numbers fit; the lock page accepts them all. -/
theorem baseReplies_accepted (gateway : Gateway) (random : Nat → Option (Vector UInt8 16))
    (sha256 : CString → Digest) :
    (∀ w, (statusSystem random).Reachable w → (w.clock.time : Int) ≤ maxSafeInteger →
      (∀ messageIsEmpty reply, methodListModems w.bridge w.status messageIsEmpty = .ok reply →
        (listError (gateway.ofReply reply) = none ↔ ∀ ref ∈ w.bridge.l850glBridgeSnapshotModems,
          (w.bridge.modems ref).generation < 2^31 ∧ NarrowNames (w.status ref).report)) ∧
      ∀ environment request ref summary, requestedModem w.bridge request = .ok ref →
        IsSummary gateway summary (w.bridge.modems ref).modemId (w.bridge.modems ref).generation →
        (∀ reply, (methodGetOverview environment w.bridge w.status request).2 = .ok reply →
          (overviewError (gateway.ofReply reply) summary = none ↔
            NarrowOverview (w.status ref))) ∧
        ∀ reply, methodGetLockStatus environment w.bridge w.status request = .ok reply →
          lockError (gateway.ofReply reply) summary = none) ∧
    ∀ w, (smsSystem sha256 random).Reachable w →
      (∀ object, (w.properties object).messageReference ≤ Cell.uint32Max) →
      ∀ bridge request ref summary reply, (bridge.time : Int) ≤ maxSafeInteger →
        (w.refresh bridge).bridge.l850glBridgeFindModem request.modemId = some ref →
        IsSummary gateway summary (w.modem ref).modemId (w.modem ref).generation →
        (w.messaging ref).smsRevision < 2^53 →
        listSmsReply (w.refresh bridge) request = .ok reply →
        (smsError (gateway.ofReply reply) summary 100 = none ↔ NarrowPage w ref request) := by
  refine ⟨fun w h hclock => ?_,fun w h hreference bridge request ref summary reply hclock hfound
    hsummary hrevision hreply => ?_⟩
  · have hsound := Sound.of_reachable h
    refine ⟨fun messageIsEmpty reply hreply => methodListModems_accepted hsound hclock hreply,?_⟩
    intro environment request ref summary hrequest hsummary
    exact ⟨fun reply hreply => methodGetOverview_accepted hsound hclock hrequest hsummary hreply,
      fun reply hreply => methodGetLockStatus_accepted hclock hrequest hsummary hreply⟩
  · have hsame : IsSummary gateway summary ((w.refresh bridge).modem ref).modemId
        ((w.refresh bridge).modem ref).generation := by
      simp only [World.refresh,World.modem,refreshModem_modemId,refreshModem_generation]
      exact hsummary
    have hnarrow : NarrowPage (w.refresh bridge) ref request ↔ NarrowPage w ref request :=
      ⟨fun h => ⟨h.epoch,h.messages⟩,fun h => ⟨h.epoch,h.messages⟩⟩
    rw [← hnarrow]
    exact smsError_eq_none (w:=w.refresh bridge) ((reachable_idInv h).ids ref)
      (reachable_epochBound h ref) hreply hfound hclock hsame hrevision hreference

/-- A modem that reports nothing but a model. -/
def sampleReport (model : CString) : ModemReport where
  manufacturer := none
  model := some model
  revision := none
  equipmentIdentifier := none
  drivers := none
  ports := none
  powerState := .on
  simPath := none
  unlockRequired := .none
  ownNumbers := []
  sim := none
  gpp := none
  accessTechnologies := 0
  signalQuality := 0
  signalRecent := false
  signal := none
  bearers := []
  supportedBands := none
  currentBands := none
  currentModes := none
  messaging := true

/-- That modem has been admitted. -/
def sampleInventory (model : CString) : Status.World where
  registry := sampleAppeared
  status := fun _ => .new (sampleReport model)
  clock := sampleBridge false

theorem sampleInventory_reachable (model : CString) :
    (statusSystem Registry.sampleRandom).Reachable (sampleInventory model) := by
  have hstart : Status.Initial {sampleInventory model with registry := Registry.sampleStart} :=
    ⟨Registry.sampleStart_initial,fun _ => ⟨_,rfl⟩⟩
  exact .step (e:=.registry (.reconcileObject (sampleObject "/Modem/0"))) (.start hstart) trivial
    rfl

def sampleEnvironment : Environment where
  expert := false
  tables := ⟨[],[],[]⟩
  protocolInstalled := false
  network := none
  bandGetString := fun _ => none

def sampleInventoryId : CString := "l850gl-00000000000000000000000000000000".toList

def sampleInventorySummary : JsValue :=
  .object [("modem_id",.string sampleInventoryId),("generation",.number 1)]

theorem sampleInventory_served (model : CString) :
    requestedModem (sampleInventory model).bridge (some sampleInventoryId) = .ok 0 ∧
      (sampleInventory model).bridge.l850glBridgeSnapshotModems = [0] ∧
      IsSummary sampleGateway sampleInventorySummary
        ((sampleInventory model).bridge.modems 0).modemId
        ((sampleInventory model).bridge.modems 0).generation := by
  have hregistry : requestedModem (sampleAppeared.shown (sampleBridge false))
      (some sampleInventoryId) = .ok 0 := by rfl
  have hid : (sampleAppeared.modems 0).modemId = sampleInventoryId ∧
      (sampleAppeared.modems 0).generation = 1 := by decide +kernel
  have hascii : sampleGateway.text sampleInventoryId = sampleInventoryId :=
    text_ascii (ascii_of_all (by decide))
  refine ⟨hregistry,rfl,rfl,?_,?_⟩
  · rw [sampleGateway.string]
    change _ = JsValue.string (sampleGateway.text (sampleAppeared.modems 0).modemId)
    rw [hid.1,hascii]
    rfl
  · rw [sampleGateway.u32]
    change _ = JsValue.number (signed 32 (sampleAppeared.modems 0).generation)
    rw [hid.2]
    rfl

theorem sampleReported_listed : (sampleIdSystem.run Sms.sampleStart sampleReported).map (fun w =>
    (((listSmsReply (w.refresh (sampleBridge false)) sampleListRequest).toOption.isSome,
      (w.refresh (sampleBridge false)).bridge.l850glBridgeFindModem sampleListRequest.modemId),
    (w.modem 0).modemId,[(w.modem 0).generation,(w.messaging 0).messagingGeneration,
      (w.messaging 0).smsRevision])) =
    some ((true,some 0),sampleListRequest.modemId,[1,1,2]) := by
  decide +kernel

theorem sampleReported_properties {w : Sms.World}
    (hw : sampleIdSystem.run Sms.sampleStart sampleReported = some w) :
    w.properties = Sms.sampleStart.properties := by
  have hrun : (sampleIdSystem.run Sms.sampleStart sampleReported).map Sms.World.properties =
      some Sms.sampleStart.properties := rfl
  rw [hw] at hrun
  exact Option.some.inj hrun

/-- The rule at a modem of a short model and at a run that lists two messages. -/
theorem baseReplies_accepted_sample :
    (∃ listed overview lock,
      methodListModems (sampleInventory "L850-GL".toList).bridge
        (sampleInventory "L850-GL".toList).status true = .ok listed ∧
      listError (sampleGateway.ofReply listed) = none ∧
      (methodGetOverview sampleEnvironment (sampleInventory "L850-GL".toList).bridge
        (sampleInventory "L850-GL".toList).status (some sampleInventoryId)).2 = .ok overview ∧
      overviewError (sampleGateway.ofReply overview) sampleInventorySummary = none ∧
      methodGetLockStatus sampleEnvironment (sampleInventory "L850-GL".toList).bridge
        (sampleInventory "L850-GL".toList).status (some sampleInventoryId) = .ok lock ∧
      lockError (sampleGateway.ofReply lock) sampleInventorySummary = none) ∧
    ∃ w reply, sampleIdSystem.run Sms.sampleStart sampleReported = some w ∧
      listSmsReply (w.refresh (sampleBridge false)) sampleListRequest = .ok reply ∧
      smsError (sampleGateway.ofReply reply) SmsPage.sampleSummary 100 = none := by
  obtain ⟨hserved,hsnapshot,hsummary⟩ := sampleInventory_served "L850-GL".toList
  have hmodel : Narrow (some "L850-GL".toList) safeTextMax := by
    rw [narrow_iff]
    decide +kernel
  have hnames : NarrowNames (sampleReport "L850-GL".toList) :=
    ⟨narrow_none _,hmodel,narrow_none _⟩
  have hoverview : NarrowOverview ((sampleInventory "L850-GL".toList).status 0) := by
    refine ⟨hnames,narrow_none _,⟨?_,?_,?_⟩,?_,?_⟩
    · intro sim hsim
      cases hsim
    · intro sim hsim
      cases hsim
    · intro sim hsim
      cases hsim
    · intro gpp hgpp
      cases hgpp
    · intro bearer hbearer
      cases hbearer
  constructor
  · obtain ⟨hlist,hrest⟩ := (baseReplies_accepted sampleGateway Registry.sampleRandom
      fun _ => Vector.replicate 32 0).1 _ (sampleInventory_reachable "L850-GL".toList) (by decide)
    obtain ⟨hget,hlock⟩ := hrest sampleEnvironment _ _ _ hserved hsummary
    have hoverviewReply : (methodGetOverview sampleEnvironment
        (sampleInventory "L850-GL".toList).bridge (sampleInventory "L850-GL".toList).status
        (some sampleInventoryId)).2 = .ok (overviewReply sampleEnvironment
          (sampleInventory "L850-GL".toList).bridge 0 (overviewRefresh sampleEnvironment
            (sampleInventory "L850-GL".toList).bridge 0
            ((sampleInventory "L850-GL".toList).status 0))) := by
      rw [methodGetOverview,hserved]
    have hlockReply : methodGetLockStatus sampleEnvironment
        (sampleInventory "L850-GL".toList).bridge (sampleInventory "L850-GL".toList).status
        (some sampleInventoryId) = .ok (lockStatusReply sampleEnvironment
          (sampleInventory "L850-GL".toList).bridge 0 (sampleReport "L850-GL".toList)) := by
      rw [methodGetLockStatus,hserved]
      rfl
    refine ⟨_,_,_,rfl,(hlist true _ rfl).mpr fun ref hm => ?_,hoverviewReply,
      (hget _ hoverviewReply).mpr hoverview,hlockReply,hlock _ hlockReply⟩
    obtain rfl : ref = 0 := List.mem_singleton.mp (hsnapshot ▸ hm)
    exact ⟨by decide +kernel,hnames⟩
  · obtain ⟨w,hw,hall⟩ := Option.map_eq_some_iff.mp sampleReported_listed
    simp only [Prod.mk.injEq] at hall
    obtain ⟨⟨hreply,hfound⟩,hid,hnumbers⟩ := hall
    simp only [List.cons.injEq,and_true] at hnumbers
    obtain ⟨hgeneration,hepoch,hrevision⟩ := hnumbers
    have hproperties := sampleReported_properties hw
    cases hlisted : listSmsReply (w.refresh (sampleBridge false)) sampleListRequest with
    | error reply =>
      rw [hlisted] at hreply
      cases hreply
    | ok reply =>
      have hmatching : IsSummary sampleGateway SmsPage.sampleSummary (w.modem 0).modemId
          (w.modem 0).generation := by
        rw [hid,hgeneration]
        exact SmsPage.sampleSummary_matches
      have h := System.reachable_run (S:=sampleIdSystem) (.start Sms.sampleStart_initial) hw
      refine ⟨w,reply,hw,hlisted,((baseReplies_accepted sampleGateway Sms.sampleRandom
        fun _ => Vector.replicate 32 0).2 w h (fun object => ?_) (sampleBridge false)
        sampleListRequest 0 SmsPage.sampleSummary reply (by decide) hfound hmatching
        (by rw [hrevision]; decide) hlisted).mpr ⟨?_,fun position _ entry _ => ?_⟩⟩
      · exact (congrFun hproperties object).symm ▸ Nat.zero_le _
      · exact Nat.lt_of_le_of_lt (Nat.le_of_eq hepoch) (by decide)
      · exact (congrFun hproperties entry.sms.object).symm ▸
          ⟨narrow_none _,narrow_none _,Nat.two_pow_pos 31⟩

/-- A model of 81 characters, each of which is a surrogate pair on the page. -/
def wideModel : CString := (List.replicate 81 0x1F4F6).flatMap gUnicharToUtf8

theorem not_narrow_wideModel : ¬Narrow (some wideModel) safeTextMax := by
  have hdecode : utf8Decode wideModel = some (List.replicate 81 0x1F4F6) :=
    utf8Decode_encodeAll fun c hc => by
      rw [List.eq_of_mem_replicate hc]
      unfold IsScalar
      omega
  intro h
  have hunits := h wideModel _ rfl hdecode (by decide)
  revert hunits
  decide

/-- The page rejects the inventory and the overview of a modem with that model. -/
theorem wideModel_rejected :
    (statusSystem Registry.sampleRandom).Reachable (sampleInventory wideModel) ∧
    ∃ listed overview,
      methodListModems (sampleInventory wideModel).bridge (sampleInventory wideModel).status true =
        .ok listed ∧
      listError (sampleGateway.ofReply listed) ≠ none ∧
      (methodGetOverview sampleEnvironment (sampleInventory wideModel).bridge
        (sampleInventory wideModel).status (some sampleInventoryId)).2 = .ok overview ∧
      IsSummary sampleGateway sampleInventorySummary
        ((sampleInventory wideModel).bridge.modems 0).modemId
        ((sampleInventory wideModel).bridge.modems 0).generation ∧
      overviewError (sampleGateway.ofReply overview) sampleInventorySummary ≠ none := by
  obtain ⟨hserved,hsnapshot,hsummary⟩ := sampleInventory_served wideModel
  have hsound := Sound.of_reachable (sampleInventory_reachable wideModel)
  have hclock : ((sampleInventory wideModel).clock.time : Int) ≤ maxSafeInteger := by decide
  have hlisted : methodListModems (sampleInventory wideModel).bridge
      (sampleInventory wideModel).status true = .ok (listModemsReply
        (sampleInventory wideModel).bridge (sampleInventory wideModel).status) := rfl
  have hoverview : (methodGetOverview sampleEnvironment (sampleInventory wideModel).bridge
      (sampleInventory wideModel).status (some sampleInventoryId)).2 = .ok (overviewReply
        sampleEnvironment (sampleInventory wideModel).bridge 0 (overviewRefresh sampleEnvironment
          (sampleInventory wideModel).bridge 0 ((sampleInventory wideModel).status 0))) := by
    rw [methodGetOverview,hserved]
  refine ⟨sampleInventory_reachable wideModel,_,_,hlisted,?_,hoverview,hsummary,?_⟩
  · intro haccepted
    have hnames := (methodListModems_accepted hsound hclock hlisted).mp haccepted 0
      (by rw [hsnapshot]; exact List.mem_singleton_self _)
    exact not_narrow_wideModel hnames.2.model
  · intro haccepted
    have hnarrow := (methodGetOverview_accepted hsound hclock hserved hsummary hoverview).mp
      haccepted
    exact not_narrow_wideModel hnarrow.names.model

end Frontend
end L850GL
