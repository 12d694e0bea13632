import L850GL.Reads
import L850GL.Sms.Listing
import L850GL.Status

/-! No reply of the bridge names a field twice. -/
namespace L850GL
namespace Frontend

open Blob Ca Cell CellInfo Mutation Reads SafeText Sms Status

variable {bridge : Bridge} {ref : ModemRef} {environment : Environment}

@[simp] theorem addSafeString_distinct (name : String) (value : Option CString) (limit : Nat) :
    (addSafeString name value limit).2.Distinct := .string _

@[simp] theorem addBandArray_distinct (bandGetString : Nat → Option CString) (name : String)
    (bands : Option (List Nat)) : (addBandArray bandGetString name bands).2.Distinct := by
  simp [addBandArray]

theorem addMetric_cases (name : String) (value : Reading) :
    addMetric name value = [] ∨ ∃ number,addMetric name value = [(name,.double number)] := by
  unfold addMetric
  split
  · exact .inr ⟨_,rfl⟩
  · exact .inl rfl

@[simp] theorem addSignalSummary_distinct (report : ModemReport) :
    (addSignalSummary report).2.Distinct := by
  rw [addSignalSummary,distinct_table]
  cases report.signal.bind fun signal =>
      signal.lte.or (signal.nr5g.or (signal.umts.or signal.gsm)) with
  | none => simp
  | some metrics =>
    rcases addMetric_cases "rsrp" metrics.rsrp with h₁ | ⟨rsrp,h₁⟩ <;>
    rcases addMetric_cases "rsrq" metrics.rsrq with h₂ | ⟨rsrq,h₂⟩ <;>
    rcases addMetric_cases "sinr" metrics.sinr with h₃ | ⟨sinr,h₃⟩ <;>
    simp [h₁,h₂,h₃]

@[simp] theorem addServingCellSummary_distinct (modem : Modem) (now : Int) (status : ModemStatus) :
    (addServingCellSummary modem now status).2.Distinct := by
  rw [addServingCellSummary,distinct_table]
  cases servingCellCacheIsFresh modem status.servingCell now
  · simp
  · cases status.servingCell.hasRsrp <;> cases status.servingCell.hasRsrq <;> simp

@[simp] theorem addFeature_distinct (name state : String) (isMutable : Bool) (reason : String) :
    (addFeature name state isMutable reason).2.Distinct := by
  simp [addFeature,distinct_table]

@[simp] theorem addMessagingFeature_distinct (name : String) (modem : Modem)
    (present attested : Bool) : (addMessagingFeature name modem present attested).2.Distinct := by
  simp [addMessagingFeature,distinct_table]

theorem retryAfterField_cases (bridge : Bridge) (ref : ModemRef) :
    retryAfterField bridge ref = [] ∨
      ∃ delay,retryAfterField bridge ref = [("retry_after_ms",.u32 delay)] := by
  unfold retryAfterField
  split
  · exact .inr ⟨_,rfl⟩
  · exact .inl rfl

@[simp] theorem addStandardFeature_distinct (name : String) (bridge : Bridge) (ref : ModemRef)
    (attested available : Bool) (unavailableState availableReason unavailableReason : String) :
    (addStandardFeature name bridge ref attested available unavailableState availableReason
      unavailableReason).2.Distinct := by
  rw [addStandardFeature,distinct_table]
  rcases retryAfterField_cases bridge ref with h | ⟨delay,h⟩
  · simp [h]
  · simp [h]

@[simp] theorem addModePolicy_distinct (environment : Environment) (bridge : Bridge)
    (ref : ModemRef) (currentAllowed currentPreferred : Nat) :
    (addModePolicy environment bridge ref currentAllowed currentPreferred).2.Distinct := by
  rw [addModePolicy,distinct_table]
  rcases retryAfterField_cases bridge ref with h | ⟨delay,h⟩
  · simp [h]
  · simp [h]

theorem modemEntry_distinct (modem : Modem) (report : ModemReport) :
    (Blob.table (modemEntry modem report)).Distinct := by
  rw [distinct_table]
  simp [modemEntry,Modem.addModemIdentity,addSafeString]

theorem listModemsReply_distinct (bridge : Bridge) (status : ModemRef → ModemStatus) :
    (Blob.table (listModemsReply bridge status)).Distinct := by
  rw [distinct_table]
  simp [listModemsReply,addCommon,modemEntry_distinct]

theorem overviewReply_distinct (environment : Environment) (bridge : Bridge) (ref : ModemRef)
    (status : ModemStatus) :
    (Blob.table (overviewReply environment bridge ref status)).Distinct := by
  have hmodem : (Blob.table [("state",.text (stateName (bridge.modems ref).state)),
      ("power",.text (powerStateName status.report.powerState)),
      addModemVoltage environment.expert (bridge.modems ref) bridge.now status]).Distinct := by
    rw [addModemVoltage,distinct_table]
    split
    · simp
    · simp
  have hidentity : (Blob.table [addSafeString "manufacturer" status.report.manufacturer safeTextMax,
      addSafeString "model" status.report.model safeTextMax,
      addSafeString "revision" status.report.revision safeTextMax,
      addSafeString "imei" status.report.equipmentIdentifier safeIdentifierMax]).Distinct := by
    simp [distinct_table,addSafeString]
  have hsim : (addSimSummary status).2.Distinct := by
    simp [addSimSummary,distinct_table,addSafeString]
  have hnetwork : (addNetwork status.report).2.Distinct := by
    simp [addNetwork,distinct_table,addSafeString,addAccessTechnologies]
  have hbearer : (addBearerSummary status.report).2.Distinct := by
    simp [addBearerSummary,distinct_table,addSafeString]
  have hcapabilities : (addOverviewCapabilities environment bridge ref
      status.report).2.Distinct := by
    have hnames : (["sms","band_lock","pci_lock"] : List String).Nodup := by decide
    refine distinct_table.mpr ⟨hnames,?_⟩
    simp [addPciFeature]
  have hnames : (overviewReply environment bridge ref status).map Prod.fst =
      ["schema","generated_at","ok","modem_id","generation","freshness","identity","usb_mode",
       "modem","sim","network","signal","bearer","current_bands","serving_cell","capabilities",
       "warnings"] := rfl
  refine distinct_table.mpr ⟨by rw [hnames]; decide,?_⟩
  simp [overviewReply,addCommon,Modem.addModemIdentity,hmodem,hidentity,hsim,hnetwork,hbearer,
    hcapabilities]

theorem lockStatusReply_distinct (environment : Environment) (bridge : Bridge) (ref : ModemRef)
    (report : ModemReport) :
    (Blob.table (lockStatusReply environment bridge ref report)).Distinct := by
  have hmodes : (Blob.table [("known",.u8 report.currentModes.isSome),
      addModeArray "allowed" (report.currentModes.getD (0,0)).1,
      ("preferred",.text (if report.currentModes.isSome then
        preferredModeName (report.currentModes.getD (0,0)).2 else "unknown"))]).Distinct := by
    simp [distinct_table,addModeArray]
  have hnames : (lockStatusReply environment bridge ref report).map Prod.fst =
      ["schema","generated_at","ok","modem_id","generation","supported_bands","current_bands",
       "band_selection","current_modes","mode_policy","band_lock","pci_lock"] := rfl
  refine distinct_table.mpr ⟨by rw [hnames]; decide,?_⟩
  simp [lockStatusReply,addCommon,Modem.addModemIdentity,hmodes,addPciFeature]

theorem addSmsEntry_distinct (properties : Nat → SmsProperties) (entry : L850GLSms) :
    (addSmsEntry properties entry).Distinct := by
  simp [addSmsEntry,distinct_table]

theorem smsPageReply_distinct (w : Sms.World) (ref : ModemRef) (request : ListSmsRequest)
    (page : Pages.Page L850GLSms CString) :
    (Blob.table (smsPageReply w ref request page)).Distinct := by
  rw [distinct_table]
  simp [smsPageReply,addCommon,Modem.addModemIdentity,addSmsEntry_distinct]

theorem sendError_distinct (bridge : Bridge) (code message : String) (retryable : Bool) :
    (Blob.table (Sms.sendError bridge code message retryable)).Distinct := by
  rw [distinct_table]
  simp [Sms.sendError,addCommon]

theorem sendL850Error_distinct (bridge : Bridge) (modem : Option Modem) (code : String)
    (retryable : Bool) (delay : Nat) :
    (Blob.table (sendL850Error bridge modem code retryable delay)).Distinct := by
  rw [sendL850Error,distinct_table]
  split
  · cases modem <;> simp [addCommon,Modem.addModemIdentity]
  · cases modem <;> simp [addCommon,Modem.addModemIdentity]

theorem l850AddCaCarrier_distinct (carrier : CaCarrier) :
    (Blob.table (l850AddCaCarrier carrier)).Distinct := by
  rw [l850AddCaCarrier,distinct_table]
  split
  · simp
  · simp

theorem carrierSuccessBody_distinct (bridge : Bridge) (ref : ModemRef) (primary : CaCarrier)
    (carriers : List CaCarrier) :
    (Blob.table (carrierSuccessBody bridge ref primary carriers)).Distinct := by
  rw [distinct_table]
  simp [carrierSuccessBody,addCommon,Modem.addModemIdentity,l850AddCaCarrier_distinct]

@[simp] theorem l850AddScanCapability_distinct (w : Reads.World) (mutations : List CString)
    (ref : ModemRef) : (l850AddScanCapability w mutations ref).2.Distinct := by
  rw [l850AddScanCapability,distinct_table]
  split_ifs <;> simp

@[simp] theorem l850AddLockObservation_distinct (state : LockState) :
    (l850AddLockObservation state).2.Distinct := by
  rw [l850AddLockObservation,distinct_table]
  cases state.enabled
  · simp
  · cases state.hasPci <;> simp

theorem lockStatusBody_distinct (w : Reads.World) (mutations : List CString) (ref : ModemRef)
    (state : LockState) : (Blob.table (lockStatusBody w mutations ref state)).Distinct := by
  have hlock : (l850AddLockObservation state).1 = "lock" := rfl
  have hscan : (l850AddScanCapability w mutations ref).1 = "scan" := rfl
  rw [lockStatusBody,distinct_table]
  by_cases hretry : advancedRetryAfterMs w.bridge ref > 0
  · simp [addCommon,Modem.addModemIdentity,hlock,hscan,hretry]
  · simp [addCommon,Modem.addModemIdentity,hlock,hscan,hretry]

theorem unsupportedProtocolBody_distinct (w : Reads.World) (mutations : List CString)
    (ref : ModemRef) (reason : String) :
    (Blob.table (unsupportedProtocolBody w mutations ref reason)).Distinct := by
  have hscan : (l850AddScanCapability w mutations ref).1 = "scan" := rfl
  rw [distinct_table]
  simp [unsupportedProtocolBody,addCommon,Modem.addModemIdentity,hscan]

@[simp] theorem readingDouble_distinct (value : Reading) : (Reading.double value).Distinct := by
  cases value <;> simp [Reading.double]

theorem scanCellEntry_distinct (cell : L850StandardCell) : (scanCellEntry cell).Distinct := by
  rw [scanCellEntry,distinct_table]
  cases cell.hasRsrp <;> cases cell.hasRsrq <;> simp

theorem scanSuccessBody_distinct (bridge : Bridge) (ref : ModemRef) (vendorFallback : Bool)
    (cells : List L850StandardCell) :
    (Blob.table (scanSuccessBody bridge ref vendorFallback cells)).Distinct := by
  rw [distinct_table]
  simp [scanSuccessBody,addCommon,Modem.addModemIdentity,scanCellEntry_distinct]

theorem successBody_distinct (time : Nat) (modem : Modem) (type : L850MutationType)
    (serving : Option L850Cell) : (Blob.table (successBody time modem type serving)).Distinct := by
  have hname : (verificationTable type serving).1 = "verification" := rfl
  have htable : (verificationTable type serving).2.Distinct := by
    unfold verificationTable
    rw [distinct_table]
    cases type <;> cases serving <;> simp
  rw [distinct_table]
  simp [successBody,addCommon,Modem.addModemIdentity,hname,htable]

end Frontend
end L850GL
