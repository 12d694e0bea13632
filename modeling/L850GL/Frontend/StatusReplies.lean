import L850GL.Cell.Bands
import L850GL.Frontend.CarrierReplies
import L850GL.Frontend.SafeTexts
import L850GL.Frontend.StatusChecks
import L850GL.Status.System

/-! The replies of `list_modems`, `get_overview` and `get_lock_status` under the checks of the
page: what remains to be asked of a reported text is that it is narrow. -/
namespace L850GL
namespace Frontend

open Gateway JsValue Widgets Cell CellInfo Identity Mutation Network OwnNumber Radio Refresh
  SafeText Status Voltage

variable {gateway : Gateway} {text : String} {maximum : Nat} {modem : Modem} {report : ModemReport}
  {status : ModemStatus} {bridge : Bridge} {ref : ModemRef} {environment : Environment}

/-- A literal that passes the page's check of a text. -/
def IsShown (text : String) (maximum : Nat) : Prop :=
  IsLiteral text maximum ∧ '\x00' ∉ text.toList

instance (text : String) (maximum : Nat) : Decidable (IsShown text maximum) :=
  @instDecidableAnd _ _ (instDecidableIsLiteral text maximum) (instDecidableNot)

theorem isString_shown (h : IsShown text maximum) :
    isString (gateway.render (.text text)) maximum = true :=
  isString_literal h.1 h.2

theorem object_table (fields : Reply) :
    object (gateway.render (.table fields)) = gateway.renderReply fields := by
  rw [render_table]
  rfl

/-- An ASCII text without a NUL passes by its length. -/
theorem isString_ascii {value : CString} (hascii : ∀ c ∈ value,c.toNat < 0x80)
    (hzero : '\x00' ∉ value) (hlength : value.length ≤ maximum) :
    isString (gateway.render (.string value)) maximum = true := by
  rw [render_string,text_ascii hascii,isString,jsLength_ascii hascii,decide_eq_true hlength]
  simpa using hzero

theorem isStringArray_items {items : List Blob} (hlength : items.length ≤ maximum)
    (h : ∀ item ∈ items,isString (gateway.render item) 160 = true) :
    isStringArray (gateway.render (.array items)) maximum = true := by
  rw [render_array,isStringArray,JsValue.isArray,JsValue.items,List.length_map,
    decide_eq_true hlength]
  simpa using h

theorem isStringArray_texts {texts : List String} (hlength : texts.length ≤ maximum)
    (h : ∀ text ∈ texts,IsShown text 160) :
    isStringArray (gateway.render (.array (texts.map .text))) maximum = true := by
  refine isStringArray_items ?_ fun item hitem => ?_
  · rwa [List.length_map]
  · obtain ⟨text,htext,rfl⟩ := List.mem_map.mp hitem
    exact isString_shown (h text htext)

/-- A valid token passes by the length of its prefix. -/
theorem isString_token {value tokenPrefix : CString} (h : tokenIsValid value tokenPrefix = true)
    (hascii : tokenPrefix.all (fun c => decide (c.toNat < 0x80)) = true)
    (hzero : '\x00' ∉ tokenPrefix) (hlength : tokenPrefix.length+l850glIdHexLen ≤ maximum) :
    isString (gateway.render (.string value)) maximum = true := by
  have hnonzero : ∀ c ∈ value,c ≠ '\x00' := by
    refine tokenIsValid_all h (fun c hc he => hzero (he ▸ hc)) ?_
    rintro c hc rfl
    exact absurd hc (by decide)
  have hlen : value.length = tokenPrefix.length+l850glIdHexLen := by
    simp only [tokenIsValid,Bool.and_eq_true,beq_iff_eq] at h
    exact h.1.1
  refine isString_ascii (tokenIsValid_ascii h (ascii_of_all hascii))
    (fun hm => hnonzero _ hm rfl) ?_
  omega

theorem isString_identity {modemId : CString} (h : l850glIdentityIsValid modemId = true) :
    isString (gateway.render (.string modemId)) 80 = true :=
  isString_token h (by decide) (by decide) (by decide)

theorem isString_smsIdentity {smsId : CString} (h : l850glSmsIdentityIsValid smsId = true) :
    isString (gateway.render (.string smsId)) 80 = true :=
  isString_token h (by decide) (by decide) (by decide)

/-- The characters of a canonical band name. -/
theorem nameCharacter_ascii {c : Char} (h : (isNameCharacter c || c == '-') = true) :
    c.toNat < 0x80 ∧ c ≠ '\x00' := by
  constructor
  · have hle : c ≤ 'z' ∨ c ≤ '9' ∨ c = '-' := by
      simp only [isNameCharacter,Bool.or_eq_true,Bool.and_eq_true,decide_eq_true_eq,
        beq_iff_eq] at h
      tauto
    rcases hle with hle | hle | rfl
    · exact Nat.lt_of_le_of_lt hle (by decide)
    · exact Nat.lt_of_le_of_lt hle (by decide)
    · decide
  · rintro rfl
    exact absurd h (by decide)

/-- A canonical band name passes. -/
theorem isString_canonical {name : CString} (h : l850glRadioBandNameIsCanonical name = true) :
    isString (gateway.render (.string name)) 160 = true := by
  have hchars : ∀ c ∈ name,(isNameCharacter c || c == '-') = true := by
    intro c hc
    cases name with
    | nil => cases hc
    | cons first rest =>
      simp only [l850glRadioBandNameIsCanonical,Bool.and_eq_true] at h
      rcases List.mem_cons.mp hc with rfl | hc
      · simp [h.1.1.2]
      · exact List.all_eq_true.mp h.1.2 c hc
  have hlength : name.length ≤ 48 := by
    cases name with
    | nil => exact Nat.zero_le _
    | cons first rest =>
      simp only [l850glRadioBandNameIsCanonical,Bool.and_eq_true,decide_eq_true_eq] at h
      exact h.1.1.1
  refine isString_ascii (fun c hc => (nameCharacter_ascii (hchars c hc)).1)
    (fun hm => (nameCharacter_ascii (hchars _ hm)).2 rfl) ?_
  omega

/-- A feature with literal state and reason passes. -/
theorem capabilityIsValid_table {fields : Reply} {state reason : String} {isMutable : Bool}
    (hstate : fields.lookup "state" = some (.text state))
    (hmutable : fields.lookup "mutable" = some (.u8 isMutable))
    (hreason : fields.lookup "reason" = some (.text reason))
    (h : IsShown state 64 ∧ IsShown reason 160) :
    capabilityIsValid (gateway.renderReply fields) = true := by
  have hobject : isObject (gateway.renderReply fields) = true := rfl
  rw [capabilityIsValid,hobject,renderReply_get_some hstate,renderReply_get_some hmutable,
    renderReply_get_some hreason,isString_shown h.1,isString_shown h.2,render_u8]
  simp [isBoolean]

/-- A literal state and a literal reason. -/
def Feature.IsShown (feature : Feature) : Prop :=
  Frontend.IsShown feature.state 64 ∧ Frontend.IsShown feature.reason 160

theorem mutationBusyReason_shown (modem : Modem) : IsShown (mutationBusyReason modem) 160 := by
  unfold mutationBusyReason
  split
  · decide
  · decide

theorem standardFeature_shown {attested available : Bool}
    {unavailableState availableReason unavailableReason : String}
    (hstate : IsShown unavailableState 64) (havailable : IsShown availableReason 160)
    (hunavailable : IsShown unavailableReason 160) :
    Feature.IsShown (standardFeature bridge ref attested available unavailableState
      availableReason unavailableReason) := by
  unfold standardFeature
  dsimp only
  split
  · exact ⟨hstate,hunavailable⟩
  split
  · exact ⟨by decide,by decide⟩
  split
  · exact ⟨(by decide : IsShown "busy" 64),mutationBusyReason_shown _⟩
  · exact ⟨(by decide : IsShown "available" 64),havailable⟩

theorem addStandardFeature_valid {attested available : Bool}
    {name unavailableState availableReason unavailableReason : String}
    (hstate : IsShown unavailableState 64) (havailable : IsShown availableReason 160)
    (hunavailable : IsShown unavailableReason 160) :
    capabilityIsValid (gateway.render (addStandardFeature name bridge ref attested available
      unavailableState availableReason unavailableReason).2) = true := by
  rw [addStandardFeature,render_table]
  exact capabilityIsValid_table rfl rfl rfl (standardFeature_shown hstate havailable hunavailable)

theorem addMessagingFeature_valid (name : String) (modem : Modem) (present attested : Bool) :
    capabilityIsValid (gateway.render (addMessagingFeature name modem present attested).2) =
      true := by
  have hshown : Feature.IsShown (messagingFeature modem present attested) := by
    unfold messagingFeature
    split
    · exact ⟨by decide,by decide⟩
    split
    · exact ⟨by decide,by decide⟩
    split
    · exact ⟨by decide,by decide⟩
    · exact ⟨by decide,by decide⟩
  rw [addMessagingFeature,render_table]
  exact capabilityIsValid_table rfl rfl rfl hshown

theorem addFeature_valid {name state reason : String} {isMutable : Bool}
    (h : IsShown state 64 ∧ IsShown reason 160) :
    capabilityIsValid (gateway.render (addFeature name state isMutable reason).2) = true := by
  rw [addFeature,render_table]
  exact capabilityIsValid_table rfl rfl rfl h

theorem addPciFeature_valid (environment : Environment) (name : String) (bridge : Bridge)
    (ref : ModemRef) :
    capabilityIsValid (gateway.render (addPciFeature environment name bridge ref).2) = true := by
  refine addFeature_valid ?_
  unfold pciFeature
  dsimp only
  split
  · exact ⟨by decide,by decide⟩
  split
  · exact ⟨by decide,by decide⟩
  split
  · refine ⟨(by decide : IsShown "busy" 64),?_⟩
    split
    · decide
    · decide
  · exact ⟨by decide,by decide⟩

theorem stateName_shown (state : ModemState) : IsShown (stateName state) 64 := by
  cases state <;> decide

theorem powerStateName_shown (state : MMModemPowerState) : IsShown (powerStateName state) 64 := by
  cases state <;> decide

theorem lockName_shown (lock : MMModemLock) : IsShown (lockName lock) 64 := by
  cases lock <;> decide

theorem registrationName_shown (state : MMModem3gppRegistrationState) :
    IsShown (registrationName state) 64 := by
  cases state <;> decide

/-- The names of a modem that the list and the overview show. -/
structure NarrowNames (report : ModemReport) : Prop where
  manufacturer : Narrow report.manufacturer safeTextMax
  model : Narrow report.model safeTextMax
  revision : Narrow report.revision safeTextMax

theorem modemEntry_valid (hid : l850glIdentityIsValid modem.modemId = true)
    (hgeneration : modem.generation ≤ uint32Max) :
    modemSummaryIsValid (gateway.render (.table (modemEntry modem report))) = true ↔
      modem.generation < 2^31 ∧ NarrowNames report := by
  have hobject : isObject (gateway.renderReply (modemEntry modem report)) = true := rfl
  have hmanufacturer := isString_safeText_iff gateway report.manufacturer safeTextMax
  have hmodel := isString_safeText_iff gateway report.model safeTextMax
  have hrevision := isString_safeText_iff gateway report.revision safeTextMax
  have hlimit : safeTextMax = 160 := rfl
  rw [hlimit] at hmanufacturer hmodel hrevision
  rw [render_table,modemSummaryIsValid,hobject,
    @renderReply_get_some _ _ "modem_id" (.string modem.modemId) rfl,isString_identity hid,
    @renderReply_get_some _ _ "generation" (.u32 modem.generation) rfl,
    @renderReply_get_some _ _ "manufacturer" (.string (safeText report.manufacturer 160)) rfl,
    @renderReply_get_some _ _ "model" (.string (safeText report.model 160)) rfl,
    @renderReply_get_some _ _ "revision" (.string (safeText report.revision 160)) rfl,
    @renderReply_get_some _ _ "state" (.text (stateName modem.state)) rfl,
    isString_shown (stateName_shown modem.state),
    @renderReply_get_some _ _ "power" (.text (powerStateName report.powerState)) rfl,
    isString_shown (powerStateName_shown report.powerState)]
  simp only [Bool.true_and,Bool.and_true,Bool.and_eq_true,hmanufacturer,hmodel,hrevision,
    isUnsigned_render_iff hgeneration]
  exact ⟨fun h => ⟨h.1.1.1,h.1.1.2,h.1.2,h.2⟩,
    fun h => ⟨⟨⟨h.1,h.2.manufacturer⟩,h.2.model⟩,h.2.revision⟩⟩

/-- A metric is a number or is not there. -/
theorem addMetric_lookup {name : String} {value : Reading} {rest : Reply} (other : String)
    (h : (rest.lookup other).isNone ∨ ∃ number,rest.lookup other = some (.double number)) :
    ((addMetric name value++rest).lookup other).isNone ∨
      ∃ number,(addMetric name value++rest).lookup other = some (.double number) := by
  unfold addMetric
  split
  · by_cases hname : other == name
    · right
      exact ⟨_,by rw [List.singleton_append,List.lookup_cons,hname]⟩
    · rw [List.singleton_append,List.lookup_cons]
      simpa [hname] using h
  · exact h

theorem optionalNumbers_of {fields : Reply} {names : List String}
    (h : ∀ name ∈ names,(fields.lookup name).isNone ∨
      ∃ number,fields.lookup name = some (.double number)) :
    optionalNumbers (gateway.renderReply fields) names = true := by
  rw [optionalNumbers,List.all_eq_true]
  intro name hname
  rcases h name hname with hnone | ⟨number,hsome⟩
  · rw [renderReply_get_none (Option.isNone_iff_eq_none.mp hnone)]
    rfl
  · rw [renderReply_get_some hsome,isFiniteNumber_double,Bool.or_true]

theorem addSignalSummary_valid (report : ModemReport) :
    overviewSignalIsValid (object (gateway.render (addSignalSummary report).2)) = true := by
  rw [addSignalSummary,object_table,overviewSignalIsValid,
    @renderReply_get_some _ _ "quality" (.u32 (min report.signalQuality 100)) rfl,
    @renderReply_get_some _ _ "recent" (.u8 report.signalRecent) rfl,render_u32_of_lt (by omega),
    render_u8]
  have hnumbers : optionalNumbers (gateway.renderReply
      ([("quality",.u32 (min report.signalQuality 100)),("recent",.u8 report.signalRecent)]++
        (report.signal.bind fun signal =>
          signal.lte.or (signal.nr5g.or (signal.umts.or signal.gsm))).elim [] fun metrics =>
            addMetric "rsrp" metrics.rsrp++addMetric "rsrq" metrics.rsrq++
              addMetric "sinr" metrics.sinr)) ["rsrp","rsrq","sinr"] = true := by
    refine optionalNumbers_of fun name hname => ?_
    have hother : name ≠ "quality" ∧ name ≠ "recent" := by
      constructor
      · rintro rfl
        exact absurd hname (by decide)
      · rintro rfl
        exact absurd hname (by decide)
    have hskip : ∀ rest : Reply,([("quality",Blob.u32 (min report.signalQuality 100)),
        ("recent",.u8 report.signalRecent)]++rest).lookup name = rest.lookup name := by
      intro rest
      simp [List.lookup_cons,beq_eq_false_iff_ne.mpr hother.1,beq_eq_false_iff_ne.mpr hother.2]
    rw [hskip]
    cases report.signal.bind fun signal =>
        signal.lte.or (signal.nr5g.or (signal.umts.or signal.gsm)) with
    | none => exact .inl rfl
    | some metrics =>
      rw [Option.elim_some,List.append_assoc]
      refine addMetric_lookup name (addMetric_lookup name ?_)
      rw [← List.append_nil (addMetric "sinr" metrics.sinr)]
      exact addMetric_lookup name (.inl rfl)
  have hquality : (min report.signalQuality 100 : Nat) ≤ 100 := Nat.min_le_right _ _
  have hwithin : (JsValue.number (min report.signalQuality 100 : Nat)).within 0 100 = true := by
    simp only [within,Bool.and_eq_true,decide_eq_true_eq]
    omega
  rw [hnumbers,hwithin]
  rfl

theorem addModemVoltage_valid (expert : Bool) (now : Int) (hsound : SoundVoltage status.voltage) :
    overviewModemIsValid (object (gateway.render (.table [("state",.text (stateName modem.state)),
      ("power",.text (powerStateName report.powerState)),
      addModemVoltage expert modem now status]))) = true := by
  have hvoltage : ((gateway.render (addModemVoltage expert modem now status).2).isNullish ||
      isUnsigned (gateway.render (addModemVoltage expert modem now status).2) &&
        (gateway.render (addModemVoltage expert modem now status).2).within 2500 5000) = true := by
    rw [addModemVoltage]
    dsimp only
    split
    · rename_i hfresh
      have hvalid : status.voltage.valid = true := by
        simp only [l850VoltageCacheIsFresh,Bool.and_eq_true] at hfresh
        exact hfresh.2.1.1.1.2
      obtain ⟨hlower,hupper⟩ := hsound hvalid
      have hmin : l850glL850VoltageMinMv = 2500 := rfl
      have hmax : l850glL850VoltageMaxMv = 5000 := rfl
      have hlimit : uint32Max = 4294967295 := rfl
      have hwithin : (gateway.render (.u32 status.voltage.mv)).within 2500 5000 = true := by
        simp only [render_u32_of_lt (show status.voltage.mv < 2^31 by omega),within,
          Bool.and_eq_true,decide_eq_true_eq]
        omega
      rw [(isUnsigned_render_iff (by omega)).mpr (by omega),hwithin,Bool.and_true,Bool.or_true]
    · rw [render_unspec]
      rfl
  rw [object_table,overviewModemIsValid,@renderReply_get_some _ _ "state" (.text _) rfl,
    isString_shown (stateName_shown modem.state),@renderReply_get_some _ _ "power" (.text _) rfl,
    isString_shown (powerStateName_shown report.powerState),
    @renderReply_get_some _ _ "voltage_mv" (addModemVoltage expert modem now status).2 rfl,hvoltage]
  rfl

/-- The texts of the SIM that a reply shows. -/
structure NarrowSim (status : ModemStatus) : Prop where
  number : ∀ sim,cachedSim status = some sim → NarrowNumber status.report.ownNumbers
  imsi : ∀ sim,cachedSim status = some sim → Narrow sim.imsi safeIdentifierMax
  identifier : ∀ sim,cachedSim status = some sim → Narrow sim.identifier safeIdentifierMax

theorem isText_nil_of_isNil {value : CString} (h : value = []) :
    (gateway.render (.string value)).isText [] = true := by
  rw [h]
  exact congrArg (JsValue.isText []) (render_text (by decide : IsLiteral "" 0))

theorem addSimSummary_valid :
    overviewSimIsValid (object (gateway.render (addSimSummary status).2)) = true ↔
      NarrowSim status := by
  have hidentifier : safeIdentifierMax = 64 := rfl
  have hphone : safePhoneNumberMax = 32 := rfl
  rw [addSimSummary,object_table,overviewSimIsValid,@renderReply_get_some _ _ "present" (.u8 _) rfl,
    @renderReply_get_some _ _ "lock" (.text _) rfl,isString_shown (lockName_shown _),
    @renderReply_get_some _ _ "number" (.string _) rfl,
    @renderReply_get_some _ _ "imsi" (.string _) rfl,
    @renderReply_get_some _ _ "iccid" (.string _) rfl]
  cases hsim : cachedSim status with
  | none =>
    have hempty : ∀ limit,safeText (some []) limit = [] := fun _ => rfl
    have hshown : isString (gateway.render (.string [])) 32 = true ∧
        isString (gateway.render (.string [])) 64 = true :=
      ⟨isString_shown (by decide : IsShown "" 32),isString_shown (by decide : IsShown "" 64)⟩
    have hnarrow : NarrowSim status := by
      constructor
      · simp [hsim]
      · simp [hsim]
      · simp [hsim]
    simp only [Option.isSome_none,Bool.false_eq_true,if_false,Option.elim_none,hempty,hshown.1,
      hshown.2,isText_nil_of_isNil,hnarrow]
    simp [render_u8,isBoolean]
  | some sim =>
    have hpresent : simPresent status.report = true := by
      rw [cachedSim] at hsim
      split at hsim
      · rename_i hready
        exact (Bool.and_eq_true_iff.mp hready).1
      · cases hsim
    have hnumber := isString_ownNumber gateway status.report.ownNumbers
    have himsi := isString_safeText_iff gateway sim.imsi safeIdentifierMax
    have hiccid := isString_safeText_iff gateway sim.identifier safeIdentifierMax
    rw [hphone] at hnumber
    rw [hidentifier] at himsi hiccid
    have hflag : gateway.render (.u8 (simPresent status.report)) = .boolean true := by
      rw [hpresent,render_u8]
    rw [hflag]
    simp only [Option.isSome_some,if_true,Option.elim_some,isBoolean,JsValue.isTrue,Bool.true_and,
      Bool.true_or,Bool.and_true,Bool.and_eq_true,hphone,hidentifier,hnumber,himsi,hiccid]
    constructor
    · rintro ⟨⟨h₁,h₂⟩,h₃⟩
      constructor
      · exact fun _ _ => h₁
      · intro other hother
        obtain rfl := Option.some.inj (hsim.symm.trans hother)
        exact h₂
      · intro other hother
        obtain rfl := Option.some.inj (hsim.symm.trans hother)
        exact h₃
    · exact fun h => ⟨⟨h.number sim hsim,h.imsi sim hsim⟩,h.identifier sim hsim⟩

theorem technologies_shown (value : Nat) :
    isStringArray (gateway.render (addAccessTechnologies value).2) 32 = true := by
  have hmap : (addAccessTechnologies value).2 = .array (((technologies.filter
      fun technology => value.testBit technology.1).map Prod.snd).map .text) := by
    rw [addAccessTechnologies,List.map_map]
    rfl
  have hall : ∀ technology ∈ technologies,IsShown technology.2 160 := by decide
  have hcount : technologies.length = 18 := rfl
  rw [hmap]
  refine isStringArray_texts ?_ fun text htext => ?_
  · have hle := List.length_filter_le (fun technology => value.testBit technology.1) technologies
    rw [List.length_map]
    omega
  · obtain ⟨technology,htechnology,rfl⟩ := List.mem_map.mp htext
    exact hall technology (List.mem_filter.mp htechnology).1

theorem addNetwork_valid :
    overviewNetworkIsValid (object (gateway.render (addNetwork report).2)) = true ↔
      ∀ gpp,report.gpp = some gpp → Narrow gpp.operatorName safeTextMax := by
  have hlimit : safeTextMax = 160 := rfl
  have hoperator := isString_safeText_iff gateway
    (report.gpp.elim (some []) MMModem3gpp.operatorName) safeTextMax
  rw [hlimit] at hoperator
  rw [addNetwork,object_table,overviewNetworkIsValid,@renderReply_get_some _ _ "operator" (.string
      (safeText (report.gpp.elim (some []) MMModem3gpp.operatorName) 160)) rfl,
    @renderReply_get_some _ _ "registration" (.text _) rfl,
    isString_shown (registrationName_shown _),
    @renderReply_get_some _ _ "roaming" (.u8 _) rfl,
    @renderReply_get_some _ _ "access" (addAccessTechnologies report.accessTechnologies).2 rfl,
    technologies_shown]
  simp only [render_u8,isBoolean,Bool.and_true] at hoperator ⊢
  rw [hoperator]
  cases report.gpp with
  | none => simpa using narrow_nil 160
  | some gpp => simp [hlimit]

theorem addBearerSummary_valid :
    overviewBearerIsValid (object (gateway.render (addBearerSummary report).2)) = true ↔
      ∀ bearer,preferredBearer report.bearers = some bearer →
        Narrow bearer.interface safePortMax := by
  have hlimit : safePortMax = 64 := rfl
  have hinterface := isString_safeText_iff gateway
    ((preferredBearer report.bearers).elim (some []) MMBearer.interface) safePortMax
  rw [hlimit] at hinterface
  rw [addBearerSummary,object_table,overviewBearerIsValid,
    @renderReply_get_some _ _ "connected" (.u8 _) rfl,@renderReply_get_some _ _ "interface" (.string
      (safeText ((preferredBearer report.bearers).elim (some []) MMBearer.interface) 64)) rfl]
  simp only [render_u8,isBoolean,Bool.true_and] at hinterface ⊢
  rw [hinterface]
  cases preferredBearer report.bearers with
  | none => simpa using narrow_nil 64
  | some bearer => simp [hlimit]

/-- The bands of a reply are canonical names, within the bound of the page. -/
theorem addBandArray_valid (bandGetString : Nat → Option CString) (name : String)
    (bands : Option (List Nat)) :
    isStringArray (gateway.render (addBandArray bandGetString name bands).2) 256 = true := by
  have hlimit : Modem.maxRadioBands = 256 := rfl
  rw [addBandArray]
  refine isStringArray_items ?_ fun item hitem => ?_
  · have hle := List.length_filterMap_le (canonicalBand bandGetString)
      ((bands.getD []).take Modem.maxRadioBands)
    have htake := List.length_take_le Modem.maxRadioBands (bands.getD [])
    rw [List.length_map]
    omega
  · obtain ⟨name,hname,rfl⟩ := List.mem_map.mp hitem
    obtain ⟨band,-,hband⟩ := List.mem_filterMap.mp hname
    rw [canonicalBand] at hband
    split at hband
    · cases hband
    · exact isString_canonical (Option.filter_eq_some_iff.mp hband).2

theorem servingCellReason_shown (fresh : Bool) (h : SoundCell status.servingCell) :
    IsShown (servingCellReason status fresh) 160 := by
  have hall : ∀ reason ∈ servingCellReasons,IsShown reason 160 := by decide
  have hreason := hall _ h.reason
  unfold servingCellReason
  split
  · exact hreason
  split
  · decide
  split
  · decide
  · exact hreason

theorem addServingCellSummary_valid (modem : Modem) (now : Int) (h : SoundCell status.servingCell) :
    overviewServingIsValid
      (object (gateway.render (addServingCellSummary modem now status).2)) = true := by
  have hreason : isString (gateway.render (.text (servingCellReason status
      (servingCellCacheIsFresh modem status.servingCell now)))) 160 = true :=
    isString_shown (servingCellReason_shown _ h)
  rw [addServingCellSummary,object_table,overviewServingIsValid,
    @renderReply_get_some _ _ "state" (.text _) rfl,
    @renderReply_get_some _ _ "reason" (.text _) rfl,hreason]
  cases hfresh : servingCellCacheIsFresh modem status.servingCell now with
  | false =>
    simp only [Bool.false_eq_true,if_false]
    rw [isString_shown (by decide : IsShown "unavailable" 64),
      render_text (by decide : IsLiteral "unavailable" 64)]
    rfl
  | true =>
    have hvalid : status.servingCell.valid = true := by
      simp only [servingCellCacheIsFresh,Bool.and_eq_true] at hfresh
      exact hfresh.1.1.1.2
    have hband := l850glL850EarfcnToBand_iff.mp (h.band hvalid)
    have hpci := h.pci hvalid
    obtain ⟨hlow,hhigh⟩ := inBand_band_le hband
    have hearfcn := inBand_earfcn_le hband
    have hlimit : uint32Max = 4294967295 := rfl
    have hunsigned : ∀ n,n ≤ 70545 → isUnsigned (gateway.render (.u32 n)) = true :=
      fun n hn => (isUnsigned_render_iff (by omega)).mpr (by omega)
    have hpciWithin : (gateway.render (.u32 status.servingCell.pci)).within 0 503 = true := by
      simp only [render_u32_of_lt (show status.servingCell.pci < 2^31 by omega),within,
        Bool.and_eq_true,decide_eq_true_eq]
      omega
    have hbandWithin : (gateway.render (.u32 status.servingCell.band)).within 1 85 = true := by
      simp only [render_u32_of_lt (show status.servingCell.band < 2^31 by omega),within,
        Bool.and_eq_true,decide_eq_true_eq]
      omega
    simp only [if_true]
    rw [@renderReply_get_some _ _ "earfcn" (.u32 _) rfl,
      @renderReply_get_some _ _ "pci" (.u32 _) rfl,@renderReply_get_some _ _ "band" (.u32 _) rfl,
      isString_shown (by decide : IsShown "available" 64),
      hunsigned _ (by omega),hunsigned _ (by omega),hunsigned _ (by omega),
      hpciWithin,hbandWithin,optionalNumbers_of]
    · simp
    · intro name hname
      simp only [List.mem_cons,List.not_mem_nil,or_false] at hname
      rcases hname with rfl | rfl
      · cases status.servingCell.hasRsrp <;> cases status.servingCell.hasRsrq <;>
          first | exact .inl rfl | exact .inr ⟨_,rfl⟩
      · cases status.servingCell.hasRsrp <;> cases status.servingCell.hasRsrq <;>
          first | exact .inl rfl | exact .inr ⟨_,rfl⟩

theorem addOverviewCapabilities_valid (environment : Environment) (bridge : Bridge)
    (ref : ModemRef) (report : ModemReport) :
    overviewCapabilitiesAreValid (object (gateway.render
      (addOverviewCapabilities environment bridge ref report).2)) = true := by
  have hreason : IsShown (if (snapshotSupportedRadioBands environment.bandGetString report).isSome
      then "current-modes-not-advertised" else "supported-bands-not-advertised") 160 := by
    split
    · decide
    · decide
  rw [addOverviewCapabilities,object_table,overviewCapabilitiesAreValid,
    @renderReply_get_some _ _ "sms" (addMessagingFeature "sms" (bridge.modems ref) report.messaging
      (bridge.modems ref).l850glModemAttestMutationTarget).2 rfl,addMessagingFeature_valid,
    @renderReply_get_some _ _ "band_lock"
      (addStandardFeature "band_lock" bridge ref _ _ _ _ _).2 rfl,
    addStandardFeature_valid (by decide) (by decide) hreason,
    @renderReply_get_some _ _ "pci_lock" (addPciFeature environment "pci_lock" bridge ref).2
      rfl,addPciFeature_valid]
  rfl

theorem overviewWarnings_shown (environment : Environment) (modem : Modem)
    (status : ModemStatus) :
    isStringArray (gateway.render
      (.array ((overviewWarnings environment modem status).map .text))) 32 = true := by
  have hone : ∀ (condition : Bool) (warning : String),IsShown warning 160 →
      (if condition then [warning] else []).length ≤ 1 ∧
        ∀ text ∈ (if condition then [warning] else []),IsShown text 160 := by
    intro condition warning h
    cases condition
    · exact ⟨Nat.zero_le _,by simp⟩
    · exact ⟨Nat.le_refl _,by simpa using h⟩
  obtain ⟨hlen₁,hall₁⟩ := hone (status.simCacheState != .ready && status.simCacheState != .absent)
    "sim-snapshot-incomplete" (by decide)
  obtain ⟨hlen₂,hall₂⟩ := hone (status.bearerCacheState != .ready) "bearer-snapshot-incomplete"
    (by decide)
  obtain ⟨hlen₃,hall₃⟩ := hone (!environment.protocolInstalled)
    "netifd-modemmanager-protocol-unavailable" (by decide)
  obtain ⟨hlen₄,hall₄⟩ := hone (l850glModemComposition status.report != .mbim)
    "mbim-composition-required" (by decide)
  obtain ⟨hlen₅,hall₅⟩ := hone (!modem.l850glModemAttestMutationTarget)
    "mutations-disabled-hardware-attestation" (by decide)
  refine isStringArray_texts ?_ fun text htext => ?_
  · simp only [overviewWarnings,List.length_append]
    omega
  · simp only [overviewWarnings,List.mem_append] at htext
    rcases htext with (((h | h) | h) | h) | h
    · exact hall₁ text h
    · exact hall₂ text h
    · exact hall₃ text h
    · exact hall₄ text h
    · exact hall₅ text h

/-- All texts of an overview are narrow. -/
structure NarrowOverview (status : ModemStatus) : Prop where
  names : NarrowNames status.report
  imei : Narrow status.report.equipmentIdentifier safeIdentifierMax
  sim : NarrowSim status
  operator : ∀ gpp,status.report.gpp = some gpp → Narrow gpp.operatorName safeTextMax
  interface : ∀ bearer,preferredBearer status.report.bearers = some bearer →
    Narrow bearer.interface safePortMax

theorem overviewIdentity_valid : overviewIdentityIsValid (object (gateway.render (.table
    [addSafeString "manufacturer" report.manufacturer safeTextMax,
     addSafeString "model" report.model safeTextMax,
     addSafeString "revision" report.revision safeTextMax,
     addSafeString "imei" report.equipmentIdentifier safeIdentifierMax]))) = true ↔
    NarrowNames report ∧ Narrow report.equipmentIdentifier safeIdentifierMax := by
  have htext : safeTextMax = 160 := rfl
  have hidentifier : safeIdentifierMax = 64 := rfl
  have hmanufacturer := isString_safeText_iff gateway report.manufacturer safeTextMax
  have hmodel := isString_safeText_iff gateway report.model safeTextMax
  have hrevision := isString_safeText_iff gateway report.revision safeTextMax
  have himei := isString_safeText_iff gateway report.equipmentIdentifier safeIdentifierMax
  rw [htext] at hmanufacturer hmodel hrevision
  rw [hidentifier] at himei
  rw [object_table,overviewIdentityIsValid,
    @renderReply_get_some _ _ "manufacturer" (.string (safeText report.manufacturer 160)) rfl,
    @renderReply_get_some _ _ "model" (.string (safeText report.model 160)) rfl,
    @renderReply_get_some _ _ "revision" (.string (safeText report.revision 160)) rfl,
    @renderReply_get_some _ _ "imei" (.string (safeText report.equipmentIdentifier 64)) rfl]
  simp only [Bool.and_eq_true,hmanufacturer,hmodel,hrevision,himei,hidentifier]
  exact ⟨fun h => ⟨⟨h.1.1.1,h.1.1.2,h.1.2⟩,h.2⟩,
    fun h => ⟨⟨⟨h.1.manufacturer,h.1.model⟩,h.1.revision⟩,h.2⟩⟩

theorem composition_valid (report : ModemReport) : usbModes.any (fun mode =>
    (gateway.render (.text (l850glModemComposition report).name)).isText mode) = true := by
  cases l850glModemComposition report with
  | mbim =>
    rw [Composition.name,render_text (by decide : IsLiteral "mbim" 64)]
    decide
  | ncm =>
    rw [Composition.name,render_text (by decide : IsLiteral "ncm" 64)]
    decide
  | unknown =>
    rw [Composition.name,render_text (by decide : IsLiteral "unknown" 64)]
    decide

variable {summary : JsValue}

/-- The page accepts an overview exactly when all its texts are narrow. -/
theorem overviewError_eq_none (hclock : (bridge.time : Int) ≤ maxSafeInteger)
    (hsummary : IsSummary gateway summary (bridge.modems ref).modemId
      (bridge.modems ref).generation)
    (h : SoundStatus status) :
    overviewError (gateway.renderReply (overviewReply environment bridge ref status)) summary =
      none ↔ NarrowOverview status := by
  obtain ⟨result,hresult⟩ : ∃ result,result =
      gateway.renderReply (overviewReply environment bridge ref status) := ⟨_,rfl⟩
  obtain ⟨herror,hidentity⟩ := successReply_identity hclock (by rfl) hsummary hresult
  have hnames : overviewIdentityIsValid (object (result.get "identity")) = true ↔
      NarrowNames status.report ∧ Narrow status.report.equipmentIdentifier safeIdentifierMax := by
    rw [hresult,@renderReply_get_some _ _ "identity" (.table _) rfl]
    exact overviewIdentity_valid
  have husb : usbModes.any (fun mode => (result.get "usb_mode").isText mode) = true := by
    rw [hresult,@renderReply_get_some _ _ "usb_mode"
      (.text (l850glModemComposition status.report).name) rfl]
    exact composition_valid status.report
  have hmodem : overviewModemIsValid (object (result.get "modem")) = true := by
    rw [hresult,@renderReply_get_some _ _ "modem" (.table _) rfl]
    exact addModemVoltage_valid environment.expert bridge.now h.voltage
  have hsim : overviewSimIsValid (object (result.get "sim")) = true ↔ NarrowSim status := by
    rw [hresult,@renderReply_get_some _ _ "sim" (addSimSummary status).2 rfl]
    exact addSimSummary_valid
  have hnetwork : overviewNetworkIsValid (object (result.get "network")) = true ↔
      ∀ gpp,status.report.gpp = some gpp → Narrow gpp.operatorName safeTextMax := by
    rw [hresult,@renderReply_get_some _ _ "network" (addNetwork status.report).2 rfl]
    exact addNetwork_valid
  have hsignal : overviewSignalIsValid (object (result.get "signal")) = true := by
    rw [hresult,@renderReply_get_some _ _ "signal" (addSignalSummary status.report).2 rfl]
    exact addSignalSummary_valid status.report
  have hbearer : overviewBearerIsValid (object (result.get "bearer")) = true ↔
      ∀ bearer,preferredBearer status.report.bearers = some bearer →
        Narrow bearer.interface safePortMax := by
    rw [hresult,@renderReply_get_some _ _ "bearer" (addBearerSummary status.report).2 rfl]
    exact addBearerSummary_valid
  have hbands : isStringArray (result.get "current_bands") 256 = true := by
    rw [hresult,@renderReply_get_some _ _ "current_bands" (addBandArray environment.bandGetString
      "current_bands" status.report.currentBands).2 rfl]
    exact addBandArray_valid _ _ _
  have hserving : overviewServingIsValid (object (result.get "serving_cell")) = true := by
    rw [hresult,@renderReply_get_some _ _ "serving_cell" (addServingCellSummary (bridge.modems ref)
      bridge.now status).2 rfl]
    exact addServingCellSummary_valid _ _ h.cell
  have hcapabilities : overviewCapabilitiesAreValid (object (result.get "capabilities")) =
      true := by
    rw [hresult,@renderReply_get_some _ _ "capabilities"
      (addOverviewCapabilities environment bridge ref status.report).2 rfl]
    exact addOverviewCapabilities_valid _ _ _ _
  have hwarnings : isStringArray (result.get "warnings") 32 = true := by
    rw [hresult,@renderReply_get_some _ _ "warnings" (.array ((overviewWarnings environment
      (bridge.modems ref) status).map .text)) rfl]
    exact overviewWarnings_shown _ _ _
  rw [← hresult,overviewError,pageError_eq_none herror,overviewIsValid,hidentity,husb,hmodem,
    hsignal,hbands,hserving,hcapabilities,hwarnings]
  simp only [Bool.true_and,Bool.and_true,Bool.and_eq_true,hnames,hsim,hnetwork,hbearer]
  constructor
  · rintro ⟨⟨⟨⟨hnames,himei⟩,hsim⟩,hoperator⟩,hinterface⟩
    exact ⟨hnames,himei,hsim,hoperator,hinterface⟩
  · exact fun h => ⟨⟨⟨⟨h.names,h.imei⟩,h.sim⟩,h.operator⟩,h.interface⟩

/-- The page accepts the inventory exactly when all names in it are narrow. -/
theorem listError_eq_none {status : ModemRef → ModemStatus}
    (hclock : (bridge.time : Int) ≤ maxSafeInteger)
    (hcount : bridge.l850glBridgeSnapshotModems.length ≤ 64)
    (h : ∀ ref ∈ bridge.l850glBridgeSnapshotModems,
      l850glIdentityIsValid (bridge.modems ref).modemId = true ∧
        (bridge.modems ref).generation ≤ uint32Max) :
    listError (gateway.renderReply (listModemsReply bridge status)) = none ↔
      ∀ ref ∈ bridge.l850glBridgeSnapshotModems,
        (bridge.modems ref).generation < 2^31 ∧ NarrowNames (status ref).report := by
  have herror : responseError (gateway.renderReply (listModemsReply bridge status)) = none :=
    responseError_common hclock rfl
  have hmodems : (gateway.renderReply (listModemsReply bridge status)).get "modems" =
      .array (bridge.l850glBridgeSnapshotModems.map fun ref =>
        gateway.render (.table (modemEntry (bridge.modems ref) (status ref).report))) := by
    rw [@renderReply_get_some _ _ "modems" (.array (bridge.l850glBridgeSnapshotModems.map fun ref =>
      .table (modemEntry (bridge.modems ref) (status ref).report))) rfl,render_array,
      List.map_map]
    rfl
  rw [listError,pageError_eq_none herror,listIsValid,hmodems]
  simp only [JsValue.isArray,JsValue.items,List.length_map,hcount,decide_true,Bool.true_and,
    List.all_map,List.all_eq_true,Function.comp_apply]
  constructor
  · exact fun hall ref href => (modemEntry_valid (h ref href).1 (h ref href).2).mp (hall ref href)
  · exact fun hall ref href => (modemEntry_valid (h ref href).1 (h ref href).2).mpr (hall ref href)

theorem addModeArray_valid (name : String) (modes : Nat) :
    isStringArray (gateway.render (addModeArray name modes).2) 8 = true := by
  have hmap : (addModeArray name modes).2 = .array (((modeFamilies.filter
      fun family => modes.testBit family.1).map fun family => generationName family.2).map
        .text) := by
    rw [addModeArray,List.map_map]
    rfl
  have hall : ∀ family ∈ modeFamilies,IsShown (generationName family.2) 160 := by decide
  have hcount : modeFamilies.length = 4 := rfl
  rw [hmap]
  refine isStringArray_texts ?_ fun text htext => ?_
  · have hle := List.length_filter_le (fun family => modes.testBit family.1) modeFamilies
    rw [List.length_map]
    omega
  · obtain ⟨family,hfamily,rfl⟩ := List.mem_map.mp htext
    exact hall family (List.mem_filter.mp hfamily).1

theorem preferredModeName_shown (mode : Nat) : IsShown (preferredModeName mode) 32 := by
  unfold preferredModeName
  split_ifs <;> decide

/-- The names of the two modes of a policy. -/
structure PolicyModes (allowed preferred : CString) : Prop where
  isAllowed : allowed ∈ policyAllowed
  isPreferred : preferred ∈ policyPreferred
  together : allowed = "3g|4g".toList ∨ preferred = "none".toList

theorem modePolicyFallback_modes (currentAllowed currentPreferred : Nat) :
    PolicyModes (modePolicyFallback currentAllowed currentPreferred).1.toList
      (modePolicyFallback currentAllowed currentPreferred).2.toList := by
  by_cases h₁ : currentAllowed = 4
  · have honly : modePolicyFallback currentAllowed currentPreferred = ("3g","none") := by
      simp [modePolicyFallback,h₁]
    rw [honly]
    exact ⟨by decide,by decide,by decide⟩
  by_cases h₂ : currentAllowed = 8
  · have honly : modePolicyFallback currentAllowed currentPreferred = ("4g","none") := by
      simp [modePolicyFallback,h₂]
    rw [honly]
    exact ⟨by decide,by decide,by decide⟩
  · have hboth : (modePolicyFallback currentAllowed currentPreferred).1 = "3g|4g" := by
      simp [modePolicyFallback,h₁,h₂]
    have hpreferred : (modePolicyFallback currentAllowed currentPreferred).2 ∈
        ["3g","4g","none"] := by
      unfold modePolicyFallback
      dsimp only
      split_ifs <;> decide
    have hall : ∀ preferred ∈ ["3g","4g","none"],preferred.toList ∈ policyPreferred := by decide
    rw [hboth]
    exact ⟨by decide,hall _ hpreferred,.inl rfl⟩

theorem l850glNetworkModesAreValid_modes {allowedmode preferredmode : CString}
    (h : l850glNetworkModesAreValid allowedmode preferredmode = true) :
    PolicyModes allowedmode preferredmode := by
  unfold l850glNetworkModesAreValid at h
  split at h
  · cases h
  dsimp only at h
  split at h
  · cases h
  rename_i hallowed
  simp only [Bool.and_eq_true,Bool.not_eq_true',beq_eq_false_iff_ne,bne_iff_ne,ne_eq,not_and,
    Decidable.not_not] at hallowed
  have hcombined : allowedmode ∈ policyAllowed := by
    by_cases h₁ : allowedmode = "3g|4g".toList
    · rw [h₁]
      decide
    by_cases h₂ : allowedmode = "3g".toList
    · rw [h₂]
      decide
    · rw [hallowed ⟨h₁,h₂⟩]
      decide
  split at h
  · rename_i hnone
    rw [beq_iff_eq] at hnone
    exact ⟨hcombined,by rw [hnone]; decide,.inr hnone⟩
  split at h
  · cases h
  · rename_i hboth
    have htogether : allowedmode = "3g|4g".toList := by simpa using hboth
    refine ⟨hcombined,?_,.inl htogether⟩
    rw [Bool.or_eq_true,beq_iff_eq,beq_iff_eq] at h
    rcases h with rfl | rfl
    · decide
    · decide

theorem configuredModes_modes {lookup : NetworkBindingResult × NetworkBinding}
    {modes : CString × CString} (h : configuredModes lookup = some modes) :
    PolicyModes modes.1 modes.2 := by
  unfold configuredModes at h
  split at h
  · split at h
    · rename_i hvalid
      obtain rfl := Option.some.inj h
      exact l850glNetworkModesAreValid_modes hvalid
    · cases h
  · cases h

theorem modePolicyFeature_shown (result : NetworkBindingResult) (configured : Bool) :
    Feature.IsShown (modePolicyFeature bridge ref result configured) := by
  cases result with
  | error =>
    exact ⟨(by decide : IsShown "unavailable" 64),
      (by decide : IsShown "netifd-binding-unavailable" 160)⟩
  | none =>
    exact ⟨(by decide : IsShown "unavailable" 64),
      (by decide : IsShown "netifd-binding-not-found" 160)⟩
  | ambiguous =>
    exact ⟨(by decide : IsShown "unavailable" 64),
      (by decide : IsShown "netifd-binding-ambiguous" 160)⟩
  | unique =>
    unfold modePolicyFeature
    dsimp only
    split
    · exact ⟨by decide,by decide⟩
    split
    · exact ⟨(by decide : IsShown "busy" 64),mutationBusyReason_shown _⟩
    · refine ⟨(by decide : IsShown "available" 64),?_⟩
      cases configured
      · exact (by decide : IsShown "unique-netifd-binding-unconfigured" 160)
      · exact (by decide : IsShown "unique-netifd-binding" 160)

theorem isText_policy {values : List CString} {value : CString} (h : value ∈ values)
    (hascii : ∀ value ∈ values,∀ c ∈ value,c.toNat < 0x80) :
    values.any (fun text => (gateway.render (.string value)).isText text) = true := by
  rw [List.any_eq_true]
  refine ⟨value,h,?_⟩
  rw [render_string,text_ascii (hascii value h)]
  simp [isText]

theorem policyModes_valid {allowed preferred : CString} (h : PolicyModes allowed preferred) :
    policyAllowed.any (fun text => (gateway.render (.string allowed)).isText text) = true ∧
      policyPreferred.any (fun text => (gateway.render (.string preferred)).isText text) = true ∧
      ((gateway.render (.string allowed)).isText "3g|4g".toList ||
        (gateway.render (.string preferred)).isText "none".toList) = true := by
  have hascii : ∀ value ∈ policyAllowed++policyPreferred,
      value.all (fun c => decide (c.toNat < 0x80)) = true := by decide
  have hallowed : ∀ value ∈ policyAllowed,∀ c ∈ value,c.toNat < 0x80 := fun value hm =>
    ascii_of_all (hascii value (List.mem_append_left _ hm))
  have hpreferred : ∀ value ∈ policyPreferred,∀ c ∈ value,c.toNat < 0x80 := fun value hm =>
    ascii_of_all (hascii value (List.mem_append_right _ hm))
  refine ⟨isText_policy h.isAllowed hallowed,isText_policy h.isPreferred hpreferred,?_⟩
  rw [render_string,render_string,text_ascii (hallowed _ h.isAllowed),
    text_ascii (hpreferred _ h.isPreferred)]
  rcases h.together with rfl | rfl
  · simp [isText]
  · simp [isText]

theorem addModePolicy_valid (environment : Environment) (bridge : Bridge) (ref : ModemRef)
    (currentAllowed currentPreferred : Nat) :
    modePolicyIsValid (object (gateway.render
      (addModePolicy environment bridge ref currentAllowed currentPreferred).2)) = true := by
  obtain ⟨lookup,hlookup⟩ : ∃ lookup,lookup = (bridge.modems ref).device.elim
    (NetworkBindingResult.error,bindingClear) (l850glNetworkBindingLookup environment.network) :=
      ⟨_,rfl⟩
  obtain ⟨modes,hmodes⟩ : ∃ modes,modes = (configuredModes lookup).getD
    ((modePolicyFallback currentAllowed currentPreferred).1.toList,
      (modePolicyFallback currentAllowed currentPreferred).2.toList) := ⟨_,rfl⟩
  have hpolicy : PolicyModes modes.1 modes.2 := by
    cases hconfigured : configuredModes lookup with
    | none =>
      rw [hmodes,hconfigured]
      exact modePolicyFallback_modes currentAllowed currentPreferred
    | some configured =>
      rw [hmodes,hconfigured]
      exact configuredModes_modes hconfigured
  obtain ⟨hallowed,hpreferred,htogether⟩ := policyModes_valid hpolicy
  rw [addModePolicy,← hlookup,← hmodes,object_table,modePolicyIsValid,
    capabilityIsValid_table rfl rfl rfl (modePolicyFeature_shown lookup.1
      (configuredModes lookup).isSome),@renderReply_get_some _ _ "configured" (.u8 _) rfl,
    @renderReply_get_some _ _ "allowed" (.string modes.1) rfl,
    @renderReply_get_some _ _ "preferred" (.string modes.2) rfl,hallowed,hpreferred,htogether,
    render_u8]
  rfl

theorem bandSelection_shown (currentBands : Option (List Nat)) :
    IsShown (bandSelection currentBands) 32 := by
  unfold bandSelection
  split
  · decide
  · decide
  · split_ifs <;> decide

/-- The page accepts every lock status. -/
theorem lockError_eq_none (hclock : (bridge.time : Int) ≤ maxSafeInteger)
    (hsummary : IsSummary gateway summary (bridge.modems ref).modemId
      (bridge.modems ref).generation) :
    lockError (gateway.renderReply (lockStatusReply environment bridge ref report)) summary =
      none := by
  obtain ⟨result,hresult⟩ : ∃ result,result =
      gateway.renderReply (lockStatusReply environment bridge ref report) := ⟨_,rfl⟩
  obtain ⟨herror,hidentity⟩ := successReply_identity hclock (by rfl) hsummary hresult
  have hsupported : isStringArray (result.get "supported_bands") 256 = true := by
    rw [hresult,@renderReply_get_some _ _ "supported_bands" (addBandArray environment.bandGetString
      "supported_bands" report.supportedBands).2 rfl]
    exact addBandArray_valid _ _ _
  have hcurrent : isStringArray (result.get "current_bands") 256 = true := by
    rw [hresult,@renderReply_get_some _ _ "current_bands" (addBandArray environment.bandGetString
      "current_bands" report.currentBands).2 rfl]
    exact addBandArray_valid _ _ _
  have hselection : isString (result.get "band_selection") 32 = true := by
    rw [hresult,@renderReply_get_some _ _ "band_selection" (.text _) rfl]
    exact isString_shown (bandSelection_shown report.currentBands)
  have hpreferred : IsShown (if report.currentModes.isSome then
      preferredModeName (report.currentModes.getD (0,0)).2 else "unknown") 32 := by
    split
    · exact preferredModeName_shown _
    · decide
  have hmodes : currentModesAreValid (object (result.get "current_modes")) = true := by
    rw [hresult,@renderReply_get_some _ _ "current_modes" (.table _) rfl,object_table,
      currentModesAreValid,@renderReply_get_some _ _ "known" (.u8 _) rfl,
      @renderReply_get_some _ _ "allowed"
        (addModeArray "allowed" (report.currentModes.getD (0,0)).1).2 rfl,addModeArray_valid,
      @renderReply_get_some _ _ "preferred" (.text _) rfl,isString_shown hpreferred,render_u8]
    rfl
  have hpolicy : modePolicyIsValid (object (result.get "mode_policy")) = true := by
    rw [hresult,@renderReply_get_some _ _ "mode_policy" (addModePolicy environment bridge ref
      (report.currentModes.getD (0,0)).1 (report.currentModes.getD (0,0)).2).2 rfl]
    exact addModePolicy_valid _ _ _ _ _
  have hbands : capabilityIsValid (result.get "band_lock") = true := by
    rw [hresult,@renderReply_get_some _ _ "band_lock" (addStandardFeature "band_lock" bridge ref
      (bridge.modems ref).l850glModemAttestMutationTarget _ "unknown" "standard-set-current-bands"
      "supported-bands-or-current-modes-not-advertised").2 rfl]
    exact addStandardFeature_valid (by decide) (by decide) (by decide)
  have hpci : capabilityIsValid (result.get "pci_lock") = true := by
    rw [hresult,@renderReply_get_some _ _ "pci_lock"
      (addPciFeature environment "pci_lock" bridge ref).2 rfl]
    exact addPciFeature_valid _ _ _ _
  rw [← hresult,lockError,pageError_eq_none herror,lockIsValid,hidentity,hsupported,hcurrent,
    hselection,hmodes,hpolicy,hbands,hpci]
  rfl

end Frontend
end L850GL
