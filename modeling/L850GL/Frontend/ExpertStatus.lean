import L850GL.Cell.LockCodec
import L850GL.CellInfo.Agreement
import L850GL.Frontend.Lock
import L850GL.Frontend.Replies
import L850GL.Reads

/-! The lock page's reading of `cell_lock_status` and `cell_scan` (`lock.js`), and the replies of
the bridge under it. -/
namespace L850GL
namespace Frontend
namespace Lock

open Gateway JsValue Widgets Cell CellInfo Reads

/-- `typeof value === 'string' && value.length <= maximum`. -/
def isShortText (value : JsValue) (maximum : Nat) : Bool :=
  match value with
  | .string text => jsLength text ≤ maximum
  | _ => false

def lockObservation (status : JsValue) : Option JsValue :=
  let lock := Widgets.object (status.get "lock")
  let state := lock.get "state"
  if !(state.isText "clear".toList || state.isText "configured_exact".toList ||
        state.isText "configured_earfcn".toList) ||
      !(lock.get "enabled").isBoolean ||
      !strictEquals (.boolean false) (lock.get "postcondition_verified") ||
      !(lock.get "source").isText "l850-nvm-via-modemmanager".toList then none
  else if (lock.get "enabled").isTrue && (!(lock.get "earfcn").isSafeIntegerWith (0 ≤ ·) ||
      !(lock.get "band").isSafeIntegerWith fun band => 1 ≤ band && band ≤ 85) then none
  else if state.isText "configured_exact".toList &&
      !(lock.get "pci").isSafeIntegerWith (fun pci => 0 ≤ pci && pci ≤ 503) then none
  else if !state.isText "configured_exact".toList && !(lock.get "pci").isNullish then none
  else some lock

/-- A modem as the page holds it, with its validated summary. -/
structure Entry where
  summary : Context
  lock : JsValue
  expert : JsValue

def madeStatus (state : JsValue) (reason : JsValue) : JsValue :=
  .object [("state",state),("mutable",.boolean false),("reason",reason)]

/-- `value || fallback`. -/
def orElse (value fallback : JsValue) : JsValue :=
  match value with
  | .undefined | .null | .boolean false | .number 0 | .string [] => fallback
  | value => value

/-- The checks of `expertStatus` on a reply without an error. -/
def expertIsValid (expert : JsValue) (summary : Context) : Bool :=
  let scan := Widgets.object (expert.get "scan")
  mutationAllowed expert expert summary.modemId summary.generation &&
    isShortText (expert.get "state") 64 && (expert.get "mutable").isBoolean &&
    isShortText (expert.get "reason") 160 && isShortText (scan.get "state") 64 &&
    (scan.get "available").isBoolean && isShortText (scan.get "reason") 160 &&
    (scan.get "source").isText "modemmanager".toList &&
    ((scan.get "retry_after_ms").isNullish ||
      (scan.get "retry_after_ms").isSafeIntegerWith (0 ≤ ·))

def expertStatus (entry : Entry) : JsValue :=
  let fallback := Widgets.object ((Widgets.object entry.lock).get "pci_lock")
  let expert := Widgets.object entry.expert
  let state := expert.get "state"
  if (fallback.get "state").isText "unsupported_build".toList then
    madeStatus (.string "unsupported_build".toList) (fallback.get "reason")
  else if truthy (responseError entry.expert) then
    madeStatus (orElse (fallback.get "state") (.string "unavailable".toList))
      (fallback.get "reason")
  else if !expertIsValid expert entry.summary then
    madeStatus (.string "unavailable".toList) (.string "malformed-expert-response".toList)
  else if (state.isText "available".toList || state.isText "busy".toList) &&
      (lockObservation expert).isNone then
    madeStatus (.string "unavailable".toList) (.string "malformed-lock-observation".toList)
  else expert

def isOptionalNumber (value : JsValue) : Bool := value.isNullish || isFiniteNumber value

def cellResultIsValid (cell : JsValue) : Bool :=
  isObject cell && ((cell.get "type").isNumber 4 || (cell.get "type").isNumber 5) &&
    strictEquals (.boolean ((cell.get "type").isNumber 4)) (cell.get "serving") &&
    ((cell.get "earfcn").isSafeIntegerWith fun earfcn => 0 ≤ earfcn && earfcn ≤ 70545) &&
    ((cell.get "pci").isSafeIntegerWith fun pci => 0 ≤ pci && pci ≤ 503) &&
    ((cell.get "band").isSafeIntegerWith fun band => 0 < band && band ≤ 85) &&
    isOptionalNumber (cell.get "rsrp") && isOptionalNumber (cell.get "rsrq")

/-- Whether `performScan` shows the cells of a reply. -/
def scanIsShown (result : JsValue) (context : Context) : Bool :=
  !truthy (validateExpertResult result context false) &&
    (result.get "state").isText "scan_ready".toList &&
    (result.get "source").isText "modemmanager".toList && (result.get "cells").isArray &&
    (result.get "cells").items.length ≤ 64 && (result.get "cells").items.all cellResultIsValid

/-- The summary of a modem on the page. -/
def summaryOf (gateway : Gateway) (modem : Modem) : Context :=
  ⟨gateway.text modem.modemId,signed 32 modem.generation⟩

variable {gateway : Gateway} {bridge : Bridge} {modem : Modem} {rest : Reply} {w : World}
  {mutations : List CString} {ref : ModemRef}

theorem isShortText_literal {text : String} {maximum : Nat} (h : IsLiteral text maximum) :
    isShortText (gateway.render (Blob.text text)) maximum = true := by
  rw [render_text h,isShortText,jsLength_ascii h.1]
  exact decide_eq_true h.2

structure ScanIsShort (scan : JsValue) : Prop where
  isObject : isObject scan = true
  state : isShortText (scan.get "state") 64 = true
  available : (scan.get "available").isBoolean = true
  reason : isShortText (scan.get "reason") 160 = true
  source : (scan.get "source").isText "modemmanager".toList = true
  retryAfter : ((scan.get "retry_after_ms").isNullish ||
    (scan.get "retry_after_ms").isSafeIntegerWith (0 ≤ ·)) = true

theorem isNullish_retryAfter {n : Nat} (h : n < 2^31) : ((gateway.render (.u32 n)).isNullish ||
    (gateway.render (.u32 n)).isSafeIntegerWith (0 ≤ ·)) = true := by
  have hmax : maxSafeInteger = 9007199254740991 := rfl
  rw [render_u32_of_lt h,Bool.or_eq_true]
  exact .inr (isUnsigned_le (by omega))

theorem scanTable_short {state reason : String} {available : Bool} {extra : Reply}
    (hstate : IsLiteral state 64) (hreason : IsLiteral reason 160)
    (hextra : extra = [] ∨ ∃ n,n < 2^31 ∧ extra = [("retry_after_ms",.u32 n)]) :
    ScanIsShort (gateway.renderReply ([("state",.text state),("available",.u8 available),
      ("reason",.text reason)]++extra++[("source",.text "modemmanager")])) := by
  have hnames : extra.lookup "source" = none := by
    rcases hextra with rfl | ⟨n,-,rfl⟩
    · rfl
    · rfl
  constructor
  · rfl
  · rw [@renderReply_get_some _ _ "state" (.text state) rfl]
    exact isShortText_literal hstate
  · rw [@renderReply_get_some _ _ "available" (.u8 available) rfl,render_u8]
    rfl
  · rw [@renderReply_get_some _ _ "reason" (.text reason) rfl]
    exact isShortText_literal hreason
  · rw [@renderReply_get_some _ _ "source" (.text "modemmanager")
      (by simp [List.lookup_append,List.lookup_cons,hnames])]
    exact isText_literal (by decide : IsLiteral "modemmanager" 64)
  · rcases hextra with rfl | ⟨n,hn,rfl⟩
    · rw [renderReply_get_none rfl]
      rfl
    · rw [@renderReply_get_some _ _ "retry_after_ms" (.u32 n) rfl]
      exact isNullish_retryAfter hn

theorem l850AddScanCapability_short (gateway : Gateway) (w : World) (mutations : List CString)
    (ref : ModemRef) : ScanIsShort (gateway.render (l850AddScanCapability w mutations ref).2) := by
  have hretry : l850glL850ScanRetryAfterMs w.bridge.now (w.records.lastScanCompletedAt ref) <
      2^31 := Nat.lt_of_le_of_lt retryAfterMs_le_interval (by decide)
  unfold l850AddScanCapability
  dsimp only
  rw [render_table]
  split
  · exact scanTable_short (by decide) (by decide) (.inl rfl)
  split
  · exact scanTable_short (by decide) (by decide) (.inl rfl)
  split
  · exact scanTable_short (by decide) (by decide) (.inl rfl)
  split
  · exact scanTable_short (by decide) (by decide) (.inr ⟨_,hretry,rfl⟩)
  · exact scanTable_short (by decide) (by decide) (.inl rfl)

def lockStateName (state : LockState) : CString :=
  if !state.enabled then "clear".toList
  else if state.hasPci then "configured_exact".toList else "configured_earfcn".toList

/-- An observation that shows a lock state. -/
structure Shows (lock : JsValue) (shown : LockState) : Prop where
  state : lock.get "state" = .string (lockStateName shown)
  enabled : lock.get "enabled" = .boolean shown.enabled
  earfcn : lock.get "earfcn" = if shown.enabled then .number shown.earfcn else .undefined
  band : lock.get "band" = if shown.enabled then .number shown.band else .undefined
  pci : lock.get "pci" = if shown.enabled && shown.hasPci then .number shown.pci else .undefined

/-- The lock states that the parser accepts. -/
structure Observable (state : LockState) : Prop where
  pciOfLock : state.hasPci = true → state.enabled = true
  earfcn : state.enabled = true → state.earfcn ≤ 70545
  band : state.enabled = true → 1 ≤ state.band ∧ state.band ≤ 85
  pci : state.hasPci = true → state.pci ≤ 503

theorem l850glL850NvmParse_observable {response : CString} {state : LockState}
    (h : l850glL850NvmParse response = .ok state) : Observable state := by
  rcases l850glL850NvmParse_state h with rfl | ⟨r,band,hband,rfl⟩
  · constructor
    · exact fun h => h
    · exact fun h => by cases h
    · exact fun h => by cases h
    · exact fun h => by cases h
  · constructor
    · exact fun _ => rfl
    · exact fun _ => inBand_earfcn_le hband
    · exact fun _ => inBand_band_le hband
    · intro hpci
      obtain ⟨pci,hpci⟩ := Option.isSome_iff_exists.mp hpci
      have hle := r.pciRange pci hpci
      simpa [LockRequest.state,hpci] using hle

def lockFields (state : LockState) : Reply :=
  if state.enabled then
    [("earfcn",.u32 state.earfcn),("band",.u32 state.band)]++
      if state.hasPci then [("pci",.u32 state.pci)] else []
  else []

def lockTable (state : LockState) : Reply :=
  [("state",.text (if !state.enabled then "clear"
      else if state.hasPci then "configured_exact" else "configured_earfcn")),
    ("enabled",.u8 state.enabled),("postcondition_verified",.u8 false)]++lockFields state++
    [("source",.text "l850-nvm-via-modemmanager")]

theorem l850AddLockObservation_table (state : LockState) :
    (l850AddLockObservation state).2 = .table (lockTable state) := rfl

theorem lockTable_source (gateway : Gateway) (state : LockState) :
    (gateway.renderReply (lockTable state)).get "source" =
      .string "l850-nvm-via-modemmanager".toList := by
  have hnone : (lockFields state).lookup "source" = none := by
    unfold lockFields
    cases state.enabled
    · rfl
    · cases state.hasPci
      · rfl
      · rfl
  rw [@renderReply_get_some _ _ "source" (.text "l850-nvm-via-modemmanager")]
  · exact render_text (by decide : IsLiteral "l850-nvm-via-modemmanager" 64)
  · simp [lockTable,List.lookup_append,List.lookup_cons,hnone]

theorem lockTable_shows (gateway : Gateway) {state : LockState} (h : Observable state) :
    Shows (gateway.renderReply (lockTable state)) state := by
  have hfields : ∀ name ∈ ["earfcn","band","pci"],(gateway.renderReply (lockTable state)).get name =
      (((lockFields state).lookup name).map gateway.render).getD .undefined := by
    intro name hname
    rw [renderReply_get]
    congr 2
    simp only [List.mem_cons,List.not_mem_nil,or_false] at hname
    rcases hname with rfl | rfl | rfl
    all_goals simp [lockTable,List.lookup_append,List.lookup_cons,List.lookup_nil]
  constructor
  · rw [@renderReply_get_some _ _ "state" _ rfl]
    unfold lockStateName
    split
    · exact render_text (by decide : IsLiteral "clear" 64)
    split
    · exact render_text (by decide : IsLiteral "configured_exact" 64)
    · exact render_text (by decide : IsLiteral "configured_earfcn" 64)
  · rw [@renderReply_get_some _ _ "enabled" (.u8 state.enabled) rfl,render_u8]
  · rw [hfields "earfcn" (by decide),lockFields]
    cases he : state.enabled with
    | false => rfl
    | true =>
      have hle := h.earfcn he
      exact render_u32_of_lt (by omega)
  · rw [hfields "band" (by decide),lockFields]
    cases he : state.enabled with
    | false => rfl
    | true =>
      have hle := (h.band he).2
      exact render_u32_of_lt (by omega)
  · rw [hfields "pci" (by decide),lockFields]
    cases he : state.enabled with
    | false => rfl
    | true =>
      cases hp : state.hasPci with
      | false => rfl
      | true =>
        have hle := h.pci hp
        exact render_u32_of_lt (by omega)

/-- The page observes the lock table of a reply as it was written. -/
theorem lockObservation_shows (gateway : Gateway) {state : LockState} (h : Observable state)
    {status : JsValue}
    (hlock : status.get "lock" = gateway.render (l850AddLockObservation state).2) :
    ∃ lock,lockObservation status = some lock ∧ Shows lock state := by
  refine ⟨gateway.renderReply (lockTable state),?_,lockTable_shows gateway h⟩
  obtain ⟨hstate,henabled,hearfcn,hband,hpci⟩ := lockTable_shows gateway h
  have hobject : Widgets.object (status.get "lock") = gateway.renderReply (lockTable state) := by
    rw [hlock,l850AddLockObservation_table,render_table]
    rfl
  have hverified : (gateway.renderReply (lockTable state)).get "postcondition_verified" =
      .boolean false := by
    rw [@renderReply_get_some _ _ "postcondition_verified" (.u8 false) rfl,render_u8]
  rw [lockObservation,hobject,hstate,henabled,hverified,lockTable_source,hearfcn,hband,hpci]
  cases he : state.enabled with
  | false =>
    have hno : state.hasPci = false := by
      cases hp : state.hasPci with
      | false => rfl
      | true => exact (h.pciOfLock hp).symm.trans he
    rw [lockStateName,he]
    rfl
  | true =>
    have hearfcn' : (JsValue.number state.earfcn).isSafeIntegerWith (0 ≤ ·) = true :=
      isSafeInteger_le (h.earfcn he) (by decide) (by simp)
    have hband' : (JsValue.number state.band).isSafeIntegerWith
        (fun band => 1 ≤ band && band ≤ 85) = true := by
      obtain ⟨hlow,hhigh⟩ := h.band he
      refine isSafeInteger_le hhigh (by decide) ?_
      simp only [Bool.and_eq_true,decide_eq_true_eq]
      omega
    cases hp : state.hasPci with
    | false =>
      simp only [lockStateName,he,hp,Bool.and_false,if_true,Bool.not_true,Bool.false_eq_true,
        if_false,hearfcn',hband']
      rfl
    | true =>
      have hpci' : (JsValue.number state.pci).isSafeIntegerWith
          (fun pci => 0 ≤ pci && pci ≤ 503) = true := by
        have hle := h.pci hp
        refine isSafeInteger_le hle (by decide) ?_
        simp only [Bool.and_eq_true,decide_eq_true_eq]
        omega
      simp only [lockStateName,he,hp,Bool.and_true,if_true,Bool.not_true,Bool.false_eq_true,
        if_false,hearfcn',hband',hpci']
      rfl

theorem lockStatusBody_rest (w : World) (mutations : List CString) (ref : ModemRef)
    (state : LockState) : ∃ (mutable : Bool) (reason : String) (retry : Reply),
    IsLiteral reason 160 ∧ (retry = [] ∨ ∃ n,retry = [("retry_after_ms",.u32 n)]) ∧
    lockStatusBody w mutations ref state =
      successHead w.bridge.time (w.bridge.modems ref)++
        ([("state",.text (if mutable then "available" else "busy")),("mutable",.u8 mutable),
          ("reason",.text reason)]++retry++
        [("lock",(l850AddLockObservation state).2),
         ("scan",(l850AddScanCapability w mutations ref).2)]) := by
  have hreason : ∀ mutable cooling : Bool,IsLiteral (if mutable then
      "runtime-validated-command-and-nvm-state"
      else if cooling then "advanced-cooldown" else "per-modem-mutation-in-progress") 160 := by
    decide
  let retryAfter := Mutation.advancedRetryAfterMs w.bridge ref
  let mutable := !(w.bridge.modems ref).mutationBusy && retryAfter == 0 &&
    !Mutation.l850ModemHasActiveMutation (w.tables mutations) (w.bridge.modems ref)
  refine ⟨mutable,if mutable then "runtime-validated-command-and-nvm-state"
    else if retryAfter > 0 then "advanced-cooldown" else "per-modem-mutation-in-progress",
    if retryAfter > 0 then [("retry_after_ms",.u32 retryAfter)] else [],?_,?_,?_⟩
  · simpa using hreason mutable (decide (retryAfter > 0))
  · split
    · exact .inr ⟨_,rfl⟩
    · exact .inl rfl
  · simp only [lockStatusBody,successHead,List.append_assoc]
    rfl

theorem expertIsValid_literal {expert : JsValue} {state reason : String} {mutable : Bool}
    (hallowed : mutationAllowed expert expert (gateway.text modem.modemId)
      (signed 32 modem.generation) = true)
    (hstate : expert.get "state" = gateway.render (.text state)) (hliteral : IsLiteral state 64)
    (hmutable : expert.get "mutable" = .boolean mutable)
    (hreason : expert.get "reason" = gateway.render (.text reason)) (hshort : IsLiteral reason 160)
    (hscan : expert.get "scan" = gateway.render (l850AddScanCapability w mutations ref).2) :
    expertIsValid expert (summaryOf gateway modem) = true := by
  have hallowed' : mutationAllowed expert expert (summaryOf gateway modem).modemId
      (summaryOf gateway modem).generation = true := by
    simpa only [summaryOf] using hallowed
  have hscanShort := l850AddScanCapability_short gateway w mutations ref
  rw [← hscan] at hscanShort
  have hobject : Widgets.object (expert.get "scan") = expert.get "scan" := by
    rw [Widgets.object,if_pos hscanShort.isObject]
  rw [expertIsValid,hobject,hallowed',hstate,hmutable,hreason,isShortText_literal hliteral,
    isShortText_literal hshort,hscanShort.state,hscanShort.available,hscanShort.reason,
    hscanShort.source,hscanShort.retryAfter]
  rfl

/-- The lock page shows every lock status of the bridge as it was sent. -/
theorem lockStatusBody_shown {state : LockState} (h : Observable state)
    (hclock : (w.bridge.time : Int) ≤ maxSafeInteger) (lock : JsValue)
    (hlock : ((Widgets.object ((Widgets.object lock).get "pci_lock")).get "state").isText
      "unsupported_build".toList = false) :
    let expert := gateway.renderReply (lockStatusBody w mutations ref state)
    expertStatus ⟨summaryOf gateway (w.bridge.modems ref),lock,expert⟩ = expert ∧
      ∃ observation,lockObservation expert = some observation ∧ Shows observation state := by
  obtain ⟨mutable,reason,retry,hreason,hretry,hbody⟩ := lockStatusBody_rest w mutations ref state
  intro expert
  have hexpert : expert = gateway.renderReply (lockStatusBody w mutations ref state) := rfl
  rw [hbody] at hexpert
  have hnone : ∀ name,name ≠ "retry_after_ms" → retry.lookup name = none := by
    intro name hname
    rcases hretry with rfl | ⟨n,rfl⟩
    · rfl
    · simp [List.lookup_cons,List.lookup_nil,beq_eq_false_iff_ne.mpr hname]
  have hliteral : ∀ mutable : Bool,IsLiteral (if mutable then "available" else "busy") 64 := by
    decide
  have hstate : expert.get "state" =
      gateway.render (.text (if mutable then "available" else "busy")) := by
    rw [hexpert]
    exact lookup_rest _ (by decide) rfl
  have hmutable : expert.get "mutable" = .boolean mutable := by
    rw [hexpert,lookup_rest (.u8 mutable) (by decide) rfl,render_u8]
  have hreason' : expert.get "reason" = gateway.render (.text reason) := by
    rw [hexpert]
    exact lookup_rest _ (by decide) rfl
  have hobservation : expert.get "lock" = gateway.render (l850AddLockObservation state).2 := by
    rw [hexpert]
    refine lookup_rest _ (by decide) ?_
    simp [List.lookup_append,List.lookup_cons,hnone "lock" (by decide)]
  have hscan : expert.get "scan" = gateway.render (l850AddScanCapability w mutations ref).2 := by
    rw [hexpert]
    refine lookup_rest _ (by decide) ?_
    simp [List.lookup_append,List.lookup_cons,hnone "scan" (by decide)]
  obtain ⟨herror,hallowed⟩ := successReply_allowed hclock
    (by simp [List.lookup_append,List.lookup_cons,List.lookup_nil,
      hnone "transport_error" (by decide)]) hexpert
  obtain ⟨observation,hobserved,hshows⟩ := lockObservation_shows gateway h hobservation
  have hobject : Widgets.object expert = expert := rfl
  have hvalid := expertIsValid_literal hallowed hstate (hliteral mutable) hmutable hreason' hreason
    hscan
  refine ⟨?_,observation,hobserved,hshows⟩
  rw [expertStatus,hlock,herror,hobject,hvalid,hobserved]
  simp [truthy]

/-- The reply for an unknown protocol is shown as well. -/
theorem unsupportedProtocolBody_shown (reason : String) (hreason : IsLiteral reason 160)
    (hclock : (w.bridge.time : Int) ≤ maxSafeInteger) (lock : JsValue)
    (hlock : ((Widgets.object ((Widgets.object lock).get "pci_lock")).get "state").isText
      "unsupported_build".toList = false) :
    let expert := gateway.ofReply (unsupportedProtocolBody w mutations ref reason)
    expertStatus ⟨summaryOf gateway (w.bridge.modems ref),lock,expert⟩ = expert := by
  rw [ofReply_eq (unsupportedProtocolBody_distinct w mutations ref reason)]
  intro expert
  have hbody : unsupportedProtocolBody w mutations ref reason =
      successHead w.bridge.time (w.bridge.modems ref)++
        [("state",.text "unsupported_protocol"),("mutable",.u8 false),("reason",.text reason),
         ("scan",(l850AddScanCapability w mutations ref).2)] := rfl
  have hexpert : expert =
      gateway.renderReply (unsupportedProtocolBody w mutations ref reason) := rfl
  rw [hbody] at hexpert
  have hliteral : IsLiteral "unsupported_protocol" 64 := by decide
  have hstate : expert.get "state" = gateway.render (.text "unsupported_protocol") := by
    rw [hexpert]
    exact lookup_rest _ (by decide) rfl
  have hmutable : expert.get "mutable" = .boolean false := by
    rw [hexpert,lookup_rest (.u8 false) (by decide) rfl,render_u8]
  have hreason' : expert.get "reason" = gateway.render (.text reason) := by
    rw [hexpert]
    exact lookup_rest _ (by decide) rfl
  have hscan : expert.get "scan" = gateway.render (l850AddScanCapability w mutations ref).2 := by
    rw [hexpert]
    exact lookup_rest _ (by decide) rfl
  obtain ⟨herror,hallowed⟩ := successReply_allowed hclock (by rfl) hexpert
  have hobject : Widgets.object expert = expert := rfl
  have hvalid := expertIsValid_literal hallowed hstate hliteral hmutable hreason' hreason hscan
  rw [expertStatus,hlock,herror,hobject,hvalid,hstate,render_text hliteral]
  simp [truthy,isText]

theorem isOptionalNumber_reading {fields : Reply} {name : String} {has : Bool} {reading : Reading}
    (hreading : has = true → ∃ value,reading = .finite value)
    (h : fields.lookup name = if has then some (Reading.double reading) else none) :
    isOptionalNumber ((gateway.renderReply fields).get name) = true := by
  cases hhas : has with
  | false =>
    rw [hhas] at h
    rw [renderReply_get_none h]
    rfl
  | true =>
    obtain ⟨value,rfl⟩ := hreading hhas
    rw [hhas] at h
    rw [renderReply_get_some h,isOptionalNumber,Reading.double,isFiniteNumber_double,Bool.or_true]

def cellFields (cell : L850StandardCell) : Reply :=
  [("type",.u32 cell.type),("serving",.u8 cell.serving),("earfcn",.u32 cell.earfcn),
    ("pci",.u32 cell.pci),("band",.u32 cell.band)]++
    (if cell.hasRsrp then [("rsrp",Reading.double cell.rsrp)] else [])++
    (if cell.hasRsrq then [("rsrq",Reading.double cell.rsrq)] else [])

/-- Every cell of a scan passes the page's check. -/
theorem scanCellEntry_valid (gateway : Gateway) {cell : L850StandardCell} (h : IsCell modem cell) :
    cellResultIsValid (gateway.render (scanCellEntry cell)) = true := by
  have hfields : scanCellEntry cell = .table (cellFields cell) := rfl
  have hband := l850glL850EarfcnToBand_iff.mp h.band
  obtain ⟨hlow,hhigh⟩ := inBand_band_le hband
  have hobject : isObject (gateway.renderReply (cellFields cell)) = true := rfl
  have htype : (gateway.renderReply (cellFields cell)).get "type" = .number cell.type := by
    have hsmall : cell.type < 2^31 := by
      rw [h.type]
      cases cell.serving <;> decide
    rw [@renderReply_get_some _ _ "type" (.u32 cell.type) rfl,render_u32_of_lt hsmall]
  have hserving : (gateway.renderReply (cellFields cell)).get "serving" =
      .boolean cell.serving := by
    rw [@renderReply_get_some _ _ "serving" (.u8 cell.serving) rfl,render_u8]
  have hearfcn : ((gateway.renderReply (cellFields cell)).get "earfcn").isSafeIntegerWith
      (fun earfcn => 0 ≤ earfcn && earfcn ≤ 70545) = true := by
    have hle := inBand_earfcn_le hband
    rw [@renderReply_get_some _ _ "earfcn" (.u32 cell.earfcn) rfl,render_u32_of_lt (by omega)]
    refine isSafeInteger_le hle (by decide) ?_
    simp only [Bool.and_eq_true,decide_eq_true_eq]
    omega
  have hpci : ((gateway.renderReply (cellFields cell)).get "pci").isSafeIntegerWith
      (fun pci => 0 ≤ pci && pci ≤ 503) = true := by
    have hle := h.pci
    rw [@renderReply_get_some _ _ "pci" (.u32 cell.pci) rfl,render_u32_of_lt (by omega)]
    refine isSafeInteger_le hle (by decide) ?_
    simp only [Bool.and_eq_true,decide_eq_true_eq]
    omega
  have hbandValue : ((gateway.renderReply (cellFields cell)).get "band").isSafeIntegerWith
      (fun band => 0 < band && band ≤ 85) = true := by
    rw [@renderReply_get_some _ _ "band" (.u32 cell.band) rfl,render_u32_of_lt (by omega)]
    refine isSafeInteger_le hhigh (by decide) ?_
    simp only [Bool.and_eq_true,decide_eq_true_eq]
    omega
  have hrsrp : isOptionalNumber ((gateway.renderReply (cellFields cell)).get "rsrp") = true := by
    refine isOptionalNumber_reading h.rsrp ?_
    unfold cellFields
    cases cell.hasRsrp
    · cases cell.hasRsrq
      · rfl
      · rfl
    · rfl
  have hrsrq : isOptionalNumber ((gateway.renderReply (cellFields cell)).get "rsrq") = true := by
    refine isOptionalNumber_reading h.rsrq ?_
    unfold cellFields
    cases cell.hasRsrp
    · cases cell.hasRsrq
      · rfl
      · rfl
    · cases cell.hasRsrq
      · rfl
      · rfl
  rw [hfields,render_table,cellResultIsValid,hobject,htype,hserving,hearfcn,hpci,hbandValue,hrsrp,
    hrsrq,h.type]
  cases cell.serving
  · rfl
  · rfl

/-- The lock page shows every scan of cells of the bridge. -/
theorem scanSuccessBody_shown {bridge : Bridge} {cells : List L850StandardCell}
    (hlength : cells.length ≤ l850glL850CellMaxResults)
    (hcells : ∀ cell ∈ cells,IsCell (bridge.modems ref) cell)
    (hclock : (bridge.time : Int) ≤ maxSafeInteger) (vendorFallback : Bool) :
    scanIsShown (gateway.renderReply (scanSuccessBody bridge ref vendorFallback cells))
      (summaryOf gateway (bridge.modems ref)) = true := by
  obtain ⟨result,hresult⟩ : ∃ result,result = gateway.renderReply (successHead bridge.time
      (bridge.modems ref)++[("state",.text "scan_ready"),("source",.text "modemmanager"),
        ("method",.text (if vendorFallback then "l850-xmci" else "standard-cell-info")),
        ("cells",.array (cells.map scanCellEntry))]) := ⟨_,rfl⟩
  have hbody : gateway.renderReply (scanSuccessBody bridge ref vendorFallback cells) = result :=
    hresult.symm
  have hstate : result.get "state" = .string "scan_ready".toList := by
    rw [hresult,lookup_rest (.text "scan_ready") (by decide) rfl,
      render_text (by decide : IsLiteral "scan_ready" 64)]
  have hsource : result.get "source" = .string "modemmanager".toList := by
    rw [hresult,lookup_rest (.text "modemmanager") (by decide) rfl,
      render_text (by decide : IsLiteral "modemmanager" 64)]
  have hvalues : result.get "cells" = .array ((cells.map scanCellEntry).map gateway.render) := by
    rw [hresult,lookup_rest (.array (cells.map scanCellEntry)) (by decide) rfl,render_array]
  obtain ⟨herror,hallowed⟩ := successReply_allowed hclock (by rfl) hresult
  have hallowed' : mutationAllowed result result (summaryOf gateway (bridge.modems ref)).modemId
      (summaryOf gateway (bridge.modems ref)).generation = true := by
    simpa only [summaryOf] using hallowed
  have hvalidated : validateExpertResult result (summaryOf gateway (bridge.modems ref)) false =
      none := by
    rw [validateExpertResult,herror,hallowed',hstate]
    rfl
  have hall : ((cells.map scanCellEntry).map gateway.render).all cellResultIsValid = true := by
    rw [List.all_eq_true]
    intro value hvalue
    obtain ⟨entry,hentry,rfl⟩ := List.mem_map.mp hvalue
    obtain ⟨cell,hcell,rfl⟩ := List.mem_map.mp hentry
    exact scanCellEntry_valid gateway (hcells cell hcell)
  have hmax : l850glL850CellMaxResults = 64 := rfl
  rw [hbody,scanIsShown,hvalidated,hstate,hsource,hvalues]
  simp only [truthy,isText,JsValue.isArray,items,hall,List.length_map,beq_self_eq_true,
    Bool.and_true,Bool.true_and,Bool.not_false,decide_eq_true_eq]
  omega

/-- Every lock status and every scan of the bridge is shown by the lock page. -/
theorem expertReads_shown (gateway : Gateway) (w : World) (mutations : List CString)
    (ref : ModemRef) (hclock : (w.bridge.time : Int) ≤ maxSafeInteger) :
    (∀ response state,l850glL850NvmParse response = .ok state → ∀ lock : JsValue,
      ((Widgets.object ((Widgets.object lock).get "pci_lock")).get "state").isText
        "unsupported_build".toList = false →
      let expert := gateway.ofReply (lockStatusBody w mutations ref state)
      expertStatus ⟨summaryOf gateway (w.bridge.modems ref),lock,expert⟩ = expert ∧
        ∃ observation,lockObservation expert = some observation ∧ Shows observation state) ∧
    ∀ vendorFallback cells,
      (∃ items,l850NormalizeStandardCells (w.bridge.modems ref) items = some cells) ∨
        (∃ response scan,l850glL850CellParse response = .ok scan ∧
          l850NormalizeVendorCells (w.bridge.modems ref) scan = some cells) →
      scanIsShown (gateway.ofReply (scanSuccessBody w.bridge ref vendorFallback cells))
        (summaryOf gateway (w.bridge.modems ref)) = true := by
  constructor
  · intro response state hparse lock hlock
    rw [ofReply_eq (lockStatusBody_distinct w mutations ref state)]
    exact lockStatusBody_shown (l850glL850NvmParse_observable hparse) hclock lock hlock
  · intro vendorFallback cells hcells
    have hscan : cells.length ≤ l850glL850CellMaxResults ∧
        ∀ cell ∈ cells,IsCell (w.bridge.modems ref) cell := by
      rcases hcells with ⟨items,hitems⟩ | ⟨response,scan,hparse,hnormalized⟩
      · exact l850NormalizeStandardCells_isCell hitems
      · exact l850NormalizeVendorCells_isCell hparse hnormalized
    rw [ofReply_eq (scanSuccessBody_distinct w.bridge ref vendorFallback cells)]
    exact scanSuccessBody_shown hscan.1 hscan.2 hclock vendorFallback

def sampleReads : World where
  slots := fun _ => Slot.empty
  next := 0
  operations := fun _ => []
  records := ⟨fun _ => 0,fun _ => 0,fun _ => sampleCache⟩
  ubus := sampleUbus
  bridge := sampleBridge false
  trace := []

theorem expertReads_shown_sample : ∃ observation,
    lockObservation (sampleGateway.ofReply
      (lockStatusBody sampleReads [] 0 ⟨true,true,1850,12,3⟩)) = some observation ∧
    Shows observation ⟨true,true,1850,12,3⟩ := by
  have hparse : l850glL850NvmParse Mutation.sampleNvm = .ok ⟨true,true,1850,12,3⟩ := by
    decide +kernel
  have h := (expertReads_shown sampleGateway sampleReads [] 0 (by decide)).1 Mutation.sampleNvm _
    hparse .undefined (by decide)
  exact h.2

end Lock
end Frontend
end L850GL
