import L850GL.Advanced.Operation
import L850GL.Lib.Trace
import L850GL.Mutation.WriteSafety
import L850GL.Sms.Effects

/-! How a command ends that ModemManager may have executed although its call failed. -/
namespace L850GL
namespace UnknownOutcome

open Errors Mutation MutationPolicy

variable {mmCheckVersion124 : Bool} {error : GError}

/-- The time-outs of ModemManager; libmm-glib registers the one of the core from 1.24 on. -/
def modemManagerTimeouts (mmCheckVersion124 : Bool) : List ErrorCode :=
  .mobileEquipment .networkTimeout::if mmCheckVersion124 then [.mmCore .timeout] else []

def timeoutSuffixes : List String := [".Core.Timeout",".MobileEquipment.NetworkTimeout"]

def transportErrors : List ErrorCode :=
  [.io .timedOut,.io .cancelled,.io .closed,.io .brokenPipe,.dbus .noReply,.dbus .timeout]

def HasSuffix (error : GError) (suffixes : List String) : Prop :=
  ∃ suffix ∈ suffixes, remoteErrorHasSuffix error.remote suffix = true

/-- An error after which the command may have been executed. -/
def Ambiguous (mmCheckVersion124 : Bool) (error : GError) : Prop :=
  error.code ∈ transportErrors ∨ error.code ∈ modemManagerTimeouts mmCheckVersion124 ∨
    HasSuffix error timeoutSuffixes

/-- A time-out of ModemManager that its registered code shows and its remote name does not. -/
def CodeOnly (mmCheckVersion124 : Bool) (error : GError) : Prop :=
  error.code ∈ modemManagerTimeouts mmCheckVersion124 ∧ ¬HasSuffix error timeoutSuffixes

theorem gErrorMatches_some (code : ErrorCode) :
    gErrorMatches (some error) code = true ↔ error.code = code := by
  simp [gErrorMatches]

theorem mem_modemManagerTimeouts {code : ErrorCode} :
    code ∈ modemManagerTimeouts mmCheckVersion124 ↔ code = .mobileEquipment .networkTimeout ∨
      mmCheckVersion124 = true ∧ code = .mmCore .timeout := by
  cases mmCheckVersion124 <;> simp [modemManagerTimeouts]

theorem smsErrorIsTimeoutOrTransport_ambiguous (h : Ambiguous mmCheckVersion124 error) :
    smsErrorIsTimeoutOrTransport mmCheckVersion124 (some error) error.remote = true := by
  simp only [smsErrorIsTimeoutOrTransport,Option.isSome_some,Bool.true_and,Bool.or_eq_true,
    gErrorMatches_some]
  rcases h with h | h | ⟨suffix,hmem,h⟩
  · simp only [transportErrors,List.mem_cons,List.not_mem_nil,or_false] at h
    rcases h with h | h | h | h | h | h <;> simp only [h,true_or,or_true]
  · rcases mem_modemManagerTimeouts.mp h with h₁ | ⟨rfl,h₁⟩
    · simp only [h₁,true_or,or_true]
    · simp only [mmCoreErrorIsTimeout,Bool.true_and,gErrorMatches_some,h₁,true_or,or_true]
  · simp only [timeoutSuffixes,List.mem_cons,List.not_mem_nil,or_false] at hmem
    rcases hmem with rfl | rfl <;> simp only [h,true_or,or_true]

theorem advancedErrorHasUnknownOutcome_iff :
    advancedErrorHasUnknownOutcome (some error) error.remote = true ↔
      error.code ∈ transportErrors ∨ HasSuffix error timeoutSuffixes := by
  simp only [advancedErrorHasUnknownOutcome,Option.isSome_some,Bool.true_and,Bool.or_eq_true,
    gErrorMatches_some,HasSuffix,timeoutSuffixes,transportErrors,List.mem_cons,List.not_mem_nil,
    or_false,exists_eq_or_imp,exists_eq_left,or_assoc]

theorem not_transport_of_timeout (h : error.code ∈ modemManagerTimeouts mmCheckVersion124) :
    error.code ∉ transportErrors := by
  rcases mem_modemManagerTimeouts.mp h with h₁ | ⟨-,h₁⟩
  · simp [h₁,transportErrors]
  · simp [h₁,transportErrors]

theorem advancedErrorHasUnknownOutcome_ambiguous (h : Ambiguous mmCheckVersion124 error) :
    advancedErrorHasUnknownOutcome (some error) error.remote = true ↔
      ¬CodeOnly mmCheckVersion124 error := by
  rw [advancedErrorHasUnknownOutcome_iff,CodeOnly]
  constructor
  · rintro h₁ ⟨htimeout,hsuffix⟩
    exact h₁.elim (not_transport_of_timeout htimeout) hsuffix
  · intro hcode
    by_cases hsuffix : HasSuffix error timeoutSuffixes
    · exact .inr hsuffix
    · rcases h with h | h | h
      · exact .inl h
      · exact absurd ⟨h,hsuffix⟩ hcode
      · exact .inr h

/-- The error or a flag makes a lock operation uncertain. -/
theorem l850MutationErrorIsUncertain_ambiguous {op : L850MutationOperation}
    (h : Ambiguous mmCheckVersion124 error) :
    l850MutationErrorIsUncertain op (some error) = true ↔
      op.timedOut = true ∨ op.transportLost = true ∨ ¬CodeOnly mmCheckVersion124 error ∨
        HasSuffix error [".Core.Cancelled"] := by
  have h₁ := advancedErrorHasUnknownOutcome_ambiguous h
  simp only [l850MutationErrorIsUncertain,Bool.or_eq_true,or_assoc,gDbusErrorGetRemoteError,
    Option.bind_some,h₁,HasSuffix,List.mem_singleton,exists_eq_left]

theorem smsOperationCompleteError_emitted {w : Sms.World} {op : Sms.OperationRef}
    {operation : Sms.SmsOperation} (ho : w.operations op = some operation) (code : String)
    (retryable : Bool) : Emitted w.trace (.failed op code retryable)
      (Sms.smsOperationCompleteError w op code retryable).trace := by
  have h₁ : ∀ v : Sms.World, v.operations op = some operation →
      Emitted w.trace (.failed op code retryable) v.trace →
      Emitted w.trace (.failed op code retryable) (Sms.smsOperationCompleteBuffer v op).trace := by
    intro v hv hemitted
    obtain ⟨-,-,later,hlater,-⟩ := Sms.smsOperationCompleteBuffer_spec hv
    rw [hlater]
    exact hemitted.append later
  have h₂ : Emitted w.trace (.failed op code retryable)
      (w.observe (.failed op code retryable)).trace := ⟨[],rfl⟩
  simp only [Sms.smsOperationCompleteError,Sms.World.withOperation,ho]
  split
  · exact h₁ _ ho h₂
  · split
    · refine h₁ _ ?_ ?_ <;> simp only [Sms.smsDedupeStore] <;> split
      · exact ho
      · exact ho
      · exact h₂
      · exact h₂.append (_::_)
    · refine h₁ _ ?_ ?_ <;> simp only [Sms.smsDedupeRemove] <;> split
      · exact ho
      · exact ho
      · exact h₂
      · exact h₂

theorem l850MutationCompleteFailure_emitted (s : State) (state code : String)
    (retryable : Bool) : Emitted s.trace (.failed state code retryable)
      (l850MutationCompleteFailure s state code retryable).trace := by
  rw [l850MutationCompleteFailure,completeBuffer_trace]
  exact ⟨_::_,rfl⟩

theorem advancedOperationCompleteBuffer_emitted {w : Advanced.World}
    {ref : Advanced.OperationRef} {op : Advanced.AdvancedOperation}
    (hop : (w.slots ref).memory = some op) (body : Reply) :
    Emitted (w.slots ref).history (.completed body)
      ((Advanced.advancedOperationCompleteBuffer w ref body).slots ref).history := by
  simp only [Advanced.advancedOperationCompleteBuffer,Advanced.World.withOperation,hop,
    Advanced.advancedOperationFree,Advanced.World.updateSlot_self]
  split
  · exact ⟨[.released,.answered w.ubus.connection],by simp⟩
  · exact ⟨[.released],by simp⟩

/-- A dispatched command whose call is about to finish; `source` is the object of the call. -/
inductive Completion
  | smsSend (w : Sms.World) (op : Sms.OperationRef) (operation : Sms.SmsOperation)
  | setCurrentBands (w : Advanced.World) (ref : Advanced.OperationRef)
      (operation : Advanced.AdvancedOperation) (source : Nat)
  | tupleWrite (s : State) (source : Nat)
  | reset (s : State)

namespace Completion

def Dispatched : Completion → Prop
  | smsSend w op operation => w.operations op = some operation ∧ operation.type = .send ∧
      operation.sendDispatched = true
  | setCurrentBands w ref operation _ => (w.slots ref).memory = some operation ∧
      operation.type = .bands ∧ operation.dispatched = true
  | tupleWrite s _ => s.operation.setDispatched = true
  | reset s => s.operation.resetDispatched = true

/-- The local time-out or the loss of ubus was noted. -/
def Flagged : Completion → Prop
  | smsSend _ _ operation => operation.timedOut = true ∨ operation.transportLost = true
  | setCurrentBands _ _ operation _ =>
    operation.timedOut = true ∨ operation.transportLost = true
  | tupleWrite s _ => s.operation.timedOut = true ∨ s.operation.transportLost = true
  | reset s => s.operation.timedOut = true ∨ s.operation.transportLost = true

def bridge : Completion → Bridge
  | smsSend w _ _ => w.bridge
  | setCurrentBands w _ _ _ => w.bridge
  | tupleWrite s _ => s.bridge
  | reset s => s.bridge

/-- The call finishes with `error` and the operation ends with an unknown outcome that is not
retryable; a reset without a flag goes on to the reprobe. -/
def EndsUnknown (c : Completion) (error : GError) : Prop :=
  match c with
  | smsSend w op _ => Emitted w.trace (.failed op "outcome_unknown" false)
      (Sms.smsSendReady w op false (some error)).trace
  | setCurrentBands w ref _ source => Emitted (w.slots ref).history
      (.completed (addCommon w.bridge.time false++
        [errorTable "outcome_unknown" (advancedErrorMessage "outcome_unknown") false]))
      ((Advanced.advancedOperationReady w ref source (some error)).slots ref).history
  | tupleWrite s source => Emitted s.trace (.failed "outcome_unknown" "outcome_unknown" false)
      (l850MutationSetReady s source ⟨none,some error⟩).trace
  | reset s =>
    let s' := l850MutationResetReady s ⟨none,some error⟩
    (s.operation.timedOut = true ∨ s.operation.transportLost = true →
        Emitted s.trace (.failed "outcome_unknown" "outcome_unknown" false) s'.trace) ∧
      (¬(s.operation.timedOut = true ∨ s.operation.transportLost = true) →
        s'.operation.phase = .reprobe ∧ s'.released = s.released ∧ s'.trace = s.trace)

/-- The remote names for which `l850_normalize_error` reports a definite failure although the
code is `MobileEquipment.NetworkTimeout`. -/
def definiteSuffixes : List String :=
  [".Core.Unauthorized",".Core.Unsupported",".MobileEquipment.NotSupported",".Core.InProgress",
    ".Core.Throttled",".Core.WrongState",".Core.Retry"]

/-- Only the registered code shows the time-out, and nothing else stops the operation. -/
def Missed (c : Completion) (error : GError) : Prop :=
  ¬c.Flagged ∧ CodeOnly c.bridge.mmCheckVersion124 error ∧ match c with
    | smsSend _ _ _ => False
    | setCurrentBands w ref operation _ => (w.slots ref).cancelled = false ∧
        (w.bridge.modems operation.modem).live = true
    | tupleWrite s source => ¬HasSuffix error [".Core.Cancelled"] ∧
        (s.modem s.operation.original).live = true ∧
        source = (s.modem s.operation.original).modem ∧
        (s.modem s.operation.original).generation = s.operation.originalGeneration
    | reset _ => ¬HasSuffix error [".Core.Cancelled"] ∧
        (error.code = .mmCore .timeout ∨ HasSuffix error definiteSuffixes)

theorem normalizeAdvancedErrorRows_code (error : Option GError) :
    (normalizeAdvancedErrorRows mmCheckVersion124 error).code ≠ "outcome_unknown" := by
  simp only [normalizeAdvancedErrorRows]
  split_ifs <;> simp

theorem l850NormalizeError_code (error : Option GError) (timedOut transportLost : Bool) :
    (l850NormalizeError mmCheckVersion124 error timedOut transportLost).code ≠
      "outcome_unknown" := by
  simp only [l850NormalizeError]
  split_ifs <;> simp

theorem l850NormalizeError_unavailable (h : CodeOnly mmCheckVersion124 error) :
    (l850NormalizeError mmCheckVersion124 (some error) false false).code = "unavailable" ↔
      ¬(error.code = .mmCore .timeout ∨ HasSuffix error definiteSuffixes) := by
  obtain ⟨hcode,hsuffix⟩ := h
  simp only [HasSuffix,timeoutSuffixes,List.mem_cons,List.not_mem_nil,or_false,
    exists_eq_or_imp,exists_eq_left,not_or,Bool.not_eq_true] at hsuffix
  rcases mem_modemManagerTimeouts.mp hcode with h₁ | ⟨rfl,h₁⟩
  · have hmatch : gErrorMatches (some error) =
        fun code => (ErrorCode.mobileEquipment .networkTimeout == code) := by
      funext code
      simp [gErrorMatches,h₁]
    simp [l850NormalizeError,matchesRow,mmCoreErrorIsTimeout,mmCoreErrorIsThrottled,hmatch,
      gDbusErrorGetRemoteError,HasSuffix,definiteSuffixes,hsuffix,h₁]
    split_ifs <;> grind
  · simp [l850NormalizeError,mmCoreErrorIsTimeout,gErrorMatches_some,h₁]

theorem smsSend_unknown {w : Sms.World} {op : Sms.OperationRef} {operation : Sms.SmsOperation}
    (h : (smsSend w op operation).Dispatched) (ha : (smsSend w op operation).Flagged ∨
      Ambiguous w.bridge.mmCheckVersion124 error) :
    (smsSend w op operation).EndsUnknown error := by
  obtain ⟨ho,htype,hsent⟩ := h
  have h₁ : Sms.normalizeSmsError w operation (some error) = ⟨"outcome_unknown",false⟩ := by
    simp only [Sms.normalizeSmsError]
    apply if_pos
    refine ⟨htype,hsent,?_⟩
    rcases ha with (ha | ha) | ha
    · exact .inl ha
    · exact .inr (.inl ha)
    · exact .inr (.inr (smsErrorIsTimeoutOrTransport_ambiguous ha))
  have h₂ := smsOperationCompleteError_emitted ho "outcome_unknown" false
  simpa [EndsUnknown,Sms.smsSendReady,Sms.World.withOperation,ho,
    Sms.smsOperationCompleteNormalizedError,h₁] using h₂

theorem errorBody_inj {time : Nat} {code code' : String} {retryable retryable' : Bool}
    (h : addCommon time false++[errorTable code (advancedErrorMessage code) retryable] =
      addCommon time false++[errorTable code' (advancedErrorMessage code') retryable']) :
    code = code' := by
  have h₁ : Blob.text code = Blob.text code' := by
    simp only [List.append_cancel_left_eq,errorTable] at h
    simp_all
  injection h₁ with h₂
  exact String.toList_inj.mp h₂

theorem advancedOperationVerdict_known (mmCheckVersion124 : Bool) (source : Nat) {modem : Modem}
    {operation : Advanced.AdvancedOperation}
    (h : Advanced.advancedOperationOutcomeIsUnknown modem operation (some error) = false) :
    ∃ verdict, Advanced.advancedOperationVerdict mmCheckVersion124 modem operation source
      (some error) = some verdict ∧ verdict.code ≠ "outcome_unknown" := by
  simp only [Advanced.advancedOperationVerdict,h,Bool.false_eq_true,if_false]
  split
  · rename_i stale hstale
    refine ⟨_,rfl,?_⟩
    simp only [Advanced.advancedOperationStaleCode] at hstale
    split_ifs at hstale <;> cases hstale <;> decide
  · refine ⟨_,rfl,?_⟩
    simp only [Advanced.normalizeAdvancedError,h,Bool.false_eq_true,if_false]
    exact normalizeAdvancedErrorRows_code _

theorem advancedOperationReady_emitted {w : Advanced.World} {ref : Advanced.OperationRef}
    {operation : Advanced.AdvancedOperation} {source : Nat} {error' : GError}
    {verdict : NormalizedError} (hop : (w.slots ref).memory = some operation)
    (herror : (if (w.slots ref).cancelled then gIoErrorCancelled else error) = error')
    (hverdict : Advanced.advancedOperationVerdict w.bridge.mmCheckVersion124
      (w.bridge.modems operation.modem) operation source (some error') = some verdict) :
    Emitted (w.slots ref).history (.completed (addCommon w.bridge.time false++
        [errorTable verdict.code (advancedErrorMessage verdict.code) verdict.retryable]))
      ((Advanced.advancedOperationReady w ref source (some error)).slots ref).history := by
  let v := w.updateSlot ref fun slot => {slot with call := false}
  have hmemory : (v.slots ref).memory = some operation := by simp [v,hop]
  have herror' : (if (w.slots ref).cancelled then some gIoErrorCancelled else some error) =
      some error' := by
    rw [← herror]
    split <;> rfl
  have h₁ := advancedOperationCompleteBuffer_emitted hmemory (addCommon w.bridge.time false++
    [errorTable verdict.code (advancedErrorMessage verdict.code) verdict.retryable])
  have h₂ : Advanced.advancedOperationReady w ref source (some error) =
      Advanced.advancedOperationCompleteError v ref verdict.code verdict.retryable := by
    simp only [Advanced.advancedOperationReady,herror']
    rw [Advanced.World.withOperation_some v ref _ hmemory]
    simp only [Advanced.World.updateSlot_bridge,v,hverdict]
  rw [h₂]
  simpa [v,Advanced.advancedOperationCompleteError] using h₁

theorem setCurrentBands_unknown {w : Advanced.World} {ref : Advanced.OperationRef}
    {operation : Advanced.AdvancedOperation} {source : Nat}
    (h : (setCurrentBands w ref operation source).Dispatched)
    (ha : (setCurrentBands w ref operation source).Flagged ∨
      Ambiguous w.bridge.mmCheckVersion124 error) :
    (setCurrentBands w ref operation source).EndsUnknown error ↔
      ¬(setCurrentBands w ref operation source).Missed error := by
  obtain ⟨hop,-,hsent⟩ := h
  have hunknown : ∀ error' : GError,
      (if (w.slots ref).cancelled then gIoErrorCancelled else error) = error' →
      Advanced.advancedOperationOutcomeIsUnknown (w.bridge.modems operation.modem) operation
        (some error') = true → (setCurrentBands w ref operation source).EndsUnknown error := by
    intro error' herror hu
    have hverdict : Advanced.advancedOperationVerdict w.bridge.mmCheckVersion124
        (w.bridge.modems operation.modem) operation source (some error') =
          some ⟨"outcome_unknown",false⟩ := if_pos hu
    have h₁ := advancedOperationReady_emitted hop herror hverdict
    exact h₁
  cases hcancelled : (w.slots ref).cancelled with
  | true =>
    have h₁ := hunknown gIoErrorCancelled (by simp [hcancelled]) (by
      simp [Advanced.advancedOperationOutcomeIsUnknown,hsent,advancedErrorHasUnknownOutcome,
        gErrorMatches,gIoErrorCancelled])
    simp [h₁,Missed,hcancelled]
  | false =>
    have herror : (if (w.slots ref).cancelled then gIoErrorCancelled else error) = error := by
      simp [hcancelled]
    cases hu : Advanced.advancedOperationOutcomeIsUnknown (w.bridge.modems operation.modem)
        operation (some error) with
    | true =>
      refine ⟨fun _ hmissed => ?_,fun _ => hunknown error herror hu⟩
      obtain ⟨hflags,hcode,-,hlive⟩ := hmissed
      have h₁ := (not_congr (advancedErrorHasUnknownOutcome_ambiguous (.inr (.inl hcode.1)))).mpr
        (not_not.mpr hcode)
      simp only [Flagged,not_or,Bool.not_eq_true] at hflags
      simp_all [Advanced.advancedOperationOutcomeIsUnknown,gDbusErrorGetRemoteError]
    | false =>
      simp only [Advanced.advancedOperationOutcomeIsUnknown,hsent,Bool.true_and,
        Bool.or_eq_false_iff,Bool.not_eq_false',gDbusErrorGetRemoteError,
        Option.bind_some] at hu
      obtain ⟨⟨⟨htimed,hlost⟩,hlive⟩,hclass⟩ := hu
      have hflags : ¬(setCurrentBands w ref operation source).Flagged := by
        simp [Flagged,htimed,hlost]
      have hcode : CodeOnly w.bridge.mmCheckVersion124 error := by
        by_contra hcode
        have h₁ := (advancedErrorHasUnknownOutcome_ambiguous (ha.resolve_left hflags)).mpr hcode
        rw [hclass] at h₁
        cases h₁
      have hknown : Advanced.advancedOperationOutcomeIsUnknown
          (w.bridge.modems operation.modem) operation (some error) = false := by
        simp [Advanced.advancedOperationOutcomeIsUnknown,hsent,htimed,hlost,hlive,hclass,
          gDbusErrorGetRemoteError]
      obtain ⟨verdict,hverdict,hne⟩ := advancedOperationVerdict_known
        w.bridge.mmCheckVersion124 source hknown
      have h₁ := advancedOperationReady_emitted hop herror hverdict
      refine ⟨fun hends => ?_,fun hmissed => absurd ⟨hflags,hcode,hcancelled,hlive⟩ hmissed⟩
      have h₂ := Advanced.Observation.completed.inj (h₁.unique hends)
      exact absurd (errorBody_inj h₂) hne

theorem tupleWrite_unknown {s : State} {source : Nat}
    (ha : (tupleWrite s source).Flagged ∨ Ambiguous s.bridge.mmCheckVersion124 error) :
    (tupleWrite s source).EndsUnknown error ↔ ¬(tupleWrite s source).Missed error := by
  let answered := {s with operation := {s.operation with commandPending := false}}
  let original := s.modem s.operation.original
  let normalized := l850NormalizeError s.bridge.mmCheckVersion124 (some error) false false
  by_cases hu : l850MutationErrorIsUncertain answered.operation (some error) = true ∨
      ¬original.live ∨ source ≠ original.modem ∨
        original.generation ≠ s.operation.originalGeneration
  · have h₁ : l850MutationSetReady s source ⟨none,some error⟩ =
        l850MutationCompleteFailure answered "outcome_unknown" "outcome_unknown" false :=
      if_pos hu
    refine ⟨fun _ hmissed => ?_,fun _ => ?_⟩
    · obtain ⟨hflags,hcode,hcancelled,hlive,hsource,hgeneration⟩ := hmissed
      rcases hu with hu | hu | hu | hu
      · rw [l850MutationErrorIsUncertain_ambiguous (.inr (.inl hcode.1))] at hu
        rcases hu with hu | hu | hu | hu
        · exact hflags (.inl hu)
        · exact hflags (.inr hu)
        · exact hu hcode
        · exact hcancelled hu
      · exact hu hlive
      · exact hu hsource
      · exact hu hgeneration
    · simp only [EndsUnknown,h₁]
      exact l850MutationCompleteFailure_emitted answered _ _ _
  · have h₁ : l850MutationSetReady s source ⟨none,some error⟩ =
        l850MutationCompleteFailure answered normalized.code
          (if normalized.code = "unavailable" then "operation_failed" else normalized.code)
          normalized.retryable := if_neg hu
    simp only [not_or,not_not] at hu
    obtain ⟨hcertain,hlive,hsource,hgeneration⟩ := hu
    have hflags : ¬(tupleWrite s source).Flagged := by
      simp only [l850MutationErrorIsUncertain,Bool.or_eq_true,not_or,answered] at hcertain
      exact not_or.mpr ⟨hcertain.1.1.1,hcertain.1.1.2⟩
    have hambiguous := ha.resolve_left hflags
    rw [l850MutationErrorIsUncertain_ambiguous hambiguous] at hcertain
    simp only [not_or,not_not] at hcertain
    refine ⟨fun hends => ?_,fun hmissed => absurd ⟨hflags,hcertain.2.2.1,hcertain.2.2.2,hlive,
      hsource,hgeneration⟩ hmissed⟩
    simp only [EndsUnknown,h₁] at hends
    have h₂ := (l850MutationCompleteFailure_emitted answered _ _ _).unique hends
    have h₃ := (Observation.failed.inj h₂).1
    exact absurd h₃ (l850NormalizeError_code _ _ _)

theorem resetFinish_reprobe {s : State} :
    l850glResetFinishShouldReprobe (resetFinish s (some error)) = true ↔
      l850MutationErrorIsUncertain s.operation (some error) = true ∨
        (l850NormalizeError s.bridge.mmCheckVersion124 (some error) false false).code =
          "unavailable" := by
  simp only [resetFinish,Option.isNone_some,Bool.false_eq_true,if_false]
  split_ifs with hu hn
  · simp [l850glResetFinishShouldReprobe,hu]
  · simp [l850glResetFinishShouldReprobe,hn]
  · simp [l850glResetFinishShouldReprobe,hu,hn]

theorem reset_unknown {s : State}
    (ha : (reset s).Flagged ∨ Ambiguous s.bridge.mmCheckVersion124 error) :
    (reset s).EndsUnknown error ↔ ¬(reset s).Missed error := by
  let answered := {s with operation := {s.operation with commandPending := false}}
  have hunfold : l850MutationResetReady s ⟨none,some error⟩ =
      if s.operation.timedOut = true ∨ s.operation.transportLost = true then
        l850MutationCompleteFailure answered "outcome_unknown" "outcome_unknown" false
      else if ¬l850glResetFinishShouldReprobe (resetFinish answered (some error)) then
        l850MutationCompleteFailure answered "lock_applied_reset_required"
          (l850NormalizeError s.bridge.mmCheckVersion124 (some error) false false).code false
      else l850MutationStartReprobe answered := rfl
  by_cases hflags : s.operation.timedOut = true ∨ s.operation.transportLost = true
  · rw [if_pos hflags] at hunfold
    refine ⟨fun _ hmissed => hmissed.1 hflags,fun _ => ⟨fun _ => ?_,fun h => absurd hflags h⟩⟩
    rw [hunfold]
    exact l850MutationCompleteFailure_emitted answered _ _ _
  · rw [if_neg hflags] at hunfold
    have hambiguous := ha.resolve_left hflags
    have hreprobe : l850glResetFinishShouldReprobe (resetFinish answered (some error)) = true ↔
        ¬(reset s).Missed error := by
      rw [resetFinish_reprobe,l850MutationErrorIsUncertain_ambiguous hambiguous]
      by_cases hcode : CodeOnly s.bridge.mmCheckVersion124 error
      · rw [l850NormalizeError_unavailable hcode]
        simp only [not_or] at hflags
        simp only [Missed,Flagged,bridge,hcode,answered,hflags]
        tauto
      · simp [Missed,bridge,hcode]
    rw [← hreprobe]
    constructor
    · intro hends
      by_contra hdefinite
      rw [if_pos hdefinite] at hunfold
      obtain ⟨later,hlater⟩ := l850MutationCompleteFailure_emitted answered
        "lock_applied_reset_required"
        (l850NormalizeError s.bridge.mmCheckVersion124 (some error) false false).code false
      have h₁ := (hends.2 hflags).2.2
      rw [hunfold,hlater] at h₁
      have h₂ := congrArg List.length h₁
      simp [answered] at h₂
      omega
    · intro h
      rw [if_neg (not_not.mpr h)] at hunfold
      refine ⟨fun h₁ => absurd h₁ hflags,fun _ => ?_⟩
      rw [hunfold]
      exact ⟨rfl,rfl,rfl⟩

end Completion

open Completion

/-- The SMS classifier knows every ambiguous error, the other two all but those that only a
registered code shows; a dispatched command ends accordingly. -/
theorem ambiguousOutcome_unknown (c : Completion) (error : GError) (op : L850MutationOperation)
    (h : c.Dispatched) (ha : c.Flagged ∨ Ambiguous c.bridge.mmCheckVersion124 error) :
    (Ambiguous c.bridge.mmCheckVersion124 error →
      smsErrorIsTimeoutOrTransport c.bridge.mmCheckVersion124 (some error) error.remote = true ∧
      (advancedErrorHasUnknownOutcome (some error) error.remote = true ↔
        ¬CodeOnly c.bridge.mmCheckVersion124 error) ∧
      (l850MutationErrorIsUncertain op (some error) = true ↔
        op.timedOut = true ∨ op.transportLost = true ∨
          ¬CodeOnly c.bridge.mmCheckVersion124 error ∨ HasSuffix error [".Core.Cancelled"])) ∧
    (c.EndsUnknown error ↔ ¬c.Missed error) := by
  constructor
  · intro hambiguous
    exact ⟨smsErrorIsTimeoutOrTransport_ambiguous hambiguous,
      advancedErrorHasUnknownOutcome_ambiguous hambiguous,
      l850MutationErrorIsUncertain_ambiguous hambiguous⟩
  · cases c with
    | smsSend w op operation =>
      exact iff_of_true (smsSend_unknown h ha) fun hmissed => hmissed.2.2
    | setCurrentBands w ref operation source => exact setCurrentBands_unknown h ha
    | tupleWrite s source => exact tupleWrite_unknown ha
    | reset s => exact reset_unknown ha

/-- How the operation failed. -/
def failures (s : State) : List (String × String × Bool) :=
  s.trace.filterMap fun
    | .failed state code retryable => some (state,code,retryable)
    | _ => none

def sampleNoReply : GError := ⟨.dbus .noReply,none⟩

def sampleCoreTimeout : GError := ⟨.mmCore .timeout,none⟩

/-- The probe was answered and the tuple is on its way. -/
theorem sampleTuple_dispatched : (sampleRun (sampleEvents.take 1)).map (fun s =>
    (s.operation.setDispatched && !s.operation.timedOut && !s.operation.transportLost &&
      s.bridge.mmCheckVersion124 && (s.modem s.operation.original).live &&
      (s.modem s.operation.original).modem == 10 &&
      (s.modem s.operation.original).generation == s.operation.originalGeneration,
      failures (l850MutationSetReady s 10 ⟨none,some sampleCoreTimeout⟩))) =
    some (true,[("timeout","timeout",true)]) := by
  decide +kernel

theorem ambiguousOutcome_unknown_sample : ∃ s, sampleRun (sampleEvents.take 1) = some s ∧
    (tupleWrite s 10).EndsUnknown sampleNoReply := by
  obtain ⟨s,hs,hall⟩ := Option.map_eq_some_iff.mp sampleTuple_dispatched
  simp only [Prod.mk.injEq,Bool.and_eq_true] at hall
  have hcode : ∀ version, sampleNoReply.code ∉ modemManagerTimeouts version := by decide
  exact ⟨s,hs,(ambiguousOutcome_unknown (tupleWrite s 10) sampleNoReply s.operation
    hall.1.1.1.1.1.1.1 (.inr (.inl (by decide)))).2.mpr fun hmissed => hcode _ hmissed.2.1.1⟩

/-- A time-out of the core without a remote name makes the tuple write retryable. -/
theorem tupleWrite_retryable : ∃ s, sampleRun (sampleEvents.take 1) = some s ∧
    (tupleWrite s 10).Dispatched ∧ Ambiguous s.bridge.mmCheckVersion124 sampleCoreTimeout ∧
    ¬(tupleWrite s 10).EndsUnknown sampleCoreTimeout ∧
    failures (l850MutationSetReady s 10 ⟨none,some sampleCoreTimeout⟩) =
      [("timeout","timeout",true)] := by
  obtain ⟨s,hs,hall⟩ := Option.map_eq_some_iff.mp sampleTuple_dispatched
  simp only [Prod.mk.injEq,Bool.and_eq_true,Bool.not_eq_true',beq_iff_eq] at hall
  obtain ⟨⟨⟨⟨⟨⟨⟨hsent,htimed⟩,hlost⟩,hversion⟩,hlive⟩,hsource⟩,hgeneration⟩,hfailed⟩ := hall
  have hsuffix : ∀ suffixes, ¬HasSuffix sampleCoreTimeout suffixes := by
    rintro suffixes ⟨suffix,-,h⟩
    cases h
  have hcode : CodeOnly s.bridge.mmCheckVersion124 sampleCoreTimeout := by
    rw [hversion]
    exact ⟨by decide,hsuffix _⟩
  have hambiguous : Ambiguous s.bridge.mmCheckVersion124 sampleCoreTimeout := .inr (.inl hcode.1)
  refine ⟨s,hs,hsent,hambiguous,fun hends => ?_,hfailed⟩
  refine (tupleWrite_unknown (.inr hambiguous)).mp hends ⟨?_,hcode,hsuffix _,hlive,hsource.symm,
    hgeneration⟩
  simp [Completion.Flagged,htimed,hlost]

end UnknownOutcome
end L850GL
