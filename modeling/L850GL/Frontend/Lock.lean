import L850GL.Frontend.ReplyNames
import L850GL.Frontend.Widgets
import L850GL.Mutation.VerifiedSuccess

/-! The lock page's check of an expert reply, and the verified replies of the bridge under it. -/
namespace L850GL
namespace Frontend
namespace Lock

open Gateway JsValue Widgets Identity Mutation Cell

structure Context where
  modemId : CString
  generation : Int

/-- `/^[0-9a-f]{32}$/`. -/
def isBareIdentity (value : CString) : Bool := value.length == 32 && value.all isHexCharacter

def replacementIdentityIsValid (result : JsValue) : Bool :=
  isObject result && (result.get "replacement").isTrue &&
    (match result.get "modem_id" with
      | .string modemId => isBareIdentity modemId
      | _ => false) &&
    (result.get "generation").isSafeIntegerWith (0 < ·)

def incompleteResponse : CString :=
  "The expert bridge returned an incomplete schema 4 response.".toList

def appliedVerificationIsValid (verification : JsValue) : Bool :=
  (verification.get "serving_cell").isTrue &&
    (verification.get "earfcn").isSafeIntegerWith (0 ≤ ·) &&
    (verification.get "pci").isSafeIntegerWith (fun pci => 0 ≤ pci && pci ≤ 503)

def validateExpertResult (result : JsValue) (context : Context) (requireAccepted : Bool) :
    Option CString :=
  let verification := Widgets.object ((Widgets.object result).get "verification")
  let state := result.get "state"
  match responseError result with
  | some error => some error
  | none =>
    if !requireAccepted && (!mutationAllowed result result context.modemId context.generation ||
        !state.isStringValue) then some incompleteResponse
    else if requireAccepted && (!replacementIdentityIsValid result ||
        !(result.get "accepted").isTrue ||
        !(state.isText "applied_verified".toList || state.isText "cleared_verified".toList) ||
        !(verification.get "registration").isTrue || !(verification.get "nvm").isTrue ||
        (state.isText "applied_verified".toList && !appliedVerificationIsValid verification)) then
      some incompleteResponse
    else none

theorem validateExpertResult_identity {result : JsValue} {context : Context}
    (h : validateExpertResult result context true = none) :
    replacementIdentityIsValid result = true := by
  unfold validateExpertResult at h
  dsimp only at h
  split at h
  · cases h
  · by_contra hn
    simp [hn] at h

/-- A generated identity carries its name before the hexadecimal digits. -/
theorem isBareIdentity_generated {random : Option (Vector UInt8 16)} {modemId : CString}
    (h : l850glIdentityGenerateWith random = some modemId) : isBareIdentity modemId = false := by
  have hlength := tokenGenerateWith_length h
  have h₁ : modemId.length ≠ 32 := by
    rw [hlength]
    decide
  simp [isBareIdentity,h₁]

section

variable (gateway : Gateway)

/-- A generated identity is read as it was written. -/
theorem text_generated {random : Option (Vector UInt8 16)} {modemId : CString}
    (h : l850glIdentityGenerateWith random = some modemId) : gateway.text modemId = modemId :=
  text_ascii (tokenIsValid_ascii (tokenIsValid_generate h) (ascii_of_all (by decide)))

theorem successReply_modemId (s : Mutation.State) (serving : Option L850Cell) :
    (gateway.ofReply (successReply s serving)).get "modem_id" =
      .string (gateway.text (s.modem (l850MutationResponseModem s.operation)).modemId) := by
  rw [successReply,ofReply_eq (successBody_distinct _ _ _ _)]
  rw [@renderReply_get_some _ _ "modem_id" (.string _) rfl,render_string]

/-- Whatever was verified, the page refuses the reply of a modem whose identity the bridge
generated. -/
theorem successReply_refused (s : Mutation.State) (serving : Option L850Cell) (context : Context)
    {random : Option (Vector UInt8 16)}
    (hid : l850glIdentityGenerateWith random =
      some (s.modem (l850MutationResponseModem s.operation)).modemId) :
    validateExpertResult (gateway.ofReply (successReply s serving)) context true ≠ none := by
  intro hnone
  have hidentity := validateExpertResult_identity hnone
  unfold replacementIdentityIsValid at hidentity
  rw [successReply_modemId,text_generated gateway hid] at hidentity
  simp [isBareIdentity_generated hid] at hidentity

end

/-- The random bytes behind the identity of the sample modem. -/
def sampleRandom : Option (Vector UInt8 16) := some
  #v[0x00,0x11,0x22,0x33,0x44,0x55,0x66,0x77,0x88,0x99,0xaa,0xbb,0xcc,0xdd,0xee,0xff]

/-- The replies sent for a verified success, in a trace. -/
def successReplies : List Observation → List Reply
  | .reply _ body::.succeeded serving::past => body::successReplies (.succeeded serving::past)
  | _::past => successReplies past
  | [] => []

def sampleContext : Context := ⟨"l850gl-00112233445566778899aabbccddeeff".toList,1⟩

theorem successReply_refused_sample : ∃ s : Mutation.State, ∃ serving,
    l850glIdentityGenerateWith sampleRandom =
      some (s.modem (l850MutationResponseModem s.operation)).modemId ∧
    validateExpertResult (sampleGateway.ofReply (successReply s serving)) sampleContext true ≠
      none := by
  have hrun : (sampleRun sampleEvents).map (fun s =>
      (s.modem (l850MutationResponseModem s.operation)).modemId) =
        l850glIdentityGenerateWith sampleRandom := by decide +kernel
  obtain ⟨modemId,hid⟩ : ∃ modemId, l850glIdentityGenerateWith sampleRandom = some modemId :=
    ⟨_,rfl⟩
  rw [hid] at hrun
  obtain ⟨s,-,hs⟩ := Option.map_eq_some_iff.mp hrun
  exact ⟨s,none,hs ▸ hid,successReply_refused sampleGateway s none sampleContext (hs ▸ hid)⟩

/-- A lock that was verified in a run is shown to the operator as an incomplete response. -/
theorem verifiedLock_shown_failed : ∃ s body, mutationSystem.Reachable s ∧
    body ∈ successReplies s.trace ∧
    l850glIdentityGenerateWith sampleRandom =
      some (s.modem (l850MutationResponseModem s.operation)).modemId ∧
    validateExpertResult (sampleGateway.ofReply body) sampleContext true =
      some incompleteResponse := by
  have hrun : (sampleRun sampleEvents).map (fun s =>
      ((s.modem (l850MutationResponseModem s.operation)).modemId,(successReplies s.trace).map
        fun body => validateExpertResult (sampleGateway.ofReply body) sampleContext true)) =
      (l850glIdentityGenerateWith sampleRandom).map fun modemId =>
        (modemId,[some incompleteResponse]) := by decide +kernel
  obtain ⟨modemId,hid⟩ : ∃ modemId, l850glIdentityGenerateWith sampleRandom = some modemId :=
    ⟨_,rfl⟩
  rw [hid,Option.map_some] at hrun
  obtain ⟨s,hs,hpair⟩ := Option.map_eq_some_iff.mp hrun
  obtain ⟨hmodem,hreplies⟩ := Prod.mk.injEq .. ▸ hpair
  have hmem : some incompleteResponse ∈ (successReplies s.trace).map
      fun body => validateExpertResult (sampleGateway.ofReply body) sampleContext true := by
    rw [hreplies]
    exact List.mem_singleton_self _
  obtain ⟨body,hbody,hshown⟩ := List.mem_map.mp hmem
  exact ⟨s,body,sampleRun_reachable hs,hbody,hmodem ▸ hid,hshown⟩

end Lock
end Frontend
end L850GL
