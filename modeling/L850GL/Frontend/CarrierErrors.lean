import L850GL.Frontend.CarrierReplies
import L850GL.Reads.Effects

/-! The errors of the carrier query: the page counts one as transient exactly when the bridge
marked it as retryable. -/
namespace L850GL
namespace Frontend

open Gateway JsValue Widgets Ca Cell Errors Mutation Reads

variable {gateway : Gateway} {bridge : Bridge} {modem : Option Modem} {code : String}
  {retryable : Bool} {delay : Nat} {summary : JsValue} {w : World} {ref : OperationRef}

/-- How the bridge marks an error: what the client may repeat is in a state of its own, with the
identity of a modem and a delay where the state needs them. -/
structure IsMarked (modem : Option Modem) (code : String) (retryable : Bool) (delay : Nat) :
    Prop where
  literal : IsLiteral code 64
  transient : retryable = transientStates.contains code.toList
  identity : code ∈ ["not_ready","timeout","rate_limited"] → modem.isSome = true
  delay : if code = "rate_limited" then 1 ≤ delay ∧ delay ≤ 5000 else delay = 0

theorem IsMarked.plain (hcode : IsLiteral code 64 ∧ code ≠ "rate_limited")
    (htransient : retryable = transientStates.contains code.toList)
    (hidentity : code ∈ ["not_ready","timeout","rate_limited"] → modem.isSome = true) :
    IsMarked modem code retryable 0 :=
  ⟨hcode.1,htransient,hidentity,by rw [if_neg hcode.2]⟩

theorem l850ErrorMessage_literal (code : String) :
    IsLiteral (l850ErrorMessage code) 256 ∧ '\x00' ∉ (l850ErrorMessage code).toList := by
  unfold l850ErrorMessage
  split
  all_goals decide +kernel

theorem hasOwnProperty_renderReply (reply : Reply) (name : String) :
    (gateway.renderReply reply).hasOwnProperty name = (reply.lookup name).isSome := by
  rw [renderReply,JsValue.hasOwnProperty,renderFields_lookup,Option.isSome_map]

theorem sendL850Error_fields (gateway : Gateway)
    (hclock : (bridge.time : Int) ≤ maxSafeInteger)
    (modem : Option Modem) (code : String) (retryable : Bool) (delay : Nat) :
    let result := gateway.renderReply (sendL850Error bridge modem code retryable delay)
    result.get "schema" = .number 4 ∧ result.get "generated_at" = .number bridge.time ∧
      result.get "ok" = .boolean false ∧ result.get "state" = gateway.render (.text code) ∧
      result.get "error" = gateway.renderReply [("code",.text code),
        ("message",.text (l850ErrorMessage code)),("retryable",.u8 retryable)] ∧
      result.hasOwnProperty "modem_id" = modem.isSome ∧
      result.hasOwnProperty "generation" = modem.isSome := by
  have hlookup : ∀ (tail : Reply),
      let reply := addCommon bridge.time false++(modem.elim [] Modem.addModemIdentity)++
        [("state",.text code)]++tail
      tail.lookup "modem_id" = none → tail.lookup "generation" = none →
      reply.lookup "schema" = some (.u32 4) ∧ reply.lookup "generated_at" =
        some (.u64 bridge.time) ∧ reply.lookup "ok" = some (.u8 false) ∧
        reply.lookup "state" = some (.text code) ∧ reply.lookup "error" = tail.lookup "error" ∧
        (reply.lookup "modem_id").isSome = modem.isSome ∧
        (reply.lookup "generation").isSome = modem.isSome := by
    intro tail reply hid hgeneration
    cases modem with
    | none => exact ⟨rfl,rfl,rfl,rfl,rfl,congrArg Option.isSome hid,
        congrArg Option.isSome hgeneration⟩
    | some modem => exact ⟨rfl,rfl,rfl,rfl,rfl,rfl,rfl⟩
  intro result
  obtain ⟨tail,htail⟩ : ∃ tail : Reply,tail = (if delay > 0 then
      [("retry_after_ms",.u32 delay)] else [])++[errorTable code (l850ErrorMessage code)
        retryable] := ⟨_,rfl⟩
  have htailFields : tail.lookup "modem_id" = none ∧ tail.lookup "generation" = none ∧
      tail.lookup "error" = some (errorTable code (l850ErrorMessage code) retryable).2 := by
    rw [htail]
    split
    · exact ⟨rfl,rfl,rfl⟩
    · exact ⟨rfl,rfl,rfl⟩
  obtain ⟨hid,hgeneration,herror⟩ := htailFields
  obtain ⟨h₁,h₂,h₃,h₄,h₅,h₆,h₇⟩ := hlookup tail hid hgeneration
  have hresult : result = gateway.renderReply (addCommon bridge.time false++
      (modem.elim [] Modem.addModemIdentity)++[("state",.text code)]++tail) := by
    rw [htail,← List.append_assoc]
    rfl
  rw [hresult,hasOwnProperty_renderReply,hasOwnProperty_renderReply,renderReply_get_some h₁,
    renderReply_get_some h₂,renderReply_get_some h₃,renderReply_get_some h₄,
    renderReply_get_some (h₅.trans herror)]
  refine ⟨?_,render_u64_of_le hclock,render_u8 false,rfl,?_,h₆,h₇⟩
  · exact render_u32_of_lt (by decide)
  · rw [errorTable,render_table]

theorem sendL850Error_delay (gateway : Gateway) (bridge : Bridge) (modem : Option Modem)
    (code : String) (retryable : Bool) (delay : Nat) :
    let result := gateway.renderReply (sendL850Error bridge modem code retryable delay)
    (0 < delay → result.get "retry_after_ms" = .number (signed 32 delay)) ∧
      result.hasOwnProperty "retry_after_ms" = decide (0 < delay) := by
  intro result
  have hlookup : (sendL850Error bridge modem code retryable delay).lookup "retry_after_ms" =
      if 0 < delay then some (.u32 delay) else none := by
    unfold sendL850Error
    split
    · cases modem with
      | none => rfl
      | some modem => rfl
    · cases modem with
      | none => rfl
      | some modem => rfl
  have hhas : result.hasOwnProperty "retry_after_ms" = decide (0 < delay) := by
    rw [hasOwnProperty_renderReply,hlookup]
    by_cases hdelay : 0 < delay
    · rw [if_pos hdelay,decide_eq_true hdelay,Option.isSome_some]
    · rw [if_neg hdelay,decide_eq_false hdelay,Option.isSome_none]
  refine ⟨fun hdelay => ?_,hhas⟩
  rw [if_pos hdelay] at hlookup
  rw [renderReply_get_some hlookup,render_u32]

/-- The page keeps its carriers on an error exactly when the bridge called it retryable. -/
theorem carrierTransientError_marked (h : IsMarked modem code retryable delay)
    (hclock : (bridge.time : Int) ≤ maxSafeInteger)
    (hsame : modem.isSome = true → identityMatches
      (gateway.renderReply (sendL850Error bridge modem code retryable delay)) summary = true) :
    carrierTransientError (gateway.renderReply
      (sendL850Error bridge modem code retryable delay)) summary = retryable := by
  obtain ⟨hschema,htime,hok,hstate,herror,hid,hgeneration⟩ :=
    sendL850Error_fields gateway hclock modem code retryable delay
  obtain ⟨hdelay,hhas⟩ := sendL850Error_delay gateway bridge modem code retryable delay
  obtain ⟨result,hresult⟩ : ∃ result,result =
    gateway.renderReply (sendL850Error bridge modem code retryable delay) := ⟨_,rfl⟩
  rw [← hresult] at hschema htime hok hstate herror hid hgeneration hdelay hhas hsame ⊢
  have hobject : isObject result = true := by
    rw [hresult]
    rfl
  have hstate' : result.get "state" = .string code.toList := hstate.trans (render_text h.literal)
  have hcode : (gateway.renderReply [("code",.text code),("message",.text (l850ErrorMessage code)),
      ("retryable",.u8 retryable)]).get "code" = .string code.toList := by
    rw [@renderReply_get_some _ _ "code" (.text code) rfl,render_text h.literal]
  have hmessage : isString ((gateway.renderReply [("code",.text code),
      ("message",.text (l850ErrorMessage code)),("retryable",.u8 retryable)]).get "message") 256 =
        true := by
    rw [@renderReply_get_some _ _ "message" (.text (l850ErrorMessage code)) rfl]
    exact isString_literal (l850ErrorMessage_literal code).1 (l850ErrorMessage_literal code).2
  have hmark : (gateway.renderReply [("code",.text code),("message",.text (l850ErrorMessage code)),
      ("retryable",.u8 retryable)]).get "retryable" = .boolean retryable := by
    rw [@renderReply_get_some _ _ "retryable" (.u8 retryable) rfl,render_u8]
  have hunsigned := isUnsigned_le hclock
  have hnames : ∀ name : String,((JsValue.string code.toList).isText name.toList) =
      decide (code = name) := by
    intro name
    rw [isText,beq_eq_decide]
    exact decide_eq_decide.mpr String.toList_inj
  have htransient : (transientStates.any fun name => (JsValue.string code.toList).isText name) =
      retryable := by
    rw [h.transient,List.contains_eq_any_beq]
    rfl
  have hidentity : (["not_ready".toList,"timeout".toList].any fun name =>
      (JsValue.string code.toList).isText name) = true → modem.isSome = true := by
    simp only [List.any_cons,List.any_nil,hnames,Bool.or_false,Bool.or_eq_true,decide_eq_true_eq]
    rintro (rfl | rfl)
    · exact h.identity (by simp)
    · exact h.identity (by simp)
  have hlimited := h.delay
  simp only [carrierTransientError,Widgets.object,herror,hobject,hschema,htime,hok,hstate',hid,
    hgeneration,hhas]
  have hschemaIs : (JsValue.number 4).isNumber schemaVersion = true := rfl
  have hfalse : strictEquals (.boolean false) (.boolean false) = true := rfl
  have htext : strictEquals (.string code.toList) (.string code.toList) = true :=
    strictEquals_string.mpr rfl
  have herrorObject : isObject (gateway.renderReply [("code",.text code),
      ("message",.text (l850ErrorMessage code)),("retryable",.u8 retryable)]) = true := rfl
  simp only [hschemaIs,hunsigned,hfalse,htransient,herrorObject,hcode,htext,hmessage,hmark,
    JsValue.isTrue,bne_self_eq_false,if_true,Bool.not_true,Bool.false_or,Bool.or_false,
    Bool.or_self]
  cases retryable with
  | false => rfl
  | true =>
    simp only [Bool.not_true,Bool.false_eq_true,if_false]
    have hmatches : (true && modem.isSome && !identityMatches result summary) = false := by
      cases hmodem : modem.isSome with
      | false => rfl
      | true => rw [hsame hmodem,Bool.and_true,Bool.not_true,Bool.and_false]
    have hpresent : ((["not_ready".toList,"timeout".toList].any fun name =>
        (JsValue.string code.toList).isText name) && !(true && modem.isSome)) = false := by
      rw [Bool.true_and,Bool.and_eq_false_imp]
      intro hname
      rw [hidentity hname,Bool.not_true]
    rw [hmatches,hpresent,hnames "rate_limited"]
    simp only [Bool.false_eq_true,if_false,decide_eq_true_eq]
    by_cases hrate : code = "rate_limited"
    · rw [if_pos hrate] at hlimited ⊢
      have hmodem := h.identity (by simp [hrate])
      have hmax : maxSafeInteger = 9007199254740991 := rfl
      rw [hdelay (by omega),signed_of_lt (by omega),hmodem]
      simp only [isSafeIntegerWith,Bool.and_eq_true,decide_eq_true_eq,Bool.true_and]
      omega
    · rw [if_neg hrate] at hlimited ⊢
      rw [hlimited]
      rfl

theorem readErrorBody_eq (bridge : Bridge) (ref : ModemRef) (code : String) (retryable : Bool) :
    readErrorBody bridge ref code retryable =
      sendL850Error bridge (some (bridge.modems ref)) code retryable 0 := by
  simp [readErrorBody,sendL850Error]

theorem l850NormalizeError_marked (mmCheckVersion124 : Bool) (error : Option GError)
    (timedOut transportLost : Bool) {modem : Option Modem} (hmodem : modem.isSome = true) :
    let normalized := l850NormalizeError mmCheckVersion124 error timedOut transportLost
    IsMarked modem normalized.code normalized.retryable 0 := by
  unfold l850NormalizeError
  repeat' split
  all_goals exact IsMarked.plain (by decide) (by decide) fun _ => hmodem

theorem l850RequestedModem_error {tables : Tables} {modemId : CString} {generation : Nat}
    (h : l850RequestedModem tables bridge modemId generation = .error code) :
    code ∈ ["invalid_argument","stale_identity","dependency_unavailable","stale_generation",
      "unsupported","busy"] := by
  simp only [l850RequestedModem] at h
  split at h
  · cases h
    decide
  · split at h
    · cases h
      split
      · decide
      · decide
    · split at h
      · cases h
        decide
      · split at h
        · cases h
          decide
        · split at h
          · cases h
            decide
          · cases h

/-- The bodies with which requests were refused and operations ended, on the way to `w'`. -/
def Replied (w w' : World) (body : Reply) : Prop :=
  ∃ past,w'.trace = past++w.trace ∧ (Reads.Observation.refused body ∈ past ∨
    ∃ ref kind modem now,Reads.Observation.completed ref kind modem now body ∈ past)

theorem methodGetCarrierInfo_replied (w : World) (mutations : List CString)
    (request : Option ReadRequest) {body : Reply}
    (h : Replied w (methodGetCarrierInfo w mutations request) body) :
    ∃ modem code retryable delay,IsMarked modem code retryable delay ∧
      body = sendL850Error w.bridge modem code retryable delay := by
  -- a request that is refused leaves just the error
  have hrefuse : ∀ {modem : Option ModemRef} {code : String} {retryable : Bool} {delay : Nat},
      Replied w (w.refuse modem code retryable delay) body →
      IsMarked (modem.map w.bridge.modems) code retryable delay →
      ∃ modem code retryable delay,IsMarked modem code retryable delay ∧
        body = sendL850Error w.bridge modem code retryable delay := by
    intro modem code retryable delay hreplied hmarked
    obtain ⟨past,htrace,hbody⟩ := hreplied
    have hpast : past = [.refused (sendL850Error w.bridge (modem.map w.bridge.modems) code
        retryable delay)] := List.append_cancel_right htrace.symm
    rw [hpast] at hbody
    rcases hbody with hbody | ⟨ref,kind,modem,now,hbody⟩
    · exact ⟨_,_,_,_,hmarked,Reads.Observation.refused.inj (List.mem_singleton.mp hbody)⟩
    · cases List.mem_singleton.mp hbody
  unfold methodGetCarrierInfo requestedRead at h
  cases request with
  | none =>
    exact hrefuse h (IsMarked.plain (by decide) (by decide) fun hcode => by simp at hcode)
  | some request =>
    dsimp only at h
    cases hrequested : l850RequestedModem (w.tables mutations) w.bridge request.modemId
      request.generation with
    | error code =>
      rw [hrequested] at h
      refine hrefuse h ?_
      have hcode := l850RequestedModem_error hrequested
      simp only [List.mem_cons,List.not_mem_nil,or_false] at hcode
      rcases hcode with rfl | rfl | rfl | rfl | rfl | rfl
      all_goals exact IsMarked.plain (by decide) (by decide) fun hcode => by simp at hcode
    | ok ref =>
      rw [hrequested] at h
      dsimp only at h
      split at h
      · exact hrefuse h (IsMarked.plain (by decide) (by decide) fun _ => rfl)
      · split at h
        · exact hrefuse h (IsMarked.plain (by decide) (by decide) fun _ => rfl)
        · split at h
          · rename_i hdelay
            refine hrefuse h ⟨by decide,by decide,fun _ => rfl,?_⟩
            rw [if_pos rfl]
            exact ⟨hdelay,retryAfterMs_le_interval⟩
          · -- a query that is started refuses nothing
            obtain ⟨past,htrace,hbody⟩ := h
            have hpast : past = [.started w.next .carrier ref w.ubus.connection w.bridge.now] :=
              List.append_cancel_right htrace.symm
            rw [hpast] at hbody
            rcases hbody with hbody | ⟨ref,kind,modem,now,hbody⟩
            · cases List.mem_singleton.mp hbody
            · cases List.mem_singleton.mp hbody

theorem replied_readCompleteBuffer {kind : ReadKind} {op : ReadOperation} {body : Reply}
    (hmemory : (w.slots ref).memory = some op) {other : Reply} :
    Replied w (readCompleteBuffer kind w ref body) other ↔ other = body := by
  have hends := @readCompleteBuffer_ends w ref op kind body hmemory
  have htrace : (readCompleteBuffer kind w ref body).trace = (.released ref::(answers w ref op
      body++[.completed ref kind op.modem w.bridge.now body]))++w.trace := by
    rw [hends.trace]
    simp
  have hanswers : ∀ o ∈ answers w ref op body,
      ∃ connection,o = Reads.Observation.answered ref connection body := by
    intro o ho
    unfold answers at ho
    split at ho
    · exact ⟨_,List.mem_singleton.mp ho⟩
    · cases ho
  constructor
  · rintro ⟨past,hpast,hbody⟩
    rw [htrace] at hpast
    obtain rfl := List.append_cancel_right hpast
    rcases hbody with hbody | ⟨ref',kind',modem,now,hbody⟩
    · simp only [List.mem_cons,List.mem_append,reduceCtorEq,List.not_mem_nil,or_false,
        false_or] at hbody
      obtain ⟨connection,heq⟩ := hanswers _ hbody
      cases heq
    · simp only [List.mem_cons,List.mem_append,reduceCtorEq,List.not_mem_nil,or_false,
        false_or] at hbody
      rcases hbody with hbody | hbody
      · obtain ⟨connection,heq⟩ := hanswers _ hbody
        cases heq
      · exact (Reads.Observation.completed.inj hbody).2.2.2.2
  · rintro rfl
    exact ⟨_,htrace,.inr ⟨ref,kind,op.modem,w.bridge.now,by simp⟩⟩

/-- The query of a live operation ends with an error or with the carriers. -/
theorem l850CarrierReady_marked {source : Nat} {result : CommandResult} {op : ReadOperation}
    (hmemory : (w.slots ref).memory = some op) :
    (∃ code retryable,IsMarked (some (w.bridge.modems op.modem)) code retryable 0 ∧
      l850CarrierReady w ref source result = l850CarrierCompleteBuffer w ref
        (readErrorBody w.bridge op.modem code retryable)) ∨
    ∃ primary carriers,l850CarrierReady w ref source result = l850CarrierCompleteBuffer w ref
      (carrierSuccessBody w.bridge op.modem primary carriers) := by
  have herror : ∀ code retryable,l850CarrierCompleteError w ref code retryable =
      l850CarrierCompleteBuffer w ref (readErrorBody w.bridge op.modem code retryable) := by
    intro code retryable
    simp only [l850CarrierCompleteError,readCompleteError,World.withOperation,hmemory]
    rfl
  have hmalformed : IsMarked (some (w.bridge.modems op.modem)) "malformed_response" false 0 :=
    IsMarked.plain (by decide) (by decide) fun _ => rfl
  simp only [l850CarrierReady,World.withOperation,hmemory]
  split
  · rename_i stale hstale
    refine .inl ⟨stale,false,?_,herror _ _⟩
    simp only [l850CarrierStaleCode,readStaleCode] at hstale
    split at hstale
    · obtain rfl := Option.some.inj hstale
      exact IsMarked.plain (by decide) (by decide) fun _ => rfl
    · split at hstale
      · obtain rfl := Option.some.inj hstale
        exact IsMarked.plain (by decide) (by decide) fun _ => rfl
      · cases hstale
  · split
    · exact .inl ⟨_,_,IsMarked.plain (by decide) (by decide) fun _ => rfl,herror _ _⟩
    · split
      · split
        · exact .inl ⟨_,_,hmalformed,herror _ _⟩
        · split
          · exact .inl ⟨_,_,hmalformed,herror _ _⟩
          · simp only [l850CarrierCompleteSuccess,World.withOperation,hmemory]
            split
            · exact .inl ⟨_,_,hmalformed,herror _ _⟩
            · exact .inr ⟨_,_,rfl⟩
      · exact .inl ⟨_,_,l850NormalizeError_marked _ _ _ _ rfl,herror _ _⟩

/-- The carrier replies and the page agree: the reply for an accepted response is valid, and an
error is transient exactly when the bridge marked it as retryable. -/
theorem carrierReplies_agree (gateway : Gateway) (w : World)
    (hclock : (w.bridge.time : Int) ≤ maxSafeInteger) (summary : JsValue) :
    (∀ ref op response info,(w.slots ref).memory = some op →
      l850glL850CaParse response = (none,info) →
      IsSummary gateway summary (w.bridge.modems op.modem).modemId
        (w.bridge.modems op.modem).generation →
      ∃ body,(∀ other,Replied w
          (l850CarrierCompleteSuccess w ref (info.carriers.take info.length)) other ↔
            other = body) ∧
        carrierInfoError (gateway.ofReply body) summary = none) ∧
    ∀ w' body,
      ((∃ mutations request,w' = methodGetCarrierInfo w mutations request) ∨
        ∃ ref source result,w' = l850CarrierReady w ref source result) →
      Replied w w' body → (gateway.ofReply body).get "ok" = .boolean false →
      ((gateway.ofReply body).hasOwnProperty "modem_id" = true →
        identityMatches (gateway.ofReply body) summary = true) →
      carrierTransientError (gateway.ofReply body) summary =
        (((gateway.ofReply body).get "error").get "retryable").isTrue := by
  have hmarked : ∀ modem code retryable delay,IsMarked modem code retryable delay →
      let result := gateway.ofReply (sendL850Error w.bridge modem code retryable delay)
      (result.hasOwnProperty "modem_id" = true → identityMatches result summary = true) →
      carrierTransientError result summary =
        ((result.get "error").get "retryable").isTrue := by
    intro modem code retryable delay hmarked result hsame
    have hresult : result =
        gateway.renderReply (sendL850Error w.bridge modem code retryable delay) :=
      ofReply_eq (sendL850Error_distinct w.bridge modem code retryable delay)
    obtain ⟨-,-,-,-,herror,hid,-⟩ :=
      sendL850Error_fields gateway hclock modem code retryable delay
    rw [hresult,hid] at hsame
    rw [hresult,carrierTransientError_marked hmarked hclock hsame,herror,
      @renderReply_get_some _ _ "retryable" (.u8 retryable) rfl,render_u8,JsValue.isTrue]
  constructor
  · intro ref op response info hmemory hparse hsummary
    obtain ⟨primary,hprimary,hvalid⟩ := carrierSuccessBody_valid hparse hclock hsummary
    refine ⟨_,fun other => ?_,hvalid⟩
    simp only [l850CarrierCompleteSuccess,World.withOperation,hmemory,hprimary]
    exact replied_readCompleteBuffer hmemory
  · rintro w' body (⟨mutations,request,rfl⟩ | ⟨ref,source,result,rfl⟩) hreplied hok hsame
    · obtain ⟨modem,code,retryable,delay,hmark,rfl⟩ :=
        methodGetCarrierInfo_replied w mutations request hreplied
      exact hmarked modem code retryable delay hmark hsame
    · cases hmemory : (w.slots ref).memory with
      | none =>
        -- the callback of an operation that is gone sends nothing
        simp only [l850CarrierReady,World.withOperation,hmemory] at hreplied
        obtain ⟨past,htrace,hbody⟩ := hreplied
        have hpast : past = [.fault ref] := List.append_cancel_right htrace.symm
        rw [hpast] at hbody
        rcases hbody with hbody | ⟨ref,kind,modem,now,hbody⟩
        · cases List.mem_singleton.mp hbody
        · cases List.mem_singleton.mp hbody
      | some op =>
        rcases l850CarrierReady_marked hmemory with ⟨code,retryable,hmark,hready⟩ |
          ⟨primary,carriers,hready⟩
        · rw [hready] at hreplied
          obtain rfl := (replied_readCompleteBuffer hmemory).mp hreplied
          rw [readErrorBody_eq] at hsame ⊢
          exact hmarked _ code retryable 0 hmark hsame
        · rw [hready] at hreplied
          obtain rfl := (replied_readCompleteBuffer hmemory).mp hreplied
          have htrue : (gateway.ofReply (carrierSuccessBody w.bridge op.modem primary
              carriers)).get "ok" = .boolean true := by
            rw [ofReply_eq (carrierSuccessBody_distinct _ _ _ _),
              @renderReply_get_some _ _ "ok" (.u8 true) rfl,render_u8]
          rw [htrue] at hok
          cases hok

def sampleQuery : World where
  slots := fun ref => if ref = 0 then
    ⟨some ⟨0,1,1,true,true,false,false,true,false⟩,true,true,none,false⟩ else Slot.empty
  next := 1
  operations := fun kind => if kind = .carrier then [0] else []
  records := ⟨fun _ => 0,fun _ => 0,fun _ =>
    ⟨false,0,0,0,0,.unavailable,.unavailable,false,false,0,""⟩⟩
  ubus := sampleUbus
  bridge := sampleBridge false
  trace := []

def sampleQuerySummary : JsValue := .object
  [("modem_id",.string "l850gl-00112233445566778899aabbccddeeff".toList),("generation",.number 1)]

theorem carrierReplies_agree_sample :
    (∃ body,Replied sampleQuery (l850CarrierCompleteSuccess sampleQuery 0
        ((l850glL850CaParse sampleCarriers).2.carriers.take
          (l850glL850CaParse sampleCarriers).2.length)) body ∧
      carrierInfoError (sampleGateway.ofReply body) sampleQuerySummary = none) ∧
    carrierTransientError (sampleGateway.ofReply
      (sendL850Error sampleQuery.bridge none "invalid_argument" false 0)) sampleQuerySummary =
        false := by
  obtain ⟨hsuccess,herror⟩ := carrierReplies_agree sampleGateway sampleQuery (by decide)
    sampleQuerySummary
  have hparse : l850glL850CaParse sampleCarriers = (none,(l850glL850CaParse sampleCarriers).2) :=
    Prod.ext (by decide +kernel) rfl
  have hid : sampleGateway.text "l850gl-00112233445566778899aabbccddeeff".toList =
      "l850gl-00112233445566778899aabbccddeeff".toList :=
    text_ascii (Identity.ascii_of_all (by decide))
  have hsummary : IsSummary sampleGateway sampleQuerySummary
      "l850gl-00112233445566778899aabbccddeeff".toList 1 :=
    ⟨rfl,(congrArg JsValue.string hid.symm).trans (sampleGateway.string _).symm,rfl⟩
  obtain ⟨body,hreplied,hvalid⟩ := hsuccess 0 ⟨0,1,1,true,true,false,false,true,false⟩
    sampleCarriers _ rfl hparse hsummary
  refine ⟨⟨body,(hreplied body).mpr rfl,hvalid⟩,?_⟩
  refine (herror _ _ (.inl ⟨[],none,rfl⟩) ⟨[_],rfl,.inl (by simp)⟩ rfl ?_).trans rfl
  intro hpresent
  cases hpresent

end Frontend
end L850GL
