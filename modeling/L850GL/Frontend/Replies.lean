import L850GL.Frontend.Responses
import L850GL.Modem

/-! The replies of the bridge as a page reads them: their literal texts, their first fields and
the numbers in them. -/
namespace L850GL
namespace Frontend

open Gateway JsValue Widgets

variable {gateway : Gateway} {modem : Modem} {rest : Reply}

/-- A text that the bridge writes as it stands in the source. -/
def IsLiteral (text : String) (maximum : Nat) : Prop :=
  (∀ c ∈ text.toList,c.toNat < 0x80) ∧ text.toList.length ≤ maximum

instance (text : String) (maximum : Nat) : Decidable (IsLiteral text maximum) :=
  @instDecidableAnd _ _ (List.decidableBAll _ _) (Nat.decLe _ _)

theorem render_text {text : String} {maximum : Nat} (h : IsLiteral text maximum) :
    gateway.render (Blob.text text) = .string text.toList := by
  rw [Blob.text,render_string,text_ascii h.1]

theorem jsLength_ascii {text : CString} (h : ∀ c ∈ text,c.toNat < 0x80) :
    jsLength text = text.length := by
  have hones : text.map (fun character => if character.toNat < 0x10000 then 1 else 2) =
      text.map fun _ => 1 := by
    refine List.map_congr_left fun c hc => if_pos ?_
    have hlow := h c hc
    omega
  rw [jsLength,hones]
  simp

theorem isString_literal {text : String} {maximum : Nat} (h : IsLiteral text maximum)
    (hzero : '\x00' ∉ text.toList) : isString (gateway.render (.text text)) maximum = true := by
  have hlength := h.2
  rw [← jsLength_ascii h.1] at hlength
  rw [render_text h,isString,decide_eq_true hlength]
  simpa using hzero

/-- The fields that every success reply begins with. -/
def successHead (time : Nat) (modem : Modem) : Reply :=
  addCommon time true++modem.addModemIdentity

theorem lookup_success {name : String} {time : Nat}
    (h : name ∉ ["schema","generated_at","ok","modem_id","generation"]) :
    (successHead time modem++rest).lookup name = rest.lookup name := by
  simp only [List.mem_cons,List.not_mem_nil,or_false,not_or] at h
  obtain ⟨h₁,h₂,h₃,h₄,h₅⟩ := h
  simp [successHead,addCommon,Modem.addModemIdentity,List.lookup_cons,beq_eq_false_iff_ne.mpr h₁,
    beq_eq_false_iff_ne.mpr h₂,beq_eq_false_iff_ne.mpr h₃,beq_eq_false_iff_ne.mpr h₄,
    beq_eq_false_iff_ne.mpr h₅]

/-- A success reply carries no error. -/
theorem responseError_common {time : Nat} (hclock : (time : Int) ≤ maxSafeInteger)
    (htransport : rest.lookup "transport_error" = none) :
    responseError (gateway.renderReply (addCommon time true++rest)) = none := by
  obtain ⟨result,hresult⟩ : ∃ result,result = gateway.renderReply (addCommon time true++rest) :=
    ⟨_,rfl⟩
  have hschema : result.get "schema" = .number 4 := by
    rw [hresult,@renderReply_get_some _ _ "schema" (.u32 4) rfl,
      render_u32_of_lt (by decide)]
    rfl
  have htime : result.get "generated_at" = .number time := by
    rw [hresult,@renderReply_get_some _ _ "generated_at" (.u64 time) rfl,
      render_u64_of_le hclock]
  have hok : result.get "ok" = .boolean true := by
    rw [hresult,@renderReply_get_some _ _ "ok" (.u8 true) rfl,render_u8]
  have hnone : result.get "transport_error" = .undefined := by
    rw [hresult]
    exact renderReply_get_none htransport
  have hobject : isObject result = true := by
    rw [hresult]
    rfl
  have hnullish : result.isNullish = false := by
    rw [hresult]
    rfl
  have hcompatible : isCompatible result = true := by
    rw [isCompatible,hobject,hschema,hok]
    rfl
  have henvelope : envelopeError result = none := by
    rw [envelopeError,hcompatible,htime,isUnsigned_le hclock,hok]
    rfl
  rw [← hresult,responseError,hnullish,hobject,hnone]
  exact henvelope

/-- A success reply of the modem carries no error, and is for its summary. -/
theorem successReply_allowed {time : Nat} (hclock : (time : Int) ≤ maxSafeInteger)
    (htransport : rest.lookup "transport_error" = none) {result : JsValue}
    (hresult : result = gateway.renderReply (successHead time modem++rest)) :
    responseError result = none ∧ mutationAllowed result result (gateway.text modem.modemId)
      (signed 32 modem.generation) = true := by
  have hok : result.get "ok" = .boolean true := by
    rw [hresult,@renderReply_get_some _ _ "ok" (.u8 true) rfl,render_u8]
  have hid : result.get "modem_id" = .string (gateway.text modem.modemId) := by
    rw [hresult,@renderReply_get_some _ _ "modem_id" (.string modem.modemId) rfl,
      render_string]
  have hgeneration : result.get "generation" = .number (signed 32 modem.generation) := by
    rw [hresult,@renderReply_get_some _ _ "generation" (.u32 modem.generation) rfl,
      render_u32]
  have hobject : isObject result = true := by
    rw [hresult]
    rfl
  have herror : responseError result = none := by
    rw [hresult,successHead,List.append_assoc]
    exact responseError_common hclock htransport
  refine ⟨herror,?_⟩
  rw [mutationAllowed,herror,hok,hobject,hid,hgeneration]
  simp [JsValue.isTrue,isText,isNumber]

theorem lookup_rest {name : String} {time : Nat} (value : Blob)
    (h : name ∉ ["schema","generated_at","ok","modem_id","generation"])
    (hrest : rest.lookup name = some value) :
    (gateway.renderReply (successHead time modem++rest)).get name = gateway.render value :=
  renderReply_get_some ((lookup_success h).trans hrest)

theorem isText_literal {text : String} {maximum : Nat} (h : IsLiteral text maximum) :
    (gateway.render (Blob.text text)).isText text.toList = true := by
  rw [render_text h]
  simp [isText]

theorem isSafeInteger_le {n bound : Nat} {p : Int → Bool} (h : n ≤ bound)
    (hbound : (bound : Int) ≤ maxSafeInteger) (hp : p n = true) :
    (JsValue.number n).isSafeIntegerWith p = true := by
  have hmax : maxSafeInteger = 9007199254740991 := rfl
  simp only [isSafeIntegerWith,Bool.and_eq_true,decide_eq_true_eq]
  refine ⟨⟨?_,?_⟩,hp⟩
  · omega
  · omega

theorem isFiniteNumber_double (value : Rat) :
    isFiniteNumber (gateway.render (.double value)) = true := by
  obtain ⟨shown,-,hshown⟩ := gateway.double value
  have hvalue : gateway.render (.double value) = .ofRat shown := hshown
  rw [hvalue,JsValue.ofRat]
  split
  · rfl
  · rfl

end Frontend
end L850GL
