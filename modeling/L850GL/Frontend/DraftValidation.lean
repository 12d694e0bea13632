import L850GL.Frontend.SmsDrafts
import L850GL.Sms.InboundText

/-! The page and the bridge accept the same messages: the check of a draft over UTF-16 code units
is the check of the request over UTF-8 bytes. -/
namespace L850GL
namespace Frontend
namespace SmsPage

open SafeText Sms

/-- A string of JavaScript, as its functions see it. -/
def jsString (value : List UInt16) : JsString := value.map UInt16.toNat

/-- The scalar values of well-formed UTF-16. -/
def Spells (value : JsString) (characters : List Nat) : Prop :=
  (∀ c ∈ characters,IsScalar c) ∧ value = characters.flatMap utf16Units

/-- A string is well formed when it spells some scalar values. -/
def WellFormed (value : JsString) : Prop := ∃ characters,Spells value characters

/-- The UTF-8 encoding of a well-formed string. -/
def EncodesAs (value : JsString) (bytes : CString) : Prop :=
  ∃ characters,Spells value characters ∧ bytes = characters.flatMap gUnicharToUtf8

variable {value rest recipient text : JsString} {bytes : CString} {characters : List Nat}

/-- One scalar value counts once, with its bytes. -/
theorem textMetrics_append {character : Nat} (h : IsScalar character) (rest : JsString) :
    textMetrics (utf16Units character++rest) =
      (textMetrics rest).map (·.add (gUnicharToUtf8 character).length) := by
  unfold IsScalar at h
  unfold utf16Units
  split
  · rename_i hsmall
    have h₁ : ¬ (0xD800 ≤ character ∧ character ≤ 0xDBFF) := by omega
    have h₂ : ¬ (0xDC00 ≤ character ∧ character ≤ 0xDFFF) := by omega
    have hlength : (gUnicharToUtf8 character).length =
        if character ≤ 0x7F then 1 else if character ≤ 0x7FF then 2 else 3 := by
      unfold gUnicharToUtf8
      split_ifs <;> first | rfl | omega
    simp only [List.cons_append,List.nil_append]
    rw [textMetrics.eq_def]
    simp only [h₁,h₂,if_false,hlength]
  · rename_i hlarge
    have h₁ : 0xD800 ≤ 0xD800+(character-0x10000)/0x400 ∧
        0xD800+(character-0x10000)/0x400 ≤ 0xDBFF := by omega
    have h₂ : ¬ (0xDC00+(character-0x10000)%0x400 < 0xDC00 ∨
        0xDFFF < 0xDC00+(character-0x10000)%0x400) := by omega
    have hlength : (gUnicharToUtf8 character).length = 4 := by
      unfold gUnicharToUtf8
      split_ifs <;> first | rfl | omega
    simp only [List.cons_append,List.nil_append]
    rw [textMetrics.eq_def]
    simp only [h₁,h₂,and_self,if_true,if_false,hlength]

/-- The metrics of a well-formed text are its numbers of scalar values and of UTF-8 bytes. -/
theorem textMetrics_spells (h : Spells value characters) :
    textMetrics value = some ⟨characters.length,(characters.flatMap gUnicharToUtf8).length⟩ := by
  obtain ⟨hscalar,rfl⟩ := h
  induction characters with
  | nil => rfl
  | cons c cs ih =>
    have hrest := ih fun x hx => hscalar x (List.mem_cons_of_mem _ hx)
    rw [List.flatMap_cons,textMetrics_append (hscalar c List.mem_cons_self),hrest]
    simp [TextMetrics.add,Nat.add_comm]

theorem spells_cons (character : Nat) (hc : IsScalar character)
    (hvalue : value = utf16Units character++rest) (h : WellFormed rest) : WellFormed value := by
  obtain ⟨characters,hscalar,hrest⟩ := h
  refine ⟨character::characters,?_,?_⟩
  · intro x hx
    rcases List.mem_cons.mp hx with rfl | hx
    · exact hc
    · exact hscalar x hx
  · rw [hvalue,hrest,List.flatMap_cons]

/-- Only well-formed texts have metrics. -/
theorem wellFormed_of_textMetrics (hunits : ∀ unit ∈ value,unit < 0x10000)
    (h : (textMetrics value).isSome) : WellFormed value := by
  fun_induction textMetrics value with
  | case1 => exact ⟨[],by simp,rfl⟩
  | case2 => cases h
  | case3 => cases h
  | case4 unit hhigh next rest hlow ih =>
    have hrest := ih (fun u hu => hunits u (by simp [hu])) (by simpa using h)
    have hnext : 0xDC00 ≤ next ∧ next ≤ 0xDFFF := by omega
    refine spells_cons (0x10000+(unit-0xD800)*0x400+(next-0xDC00)) ?_ ?_ hrest
    · right
      omega
    · have hlarge : ¬ 0x10000+(unit-0xD800)*0x400+(next-0xDC00) < 0x10000 := by omega
      simp only [utf16Units,hlarge,if_false,List.cons_append,List.nil_append,List.cons.injEq,
        and_true]
      omega
  | case5 => cases h
  | case6 unit rest hhigh hlow ih =>
    have hrest := ih (fun u hu => hunits u (by simp [hu])) (by simpa using h)
    have hunit := hunits unit List.mem_cons_self
    refine spells_cons unit ?_ ?_ hrest
    · unfold IsScalar
      omega
    · simp [utf16Units,hunit]

theorem l850glSmsRecipientIsValid_iff {bytes : CString} :
    l850glSmsRecipientIsValid bytes = true ↔
      let digits := if bytes.head? = some '+' then bytes.tail else bytes
      (1 ≤ digits.length ∧ digits.length ≤ 20) ∧ digits.all gAsciiIsdigit = true := by
  have hlength : (if bytes.head? = some '+' then bytes.tail else bytes).length ≤ bytes.length ∧
      bytes.length ≤ (if bytes.head? = some '+' then bytes.tail else bytes).length+1 := by
    split
    · rw [List.length_tail]
      omega
    · omega
  unfold l850glSmsRecipientIsValid
  generalize (if bytes.head? = some '+' then bytes.tail else bytes) = digits at hlength
  have hmax : l850glSmsRecipientDigitsMax = 20 := rfl
  by_cases hlong : bytes.length = 0 ∨ bytes.length > l850glSmsRecipientDigitsMax+1
  · rw [if_pos hlong]
    simp only [Bool.false_eq_true,false_iff]
    rintro ⟨hbounds,-⟩
    omega
  · rw [if_neg hlong]
    simp only [Bool.and_eq_true,decide_eq_true_eq,hmax]
    tauto

theorem isRecipient_toNat (bytes : CString) :
    isRecipient (bytes.map Char.toNat) = true ↔ l850glSmsRecipientIsValid bytes = true := by
  have hdigits : ∀ digits : CString,
      ((1 ≤ (digits.map Char.toNat).length && (digits.map Char.toNat).length ≤ 20 &&
        (digits.map Char.toNat).all fun unit => 0x30 ≤ unit && unit ≤ 0x39) = true) ↔
        (1 ≤ digits.length ∧ digits.length ≤ 20) ∧ digits.all gAsciiIsdigit = true := by
    intro digits
    rw [List.all_map,List.length_map]
    simp only [Bool.and_eq_true,decide_eq_true_eq]
    rfl
  rw [l850glSmsRecipientIsValid_iff]
  by_cases hplus : bytes.head? = some '+'
  · obtain ⟨digits,rfl⟩ := List.head?_eq_some_iff.mp hplus
    exact hdigits digits
  · have hmatch : isRecipient (bytes.map Char.toNat) =
        (1 ≤ (bytes.map Char.toNat).length && (bytes.map Char.toNat).length ≤ 20 &&
          (bytes.map Char.toNat).all fun unit => 0x30 ≤ unit && unit ≤ 0x39) := by
      unfold isRecipient
      split
      · rename_i rest hrest
        obtain ⟨first,digits,rfl,hfirst,-⟩ := List.map_eq_cons_iff.mp hrest
        have hchar : first = '+' := Char.ext (UInt32.toNat_inj.mp hfirst)
        exact absurd (by simp [hchar]) hplus
      · rfl
    rw [hmatch,hdigits,if_neg hplus]

theorem spells_ascii (h : ∀ unit ∈ value,unit < 0x80) : Spells value value := by
  refine ⟨fun c hc => ?_,?_⟩
  · left
    have hsmall := h c hc
    omega
  · induction value with
    | nil => rfl
    | cons c cs ih =>
      have hsmall := h c List.mem_cons_self
      have hunits : utf16Units c = [c] := if_pos (by omega)
      have hrest := ih fun x hx => h x (List.mem_cons_of_mem _ hx)
      rw [List.flatMap_cons,hunits,← hrest]
      rfl

theorem flatMap_gUnicharToUtf8_ascii (h : ∀ c ∈ characters,c < 0x80) :
    characters.flatMap gUnicharToUtf8 = characters.map Char.ofNat := by
  induction characters with
  | nil => rfl
  | cons c cs ih =>
    have hc : gUnicharToUtf8 c = [Char.ofNat c] := if_pos (h c List.mem_cons_self)
    rw [List.flatMap_cons,hc,ih fun x hx => h x (List.mem_cons_of_mem _ hx)]
    rfl

theorem isRecipient_ascii (h : isRecipient value = true) : ∀ unit ∈ value,unit < 0x80 := by
  have hdigits : ∀ digits : JsString,
      (1 ≤ digits.length && digits.length ≤ 20 &&
        digits.all fun unit => 0x30 ≤ unit && unit ≤ 0x39) = true →
        ∀ unit ∈ digits,unit < 0x80 := by
    intro digits hdigits unit hunit
    simp only [Bool.and_eq_true,List.all_eq_true,decide_eq_true_eq] at hdigits
    have hbounds := hdigits.2 unit hunit
    omega
  unfold isRecipient at h
  split at h
  · rename_i rest
    intro unit hunit
    rcases List.mem_cons.mp hunit with rfl | hunit
    · omega
    · exact hdigits rest h unit hunit
  · exact hdigits value h

theorem isRecipient_toNat_ascii (h : l850glSmsRecipientIsValid bytes = true) :
    ∀ c ∈ bytes,c.toNat < 0x80 := by
  intro c hc
  exact isRecipient_ascii ((isRecipient_toNat bytes).mpr h) _ (List.mem_map_of_mem hc)

/-- The recipients that the page accepts are those whose encoding the bridge accepts. -/
theorem isRecipient_iff : isRecipient value = true ↔
    ∃ bytes,EncodesAs value bytes ∧ l850glSmsRecipientIsValid bytes = true := by
  constructor
  · intro h
    have hascii := isRecipient_ascii h
    have hback : (value.map Char.ofNat).map Char.toNat = value := by
      rw [List.map_map]
      refine (List.map_congr_left fun unit hunit => ?_).trans (List.map_id value)
      exact toNat_ofNat (Nat.lt_trans (hascii unit hunit) (by decide))
    refine ⟨value.map Char.ofNat,⟨value,spells_ascii hascii,?_⟩,?_⟩
    · exact (flatMap_gUnicharToUtf8_ascii hascii).symm
    · rw [← isRecipient_toNat,hback]
      exact h
  · rintro ⟨bytes,⟨characters,⟨hscalar,rfl⟩,rfl⟩,hvalid⟩
    have hdecode := utf8Decode_encodeAll hscalar
    have hascii := isRecipient_toNat_ascii hvalid
    rw [utf8Decode_ascii hascii] at hdecode
    have hcharacters := Option.some.inj hdecode
    have hsmall : ∀ c ∈ characters,c < 0x80 := by
      intro c hc
      rw [← hcharacters] at hc
      obtain ⟨b,hb,rfl⟩ := List.mem_map.mp hc
      exact hascii b hb
    rw [← (spells_ascii hsmall).2,← hcharacters]
    exact (isRecipient_toNat _).mpr hvalid

theorem utf16Units_ne_nil (character : Nat) : utf16Units character ≠ [] := by
  unfold utf16Units
  split <;> simp

theorem gUnicharToUtf8_ne_nil (character : Nat) : gUnicharToUtf8 character ≠ [] := by
  unfold gUnicharToUtf8
  split_ifs <;> simp

theorem flatMap_eq_nil_iff_of_ne_nil {α : Type} {f : Nat → List α} (characters : List Nat)
    (hf : ∀ c,f c ≠ []) :
    characters.flatMap f = [] ↔ characters = [] := by
  cases characters with
  | nil => simp
  | cons c cs => simp [hf c]

theorem validateDraft_eq_none_iff : validateDraft recipient text = none ↔
    isRecipient recipient = true ∧ text ≠ [] ∧
      ∃ metrics,textMetrics text = some metrics ∧ metrics.scalars ≤ maxTextScalars ∧
        metrics.bytes ≤ maxTextBytes := by
  unfold validateDraft
  split_ifs with h₁ h₂
  · simp only [Bool.not_eq_true'] at h₁
    simp [h₁]
  · simp [h₂]
  · simp only [Bool.not_eq_true',Bool.not_eq_false] at h₁
    cases hm : textMetrics text with
    | none => simp [h₁,h₂]
    | some metrics => simp [h₁,h₂]

/-- What the check of the bridge leaves of a text, its control characters apart. -/
theorem l850glSmsOutboundTextIsValid_iff (hscalar : ∀ c ∈ characters,IsScalar c)
    (hcontrol : ∀ c ∈ characters,gUnicharIscntrl c = true → c = 9 ∨ c = 10 ∨ c = 13) :
    l850glSmsOutboundTextIsValid (characters.flatMap gUnicharToUtf8) = true ↔
      characters ≠ [] ∧ characters.length ≤ l850glSmsOutboundCharsMax ∧
        (characters.flatMap gUnicharToUtf8).length ≤ l850glSmsOutboundBytesMax := by
  have hall : (characters.all fun character =>
      !gUnicharIscntrl character || character == 10 || character == 13 || character == 9) =
        true := by
    refine List.all_eq_true.mpr fun c hc => ?_
    cases hc' : gUnicharIscntrl c with
    | false => rfl
    | true => rcases hcontrol c hc hc' with rfl | rfl | rfl <;> rfl
  have hempty := flatMap_eq_nil_iff_of_ne_nil characters gUnicharToUtf8_ne_nil
  unfold l850glSmsOutboundTextIsValid
  by_cases hlong : (characters.flatMap gUnicharToUtf8).length = 0 ∨
      (characters.flatMap gUnicharToUtf8).length > l850glSmsOutboundBytesMax
  · rw [if_pos hlong]
    simp only [Bool.false_eq_true,false_iff]
    rintro ⟨hne,-,hbytes⟩
    rw [List.length_eq_zero_iff,hempty] at hlong
    exact hlong.elim hne (Nat.not_lt.mpr hbytes)
  · rw [if_neg hlong,utf8Decode_encodeAll hscalar]
    rw [List.length_eq_zero_iff,hempty,not_or] at hlong
    simp only [hall,Bool.and_true,Bool.and_eq_true,decide_eq_true_eq,List.length_pos_iff]
    exact ⟨fun h => ⟨h.1,h.2,Nat.not_lt.mp hlong.2⟩,fun h => ⟨h.1,h.2.1⟩⟩

theorem control_of_units (h : Spells text characters)
    (hcontrol : ∀ unit ∈ text,gUnicharIscntrl unit = true → unit = 9 ∨ unit = 10 ∨ unit = 13) :
    ∀ c ∈ characters,gUnicharIscntrl c = true → c = 9 ∨ c = 10 ∨ c = 13 := by
  intro c hc hcntrl
  have hsmall : c < 0x10000 := by
    simp only [gUnicharIscntrl,Bool.or_eq_true,Bool.and_eq_true,decide_eq_true_eq] at hcntrl
    omega
  refine hcontrol c ?_ hcntrl
  rw [h.2]
  refine List.mem_flatMap.mpr ⟨c,hc,?_⟩
  simp [utf16Units,hsmall]

/-- The metrics of a text tell whether it is well formed, and its lengths; a draft without
control characters is accepted by the page exactly when the bridge accepts its encoding. -/
theorem validateDraft_agrees (recipient text : List UInt16) :
    (textMetrics (jsString text) = none ↔ ¬ WellFormed (jsString text)) ∧
    (∀ characters,Spells (jsString text) characters → textMetrics (jsString text) =
      some ⟨characters.length,(characters.flatMap gUnicharToUtf8).length⟩) ∧
    ((∀ unit ∈ jsString text,gUnicharIscntrl unit = true → unit = 9 ∨ unit = 10 ∨ unit = 13) →
      (validateDraft (jsString recipient) (jsString text) = none ↔
        ∃ recipientBytes textBytes,EncodesAs (jsString recipient) recipientBytes ∧
          EncodesAs (jsString text) textBytes ∧
          l850glSmsRecipientIsValid recipientBytes = true ∧
          l850glSmsOutboundTextIsValid textBytes = true)) := by
  have hunits : ∀ unit ∈ jsString text,unit < 0x10000 := by
    intro unit hunit
    obtain ⟨u,-,rfl⟩ := List.mem_map.mp hunit
    exact u.toNat_lt
  refine ⟨?_,fun characters h => textMetrics_spells h,fun hcontrol => ?_⟩
  · constructor
    · rintro hnone ⟨characters,h⟩
      rw [textMetrics_spells h] at hnone
      cases hnone
    · intro hill
      by_contra hsome
      exact hill (wellFormed_of_textMetrics hunits (Option.isSome_iff_ne_none.mpr hsome))
  · rw [validateDraft_eq_none_iff,isRecipient_iff]
    constructor
    · rintro ⟨⟨recipientBytes,hrecipient,hvalid⟩,hne,metrics,hmetrics,hscalars,hbytes⟩
      obtain ⟨characters,h⟩ := wellFormed_of_textMetrics hunits (by rw [hmetrics]; rfl)
      obtain rfl := Option.some.inj (hmetrics.symm.trans (textMetrics_spells h))
      refine ⟨recipientBytes,_,hrecipient,⟨characters,h,rfl⟩,hvalid,?_⟩
      refine (l850glSmsOutboundTextIsValid_iff h.1 (control_of_units h hcontrol)).mpr ?_
      refine ⟨?_,hscalars,hbytes⟩
      rintro rfl
      exact hne h.2
    · rintro ⟨recipientBytes,textBytes,hrecipient,⟨characters,h,rfl⟩,hvalid,htext⟩
      obtain ⟨hne,hscalars,hbytes⟩ :=
        (l850glSmsOutboundTextIsValid_iff h.1 (control_of_units h hcontrol)).mp htext
      refine ⟨⟨recipientBytes,hrecipient,hvalid⟩,?_,_,textMetrics_spells h,hscalars,hbytes⟩
      intro hempty
      exact hne ((flatMap_eq_nil_iff_of_ne_nil characters utf16Units_ne_nil).mp
        (h.2.symm.trans hempty))

/-- A text of one surrogate pair is sent. -/
theorem validateDraft_agrees_sample :
    ∃ recipientBytes textBytes,EncodesAs (jsString [0x2B,0x36,0x32]) recipientBytes ∧
      EncodesAs (jsString [0xD83D,0xDE00]) textBytes ∧
      l850glSmsRecipientIsValid recipientBytes = true ∧
      l850glSmsOutboundTextIsValid textBytes = true :=
  ((validateDraft_agrees [0x2B,0x36,0x32] [0xD83D,0xDE00]).2.2 (by decide)).mp (by decide)

end SmsPage
end Frontend
end L850GL
