import L850GL.Sms.Policy

/-! Texts that ModemManager reports as they go out in a reply: valid UTF-8, bounded, and without
control characters. -/
namespace L850GL
namespace SafeText

open Sms

def safeTextMax : Nat := 160
def safePortMax : Nat := 64
def safeIdentifierMax : Nat := 64
def safePhoneNumberMax : Nat := 32
def maxOwnNumbers : Nat := 16
def smsInboundCharsMax : Nat := 4096
def smsInboundBytesMax : Nat := 16384

/-- A Unicode scalar value. -/
def IsScalar (character : Nat) : Prop :=
  character < 0xD800 ∨ 0xE000 ≤ character ∧ character < 0x110000

/-- `g_unichar_to_utf8` of a scalar value. -/
def gUnicharToUtf8 (character : Nat) : CString :=
  if character < 0x80 then [Char.ofNat character]
  else if character < 0x800 then
    [Char.ofNat (0xC0+character/0x40),Char.ofNat (0x80+character%0x40)]
  else if character < 0x10000 then
    [Char.ofNat (0xE0+character/0x1000),Char.ofNat (0x80+character/0x40%0x40),
      Char.ofNat (0x80+character%0x40)]
  else
    [Char.ofNat (0xF0+character/0x40000),Char.ofNat (0x80+character/0x1000%0x40),
      Char.ofNat (0x80+character/0x40%0x40),Char.ofNat (0x80+character%0x40)]

/-- `safe_text`. -/
def safeText (value : Option CString) (limit : Nat) : CString :=
  match value,value.bind utf8Decode with
  | some value,some characters =>
    if characters.any gUnicharIscntrl then []
    else if limit < characters.length then (characters.take limit).flatMap gUnicharToUtf8
    else value
  | _,_ => []

/-- `safe_sms_text` shows a control character, line breaks and tabs apart, as U+FFFD. -/
def smsReplaces (character : Nat) : Bool :=
  gUnicharIscntrl character && character != 10 && character != 13 && character != 9

def smsCharacter (character : Nat) : Nat := if smsReplaces character then 0xFFFD else character

/-- The loop of `safe_sms_text` after `count` characters of `length` bytes; the flag tells that
the text is not complete. -/
def safeSmsTextLoop : Nat → Nat → List Nat → CString × Bool
  | _, _, [] => ([],false)
  | count, length, character::rest =>
    if smsInboundCharsMax ≤ count then ([],true)
    else
      let encoded := gUnicharToUtf8 (smsCharacter character)
      if smsInboundBytesMax < length+encoded.length then ([],true)
      else
        let later := safeSmsTextLoop (count+1) (length+encoded.length) rest
        (encoded++later.1,smsReplaces character || later.2)

/-- `safe_sms_text`. -/
def safeSmsText (value : Option CString) : CString × Bool :=
  match value with
  | none => ([],false)
  | some value =>
    match utf8Decode value with
    | none => ([],true)
    | some characters => safeSmsTextLoop 0 0 characters

theorem toNat_ofNat {n : Nat} (h : n < 256) : (Char.ofNat n).toNat = n := by
  have h₁ : ∀ a : Fin 256, (Char.ofNat a).toNat = a := by decide +kernel
  exact h₁ ⟨n,h⟩

theorem utf8Decode_two {b₀ b₁ : Char} {rest : CString} (h₀ : 0xC2 ≤ b₀.toNat)
    (h₀' : b₀.toNat ≤ 0xDF) (h₁ : isContinuation 0x80 0xBF b₁ = true) :
    utf8Decode (b₀::b₁::rest) =
      (utf8Decode rest).map ((b₀.toNat%0x20*0x40+b₁.toNat%0x40)::·) := by
  conv_lhs => rw [utf8Decode.eq_def]
  have h : ¬b₀.toNat < 0x80 := by omega
  simp only [h,h₀,h₀',h₁,if_true,if_false,decide_true,Bool.and_self]

theorem utf8Decode_three {b₀ b₁ b₂ : Char} {rest : CString} (h₀ : 0xE0 ≤ b₀.toNat)
    (h₀' : b₀.toNat ≤ 0xEF) (h₁ : isContinuation (if b₀.toNat = 0xE0 then 0xA0 else 0x80)
      (if b₀.toNat = 0xED then 0x9F else 0xBF) b₁ = true)
    (h₂ : isContinuation 0x80 0xBF b₂ = true) :
    utf8Decode (b₀::b₁::b₂::rest) = (utf8Decode rest).map
      ((b₀.toNat%0x10*0x1000+b₁.toNat%0x40*0x40+b₂.toNat%0x40)::·) := by
  conv_lhs => rw [utf8Decode.eq_def]
  have h : ¬b₀.toNat < 0x80 := by omega
  have h' : ¬b₀.toNat ≤ 0xDF := by omega
  simp only [h,h',h₀,h₀',h₁,h₂,if_true,if_false,decide_true,decide_false,Bool.and_self,
    Bool.and_false,Bool.false_eq_true]

theorem utf8Decode_four {b₀ b₁ b₂ b₃ : Char} {rest : CString} (h₀ : 0xF0 ≤ b₀.toNat)
    (h₀' : b₀.toNat ≤ 0xF4) (h₁ : isContinuation (if b₀.toNat = 0xF0 then 0x90 else 0x80)
      (if b₀.toNat = 0xF4 then 0x8F else 0xBF) b₁ = true)
    (h₂ : isContinuation 0x80 0xBF b₂ = true) (h₃ : isContinuation 0x80 0xBF b₃ = true) :
    utf8Decode (b₀::b₁::b₂::b₃::rest) = (utf8Decode rest).map
      ((b₀.toNat%0x08*0x40000+b₁.toNat%0x40*0x1000+b₂.toNat%0x40*0x40+b₃.toNat%0x40)::·) := by
  conv_lhs => rw [utf8Decode.eq_def]
  have h : ¬b₀.toNat < 0x80 := by omega
  have h' : ¬b₀.toNat ≤ 0xDF := by omega
  have h'' : ¬b₀.toNat ≤ 0xEF := by omega
  simp only [h,h',h'',h₀,h₀',h₁,h₂,h₃,if_true,if_false,decide_true,decide_false,Bool.and_self,
    Bool.and_false,Bool.false_eq_true]

theorem utf8Decode_ascii {value : CString} (h : ∀ c ∈ value, c.toNat < 0x80) :
    utf8Decode value = some (value.map Char.toNat) := by
  induction value with
  | nil => rfl
  | cons c cs ih =>
    rw [utf8Decode_one (h c List.mem_cons_self),ih fun x hx => h x (List.mem_cons_of_mem _ hx)]
    rfl

theorem isContinuation_ofNat {low high n : Nat} (h : n < 256) (hl : low ≤ n) (hh : n ≤ high) :
    isContinuation low high (Char.ofNat n) = true := by
  simp only [isContinuation,toNat_ofNat h,hl,hh,decide_true,Bool.and_self]

/-- What is encoded is decoded again. -/
theorem utf8Decode_encode {character : Nat} (h : IsScalar character) (rest : CString) :
    utf8Decode (gUnicharToUtf8 character++rest) = (utf8Decode rest).map (character::·) := by
  unfold IsScalar at h
  unfold gUnicharToUtf8
  have hcongr : ∀ {n : Nat}, n = character →
      (utf8Decode rest).map (n::·) = (utf8Decode rest).map (character::·) := by
    rintro n rfl
    rfl
  split
  · rename_i h₁
    have ha := toNat_ofNat (show character < 256 by omega)
    simp only [List.cons_append,List.nil_append]
    rw [utf8Decode_one (by rw [ha]; exact h₁),ha]
  split
  · rename_i h₁ h₂
    have ha := toNat_ofNat (show 0xC0+character/0x40 < 256 by omega)
    have hb := toNat_ofNat (show 0x80+character%0x40 < 256 by omega)
    simp only [List.cons_append,List.nil_append]
    rw [utf8Decode_two (by rw [ha]; omega) (by rw [ha]; omega)
      (isContinuation_ofNat (by omega) (by omega) (by omega)),ha,hb]
    exact hcongr (by omega)
  split
  · rename_i h₁ h₂ h₃
    have ha := toNat_ofNat (show 0xE0+character/0x1000 < 256 by omega)
    have hb := toNat_ofNat (show 0x80+character/0x40%0x40 < 256 by omega)
    have hc := toNat_ofNat (show 0x80+character%0x40 < 256 by omega)
    simp only [List.cons_append,List.nil_append]
    rw [utf8Decode_three (by rw [ha]; omega) (by rw [ha]; omega)
      (isContinuation_ofNat (by omega) (by rw [ha]; split <;> omega) (by rw [ha]; split <;> omega))
      (isContinuation_ofNat (by omega) (by omega) (by omega)),ha,hb,hc]
    exact hcongr (by omega)
  · rename_i h₁ h₂ h₃
    have ha := toNat_ofNat (show 0xF0+character/0x40000 < 256 by omega)
    have hb := toNat_ofNat (show 0x80+character/0x1000%0x40 < 256 by omega)
    have hc := toNat_ofNat (show 0x80+character/0x40%0x40 < 256 by omega)
    have hd := toNat_ofNat (show 0x80+character%0x40 < 256 by omega)
    simp only [List.cons_append,List.nil_append]
    rw [utf8Decode_four (by rw [ha]; omega) (by rw [ha]; omega)
      (isContinuation_ofNat (by omega) (by rw [ha]; split <;> omega) (by rw [ha]; split <;> omega))
      (isContinuation_ofNat (by omega) (by omega) (by omega))
      (isContinuation_ofNat (by omega) (by omega) (by omega)),ha,hb,hc,hd]
    exact hcongr (by omega)

theorem utf8Decode_encodeAll {characters : List Nat} (h : ∀ c ∈ characters, IsScalar c) :
    utf8Decode (characters.flatMap gUnicharToUtf8) = some characters := by
  induction characters with
  | nil => rfl
  | cons c cs ih =>
    rw [List.flatMap_cons,utf8Decode_encode (h c List.mem_cons_self),
      ih fun x hx => h x (List.mem_cons_of_mem _ hx)]
    rfl

theorem isScalar_cons {rest : CString} {c : Nat} {characters : List Nat}
    (ih : ∀ {l : List Nat}, utf8Decode rest = some l → ∀ x ∈ l, IsScalar x) (hc : IsScalar c)
    (h : (utf8Decode rest).map (c::·) = some characters) : ∀ x ∈ characters, IsScalar x := by
  obtain ⟨l,hl,rfl⟩ := Option.map_eq_some_iff.mp h
  intro x hx
  rcases List.mem_cons.mp hx with rfl | hx
  · exact hc
  · exact ih hl x hx

/-- Only scalar values are decoded. -/
theorem utf8Decode_isScalar {value : CString} {characters : List Nat}
    (h : utf8Decode value = some characters) : ∀ c ∈ characters, IsScalar c := by
  fun_induction utf8Decode value generalizing characters with
  | case1 =>
    cases h
    simp
  | case2 b₀ rest n hn =>
    rename_i ih
    refine isScalar_cons ih ?_ h
    unfold IsScalar
    omega
  | case4 b₀ n hn b₁ rest hlead htail =>
    rename_i ih
    refine isScalar_cons ih ?_ h
    unfold IsScalar
    omega
  | case7 b₀ n hn b₁ hlead b₂ rest hlead' low high htail =>
    rename_i ih
    refine isScalar_cons ih ?_ h
    simp only [isContinuation,Bool.and_eq_true,decide_eq_true_eq] at htail hlead'
    have hlow : 0x80 ≤ low ∧ (n = 0xE0 → low = 0xA0) := by
      simp only [low]
      split <;> omega
    have hhigh : high ≤ 0xBF ∧ (n = 0xED → high = 0x9F) := by
      simp only [high]
      split <;> omega
    unfold IsScalar
    omega
  | case10 b₀ n hn b₁ hlead b₂ hlead' b₃ rest hlead'' low high htail =>
    rename_i ih
    refine isScalar_cons ih ?_ h
    simp only [isContinuation,Bool.and_eq_true,decide_eq_true_eq] at htail hlead''
    have hlow : 0x80 ≤ low ∧ (n = 0xF0 → low = 0x90) := by
      simp only [low]
      split <;> omega
    have hhigh : high ≤ 0xBF ∧ (n = 0xF4 → high = 0x8F) := by
      simp only [high]
      split <;> omega
    unfold IsScalar
    omega
  | _ => cases h

theorem encode_cons {rest value bytes : CString} {c : Nat} {characters : List Nat}
    (ih : ∀ {l : List Nat}, utf8Decode rest = some l → l.flatMap gUnicharToUtf8 = rest)
    (hc : gUnicharToUtf8 c = bytes) (hvalue : value = bytes++rest)
    (h : (utf8Decode rest).map (c::·) = some characters) :
    characters.flatMap gUnicharToUtf8 = value := by
  obtain ⟨l,hl,rfl⟩ := Option.map_eq_some_iff.mp h
  rw [List.flatMap_cons,ih hl,hc,hvalue]

/-- A byte rebuilt from its number. -/
theorem ofNat_eq {n : Nat} {b : Char} (h : n = b.toNat) : Char.ofNat n = b := by
  rw [h,Char.ofNat_toNat]

/-- What is decoded is encoded again. -/
theorem encode_utf8Decode {value : CString} {characters : List Nat}
    (h : utf8Decode value = some characters) : characters.flatMap gUnicharToUtf8 = value := by
  fun_induction utf8Decode value generalizing characters with
  | case1 =>
    cases h
    rfl
  | case2 b₀ rest n hn =>
    rename_i ih
    have hc : gUnicharToUtf8 n = [b₀] := by
      simp only [gUnicharToUtf8,hn,if_true]
      rw [ofNat_eq rfl]
    exact encode_cons ih hc rfl h
  | case4 b₀ n hn b₁ rest hlead htail =>
    rename_i ih
    simp only [isContinuation,Bool.and_eq_true,decide_eq_true_eq] at htail hlead
    have hc : gUnicharToUtf8 (n%0x20*0x40+b₁.toNat%0x40) = [b₀,b₁] := by
      have h₁ : ¬ n%0x20*0x40+b₁.toNat%0x40 < 0x80 := by omega
      have h₂ : n%0x20*0x40+b₁.toNat%0x40 < 0x800 := by omega
      simp only [gUnicharToUtf8,h₁,h₂,if_true,if_false]
      rw [ofNat_eq (b:=b₀) (by omega),ofNat_eq (b:=b₁) (by omega)]
    exact encode_cons ih hc rfl h
  | case7 b₀ n hn b₁ hlead b₂ rest hlead' low high htail =>
    rename_i ih
    simp only [isContinuation,Bool.and_eq_true,decide_eq_true_eq] at htail hlead'
    have hlow : 0x80 ≤ low ∧ (n = 0xE0 → low = 0xA0) := by
      simp only [low]
      split <;> omega
    have hhigh : high ≤ 0xBF := by
      simp only [high]
      split <;> omega
    have hc : gUnicharToUtf8 (n%0x10*0x1000+b₁.toNat%0x40*0x40+b₂.toNat%0x40) = [b₀,b₁,b₂] := by
      have h₁ : ¬ n%0x10*0x1000+b₁.toNat%0x40*0x40+b₂.toNat%0x40 < 0x80 := by omega
      have h₂ : ¬ n%0x10*0x1000+b₁.toNat%0x40*0x40+b₂.toNat%0x40 < 0x800 := by omega
      have h₃ : n%0x10*0x1000+b₁.toNat%0x40*0x40+b₂.toNat%0x40 < 0x10000 := by omega
      simp only [gUnicharToUtf8,h₁,h₂,h₃,if_true,if_false]
      rw [ofNat_eq (b:=b₀) (by omega),ofNat_eq (b:=b₁) (by omega),ofNat_eq (b:=b₂) (by omega)]
    exact encode_cons ih hc rfl h
  | case10 b₀ n hn b₁ hlead b₂ hlead' b₃ rest hlead'' low high htail =>
    rename_i ih
    simp only [isContinuation,Bool.and_eq_true,decide_eq_true_eq] at htail hlead''
    have hlow : 0x80 ≤ low ∧ (n = 0xF0 → low = 0x90) := by
      simp only [low]
      split <;> omega
    have hhigh : high ≤ 0xBF := by
      simp only [high]
      split <;> omega
    have hc : gUnicharToUtf8 (n%0x08*0x40000+b₁.toNat%0x40*0x1000+b₂.toNat%0x40*0x40+
        b₃.toNat%0x40) = [b₀,b₁,b₂,b₃] := by
      have h₁ : 0x10000 ≤ n%0x08*0x40000+b₁.toNat%0x40*0x1000+b₂.toNat%0x40*0x40+b₃.toNat%0x40 := by
        omega
      have h₂ := Nat.not_lt.mpr (Nat.le_trans (by decide : 0x80 ≤ 0x10000) h₁)
      have h₃ := Nat.not_lt.mpr (Nat.le_trans (by decide : 0x800 ≤ 0x10000) h₁)
      have h₄ := Nat.not_lt.mpr h₁
      simp only [gUnicharToUtf8,h₂,h₃,h₄,if_false]
      rw [ofNat_eq (b:=b₀) (by omega),ofNat_eq (b:=b₁) (by omega),ofNat_eq (b:=b₂) (by omega),
        ofNat_eq (b:=b₃) (by omega)]
    exact encode_cons ih hc rfl h
  | _ => cases h

/-- The characters that `safe_text` leaves of a reported text. -/
def safeCharacters (value : Option CString) (limit : Nat) : List Nat :=
  match value.bind utf8Decode with
  | none => []
  | some characters => if characters.any gUnicharIscntrl then [] else characters.take limit

theorem utf8Decode_safeText (value : Option CString) (limit : Nat) :
    utf8Decode (safeText value limit) = some (safeCharacters value limit) := by
  cases value with
  | none => rfl
  | some value =>
    simp only [safeText,safeCharacters,Option.bind_some]
    cases hd : utf8Decode value with
    | none => rfl
    | some characters =>
      dsimp only
      split
      · rfl
      split
      · exact utf8Decode_encodeAll fun c hc =>
          utf8Decode_isScalar hd c (List.mem_of_mem_take hc)
      · rename_i hlimit
        rw [hd,List.take_of_length_le (by omega)]

theorem safeCharacters_spec (value : Option CString) (limit : Nat) :
    (safeCharacters value limit).length ≤ limit ∧
      ∀ c ∈ safeCharacters value limit, IsScalar c ∧ gUnicharIscntrl c = false := by
  unfold safeCharacters
  cases hd : value.bind utf8Decode with
  | none => exact ⟨Nat.zero_le _,by simp⟩
  | some characters =>
    obtain ⟨text,-,ht⟩ := Option.bind_eq_some_iff.mp hd
    dsimp only
    split
    · exact ⟨Nat.zero_le _,by simp⟩
    · rename_i hc
      refine ⟨List.length_take_le _ _,fun c hm => ?_⟩
      have hm' := List.mem_of_mem_take hm
      refine ⟨utf8Decode_isScalar ht c hm',?_⟩
      simp only [List.any_eq_true,not_exists,not_and,Bool.not_eq_true] at hc
      exact hc c hm'

theorem smsCharacter_spec {c : Nat} (h : IsScalar c) :
    IsScalar (smsCharacter c) ∧ smsCharacter c ≠ 0 := by
  unfold smsCharacter
  split
  · exact ⟨.inr ⟨by omega,by omega⟩,by omega⟩
  · rename_i hc
    refine ⟨h,?_⟩
    rintro rfl
    exact hc (by decide)

theorem safeSmsTextLoop_spec {characters : List Nat} (count length : Nat)
    (h : ∀ c ∈ characters, IsScalar c) :
    ∃ shown, utf8Decode (safeSmsTextLoop count length characters).1 = some shown ∧
      shown.length+count ≤ max smsInboundCharsMax count ∧ ∀ c ∈ shown, IsScalar c ∧ c ≠ 0 := by
  have hempty : ∃ shown, utf8Decode [] = some shown ∧
      shown.length+count ≤ max smsInboundCharsMax count ∧ ∀ c ∈ shown, IsScalar c ∧ c ≠ 0 :=
    ⟨[],rfl,by simp only [List.length_nil]; omega,by simp⟩
  induction characters generalizing count length with
  | nil => exact hempty
  | cons c cs ih =>
    simp only [safeSmsTextLoop]
    split
    · exact hempty
    rename_i hcount
    split
    · exact hempty
    obtain ⟨shown,hs,hl,hall⟩ := ih (count+1) (length+(gUnicharToUtf8 (smsCharacter c)).length)
      (fun x hx => h x (List.mem_cons_of_mem _ hx))
      ⟨[],rfl,by simp only [List.length_nil]; omega,by simp⟩
    obtain ⟨hscalar,hzero⟩ := smsCharacter_spec (h c List.mem_cons_self)
    refine ⟨smsCharacter c::shown,?_,?_,fun x hx => ?_⟩
    · rw [utf8Decode_encode hscalar,hs]
      rfl
    · simp only [List.length_cons]
      omega
    · rcases List.mem_cons.mp hx with rfl | hx
      · exact ⟨hscalar,hzero⟩
      · exact hall x hx

/-- A message text goes out as valid UTF-8 of at most 4096 characters, without a NUL. -/
theorem safeSmsText_spec (value : Option CString) :
    ∃ shown, utf8Decode (safeSmsText value).1 = some shown ∧
      shown.length ≤ smsInboundCharsMax ∧ ∀ c ∈ shown, IsScalar c ∧ c ≠ 0 := by
  unfold safeSmsText
  split
  · exact ⟨[],rfl,Nat.zero_le _,by simp⟩
  split
  · exact ⟨[],rfl,Nat.zero_le _,by simp⟩
  · rename_i characters hd
    obtain ⟨shown,hs,hl,hall⟩ := safeSmsTextLoop_spec 0 0 (utf8Decode_isScalar hd)
    exact ⟨shown,hs,by simpa using hl,hall⟩

end SafeText
end L850GL
