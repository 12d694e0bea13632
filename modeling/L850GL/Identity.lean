import L850GL.Text

/-! Random opaque tokens of `identity.c`. -/
namespace L850GL
namespace Identity

def l850glIdHexLen : Nat := 32
def l850glIdPrefix : CString := "l850gl-".toList
def l850glSmsIdPrefix : CString := "sms-".toList
def l850glSmsOpPrefix : CString := "smsop-".toList

def hexCharacter (digit : Nat) : Char := "0123456789abcdef".toList.getD digit '0'

def hexByte (byte : UInt8) : CString :=
  [hexCharacter (byte.toNat/16),hexCharacter (byte.toNat%16)]

/-- `random` is nothing when the random source failed. -/
def tokenGenerateWith (tokenPrefix : CString) (random : Option (Vector UInt8 16)) :
    Option CString :=
  random.map fun bytes => tokenPrefix++bytes.toList.flatMap hexByte

def isHexCharacter (value : Char) : Bool :=
  ('0' ≤ value && value ≤ '9') || ('a' ≤ value && value ≤ 'f')

def tokenIsValid (value tokenPrefix : CString) : Bool :=
  value.length == tokenPrefix.length+l850glIdHexLen && tokenPrefix.isPrefixOf value &&
    (value.drop tokenPrefix.length).all isHexCharacter

def l850glIdentityGenerateWith (random : Option (Vector UInt8 16)) : Option CString :=
  tokenGenerateWith l850glIdPrefix random

def l850glIdentityIsValid (modemId : CString) : Bool := tokenIsValid modemId l850glIdPrefix

def l850glSmsIdentityGenerateWith (random : Option (Vector UInt8 16)) : Option CString :=
  tokenGenerateWith l850glSmsIdPrefix random

def l850glSmsIdentityIsValid (smsId : CString) : Bool := tokenIsValid smsId l850glSmsIdPrefix

def l850glSmsOperationTokenIsValid (token : CString) : Bool :=
  tokenIsValid token l850glSmsOpPrefix

theorem hexByte_length (byte : UInt8) : (hexByte byte).length = 2 := rfl

theorem isHexCharacter_hexCharacter {digit : Nat} (h : digit < 16) :
    isHexCharacter (hexCharacter digit) = true := by
  have h₁ : ∀ d : Fin 16, isHexCharacter (hexCharacter d) = true := by decide
  exact h₁ ⟨digit,h⟩

theorem hexByte_all (byte : UInt8) : (hexByte byte).all isHexCharacter = true := by
  have h₁ : byte.toNat < 256 := byte.toNat_lt
  have h₂ : byte.toNat/16 < 16 := by omega
  have h₃ : byte.toNat%16 < 16 := Nat.mod_lt _ (by omega)
  simp [hexByte,isHexCharacter_hexCharacter h₂,isHexCharacter_hexCharacter h₃]

theorem tokenGenerateWith_length {tokenPrefix token : CString} {random : Option (Vector UInt8 16)}
    (h : tokenGenerateWith tokenPrefix random = some token) :
    token.length = tokenPrefix.length+l850glIdHexLen := by
  obtain ⟨bytes,-,rfl⟩ := Option.map_eq_some_iff.mp h
  have h₁ : ∀ bs : List UInt8, (bs.flatMap hexByte).length = 2*bs.length := by
    intro bs
    induction bs with
    | nil => rfl
    | cons b bs ih => simp only [List.flatMap_cons,List.length_append,hexByte_length,ih,
        List.length_cons]; omega
  simp [h₁,l850glIdHexLen]

/-- Every generated token passes its own check. -/
theorem tokenIsValid_generate {tokenPrefix token : CString} {random : Option (Vector UInt8 16)}
    (h : tokenGenerateWith tokenPrefix random = some token) :
    tokenIsValid token tokenPrefix = true := by
  have h₁ := tokenGenerateWith_length h
  obtain ⟨bytes,-,rfl⟩ := Option.map_eq_some_iff.mp h
  have h₂ : (bytes.toList.flatMap hexByte).all isHexCharacter = true := by
    simp only [List.all_flatMap,List.all_eq_true]
    intro b _ c hc
    exact List.all_eq_true.mp (hexByte_all b) c hc
  simp only [tokenIsValid,h₁,beq_self_eq_true,List.drop_left,h₂,Bool.and_true,Bool.true_and]
  exact List.isPrefixOf_iff_prefix.mpr (List.prefix_append _ _)

theorem isHexCharacter_ascii {c : Char} (h : isHexCharacter c = true) : c.toNat < 0x80 := by
  have h₁ : c ≤ '9' ∨ c ≤ 'f' := by
    simp only [isHexCharacter,Bool.or_eq_true,Bool.and_eq_true,decide_eq_true_eq] at h
    exact h.imp And.right And.right
  rcases h₁ with h₁ | h₁
  · exact Nat.lt_of_le_of_lt h₁ (by decide)
  · exact Nat.lt_of_le_of_lt h₁ (by decide)

theorem ascii_of_all {text : CString} (h : text.all (fun c => decide (c.toNat < 0x80)) = true) :
    ∀ c ∈ text, c.toNat < 0x80 := by
  simpa using h

/-- What holds of the characters of a prefix and of hexadecimal digits holds of all of a token. -/
theorem tokenIsValid_all {value tokenPrefix : CString} {P : Char → Prop}
    (h : tokenIsValid value tokenPrefix = true) (hp : ∀ c ∈ tokenPrefix, P c)
    (hhex : ∀ c, isHexCharacter c = true → P c) : ∀ c ∈ value, P c := by
  simp only [tokenIsValid,Bool.and_eq_true] at h
  obtain ⟨⟨-,hhead⟩,hrest⟩ := h
  obtain ⟨rest,rfl⟩ := List.isPrefixOf_iff_prefix.mp hhead
  intro c hc
  rcases List.mem_append.mp hc with hc | hc
  · exact hp c hc
  · rw [List.drop_left] at hrest
    exact hhex c (List.all_eq_true.mp hrest c hc)

/-- A valid token is ASCII. -/
theorem tokenIsValid_ascii {value tokenPrefix : CString} (h : tokenIsValid value tokenPrefix = true)
    (hp : ∀ c ∈ tokenPrefix, c.toNat < 0x80) : ∀ c ∈ value, c.toNat < 0x80 :=
  tokenIsValid_all h hp fun _ => isHexCharacter_ascii

end Identity
end L850GL
