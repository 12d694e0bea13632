import L850GL.Lib.ExpiringQueue
import L850GL.Text

/-! Recipients, outbound texts, request digests (`sms_policy.c`) and the window of the token
cache (`sms_dedupe_policy.c`). -/
namespace L850GL
namespace Sms

def l850glSmsRecipientDigitsMax : Nat := 20
def l850glSmsOutboundCharsMax : Nat := 1600
def l850glSmsOutboundBytesMax : Nat := 6400

def gAsciiIsdigit (c : Char) : Bool := '0' ≤ c && c ≤ '9'

def l850glSmsRecipientIsValid (recipient : CString) : Bool :=
  if recipient.length = 0 ∨ recipient.length > l850glSmsRecipientDigitsMax+1 then false
  else
    let digits := if recipient.head? = some '+' then recipient.tail else recipient
    digits.all gAsciiIsdigit && decide (1 ≤ digits.length) &&
      decide (digits.length ≤ l850glSmsRecipientDigitsMax)

def isContinuation (low high : Nat) (c : Char) : Bool := low ≤ c.toNat && c.toNat ≤ high

/-- The Unicode scalar values of a text of bytes, nothing when `g_utf8_validate` refuses it. -/
def utf8Decode : CString → Option (List Nat)
  | [] => some []
  | b₀::rest =>
    let n := b₀.toNat
    if n < 0x80 then (utf8Decode rest).map (n::·)
    else match rest with
      | [] => none
      | b₁::rest =>
        if 0xC2 ≤ n && n ≤ 0xDF then
          if isContinuation 0x80 0xBF b₁ then
            (utf8Decode rest).map ((n%0x20*0x40+b₁.toNat%0x40)::·)
          else none
        else match rest with
          | [] => none
          | b₂::rest =>
            if 0xE0 ≤ n && n ≤ 0xEF then
              let low := if n = 0xE0 then 0xA0 else 0x80
              let high := if n = 0xED then 0x9F else 0xBF
              if isContinuation low high b₁ && isContinuation 0x80 0xBF b₂ then
                (utf8Decode rest).map
                  ((n%0x10*0x1000+b₁.toNat%0x40*0x40+b₂.toNat%0x40)::·)
              else none
            else match rest with
              | [] => none
              | b₃::rest =>
                if 0xF0 ≤ n && n ≤ 0xF4 then
                  let low := if n = 0xF0 then 0x90 else 0x80
                  let high := if n = 0xF4 then 0x8F else 0xBF
                  if isContinuation low high b₁ && isContinuation 0x80 0xBF b₂ &&
                      isContinuation 0x80 0xBF b₃ then
                    (utf8Decode rest).map
                      ((n%0x08*0x40000+b₁.toNat%0x40*0x1000+b₂.toNat%0x40*0x40+
                        b₃.toNat%0x40)::·)
                  else none
                else none

theorem utf8Decode_one {b₀ : Char} {rest : CString} (h₀ : b₀.toNat < 0x80) :
    utf8Decode (b₀::rest) = (utf8Decode rest).map (b₀.toNat::·) := by
  conv_lhs => rw [utf8Decode.eq_def]
  simp only [h₀,if_true]

/-- The general category `Cc`. -/
def gUnicharIscntrl (character : Nat) : Bool :=
  character < 0x20 || (0x7F ≤ character && character < 0xA0)

def l850glSmsOutboundTextIsValid (value : CString) : Bool :=
  if value.length = 0 ∨ value.length > l850glSmsOutboundBytesMax then false
  else match utf8Decode value with
    | none => false
    | some characters =>
      decide (0 < characters.length) && decide (characters.length ≤ l850glSmsOutboundCharsMax) &&
        characters.all fun character =>
          !gUnicharIscntrl character || character == 10 || character == 13 || character == 9

abbrev Digest := Vector UInt8 32

/-- The eight length bytes of `checksum_add_field`, the highest first. -/
def encodedLength (length : Nat) : CString :=
  (List.range 8).map fun index => Char.ofNat (length/256^(7-index)%256)

def checksumField (value : CString) : CString := encodedLength value.length++value

/-- The domain with its NUL. -/
def digestDomain : CString := "l850gl-mm-send-sms-v1".toList++[Char.ofNat 0]

/-- The bytes that `l850gl_sms_request_digest` hashes. -/
def requestDigestInput (recipient text : CString) : CString :=
  digestDomain++(checksumField recipient++checksumField text)

def l850glSmsRequestDigest (sha256 : CString → Digest) (recipient text : CString) : Digest :=
  sha256 (requestDigestInput recipient text)

def l850glSmsDedupeSeconds : Nat := 300
def l850glSmsDedupeMax : Nat := 64
def int64Max : Int := 9223372036854775807

def dedupeWindow : Int := (l850glSmsDedupeSeconds : Int)*1000000

def l850glSmsDedupeExpiry (now : Int) : Int :=
  if now < 0 then 0
  else if now > int64Max-dedupeWindow then int64Max
  else now+dedupeWindow

theorem encodedLength_length (n : Nat) : (encodedLength n).length = 8 := rfl

theorem encodedLength_inj {m n : Nat} (hm : m < 65536) (hn : n < 65536)
    (h : encodedLength m = encodedLength n) : m = n := by
  have htoNat : ∀ a : Fin 256, (Char.ofNat a).toNat = a := by decide +kernel
  have hchar : ∀ {a b : Nat}, a < 256 → b < 256 → Char.ofNat a = Char.ofNat b → a = b := by
    intro a b ha hb hab
    have h₁ := congrArg Char.toNat hab
    rwa [htoNat ⟨a,ha⟩,htoNat ⟨b,hb⟩] at h₁
  simp only [encodedLength,List.map_inj_left,List.mem_range] at h
  have h₁ := hchar (Nat.mod_lt _ (by omega)) (Nat.mod_lt _ (by omega)) (h 7 (by omega))
  have h₂ := hchar (Nat.mod_lt _ (by omega)) (Nat.mod_lt _ (by omega)) (h 6 (by omega))
  simp only [Nat.sub_self,Nat.pow_zero,Nat.div_one] at h₁ h₂
  omega

/-- Distinct messages are hashed from distinct bytes. -/
theorem requestDigestInput_inj {recipient text recipient' text' : CString}
    (hr : recipient.length < 65536) (hr' : recipient'.length < 65536)
    (h : requestDigestInput recipient text = requestDigestInput recipient' text') :
    recipient = recipient' ∧ text = text' := by
  simp only [requestDigestInput,checksumField,List.append_cancel_left_eq,List.append_assoc] at h
  obtain ⟨hlength,h₂⟩ := List.append_inj h (by simp only [encodedLength_length])
  obtain ⟨h₃,h₄⟩ := List.append_inj h₂ (encodedLength_inj hr hr' hlength)
  obtain ⟨-,h₅⟩ := List.append_inj h₄ (by simp only [encodedLength_length])
  exact ⟨h₃,h₅⟩

theorem l850glSmsRecipientIsValid_length {recipient : CString}
    (h : l850glSmsRecipientIsValid recipient = true) : recipient.length < 65536 := by
  unfold l850glSmsRecipientIsValid at h
  split at h
  · cases h
  · rename_i hl
    simp only [l850glSmsRecipientDigitsMax] at hl
    omega

theorem l850glSmsDedupeExpiry_mono {s t : Int} (hs : 0 ≤ s) (h : s ≤ t) :
    l850glSmsDedupeExpiry s ≤ l850glSmsDedupeExpiry t := by
  simp only [l850glSmsDedupeExpiry,int64Max,dedupeWindow,l850glSmsDedupeSeconds]
  split_ifs <;> omega

/-- Before the clock ends, an expired entry is 300 s old. -/
theorem l850glSmsDedupeExpiry_le {stored now : Int} (hs : 0 ≤ stored) (hn : now < int64Max)
    (h : l850glSmsDedupeExpiry stored ≤ now) : stored+dedupeWindow ≤ now := by
  simp only [l850glSmsDedupeExpiry,int64Max,dedupeWindow,l850glSmsDedupeSeconds] at h hn ⊢
  split_ifs at h <;> omega

end Sms
end L850GL
