import L850GL.Frontend.Replies
import L850GL.OwnNumber

/-! The texts that the bridge bounds in characters and the page in UTF-16 code units: the same
number bounds them both. -/
namespace L850GL
namespace Frontend

open Gateway JsValue Widgets SafeText Sms OwnNumber

/-- The UTF-16 code units of some characters. -/
def utf16Length (characters : List Nat) : Nat :=
  (characters.map fun character => if character < 0x10000 then 1 else 2).sum

/-- Of a text that the bridge shows, the characters up to a limit take no more code units than
that. -/
def Narrow (value : Option CString) (limit : Nat) : Prop :=
  ∀ text characters,value = some text → utf8Decode text = some characters →
    characters.any gUnicharIscntrl = false → utf16Length (characters.take limit) ≤ limit

variable {gateway : Gateway} {value : Option CString} {limit maximum : Nat} {characters : List Nat}

theorem utf16Length_le (characters : List Nat) : utf16Length characters ≤ 2*characters.length := by
  induction characters with
  | nil => exact Nat.le_refl _
  | cons character characters ih =>
    have hone : (if character < 0x10000 then 1 else 2) ≤ 2 := by
      split
      · omega
      · omega
    simp only [utf16Length,List.map_cons,List.sum_cons,List.length_cons] at ih ⊢
    omega

theorem toNat_ofNat_scalar {character : Nat} (h : IsScalar character) :
    (Char.ofNat character).toNat = character := by
  have hvalid : character.isValidChar := by
    unfold IsScalar at h
    unfold Nat.isValidChar
    omega
  rw [Char.ofNat,dif_pos hvalid]
  rfl

/-- The length of a text on the page. -/
theorem jsLength_characters (h : ∀ c ∈ characters,IsScalar c) :
    jsLength (characters.map Char.ofNat) = utf16Length characters := by
  rw [jsLength,utf16Length,List.map_map]
  refine congrArg List.sum (List.map_congr_left fun c hc => ?_)
  rw [Function.comp_apply,toNat_ofNat_scalar (h c hc)]

/-- The page's check of a text of scalar values other than zero. -/
theorem isString_characters {text : CString} (hdecode : utf8Decode text = some characters)
    (h : ∀ c ∈ characters,IsScalar c ∧ c ≠ 0) :
    isString (gateway.render (.string text)) maximum = true ↔ utf16Length characters ≤ maximum := by
  have hzero : '\x00' ∉ characters.map Char.ofNat := by
    intro hm
    obtain ⟨c,hc,hnul⟩ := List.mem_map.mp hm
    have htoNat := toNat_ofNat_scalar (h c hc).1
    rw [hnul] at htoNat
    exact (h c hc).2 htoNat.symm
  rw [render_string,gateway.utf8 _ _ hdecode,isString,jsLength_characters fun c hc => (h c hc).1]
  simp [hzero]

theorem ne_zero_of_not_iscntrl {character : Nat} (h : gUnicharIscntrl character = false) :
    character ≠ 0 := by
  rintro rfl
  exact absurd h (by decide)

theorem isString_safeText (value : Option CString) (limit maximum : Nat) :
    isString (gateway.render (.string (safeText value limit))) maximum = true ↔
      utf16Length (safeCharacters value limit) ≤ maximum := by
  refine isString_characters (utf8Decode_safeText value limit) fun c hc => ?_
  obtain ⟨hscalar,hcontrol⟩ := (safeCharacters_spec value limit).2 c hc
  exact ⟨hscalar,ne_zero_of_not_iscntrl hcontrol⟩

theorem narrow_iff : Narrow value limit ↔ utf16Length (safeCharacters value limit) ≤ limit := by
  unfold Narrow safeCharacters
  cases value with
  | none => simp [utf16Length]
  | some text =>
    cases hdecode : utf8Decode text with
    | none =>
      refine ⟨fun _ => by simp [hdecode,utf16Length],fun _ text' characters' htext hdecode' => ?_⟩
      obtain rfl := Option.some.inj htext
      rw [hdecode] at hdecode'
      cases hdecode'
    | some characters =>
      cases hcontrol : characters.any gUnicharIscntrl with
      | false =>
        simp only [Option.bind_some,hdecode,hcontrol,Bool.false_eq_true,if_false]
        constructor
        · exact fun h => h text characters rfl hdecode hcontrol
        · intro h text' characters' htext hdecode' _
          obtain rfl := Option.some.inj htext
          rw [hdecode] at hdecode'
          obtain rfl := Option.some.inj hdecode'
          exact h
      | true =>
        simp only [Option.bind_some,hdecode,hcontrol,if_true]
        constructor
        · exact fun _ => Nat.zero_le _
        · intro _ text' characters' htext hdecode' hno
          obtain rfl := Option.some.inj htext
          rw [hdecode] at hdecode'
          obtain rfl := Option.some.inj hdecode'
          rw [hcontrol] at hno
          cases hno

/-- Where both sides have one limit, the page takes just the narrow texts. -/
theorem isString_safeText_iff (gateway : Gateway) (value : Option CString) (limit : Nat) :
    isString (gateway.render (.string (safeText value limit))) limit = true ↔ Narrow value limit :=
  (isString_safeText value limit limit).trans narrow_iff.symm

/-- With twice the limit the page takes every text. -/
theorem isString_safeText_double (value : Option CString) (h : 2*limit ≤ maximum) :
    isString (gateway.render (.string (safeText value limit))) maximum = true := by
  rw [isString_safeText]
  have hunits := utf16Length_le (safeCharacters value limit)
  have hlength := (safeCharacters_spec value limit).1
  omega

theorem narrow_none (limit : Nat) : Narrow none limit := by
  intro text characters h
  cases h

theorem narrow_nil (limit : Nat) : Narrow (some []) limit := by
  have hnil : utf16Length (safeCharacters (some []) limit) = 0 := by
    simp [safeCharacters,utf8Decode,utf16Length]
  rw [narrow_iff,hnil]
  exact Nat.zero_le _

theorem safeText_eq_self {text : CString} (hdecode : utf8Decode text = some characters)
    (hcontrol : characters.any gUnicharIscntrl = false) (hlength : characters.length ≤ limit) :
    safeText (some text) limit = text := by
  simp only [safeText,Option.bind_some,hdecode,hcontrol,Bool.false_eq_true,if_false,
    if_neg (Nat.not_lt.mpr hlength)]

/-- What the bridge has once made of a text it leaves as it is. -/
theorem safeText_safeText (value : Option CString) (limit : Nat) :
    safeText (some (safeText value limit)) limit = safeText value limit := by
  obtain ⟨hlength,hall⟩ := safeCharacters_spec value limit
  have hcontrol : (safeCharacters value limit).any gUnicharIscntrl = false := by
    rw [List.any_eq_false]
    intro c hc
    rw [(hall c hc).2]
    exact Bool.false_ne_true
  exact safeText_eq_self (utf8Decode_safeText value limit) hcontrol hlength

/-- An own number of least sanitised value among those that are not empty. -/
def IsLeastNumber (numbers : List CString) (number : CString) : Prop :=
  number ∈ numbers ∧ candidateOf number ≠ [] ∧
    ∀ other ∈ numbers,candidateOf other ≠ [] → candidateOf number ≤ candidateOf other

/-- Each of the first sixteen own numbers that may be shown is narrow. -/
def NarrowNumber (numbers : List CString) : Prop :=
  ∀ number,IsLeastNumber (numbers.take maxOwnNumbers) number →
    Narrow (some number) safePhoneNumberMax

theorem isString_ownNumber (gateway : Gateway) (numbers : List CString) :
    isString (gateway.render (.string (safeText (some (preferredOwnNumber numbers))
      safePhoneNumberMax))) safePhoneNumberMax = true ↔ NarrowNumber numbers := by
  have hleast : ∀ number,IsLeastNumber (numbers.take maxOwnNumbers) number ↔
      number ∈ numbers.take maxOwnNumbers ∧ candidateOf number ≠ [] ∧
        preferredOwnNumber numbers = candidateOf number := by
    intro number
    rw [IsLeastNumber,preferredOwnNumber_eq]
    constructor
    · rintro ⟨hmem,hne,hle⟩
      refine ⟨hmem,hne,(smallestUsable_eq_iff hne).mpr ⟨mem_usable.mpr ⟨hne,number,hmem,rfl⟩,?_⟩⟩
      intro other hother
      obtain ⟨hother',number',hnumber',rfl⟩ := mem_usable.mp hother
      exact hle number' hnumber' hother'
    · rintro ⟨hmem,hne,hsmallest⟩
      refine ⟨hmem,hne,fun other hother hother' => ?_⟩
      exact ((smallestUsable_eq_iff hne).mp hsmallest).2 _
        (mem_usable.mpr ⟨hother',other,hother,rfl⟩)
  have hshown : ∀ number,preferredOwnNumber numbers = candidateOf number →
      (isString (gateway.render (.string (safeText (some (preferredOwnNumber numbers))
        safePhoneNumberMax))) safePhoneNumberMax = true ↔
          Narrow (some number) safePhoneNumberMax) := by
    intro number hnumber
    rw [hnumber,candidateOf,safeText_safeText]
    exact isString_safeText_iff _ _ _
  by_cases hempty : preferredOwnNumber numbers = []
  · constructor
    · intro _ number hnumber
      obtain ⟨-,hne,hsmallest⟩ := (hleast number).mp hnumber
      exact absurd (hsmallest.symm.trans hempty) hne
    · intro _
      rw [hempty]
      exact (isString_safeText_iff _ _ _).mpr (narrow_nil _)
  · obtain ⟨number,hnumber,hcandidate⟩ : ∃ number ∈ numbers.take maxOwnNumbers,
        candidateOf number = preferredOwnNumber numbers := by
      rw [preferredOwnNumber_eq] at hempty ⊢
      exact (mem_usable.mp ((smallestUsable_eq_iff hempty).mp rfl).1).2
    have hne : candidateOf number ≠ [] := by
      rw [hcandidate]
      exact hempty
    rw [hshown number hcandidate.symm]
    constructor
    · intro hnarrow other hother
      have hsame := ((hleast other).mp hother).2.2
      exact (hshown other hsame).mp ((hshown number hcandidate.symm).mpr hnarrow)
    · exact fun h => h number ((hleast number).mpr ⟨hnumber,hne,hcandidate.symm⟩)

end Frontend
end L850GL
