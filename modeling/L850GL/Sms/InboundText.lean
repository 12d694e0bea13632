import L850GL.SafeText

/-! What `safe_sms_text` shows of a message text.  Four bytes hold any character, so that the
byte limit is never what cuts a text. -/
namespace L850GL
namespace SafeText

open Sms

theorem gUnicharToUtf8_length (character : Nat) : (gUnicharToUtf8 character).length ≤ 4 := by
  unfold gUnicharToUtf8
  split_ifs <;> simp

/-- The characters shown of a text. -/
def shownCharacters (characters : List Nat) : List Nat :=
  (characters.take smsInboundCharsMax).map smsCharacter

/-- The loop shows the characters that the limit admits, and tells of any it cut or replaced. -/
theorem safeSmsTextLoop_eq (characters : List Nat) (count length : Nat)
    (hcount : count ≤ smsInboundCharsMax) (hlength : length ≤ 4*count) :
    safeSmsTextLoop count length characters =
      (((characters.take (smsInboundCharsMax-count)).map smsCharacter).flatMap gUnicharToUtf8,
        decide (smsInboundCharsMax-count < characters.length) ||
          (characters.take (smsInboundCharsMax-count)).any smsReplaces) := by
  induction characters generalizing count length with
  | nil => simp [safeSmsTextLoop]
  | cons character rest ih =>
    by_cases hfull : smsInboundCharsMax ≤ count
    · have hzero : smsInboundCharsMax-count = 0 := by omega
      simp [safeSmsTextLoop,hfull,hzero]
    · have hencoded := gUnicharToUtf8_length (smsCharacter character)
      have hbytes : ¬ smsInboundBytesMax <
          length+(gUnicharToUtf8 (smsCharacter character)).length := by
        simp only [smsInboundBytesMax,smsInboundCharsMax] at hfull ⊢
        omega
      have hsucc : smsInboundCharsMax-count = (smsInboundCharsMax-(count+1))+1 := by omega
      have hrest := ih (count+1) (length+(gUnicharToUtf8 (smsCharacter character)).length)
        (by omega) (by omega)
      simp only [safeSmsTextLoop,hfull,hbytes,if_false,hrest,hsucc,List.take_succ_cons,
        List.map_cons,List.flatMap_cons,List.any_cons,List.length_cons,Nat.add_lt_add_iff_right]
      rw [Bool.or_left_comm]

theorem safeSmsText_eq {value : CString} {characters : List Nat}
    (h : utf8Decode value = some characters) :
    safeSmsText (some value) = ((shownCharacters characters).flatMap gUnicharToUtf8,
      decide (smsInboundCharsMax < characters.length) ||
        (characters.take smsInboundCharsMax).any smsReplaces) := by
  simp only [safeSmsText,h]
  exact safeSmsTextLoop_eq characters 0 0 (Nat.zero_le _) (Nat.zero_le _)

theorem flatMap_gUnicharToUtf8_length (characters : List Nat) :
    (characters.flatMap gUnicharToUtf8).length ≤ 4*characters.length := by
  induction characters with
  | nil => simp
  | cons c cs ih =>
    have hc := gUnicharToUtf8_length c
    simp only [List.flatMap_cons,List.length_append,List.length_cons]
    omega

/-- A replaced character is no control character. -/
theorem smsReplaces_smsCharacter (character : Nat) : smsReplaces (smsCharacter character) = false :=
    by
  unfold smsCharacter
  split
  · decide
  · simp_all

theorem smsCharacter_ne {character : Nat} (h : smsReplaces character = true) :
    smsCharacter character ≠ character := by
  intro heq
  have hshown := smsReplaces_smsCharacter character
  rw [heq,h] at hshown
  cases hshown

theorem smsCharacter_eq {character : Nat} (h : smsReplaces character = false) :
    smsCharacter character = character := by
  simp [smsCharacter,h]

theorem smsCharacter_eq_ite (c : Nat) : smsCharacter c =
    if gUnicharIscntrl c ∧ c ≠ 9 ∧ c ≠ 10 ∧ c ≠ 13 then 0xFFFD else c := by
  have hiff : smsReplaces c = true ↔ gUnicharIscntrl c ∧ c ≠ 9 ∧ c ≠ 10 ∧ c ≠ 13 := by
    simp only [smsReplaces,Bool.and_eq_true,bne_iff_ne]
    tauto
  simp only [smsCharacter,hiff]

/-- A text is shown whole exactly when nothing of it is cut or replaced. -/
theorem shownCharacters_eq_iff (characters : List Nat) :
    shownCharacters characters = characters ↔
      characters.length ≤ smsInboundCharsMax ∧
        ∀ c ∈ characters.take smsInboundCharsMax,smsReplaces c = false := by
  constructor
  · intro h
    have hlength := congrArg List.length h
    simp only [shownCharacters,List.length_map,List.length_take] at hlength
    have hle : characters.length ≤ smsInboundCharsMax := by omega
    refine ⟨hle,fun c hc => ?_⟩
    have hmap : ∀ c ∈ characters,smsCharacter c = c := by
      simp only [shownCharacters,List.take_of_length_le hle] at h
      exact List.map_inj_left.mp (h.trans (List.map_id characters).symm)
    by_contra hreplaced
    exact smsCharacter_ne (by simpa using hreplaced) (hmap c (List.mem_of_mem_take hc))
  · rintro ⟨hle,hall⟩
    rw [List.take_of_length_le hle] at hall
    simp only [shownCharacters,List.take_of_length_le hle]
    have hmap : characters.map smsCharacter = characters.map id :=
      List.map_inj_left.mpr fun c hc => smsCharacter_eq (hall c hc)
    rw [hmap,List.map_id]

/-- What is shown of a message text is well formed, within both limits and without control
characters but tabs and line breaks: the longest prefix that the character limit admits, other
control characters replaced.  The flag tells whether it is the whole text. -/
theorem safeSmsText_sanitises (value : CString) :
    let shown := safeSmsText (some value)
    (∃ characters,utf8Decode shown.1 = some characters ∧
      characters.length ≤ smsInboundCharsMax ∧
      ∀ c ∈ characters,gUnicharIscntrl c = true → c = 9 ∨ c = 10 ∨ c = 13) ∧
    shown.1.length ≤ smsInboundBytesMax ∧
    (∀ characters,utf8Decode value = some characters →
      utf8Decode shown.1 = some ((characters.take smsInboundCharsMax).map fun c =>
        if gUnicharIscntrl c ∧ c ≠ 9 ∧ c ≠ 10 ∧ c ≠ 13 then 0xFFFD else c)) ∧
    (utf8Decode value = none → shown.1 = []) ∧
    (shown.2 = true ↔ shown.1 ≠ value) := by
  intro shown
  cases hd : utf8Decode value with
  | none =>
    have hshown : shown = ([],true) := by simp [shown,safeSmsText,hd]
    have hne : value ≠ [] := by
      rintro rfl
      cases hd
    simp only [hshown]
    exact ⟨⟨[],rfl,by simp,by simp⟩,by simp,by simp,by simp,by simp [hne.symm]⟩
  | some characters =>
    have hshown : shown = _ := safeSmsText_eq hd
    have hscalar : ∀ c ∈ shownCharacters characters,IsScalar c := by
      intro c hc
      obtain ⟨c',hc',rfl⟩ := List.mem_map.mp hc
      exact (smsCharacter_spec (utf8Decode_isScalar hd c' (List.mem_of_mem_take hc'))).1
    have hdecode : utf8Decode shown.1 = some (shownCharacters characters) := by
      rw [hshown]
      exact utf8Decode_encodeAll hscalar
    have hlength : (shownCharacters characters).length ≤ smsInboundCharsMax := by
      simp only [shownCharacters,List.length_map,List.length_take]
      exact Nat.min_le_left _ _
    refine ⟨⟨shownCharacters characters,hdecode,hlength,?_⟩,?_,?_,by simp,?_⟩
    · intro c hc hcontrol
      obtain ⟨c',-,rfl⟩ := List.mem_map.mp hc
      have hkept := smsReplaces_smsCharacter c'
      simp only [smsReplaces,hcontrol,Bool.true_and,Bool.and_eq_false_iff,bne_eq_false_iff_eq]
        at hkept
      tauto
    · have hbytes := flatMap_gUnicharToUtf8_length (shownCharacters characters)
      rw [hshown]
      simp only [smsInboundBytesMax,smsInboundCharsMax] at hlength ⊢
      omega
    · intro characters' heq
      obtain rfl := Option.some.inj heq
      rw [hdecode,shownCharacters]
      refine congrArg some (List.map_congr_left fun c _ => ?_)
      exact smsCharacter_eq_ite c
    · -- the shown text is the given one exactly when their characters are the same
      have hsame : shown.1 = value ↔ shownCharacters characters = characters := by
        constructor
        · intro h
          rw [h,hd] at hdecode
          exact (Option.some.inj hdecode).symm
        · intro h
          rw [hshown,h]
          exact encode_utf8Decode hd
      rw [ne_eq,hsame,shownCharacters_eq_iff,hshown]
      simp only [Bool.or_eq_true,decide_eq_true_eq,List.any_eq_true,not_and_or,not_le,not_forall,
        Bool.not_eq_false,exists_prop]

end SafeText
end L850GL
