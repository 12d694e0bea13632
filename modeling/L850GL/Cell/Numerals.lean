import L850GL.Cell
import L850GL.Lib.TextFormat

/-! What the token readers of `l850_cell.c` accept, and the lines its parsers see. -/
namespace L850GL
namespace Cell

open Text TextFormat

theorem trimAscii_eq (text : CString) : trimAscii text = trim isBlank text := rfl

/-- The lines of a response that are not blank, trimmed. -/
def contents (response : CString) : List CString := contentLines isBlank '\n' '\r' response

theorem contents_eq_iff {response : CString} {lines : List CString} :
    contents response = lines ↔ LaidOut isBlank '\n' '\r' response lines :=
  contentLines_eq_iff

/-- The lines of a list that hold more than blanks, trimmed. -/
def trimmed (lines : List CString) : List CString := (lines.map trimAscii).filter (· ≠ [])

theorem trimmed_cons (line : CString) (lines : List CString) :
    trimmed (line::lines) =
      if trimAscii line = [] then trimmed lines else trimAscii line::trimmed lines := by
  by_cases h : trimAscii line = [] <;> simp [trimmed,h]

theorem lines_trimmed (response : CString) : trimmed (lines response) = contents response := rfl

theorem accumulate_eq (base limit result : Nat) (text : CString) :
    accumulate base limit result text = readDigits (baseDigit base) base limit result text := by
  induction text generalizing result with
  | nil => rfl
  | cons c text ih =>
    simp only [accumulate,readDigits,ih]

theorem decimalDigit_lt {c : Char} {d : Nat} (h : decimalDigit c = some d) : d < 10 := by
  unfold decimalDigit at h
  split at h
  · rename_i hc
    have h₁ : c.toNat ≤ '9'.toNat := hc.2
    have h₂ : '9'.toNat = 57 := by decide
    have h₃ : '0'.toNat = 48 := by decide
    simp only [Option.some.injEq] at h
    omega
  · cases h

theorem hexDigit_lt {c : Char} {d : Nat} (h : hexDigit c = some d) : d < 16 := by
  have h0 : '0'.toNat = 48 := by decide
  have h9 : '9'.toNat = 57 := by decide
  have ha : 'a'.toNat = 97 := by decide
  have hf : 'f'.toNat = 102 := by decide
  have hA : 'A'.toNat = 65 := by decide
  have hF : 'F'.toNat = 70 := by decide
  unfold hexDigit at h
  split at h
  · rename_i hc
    have h₁ : c.toNat ≤ '9'.toNat := hc.2
    simp only [Option.some.injEq] at h
    omega
  split at h
  · rename_i hc
    have h₁ : c.toNat ≤ 'f'.toNat := hc.2
    simp only [Option.some.injEq] at h
    omega
  split at h
  · rename_i hc
    have h₁ : c.toNat ≤ 'F'.toNat := hc.2
    simp only [Option.some.injEq] at h
    omega
  · cases h

theorem hexDigit_of_decimalDigit {c : Char} {d : Nat} (h : decimalDigit c = some d) :
    hexDigit c = some d := by
  unfold decimalDigit at h
  split at h
  · rename_i hc
    simp only [hexDigit,if_pos hc]
    exact h
  · cases h

/-- A decimal numeral, or one of base 16 after `0x` or `0X`; leading zeros are free. -/
inductive Numeral : CString → Nat → Prop
  | decimal {text : CString} {n : Nat} (hne : text ≠ [])
      (hdigits : Digits decimalDigit 10 0 text n) : Numeral text n
  | hexadecimal {x : Char} {text : CString} {n : Nat} (hx : x = 'x' ∨ x = 'X') (hne : text ≠ [])
      (hdigits : Digits hexDigit 16 0 text n) : Numeral ('0'::x::text) n

theorem accumulate_decimal_iff {limit n : Nat} {text : CString} (hlimit : 15 ≤ limit) :
    accumulate 10 limit 0 text = some n ↔ Digits decimalDigit 10 0 text n ∧ n ≤ limit := by
  have hdigit : baseDigit 10 = decimalDigit := rfl
  rw [accumulate_eq,hdigit]
  apply readDigits_eq_some_iff (by omega)
  · intro a d h
    have := decimalDigit_lt h
    omega
  · omega

theorem accumulate_hexadecimal_iff {limit n : Nat} {text : CString} (hlimit : 15 ≤ limit) :
    accumulate 16 limit 0 text = some n ↔ Digits hexDigit 16 0 text n ∧ n ≤ limit := by
  have hdigit : baseDigit 16 = hexDigit := rfl
  rw [accumulate_eq,hdigit]
  apply readDigits_eq_some_iff (by omega)
  · intro a d h
    have := hexDigit_lt h
    omega
  · omega

theorem not_digits_x {x : Char} {text : CString} {n : Nat} (hx : x = 'x' ∨ x = 'X') :
    ¬Digits decimalDigit 10 0 ('0'::x::text) n := by
  intro h
  obtain ⟨_,-,h⟩ := digits_cons.mp h
  obtain ⟨d,hd,-⟩ := digits_cons.mp h
  rcases hx with rfl | rfl
  · simp [show decimalDigit 'x' = none by decide] at hd
  · simp [show decimalDigit 'X' = none by decide] at hd

theorem parseMagnitude_iff {limit n : Nat} {text : CString} (hlimit : 15 ≤ limit) :
    parseMagnitude limit text = some n ↔ Numeral text n ∧ n ≤ limit := by
  have hdecimal : text ≠ [] → (∀ x rest, x = 'x' ∨ x = 'X' → text ≠ '0'::x::rest) →
      (accumulate 10 limit 0 text = some n ↔ Numeral text n ∧ n ≤ limit) := by
    intro hne hx
    rw [accumulate_decimal_iff hlimit]
    constructor
    · exact fun h => ⟨.decimal hne h.1,h.2⟩
    · rintro ⟨h,hn⟩
      cases h with
      | decimal _ h => exact ⟨h,hn⟩
      | hexadecimal hx' _ _ => exact absurd rfl (hx _ _ hx')
  unfold parseMagnitude
  split
  · constructor
    · simp
    · rintro ⟨h,-⟩
      cases h with
      | decimal hne _ => exact absurd rfl hne
  · rename_i c digits
    by_cases hc : c = 'x' ∨ c = 'X'
    · rw [if_pos hc]
      have hhex : Numeral ('0'::c::digits) n ↔ digits ≠ [] ∧ Digits hexDigit 16 0 digits n := by
        constructor
        · intro h
          cases h with
          | decimal _ h => exact absurd h (not_digits_x hc)
          | hexadecimal _ hne h => exact ⟨hne,h⟩
        · exact fun h => .hexadecimal hc h.1 h.2
      rw [hhex]
      by_cases hd : digits = []
      · simp [hd]
      · rw [if_neg hd,accumulate_hexadecimal_iff hlimit]
        simp [hd]
    · rw [if_neg hc]
      apply hdecimal (by simp)
      rintro x rest hx h
      simp only [List.cons.injEq,true_and] at h
      exact hc (h.1 ▸ hx)
  · rename_i h₁ h₂
    apply hdecimal h₁
    exact fun x rest _ h => h₂ x rest h

theorem parseUint32_iff {n : Nat} {text : CString} :
    parseUint32 text = some n ↔ Numeral text n ∧ n ≤ uint32Max :=
  parseMagnitude_iff (by decide)

/-- A numeral with an optional minus sign, within 32 bits. -/
inductive SignedNumeral : CString → Int → Prop
  | positive {text : CString} {n : Nat} (h : Numeral text n) (hn : n ≤ int32Max) :
      SignedNumeral text n
  | negative {text : CString} {n : Nat} (h : Numeral text n) (hn : n ≤ int32Max+1) :
      SignedNumeral ('-'::text) (-n)

/-- The characters of a numeral. -/
def Plain (text : CString) : Prop := text ≠ [] ∧ ∀ c ∈ text, c ≠ '"' ∧ isBlank c = false

theorem digits_hex {base n : Nat} {text : CString} {digit : Char → Option Nat} {result : Nat}
    (hdigit : ∀ c d, digit c = some d → hexDigit c = some d)
    (h : Digits digit base result text n) : ∀ c ∈ text, (hexDigit c).isSome = true := by
  induction text generalizing result with
  | nil => simp
  | cons a text ih =>
    obtain ⟨d,hd,h⟩ := digits_cons.mp h
    intro c hc
    rcases List.mem_cons.mp hc with rfl | hc
    · simp [hdigit c d hd]
    · exact ih h c hc

theorem hexDigit_plain {c : Char} (h : (hexDigit c).isSome = true) :
    c ≠ '"' ∧ isBlank c = false ∧ c ≠ '-' ∧ c ≠ '\x00' := by
  refine ⟨?_,?_,?_,?_⟩
  · rintro rfl
    simp [show hexDigit '"' = none by decide] at h
  · by_contra hb
    simp only [isBlank,Bool.not_eq_false,Bool.or_eq_true,beq_iff_eq] at hb
    rcases hb with rfl | rfl
    · simp [show hexDigit ' ' = none by decide] at h
    · simp [show hexDigit '\t' = none by decide] at h
  · rintro rfl
    simp [show hexDigit '-' = none by decide] at h
  · rintro rfl
    simp [show hexDigit '\x00' = none by decide] at h

theorem Numeral.chars {text : CString} {n : Nat} (h : Numeral text n) :
    text ≠ [] ∧ ∀ c ∈ text, c ≠ '"' ∧ isBlank c = false ∧ c ≠ '-' ∧ c ≠ '\x00' := by
  cases h with
  | decimal hne h =>
    exact ⟨hne,fun c hc => hexDigit_plain (digits_hex (fun _ _ => hexDigit_of_decimalDigit) h c hc)⟩
  | hexadecimal hx hne h =>
    refine ⟨by simp,?_⟩
    intro c hc
    rcases List.mem_cons.mp hc with rfl | hc
    · decide
    rcases List.mem_cons.mp hc with rfl | hc
    · rcases hx with rfl | rfl <;> decide
    · exact hexDigit_plain (digits_hex (fun _ _ h => h) h c hc)

theorem Numeral.plain {text : CString} {n : Nat} (h : Numeral text n) : Plain text :=
  ⟨h.chars.1,fun c hc => ⟨(h.chars.2 c hc).1,(h.chars.2 c hc).2.1⟩⟩

theorem SignedNumeral.plain {text : CString} {z : Int} (h : SignedNumeral text z) :
    Plain text := by
  cases h with
  | positive h _ => exact h.plain
  | negative h _ =>
    refine ⟨by simp,?_⟩
    intro c hc
    rcases List.mem_cons.mp hc with rfl | hc
    · decide
    · exact h.plain.2 c hc

theorem parseInt32_iff {z : Int} {text : CString} :
    parseInt32 text = some z ↔ SignedNumeral text z := by
  have hminus : ∀ {rest n}, ¬Numeral ('-'::rest) n := fun h =>
    (h.chars.2 '-' (by simp)).2.2.1 rfl
  unfold parseInt32
  split
  · rename_i digits
    simp only [Option.map_eq_some_iff,Option.bind_eq_bind,Option.bind_eq_some_iff,
      Option.pure_def,Option.some.injEq,parseMagnitude_iff (show 15 ≤ int32Max+1 by decide)]
    constructor
    · rintro ⟨_,⟨n,⟨h,hn⟩,rfl⟩,rfl⟩
      exact .negative h hn
    · intro h
      cases h with
      | positive h _ => exact absurd h hminus
      | negative h hn => exact ⟨_,⟨_,⟨h,hn⟩,rfl⟩,rfl⟩
  · rename_i hne
    simp only [Option.map_eq_some_iff,Option.bind_eq_bind,Option.bind_eq_some_iff,
      Option.pure_def,Option.some.injEq,parseMagnitude_iff (show 15 ≤ int32Max by decide)]
    constructor
    · rintro ⟨_,⟨n,⟨h,hn⟩,rfl⟩,rfl⟩
      exact .positive h hn
    · intro h
      cases h with
      | positive h hn => exact ⟨_,⟨_,⟨h,hn⟩,rfl⟩,rfl⟩
      | negative h _ => exact absurd rfl (hne _)

/-- A field holds a text bare or in one pair of quotes. -/
def Quotable (field text : CString) : Prop := field = text ∨ field = '"'::text++['"']

theorem isBlank_of_plain {text : CString} (h : Plain text) : Tight isBlank text :=
  ⟨fun c hc => (h.2 c (List.mem_of_mem_head? hc)).2,
    fun c hc => (h.2 c (List.mem_of_mem_getLast? hc)).2⟩

theorem quote_notMem {text : CString} (h : Plain text) : '"' ∉ text :=
  fun hq => (h.2 '"' hq).1 rfl

theorem unquoteNumericToken_quoted {text : CString} (h : Plain text) :
    unquoteNumericToken ('"'::text++['"']) = some text := by
  have htight : Tight isBlank ('"'::text++['"']) := by
    constructor
    · intro c hc
      simp only [List.cons_append,List.head?_cons,Option.mem_def,Option.some.injEq] at hc
      subst hc
      decide
    · intro c hc
      simp only [List.getLast?_append,List.getLast?_singleton,Option.some_or,Option.mem_def,
        Option.some.injEq] at hc
      subst hc
      decide
  have hlength : ¬('"'::text++['"']).length < 3 := by
    have := List.length_pos_of_ne_nil h.1
    simp
    omega
  have hhead : text.head?.any isBlank = false := by
    cases hc : text.head? with
    | none => rfl
    | some c => simpa [hc] using (isBlank_of_plain h).1 c hc
  have hlast : text.getLast?.any isBlank = false := by
    cases hc : text.getLast? with
    | none => rfl
    | some c => simpa [hc] using (isBlank_of_plain h).2 c hc
  simp only [unquoteNumericToken,trimAscii_eq,trim_eq_self htight]
  simp only [List.cons_append,List.tail_cons]
  rw [if_neg]
  · simp only [List.dropLast_concat,quote_notMem h,hhead,hlast]
    simp
  · have hend : ('"'::(text++['"'])).getLast? = some '"' := by
      rw [← List.cons_append,List.getLast?_append]
      rfl
    simpa [hend] using hlength

theorem unquoteNumericToken_bare {text : CString} (h : Plain text) :
    unquoteNumericToken text = some text := by
  have hq := quote_notMem h
  simp only [unquoteNumericToken,trimAscii_eq,trim_eq_self (isBlank_of_plain h)]
  cases text with
  | nil => exact absurd rfl h.1
  | cons c rest =>
    have hc : c ≠ '"' := (h.2 c (by simp)).1
    split
    · contradiction
    · rename_i heq
      simp only [List.cons.injEq] at heq
      exact absurd heq.1 hc
    · rw [if_neg hq]

theorem unquoteNumericToken_inv {field text : CString} (hfield : Tight isBlank field)
    (h : unquoteNumericToken field = some text) : Quotable field text := by
  simp only [unquoteNumericToken,trimAscii_eq,trim_eq_self hfield] at h
  split at h
  · cases h
  · rename_i rest
    split at h
    · cases h
    rename_i hlen
    split at h
    · cases h
    right
    simp only [Option.some.injEq] at h
    subst h
    simp only [not_or,not_not] at hlen
    have hrest : rest ≠ [] := by
      rintro rfl
      simp at hlen
    have hlast : rest.getLast? = some '"' := by
      have h₁ := hlen.2
      rwa [List.getLast?_cons_of_ne_nil hrest] at h₁
    simp [List.dropLast_append_getLast? '"' hlast]
  · split at h
    · cases h
    · left
      simpa using h

theorem unquoteNumericToken_iff {field text : CString} (hfield : Tight isBlank field)
    (htext : Plain text) : unquoteNumericToken field = some text ↔ Quotable field text := by
  constructor
  · exact unquoteNumericToken_inv hfield
  · rintro (rfl | rfl)
    · exact unquoteNumericToken_bare htext
    · exact unquoteNumericToken_quoted htext

/-- A field of a record that writes an unsigned 32-bit number. -/
def UnsignedField (field : CString) (n : Nat) : Prop :=
  ∃ text, Quotable field text ∧ Numeral text n ∧ n ≤ uint32Max

def SignedField (field : CString) (z : Int) : Prop :=
  ∃ text, Quotable field text ∧ SignedNumeral text z

theorem unsignedField_iff {field : CString} {n : Nat} (hfield : Tight isBlank field) :
    (∃ text, unquoteNumericToken field = some text ∧ parseUint32 text = some n) ↔
      UnsignedField field n := by
  constructor
  · rintro ⟨text,htext,hn⟩
    exact ⟨text,unquoteNumericToken_inv hfield htext,parseUint32_iff.mp hn⟩
  · rintro ⟨text,htext,hn⟩
    exact ⟨text,(unquoteNumericToken_iff hfield hn.1.plain).mpr htext,parseUint32_iff.mpr hn⟩

theorem signedField_iff {field : CString} {z : Int} (hfield : Tight isBlank field) :
    (∃ text, unquoteNumericToken field = some text ∧ parseInt32 text = some z) ↔
      SignedField field z := by
  constructor
  · rintro ⟨text,htext,hz⟩
    exact ⟨text,unquoteNumericToken_inv hfield htext,parseInt32_iff.mp hz⟩
  · rintro ⟨text,htext,hz⟩
    exact ⟨text,(unquoteNumericToken_iff hfield hz.plain).mpr htext,parseInt32_iff.mpr hz⟩

end Cell
end L850GL
