import L850GL.Network.Binding
import Mathlib.Data.List.Nodup
import Mathlib.Data.List.Perm.Subperm
import Mathlib.Tactic.Tauto

/-! The strings that `allowedmode_is_safe` accepts. -/
namespace L850GL
namespace Network

def modeTokens : List CString := ["2g".toList,"3g".toList,"4g".toList,"5g".toList]

/-- One or more distinct mode tokens with single separators between them. -/
def IsModeList (value : CString) : Prop :=
  ∃ tokens : List CString,tokens ≠ [] ∧ tokens.Nodup ∧ (∀ token ∈ tokens,token ∈ modeTokens) ∧
    value = ['|'].intercalate tokens

/-- An `allowedmode` that is empty, `any` or a list of modes. -/
def IsAllowedmode (value : CString) : Prop :=
  value.length ≤ l850glNetworkModeMax ∧
    (value = [] ∨ value = "any".toList ∨ IsModeList value)

/-- A list of modes with one separator too many. -/
def EndsInSeparator (value : CString) : Prop := ∃ modes,IsModeList modes ∧ value = modes++['|']

def tokenBit : CString → UInt8
  | [first,second] => modeTokenBit first second
  | _ => 0

variable {value : CString} {tokens : List CString} {modes : UInt8}

theorem modeTokenBit_ne_zero_iff {first second : Char} :
    modeTokenBit first second ≠ 0 ↔ [first,second] ∈ modeTokens := by
  have htokens : [first,second] ∈ modeTokens ↔ second = 'g' ∧
      (first = '2' ∨ first = '3' ∨ first = '4' ∨ first = '5') := by
    simp [modeTokens]
    tauto
  rw [htokens]
  by_cases hsecond : second = 'g'
  · subst hsecond
    by_cases h2 : first = '2'
    · subst h2
      decide
    by_cases h3 : first = '3'
    · subst h3
      decide
    by_cases h4 : first = '4'
    · subst h4
      decide
    by_cases h5 : first = '5'
    · subst h5
      decide
    simp [modeTokenBit,h2,h3,h4,h5]
  · simp [modeTokenBit,hsecond]

theorem tokenBit_disjoint_iff {token other : CString} (h : token ∈ modeTokens)
    (hother : other ∈ modeTokens) : tokenBit token &&& tokenBit other = 0 ↔ token ≠ other := by
  have hall : ∀ token ∈ modeTokens,∀ other ∈ modeTokens,
      (tokenBit token &&& tokenBit other = 0 ↔ token ≠ other) := by decide
  exact hall token h other hother

theorem or_disjoint_iff {mode bit : UInt8} :
    (modes ||| mode) &&& bit = 0 ↔ modes &&& bit = 0 ∧ mode &&& bit = 0 := by
  have hdistrib : (modes ||| mode) &&& bit = (modes &&& bit) ||| (mode &&& bit) := by
    rw [← UInt8.toBitVec_inj]
    exact BitVec.and_or_distrib_right
  rw [hdistrib,UInt8.or_eq_zero_iff]

/-- What the token loop takes, with the bits of the tokens before it: the last token may have a
separator after it. -/
structure Tokens (modes : UInt8) (value : CString) (tokens : List CString) : Prop where
  nonempty : tokens ≠ []
  nodup : tokens.Nodup
  known : ∀ token ∈ tokens,token ∈ modeTokens
  unseen : ∀ token ∈ tokens,modes &&& tokenBit token = 0
  text : value = ['|'].intercalate tokens ∨ value = ['|'].intercalate tokens++['|']

theorem modeToken_pair {token : CString} (h : token ∈ modeTokens) :
    ∃ first,token = [first,'g'] := by
  simp only [modeTokens,List.mem_cons,List.not_mem_nil,or_false] at h
  rcases h with rfl | rfl | rfl | rfl
  · exact ⟨'2',rfl⟩
  · exact ⟨'3',rfl⟩
  · exact ⟨'4',rfl⟩
  · exact ⟨'5',rfl⟩

theorem exists_tokens_cons_iff {first second : Char} {rest : CString} :
    (∃ tokens,Tokens modes (first::second::rest) tokens) ↔
      [first,second] ∈ modeTokens ∧ modes &&& modeTokenBit first second = 0 ∧
        (rest = [] ∨ rest = ['|'] ∨ ∃ later tokens,rest = '|'::later ∧
          Tokens (modes ||| modeTokenBit first second) later tokens) := by
  constructor
  · rintro ⟨tokens,h⟩
    cases htokens : tokens with
    | nil => exact absurd htokens h.nonempty
    | cons token tokens =>
      subst htokens
      have hmem := h.known token List.mem_cons_self
      have hunseen := h.unseen token List.mem_cons_self
      have htext := h.text
      obtain ⟨a,rfl⟩ := modeToken_pair hmem
      cases tokens with
      | nil =>
        simp only [List.intercalate_singleton,List.cons_append,List.nil_append,
          List.cons.injEq] at htext
        rcases htext with ⟨rfl,rfl,rfl⟩ | ⟨rfl,rfl,rfl⟩
        · exact ⟨hmem,hunseen,.inl rfl⟩
        · exact ⟨hmem,hunseen,.inr (.inl rfl)⟩
      | cons next tokens =>
        have hlater : first = a ∧ second = 'g' ∧ ∃ later,rest = '|'::later ∧
            (later = ['|'].intercalate (next::tokens) ∨
              later = ['|'].intercalate (next::tokens)++['|']) := by
          simp only [List.intercalate_cons_cons,List.cons_append,List.nil_append,
            List.cons.injEq] at htext
          rcases htext with ⟨rfl,rfl,rfl⟩ | ⟨rfl,rfl,rfl⟩
          · exact ⟨rfl,rfl,_,rfl,.inl rfl⟩
          · exact ⟨rfl,rfl,_,rfl,.inr rfl⟩
        clear htext
        obtain ⟨rfl,rfl,later,rfl,htext⟩ := hlater
        refine ⟨hmem,hunseen,.inr (.inr ⟨later,next::tokens,rfl,by simp,h.nodup.of_cons,
          fun token ht => h.known token (List.mem_cons_of_mem _ ht),fun token ht => ?_,htext⟩)⟩
        rw [or_disjoint_iff]
        have hother := h.known token (List.mem_cons_of_mem _ ht)
        refine ⟨h.unseen token (List.mem_cons_of_mem _ ht),
          (tokenBit_disjoint_iff hmem hother).mpr ?_⟩
        rintro rfl
        exact (List.nodup_cons.mp h.nodup).1 ht
  · rintro ⟨hmem,hunseen,rfl | rfl | ⟨later,tokens,rfl,h⟩⟩
    · refine ⟨[[first,second]],by simp,by simp,by simpa using hmem,?_,.inl rfl⟩
      simpa [tokenBit] using hunseen
    · refine ⟨[[first,second]],by simp,by simp,by simpa using hmem,?_,.inr rfl⟩
      simpa [tokenBit] using hunseen
    · have hsplit : ∀ token ∈ tokens,modes &&& tokenBit token = 0 ∧
          modeTokenBit first second &&& tokenBit token = 0 :=
        fun token ht => or_disjoint_iff.mp (h.unseen token ht)
      have hfresh : [first,second] ∉ tokens := by
        intro ht
        exact (tokenBit_disjoint_iff hmem hmem).mp (hsplit _ ht).2 rfl
      refine ⟨[first,second]::tokens,by simp,List.nodup_cons.mpr ⟨hfresh,h.nodup⟩,
        List.forall_mem_cons.mpr ⟨hmem,h.known⟩,
        List.forall_mem_cons.mpr ⟨hunseen,fun token ht => (hsplit token ht).1⟩,?_⟩
      cases tokens with
      | nil => exact absurd rfl h.nonempty
      | cons next tokens =>
        rw [List.intercalate_cons_cons]
        exact h.text.imp (fun ht => by rw [ht]; rfl) fun ht => by rw [ht]; rfl

/-- The loop ends after a token, or after a separator. -/
theorem allowedmodeTokens_iff (modes : UInt8) (value : CString) :
    allowedmodeTokens modes value = true ↔ value = [] ∨ ∃ tokens,Tokens modes value tokens := by
  induction modes, value using allowedmodeTokens.induct with
  | case1 modes => simp [allowedmodeTokens]
  | case2 modes first =>
    simp only [allowedmodeTokens,Bool.false_eq_true,List.cons_ne_nil,false_or,false_iff]
    rintro ⟨tokens,h⟩
    cases htokens : tokens with
    | nil => exact absurd htokens h.nonempty
    | cons token tokens =>
      subst htokens
      obtain ⟨a,rfl⟩ := modeToken_pair (h.known token List.mem_cons_self)
      have hlength : [first].length = 1 := rfl
      rcases h.text with ht | ht
      · rw [ht] at hlength
        cases tokens <;> simp [List.intercalate_cons_cons] at hlength
      · rw [ht] at hlength
        cases tokens <;> simp [List.intercalate_cons_cons] at hlength
  | case3 modes first second rest mode hstop =>
    rw [exists_tokens_cons_iff]
    have hno : allowedmodeTokens modes (first::second::rest) = false := by
      rw [allowedmodeTokens.eq_def]
      simp only
      rw [if_pos hstop]
    rw [hno]
    simp only [Bool.or_eq_true,beq_iff_eq,bne_iff_ne] at hstop
    simp only [Bool.false_eq_true,List.cons_ne_nil,false_or,false_iff]
    rintro ⟨hmem,hunseen,-⟩
    rcases hstop with hzero | hseen
    · exact modeTokenBit_ne_zero_iff.mpr hmem hzero
    · exact hseen hunseen
  | case4 modes first second mode hgo =>
    have hyes : allowedmodeTokens modes [first,second] = true := by
      rw [allowedmodeTokens.eq_def]
      simp only
      rw [if_neg hgo]
    simp only [Bool.or_eq_true,beq_iff_eq,bne_iff_ne,not_or,not_not] at hgo
    rw [exists_tokens_cons_iff,hyes]
    simp only [true_iff]
    exact .inr ⟨modeTokenBit_ne_zero_iff.mp hgo.1,hgo.2,.inl trivial⟩
  | case5 modes first second mode hgo separator rest ih =>
    have hnext : allowedmodeTokens modes (first::second::separator::rest) =
        (separator == '|' && allowedmodeTokens (modes ||| mode) rest) := by
      rw [allowedmodeTokens.eq_def]
      simp only
      rw [if_neg hgo]
    simp only [Bool.or_eq_true,beq_iff_eq,bne_iff_ne,not_or,not_not] at hgo
    rw [exists_tokens_cons_iff,hnext,Bool.and_eq_true,beq_iff_eq,ih]
    simp only [List.cons_ne_nil,false_or,List.cons.injEq]
    constructor
    · rintro ⟨rfl,rfl | ⟨tokens,h⟩⟩
      · exact ⟨modeTokenBit_ne_zero_iff.mp hgo.1,hgo.2,.inl ⟨rfl,rfl⟩⟩
      · exact ⟨modeTokenBit_ne_zero_iff.mp hgo.1,hgo.2,.inr ⟨rest,tokens,⟨rfl,rfl⟩,h⟩⟩
    · rintro ⟨-,-,⟨rfl,rfl⟩ | ⟨later,tokens,⟨rfl,rfl⟩,h⟩⟩
      · exact ⟨rfl,.inl rfl⟩
      · exact ⟨rfl,.inr ⟨tokens,h⟩⟩

theorem IsModeList.length_le (h : IsModeList value) : value.length ≤ 11 := by
  obtain ⟨tokens,-,hnodup,hknown,rfl⟩ := h
  have hcount : tokens.length ≤ modeTokens.length := (List.Nodup.subperm hnodup hknown).length_le
  have hlength : ∀ tokens : List CString,(∀ token ∈ tokens,token ∈ modeTokens) →
      (['|'].intercalate tokens).length ≤ 3*tokens.length-1 := by
    intro tokens
    induction tokens with
    | nil => simp
    | cons token tokens ih =>
      intro hknown
      obtain ⟨first,rfl⟩ := modeToken_pair (hknown token List.mem_cons_self)
      have hrest := ih fun token ht => hknown token (List.mem_cons_of_mem _ ht)
      cases tokens with
      | nil => simp
      | cons next tokens =>
        simp only [List.intercalate_cons_cons,List.length_append,List.length_cons,
          List.length_nil] at hrest ⊢
        omega
  have hfour : modeTokens.length = 4 := rfl
  have hbound := hlength tokens hknown
  omega

theorem IsModeList.ends (h : IsModeList value) : ∃ start,value = start++['g'] := by
  obtain ⟨tokens,hne,-,hknown,rfl⟩ := h
  induction tokens with
  | nil => exact absurd rfl hne
  | cons token tokens ih =>
    obtain ⟨first,rfl⟩ := modeToken_pair (hknown token List.mem_cons_self)
    cases tokens with
    | nil => exact ⟨[first],by simp⟩
    | cons next tokens =>
      obtain ⟨start,hstart⟩ := ih (by simp) fun token ht =>
        hknown token (List.mem_cons_of_mem _ ht)
      exact ⟨[first,'g']++['|']++start,by
        rw [List.intercalate_cons_cons,hstart,List.append_assoc _ start]⟩

theorem not_isModeList_separator (modes : CString) : ¬IsModeList (modes++['|']) := by
  intro h
  obtain ⟨start,hstart⟩ := h.ends
  have hlast := (List.append_inj' hstart rfl).2
  simp at hlast

theorem allowedmodeTokens_zero_iff :
    allowedmodeTokens 0 value = true ↔ value = [] ∨ IsModeList value ∨ EndsInSeparator value := by
  rw [allowedmodeTokens_iff]
  refine or_congr_right ⟨?_,?_⟩
  · rintro ⟨tokens,h⟩
    rcases h.text with ht | ht
    · exact .inl ⟨tokens,h.nonempty,h.nodup,h.known,ht⟩
    · exact .inr ⟨_,⟨tokens,h.nonempty,h.nodup,h.known,rfl⟩,ht⟩
  · rintro (⟨tokens,hne,hnodup,hknown,ht⟩ | ⟨-,⟨tokens,hne,hnodup,hknown,rfl⟩,ht⟩)
    · exact ⟨tokens,hne,hnodup,hknown,fun _ _ => by simp,.inl ht⟩
    · exact ⟨tokens,hne,hnodup,hknown,fun _ _ => by simp,.inr ht⟩

theorem EndsInSeparator.length_le (h : EndsInSeparator value) :
    value.length ≤ l850glNetworkModeMax := by
  obtain ⟨modes,hmodes,rfl⟩ := h
  have hle := hmodes.length_le
  have hmax : l850glNetworkModeMax = 15 := rfl
  rw [List.length_append,List.length_singleton]
  omega

theorem allowedmodeIsSafe_iff :
    allowedmodeIsSafe value = true ↔ IsAllowedmode value ∨ EndsInSeparator value := by
  unfold allowedmodeIsSafe boundedLength
  by_cases hlength : value.length ≤ l850glNetworkModeMax
  · simp only [if_pos hlength]
    by_cases hplain : (value.length == 0 || value == "any".toList) = true
    · rw [if_pos hplain]
      simp only [Bool.or_eq_true,beq_iff_eq,List.length_eq_zero_iff] at hplain
      simp only [true_iff]
      exact .inl ⟨hlength,hplain.imp_right .inl⟩
    · rw [if_neg hplain,allowedmodeTokens_zero_iff]
      simp only [Bool.or_eq_true,beq_iff_eq,List.length_eq_zero_iff,not_or] at hplain
      simp only [IsAllowedmode,hlength,hplain,true_and,false_or]
  · have hends : ¬EndsInSeparator value := fun h => hlength h.length_le
    simp [IsAllowedmode,hlength,hends]

theorem EndsInSeparator.not_isAllowedmode (h : EndsInSeparator value) : ¬IsAllowedmode value := by
  obtain ⟨modes,hmodes,rfl⟩ := h
  rintro ⟨-,hnil | hany | hlist⟩
  · simp at hnil
  · have hlast := congrArg List.getLast? hany
    simp at hlast
  · exact not_isModeList_separator modes hlist

/-- An `allowedmode` is accepted exactly when it is well formed, unless it is a list of modes with
a separator after its last token. -/
theorem allowedmodeIsSafe_exact (value : CString) :
    (allowedmodeIsSafe value = true ↔ IsAllowedmode value) ↔ ¬EndsInSeparator value := by
  rw [allowedmodeIsSafe_iff]
  constructor
  · exact fun h hends => hends.not_isAllowedmode (h.mp (.inr hends))
  · intro hends
    simp [hends]

theorem isModeList_single {token : CString} (h : token ∈ modeTokens) : IsModeList token :=
  ⟨[token],by simp,by simp,by simpa using h,by simp⟩

/-- The separator after `4g` is overlooked. -/
theorem allowedmodeIsSafe_separator :
    ¬(allowedmodeIsSafe "4g|".toList = true ↔ IsAllowedmode "4g|".toList) := by
  have hends : EndsInSeparator "4g|".toList :=
    ⟨"4g".toList,isModeList_single (by decide),rfl⟩
  intro h
  exact hends.not_isAllowedmode (h.mp (allowedmodeIsSafe_iff.mpr (.inr hends)))

example : allowedmodeIsSafe "2g|5g|4g".toList = true := by decide +kernel
example : allowedmodeIsSafe "4g||3g".toList = false := by decide +kernel

end Network
end L850GL
