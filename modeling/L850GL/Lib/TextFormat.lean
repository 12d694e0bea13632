import Mathlib.Data.List.DropRight
import Mathlib.Data.List.Forall2
import Mathlib.Tactic.Common

/-! Texts cut at a separator, blanks around their pieces, lines, and numerals.
Each reader of a text has a relation that says what it reads. -/
namespace L850GL
namespace TextFormat

section Blanks

variable {α : Type} {blank : α → Bool} {text core left right : List α}

/-- A text without the blanks at its ends. -/
def trim (blank : α → Bool) (text : List α) : List α := (text.dropWhile blank).rdropWhile blank

def Blanks (blank : α → Bool) (text : List α) : Prop := ∀ a ∈ text, blank a = true

/-- No blank at either end. -/
def Tight (blank : α → Bool) (core : List α) : Prop :=
  (∀ a ∈ core.head?, blank a = false) ∧ ∀ a ∈ core.getLast?, blank a = false

/-- A text is a core with blanks around it. -/
def Padded (blank : α → Bool) (text core : List α) : Prop :=
  Tight blank core ∧ ∃ left right, Blanks blank left ∧ Blanks blank right ∧
    text = left++core++right

theorem dropWhile_blanks (hleft : Blanks blank left) (text : List α) :
    (left++text).dropWhile blank = text.dropWhile blank := by
  induction left with
  | nil => simp
  | cons a left ih =>
    have h₁ : blank a = true := hleft a (by simp)
    have h₂ : Blanks blank left := fun b hb => hleft b (by simp [hb])
    simp [h₁,ih h₂]

theorem rdropWhile_blanks (hright : Blanks blank right) (text : List α) :
    (text++right).rdropWhile blank = text.rdropWhile blank := by
  have h₁ : Blanks blank right.reverse := fun a ha => hright a (List.mem_reverse.mp ha)
  have h₂ := dropWhile_blanks h₁ text.reverse
  simp only [List.rdropWhile,List.reverse_append,h₂]

theorem rdropWhile_tight (hcore : Tight blank core) : core.rdropWhile blank = core := by
  apply List.rdropWhile_eq_self_iff.mpr
  intro hne
  have h₁ := hcore.2 (core.getLast hne) (by simp [List.getLast?_eq_getLast_of_ne_nil hne])
  simp [h₁]

theorem dropWhile_append_of_tight (hcore : Tight blank core) (hne : core ≠ []) :
    (core++right).dropWhile blank = core++right := by
  cases core with
  | nil => exact absurd rfl hne
  | cons a core =>
    have h₁ : blank a = false := hcore.1 a (by simp)
    simp [h₁]

theorem trim_eq_of_padded (h : Padded blank text core) : trim blank text = core := by
  rcases h with ⟨hcore,left,right,hleft,hright,rfl⟩
  by_cases hne : core = []
  · subst core
    have h₁ : Blanks blank (left++[]++right) := by
      intro a ha
      simp only [List.append_nil,List.mem_append] at ha
      rcases ha with ha | ha
      · exact hleft a ha
      · exact hright a ha
    have h₂ : (left++[]++right).dropWhile blank = [] := List.dropWhile_eq_nil_iff.mpr h₁
    rw [trim,h₂]
    rfl
  · have h₁ := dropWhile_blanks hleft (core++right)
    rw [trim,List.append_assoc,h₁,dropWhile_append_of_tight hcore hne,
      rdropWhile_blanks hright,rdropWhile_tight hcore]

theorem trim_tight (blank : α → Bool) (text : List α) : Tight blank (trim blank text) := by
  constructor
  · intro a ha
    have h₁ : trim blank text <+: text.dropWhile blank := List.rdropWhile_prefix blank _
    obtain ⟨rest,hrest⟩ := h₁
    have h₂ : (text.dropWhile blank).head? = some a := by
      rw [← hrest,List.head?_append]
      simp_all
    have h₃ := List.head?_dropWhile_not blank text
    simpa [h₂] using h₃
  · intro a ha
    have hne : trim blank text ≠ [] := by
      intro h
      simp [h] at ha
    have h₁ := List.rdropWhile_last_not blank (text.dropWhile blank) hne
    have h₂ : (trim blank text).getLast hne = a := by
      simpa [List.getLast?_eq_getLast_of_ne_nil hne] using ha
    rw [← h₂]
    simpa [trim] using h₁

theorem trim_padded (blank : α → Bool) (text : List α) : Padded blank text (trim blank text) := by
  have h₁ : text.takeWhile blank++text.dropWhile blank = text := List.takeWhile_append_dropWhile
  have h₂ : trim blank text++(text.dropWhile blank).rtakeWhile blank = text.dropWhile blank :=
    List.rdropWhile_append_rtakeWhile
  refine ⟨trim_tight blank text,text.takeWhile blank,(text.dropWhile blank).rtakeWhile blank,
    ?_,?_,?_⟩
  · exact fun a ha => List.mem_takeWhile_imp ha
  · exact fun a ha => List.mem_rtakeWhile_imp ha
  · rw [List.append_assoc,h₂,h₁]

theorem trim_eq_iff : trim blank text = core ↔ Padded blank text core := by
  constructor
  · intro h
    simpa [h] using trim_padded blank text
  · exact trim_eq_of_padded

theorem trim_append (hleft : Blanks blank left) (hright : Blanks blank right) (text : List α) :
    trim blank (left++text++right) = trim blank text := by
  rcases trim_padded blank text with ⟨hcore,before,after,hbefore,hafter,htext⟩
  have h₁ : Blanks blank (left++before) := fun a ha =>
    (List.mem_append.mp ha).elim (hleft a) (hbefore a)
  have h₂ : Blanks blank (after++right) := fun a ha =>
    (List.mem_append.mp ha).elim (hafter a) (hright a)
  apply trim_eq_of_padded
  refine ⟨hcore,left++before,after++right,h₁,h₂,?_⟩
  calc left++text++right
    _ = left++(before++trim blank text++after)++right := by rw [← htext]
    _ = left++before++trim blank text++(after++right) := by simp [List.append_assoc]

theorem trim_eq_self (h : Tight blank text) : trim blank text = text :=
  trim_eq_of_padded ⟨h,[],[],by simp [Blanks],by simp [Blanks],by simp⟩

end Blanks

section Fields

variable {α : Type} [BEq α] [LawfulBEq α] {blank : α → Bool} {sep : α} {text left right : List α}
  {parts cores : List (List α)}

/-- A text is its parts with the separator between them. -/
def Separated (sep : α) (text : List α) (parts : List (List α)) : Prop :=
  parts ≠ [] ∧ (∀ part ∈ parts, sep ∉ part) ∧ [sep].intercalate parts = text

theorem notMem_of_mem_splitOn (sep : α) (text : List α) :
    ∀ part ∈ text.splitOn sep, sep ∉ part := by
  induction text with
  | nil => simp
  | cons a text ih =>
    rw [List.splitOn_cons_eq_if_modifyHead]
    by_cases ha : a = sep
    · subst a
      simpa using ih
    · rw [if_neg (by simpa using ha)]
      cases htext : text.splitOn sep with
      | nil => simp
      | cons part rest =>
        have h₁ : sep ∉ part := ih part (by simp [htext])
        have h₂ : ∀ p ∈ rest, sep ∉ p := fun p hp => ih p (by simp [htext,hp])
        have h₃ : sep ∉ a::part := by simp [h₁,Ne.symm ha]
        simpa [h₃] using h₂

theorem splitOn_eq_iff : text.splitOn sep = parts ↔ Separated sep text parts := by
  constructor
  · rintro rfl
    exact ⟨List.splitOn_ne_nil sep text,notMem_of_mem_splitOn sep text,
      List.intercalate_splitOn sep⟩
  · rintro ⟨hne,hparts,rfl⟩
    exact List.splitOn_intercalate sep hparts hne

/-- The pieces of a text between separators, without the blanks around each. -/
def fields (blank : α → Bool) (sep : α) (text : List α) : List (List α) :=
  (text.splitOn sep).map (trim blank)

def Fields (blank : α → Bool) (sep : α) (text : List α) (cores : List (List α)) : Prop :=
  ∃ parts, Separated sep text parts ∧ List.Forall₂ (Padded blank) parts cores

omit [BEq α] [LawfulBEq α] in
theorem map_trim_eq_iff :
    parts.map (trim blank) = cores ↔ List.Forall₂ (Padded blank) parts cores := by
  induction parts generalizing cores with
  | nil =>
    cases cores <;> simp
  | cons part parts ih =>
    cases cores with
    | nil => simp
    | cons core cores => simp [trim_eq_iff,ih]

theorem fields_eq_iff : fields blank sep text = cores ↔ Fields blank sep text cores := by
  constructor
  · intro h
    exact ⟨text.splitOn sep,splitOn_eq_iff.mp rfl,map_trim_eq_iff.mp h⟩
  · rintro ⟨parts,hparts,hcores⟩
    rw [fields,splitOn_eq_iff.mpr hparts]
    exact map_trim_eq_iff.mpr hcores

theorem splitOn_append_left (hleft : sep ∉ left) (text : List α) :
    ∃ part parts, text.splitOn sep = part::parts ∧
      (left++text).splitOn sep = (left++part)::parts := by
  induction left with
  | nil =>
    cases h : text.splitOn sep with
    | nil => exact absurd h (List.splitOn_ne_nil sep text)
    | cons part parts => exact ⟨part,parts,rfl,by simpa using h⟩
  | cons a left ih =>
    have h₁ : a ≠ sep := by
      rintro rfl
      simp at hleft
    have h₂ : sep ∉ left := fun h => hleft (by simp [h])
    obtain ⟨part,parts,hpart,hparts⟩ := ih h₂
    refine ⟨part,parts,hpart,?_⟩
    rw [List.cons_append,List.splitOn_cons_eq_if_modifyHead,if_neg (by simpa using h₁),hparts]
    rfl

theorem splitOn_append_right (hright : sep ∉ right) (text : List α) :
    ∃ parts part, text.splitOn sep = parts++[part] ∧
      (text++right).splitOn sep = parts++[part++right] := by
  induction text with
  | nil => exact ⟨[],[],by simp,by simp [List.splitOn_eq_singleton hright]⟩
  | cons a text ih =>
    obtain ⟨parts,part,hpart,hparts⟩ := ih
    rw [List.cons_append,List.splitOn_cons_eq_if_modifyHead,List.splitOn_cons_eq_if_modifyHead,
      hparts,hpart]
    by_cases ha : (a == sep) = true
    · simp only [if_pos ha]
      exact ⟨[]::parts,part,rfl,rfl⟩
    · simp only [if_neg ha]
      cases parts with
      | nil => exact ⟨[],a::part,rfl,rfl⟩
      | cons first parts => exact ⟨(a::first)::parts,part,rfl,rfl⟩

/-- Blanks at the ends of a text are blanks of its first and last piece. -/
theorem fields_trim (hsep : blank sep = false) (text : List α) :
    fields blank sep (trim blank text) = fields blank sep text := by
  rcases trim_padded blank text with ⟨-,left,right,hleft,hright,htext⟩
  have hno : Blanks blank ([] : List α) := by simp [Blanks]
  have h₁ : sep ∉ left := fun h => by simp [hleft sep h] at hsep
  have h₂ : sep ∉ right := fun h => by simp [hright sep h] at hsep
  have hl : fields blank sep (left++trim blank text) = fields blank sep (trim blank text) := by
    obtain ⟨part,parts,hpart,hparts⟩ := splitOn_append_left h₁ (trim blank text)
    have h₃ := trim_append hleft hno part
    simp only [List.append_nil] at h₃
    simp [fields,hpart,hparts,h₃]
  have hr : fields blank sep (left++trim blank text++right) =
      fields blank sep (left++trim blank text) := by
    obtain ⟨parts,part,hpart,hparts⟩ := splitOn_append_right h₂ (left++trim blank text)
    have h₃ := trim_append hno hright part
    simp only [List.nil_append] at h₃
    simp only [fields,hpart,hparts,h₃,List.map_append,List.map_cons,List.map_nil]
  calc fields blank sep (trim blank text)
    _ = fields blank sep (left++trim blank text) := hl.symm
    _ = fields blank sep (left++trim blank text++right) := hr.symm
    _ = fields blank sep text := by rw [← htext]

end Fields

section Lines

variable {α : Type} [DecidableEq α] {blank : α → Bool} {newline cr : α} {text line : List α}
  {contents : List (List α)}

/-- A line without the one return that may end it. -/
def stripReturn (cr : α) (line : List α) : List α :=
  if line.getLast? = some cr then line.dropLast else line

def Ended (cr : α) (line body : List α) : Prop :=
  line = body++[cr] ∨ line = body ∧ body.getLast? ≠ some cr

theorem stripReturn_eq_iff {body : List α} : stripReturn cr line = body ↔ Ended cr line body := by
  unfold stripReturn
  constructor
  · intro h
    by_cases hcr : line.getLast? = some cr
    · rw [if_pos hcr] at h
      left
      rw [← h,List.dropLast_append_getLast? cr hcr]
    · rw [if_neg hcr] at h
      right
      exact ⟨h,by simpa [h] using hcr⟩
  · rintro (rfl | ⟨rfl,hcr⟩)
    · simp
    · rw [if_neg hcr]

/-- The lines of a text that hold more than blanks. -/
def contentLines (blank : α → Bool) (newline cr : α) (text : List α) : List (List α) :=
  (((text.splitOn newline).map (stripReturn cr)).map (trim blank)).filter (· ≠ [])

def Content (blank : α → Bool) (cr : α) (line content : List α) : Prop :=
  ∃ body, Ended cr line body ∧ Padded blank body content

/-- The content of a text: its lines, each with its ending and the blanks around it gone,
less the lines that hold nothing. -/
def LaidOut (blank : α → Bool) (newline cr : α) (text : List α) (contents : List (List α)) :
    Prop :=
  ∃ lines every, Separated newline text lines ∧ List.Forall₂ (Content blank cr) lines every ∧
    contents = every.filter (· ≠ [])

theorem trim_stripReturn_iff {content : List α} :
    trim blank (stripReturn cr line) = content ↔ Content blank cr line content := by
  constructor
  · intro h
    exact ⟨stripReturn cr line,stripReturn_eq_iff.mp rfl,trim_eq_iff.mp h⟩
  · rintro ⟨body,hbody,hcontent⟩
    rw [stripReturn_eq_iff.mpr hbody]
    exact trim_eq_iff.mpr hcontent

theorem contentLines_eq_iff :
    contentLines blank newline cr text = contents ↔ LaidOut blank newline cr text contents := by
  have hlines : ∀ lines every : List (List α),
      (lines.map (stripReturn cr)).map (trim blank) = every ↔
        List.Forall₂ (Content blank cr) lines every := by
    intro lines
    induction lines with
    | nil =>
      intro every
      cases every <;> simp
    | cons line lines ih =>
      intro every
      cases every with
      | nil => simp
      | cons content every => simpa [trim_stripReturn_iff] using fun _ => ih every
  constructor
  · intro h
    exact ⟨text.splitOn newline,_,splitOn_eq_iff.mp rfl,(hlines _ _).mp rfl,h.symm⟩
  · rintro ⟨lines,every,hlines',hevery,rfl⟩
    rw [contentLines,splitOn_eq_iff.mpr hlines',(hlines _ _).mpr hevery]

omit [DecidableEq α] in
theorem mem_of_padded {core : List α} {a : α} (h : Padded blank text core) (ha : a ∈ text) :
    blank a = true ∨ a ∈ core := by
  rcases h with ⟨-,left,right,hleft,hright,rfl⟩
  simp only [List.mem_append] at ha
  rcases ha with (ha | ha) | ha
  · exact Or.inl (hleft a ha)
  · exact Or.inr ha
  · exact Or.inl (hright a ha)

omit [DecidableEq α] in
theorem mem_intercalate {sep a : α} {parts : List (List α)} (ha : a ∈ [sep].intercalate parts) :
    a = sep ∨ ∃ part ∈ parts, a ∈ part := by
  induction parts with
  | nil => simp at ha
  | cons part parts ih =>
    cases parts with
    | nil =>
      rw [List.intercalate_singleton] at ha
      exact Or.inr ⟨part,by simp,ha⟩
    | cons next parts =>
      rw [List.intercalate_cons_cons] at ha
      simp only [List.mem_append,List.mem_singleton] at ha
      rcases ha with (ha | ha) | ha
      · exact Or.inr ⟨part,by simp,ha⟩
      · exact Or.inl ha
      · rcases ih ha with h | ⟨p,hp,h⟩
        · exact Or.inl h
        · exact Or.inr ⟨p,by simp [hp],h⟩

omit [DecidableEq α] in
theorem exists_of_forall₂ {β : Type} {R : α → β → Prop} {l : List α} {l' : List β} {a : α}
    (h : List.Forall₂ R l l') (ha : a ∈ l) : ∃ b ∈ l', R a b := by
  induction h with
  | nil => simp at ha
  | @cons a' b' l l' hab _ ih =>
    rcases List.mem_cons.mp ha with rfl | ha
    · exact ⟨b',by simp,hab⟩
    · obtain ⟨b,hb,hR⟩ := ih ha
      exact ⟨b,by simp [hb],hR⟩

omit [DecidableEq α] in
theorem mem_of_fields {sep a : α} {cores : List (List α)} (h : Fields blank sep text cores)
    (ha : a ∈ text) : a = sep ∨ blank a = true ∨ ∃ core ∈ cores, a ∈ core := by
  rcases h with ⟨parts,⟨-,-,rfl⟩,hcores⟩
  rcases mem_intercalate ha with h | ⟨part,hpart,ha⟩
  · exact Or.inl h
  · obtain ⟨core,hcore,hpad⟩ := exists_of_forall₂ hcores hpart
    rcases mem_of_padded hpad ha with h | h
    · exact Or.inr (Or.inl h)
    · exact Or.inr (Or.inr ⟨core,hcore,h⟩)

omit [DecidableEq α] in
/-- A text holds no more than its layout and its content. -/
theorem mem_of_laidOut {a : α} (h : LaidOut blank newline cr text contents) (ha : a ∈ text) :
    a = newline ∨ a = cr ∨ blank a = true ∨ ∃ content ∈ contents, a ∈ content := by
  rcases h with ⟨lines,every,⟨-,-,rfl⟩,hevery,rfl⟩
  rcases mem_intercalate ha with h | ⟨line,hline,ha⟩
  · exact Or.inl h
  · obtain ⟨content,hcontent,body,hbody,hpad⟩ := exists_of_forall₂ hevery hline
    have hin : a = cr ∨ a ∈ body := by
      rcases hbody with rfl | ⟨rfl,-⟩
      · simpa [or_comm] using ha
      · exact Or.inr ha
    rcases hin with h | ha
    · exact Or.inr (Or.inl h)
    rcases mem_of_padded hpad ha with h | h
    · exact Or.inr (Or.inr (Or.inl h))
    · refine Or.inr (Or.inr (Or.inr ⟨content,?_,h⟩))
      exact List.mem_filter.mpr ⟨hcontent,by simpa using List.ne_nil_of_mem h⟩

end Lines

section Numerals

variable {α : Type} {digit : α → Option Nat} {base limit result n : Nat} {text : List α}

/-- The number that digits write, most significant first. -/
def digitsValue (base result : Nat) (digits : List Nat) : Nat :=
  digits.foldl (fun value d => value*base+d) result

/-- A text of digits that writes a number after `result`. -/
def Digits (digit : α → Option Nat) (base result : Nat) (text : List α) (n : Nat) : Prop :=
  ∃ digits, List.Forall₂ (fun a d => digit a = some d) text digits ∧
    n = digitsValue base result digits

/-- The digit loop of a reader that refuses a number past `limit` before it is reached. -/
def readDigits (digit : α → Option Nat) (base limit : Nat) : Nat → List α → Option Nat
  | result, [] => some result
  | result, a::text => do
    let d ← digit a
    if result > (limit-d)/base then none
    else readDigits digit base limit (result*base+d) text

theorem le_digitsValue (hbase : 0 < base) (digits : List Nat) :
    result ≤ digitsValue base result digits := by
  induction digits generalizing result with
  | nil => simp [digitsValue]
  | cons d digits ih =>
    have h₁ : result ≤ result*base := Nat.le_mul_of_pos_right result hbase
    have h₂ : result*base+d ≤ digitsValue base (result*base+d) digits := ih
    calc result
      _ ≤ result*base+d := by omega
      _ ≤ digitsValue base result (d::digits) := h₂

theorem digits_cons {a : α} :
    Digits digit base result (a::text) n ↔
      ∃ d, digit a = some d ∧ Digits digit base (result*base+d) text n := by
  constructor
  · rintro ⟨digits,hdigits,rfl⟩
    cases hdigits with
    | cons ha htext => exact ⟨_,ha,_,htext,rfl⟩
  · rintro ⟨d,ha,digits,htext,rfl⟩
    exact ⟨d::digits,.cons ha htext,rfl⟩

theorem digits_nil : Digits digit base result [] n ↔ n = result := by
  constructor
  · rintro ⟨digits,hdigits,rfl⟩
    cases hdigits
    rfl
  · rintro rfl
    exact ⟨[],.nil,rfl⟩

theorem le_of_digits (hbase : 0 < base) (h : Digits digit base result text n) : result ≤ n := by
  rcases h with ⟨digits,-,rfl⟩
  exact le_digitsValue hbase digits

/-- The digit loop reads exactly the numbers up to its limit. -/
theorem readDigits_eq_some_iff (hbase : 0 < base) (hdigit : ∀ a d, digit a = some d → d ≤ limit)
    (hresult : result ≤ limit) :
    readDigits digit base limit result text = some n ↔
      Digits digit base result text n ∧ n ≤ limit := by
  induction text generalizing result with
  | nil =>
    simp only [readDigits,digits_nil,Option.some.injEq]
    constructor
    · rintro rfl
      exact ⟨rfl,hresult⟩
    · exact fun h => h.1.symm
  | cons a text ih =>
    rw [readDigits,digits_cons]
    cases ha : digit a with
    | none => simp
    | some d =>
      have hd := hdigit a d ha
      have hstep : result ≤ (limit-d)/base ↔ result*base+d ≤ limit := by
        rw [Nat.le_div_iff_mul_le hbase]
        omega
      by_cases hover : result > (limit-d)/base
      · have h₁ : ¬result*base+d ≤ limit := fun h => absurd (hstep.mpr h) (by omega)
        simp only [Option.bind_eq_bind,Option.bind_some,if_pos hover,Option.some.injEq,
          exists_eq_left',reduceCtorEq,false_iff]
        rintro ⟨h,hn⟩
        have h₂ := le_of_digits hbase h
        omega
      · have h₁ : result*base+d ≤ limit := hstep.mp (by omega)
        simp only [Option.bind_eq_bind,Option.bind_some,if_neg hover,Option.some.injEq,
          exists_eq_left']
        exact ih h₁

end Numerals

section Records

variable {α β γ : Type} {R : α → β → Prop} {read : α → Option β} {l : List α} {v : List β} {b : β}

theorem mapM_eq_some_iff :
    l.mapM read = some v ↔ List.Forall₂ (fun a b => read a = some b) l v := by
  induction l generalizing v with
  | nil => cases v <;> simp
  | cons a l ih =>
    simp only [List.mapM_cons,Option.bind_eq_bind,Option.bind_eq_some_iff,Option.pure_def,
      Option.some.injEq]
    constructor
    · rintro ⟨b,hb,v',hv,rfl⟩
      exact .cons hb (ih.mp hv)
    · intro h
      cases h with
      | cons hb hv => exact ⟨_,hb,_,ih.mpr hv,rfl⟩

/-- All members of a list are related one by one exactly when the members other than the one
at `k` are, and that one is. -/
theorem exists_forall₂_eraseIdx_iff {k : Nat} :
    (∃ l', List.Forall₂ R l l' ∧ l'.eraseIdx k = v ∧ l'[k]? = some b) ↔
      List.Forall₂ R (l.eraseIdx k) v ∧ ∃ a, l[k]? = some a ∧ R a b := by
  induction l generalizing k v with
  | nil => simp
  | cons a l ih =>
    cases k with
    | zero =>
      constructor
      · rintro ⟨l',hl,rfl,hb⟩
        cases hl with
        | cons ha hl =>
          simp only [List.getElem?_cons_zero,Option.some.injEq] at hb
          subst hb
          exact ⟨hl,a,rfl,ha⟩
      · rintro ⟨hl,a',ha',hR⟩
        simp only [List.getElem?_cons_zero,Option.some.injEq] at ha'
        subst ha'
        exact ⟨b::v,.cons hR hl,rfl,rfl⟩
    | succ k =>
      constructor
      · rintro ⟨l',hl,rfl,hb⟩
        cases hl with
        | cons ha hl =>
          obtain ⟨h₁,h₂⟩ := ih.mp ⟨_,hl,rfl,by simpa using hb⟩
          exact ⟨.cons ha h₁,by simpa using h₂⟩
      · rintro ⟨hl,hk⟩
        simp only [List.eraseIdx_cons_succ] at hl
        cases hl with
        | cons ha hl =>
          obtain ⟨l',h₁,rfl,h₂⟩ := ih.mpr ⟨hl,by simpa using hk⟩
          exact ⟨_::l',.cons ha h₁,rfl,by simpa using h₂⟩

/-- A text that no reader of the record accepts is none of its fields. -/
theorem notMem_of_forall₂_eraseIdx {k : Nat} {a : α} (h : List.Forall₂ R (l.eraseIdx k) v)
    (ha : ∀ b, ¬R a b) (hk : l[k]? ≠ some a) : a ∉ l := by
  intro hmem
  obtain ⟨i,hi⟩ := List.mem_iff_getElem?.mp hmem
  by_cases hik : i = k
  · exact hk (hik ▸ hi)
  · have herase : a ∈ l.eraseIdx k := List.mem_eraseIdx_iff_getElem?.mpr ⟨i,hik,hi⟩
    obtain ⟨b,-,hR⟩ := exists_of_forall₂ h herase
    exact ha b hR

theorem exists_forall₂_comp_iff {S : β → γ → Prop} {w : List γ} :
    (∃ v, List.Forall₂ R l v ∧ List.Forall₂ S v w) ↔
      List.Forall₂ (fun a c => ∃ b, R a b ∧ S b c) l w := by
  induction l generalizing w with
  | nil =>
    constructor
    · rintro ⟨v,hv,hw⟩
      cases hv
      cases hw
      exact .nil
    · intro h
      cases h
      exact ⟨[],.nil,.nil⟩
  | cons a l ih =>
    constructor
    · rintro ⟨v,hv,hw⟩
      cases hv with
      | cons ha hv =>
        cases hw with
        | cons hb hw => exact .cons ⟨_,ha,hb⟩ (ih.mp ⟨_,hv,hw⟩)
    · intro h
      cases h with
      | cons ha hl =>
        obtain ⟨b,hab,hbc⟩ := ha
        obtain ⟨v,hv,hw⟩ := ih.mpr hl
        exact ⟨b::v,.cons hab hv,.cons hbc hw⟩

end Records

end TextFormat
end L850GL
