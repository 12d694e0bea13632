import L850GL.SafeText
import L850GL.Sms.Listing
import Mathlib.Data.List.Lex
import Mathlib.Data.Char
import Mathlib.Tactic.Order

/-! The one number that the overview shows of those that ModemManager reports.  Only the first
sixteen entries are looked at. -/
namespace L850GL
namespace OwnNumber

open SafeText Sms.Messaging

def candidateOf (number : CString) : CString := safeText (some number) safePhoneNumberMax

/-- The loop body of `preferred_own_number`. -/
def considerNumber (selected : Option CString) (number : CString) : Option CString :=
  let candidate := candidateOf number
  if candidate = [] then selected
  else match selected with
    | none => some candidate
    | some current =>
      if gStrcmp0 (some candidate) (some current) = .lt then some candidate else some current

def preferredOwnNumber (numbers : List CString) : CString :=
  ((numbers.take maxOwnNumbers).foldl considerNumber none).getD []

def usable (numbers : List CString) : List CString :=
  (numbers.map candidateOf).filter fun candidate => candidate != []

/-- The smallest usable value, empty when there is none. -/
def smallestUsable (numbers : List CString) : CString := ((usable numbers).min?).getD []

variable {numbers numbers' : List CString} {number : CString}

theorem gStrcmp0_lt_iff {left right : CString} :
    gStrcmp0 (some left) (some right) = .lt ↔ left < right := by
  simp only [gStrcmp0]
  induction left generalizing right with
  | nil => cases right <;> simp
  | cons a left ih =>
    cases right with
    | nil => simp
    | cons b right =>
      have hchar : a.toNat = b.toNat ↔ a = b := Char.toNat_inj
      rw [List.map_cons,List.map_cons,List.compare_cons_cons,Ordering.then_eq_lt,
        Nat.compare_eq_lt,Nat.compare_eq_eq,ih,List.cons_lt_cons_iff,hchar]
      rfl

theorem foldl_considerNumber (numbers : List CString) (current : CString) :
    numbers.foldl considerNumber (some current) = some ((usable numbers).foldl min current) := by
  induction numbers generalizing current with
  | nil => rfl
  | cons number numbers ih =>
    by_cases hempty : candidateOf number = []
    · simp [considerNumber,hempty,usable,ih]
    · have hmin : (if gStrcmp0 (some (candidateOf number)) (some current) = .lt then
          some (candidateOf number) else some current) =
          some (min current (candidateOf number)) := by
        simp only [gStrcmp0_lt_iff,min_def]
        split_ifs <;> first | rfl | (exfalso; order)
      have hstep : considerNumber (some current) number =
          some (min current (candidateOf number)) := by
        simpa [considerNumber,hempty] using hmin
      rw [List.foldl_cons,hstep,ih]
      simp [usable,hempty]

theorem foldl_considerNumber_none (numbers : List CString) :
    numbers.foldl considerNumber none = (usable numbers).min? := by
  induction numbers with
  | nil => rfl
  | cons number numbers ih =>
    by_cases hempty : candidateOf number = []
    · simpa [considerNumber,hempty,usable] using ih
    · have hstep : considerNumber none number = some (candidateOf number) := by
        simp [considerNumber,hempty]
      have husable : usable (number::numbers) = candidateOf number::usable numbers := by
        simp [usable,hempty]
      rw [List.foldl_cons,hstep,foldl_considerNumber,husable,List.min?_cons']

theorem preferredOwnNumber_eq (numbers : List CString) :
    preferredOwnNumber numbers = smallestUsable (numbers.take maxOwnNumbers) := by
  rw [preferredOwnNumber,foldl_considerNumber_none,smallestUsable]

theorem mem_usable {candidate : CString} : candidate ∈ usable numbers ↔
    candidate ≠ [] ∧ ∃ number ∈ numbers,candidateOf number = candidate := by
  simp [usable,and_comm]

theorem smallestUsable_eq_nil_iff : smallestUsable numbers = [] ↔ usable numbers = [] := by
  rw [smallestUsable]
  cases hmin : (usable numbers).min? with
  | none => simpa using List.min?_eq_none_iff.mp hmin
  | some candidate =>
    have hmem := List.min?_mem hmin
    have hne := (mem_usable.mp hmem).1
    simp only [Option.getD_some,hne,false_iff]
    exact List.ne_nil_of_mem hmem

/-- The smallest usable value is one of the entries and not above any other. -/
theorem smallestUsable_eq_iff {candidate : CString} (hne : candidate ≠ []) :
    smallestUsable numbers = candidate ↔
      candidate ∈ usable numbers ∧ ∀ other ∈ usable numbers,candidate ≤ other := by
  rw [← List.min?_eq_some_iff,smallestUsable]
  cases hmin : (usable numbers).min? with
  | none => simp [hne.symm]
  | some candidate => simp

theorem smallestUsable_of_subset (hsub : ∀ number ∈ numbers',number ∈ numbers)
    (hmem : ∃ number ∈ numbers',candidateOf number = smallestUsable numbers) :
    smallestUsable numbers' = smallestUsable numbers := by
  have husable : ∀ candidate ∈ usable numbers',candidate ∈ usable numbers := by
    intro candidate hcandidate
    obtain ⟨hne,number,hnumber,hcandidate⟩ := mem_usable.mp hcandidate
    exact mem_usable.mpr ⟨hne,number,hsub number hnumber,hcandidate⟩
  by_cases hempty : smallestUsable numbers = []
  · have hnil := smallestUsable_eq_nil_iff.mp hempty
    rw [hempty,smallestUsable_eq_nil_iff]
    refine List.eq_nil_iff_forall_not_mem.mpr fun candidate hcandidate => ?_
    have h₁ := husable candidate hcandidate
    rw [hnil] at h₁
    cases h₁
  · obtain ⟨-,hleast⟩ := (smallestUsable_eq_iff hempty).mp rfl
    refine (smallestUsable_eq_iff hempty).mpr ⟨?_,fun other hother => ?_⟩
    · exact mem_usable.mpr ⟨hempty,hmem⟩
    · exact hleast other (husable other hother)

theorem usable_perm (h : numbers.Perm numbers') : (usable numbers).Perm (usable numbers') :=
  (h.map candidateOf).filter _

theorem smallestUsable_perm (h : numbers.Perm numbers') :
    smallestUsable numbers = smallestUsable numbers' := by
  have hmem : ∀ candidate,candidate ∈ usable numbers ↔ candidate ∈ usable numbers' :=
    fun candidate => (usable_perm h).mem_iff
  by_cases hempty : smallestUsable numbers = []
  · have hnil := smallestUsable_eq_nil_iff.mp hempty
    have hperm := usable_perm h
    rw [hnil,List.nil_perm] at hperm
    rw [hempty,eq_comm,smallestUsable_eq_nil_iff,hperm]
  · obtain ⟨hin,hleast⟩ := (smallestUsable_eq_iff hempty).mp rfl
    symm
    refine (smallestUsable_eq_iff hempty).mpr ⟨(hmem _).mp hin,fun other hother => ?_⟩
    exact hleast other ((hmem other).mpr hother)

/-- With few other entries, the first sixteen hold the smallest usable value in any order. -/
theorem preferredOwnNumber_of_few (h : numbers.Perm numbers')
    (hfew : numbers.countP (fun number => candidateOf number != smallestUsable numbers) <
      maxOwnNumbers) : preferredOwnNumber numbers' = smallestUsable numbers := by
  rw [preferredOwnNumber_eq]
  rw [h.countP_eq] at hfew
  by_cases hlong : maxOwnNumbers ≤ numbers'.length
  · refine smallestUsable_of_subset (fun number hnumber => ?_) ?_
    · exact h.mem_iff.mpr (List.mem_of_mem_take hnumber)
    · by_contra hnone
      have hall : ∀ number ∈ numbers'.take maxOwnNumbers,
          (candidateOf number != smallestUsable numbers) = true := by
        intro number hnumber
        simp only [bne_iff_ne]
        exact fun heq => hnone ⟨number,hnumber,heq⟩
      have hcount := List.countP_eq_length.mpr hall
      have hle := (List.take_sublist maxOwnNumbers numbers').countP_le
        (p:=fun number => candidateOf number != smallestUsable numbers)
      rw [List.length_take] at hcount
      omega
  · rw [List.take_of_length_le (by omega)]
    exact (smallestUsable_perm h).symm

/-- Sixteen other entries hide the smallest usable value. -/
theorem preferredOwnNumber_hidden {others : List CString} {value : CString} (hne : value ≠ [])
    (hothers : ∀ number ∈ others,candidateOf number ≠ value)
    (hlength : maxOwnNumbers ≤ others.length) (rest : List CString) :
    preferredOwnNumber (others++rest) ≠ value := by
  rw [preferredOwnNumber_eq,List.take_append_of_le_length hlength]
  intro heq
  obtain ⟨hmem,-⟩ := (smallestUsable_eq_iff hne).mp heq
  obtain ⟨-,number,hnumber,hcandidate⟩ := mem_usable.mp hmem
  exact hothers number (List.mem_of_mem_take hnumber) hcandidate

theorem preferredOwnNumber_cons (h : candidateOf number = smallestUsable (number::numbers)) :
    preferredOwnNumber (number::numbers) = smallestUsable (number::numbers) := by
  rw [preferredOwnNumber_eq]
  refine smallestUsable_of_subset (fun _ hmem => List.mem_of_mem_take hmem) ⟨number,?_,h⟩
  rw [show maxOwnNumbers = 15+1 from rfl,List.take_succ_cons]
  exact List.mem_cons_self

/-- The number is the same for every order of the entries exactly when fewer than sixteen of
them differ from the smallest usable value. -/
theorem preferredOwnNumber_perm_iff (numbers : List CString) :
    (∀ numbers',numbers.Perm numbers' →
      preferredOwnNumber numbers' = preferredOwnNumber numbers) ↔
      numbers.countP (fun number => candidateOf number != smallestUsable numbers) <
        maxOwnNumbers := by
  constructor
  · intro hsame
    by_contra hmany
    let other := fun number => candidateOf number != smallestUsable numbers
    have hcount : maxOwnNumbers ≤ (numbers.filter other).length := by
      rw [← List.countP_eq_length_filter]
      exact Nat.le_of_not_lt hmany
    have hne : smallestUsable numbers ≠ [] := by
      intro hempty
      have hnil := smallestUsable_eq_nil_iff.mp hempty
      obtain ⟨number,hnumber⟩ := List.exists_mem_of_length_pos
        (Nat.lt_of_lt_of_le (by decide) hcount)
      obtain ⟨hin,hother⟩ := List.mem_filter.mp hnumber
      simp only [other,hempty,bne_iff_ne] at hother
      have hmem : candidateOf number ∈ usable numbers := mem_usable.mpr ⟨hother,number,hin,rfl⟩
      rw [hnil] at hmem
      cases hmem
    -- the other entries first
    have hhidden := preferredOwnNumber_hidden hne
      (fun number hnumber => by simpa [other] using (List.mem_filter.mp hnumber).2) hcount
      (numbers.filter fun n => !other n)
    -- an entry of the smallest value first
    obtain ⟨hmem,-⟩ := (smallestUsable_eq_iff hne).mp rfl
    obtain ⟨-,number,hnumber,hcandidate⟩ := mem_usable.mp hmem
    have hfront := List.perm_cons_erase hnumber
    have hsmallest := smallestUsable_perm hfront
    have hchosen := preferredOwnNumber_cons (hcandidate.trans hsmallest)
    rw [hsame _ hfront,← hsmallest] at hchosen
    refine hhidden ?_
    rw [hsame _ (List.filter_append_perm other numbers).symm,hchosen]
  · intro hfew numbers' h
    rw [preferredOwnNumber_of_few h hfew,preferredOwnNumber_of_few (.refl _) hfew]

/-- Sixteen larger numbers before the smallest one hide it. -/
theorem preferredOwnNumber_order_matters :
    ∃ numbers numbers',numbers.Perm numbers' ∧
      preferredOwnNumber numbers ≠ preferredOwnNumber numbers' := by
  refine ⟨"+1".toList::List.replicate 16 "+2".toList,
    List.replicate 16 "+2".toList++["+1".toList],List.perm_append_singleton _ _ |>.symm,?_⟩
  decide +kernel

end OwnNumber
end L850GL
