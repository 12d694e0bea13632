import Mathlib.Data.List.Sort
import Mathlib.Tactic.Common

/-! Lists sorted by a comparison, whose result does not depend on the order they came in. -/
namespace L850GL
namespace Sorting

variable {α β : Type} {cmp : α → α → Ordering} {l l' : List α} {a : α}

/-- Things compared by what a function makes of them. -/
theorem transCmp_on (cmp : α → α → Ordering) [Std.TransCmp cmp] (f : β → α) :
    Std.TransCmp fun a b => cmp (f a) (f b) where
  eq_swap := Std.OrientedCmp.eq_swap
  isLE_trans := Std.TransCmp.isLE_trans

/-- A stable sort, the smallest first. -/
def sortBy (cmp : α → α → Ordering) (l : List α) : List α :=
  l.insertionSort fun a b => cmp a b ≠ .gt

theorem sortBy_perm (cmp : α → α → Ordering) (l : List α) : (sortBy cmp l).Perm l :=
  List.perm_insertionSort _ l

theorem mem_sortBy : a ∈ sortBy cmp l ↔ a ∈ l := (sortBy_perm cmp l).mem_iff

theorem length_sortBy : (sortBy cmp l).length = l.length := (sortBy_perm cmp l).length_eq

/-- Nothing comes before something smaller. -/
theorem sortBy_pairwise [Std.TransCmp cmp] : (sortBy cmp l).Pairwise fun a b => cmp a b ≠ .gt := by
  have htrans : IsTrans α fun a b => cmp a b ≠ .gt := by
    refine ⟨fun a b c hab hbc => ?_⟩
    simp only [ne_eq,Ordering.ne_gt_iff_isLE] at hab hbc ⊢
    exact Std.TransCmp.isLE_trans hab hbc
  have htotal : Std.Total fun a b => cmp a b ≠ .gt := by
    refine ⟨fun a b => ?_⟩
    have hswap : cmp b a = (cmp a b).swap := Std.OrientedCmp.eq_swap
    rw [hswap]
    cases cmp a b <;> simp
  exact List.pairwise_insertionSort _ l

/-- The result depends on what is sorted and how it compares, not on the order it came in. -/
theorem sortBy_congr {cmp' : α → α → Ordering} [Std.TransCmp cmp] [Std.TransCmp cmp']
    (h : l.Perm l') (hcmp : ∀ a ∈ l, ∀ b ∈ l, cmp' a b = cmp a b)
    (heq : ∀ a ∈ l, ∀ b ∈ l, cmp a b = .eq → a = b) : sortBy cmp l = sortBy cmp' l' := by
  have hperm : (sortBy cmp l).Perm (sortBy cmp' l') :=
    ((sortBy_perm cmp l).trans h).trans (sortBy_perm cmp' l').symm
  have hmem' : ∀ {a : α}, a ∈ sortBy cmp' l' → a ∈ l := fun hm => h.mem_iff.mpr (mem_sortBy.mp hm)
  have hsorted : (sortBy cmp' l').Pairwise fun a b => cmp a b ≠ .gt :=
    sortBy_pairwise.imp_of_mem fun ha hb hab => hcmp _ (hmem' ha) _ (hmem' hb) ▸ hab
  refine hperm.eq_of_pairwise (fun a b ha hb hab hba => ?_) sortBy_pairwise hsorted
  refine heq a (mem_sortBy.mp ha) b (hmem' hb) ?_
  have hswap : cmp b a = (cmp a b).swap := Std.OrientedCmp.eq_swap
  rw [hswap] at hba
  cases hc : cmp a b with
  | lt =>
    rw [hc] at hba
    exact absurd rfl hba
  | eq => rfl
  | gt => exact absurd hc hab

/-- What holds along a sorted list holds of an element and every larger one. -/
theorem rel_of_sortBy [Std.TransCmp cmp] {R : α → α → Prop} (h : (sortBy cmp l).Pairwise R)
    {b : α} (ha : a ∈ l) (hb : b ∈ l) (hlt : cmp a b = .lt) : R a b := by
  obtain ⟨i,hi,hai⟩ := List.getElem_of_mem ((mem_sortBy : a ∈ sortBy cmp l ↔ a ∈ l).mpr ha)
  obtain ⟨j,hj,hbj⟩ := List.getElem_of_mem ((mem_sortBy : b ∈ sortBy cmp l ↔ b ∈ l).mpr hb)
  have hswap : cmp b a = .gt := Std.OrientedCmp.gt_iff_lt.mpr hlt
  have hsorted : (sortBy cmp l).Pairwise fun a b => cmp a b ≠ .gt := sortBy_pairwise
  have hne : i ≠ j := by
    rintro rfl
    have hself : cmp a a = .eq := Std.ReflCmp.compare_self
    rw [← hbj,hai,hself] at hlt
    cases hlt
  rcases Nat.lt_or_gt_of_ne hne with hij | hij
  · have h₁ := List.pairwise_iff_getElem.mp h i j hi hj hij
    rwa [hai,hbj] at h₁
  · have h₁ := List.pairwise_iff_getElem.mp hsorted j i hj hi hij
    rw [hai,hbj] at h₁
    exact absurd hswap h₁

/-- How many elements come before one. -/
def rank (cmp : α → α → Ordering) (l : List α) (a : α) : Nat := l.countP fun b => cmp b a == .lt

theorem rank_perm (h : l.Perm l') (a : α) : rank cmp l a = rank cmp l' a := h.countP_eq _

/-- Fewer elements come before a smaller one. -/
theorem rank_le [Std.TransCmp cmp] {b : α} (h : cmp a b ≠ .gt) : rank cmp l a ≤ rank cmp l b := by
  refine List.countP_mono_left fun c _ hc => ?_
  rw [beq_iff_eq] at hc ⊢
  exact Std.TransCmp.lt_of_lt_of_isLE hc (Ordering.ne_gt_iff_isLE.mp h)

theorem rank_append [Std.TransCmp cmp] {l₁ l₂ : List α}
    (h : (l₁++a::l₂).Pairwise fun a b => cmp a b = .lt) :
    rank cmp (l₁++a::l₂) a = l₁.length := by
  obtain ⟨-,hright,hleft⟩ := List.pairwise_append.mp h
  have h₁ : l₁.countP (fun b => cmp b a == .lt) = l₁.length :=
    List.countP_eq_length.mpr fun b hb => by simpa using hleft b hb a List.mem_cons_self
  have h₂ : (a::l₂).countP (fun b => cmp b a == .lt) = 0 := by
    refine List.countP_eq_zero.mpr fun b hb => ?_
    rcases List.mem_cons.mp hb with rfl | hb
    · have hself : cmp b b = .eq := Std.ReflCmp.compare_self
      simp [hself]
    · have hgt : cmp b a = .gt :=
        Std.OrientedCmp.gt_iff_lt.mpr ((List.pairwise_cons.mp hright).1 b hb)
      simp [hgt]
  rw [rank,List.countP_append,h₁,h₂,Nat.add_zero]

/-- The first elements of a strictly sorted list are those with the fewest before them. -/
theorem mem_take_iff_rank [Std.TransCmp cmp] {k : Nat}
    (h : l.Pairwise fun a b => cmp a b = .lt) (ha : a ∈ l) :
    a ∈ l.take k ↔ rank cmp l a < k := by
  obtain ⟨l₁,l₂,rfl⟩ := List.append_of_mem ha
  rw [rank_append h]
  have hleft : ∀ b ∈ l₁, cmp b a = .lt := fun b hb =>
    (List.pairwise_append.mp h).2.2 b hb a List.mem_cons_self
  have hnot : a ∉ l₁ := by
    intro hm
    have hself : cmp a a = .eq := Std.ReflCmp.compare_self
    have h₁ := hleft a hm
    rw [hself] at h₁
    cases h₁
  constructor
  · intro hm
    by_contra hk
    rw [List.take_append_of_le_length (by omega)] at hm
    exact hnot (List.mem_of_mem_take hm)
  · intro hk
    obtain ⟨d,rfl⟩ : ∃ d, k = l₁.length+(d+1) := ⟨k-l₁.length-1,by omega⟩
    rw [List.take_length_add_append,List.take_succ_cons]
    exact List.mem_append_right _ List.mem_cons_self

end Sorting
end L850GL
