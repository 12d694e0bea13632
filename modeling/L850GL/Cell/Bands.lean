import L850GL.Cell
import Mathlib.Tactic.Common

/-! The band table of `l850_cell.c`: its ranges do not meet, and what lies outside them. -/
namespace L850GL
namespace Cell

/-- An EARFCN lies in a range of a band. -/
def InBand (earfcn band : Nat) : Prop :=
  ∃ r ∈ earfcnRanges, r.first ≤ earfcn ∧ earfcn ≤ r.last ∧ r.band = band

instance : DecidableRel InBand := fun earfcn band => by
  unfold InBand
  infer_instance

theorem earfcnRanges_ordered : earfcnRanges.Pairwise fun a b => a.last < b.first := by decide

/-- The first range that holds a number is the only one, when the ranges stand in order. -/
theorem find_range_iff {ranges : List EarfcnRange} {earfcn : Nat} {r : EarfcnRange}
    (h : ranges.Pairwise fun a b => a.last < b.first) :
    ranges.find? (fun r => r.first ≤ earfcn && earfcn ≤ r.last) = some r ↔
      r ∈ ranges ∧ r.first ≤ earfcn ∧ earfcn ≤ r.last := by
  induction ranges with
  | nil => simp
  | cons a ranges ih =>
    obtain ⟨ha,hranges⟩ := List.pairwise_cons.mp h
    by_cases hin : a.first ≤ earfcn ∧ earfcn ≤ a.last
    · rw [List.find?_cons_of_pos (by simpa using hin)]
      constructor
      · intro hr
        simp only [Option.some.injEq] at hr
        subst hr
        exact ⟨by simp,hin⟩
      · rintro ⟨hr,hfirst,hlast⟩
        rcases List.mem_cons.mp hr with rfl | hr
        · rfl
        · have := ha r hr
          omega
    · rw [List.find?_cons_of_neg (by simpa using hin),ih hranges]
      constructor
      · exact fun hr => ⟨List.mem_cons_of_mem a hr.1,hr.2⟩
      · rintro ⟨hr,hr'⟩
        rcases List.mem_cons.mp hr with rfl | hr
        · exact absurd hr' hin
        · exact ⟨hr,hr'⟩

theorem l850glL850EarfcnToBand_iff {earfcn band : Nat} :
    l850glL850EarfcnToBand earfcn = some band ↔ InBand earfcn band := by
  simp only [l850glL850EarfcnToBand,Option.map_eq_some_iff,find_range_iff earfcnRanges_ordered,
    InBand]
  constructor
  · rintro ⟨r,⟨hr,hfirst,hlast⟩,hband⟩
    exact ⟨r,hr,hfirst,hlast,hband⟩
  · rintro ⟨r,hr,hfirst,hlast,hband⟩
    exact ⟨r,⟨hr,hfirst,hlast⟩,hband⟩

theorem inBand_unique {earfcn band other : Nat} (h : InBand earfcn band)
    (hother : InBand earfcn other) : band = other := by
  have h₁ := l850glL850EarfcnToBand_iff.mpr h
  have h₂ := l850glL850EarfcnToBand_iff.mpr hother
  exact Option.some.inj (h₁.symm.trans h₂)

theorem inBand_band_le {earfcn band : Nat} (h : InBand earfcn band) : 1 ≤ band ∧ band ≤ 85 := by
  obtain ⟨r,hr,-,-,rfl⟩ := h
  have hall : ∀ r ∈ earfcnRanges, 1 ≤ r.band ∧ r.band ≤ 85 := by decide
  exact hall r hr

theorem inBand_earfcn_le {earfcn band : Nat} (h : InBand earfcn band) : earfcn ≤ 70545 := by
  obtain ⟨r,hr,-,hlast,-⟩ := h
  have hall : ∀ r ∈ earfcnRanges, r.last ≤ 70545 := by decide
  have := hall r hr
  omega

end Cell
end L850GL
