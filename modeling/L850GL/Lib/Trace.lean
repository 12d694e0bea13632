import Mathlib.Data.List.Forall2
import Mathlib.Data.List.Infix

/-! Traces are lists of observations, the newest first.  `Justified` says that each observation
has its reason in the past of the trace; `Occurs` that some observations happened in a given
order; `Emitted` that a trace grew by an observation. -/
namespace L850GL

universe u

variable {α : Type u}

def Justified (P : List α → α → Prop) : List α → Prop
  | [] => True
  | e::past => P past e ∧ Justified P past

namespace Justified

variable {P Q : List α → α → Prop}

@[simp] theorem nil : Justified P [] := trivial

theorem cons {past : List α} {e : α} (he : P past e) (h : Justified P past) :
    Justified P (e::past) := ⟨he,h⟩

theorem mono (hPQ : ∀ past e, P past e → Q past e) {τ : List α} (h : Justified P τ) :
    Justified Q τ := by
  induction τ with
  | nil => trivial
  | cons e past ih => exact ⟨hPQ _ _ h.1,ih h.2⟩

/-- Whatever happened later, an observation keeps its reason. -/
theorem split {later past : List α} {e : α} (h : Justified P (later++e::past)) : P past e := by
  induction later with
  | nil => exact h.1
  | cons _ later ih => exact ih h.2

/-- Observations that need no reason. -/
theorem append {later τ : List α} (hl : ∀ e ∈ later, ∀ past, P past e) (h : Justified P τ) :
    Justified P (later++τ) := by
  induction later with
  | nil => exact h
  | cons e later ih =>
    exact ⟨hl e List.mem_cons_self _,ih fun o ho => hl o (List.mem_cons_of_mem _ ho)⟩

/-- An observation whose reason excludes an earlier one of its kind happens at most once. -/
theorem countP_le_one {p : α → Bool} (honce : ∀ past e, P past e → p e = true →
    ∀ o ∈ past, p o = false) {τ : List α} (h : Justified P τ) : τ.countP p ≤ 1 := by
  induction τ with
  | nil => simp
  | cons e past ih =>
    by_cases he : p e = true
    · have h₁ : past.countP p = 0 := by
        rw [List.countP_eq_zero]
        intro o ho
        simp [honce past e h.1 he o ho]
      rw [List.countP_cons_of_pos he,h₁]
    · rw [List.countP_cons_of_neg he]
      exact ih h.2

end Justified

/-- Observations meeting `ps` happened, the one for the head of `ps` last. -/
def Occurs (ps : List (α → Prop)) (τ : List α) : Prop :=
  ∃ xs, List.Forall₂ (fun p x => p x) ps xs ∧ xs.Sublist τ

namespace Occurs

variable {p q : α → Prop} {ps : List (α → Prop)} {τ : List α}

@[simp] theorem nil : Occurs [] τ := ⟨[],.nil,List.nil_sublist τ⟩

theorem cons (e : α) (h : Occurs ps τ) : Occurs ps (e::τ) := by
  obtain ⟨xs,hxs,hs⟩ := h
  exact ⟨xs,hxs,hs.cons e⟩

theorem push {e : α} (he : p e) (h : Occurs ps τ) : Occurs (p::ps) (e::τ) := by
  obtain ⟨xs,hxs,hs⟩ := h
  exact ⟨e::xs,.cons he hxs,hs.cons_cons e⟩

theorem append (later : List α) (h : Occurs ps τ) : Occurs ps (later++τ) := by
  induction later with
  | nil => exact h
  | cons e later ih => exact ih.cons e

theorem tail (h : Occurs (p::ps) τ) : Occurs ps τ := by
  obtain ⟨_,hxs,hs⟩ := h
  cases hxs with
  | cons _ hxs => exact ⟨_,hxs,(List.sublist_cons_self _ _).trans hs⟩

end Occurs

/-- The first observation after `past`. -/
def Emitted (past : List α) (e : α) (τ : List α) : Prop := ∃ later, τ = later++e::past

namespace Emitted

variable {past τ : List α} {e e' : α}

theorem append (later : List α) (h : Emitted past e τ) : Emitted past e (later++τ) := by
  obtain ⟨l,rfl⟩ := h
  exact ⟨later++l,by simp⟩

theorem unique (h : Emitted past e τ) (h' : Emitted past e' τ) : e = e' := by
  obtain ⟨l,rfl⟩ := h
  obtain ⟨l',h'⟩ := h'
  have h₁ := (List.append_inj' h' rfl).2
  exact (List.cons.inj h₁).1

end Emitted

end L850GL
