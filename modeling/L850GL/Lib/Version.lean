import L850GL.Lib.Transition
import Mathlib.Data.Prod.Lex

/-! Versions: something that is shown changes its version whenever it changes, or is closed and
never shown again. -/
namespace L850GL
namespace Version

variable {σ ε V α : Type} [Preorder V] {version : σ → V} {view : σ → α} {closed : σ → Prop}
  {s t u : σ} {S : System σ ε}

/-- From `s` to `t`, the view has changed only with a later version. -/
def Tracked (version : σ → V) (view : σ → α) (closed : σ → Prop) (s t : σ) : Prop :=
  closed t ∨ version s < version t ∨ version t = version s ∧ view t = view s

theorem Tracked.refl (s : σ) : Tracked version view closed s s := .inr (.inr ⟨rfl,rfl⟩)

theorem Tracked.trans (h : Tracked version view closed s t) (h' : Tracked version view closed t u)
    (hclosed : closed t → closed u) : Tracked version view closed s u := by
  rcases h' with h' | h' | ⟨hv',hview'⟩
  · exact .inl h'
  · rcases h with h | h | ⟨hv,-⟩
    · exact .inl (hclosed h)
    · exact .inr (.inl (h.trans h'))
    · exact .inr (.inl (hv ▸ h'))
  · rcases h with h | h | ⟨hv,hview⟩
    · exact .inl (hclosed h)
    · exact .inr (.inl (hv' ▸ h))
    · exact .inr (.inr ⟨hv'.trans hv,hview'.trans hview⟩)

/-- One version has one view. -/
theorem Tracked.view_eq (h : Tracked version view closed s t) (hopen : ¬closed t)
    (hv : version t = version s) : view t = view s := by
  rcases h with h | h | ⟨-,hview⟩
  · exact absurd h hopen
  · exact absurd h (hv ▸ lt_irrefl _)
  · exact hview

/-- What holds of the steps of a run holds of the run. -/
theorem path_tracked {P : σ → Prop} {steps : List (σ × ε)} (hpath : S.Path s steps t) (hP : P s)
    (hstep : ∀ step ∈ steps, ∀ t, P step.1 → S.step step.1 step.2 = some t →
      P t ∧ Tracked version view closed step.1 t ∧ (closed step.1 → closed t)) :
    Tracked version view closed s t ∧ (closed s → closed t) := by
  induction hpath with
  | nil s => exact ⟨.refl s,id⟩
  | @cons s t u e steps he _ ih =>
    obtain ⟨hP',h₁,hc₁⟩ := hstep (s,e) List.mem_cons_self t hP he
    obtain ⟨h₂,hc₂⟩ := ih hP' fun step hm => hstep step (List.mem_cons_of_mem _ hm)
    exact ⟨h₁.trans h₂ hc₂,hc₂ ∘ hc₁⟩

end Version
end L850GL
