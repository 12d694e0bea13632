import Mathlib.Tactic.Common

/-! The rules of a loop over a list that may stop with an error, and of two such loops over one
list: the invariant speaks of the elements that have been passed. -/
namespace L850GL
namespace Loop

universe u v w

variable {α : Type u} {σ : Type v} {ε : Type w} {body : σ → α → Except ε σ}
  (Inv : List α → σ → Prop) (Err : ε → Prop)

theorem foldlM_spec (hok : ∀ passed s a s', Inv passed s → body s a = .ok s' →
      Inv (passed++[a]) s')
    (herror : ∀ passed s a e, Inv passed s → body s a = .error e → Err e)
    (l passed : List α) (s : σ) (h : Inv passed s) :
    (∀ s', l.foldlM body s = .ok s' → Inv (passed++l) s') ∧
      ∀ e, l.foldlM body s = .error e → Err e := by
  induction l generalizing passed s with
  | nil =>
    refine ⟨fun s' hs => ?_,fun e he => ?_⟩
    · cases hs
      simpa using h
    · cases he
  | cons a l ih =>
    rw [List.foldlM_cons]
    cases hb : body s a with
    | error e =>
      refine ⟨fun s' hs => ?_,fun e' he => ?_⟩
      · cases hs
      · cases he
        exact herror passed s a e h hb
    | ok s₁ =>
      have h₁ := ih (passed++[a]) s₁ (hok passed s a s₁ h hb)
      rw [List.append_assoc] at h₁
      exact h₁

/-- The rule for a whole loop. -/
theorem foldlM_inv (hok : ∀ passed s a s', Inv passed s → body s a = .ok s' →
      Inv (passed++[a]) s')
    (herror : ∀ passed s a e, Inv passed s → body s a = .error e → Err e) {l : List α} {s : σ}
    (h : Inv [] s) :
    (∀ s', l.foldlM body s = .ok s' → Inv l s') ∧ ∀ e, l.foldlM body s = .error e → Err e := by
  have h₁ := foldlM_spec Inv Err hok herror l [] s h
  rwa [List.nil_append] at h₁

/-- Two loops over one list that stop at the same elements stay related. -/
theorem foldlM_related {τ : Type w} {f : σ → α → Option σ} {g : τ → α → Option τ}
    (Rel : List α → σ → τ → Prop) {l : List α}
    (hstep : ∀ passed a rest s t,l = passed++a::rest → Rel passed s t →
      (f s a = none ∧ g t a = none) ∨
        ∃ s' t',f s a = some s' ∧ g t a = some t' ∧ Rel (passed++[a]) s' t')
    {s : σ} {t : τ} (h : Rel [] s t) :
    (l.foldlM f s = none ∧ l.foldlM g t = none) ∨
      ∃ s' t',l.foldlM f s = some s' ∧ l.foldlM g t = some t' ∧ Rel l s' t' := by
  -- the induction is on what is left of the list
  have hrest : ∀ rest passed s t,l = passed++rest → Rel passed s t →
      (rest.foldlM f s = none ∧ rest.foldlM g t = none) ∨
        ∃ s' t',rest.foldlM f s = some s' ∧ rest.foldlM g t = some t' ∧ Rel l s' t' := by
    intro rest
    induction rest with
    | nil =>
      intro passed s t hl hrel
      rw [List.append_nil] at hl
      exact .inr ⟨s,t,rfl,rfl,hl ▸ hrel⟩
    | cons a rest ih =>
      intro passed s t hl hrel
      rw [List.foldlM_cons,List.foldlM_cons]
      rcases hstep passed a rest s t hl hrel with ⟨hf,hg⟩ | ⟨s',t',hf,hg,hrel'⟩
      · rw [hf,hg]
        exact .inl ⟨rfl,rfl⟩
      · rw [hf,hg]
        have hl' : l = (passed++[a])++rest := by simp [hl]
        exact ih (passed++[a]) s' t' hl' hrel'
  exact hrest l [] s t rfl h

end Loop
end L850GL
