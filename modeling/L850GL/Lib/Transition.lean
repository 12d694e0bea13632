import Mathlib.Tactic.Common

/-! Labelled transition systems with a partial step function, their reachable states and the
induction rule for invariants. -/
namespace L850GL

universe u v

structure System (σ : Type u) (ε : Type v) where
  start : σ → Prop
  step : σ → ε → Option σ

namespace System

variable {σ : Type u} {ε : Type v} (S : System σ ε) (G : σ → ε → Prop)

/-- The states of the runs all of whose steps meet the condition `G`. -/
inductive ReachableUnder : σ → Prop
  | start {s : σ} (h : S.start s) : ReachableUnder s
  | step {s t : σ} {e : ε} (h : ReachableUnder s) (hG : G s e) (hs : S.step s e = some t) :
      ReachableUnder t

/-- The states of all runs. -/
abbrev Reachable : σ → Prop := S.ReachableUnder fun _ _ => True

variable {S G}

theorem ReachableUnder.invariant {P : σ → Prop} (h₀ : ∀ s, S.start s → P s)
    (h₁ : ∀ s e t, P s → G s e → S.step s e = some t → P t) {s : σ}
    (h : S.ReachableUnder G s) : P s := by
  induction h with
  | start hs => exact h₀ _ hs
  | step _ hG hs ih => exact h₁ _ _ _ ih hG hs

theorem ReachableUnder.mono {G' : σ → ε → Prop} (hG : ∀ s e, G s e → G' s e) {s : σ}
    (h : S.ReachableUnder G s) : S.ReachableUnder G' s := by
  induction h with
  | start hs => exact .start hs
  | step _ hg hs ih => exact .step ih (hG _ _ hg) hs

theorem Reachable.invariant {P : σ → Prop} (h₀ : ∀ s, S.start s → P s)
    (h₁ : ∀ s e t, P s → S.step s e = some t → P t) {s : σ} (h : S.Reachable s) : P s :=
  ReachableUnder.invariant h₀ (fun s e t hP _ hs => h₁ s e t hP hs) h

variable (S) in
/-- A run from one state to another, with the state before each event. -/
inductive Path : σ → List (σ × ε) → σ → Prop
  | nil (s : σ) : Path s [] s
  | cons {s t u : σ} {e : ε} {steps : List (σ × ε)} (hs : S.step s e = some t)
      (h : Path t steps u) : Path s ((s,e)::steps) u

theorem Path.append {s t u : σ} {steps steps' : List (σ × ε)} (h : S.Path s steps t)
    (h' : S.Path t steps' u) : S.Path s (steps++steps') u := by
  induction h with
  | nil => exact h'
  | cons hs _ ih => exact .cons hs (ih h')

theorem Path.reachableUnder {s t : σ} {steps : List (σ × ε)} (h : S.Path s steps t)
    (hs : S.ReachableUnder G s) (hG : ∀ step ∈ steps, G step.1 step.2) :
    S.ReachableUnder G t := by
  induction h with
  | nil => exact hs
  | @cons s t u e steps he _ ih =>
    have h₁ : G s e := hG (s,e) (by simp)
    exact ih (.step hs h₁ he) fun step hm => hG step (List.mem_cons_of_mem _ hm)

/-- The induction rule for what the steps of a run keep. -/
theorem Path.invariant {P : σ → Prop} {s t : σ} {steps : List (σ × ε)} (h : S.Path s steps t)
    (hs : S.ReachableUnder G s) (hG : ∀ step ∈ steps, G step.1 step.2) (h₀ : P s)
    (h₁ : ∀ s e t, S.ReachableUnder G s → P s → G s e → S.step s e = some t → P t) : P t := by
  induction h with
  | nil => exact h₀
  | @cons s t u e steps he _ ih =>
    have h₂ : G s e := hG (s,e) (by simp)
    exact ih (.step hs h₂ he) (fun step hm => hG step (List.mem_cons_of_mem _ hm))
      (h₁ s e t hs h₀ h₂ he)

/-- Every step of a run leads from a reachable state to the next one. -/
theorem Path.mem {s t : σ} {steps : List (σ × ε)} (h : S.Path s steps t)
    (hs : S.ReachableUnder G s) (hG : ∀ step ∈ steps, G step.1 step.2) {step : σ × ε}
    (hm : step ∈ steps) :
    S.ReachableUnder G step.1 ∧ ∃ u, S.step step.1 step.2 = some u := by
  induction h with
  | nil => cases hm
  | @cons s t u e steps he _ ih =>
    rcases List.mem_cons.mp hm with rfl | hm
    · exact ⟨hs,t,he⟩
    · have h₁ : G s e := hG (s,e) (by simp)
      exact ih (.step hs h₁ he) (fun step hm => hG step (List.mem_cons_of_mem _ hm)) hm

/-- Runs a list of events in order. -/
def run (S : System σ ε) : σ → List ε → Option σ
  | s, [] => some s
  | s, e::es => (S.step s e).bind fun t => S.run t es

theorem ReachableUnder.of_run {s t : σ} {es : List ε} (hs : S.ReachableUnder G s)
    (hG : ∀ s, ∀ e ∈ es, G s e) (h : S.run s es = some t) : S.ReachableUnder G t := by
  induction es generalizing s with
  | nil =>
    simp only [run,Option.some.injEq] at h
    exact h ▸ hs
  | cons e es ih =>
    simp only [run,Option.bind_eq_some_iff] at h
    obtain ⟨u,hu,h⟩ := h
    exact ih (.step hs (hG s e (by simp)) hu) (fun s e he => hG s e (by simp [he])) h

theorem Path.of_run {s t : σ} {es : List ε} (h : S.run s es = some t) :
    ∃ steps, steps.map Prod.snd = es ∧ S.Path s steps t := by
  induction es generalizing s with
  | nil =>
    simp only [run,Option.some.injEq] at h
    exact ⟨[],rfl,h ▸ .nil s⟩
  | cons e es ih =>
    simp only [run,Option.bind_eq_some_iff] at h
    obtain ⟨u,hu,h⟩ := h
    obtain ⟨steps,hsteps,hpath⟩ := ih h
    exact ⟨(s,e)::steps,by simp [hsteps],.cons hu hpath⟩

/-- The first step of a run. -/
theorem ReachableUnder.run_cons {s t : σ} {e : ε} {es : List ε} (hs : S.ReachableUnder G s)
    (hG : G s e) (h : S.run s (e::es) = some t) :
    ∃ u, S.step s e = some u ∧ S.ReachableUnder G u ∧ S.run u es = some t := by
  simp only [run,Option.bind_eq_some_iff] at h
  obtain ⟨u,hu,h⟩ := h
  exact ⟨u,hu,.step hs hG hu,h⟩

theorem reachable_run {s t : σ} {es : List ε} (hs : S.Reachable s) (h : S.run s es = some t) :
    S.Reachable t := hs.of_run (fun _ _ _ => trivial) h

end System
end L850GL
