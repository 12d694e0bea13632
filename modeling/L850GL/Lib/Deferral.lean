import L850GL.Lib.Transition
import Mathlib.Data.List.Basic
import Mathlib.Logic.Function.Basic

/-! Deferred requests: an operation answers the request that started it on the connection the
request came over, unless that connection is lost first. -/
namespace L850GL

universe u v

inductive RequestMark
  | answered (connection : Nat)
  | released
  deriving DecidableEq,Repr

/-- The requests of the live operations, each with its connection and whether it may still be
answered, the marks of all operations, newest first, and the connection. -/
@[ext] structure Deferrals where
  requests : Nat → Option (Nat × Bool)
  marks : Nat → List RequestMark
  connected : Bool
  connection : Nat

namespace Deferrals

def up (v : Deferrals) : Option Nat := if v.connected then some v.connection else none

def opened (v : Deferrals) (op : Nat) : Deferrals :=
  {v with requests := Function.update v.requests op (some (v.connection,true))}

def ending (v : Deferrals) (request : Nat × Bool) : List RequestMark :=
  .released::(if request.2 && v.connected then [.answered v.connection] else [])

def closed (v : Deferrals) (op : Nat) (request : Nat × Bool) : Deferrals :=
  {v with
    requests := Function.update v.requests op none
    marks := Function.update v.marks op (v.ending request++v.marks op)}

def lost (v : Deferrals) : Deferrals :=
  {v with
    requests := fun op => (v.requests op).map fun request => (request.1,false)
    connected := false}

def reconnected (v : Deferrals) : Deferrals :=
  {v with connected := true,connection := v.connection+1}

/-- The ways of an event, with the operation whose call it returns from. -/
inductive Move (v : Deferrals) : Option Nat → Deferrals → Prop
  | same {returned : Option Nat} : Move v returned v
  | opened {op : Nat} (hrequest : v.requests op = none) (hmarks : v.marks op = [])
      (hup : v.connected = true) : Move v none (v.opened op)
  | dropped {op : Nat} (hrequest : v.requests op = none) (hmarks : v.marks op = [])
      (hup : v.connected = true) : Move v none ((v.opened op).closed op (v.connection,true))
  | closed {op : Nat} {request : Nat × Bool} (hrequest : v.requests op = some request) :
      Move v (some op) (v.closed op request)
  | lost : Move v none v.lost
  | reconnected (hdown : v.connected = false) : Move v none v.reconnected

/-- A request may be answered as long as its connection is up, and an operation that is over was
released once. -/
structure Sound (v : Deferrals) : Prop where
  live : ∀ op request,v.requests op = some request → v.marks op = [] ∧
    request.1 ≤ v.connection ∧ request.2 = decide (v.up = some request.1)
  gone : ∀ op,v.requests op = none → v.marks op = [] ∨ v.marks op = [.released] ∨
    ∃ c,v.marks op = [.released,.answered c]

variable {v v' : Deferrals} {op other : Nat} {request : Nat × Bool} {returned : Option Nat}

theorem up_eq_some {c : Nat} : v.up = some c ↔ v.connected = true ∧ v.connection = c := by
  unfold up
  cases v.connected with
  | false => simp
  | true => simp

theorem Sound.ending_eq (h : v.Sound) (hrequest : v.requests op = some request) :
    v.ending request =
      .released::(if v.up = some request.1 then [.answered request.1] else []) := by
  obtain ⟨-,-,hdeferred⟩ := h.live op request hrequest
  unfold ending
  by_cases hup : v.up = some request.1
  · obtain ⟨hconnected,hconnection⟩ := up_eq_some.mp hup
    rw [if_pos hup,hdeferred,decide_eq_true hup,hconnected,hconnection]
    rfl
  · rw [if_neg hup,hdeferred,decide_eq_false hup]
    rfl

theorem Move.sound (h : Move v returned v') (hv : v.Sound) : v'.Sound := by
  cases h with
  | same => exact hv
  | @opened op hrequest hmarks hup =>
    refine ⟨fun other request hother => ?_,fun other hother => ?_⟩
    · by_cases ho : other = op
      · subst ho
        simp only [Deferrals.opened,Function.update_self,Option.some.injEq] at hother
        subst hother
        exact ⟨hmarks,Nat.le_refl _,(decide_eq_true (up_eq_some.mpr ⟨hup,rfl⟩)).symm⟩
      · exact hv.live other request (by simpa [Deferrals.opened,ho] using hother)
    · by_cases ho : other = op
      · subst ho
        simp [Deferrals.opened] at hother
      · exact hv.gone other (by simpa [Deferrals.opened,ho] using hother)
  | @dropped op hrequest hmarks hup =>
    refine ⟨fun other request hother => ?_,fun other hother => ?_⟩
    · have ho : other ≠ op := by
        rintro rfl
        simp [Deferrals.closed] at hother
      have h₁ := hv.live other request
        (by simpa [Deferrals.closed,Deferrals.opened,ho] using hother)
      exact ⟨by simpa [Deferrals.closed,Deferrals.opened,ho] using h₁.1,h₁.2.1,h₁.2.2⟩
    · by_cases ho : other = op
      · subst ho
        refine .inr (.inr ⟨v.connection,?_⟩)
        simp [Deferrals.closed,Deferrals.opened,ending,hmarks,hup]
      · simpa [Deferrals.closed,Deferrals.opened,ho] using
          hv.gone other (by simpa [Deferrals.closed,Deferrals.opened,ho] using hother)
  | @closed op request hrequest =>
    have hmarks := (hv.live op request hrequest).1
    refine ⟨fun other request hother => ?_,fun other hother => ?_⟩
    · have ho : other ≠ op := by
        rintro rfl
        simp [Deferrals.closed] at hother
      have h₁ := hv.live other request (by simpa [Deferrals.closed,ho] using hother)
      exact ⟨by simpa [Deferrals.closed,ho] using h₁.1,h₁.2.1,h₁.2.2⟩
    · by_cases ho : other = op
      · subst ho
        have hends := hv.ending_eq hrequest
        simp only [Deferrals.closed,Function.update_self,hmarks,List.append_nil,hends]
        by_cases hup : v.up = some request.1
        · exact .inr (.inr ⟨request.1,by rw [if_pos hup]⟩)
        · exact .inr (.inl (by rw [if_neg hup]))
      · simpa [Deferrals.closed,ho] using
          hv.gone other (by simpa [Deferrals.closed,ho] using hother)
  | lost =>
    refine ⟨fun other request hother => ?_,fun other hother => ?_⟩
    · obtain ⟨old,hold,rfl⟩ := Option.map_eq_some_iff.mp hother
      obtain ⟨hmarks,hle,-⟩ := hv.live other old hold
      exact ⟨hmarks,hle,(decide_eq_false (by simp [up,Deferrals.lost])).symm⟩
    · exact hv.gone other (Option.map_eq_none_iff.mp hother)
  | reconnected hdown =>
    refine ⟨fun other request hother => ?_,fun other hother => hv.gone other hother⟩
    obtain ⟨hmarks,hle,hdeferred⟩ := hv.live other request hother
    have hup : v.up ≠ some request.1 := by simp [up,hdown]
    refine ⟨hmarks,Nat.le_succ_of_le hle,?_⟩
    rw [hdeferred,decide_eq_false hup]
    refine (decide_eq_false fun hnew => ?_).symm
    -- a new connection is none that a request came over
    have hconnection := (up_eq_some.mp hnew).2
    simp only [Deferrals.reconnected] at hconnection
    omega

/-- A connection that is not up is never up again. -/
theorem Move.lost_stays {c : Nat} (h : Move v returned v') (hc : c ≤ v.connection)
    (hup : v.up ≠ some c) : c ≤ v'.connection ∧ v'.up ≠ some c := by
  cases h with
  | same => exact ⟨hc,hup⟩
  | opened _ _ _ => exact ⟨hc,hup⟩
  | dropped _ _ _ => exact ⟨hc,hup⟩
  | closed _ => exact ⟨hc,hup⟩
  | lost => exact ⟨hc,by simp [up,Deferrals.lost]⟩
  | reconnected hdown =>
    refine ⟨Nat.le_succ_of_le hc,fun hnew => ?_⟩
    have hconnection := (up_eq_some.mp hnew).2
    simp only [Deferrals.reconnected] at hconnection
    omega

theorem Move.live (h : Move v returned v') (hv : v.Sound)
    (hrequest : v.requests op = some request) :
    (∃ deferred,v'.requests op = some (request.1,deferred)) ∨
      returned = some op ∧ v'.requests op = none ∧ v'.marks op =
        .released::(if v.up = some request.1 then [.answered request.1] else []) := by
  cases h with
  | same => exact .inl ⟨request.2,hrequest⟩
  | @opened other hother _ _ =>
    have ho : op ≠ other := by
      rintro rfl
      rw [hother] at hrequest
      cases hrequest
    exact .inl ⟨request.2,by simpa [Deferrals.opened,ho] using hrequest⟩
  | @dropped other hother _ _ =>
    have ho : op ≠ other := by
      rintro rfl
      rw [hother] at hrequest
      cases hrequest
    exact .inl ⟨request.2,by simpa [Deferrals.closed,Deferrals.opened,ho] using hrequest⟩
  | @closed other old hother =>
    by_cases ho : op = other
    · subst ho
      have hold : old = request := Option.some.inj (hother.symm.trans hrequest)
      subst hold
      refine .inr ⟨rfl,by simp [Deferrals.closed],?_⟩
      rw [← hv.ending_eq hother]
      simp [Deferrals.closed,(hv.live op old hother).1]
    · exact .inl ⟨request.2,by simpa [Deferrals.closed,ho] using hrequest⟩
  | lost => exact .inl ⟨false,by simp [Deferrals.lost,hrequest]⟩
  | reconnected _ => exact .inl ⟨request.2,hrequest⟩

/-- An operation that is over is left alone, and a new one begins on the connection that is up. -/
theorem Move.gone (h : Move v returned v') (hrequest : v.requests op = none) :
    v'.requests op = none ∧ v'.marks op = v.marks op ∨
      v.marks op = [] ∧ ∃ c,v.up = some c ∧ (v'.requests op = some (c,true) ∨
        v'.requests op = none ∧ v'.marks op = [.released,.answered c]) := by
  cases h with
  | same => exact .inl ⟨hrequest,rfl⟩
  | @opened other _ hmarks hup =>
    by_cases ho : op = other
    · subst ho
      exact .inr ⟨hmarks,v.connection,up_eq_some.mpr ⟨hup,rfl⟩,.inl (by simp [Deferrals.opened])⟩
    · exact .inl ⟨by simpa [Deferrals.opened,ho] using hrequest,rfl⟩
  | @dropped other _ hmarks hup =>
    by_cases ho : op = other
    · subst ho
      refine .inr ⟨hmarks,v.connection,up_eq_some.mpr ⟨hup,rfl⟩,.inr
        ⟨by simp [Deferrals.closed],?_⟩⟩
      simp [Deferrals.closed,Deferrals.opened,ending,hmarks,hup]
    · exact .inl ⟨by simpa [Deferrals.closed,Deferrals.opened,ho] using hrequest,
        by simp [Deferrals.closed,Deferrals.opened,ho]⟩
  | @closed other _ hother =>
    have ho : op ≠ other := by
      rintro rfl
      rw [hother] at hrequest
      cases hrequest
    exact .inl ⟨by simpa [Deferrals.closed,ho] using hrequest,by simp [Deferrals.closed,ho]⟩
  | lost => exact .inl ⟨by simp [Deferrals.lost,hrequest],rfl⟩
  | reconnected _ => exact .inl ⟨hrequest,rfl⟩

end Deferrals

open Deferrals

variable {σ : Type u} {ε : Type v}

/-- The discipline of the operations of a system, in all its runs. -/
structure Disciplined (S : System σ ε) (view : σ → Deferrals) (calls : σ → Nat → Nat)
    (returns : σ → ε → Option Nat) : Prop where
  /-- a live operation waits for one call, and was neither answered nor released -/
  waits : ∀ s op request,S.Reachable s → (view s).requests op = some request →
    calls s op = 1 ∧ (view s).marks op = []
  /-- any other one waits for none, and was released and answered at most once -/
  rests : ∀ s op,S.Reachable s → (view s).requests op = none → calls s op = 0 ∧
    ((view s).marks op = [] ∨ (view s).marks op = [.released] ∨
      ∃ c,(view s).marks op = [.released,.answered c])
  /-- an operation begins on the connection that is up, and may end before it makes a call -/
  begins : ∀ s e t op,S.Reachable s → S.step s e = some t → (view s).requests op = none →
    (view t).requests op = none ∧ (view t).marks op = (view s).marks op ∨
      (view s).marks op = [] ∧ ∃ c,(view s).up = some c ∧ ((view t).requests op = some (c,true) ∨
        (view t).requests op = none ∧ (view t).marks op = [.released,.answered c])
  /-- it ends in the callback of its call, with an answer when its connection is still up -/
  ends : ∀ s steps t op request,S.Reachable s → S.Path s steps t →
    (view s).requests op = some request →
      (∃ deferred,(view t).requests op = some (request.1,deferred)) ∨
      ∃ earlier step later,steps = earlier++step::later ∧ returns step.1 step.2 = some op ∧
        (view t).requests op = none ∧ (view t).marks op =
          .released::(if (view step.1).up = some request.1 then [.answered request.1] else [])
  /-- a connection that was lost is never up again -/
  lost : ∀ s steps t op request,S.Reachable s → S.Path s steps t →
    (view s).requests op = some request → (view s).up ≠ some request.1 →
      (view t).up ≠ some request.1

theorem gone_stays {S : System σ ε} {view : σ → Deferrals} {returns : σ → ε → Option Nat}
    (hmoves : ∀ s e t,S.Reachable s → S.step s e = some t →
      Move (view s) (returns s e) (view t)) {s t : σ} {steps : List (σ × ε)} {op : Nat}
    (hs : S.Reachable s) (hpath : S.Path s steps t) (hrequest : (view s).requests op = none)
    (hmarks : (view s).marks op ≠ []) :
    (view t).requests op = none ∧ (view t).marks op = (view s).marks op := by
  induction hpath with
  | nil => exact ⟨hrequest,rfl⟩
  | @cons s t u e steps hstep _ ih =>
    have ht : S.Reachable t := .step hs trivial hstep
    rcases (hmoves s e t hs hstep).gone hrequest with ⟨h₁,h₂⟩ | ⟨hnil,-⟩
    · obtain ⟨h₃,h₄⟩ := ih ht h₁ (h₂ ▸ hmarks)
      exact ⟨h₃,h₄.trans h₂⟩
    · exact absurd hnil hmarks

theorem disciplined_of_moves {S : System σ ε} {view : σ → Deferrals} {calls : σ → Nat → Nat}
    {returns : σ → ε → Option Nat} (hstart : ∀ s,S.start s → (view s).Sound)
    (hmoves : ∀ s e t,S.Reachable s → S.step s e = some t → Move (view s) (returns s e) (view t))
    (hcalls : ∀ s op,S.Reachable s →
      calls s op = if ((view s).requests op).isSome then 1 else 0) :
    Disciplined S view calls returns := by
  have hsound : ∀ s,S.Reachable s → (view s).Sound := by
    intro s hs
    induction hs with
    | start h => exact hstart _ h
    | step hs _ hstep ih => exact (hmoves _ _ _ hs hstep).sound ih
  refine ⟨?_,?_,?_,?_,?_⟩
  · intro s op request hs hrequest
    refine ⟨?_,((hsound s hs).live op request hrequest).1⟩
    rw [hcalls s op hs,hrequest]
    rfl
  · intro s op hs hrequest
    refine ⟨?_,(hsound s hs).gone op hrequest⟩
    rw [hcalls s op hs,hrequest]
    rfl
  · intro s e t op hs hstep hrequest
    exact (hmoves s e t hs hstep).gone hrequest
  · intro s steps t op request hs hpath hrequest
    induction hpath generalizing request with
    | nil => exact .inl ⟨request.2,hrequest⟩
    | @cons s t u e steps hstep hpath ih =>
      have ht : S.Reachable t := .step hs trivial hstep
      rcases (hmoves s e t hs hstep).live (hsound s hs) hrequest with ⟨deferred,hlive⟩ |
        ⟨hreturns,hnone,hmarks⟩
      · rcases ih (request.1,deferred) ht hlive with h | ⟨earlier,step,later,hsteps,h⟩
        · exact .inl h
        · exact .inr ⟨(s,e)::earlier,step,later,by rw [hsteps]; rfl,h⟩
      · obtain ⟨h₁,h₂⟩ := gone_stays hmoves ht hpath hnone (by rw [hmarks]; simp)
        exact .inr ⟨[],(s,e),steps,rfl,hreturns,h₁,h₂.trans hmarks⟩
  · intro s steps t op request hs hpath hrequest hup
    have hle := ((hsound s hs).live op request hrequest).2.1
    clear hrequest
    induction hpath with
    | nil => exact hup
    | @cons s t u e steps hstep _ ih =>
      obtain ⟨hle',hup'⟩ := (hmoves s e t hs hstep).lost_stays hle hup
      exact ih (.step hs trivial hstep) hup' hle'

end L850GL
