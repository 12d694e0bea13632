import Mathlib.Tactic.Common

/-! Coalesced queries: while one query is in flight notifications only set a dirty flag, and the
completion of a query that was overtaken starts another one.  `Coalesced` is the invariant: a
notification that has not been followed by a query or by an answer on the spot is remembered. -/
namespace L850GL
namespace Coalesce

structure Flags where
  pending : Bool
  dirty : Bool
  deriving DecidableEq,Repr

/-- What happens to a refresher; a history of marks has the newest first. -/
inductive Mark
  | notified | started | resolved
  deriving DecidableEq,Repr

/-- The last notification was followed by the start of a query or by an answer on the spot. -/
def Answered (marks : List Mark) : Prop := marks.head? ≠ some .notified

/-- The flags tell how many queries are in flight. -/
structure Counted (flags : Flags) (inFlight : Nat) : Prop where
  count : inFlight = if flags.pending then 1 else 0
  dirty : flags.dirty = true → flags.pending = true

/-- A notification that has not been answered is remembered. -/
structure Coalesced (flags : Flags) (inFlight : Nat) (marks : List Mark) : Prop extends
    Counted flags inFlight where
  answered : flags.dirty = false → Answered marks

variable {flags : Flags} {inFlight : Nat} {marks : List Mark}

theorem Counted.idle : Counted ⟨false,false⟩ 0 := ⟨rfl,by simp⟩

theorem Coalesced.idle : Coalesced ⟨false,false⟩ 0 [] := ⟨.idle,by simp [Answered]⟩

theorem Counted.le_one (h : Counted flags inFlight) : inFlight ≤ 1 := by
  have h₁ := h.count
  split at h₁ <;> omega

theorem Counted.not_dirty (h : Counted flags inFlight) (hp : flags.pending = false) :
    flags.dirty = false := by
  by_contra hd
  have h₁ := h.dirty (by simpa using hd)
  simp [hp] at h₁

/-- When nothing is in flight every notification has been answered. -/
theorem Coalesced.answered_idle (h : Coalesced flags 0 marks) : Answered marks := by
  apply h.answered
  apply h.not_dirty
  have h₁ := h.count
  by_contra hp
  simp [hp] at h₁

/-- A notification that meets a query in flight. -/
theorem Coalesced.notified (h : Coalesced flags inFlight marks) (hp : flags.pending = true) :
    Coalesced {flags with dirty := true} inFlight (.notified::marks) :=
  ⟨⟨h.count,fun _ => hp⟩,by simp⟩

theorem Counted.started (h : Counted flags inFlight) (hp : flags.pending = false) :
    Coalesced {flags with pending := true} (inFlight+1) (.started::marks) := by
  have h₁ := h.count
  simp only [hp,Bool.false_eq_true,if_false] at h₁
  exact ⟨⟨by simp [h₁],by simp⟩,by simp [Answered]⟩

theorem Counted.resolved (h : Counted flags inFlight) :
    Coalesced flags inFlight (.resolved::marks) :=
  ⟨h,by simp [Answered]⟩

/-- The completion of the query in flight. -/
theorem Counted.completed (h : Counted flags (inFlight+1)) : Counted ⟨false,false⟩ inFlight := by
  have h₁ := h.le_one
  have h₂ : inFlight = 0 := by omega
  exact ⟨by simp [h₂],by simp⟩

theorem Coalesced.completed (h : Coalesced flags (inFlight+1) marks) (hd : flags.dirty = false) :
    Coalesced ⟨false,false⟩ inFlight marks :=
  ⟨h.toCounted.completed,fun _ => h.answered hd⟩

end Coalesce
end L850GL
