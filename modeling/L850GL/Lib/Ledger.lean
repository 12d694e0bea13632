import Mathlib.Tactic.Common

/-! Resources that are acquired under fresh numbers and owed until they are released. -/
namespace L850GL

inductive Mark
  | acquired (id : Nat)
  | released (id : Nat)
  deriving DecidableEq,Repr

def Mark.id : Mark → Nat
  | .acquired id | .released id => id

structure Ledger where
  next : Nat
  marks : List Mark
  deriving DecidableEq,Repr

namespace Ledger

def empty : Ledger := ⟨0,[]⟩

def acquire (l : Ledger) : Ledger := ⟨l.next+1,l.marks++[.acquired l.next]⟩

def release (l : Ledger) (id : Nat) : Ledger := {l with marks := l.marks++[.released id]}

/-- The history of one resource. -/
def marksOf (l : Ledger) (id : Nat) : List Mark := l.marks.filter fun mark => mark.id == id

/-- Exactly the resources of a list are owed: any other one was released once, after it was
acquired once, or never acquired. -/
structure Owes (l : Ledger) (live : List Nat) : Prop where
  nodup : live.Nodup
  known : ∀ id ∈ live, id < l.next
  marksOf : ∀ id, l.marksOf id =
    if id < l.next then
      if id ∈ live then [.acquired id] else [.acquired id,.released id]
    else []

variable {l : Ledger} {live : List Nat} {id : Nat}

theorem marksOf_acquire (l : Ledger) (id : Nat) :
    l.acquire.marksOf id = l.marksOf id++if l.next = id then [.acquired l.next] else [] := by
  by_cases h : l.next = id
  · subst h
    have h₁ : (Mark.acquired l.next).id = l.next := rfl
    simp [marksOf,acquire,h₁]
  · have h₁ : (Mark.acquired l.next).id ≠ id := h
    simp [marksOf,acquire,h,h₁]

theorem marksOf_release (l : Ledger) (id other : Nat) :
    (l.release id).marksOf other = l.marksOf other++if id = other then [.released id] else [] := by
  by_cases h : id = other
  · subst h
    have h₁ : (Mark.released id).id = id := rfl
    simp [marksOf,release,h₁]
  · have h₁ : (Mark.released id).id ≠ other := h
    simp [marksOf,release,h,h₁]

theorem owes_empty : empty.Owes [] := by
  constructor
  · simp
  · simp
  · intro id
    simp [marksOf,empty]

theorem Owes.next_notMem (h : l.Owes live) : l.next ∉ live := by
  intro hmem
  exact Nat.lt_irrefl _ (h.known _ hmem)

theorem Owes.acquire (h : l.Owes live) : l.acquire.Owes (l.next::live) := by
  constructor
  · exact List.nodup_cons.mpr ⟨h.next_notMem,h.nodup⟩
  · intro id hid
    rcases List.mem_cons.mp hid with rfl | hid
    · exact Nat.lt_succ_self _
    · exact Nat.lt_succ_of_lt (h.known id hid)
  · intro id
    rw [marksOf_acquire,h.marksOf id]
    by_cases hnext : id = l.next
    · simp [hnext,Ledger.acquire]
    · have hne : l.next ≠ id := Ne.symm hnext
      have hlt : id < l.next+1 ↔ id < l.next := by omega
      simp [hnext,hne,hlt,Ledger.acquire]

theorem Owes.release (h : l.Owes (id::live)) : (l.release id).Owes live := by
  obtain ⟨hnew,hnodup⟩ := List.nodup_cons.mp h.nodup
  constructor
  · exact hnodup
  · intro other hother
    exact h.known other (List.mem_cons_of_mem _ hother)
  · intro other
    rw [marksOf_release,h.marksOf other]
    by_cases heq : other = id
    · have hlt : id < l.next := h.known id List.mem_cons_self
      simp [heq,hlt,hnew,Ledger.release]
    · have hne : id ≠ other := Ne.symm heq
      simp only [List.mem_cons,heq,false_or,hne,if_false,List.append_nil]
      rfl

theorem Owes.perm {live' : List Nat} (h : l.Owes live) (hperm : live.Perm live') :
    l.Owes live' := by
  constructor
  · exact hperm.nodup_iff.mp h.nodup
  · intro id hid
    exact h.known id (hperm.mem_iff.mpr hid)
  · intro id
    rw [h.marksOf id]
    simp only [hperm.mem_iff]

/-- A resource that is known and not owed was released exactly once. -/
theorem Owes.released (h : l.Owes live) (hlt : id < l.next) (hid : id ∉ live) :
    l.marksOf id = [.acquired id,.released id] := by
  simpa [hlt,hid] using h.marksOf id

end Ledger
end L850GL
