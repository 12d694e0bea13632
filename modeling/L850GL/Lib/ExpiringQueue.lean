import Mathlib.Data.List.Nodup
import Mathlib.Tactic.Common

/-! Bounded queues of keyed entries that expire: an entry keeps its place when its key is
stored again, and a full queue drops its oldest entries for a new key. -/
namespace L850GL
namespace ExpiringQueue

variable {κ ν : Type} [DecidableEq κ]

structure Entry (κ ν : Type) where
  key : κ
  value : ν
  expiresAt : Int
  deriving DecidableEq,Repr

abbrev Queue (κ ν : Type) := List (Entry κ ν)

def Keys (q : Queue κ ν) : List κ := q.map (·.key)

def prune (now : Int) (q : Queue κ ν) : Queue κ ν := q.filter fun e => !decide (e.expiresAt ≤ now)

def find (q : Queue κ ν) (key : κ) : Option (Entry κ ν) := q.find? fun e => e.key == key

def remove (q : Queue κ ν) (key : κ) : Queue κ ν := q.eraseP fun e => e.key == key

/-- The entries dropped for a new key. -/
def evicted (capacity : Nat) (q : Queue κ ν) : Queue κ ν := q.take (q.length+1-capacity)

def replace (q : Queue κ ν) (entry : Entry κ ν) : Queue κ ν :=
  q.map fun e => if e.key == entry.key then entry else e

def put (capacity : Nat) (q : Queue κ ν) (entry : Entry κ ν) : Queue κ ν :=
  match find q entry.key with
  | some _ => replace q entry
  | none => q.drop (q.length+1-capacity)++[entry]

variable {q : Queue κ ν} {e entry : Entry κ ν} {key : κ} {now : Int} {capacity : Nat}

omit [DecidableEq κ] in
theorem mem_prune : e ∈ prune now q ↔ e ∈ q ∧ now < e.expiresAt := by
  simp [prune]

omit [DecidableEq κ] in
theorem keys_prune (now : Int) : (Keys (prune now q)).Sublist (Keys q) :=
  List.Sublist.map _ List.filter_sublist

theorem keys_remove : (Keys (remove q key)).Sublist (Keys q) :=
  List.Sublist.map _ List.eraseP_sublist

theorem keys_replace : Keys (replace q entry) = Keys q := by
  simp only [Keys,replace,List.map_map]
  refine List.map_congr_left fun e _ => ?_
  by_cases h : e.key = entry.key
  · simp [h]
  · simp [h]

theorem find_eq_none : find q key = none ↔ key ∉ Keys q := by
  simp only [find,List.find?_eq_none,Keys,List.mem_map,beq_iff_eq]
  constructor
  · rintro h ⟨e,he,hk⟩
    exact h e he hk
  · intro h e he hk
    exact h ⟨e,he,hk⟩

theorem find_some (h : find q key = some e) : e ∈ q ∧ e.key = key := by
  refine ⟨List.mem_of_find?_eq_some h,?_⟩
  simpa using List.find?_some h

/-- With distinct keys the entry found is the only one of its key. -/
theorem find_of_mem (hk : (Keys q).Nodup) (he : e ∈ q) : find q e.key = some e := by
  induction q with
  | nil => cases he
  | cons x q ih =>
    obtain ⟨hx,hk⟩ := List.nodup_cons.mp hk
    rcases List.mem_cons.mp he with rfl | he
    · simp [find]
    · have hne : x.key ≠ e.key := by
        intro h
        refine hx ?_
        show x.key ∈ Keys q
        rw [h]
        exact List.mem_map_of_mem he
      simp only [find,List.find?_cons]
      have h₁ : (x.key == e.key) = false := by simpa using hne
      rw [h₁]
      exact ih hk he

theorem mem_remove (hk : (Keys q).Nodup) : e ∈ remove q key ↔ e ∈ q ∧ e.key ≠ key := by
  induction q with
  | nil => simp [remove]
  | cons x q ih =>
    obtain ⟨hx,hk⟩ := List.nodup_cons.mp hk
    by_cases hxk : x.key = key
    · have h₁ : remove (x::q) key = q := by simp [remove,hxk]
      rw [h₁]
      constructor
      · intro he
        refine ⟨List.mem_cons_of_mem _ he,fun h => hx ?_⟩
        show x.key ∈ Keys q
        rw [hxk,← h]
        exact List.mem_map_of_mem he
      · rintro ⟨he,hne⟩
        rcases List.mem_cons.mp he with rfl | he
        · exact absurd hxk hne
        · exact he
    · have h₁ : remove (x::q) key = x::remove q key := by simp [remove,hxk]
      rw [h₁,List.mem_cons,ih hk,List.mem_cons]
      constructor
      · rintro (rfl | ⟨he,hne⟩)
        · exact ⟨.inl rfl,hxk⟩
        · exact ⟨.inr he,hne⟩
      · rintro ⟨rfl | he,hne⟩
        · exact .inl rfl
        · exact .inr ⟨he,hne⟩

theorem mem_replace (h : e ∈ replace q entry) : e = entry ∨ e ∈ q ∧ e.key ≠ entry.key := by
  obtain ⟨x,hx,rfl⟩ := List.mem_map.mp h
  by_cases hk : x.key = entry.key
  · simp [hk]
  · right
    simp only [beq_iff_eq,hk,if_false]
    exact ⟨hx,hk⟩

theorem mem_put (h : e ∈ put capacity q entry) :
    e = entry ∨ e ∈ q ∧ e.key ≠ entry.key := by
  unfold put at h
  split at h
  · exact mem_replace h
  · rename_i hnone
    rcases List.mem_append.mp h with h | h
    · have he := List.mem_of_mem_drop h
      exact .inr ⟨he,fun hk => find_eq_none.mp hnone (hk ▸ List.mem_map_of_mem he)⟩
    · exact .inl (List.mem_singleton.mp h)

theorem put_self_mem : entry ∈ put capacity q entry := by
  unfold put
  split
  · rename_i x hx
    obtain ⟨hm,hk⟩ := find_some hx
    exact List.mem_map.mpr ⟨x,hm,by simp [hk]⟩
  · simp

theorem keys_put (hk : (Keys q).Nodup) : (Keys (put capacity q entry)).Nodup := by
  unfold put
  split
  · rw [keys_replace]
    exact hk
  · rename_i hnone
    have hnew := find_eq_none.mp hnone
    simp only [Keys,List.map_append,List.map_cons,List.map_nil]
    refine List.nodup_append.mpr ⟨?_,by simp,?_⟩
    · exact hk.sublist (List.Sublist.map _ (List.drop_sublist _ _))
    · rintro a ha b hb rfl
      simp only [List.mem_singleton] at hb
      refine hnew (hb ▸ ?_)
      exact (List.Sublist.map _ (List.drop_sublist _ _)).subset ha

/-- Storing under one key keeps the others, except what a full queue drops. -/
theorem mem_put_of_mem (he : e ∈ q) (hk : e.key ≠ entry.key)
    (hev : find q entry.key = none → e ∉ evicted capacity q) : e ∈ put capacity q entry := by
  unfold put
  split
  · exact List.mem_map.mpr ⟨e,he,by simp [hk]⟩
  · rename_i hnone
    have h₁ := hev hnone
    rw [← List.take_append_drop (q.length+1-capacity) q] at he
    rcases List.mem_append.mp he with he | he
    · exact absurd he h₁
    · exact List.mem_append_left _ he

theorem length_put (hcap : 0 < capacity) (h : q.length ≤ capacity) :
    (put capacity q entry).length ≤ capacity := by
  unfold put
  split
  · simpa [replace] using h
  · simp only [List.length_append,List.length_drop,List.length_singleton]
    omega

end ExpiringQueue
end L850GL
