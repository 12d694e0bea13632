import Mathlib.Data.List.Nodup
import Mathlib.Tactic.Common

/-! Association lists as finite maps: a key is removed before it is put again. -/
namespace L850GL
namespace AssocList

universe u v w

variable {κ : Type u} {ν : Type v} {γ : Type w} [BEq κ]

def Keys (l : List (κ × ν)) : List κ := l.map Prod.fst

def remove (l : List (κ × ν)) (key : κ) : List (κ × ν) := l.filter fun entry => entry.1 != key

def put (l : List (κ × ν)) (key : κ) (value : ν) : List (κ × ν) := remove l key++[(key,value)]

variable {l : List (κ × ν)} {key other : κ} {value value' : ν} {f : ν → γ}

omit [BEq κ] in
theorem eq_of_mem (h : (Keys l).Nodup) (hm : (key,value) ∈ l) (hm' : (key,value') ∈ l) :
    value = value' := by
  have h₁ := List.inj_on_of_nodup_map h hm hm' rfl
  exact (Prod.mk.inj h₁).2

theorem keys_remove (l : List (κ × ν)) (key : κ) : (Keys (remove l key)).Sublist (Keys l) :=
  List.Sublist.map _ List.filter_sublist

theorem length_remove_le (l : List (κ × ν)) (key : κ) : (remove l key).length ≤ l.length :=
  List.length_filter_le _ _

theorem map_remove_nodup (h : (l.map fun entry => f entry.2).Nodup) :
    ((remove l key).map fun entry => f entry.2).Nodup :=
  h.sublist (List.Sublist.map _ List.filter_sublist)

theorem length_put_le (l : List (κ × ν)) (key : κ) (value : ν) :
    (put l key value).length ≤ l.length+1 := by
  have h₁ := length_remove_le l key
  simp only [put,List.length_append,List.length_singleton]
  omega

variable [LawfulBEq κ]

theorem mem_remove {entry : κ × ν} : entry ∈ remove l key ↔ entry ∈ l ∧ entry.1 ≠ key := by
  simp [remove]

theorem mem_put {entry : κ × ν} :
    entry ∈ put l key value ↔ entry ∈ l ∧ entry.1 ≠ key ∨ entry = (key,value) := by
  simp [put,mem_remove]

theorem mem_keys_remove : other ∈ Keys (remove l key) ↔ other ∈ Keys l ∧ other ≠ key := by
  simp only [Keys,List.mem_map,mem_remove]
  constructor
  · rintro ⟨entry,⟨hm,hne⟩,rfl⟩
    exact ⟨⟨entry,hm,rfl⟩,hne⟩
  · rintro ⟨⟨entry,hm,rfl⟩,hne⟩
    exact ⟨entry,⟨hm,hne⟩,rfl⟩

theorem mem_keys_put : other ∈ Keys (put l key value) ↔ other ∈ Keys l ∨ other = key := by
  have h₁ : Keys (put l key value) = Keys (remove l key)++[key] := by simp [Keys,put]
  rw [h₁,List.mem_append,mem_keys_remove,List.mem_singleton]
  by_cases ho : other = key
  · simp [ho]
  · simp [ho]

theorem keys_put_nodup (value : ν) (h : (Keys l).Nodup) : (Keys (put l key value)).Nodup := by
  have h₁ : Keys (put l key value) = Keys (remove l key)++[key] := by simp [Keys,put]
  rw [h₁,List.nodup_append]
  refine ⟨h.sublist (keys_remove l key),List.nodup_singleton _,fun a ha b hb => ?_⟩
  rw [List.mem_singleton] at hb
  exact hb ▸ (mem_keys_remove.mp ha).2

theorem lookup_eq_some (h : (Keys l).Nodup) : l.lookup key = some value ↔ (key,value) ∈ l := by
  induction l with
  | nil => simp
  | cons entry l ih =>
    obtain ⟨k,v⟩ := entry
    have hk : k ∉ Keys l := (List.nodup_cons.mp h).1
    have hl := ih (List.nodup_cons.mp h).2
    by_cases he : key = k
    · subst he
      have hm : ∀ value, (key,value) ∉ l := fun value hm => hk (List.mem_map.mpr ⟨_,hm,rfl⟩)
      simp only [List.lookup_cons,beq_self_eq_true,Option.some.injEq,List.mem_cons,
        Prod.mk.injEq,true_and,hm,or_false]
      exact eq_comm
    · have hb : (key == k) = false := by simpa using he
      simp [List.lookup_cons,hb,hl,he]

theorem mem_of_lookup (h : l.lookup key = some value) : (key,value) ∈ l := by
  obtain ⟨l₁,l₂,rfl,-⟩ := List.lookup_eq_some_iff.mp h
  simp

theorem lookup_eq_none : l.lookup key = none ↔ key ∉ Keys l := by
  simp only [List.lookup_eq_none_iff,Keys,List.mem_map,bne_iff_ne,not_exists,not_and]
  constructor
  · intro h entry hm he
    exact h entry hm he.symm
  · intro h entry hm he
    exact h entry hm he.symm

theorem lookup_remove (h : other ≠ key) : (remove l key).lookup other = l.lookup other := by
  induction l with
  | nil => rfl
  | cons entry l ih =>
    obtain ⟨k,v⟩ := entry
    by_cases hk : k = key
    · subst hk
      have hb : (other == k) = false := by simpa using h
      simpa [remove,List.lookup_cons,List.lookup_nil,hb] using ih
    · have hcons : remove ((k,v)::l) key = (k,v)::remove l key := by simp [remove,hk]
      rw [hcons]
      simp only [List.lookup_cons]
      split
      · rfl
      · exact ih

theorem lookup_put_self (l : List (κ × ν)) (key : κ) (value : ν) :
    (put l key value).lookup key = some value := by
  have hnone : (remove l key).lookup key = none := by
    simp only [List.lookup_eq_none_iff,bne_iff_ne]
    exact fun entry hm => Ne.symm (mem_remove.mp hm).2
  simp [put,List.lookup_append,hnone]

theorem lookup_put_of_ne (value : ν) (h : other ≠ key) :
    (put l key value).lookup other = l.lookup other := by
  have hb : (other == key) = false := by simpa using h
  simp [put,List.lookup_append,lookup_remove h,List.lookup_cons,List.lookup_nil,hb]

/-- A key that is put again takes the place of its old entry. -/
theorem length_put_of_mem (value : ν) (h : key ∈ Keys l) :
    (put l key value).length ≤ l.length := by
  obtain ⟨entry,hm,rfl⟩ := List.mem_map.mp h
  have h₁ : (remove l entry.1).length < l.length :=
    List.length_filter_lt_length_iff_exists.mpr ⟨entry,hm,by simp⟩
  simp only [put,List.length_append,List.length_singleton]
  omega

/-- The values keep distinct images under `f` when the new one is new to the other keys. -/
theorem map_put_nodup (h : (l.map fun entry => f entry.2).Nodup)
    (hv : ∀ entry ∈ l, entry.1 ≠ key → f entry.2 ≠ f value) :
    ((put l key value).map fun entry => f entry.2).Nodup := by
  simp only [put,List.map_append,List.map_cons,List.map_nil,List.nodup_append]
  refine ⟨map_remove_nodup h,List.nodup_singleton _,fun a ha b hb => ?_⟩
  obtain ⟨entry,hm,rfl⟩ := List.mem_map.mp ha
  rw [List.mem_singleton] at hb
  rw [hb]
  exact hv entry (mem_remove.mp hm).1 (mem_remove.mp hm).2

end AssocList
end L850GL
