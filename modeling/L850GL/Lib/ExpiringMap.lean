import L850GL.Lib.ExpiringQueue
import Mathlib.Data.Finset.Card

/-! The map that an expiring queue stands for: each key has its last value, the time of its last
store, and its place in the order of insertion. -/
namespace L850GL

structure Stored (ν : Type) where
  value : ν
  storedAt : Int
  serial : Nat

structure ExpiringMap (κ ν : Type) where
  entries : κ → Option (Stored ν)
  next : Nat

namespace ExpiringMap

variable {κ ν : Type} [DecidableEq κ]

def empty : ExpiringMap κ ν := ⟨fun _ => none,0⟩

/-- What is seen at a time: the last value, until its expiry. -/
def visible (m : ExpiringMap κ ν) (expiry : Int → Int) (now : Int) (key : κ) :
    Option (Stored ν) :=
  (m.entries key).filter fun stored => decide (now < expiry stored.storedAt)

def Full (m : ExpiringMap κ ν) (expiry : Int → Int) (capacity : Nat) (now : Int) : Prop :=
  ∃ keys : Finset κ, keys.card = capacity ∧ ∀ key ∈ keys, (m.visible expiry now key).isSome

/-- The visible key that was inserted first. -/
def Oldest (m : ExpiringMap κ ν) (expiry : Int → Int) (now : Int) (key : κ) : Prop :=
  ∃ stored, m.visible expiry now key = some stored ∧
    ∀ key' stored', m.visible expiry now key' = some stored' → stored.serial ≤ stored'.serial

def remove (m : ExpiringMap κ ν) (key : κ) : ExpiringMap κ ν :=
  {m with entries := Function.update m.entries key none}

open Classical in
noncomputable def evict (m : ExpiringMap κ ν) (expiry : Int → Int) (capacity : Nat) (now : Int) :
    κ → Option (Stored ν) :=
  fun key => if m.Full expiry capacity now ∧ m.Oldest expiry now key then none else m.entries key

/-- A visible key keeps its place; another one is inserted last. -/
noncomputable def store (m : ExpiringMap κ ν) (expiry : Int → Int) (capacity : Nat) (now : Int)
    (key : κ) (value : ν) : ExpiringMap κ ν :=
  match m.visible expiry now key with
  | some stored =>
    {m with entries := Function.update m.entries key (some ⟨value,now,stored.serial⟩)}
  | none =>
    ⟨Function.update (m.evict expiry capacity now) key (some ⟨value,now,m.next⟩),m.next+1⟩

variable {m : ExpiringMap κ ν} {expiry : Int → Int} {capacity : Nat} {now : Int} {key : κ}
  {stored : Stored ν}

omit [DecidableEq κ] in
theorem visible_eq_some : m.visible expiry now key = some stored ↔
    m.entries key = some stored ∧ now < expiry stored.storedAt := by
  simp [visible,Option.filter_eq_some_iff]

theorem visible_store (m : ExpiringMap κ ν) (expiry : Int → Int) (capacity : Nat)
    (h : now < expiry now) (key : κ) (value : ν) :
    ∃ stored, (m.store expiry capacity now key value).visible expiry now key = some stored ∧
      stored.value = value := by
  cases hv : m.visible expiry now key with
  | some stored =>
    refine ⟨⟨value,now,stored.serial⟩,visible_eq_some.mpr ⟨?_,h⟩,rfl⟩
    simp [store,hv]
  | none =>
    refine ⟨⟨value,now,m.next⟩,visible_eq_some.mpr ⟨?_,h⟩,rfl⟩
    simp [store,hv]

theorem entries_store {key' : κ} {value : ν}
    (h : (m.store expiry capacity now key value).entries key' = some stored) :
    stored.storedAt = now ∨ m.entries key' = some stored := by
  cases hv : m.visible expiry now key with
  | some old =>
    simp only [store,hv] at h
    by_cases hk : key' = key
    · simp only [hk,Function.update_self,Option.some.injEq] at h
      exact .inl (by rw [← h])
    · simp only [ne_eq,hk,not_false_eq_true,Function.update_of_ne] at h
      exact .inr h
  | none =>
    simp only [store,hv] at h
    by_cases hk : key' = key
    · simp only [hk,Function.update_self,Option.some.injEq] at h
      exact .inl (by rw [← h])
    · simp only [ne_eq,hk,not_false_eq_true,Function.update_of_ne] at h
      right
      unfold evict at h
      split at h
      · cases h
      · exact h

theorem entries_remove {key' : κ} (h : (m.remove key).entries key' = some stored) :
    m.entries key' = some stored := by
  by_cases hk : key' = key
  · simp [remove,hk] at h
  · simpa [remove,hk] using h

omit [DecidableEq κ] in
theorem visible_congr {expiry' : Int → Int}
    (h : ∀ key stored, m.entries key = some stored →
      (now < expiry stored.storedAt ↔ now < expiry' stored.storedAt)) :
    m.visible expiry now = m.visible expiry' now := by
  funext key
  cases hm : m.entries key with
  | none => simp [visible,hm]
  | some stored => simp [visible,hm,Option.filter_some,h key stored hm]

theorem store_congr {expiry' : Int → Int} (h : m.visible expiry now = m.visible expiry' now)
    (capacity : Nat) (key : κ) (value : ν) :
    m.store expiry capacity now key value = m.store expiry' capacity now key value := by
  have hfull : m.Full expiry capacity now = m.Full expiry' capacity now := by
    simp only [Full,h]
  have holdest : m.Oldest expiry now = m.Oldest expiry' now := by
    funext key'
    simp only [Oldest,h]
  have hevict : m.evict expiry capacity now = m.evict expiry' capacity now := by
    funext key'
    have hiff : (m.Full expiry capacity now ∧ m.Oldest expiry now key') ↔
        (m.Full expiry' capacity now ∧ m.Oldest expiry' now key') := by
      rw [hfull,holdest]
    by_cases hdropped : m.Full expiry capacity now ∧ m.Oldest expiry now key'
    · rw [evict,evict,if_pos hdropped,if_pos (hiff.mp hdropped)]
    · rw [evict,evict,if_neg hdropped,if_neg (mt hiff.mpr hdropped)]
  simp only [store,h,hevict]

end ExpiringMap

namespace ExpiringQueue

open ExpiringMap

variable {κ ν : Type} [DecidableEq κ] {q : Queue κ ν} {e : Entry κ ν} {m : ExpiringMap κ ν}
  {expiry : Int → Int} {capacity : Nat} {now later : Int} {key : κ} {entry : Entry κ ν}

def Holds (m : ExpiringMap κ ν) (expiry : Int → Int) (e : Entry κ ν) (stored : Stored ν) : Prop :=
  m.entries e.key = some stored ∧ stored.value = e.value ∧ e.expiresAt = expiry stored.storedAt

/-- A queue stands for a map from a time on. -/
structure Represents (q : Queue κ ν) (m : ExpiringMap κ ν) (expiry : Int → Int) (now : Int) :
    Prop where
  nodup : (Keys q).Nodup
  holds : ∀ e ∈ q, ∃ stored, Holds m expiry e stored
  complete : ∀ key stored, m.entries key = some stored → now < expiry stored.storedAt →
    key ∈ Keys q
  order : q.Pairwise fun e e' => ∀ stored stored', m.entries e.key = some stored →
    m.entries e'.key = some stored' → stored.serial < stored'.serial
  fresh : ∀ key stored, m.entries key = some stored → stored.serial < m.next

omit [DecidableEq κ] in
theorem represents_empty : Represents ([] : Queue κ ν) .empty expiry now :=
  ⟨.nil,by simp,by simp [ExpiringMap.empty],.nil,by simp [ExpiringMap.empty]⟩

omit [DecidableEq κ] in
/-- Pruning drops what is no longer seen. -/
theorem Represents.prune (h : Represents q m expiry now) (hle : now ≤ later) :
    Represents (prune later q) m expiry later where
  nodup := h.nodup.sublist (keys_prune later)
  holds e he := h.holds e (mem_prune.mp he).1
  complete key stored hstored hvisible := by
    have hkey := h.complete key stored hstored (lt_of_le_of_lt hle hvisible)
    obtain ⟨e,he,rfl⟩ := List.mem_map.mp hkey
    obtain ⟨stored',hkey',-,hexpires⟩ := h.holds e he
    have heq : stored' = stored := Option.some.inj (hkey'.symm.trans hstored)
    refine List.mem_map.mpr ⟨e,mem_prune.mpr ⟨he,?_⟩,rfl⟩
    rw [hexpires,heq]
    exact hvisible
  order := h.order.sublist List.filter_sublist
  fresh := h.fresh

/-- A pruned queue holds exactly what is seen. -/
theorem Represents.visible (h : Represents q m expiry now) (hpruned : ∀ e ∈ q, now < e.expiresAt)
    (key : κ) : (find q key).map (·.value) = (m.visible expiry now key).map (·.value) := by
  cases hf : find q key with
  | some e =>
    obtain ⟨he,rfl⟩ := find_some hf
    obtain ⟨stored,hstored,hvalue,hexpires⟩ := h.holds e he
    have hvisible : m.visible expiry now e.key = some stored :=
      visible_eq_some.mpr ⟨hstored,hexpires ▸ hpruned e he⟩
    simp [hvisible,hvalue]
  | none =>
    cases hv : m.visible expiry now key with
    | none => rfl
    | some stored =>
      obtain ⟨hstored,hlt⟩ := visible_eq_some.mp hv
      exact absurd (h.complete key stored hstored hlt) (find_eq_none.mp hf)

theorem Represents.find_eq_none_iff (h : Represents q m expiry now)
    (hpruned : ∀ e ∈ q, now < e.expiresAt) (key : κ) :
    find q key = none ↔ m.visible expiry now key = none := by
  have hvalue := h.visible hpruned key
  constructor
  · intro hf
    rw [hf] at hvalue
    simpa using hvalue.symm
  · intro hv
    rw [hv] at hvalue
    simpa using hvalue

theorem Represents.remove (h : Represents q m expiry now) (key : κ) :
    Represents (remove q key) (m.remove key) expiry now where
  nodup := h.nodup.sublist keys_remove
  holds e he := by
    obtain ⟨he,hne⟩ := (mem_remove h.nodup).mp he
    obtain ⟨stored,hstored,hrest⟩ := h.holds e he
    refine ⟨stored,?_,hrest⟩
    simpa [ExpiringMap.remove,hne] using hstored
  complete key' stored hstored hlt := by
    by_cases hk : key' = key
    · simp [ExpiringMap.remove,hk] at hstored
    · simp only [ExpiringMap.remove,ne_eq,hk,not_false_eq_true,Function.update_of_ne] at hstored
      obtain ⟨e,he,rfl⟩ := List.mem_map.mp (h.complete key' stored hstored hlt)
      exact List.mem_map_of_mem ((mem_remove h.nodup).mpr ⟨he,hk⟩)
  order := by
    have hsub := h.order.sublist (List.eraseP_sublist (p:=fun e => e.key == key))
    refine hsub.imp_of_mem fun {e e'} he he' hlt stored stored' hstored hstored' => ?_
    have hne := ((mem_remove h.nodup).mp he).2
    have hne' := ((mem_remove h.nodup).mp he').2
    simp only [ExpiringMap.remove,ne_eq,hne,hne',not_false_eq_true,Function.update_of_ne]
      at hstored hstored'
    exact hlt stored stored' hstored hstored'
  fresh key' stored hstored := by
    by_cases hk : key' = key
    · simp [ExpiringMap.remove,hk] at hstored
    · simp only [ExpiringMap.remove,ne_eq,hk,not_false_eq_true,Function.update_of_ne] at hstored
      exact h.fresh key' stored hstored

theorem Represents.mem_keys_iff (h : Represents q m expiry now)
    (hpruned : ∀ e ∈ q, now < e.expiresAt) (key : κ) :
    key ∈ Keys q ↔ (m.visible expiry now key).isSome := by
  have hnone := h.find_eq_none_iff hpruned key
  rw [find_eq_none] at hnone
  cases hv : m.visible expiry now key with
  | none => simpa using hnone.mpr hv
  | some stored =>
    simp only [hv,reduceCtorEq,iff_false,not_not] at hnone
    simpa using hnone

theorem Represents.full_iff (h : Represents q m expiry now)
    (hpruned : ∀ e ∈ q, now < e.expiresAt) (hle : q.length ≤ capacity) :
    m.Full expiry capacity now ↔ q.length = capacity := by
  have hcard : (Keys q).toFinset.card = q.length := by
    rw [List.toFinset_card_of_nodup h.nodup]
    simp [Keys]
  constructor
  · rintro ⟨keys,hkeys,hvisible⟩
    have hsub : keys ⊆ (Keys q).toFinset := by
      intro key hkey
      have hmem := (h.mem_keys_iff hpruned key).mpr (hvisible key hkey)
      simpa using hmem
    have hcapacity := Finset.card_le_card hsub
    omega
  · intro hlength
    refine ⟨(Keys q).toFinset,by omega,fun key hkey => ?_⟩
    exact (h.mem_keys_iff hpruned key).mp (List.mem_toFinset.mp hkey)

theorem Represents.oldest_iff (h : Represents (e::q) m expiry now)
    (hpruned : ∀ e' ∈ e::q, now < e'.expiresAt) (key : κ) :
    m.Oldest expiry now key ↔ key = e.key := by
  obtain ⟨stored,hstored,-,hexpires⟩ := h.holds e (by simp)
  have hvisible : m.visible expiry now e.key = some stored :=
    visible_eq_some.mpr ⟨hstored,hexpires ▸ hpruned e (by simp)⟩
  have hlt : ∀ e' ∈ q, ∀ stored', m.entries e'.key = some stored' →
      stored.serial < stored'.serial := by
    intro e' he' stored' hstored'
    exact (List.pairwise_cons.mp h.order).1 e' he' stored stored' hstored hstored'
  constructor
  · rintro ⟨stored',hvisible',holdest⟩
    have hkey := (h.mem_keys_iff hpruned key).mpr (by simp [hvisible'])
    obtain ⟨e',he',rfl⟩ := List.mem_map.mp hkey
    rcases List.mem_cons.mp he' with rfl | he'
    · rfl
    · have h₁ := hlt e' he' stored' (visible_eq_some.mp hvisible').1
      have h₂ := holdest e.key stored hvisible
      omega
  · rintro rfl
    refine ⟨stored,hvisible,fun key' stored' hvisible' => ?_⟩
    have hkey := (h.mem_keys_iff hpruned key').mpr (by simp [hvisible'])
    obtain ⟨e',he',rfl⟩ := List.mem_map.mp hkey
    have hstored' := (visible_eq_some.mp hvisible').1
    rcases List.mem_cons.mp he' with rfl | he'
    · have heq : stored = stored' := Option.some.inj (hstored.symm.trans hstored')
      rw [heq]
    · exact (hlt e' he' stored' hstored').le

theorem Represents.evict_eq (h : Represents q m expiry now)
    (hpruned : ∀ e ∈ q, now < e.expiresAt) (hle : q.length ≤ capacity) (hcap : 0 < capacity) :
    m.evict expiry capacity now =
      fun key => if key ∈ Keys (evicted capacity q) then none else m.entries key := by
  funext key
  have hfull := h.full_iff hpruned hle
  by_cases hlength : q.length = capacity
  · cases q with
    | nil => simp only [List.length_nil] at hlength; omega
    | cons e q =>
      have holdest := h.oldest_iff hpruned key
      have hone : (e::q).length+1-capacity = 1 := by omega
      simp only [evict,hfull,hlength,holdest,true_and,evicted]
      simp [Keys]
  · have hzero : q.length+1-capacity = 0 := by omega
    simp [evict,hfull,hlength,evicted,hzero,Keys]

/-- The first entries of a queue are dropped with their keys. -/
theorem Represents.drop (h : Represents q m expiry now) (n : Nat) :
    Represents (q.drop n)
      ⟨fun key => if key ∈ Keys (q.take n) then none else m.entries key,m.next⟩ expiry now := by
  have hdisjoint : ∀ key, key ∈ Keys (q.drop n) → key ∉ Keys (q.take n) := by
    intro key hdrop htake
    have hnodup := h.nodup
    rw [← List.take_append_drop n q,Keys,List.map_append] at hnodup
    exact (List.nodup_append.mp hnodup).2.2 key htake key hdrop rfl
  constructor
  · exact h.nodup.sublist (List.Sublist.map _ (List.drop_sublist n q))
  · intro e he
    obtain ⟨stored,hstored,hrest⟩ := h.holds e (List.mem_of_mem_drop he)
    refine ⟨stored,?_,hrest⟩
    simpa [hdisjoint e.key (List.mem_map_of_mem he)] using hstored
  · intro key stored hstored hlt
    by_cases hkey : key ∈ Keys (q.take n)
    · simp [hkey] at hstored
    · simp only [hkey,if_false] at hstored
      have hmem := h.complete key stored hstored hlt
      rw [← List.take_append_drop n q,Keys,List.map_append] at hmem
      exact (List.mem_append.mp hmem).resolve_left hkey
  · refine (h.order.sublist (List.drop_sublist n q)).imp_of_mem ?_
    intro e e' he he' hlt stored stored' hstored hstored'
    simp only [hdisjoint e.key (List.mem_map_of_mem he),if_false] at hstored
    simp only [hdisjoint e'.key (List.mem_map_of_mem he'),if_false] at hstored'
    exact hlt stored stored' hstored hstored'
  · intro key stored hstored
    by_cases hkey : key ∈ Keys (q.take n)
    · simp [hkey] at hstored
    · simp only [hkey,if_false] at hstored
      exact h.fresh key stored hstored

theorem Represents.append (h : Represents q m expiry now) (hkey : key ∉ Keys q) (value : ν) :
    Represents (q++[⟨key,value,expiry now⟩])
      ⟨Function.update m.entries key (some ⟨value,now,m.next⟩),m.next+1⟩ expiry now := by
  have hne : ∀ e ∈ q, e.key ≠ key := by
    intro e he hk
    exact hkey (hk ▸ List.mem_map_of_mem he)
  constructor
  · simp only [Keys,List.map_append,List.map_cons,List.map_nil]
    refine List.nodup_append.mpr ⟨h.nodup,by simp,?_⟩
    rintro a ha b hb rfl
    exact hkey (List.mem_singleton.mp hb ▸ ha)
  · intro e he
    rcases List.mem_append.mp he with he | he
    · obtain ⟨stored,hstored,hrest⟩ := h.holds e he
      exact ⟨stored,by simpa [hne e he] using hstored,hrest⟩
    · obtain rfl := List.mem_singleton.mp he
      exact ⟨⟨value,now,m.next⟩,by simp,rfl,rfl⟩
  · intro key' stored hstored hlt
    by_cases hk : key' = key
    · simp [Keys,hk]
    · simp only [ne_eq,hk,not_false_eq_true,Function.update_of_ne] at hstored
      have hmem := h.complete key' stored hstored hlt
      simp only [Keys,List.map_append]
      exact List.mem_append_left _ hmem
  · refine List.pairwise_append.mpr ⟨?_,by simp,?_⟩
    · refine h.order.imp_of_mem fun {e e'} he he' hlt stored stored' hstored hstored' => ?_
      simp only [ne_eq,hne e he,hne e' he',not_false_eq_true,Function.update_of_ne]
        at hstored hstored'
      exact hlt stored stored' hstored hstored'
    · intro e he e' he' stored stored' hstored hstored'
      obtain rfl := List.mem_singleton.mp he'
      simp only [ne_eq,hne e he,not_false_eq_true,Function.update_of_ne] at hstored
      simp only [Function.update_self,Option.some.injEq] at hstored'
      rw [← hstored']
      exact h.fresh e.key stored hstored
  · intro key' stored hstored
    by_cases hk : key' = key
    · simp only [hk,Function.update_self,Option.some.injEq] at hstored
      rw [← hstored]
      simp
    · simp only [ne_eq,hk,not_false_eq_true,Function.update_of_ne] at hstored
      exact Nat.lt_succ_of_lt (h.fresh key' stored hstored)

theorem Represents.replace (h : Represents q m expiry now) {old : Stored ν}
    (hold : m.entries key = some old) (hkey : key ∈ Keys q) (value : ν) :
    Represents (replace q ⟨key,value,expiry now⟩)
      {m with entries := Function.update m.entries key (some ⟨value,now,old.serial⟩)}
      expiry now := by
  -- the serial of each key is what it was
  have hserial : ∀ key' stored,
      Function.update m.entries key (some ⟨value,now,old.serial⟩) key' = some stored →
      ∃ stored', m.entries key' = some stored' ∧ stored'.serial = stored.serial := by
    intro key' stored hstored
    by_cases hk : key' = key
    · simp only [hk,Function.update_self,Option.some.injEq] at hstored
      exact ⟨old,hk ▸ hold,by rw [← hstored]⟩
    · simp only [ne_eq,hk,not_false_eq_true,Function.update_of_ne] at hstored
      exact ⟨stored,hstored,rfl⟩
  constructor
  · rw [keys_replace]
    exact h.nodup
  · intro e he
    rcases mem_replace he with rfl | ⟨he,hne⟩
    · exact ⟨⟨value,now,old.serial⟩,by simp,rfl,rfl⟩
    · obtain ⟨stored,hstored,hrest⟩ := h.holds e he
      have hne' : e.key ≠ key := hne
      exact ⟨stored,by simpa [hne'] using hstored,hrest⟩
  · intro key' stored hstored hlt
    rw [keys_replace]
    by_cases hk : key' = key
    · exact hk ▸ hkey
    · simp only [ne_eq,hk,not_false_eq_true,Function.update_of_ne] at hstored
      exact h.complete key' stored hstored hlt
  · refine List.pairwise_map.mpr (h.order.imp fun {e e'} hlt stored stored' hstored hstored' => ?_)
    have hkeys : ∀ x : Entry κ ν,
        (if x.key == key then (⟨key,value,expiry now⟩ : Entry κ ν) else x).key = x.key := by
      intro x
      by_cases hk : x.key = key
      · simp [hk]
      · simp [hk]
    rw [hkeys] at hstored hstored'
    obtain ⟨s,hs,hs₁⟩ := hserial _ _ hstored
    obtain ⟨s',hs',hs₁'⟩ := hserial _ _ hstored'
    have h₁ := hlt s s' hs hs'
    omega
  · intro key' stored hstored
    obtain ⟨s,hs,hs₁⟩ := hserial _ _ hstored
    have h₁ := h.fresh key' s hs
    show stored.serial < m.next
    omega

/-- Storing into a pruned queue is storing into its map. -/
theorem Represents.store (h : Represents q m expiry now) (hpruned : ∀ e ∈ q, now < e.expiresAt)
    (hle : q.length ≤ capacity) (hcap : 0 < capacity) (key : κ) (value : ν) :
    Represents (put capacity q ⟨key,value,expiry now⟩) (m.store expiry capacity now key value)
      expiry now := by
  have hfind := h.find_eq_none_iff hpruned key
  cases hv : m.visible expiry now key with
  | some old =>
    have hkey := (h.mem_keys_iff hpruned key).mpr (by simp [hv])
    have hput : put capacity q ⟨key,value,expiry now⟩ =
        ExpiringQueue.replace q ⟨key,value,expiry now⟩ := by
      cases hf : find q key with
      | none => simp [hfind.mp hf] at hv
      | some e => simp [put,hf]
    simp only [hput,ExpiringMap.store,hv]
    exact h.replace (visible_eq_some.mp hv).1 hkey value
  | none =>
    have hnone := hfind.mpr hv
    have hkey := find_eq_none.mp hnone
    have hdropped := h.drop (q.length+1-capacity)
    have hkey' : key ∉ Keys (q.drop (q.length+1-capacity)) := fun hk =>
      hkey ((List.Sublist.map _ (List.drop_sublist _ _)).subset hk)
    simp only [put,hnone,ExpiringMap.store,hv,h.evict_eq hpruned hle hcap]
    exact hdropped.append hkey' value

/-- A store drops only the oldest entry, and only for a new key of a full map. -/
theorem Represents.dropped (h : Represents q m expiry now)
    (hpruned : ∀ e ∈ q, now < e.expiresAt) (hle : q.length ≤ capacity) (hcap : 0 < capacity)
    (he : e ∈ q) (hkey : e.key ∉ Keys (put capacity q entry)) :
    m.visible expiry now entry.key = none ∧ m.Full expiry capacity now ∧
      m.Oldest expiry now e.key := by
  have hne : e.key ≠ entry.key := by
    intro hk
    exact hkey (hk ▸ List.mem_map_of_mem put_self_mem)
  have hlost : find q entry.key = none ∧ e ∈ evicted capacity q := by
    by_contra hnot
    refine hkey (List.mem_map_of_mem (mem_put_of_mem he hne fun hnone hevicted => ?_))
    exact hnot ⟨hnone,hevicted⟩
  refine ⟨(h.find_eq_none_iff hpruned entry.key).mp hlost.1,?_⟩
  have hevicted := congrFun (h.evict_eq hpruned hle hcap) e.key
  have hmem : e.key ∈ Keys (evicted capacity q) := List.mem_map_of_mem hlost.2
  rw [if_pos hmem] at hevicted
  obtain ⟨stored,hstored,-⟩ := h.holds e he
  by_contra hnot
  rw [evict,if_neg hnot,hstored] at hevicted
  cases hevicted

end ExpiringQueue
end L850GL
