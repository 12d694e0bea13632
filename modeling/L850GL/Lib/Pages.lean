import Mathlib.Data.List.Nodup
import Mathlib.Tactic.Common

/-! A list read in pages, each of which starts after the key of the last item before it. -/
namespace L850GL
namespace Pages

variable {α κ : Type} [DecidableEq κ]

structure Page (α κ : Type) where
  items : List α
  hasMore : Bool
  next : Option κ

/-- Where the page after a cursor starts; without a cursor it is the first one. -/
def start (key : α → κ) (view : List α) : Option κ → Option Nat
  | none => some 0
  | some cursor => (view.findIdx? fun a => key a == cursor).map (·+1)

def pageAt (key : α → κ) (view : List α) (limit start : Nat) : Page α κ :=
  let stop := min view.length (start+limit)
  { items := (view.drop start).take (stop-start)
    hasMore := stop < view.length
    next := if stop < view.length ∧ start < stop then view[stop-1]?.map key else none }

def page (key : α → κ) (view : List α) (limit : Nat) (cursor : Option κ) : Option (Page α κ) :=
  (start key view cursor).map (pageAt key view limit)

/-- The pages that a reader gets who follows the cursors to the last page. -/
inductive Follows (key : α → κ) (view : List α) (limit : Nat) :
    Option κ → List (Page α κ) → Prop
  | last {cursor : Option κ} {p : Page α κ} (h : page key view limit cursor = some p)
      (hmore : p.hasMore = false) : Follows key view limit cursor [p]
  | more {cursor : Option κ} {p : Page α κ} {ps : List (Page α κ)}
      (h : page key view limit cursor = some p) (hmore : p.hasMore = true)
      (rest : Follows key view limit p.next ps) : Follows key view limit cursor (p::ps)

variable {key : α → κ} {view : List α} {limit s : Nat} {cursor : Option κ} {p : Page α κ}
  {ps : List (Page α κ)}

theorem start_key (hk : (view.map key).Nodup) (hs : s < view.length) :
    start key view (view[s]?.map key) = some (s+1) := by
  have h₁ : view[s]? = some view[s] := List.getElem?_eq_getElem hs
  have h₂ : (view.findIdx? fun a => key a == key view[s]) = some s := by
    refine List.findIdx?_eq_some_iff_getElem.mpr ⟨hs,by simp,fun j hj => ?_⟩
    simp only [beq_iff_eq]
    intro he
    have h₃ := List.nodup_iff_injective_get.mp hk
    have h₄ : (⟨j,by rw [List.length_map]; omega⟩ : Fin (view.map key).length) =
        ⟨s,by rw [List.length_map]; exact hs⟩ := h₃ (by simpa using he)
    have h₅ := congrArg Fin.val h₄
    simp only at h₅
    omega
  rw [h₁,Option.map_some,start,h₂]
  rfl

theorem start_le (h : start key view cursor = some s) : s ≤ view.length := by
  cases cursor with
  | none =>
    cases h
    exact Nat.zero_le _
  | some cursor =>
    obtain ⟨i,hi,rfl⟩ := Option.map_eq_some_iff.mp h
    obtain ⟨hlt,-⟩ := List.findIdx?_eq_some_iff_getElem.mp hi
    exact hlt

omit [DecidableEq κ] in
theorem pageAt_last (h : (pageAt key view limit s).hasMore = false) :
    (pageAt key view limit s).items = view.drop s := by
  simp only [pageAt,decide_eq_false_iff_not,Nat.not_lt] at h ⊢
  refine List.take_of_length_le ?_
  rw [List.length_drop]
  omega

omit [DecidableEq κ] in
theorem pageAt_items : (pageAt key view limit s).items = (view.drop s).take limit := by
  simp only [pageAt]
  rw [List.take_eq_take_iff,List.length_drop]
  omega

/-- A page holds items of the list, at most as many as its limit. -/
theorem page_items (h : page key view limit cursor = some p) :
    p.items.length ≤ limit ∧ ∀ item ∈ p.items,item ∈ view := by
  obtain ⟨s,-,rfl⟩ := Option.map_eq_some_iff.mp h
  simp only [pageAt]
  constructor
  · have hle := List.length_take_le (min view.length (s+limit)-s) (view.drop s)
    omega
  · intro item hitem
    exact List.mem_of_mem_drop (List.mem_of_mem_take hitem)

/-- The last page has no cursor. -/
theorem page_last_next (h : page key view limit cursor = some p) (hmore : p.hasMore = false) :
    p.next = none := by
  obtain ⟨s,-,rfl⟩ := Option.map_eq_some_iff.mp h
  simp only [pageAt,decide_eq_false_iff_not] at hmore ⊢
  exact if_neg fun hlt => hmore hlt.1

theorem pageAt_more (hk : (view.map key).Nodup) (hlimit : 0 < limit)
    (h : (pageAt key view limit s).hasMore = true) :
    (pageAt key view limit s).items = (view.drop s).take limit ∧
      start key view (pageAt key view limit s).next = some (s+limit) ∧
      s+limit < view.length := by
  simp only [pageAt,decide_eq_true_eq] at h ⊢
  have hstop : min view.length (s+limit) = s+limit := by omega
  rw [hstop] at h ⊢
  refine ⟨by rw [Nat.add_sub_cancel_left],?_,h⟩
  rw [if_pos ⟨h,by omega⟩,start_key hk (by omega)]
  congr 1
  omega

/-- The pages are the rest of the list, in its order. -/
theorem Follows.items (hk : (view.map key).Nodup) (hlimit : 0 < limit)
    (h : Follows key view limit cursor ps) (hs : start key view cursor = some s) :
    ps.flatMap Page.items = view.drop s := by
  induction h generalizing s with
  | last h hmore =>
    rw [page,hs,Option.map_some] at h
    cases h
    simp [pageAt_last hmore]
  | more h hmore rest ih =>
    rw [page,hs,Option.map_some] at h
    cases h
    obtain ⟨hitems,hnext,-⟩ := pageAt_more hk hlimit hmore
    rw [List.flatMap_cons,hitems,ih hnext,← List.drop_drop,List.take_append_drop]

/-- A reader comes to a last page. -/
theorem exists_follows (hk : (view.map key).Nodup) (hlimit : 0 < limit)
    (hs : start key view cursor = some s) :
    ∃ ps, Follows key view limit cursor ps ∧ ps.length*limit ≤ view.length-s+limit := by
  induction hn : view.length-s using Nat.strongRecOn generalizing s cursor with
  | _ n ih =>
    have hp : page key view limit cursor = some (pageAt key view limit s) := by rw [page,hs]; rfl
    cases hmore : (pageAt key view limit s).hasMore with
    | false => exact ⟨_,.last hp hmore,by simp⟩
    | true =>
      obtain ⟨-,hnext,hlt⟩ := pageAt_more hk hlimit hmore
      obtain ⟨ps,hps,hlen⟩ := ih (view.length-(s+limit)) (by omega) hnext rfl
      refine ⟨_::ps,.more hp hmore hps,?_⟩
      rw [List.length_cons,Nat.add_mul,Nat.one_mul]
      omega

/-- Following the cursors from the first page gives the whole list. -/
theorem follows_all (hk : (view.map key).Nodup) (hlimit : 0 < limit)
    (h : Follows key view limit none ps) : ps.flatMap Page.items = view :=
  (h.items hk hlimit rfl).trans List.drop_zero

end Pages
end L850GL
