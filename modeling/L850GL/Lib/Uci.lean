import Mathlib.Data.List.Basic
import Mathlib.Tactic.Common

/-! Packages of named configuration sections, kept as a committed text and a list of saved
changes laid over it when the package is loaded. -/
namespace L850GL
namespace Uci

variable {κ : Type} [DecidableEq κ]

inductive Value (κ : Type)
  | string (value : κ)
  | list (values : List κ)
  deriving DecidableEq,Repr

abbrev Options (κ : Type) := List (κ × Value κ)

structure Section (κ : Type) where
  name : κ
  type : κ
  anonymous : Bool
  options : Options κ
  deriving DecidableEq,Repr

abbrev Package (κ : Type) := List (Section κ)

/-- The string value of an option; nothing when it is absent or a list. -/
def lookupOptionString (options : Options κ) (option : κ) : Option κ :=
  match options.lookup option with
  | some (.string value) => some value
  | _ => none

/-- Replaces the option in place or adds it as the last one. -/
def setOption (option value : κ) : Options κ → Options κ
  | [] => [(option,.string value)]
  | (name,old)::options =>
    if name = option then (name,.string value)::options
    else (name,old)::setOption option value options

@[simp] theorem lookupOptionString_setOption (options : Options κ) (option value : κ) :
    lookupOptionString (setOption option value options) option = some value := by
  have h₁ : (setOption option value options).lookup option = some (.string value) := by
    induction options with
    | nil => simp [setOption]
    | cons o options ih =>
      obtain ⟨name,old⟩ := o
      by_cases h : name = option
      · simp [setOption,h]
      · have h₂ : (option == name) = false := by simpa using Ne.symm h
        simp [setOption,h,List.lookup_cons,h₂,ih]
  simp [lookupOptionString,h₁]

theorem lookupOptionString_setOption_other (options : Options κ) {option other : κ} (value : κ)
    (h : other ≠ option) :
    lookupOptionString (setOption option value options) other =
      lookupOptionString options other := by
  have h₁ : (setOption option value options).lookup other = options.lookup other := by
    induction options with
    | nil =>
      have h₂ : (other == option) = false := by simpa using h
      simp [setOption,List.lookup_cons,h₂]
    | cons o options ih =>
      obtain ⟨name,old⟩ := o
      by_cases hn : name = option
      · have h₂ : (other == name) = false := by simpa [hn] using h
        simp [setOption,hn,List.lookup_cons,hn ▸ h₂]
      · simp [setOption,hn,List.lookup_cons,ih]
  simp only [lookupOptionString,h₁]

/-- An option that `p` does not keep leaves no mark when it is set. -/
theorem filter_setOption (options : Options κ) {option : κ} (value : κ) {p : κ → Bool}
    (h : p option = false) :
    (setOption option value options).filter (fun o => p o.1) =
      options.filter fun o => p o.1 := by
  induction options with
  | nil => simp [setOption,h]
  | cons o options ih =>
    obtain ⟨name,old⟩ := o
    by_cases hn : name = option
    · subst hn
      simp [setOption,h]
    · simp [setOption,hn,List.filter_cons,ih]

namespace Section

def lookupOptionString (sec : Section κ) (option : κ) : Option κ :=
  Uci.lookupOptionString sec.options option

def setOption (sec : Section κ) (option value : κ) : Section κ :=
  {sec with options := Uci.setOption option value sec.options}

/-- The section with the options that `p` keeps. -/
def keep (p : κ → Bool) (sec : Section κ) : Section κ :=
  {sec with options := sec.options.filter fun o => p o.1}

@[simp] theorem lookupOptionString_setOption (sec : Section κ) (option value : κ) :
    (sec.setOption option value).lookupOptionString option = some value :=
  Uci.lookupOptionString_setOption _ _ _

theorem lookupOptionString_setOption_other (sec : Section κ) {option other : κ} (value : κ)
    (h : other ≠ option) :
    (sec.setOption option value).lookupOptionString other = sec.lookupOptionString other :=
  Uci.lookupOptionString_setOption_other _ _ h

theorem keep_setOption (sec : Section κ) {option : κ} (value : κ) {p : κ → Bool}
    (h : p option = false) : (sec.setOption option value).keep p = sec.keep p := by
  simp [keep,setOption,filter_setOption _ _ h]

end Section

section

variable {α β : Type}

/-- An edit that `g` does not see. -/
theorem map_modify {g : α → β} {f : α → α} {xs : List α} {i : Nat} {x : α}
    (hi : xs[i]? = some x) (h : g (f x) = g x) : (xs.modify i f).map g = xs.map g := by
  induction xs generalizing i with
  | nil => simp
  | cons y xs ih =>
    cases i with
    | zero =>
      obtain rfl : y = x := by simpa using hi
      simp [h]
    | succ i => simpa using ih (by simpa using hi)

/-- An edit of the only entry that `p` selects. -/
theorem filter_modify {p : α → Bool} {f : α → α} {xs : List α} {i : Nat} {x : α}
    (hx : xs.filter p = [x]) (hi : xs[i]? = some x) (hp : p (f x) = true) :
    (xs.modify i f).filter p = [f x] := by
  have hpx : p x = true := by
    have h₁ : x ∈ xs.filter p := by simp [hx]
    exact (List.mem_filter.mp h₁).2
  induction xs generalizing i with
  | nil => cases hx
  | cons y xs ih =>
    cases i with
    | zero =>
      obtain rfl : y = x := by simpa using hi
      have h₁ : xs.filter p = [] := by simpa [hpx] using hx
      simp [hp,h₁]
    | succ i =>
      have hi' : xs[i]? = some x := by simpa using hi
      have h₁ : x ∈ xs.filter p := List.mem_filter.mpr ⟨List.mem_of_getElem? hi',hpx⟩
      by_cases hy : p y = true
      · rw [List.filter_cons_of_pos hy,List.cons.injEq] at hx
        simp [hx.2] at h₁
      · rw [List.filter_cons_of_neg hy] at hx
        simpa [hy] using ih hx hi'

end

/-- What is stored for one package: the committed sections and the changes of type `δ` that
were saved and not committed. -/
structure Store (κ δ : Type) where
  committed : Package κ
  saved : List δ
  deriving DecidableEq,Repr

namespace Store

variable {δ : Type}

omit [DecidableEq κ]

def load (overlay : Package κ → δ → Package κ) (store : Store κ δ) : Package κ :=
  store.saved.foldl overlay store.committed

/-- A commit writes the loaded package, saved changes included. -/
def commit (package : Package κ) : Store κ δ := ⟨package,[]⟩

@[simp] theorem commit_load (overlay : Package κ → δ → Package κ) (package : Package κ) :
    (commit package : Store κ δ).load overlay = package := rfl

end Store

/-- A saved `set` of one option. -/
structure SavedSet (κ : Type) where
  target : κ
  option : κ
  value : κ
  deriving DecidableEq,Repr

def SavedSet.overlay (package : Package κ) (change : SavedSet κ) : Package κ :=
  package.map fun sec =>
    if sec.name = change.target then sec.setOption change.option change.value else sec

end Uci
end L850GL
