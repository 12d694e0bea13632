import Mathlib.Tactic.Common

/-! A resource that is used by one at a time, and the mark that it carries while somebody owns
it. -/
namespace L850GL
namespace Ownership

variable {α β μ : Type}

/-- There is no second one. -/
def Alone (uses : α → Prop) : Prop := ∀ a b,uses a → uses b → a = b

/-- How the users of a resource change in a step: nobody new comes, or somebody comes to an idle
resource. -/
inductive Passes (before after : α → Prop) : Prop
  | shrinks (h : ∀ a,after a → before a)
  | starts (a : α) (hidle : ∀ b,¬before b) (h : ∀ b,after b → before b ∨ b = a)

theorem Alone.passes {before after : α → Prop} (h : Alone before) (hp : Passes before after) :
    Alone after := by
  intro a b ha hb
  cases hp with
  | shrinks hold => exact h a b (hold a ha) (hold b hb)
  | starts c hidle hnew =>
    have hc : ∀ d,after d → d = c := fun d hd => (hnew d hd).resolve_left (hidle d)
    rw [hc a ha,hc b hb]

/-- The mark of a resource is the tag of its owner, and `free` when it has none. -/
structure Marked (free : μ) (tag : α → μ) (mark : μ) (owns : α → Prop) : Prop where
  owned : ∀ a,owns a → mark = tag a
  idle : (∀ a,¬owns a) → mark = free
  alone : Alone owns

/-- Owners may leave, and each takes its own mark with it. -/
structure Leaves (free : μ) (tag : α → μ) (mark mark' : μ) (owns owns' : α → Prop) : Prop where
  held : ∀ a,owns' a → owns a
  mark : mark' = mark ∨ mark' = free ∧ ∃ a,owns a ∧ ¬owns' a
  freed : ∀ a,owns a → ¬owns' a → mark' ≠ tag a

/-- What a step does to a resource: owners leave, or an idle one is taken. -/
inductive Turn (free : μ) (tag : α → μ) (mark mark' : μ) (owns owns' : α → Prop) : Prop
  | leaves (h : Leaves free tag mark mark' owns owns')
  | taken (a : α) (hfree : mark = free) (hmark : mark' = tag a) (h : ∀ b,owns' b ↔ b = a ∨ owns b)

variable {free mark mark' mark'' : μ} {tag : α → μ} {owns owns' owns'' : α → Prop}

theorem Leaves.kept (hmark : mark' = mark) (h : ∀ a,owns' a ↔ owns a) :
    Leaves free tag mark mark' owns owns' :=
  ⟨fun a ha => (h a).mp ha,.inl hmark,fun a ha hn => absurd ((h a).mpr ha) hn⟩

theorem Leaves.one {a : α} (hbefore : owns a)
    (hmark : mark' = free ∧ tag a ≠ free ∨ mark' = mark ∧ mark ≠ tag a)
    (h : ∀ b,owns' b ↔ owns b ∧ b ≠ a) : Leaves free tag mark mark' owns owns' := by
  refine ⟨fun b hb => ((h b).mp hb).1,?_,fun b hb hn => ?_⟩
  · rcases hmark with ⟨hfree,-⟩ | ⟨hsame,-⟩
    · exact .inr ⟨hfree,a,hbefore,fun ha => ((h a).mp ha).2 rfl⟩
    · exact .inl hsame
  · have hab : b = a := by
      by_contra hne
      exact hn ((h b).mpr ⟨hb,hne⟩)
    rw [hab]
    rcases hmark with ⟨hfree,htag⟩ | ⟨hsame,hne⟩
    · rw [hfree]
      exact htag.symm
    · rw [hsame]
      exact hne

theorem Leaves.trans (htag : ∀ a,tag a ≠ free) (h : Leaves free tag mark mark' owns owns')
    (h' : Leaves free tag mark' mark'' owns' owns'') :
    Leaves free tag mark mark'' owns owns'' := by
  refine ⟨fun a ha => h.held a (h'.held a ha),?_,fun a ha hn => ?_⟩
  · rcases h'.mark with hsame' | ⟨hfree',a,ha,hn⟩
    · rcases h.mark with hsame | ⟨hfree,a,ha,hn⟩
      · exact .inl (hsame'.trans hsame)
      · exact .inr ⟨hsame'.trans hfree,a,ha,fun hc => hn (h'.held a hc)⟩
    · exact .inr ⟨hfree',a,h.held a ha,hn⟩
  · by_cases ha' : owns' a
    · exact h'.freed a ha' hn
    · have hne := h.freed a ha ha'
      rcases h'.mark with hsame | ⟨hfree,-⟩
      · rw [hsame]
        exact hne
      · rw [hfree]
        exact (htag a).symm

theorem Marked.not_owns (h : Marked free tag mark owns) (htag : ∀ a,tag a ≠ free)
    (hfree : mark = free) (a : α) : ¬owns a :=
  fun ha => htag a ((h.owned a ha).symm.trans hfree)

theorem Marked.leaves (h : Marked free tag mark owns)
    (hl : Leaves free tag mark mark' owns owns') : Marked free tag mark' owns' := by
  have halone : Alone owns' := fun a b ha hb => h.alone a b (hl.held a ha) (hl.held b hb)
  rcases hl.mark with hsame | ⟨hfree,c,hc,hgone⟩
  · refine ⟨fun a ha => hsame.trans (h.owned a (hl.held a ha)),fun hnone => ?_,halone⟩
    rw [hsame]
    refine h.idle fun a ha => hl.freed a ha (hnone a) ?_
    rw [hsame,h.owned a ha]
  · have hnobody : ∀ a,¬owns' a := fun a ha => hgone (h.alone a c (hl.held a ha) hc ▸ ha)
    exact ⟨fun a ha => absurd ha (hnobody a),fun _ => hfree,halone⟩

theorem Marked.turn (h : Marked free tag mark owns) (htag : ∀ a,tag a ≠ free)
    (ht : Turn free tag mark mark' owns owns') : Marked free tag mark' owns' := by
  cases ht with
  | leaves hl => exact h.leaves hl
  | taken a hfree hmark hnew =>
    have honly : ∀ b,owns' b → b = a := fun b hb =>
      ((hnew b).mp hb).resolve_right (h.not_owns htag hfree b)
    refine ⟨fun b hb => ?_,fun hnone => ?_,fun b c hb hc => (honly b hb).trans (honly c hc).symm⟩
    · rw [honly b hb]
      exact hmark
    · exact absurd ((hnew a).mpr (.inl rfl)) (hnone a)

/-- A resource is never handed over in one step. -/
theorem Turn.same_owner (ht : Turn free tag mark mark' owns owns')
    (h : Marked free tag mark owns) (htag : ∀ a,tag a ≠ free) {a b : α} (ha : owns a)
    (hb : owns' b) : b = a := by
  cases ht with
  | leaves hl => exact h.alone b a (hl.held b hb) ha
  | taken c hfree hmark hnew => exact absurd ha (h.not_owns htag hfree a)

theorem Turn.followed (ht : Turn free tag mark mark' owns owns')
    (htag : ∀ a,tag a ≠ free) (hnone : mark = free → ∀ a,¬owns a)
    (hl : Leaves free tag mark' mark'' owns' owns'') : Turn free tag mark mark'' owns owns'' := by
  cases ht with
  | leaves hfirst => exact .leaves (hfirst.trans htag hl)
  | taken a hfree hmark hnew =>
    have hnobody := hnone hfree
    have honly : ∀ b,owns'' b → b = a := fun b hb =>
      ((hnew b).mp (hl.held b hb)).resolve_right (hnobody b)
    by_cases ha : owns'' a
    · refine .taken a hfree ?_ fun b => ⟨fun hb => .inl (honly b hb),fun hb => ?_⟩
      · rcases hl.mark with hsame | ⟨-,c,hc,hgone⟩
        · exact hsame.trans hmark
        · have hca : c = a := ((hnew c).mp hc).resolve_right (hnobody c)
          exact absurd (hca ▸ ha) hgone
      · rw [hb.resolve_right (hnobody b)]
        exact ha
    · refine .leaves (.kept ?_ fun b => iff_of_false (fun hb => ha (honly b hb ▸ hb)) (hnobody b))
      have hne := hl.freed a ((hnew a).mpr (.inl rfl)) ha
      rcases hl.mark with hsame | ⟨hgone,-⟩
      · exact absurd (hsame.trans hmark) hne
      · rw [hgone,hfree]

variable {ι : β → α} {own own' : β → Prop}

/-- Owners of one kind among the owners of all kinds; those of other kinds stay. -/
theorem Leaves.embed (hown : ∀ b,owns (ι b) ↔ own b) (hown' : ∀ b,owns' (ι b) ↔ own' b)
    (hrest : ∀ a,(∀ b,a ≠ ι b) → (owns' a ↔ owns a))
    (h : Leaves free (tag ∘ ι) mark mark' own own') : Leaves free tag mark mark' owns owns' := by
  refine ⟨fun a ha => ?_,?_,fun a ha hn => ?_⟩
  · by_cases hkind : ∃ b,a = ι b
    · obtain ⟨b,rfl⟩ := hkind
      exact (hown b).mpr (h.held b ((hown' b).mp ha))
    · exact (hrest a fun b hb => hkind ⟨b,hb⟩).mp ha
  · rcases h.mark with hsame | ⟨hfree,b,hb,hn⟩
    · exact .inl hsame
    · exact .inr ⟨hfree,ι b,(hown b).mpr hb,fun hc => hn ((hown' b).mp hc)⟩
  · by_cases hkind : ∃ b,a = ι b
    · obtain ⟨b,rfl⟩ := hkind
      exact h.freed b ((hown b).mp ha) fun hc => hn ((hown' b).mpr hc)
    · exact absurd ((hrest a fun b hb => hkind ⟨b,hb⟩).mpr ha) hn

theorem Turn.embed (hinj : Function.Injective ι) (hown : ∀ b,owns (ι b) ↔ own b)
    (hown' : ∀ b,owns' (ι b) ↔ own' b) (hrest : ∀ a,(∀ b,a ≠ ι b) → (owns' a ↔ owns a))
    (h : Turn free (tag ∘ ι) mark mark' own own') : Turn free tag mark mark' owns owns' := by
  cases h with
  | leaves hl => exact .leaves (hl.embed hown hown' hrest)
  | taken c hfree hmark hnew =>
    refine .taken (ι c) hfree hmark fun a => ?_
    by_cases hkind : ∃ b,a = ι b
    · obtain ⟨b,rfl⟩ := hkind
      rw [hown,hown',hnew,hinj.eq_iff]
    · have hother : ∀ b,a ≠ ι b := fun b hb => hkind ⟨b,hb⟩
      rw [hrest a hother]
      exact ⟨.inr,fun h => h.resolve_left (hother c)⟩

end Ownership
end L850GL
