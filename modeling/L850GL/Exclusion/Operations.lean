import L850GL.Exclusion.Steps

/-! The events of the other four kinds of operations. -/
namespace L850GL
namespace Exclusion

open Bridge Cooldown Mutation Ownership

variable {w w' : World} {ref : ModemRef}

section

variable {advanced : Advanced.World} {event : Advanced.Event}

theorem advancedEnds_fresh {before after : Advanced.World} (h : Advanced.Ends before after)
    (hfresh : ∀ ref : Advanced.OperationRef,before.next ≤ ref →
      (before.slots ref).memory = none) (ref : Advanced.OperationRef) (hle : after.next ≤ ref) :
    (after.slots ref).memory = none := by
  by_contra hsome
  obtain ⟨op,hop⟩ := Option.ne_none_iff_exists'.mp hsome
  have hheld := (h.leaves op.modem).held ref ⟨op,hop,rfl⟩
  obtain ⟨before',hbefore,-⟩ := hheld
  rw [hfresh ref (h.next ▸ hle)] at hbefore
  cases hbefore

theorem advanced_works (hturns : Bridge.Turns Advanced.tag w.bridge advanced.bridge
    (Advanced.Owns w.advanced) (Advanced.Owns advanced))
    (h : (∀ ref op,Advanced.Owns advanced ref op → Advanced.Owns w.advanced ref op) ∨
      ∃ target,Spare w.tables (w.bridge.modems target) target ∧ ∀ ref op,
        Advanced.Owns advanced ref op →
          Advanced.Owns w.advanced ref op ∨ ref = target ∧ op = w.advanced.next) :
    Works w {w with bridge := advanced.bridge,advanced := advanced} := by
  have hturned : Turned w {w with bridge := advanced.bridge,advanced := advanced} :=
    advanced_turned hturns rfl rfl
  refine ⟨hturned,rfl,?_,fun _ _ => .inl⟩
  rcases h with hold | ⟨target,hspare,hnew⟩
  · refine .shrinks (fun ref activity huses => ?_) fun _ _ => id
    cases activity with
    | advanced op => exact hold ref op huses
    | mutation index => exact (uses_mutation w {w with
        bridge := advanced.bridge,advanced := advanced} hturns.same rfl ref index).mp huses
    | _ => exact huses
  · refine .starts (.advanced w.advanced.next) target hspare (fun ref activity huses => ?_)
      fun _ _ => .inl
    cases activity with
    | advanced op =>
      rcases hnew ref op huses with hold | ⟨hr,hop⟩
      · exact .inl hold
      · exact .inr ⟨by rw [hop],.inl hr⟩
    | mutation index => exact .inl ((uses_mutation w {w with
        bridge := advanced.bridge,advanced := advanced} hturns.same rfl ref index).mp huses)
    | _ => exact .inl huses

/-- The marks of band and mode changes among those of all owners. -/
theorem Inv.advanced_marked (hw : Inv w) {ref : ModemRef}
    (hidle : (w.bridge.modems ref).mark = Modem.unmarked) (op : Advanced.OperationRef) :
    ¬Advanced.Owns w.advanced ref op :=
  (hw.marked ref).not_owns Owner.tag_ne_unmarked hidle (.advanced op)

theorem advanced_kept (hw : Inv w) (hs : Advanced.step w.advancedAt
    ((event.withTables w.tables).withBridge w.bridge) = some advanced) :
    Kept w {w with bridge := advanced.bridge,advanced := advanced} := by
  have hkept : (∀ ref : Advanced.OperationRef,advanced.next ≤ ref →
      (advanced.slots ref).memory = none) →
      Works w {w with bridge := advanced.bridge,advanced := advanced} →
      Kept w {w with bridge := advanced.bridge,advanced := advanced} := fun hfresh hworks =>
    ⟨⟨hw.pending,hw.tidy,hfresh,hw.reachable,hw.devices,hworks.marked hw,
      fun ref hle => hworks.unborn hw hle,hw.voltage.same hworks.same rfl rfl rfl⟩,.inl hworks⟩
  rcases Advanced.step_ends w.advancedAt w.bridge hs with
    hends | ⟨target,type,hspare,hends⟩
  · refine hkept (advancedEnds_fresh hends hw.fresh) (advanced_works hends.turns (.inl ?_))
    exact fun ref op => (hends.leaves ref).held op
  · have hidle := hw.clean hspare.idle
    have hnew := Advanced.advancedOperationNew_turns w.advancedAt target type
      (hw.fresh w.advanced.next (Nat.le_refl _)) hidle
    have howns : ∀ ref op,Advanced.Owns (Advanced.advancedOperationNew w.advancedAt target type)
        ref op → Advanced.Owns w.advanced ref op ∨ ref = target ∧ op = w.advanced.next := by
      rintro ref op ⟨operation,hmemory,hmodem⟩
      by_cases hop : op = w.advanced.next
      · subst hop
        rw [show (Advanced.advancedOperationNew w.advancedAt target type).slots w.advanced.next =
          (Advanced.advancedOperationNew w.advancedAt target type).slots w.advancedAt.next from rfl,
          Advanced.advancedOperationNew_memory,Option.some.injEq] at hmemory
        subst hmemory
        exact .inr ⟨hmodem.symm,rfl⟩
      · rw [Advanced.advancedOperationNew_slot w.advancedAt target type hop] at hmemory
        exact .inl ⟨operation,hmemory,hmodem⟩
    have hturned : Bridge.Turns Advanced.tag w.bridge advanced.bridge (Advanced.Owns w.advanced)
        (Advanced.Owns advanced) :=
      ⟨hnew.same.trans hends.same,fun ref => (hnew.turn ref).followed Advanced.tag_ne_unmarked
        (fun hfree => hw.advanced_marked hfree) (hends.leaves ref)⟩
    refine hkept (advancedEnds_fresh hends fun op hle => ?_) (advanced_works hturned
      (.inr ⟨target,hspare,fun ref op howned => howns ref op ((hends.leaves ref).held op howned)⟩))
    have hle' : w.advanced.next+1 ≤ op := hle
    rw [Advanced.advancedOperationNew_slot (w.advancedAt.refresh w.bridge) target type
      (Nat.ne_of_gt hle')]
    exact hw.fresh op (Nat.le_trans (Nat.le_succ _) hle')

end

section

variable {index : Nat} {s t : Mutation.State} {event : Mutation.Event}

theorem getElem?_set_other {mutations : List Mutation.State} {other : Nat} (h : other ≠ index) :
    (mutations.set index t)[other]? = mutations[other]? := by
  rw [List.getElem?_set_ne (Ne.symm h)]

/-- The lock operations stay on their devices. -/
theorem OneEach.set (h : OneEach w) (hget : w.mutations[index]? = some s)
    (hdevice : t.operation.physdev = s.operation.physdev)
    (hlive : t.released = false → s.released = false)
    (hmutations : w'.mutations = w.mutations.set index t) : OneEach w' := by
  have hindex : (w.mutations.set index t)[index]? = some t := by
    rw [List.getElem?_set_self (List.getElem?_eq_some_iff.mp hget).1]
  have hbefore : ∀ (i : Nat) (u : Mutation.State),w'.mutations[i]? = some u →
      u.released = false → ∃ v,w.mutations[i]? = some v ∧ v.released = false ∧
        v.operation.physdev = u.operation.physdev := by
    intro i u hu hl
    rw [hmutations] at hu
    by_cases hi : i = index
    · rw [hi,hindex,Option.some.injEq] at hu
      subst hu
      exact ⟨s,hi ▸ hget,hlive hl,hdevice.symm⟩
    · rw [getElem?_set_other hi] at hu
      exact ⟨u,hu,hl,rfl⟩
  intro i j u v hu hv hlu hlv hsame
  obtain ⟨u',hu',hlu',hdu⟩ := hbefore i u hu hlu
  obtain ⟨v',hv',hlv',hdv⟩ := hbefore j v hv hlv
  exact h i j u' v' hu' hv' hlu' hlv' (hdu.trans (hsame.trans hdv.symm))

/-- What an event does to the records of a lock operation, at any time of its life. -/
theorem mutation_moves (hw : Inv w) (hreach : mutationSystem.Reachable s)
    (hs : Mutation.step s (event.withBridge w.bridge) = some t) :
    Bridge.Turns Mutation.tag w.bridge (w.bridge.refresh t.bridge) (Mutation.Owns s)
        (Mutation.Owns t) ∧
      t.operation.physdev = s.operation.physdev ∧
      (t.released = false → s.released = false ∧ t.operation.original = s.operation.original) ∧
      ∀ ref,Mutation.Owns t ref () → Mutation.Owns s ref () ∨
        (w.bridge.modems ref).live = true := by
  by_cases hlive : s.released = false
  · obtain ⟨u,hbridge,hreleased,hoperation,hhandles⟩ := (step_marks hreach hlive hs).turned
    have howns : Mutation.Owns u = Mutation.Owns s := by
      funext ref x
      rw [Mutation.Owns,Mutation.Owns,hreleased,hoperation]
    have hsettled : Settled u.operation := by
      rw [hoperation]
      refine (reachable_settled hreach).1.resolve_left ?_
      rw [hlive]
      decide
    rw [Event.withBridge_bridge] at hbridge
    have hturns := hhandles.turns (hreleased.trans hlive) hsettled fun ref hidle => by
      rw [State.modem,hbridge] at hidle ⊢
      exact hw.clean hidle
    rw [hbridge,howns] at hturns
    refine ⟨hturns.refresh _,?_,fun hl => ⟨hlive,?_⟩,fun ref ho => ?_⟩
    · rw [hhandles.device.1,hoperation]
    · rw [hhandles.original hl,hoperation]
    · have hfound := hhandles.owns ho
      rw [State.modem,hbridge,howns] at hfound
      exact hfound
  · obtain ⟨object,hinv | ⟨wait,hwait⟩⟩ := reachable_inv hreach
    · obtain ⟨hoperation,hreleased,-,hbridge,-⟩ := step_released_still hinv hs
      have howns : ∀ ref x,Mutation.Owns t ref x ↔ Mutation.Owns s ref x := by
        intro ref x
        rw [Mutation.Owns,Mutation.Owns,hoperation,hreleased]
      rw [Event.withBridge_bridge] at hbridge
      refine ⟨Turns.refresh s.bridge ?_,by rw [hoperation],
        fun hl => ⟨hreleased ▸ hl,by rw [hoperation]⟩,fun ref ho => .inl ((howns ref ()).mp ho)⟩
      rw [← hbridge]
      exact (Releases.of_same rfl howns).turns
    · exact absurd hwait.idle.live hlive

theorem mutation_kept (hw : Inv w) (hget : w.mutations[index]? = some s)
    (hs : Mutation.step s (event.withBridge w.bridge) = some t) :
    Kept w {w with bridge := w.bridge.refresh t.bridge,mutations := w.mutations.set index t} := by
  have hreach := hw.reachable s (List.mem_of_getElem? hget)
  have hself : (w.mutations.set index t)[index]? = some t := by
    rw [List.getElem?_set_self (List.getElem?_eq_some_iff.mp hget).1]
  obtain ⟨hturns,hdevice,hstill,howned⟩ := mutation_moves hw hreach hs
  have hown : ∀ ref,Owns w ref (.mutation index) ↔ Mutation.Owns s ref () := by
    intro ref
    simp [Owns,hget]
  have hown' : ∀ ref,Owns {w with
      bridge := w.bridge.refresh t.bridge,mutations := w.mutations.set index t} ref
        (.mutation index) ↔ Mutation.Owns t ref () := by
    intro ref
    simp [Owns,hself]
  have hturned : Turned w {w with
      bridge := w.bridge.refresh t.bridge,mutations := w.mutations.set index t} :=
    mutation_turned hturns hown hown' (fun other => getElem?_set_other) rfl rfl
  have hworks : Works w {w with
      bridge := w.bridge.refresh t.bridge,mutations := w.mutations.set index t} := by
    refine ⟨hturned,rfl,.shrinks (fun ref activity huses => ?_) fun ref other htargets => ?_,
      fun ref other howns => ?_⟩
    · cases activity with
      | mutation other =>
        obtain ⟨u,hu,hlive,hon⟩ := huses
        rw [hturned.same.physdev] at hon
        by_cases ho : other = index
        · subst ho
          rw [hself,Option.some.injEq] at hu
          subst hu
          exact ⟨s,hget,(hstill hlive).1,hdevice ▸ hon⟩
        · rw [getElem?_set_other ho] at hu
          exact ⟨u,hu,hlive,hon⟩
      | _ => exact huses
    · obtain ⟨u,hu,hlive,horiginal⟩ := htargets
      by_cases ho : other = index
      · subst ho
        rw [hself,Option.some.injEq] at hu
        subst hu
        exact ⟨s,hget,(hstill hlive).1,(hstill hlive).2 ▸ horiginal⟩
      · rw [getElem?_set_other ho] at hu
        exact ⟨u,hu,hlive,horiginal⟩
    · by_cases ho : other = index
      · subst ho
        rcases howned ref ((hown' ref).mp howns) with hold | hlive
        · exact .inl ((hown ref).mpr hold)
        · exact .inr hlive
      · obtain ⟨u,hu,howned⟩ := howns
        rw [getElem?_set_other ho] at hu
        exact .inl ⟨u,hu,howned⟩
  refine ⟨⟨hw.pending,hw.tidy,hw.fresh,fun u hu => ?_,hw.devices.set hget hdevice
      (fun hlive => (hstill hlive).1) rfl,
    hworks.marked hw,fun ref hle => hworks.unborn hw hle,
    hw.voltage.same hworks.same rfl rfl rfl⟩,.inl hworks⟩
  rcases List.mem_or_eq_of_mem_set hu with hmem | rfl
  · exact hw.reachable u hmem
  · exact .step hreach trivial hs

/-- A request for a lock starts the operation with the next number. -/
theorem admission_kept {admission : Admission} (hw : Inv w)
    (h : ∀ s,admission = .started s → Mutation.Begins w.tables w.bridge s ∧
      mutationSystem.Reachable s) : Kept w (w.admission admission) := by
  cases admission with
  | refused reply =>
    have hturned : Turned w w := (Releases.of_same rfl fun _ _ => Iff.rfl).turns
    exact ⟨hw,.inl ⟨hturned,rfl,.shrinks (fun _ _ => id) fun _ _ => id,fun _ _ => .inl⟩⟩
  | started s =>
    obtain ⟨hbegins,hreach⟩ := h s rfl
    have hself : (w.mutations++[s])[w.mutations.length]? = some s := by simp
    have hother : ∀ other,other ≠ w.mutations.length →
        (w.mutations++[s])[other]? = w.mutations[other]? := by
      intro other ho
      rcases Nat.lt_or_gt_of_ne ho with hlt | hgt
      · rw [List.getElem?_append_left hlt]
      · rw [List.getElem?_eq_none (by simp; omega),List.getElem?_eq_none (by omega)]
    have hown : ∀ ref,Owns w ref (.mutation w.mutations.length) ↔ False := by
      intro ref
      simp [Owns]
    have hown' : ∀ ref,Owns (w.admission (.started s)) ref (.mutation w.mutations.length) ↔
        Mutation.Owns s ref () := by
      intro ref
      simp [Owns,World.admission]
    have hnew : ∀ ref,Mutation.Owns s ref () ↔ ref = s.operation.original := by
      intro ref
      simp [Mutation.Owns,hbegins.live,hbegins.replacement]
    have hturns : Bridge.Turns Mutation.tag w.bridge (w.bridge.refresh s.bridge)
        (fun _ _ => False) (Mutation.Owns s) := by
      refine Turns.refresh w.bridge ?_
      rw [hbegins.written]
      refine .take (b:=()) (hw.clean hbegins.spare.idle) rfl rfl fun other x => ?_
      rw [hnew]
      simp
    have hturned : Turned w (w.admission (.started s)) :=
      mutation_turned hturns hown hown' hother rfl rfl
    have huses : ∀ ref activity,Uses (w.admission (.started s)) ref activity →
        Uses w ref activity ∨ activity = .mutation w.mutations.length ∧
          Reaches w (.mutation w.mutations.length) s.operation.original ref := by
      intro ref activity huses
      cases activity with
      | mutation other =>
        obtain ⟨u,hu,hlive,hon⟩ := huses
        rw [hturned.same.physdev] at hon
        by_cases ho : other = w.mutations.length
        · subst ho
          simp only [World.admission,hself,Option.some.injEq] at hu
          subst hu
          exact .inr ⟨rfl,.inr ⟨⟨_,rfl⟩,_,hbegins.device,hon⟩⟩
        · simp only [World.admission,hother other ho] at hu
          exact .inl ⟨u,hu,hlive,hon⟩
      | _ => exact .inl huses
    have hworks : Works w (w.admission (.started s)) := by
      refine ⟨hturned,rfl,.starts _ _ hbegins.spare huses fun ref other htargets => ?_,
        fun ref other howns => ?_⟩
      · obtain ⟨u,hu,hlive,horiginal⟩ := htargets
        by_cases ho : other = w.mutations.length
        · subst ho
          simp only [World.admission,hself,Option.some.injEq] at hu
          subst hu
          exact .inr ⟨rfl,horiginal.symm⟩
        · simp only [World.admission,hother other ho] at hu
          exact .inl ⟨u,hu,hlive,horiginal⟩
      by_cases ho : other = w.mutations.length
      · subst ho
        rw [hown',hnew] at howns
        exact .inr (howns ▸ hbegins.spare.live)
      · obtain ⟨u,hu,howned⟩ := howns
        simp only [World.admission,hother other ho] at hu
        exact .inl ⟨u,hu,howned⟩
    refine ⟨⟨hw.pending,hw.tidy,hw.fresh,fun u hu => ?_,fun i j u v hu hv hlu hlv hsame => ?_,
      hworks.marked hw,fun ref hle => hworks.unborn hw hle,
      hw.voltage.same hworks.same rfl rfl rfl⟩,.inl hworks⟩
    · rcases List.mem_append.mp hu with hmem | hmem
      · exact hw.reachable u hmem
      · rw [List.mem_singleton.mp hmem]
        exact hreach
    · have hapart : ∀ (k : Nat) (x : Mutation.State),k ≠ w.mutations.length →
          (w.mutations++[s])[k]? = some x → x.released = false →
          x.operation.physdev ≠ s.operation.physdev := by
        intro k x hk hx hl
        rw [hother k hk] at hx
        exact hw.mutation_free hbegins.device hbegins.spare.mutation hx hl
      have hu' : (w.mutations++[s])[i]? = some u := hu
      have hv' : (w.mutations++[s])[j]? = some v := hv
      by_cases hi : i = w.mutations.length
      · by_cases hj : j = w.mutations.length
        · rw [hi,hj]
        · subst hi
          rw [hself,Option.some.injEq] at hu'
          subst hu'
          exact absurd hsame.symm (hapart j v hj hv' hlv)
      · by_cases hj : j = w.mutations.length
        · subst hj
          rw [hself,Option.some.injEq] at hv'
          subst hv'
          exact absurd hsame (hapart i u hi hu' hlu)
        · rw [hother i hi] at hu'
          rw [hother j hj] at hv'
          exact hw.devices i j u v hu' hv' hlu hlv hsame

end

end Exclusion
end L850GL
