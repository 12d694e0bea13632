import L850GL.Exclusion.Ownership

/-! What each event of a bridge does to its records, their owners and what is in progress on
them. -/
namespace L850GL
namespace Exclusion

open Bridge Cooldown Mutation Ownership Sms

variable {w w' : World} {ref : ModemRef} {owner : Owner} {sha256 : CString → Digest}
  {random : Nat → Option (Vector UInt8 16)}

/-- A record is made or removed. -/
structure Renews (w w' : World) : Prop where
  uses : ∀ ref activity,Uses w' ref activity → Uses w ref activity
  owns : ∀ ref owner,Owns w' ref owner ↔ Owns w ref owner
  marks : ∀ ref,(w'.bridge.modems ref).mark = (w.bridge.modems ref).mark
  live : ∀ ref,(w'.bridge.modems ref).live = true →
    (w.bridge.modems ref).live = true ∨ Unborn w ref
  physdev : ∀ ref,(w'.bridge.modems ref).physdev = (w.bridge.modems ref).physdev
  mutations : w'.mutations = w.mutations

/-- The invariant, and how the step came about. -/
structure Kept (w w' : World) : Prop where
  inv : Inv w'
  step : Works w w' ∨ Renews w w'

theorem Works.marked (h : Works w w') (hw : Inv w) (ref : ModemRef) :
    Marked Modem.unmarked Owner.tag (w'.bridge.modems ref).mark (Owns w' ref) :=
  (hw.marked ref).turn Owner.tag_ne_unmarked (h.turn ref)

/-- A lock operation is on the records of its device, which no step changes. -/
theorem uses_mutation (w w' : World) (hsame : SameRecords w.bridge w'.bridge)
    (hmutations : w'.mutations = w.mutations) (ref : ModemRef) (index : Nat) :
    Uses w' ref (.mutation index) ↔ Uses w ref (.mutation index) := by
  rw [Uses,Uses,hmutations,hsame.physdev]

section

variable {sms : Sms.World} {event : Sms.Event} {status : ModemRef → Status.ModemStatus}

theorem sms_progress (hsame : SameRecords w.bridge sms.bridge)
    (h : (∀ ref op,Sms.Owns sms ref op → Sms.Owns w.sms ref op) ∨ ∃ target,
      Spare w.tables (w.bridge.modems target) target ∧ ∀ ref op,Sms.Owns sms ref op →
        Sms.Owns w.sms ref op ∨ ref = target ∧ op = w.sms.next) :
    Progress w {w with bridge := sms.bridge,sms := sms,status := status} := by
  rcases h with hold | ⟨target,hspare,hnew⟩
  · refine .shrinks (fun ref activity huses => ?_) fun _ _ => id
    cases activity with
    | sms op => exact hold ref op huses
    | mutation index => exact (uses_mutation w {w with
        bridge := sms.bridge,sms := sms,status := status} hsame rfl ref index).mp huses
    | _ => exact huses
  · refine .starts (.sms w.sms.next) target hspare (fun ref activity huses => ?_) fun _ _ => .inl
    cases activity with
    | sms op =>
      rcases hnew ref op huses with hold | ⟨hr,hop⟩
      · exact .inl hold
      · exact .inr ⟨by rw [hop],.inl hr⟩
    | mutation index => exact .inl ((uses_mutation w {w with
        bridge := sms.bridge,sms := sms,status := status} hsame rfl ref index).mp huses)
    | _ => exact .inl huses

theorem admitModem_renews (status : ModemRef → Status.ModemStatus) (hw : Inv w)
    (hsms : sms = Sms.admitModem w.smsAt) :
    Renews w {w with bridge := sms.bridge,sms := sms,status := status} := by
  have hunborn := hw.unborn w.sms.admitted (Nat.le_refl _)
  have hother : ∀ other,other ≠ w.sms.admitted →
      sms.bridge.modems other = w.bridge.modems other := by
    intro other ho
    rw [hsms]
    exact updateModem_other _ _ ho
  have hself : sms.bridge.modems w.sms.admitted =
      {(w.bridge.modems w.sms.admitted).clearMutation with
        live := true,servingCell := none,voltageRefreshPending := false} := by
    rw [hsms]
    exact updateModem_self _ _ _
  have hphysdev : ∀ ref,(sms.bridge.modems ref).physdev = (w.bridge.modems ref).physdev := by
    intro ref
    by_cases hr : ref = w.sms.admitted
    · rw [hr,hself]
      rfl
    · rw [hother ref hr]
  have hclear : (w.bridge.modems w.sms.admitted).mark = Modem.unmarked := by
    refine (hw.marked w.sms.admitted).idle fun owner howns => ?_
    cases owner with
    | sms op =>
      obtain ⟨index,hindex⟩ := hunborn.unused (.sms op) howns
      cases hindex
    | advanced op =>
      obtain ⟨index,hindex⟩ := hunborn.unused (.advanced op) howns
      cases hindex
    | mutation index => exact hunborn.unowned index howns
  have howns : ∀ ref op,Sms.Owns sms ref op ↔ Sms.Owns w.sms ref op := by
    intro ref op
    rw [hsms]
    exact Iff.rfl
  refine ⟨fun ref activity huses => ?_,fun ref owner => ?_,fun ref => ?_,fun ref hlive => ?_,
    hphysdev,rfl⟩
  · cases activity with
    | sms op => exact (howns ref op).mp huses
    | mutation index =>
      obtain ⟨s,hs,hlive,hdevice⟩ := huses
      exact ⟨s,hs,hlive,(hphysdev ref).symm.trans hdevice⟩
    | _ => exact huses
  · cases owner with
    | sms op => exact howns ref op
    | _ => exact Iff.rfl
  · by_cases hr : ref = w.sms.admitted
    · rw [hr,hclear]
      show (sms.bridge.modems w.sms.admitted).mark = Modem.unmarked
      rw [hself]
      rfl
    · show (sms.bridge.modems ref).mark = _
      rw [hother ref hr]
  · by_cases hr : ref = w.sms.admitted
    · exact .inr (hr ▸ hunborn)
    · left
      rw [← hother ref hr]
      exact hlive

/-- A removed record, with its caches dropped. -/
theorem markRemoved_renews (status : ModemRef → Status.ModemStatus)
    (hsms : sms = Sms.markRemoved w.smsAt ref) :
    Renews w {w with bridge := sms.bridge,sms := sms,status := status} := by
  obtain ⟨-,hbridge,howns⟩ := Sms.markRemoved_records w.smsAt ref
  rw [← hsms] at hbridge howns
  have hother : ∀ other,other ≠ ref → sms.bridge.modems other = w.bridge.modems other := by
    intro other ho
    rw [hbridge]
    exact updateModem_other _ _ ho
  have hself : sms.bridge.modems ref = (w.bridge.modems ref).modemMarkRemoved := by
    rw [hbridge]
    exact updateModem_self _ _ _
  have hphysdev : ∀ other,(sms.bridge.modems other).physdev = (w.bridge.modems other).physdev := by
    intro other
    by_cases ho : other = ref
    · rw [ho,hself]
      rfl
    · rw [hother other ho]
  refine ⟨fun other activity huses => ?_,fun other owner => ?_,fun other => ?_,
    fun other hlive => ?_,hphysdev,rfl⟩
  · cases activity with
    | sms op => exact (howns other op).mp huses
    | mutation index =>
      obtain ⟨s,hs,hlive,hdevice⟩ := huses
      exact ⟨s,hs,hlive,(hphysdev other).symm.trans hdevice⟩
    | _ => exact huses
  · cases owner with
    | sms op => exact howns other op
    | _ => exact Iff.rfl
  · show (sms.bridge.modems other).mark = _
    by_cases ho : other = ref
    · rw [ho,hself]
      rfl
    · rw [hother other ho]
  · left
    by_cases ho : other = ref
    · have hdead : (sms.bridge.modems other).live = true := hlive
      rw [ho,hself] at hdead
      cases hdead
    · rw [← hother other ho]
      exact hlive

theorem Renews.marked (h : Renews w w') (hw : Inv w) (ref : ModemRef) :
    Marked Modem.unmarked Owner.tag (w'.bridge.modems ref).mark (Owns w' ref) :=
  (hw.marked ref).leaves (.kept (h.marks ref) (h.owns ref))

theorem smsEnds_works (h : Sms.Ends w.smsAt sms) :
    Works w {w with bridge := sms.bridge,sms := sms,status := status} := by
  have hturned : Turned w {w with bridge := sms.bridge,sms := sms,status := status} :=
    sms_turned h.turns rfl rfl
  exact ⟨hturned,h.admitted,sms_progress h.same (.inl fun ref op => (h.leaves ref).held op),
    fun _ _ => .inl⟩

theorem smsBegins_works {target : ModemRef} (hw : Inv w)
    (h : Sms.Begins w.tables w.smsAt sms target) :
    Works w {w with bridge := sms.bridge,sms := sms,status := status} := by
  have hturns := h.turns (hw.clean h.spare.idle)
  have hturned : Turned w {w with bridge := sms.bridge,sms := sms,status := status} :=
    sms_turned hturns rfl rfl
  exact ⟨hturned,h.admitted,sms_progress hturns.same
    (.inr ⟨target,h.spare,fun ref op => (h.owns ref op).mp⟩),fun _ _ => .inl⟩

/-- The queries of the live records are those of before, and so is what these wait for. -/
theorem VoltageSound.narrows (h : VoltageSound w) (hqueries : w'.queries = w.queries)
    (hnext : w'.nextQuery = w.nextQuery)
    (hgeneration : ∀ ref,(w'.bridge.modems ref).generation = (w.bridge.modems ref).generation)
    (hproxy : ∀ ref,(w'.bridge.modems ref).modem = (w.bridge.modems ref).modem)
    (hlive : ∀ id query,w.queries id = some query → (w'.bridge.modems query.modem).live = true →
      (w.bridge.modems query.modem).live = true ∧ w'.status query.modem = w.status query.modem) :
    VoltageSound w' := by
  refine ⟨fun id query hquery => ?_,fun id query hquery hl => ?_,
    fun id id' query query' hquery hquery' hmodem hl => ?_⟩
  · rw [hqueries] at hquery
    rw [hnext,hgeneration,hproxy]
    exact h.known id query hquery
  · rw [hqueries] at hquery
    obtain ⟨hbefore,hstatus⟩ := hlive id query hquery hl
    rw [hstatus]
    exact h.pending id query hquery hbefore
  · rw [hqueries] at hquery hquery'
    exact h.one id id' query query' hquery hquery' hmodem (hlive id query hquery hl).1

theorem smsRemoved_kept (hw : Inv w) (hpending : Sms.Pending sms none)
    (hsms : sms = Sms.markRemoved w.smsAt ref) (hstatus : status =
      Function.update w.status ref (w.status ref).markRemoved) :
    Kept w {w with bridge := sms.bridge,sms := sms,status := status} := by
  have hrenews := markRemoved_renews status hsms
  obtain ⟨hadmitted,hbridge,-⟩ := Sms.markRemoved_records w.smsAt ref
  rw [← hsms] at hadmitted hbridge
  have hmodems : ∀ other,sms.bridge.modems other = if other = ref then
      (w.bridge.modems ref).modemMarkRemoved else w.bridge.modems other := by
    intro other
    rw [hbridge]
    by_cases ho : other = ref
    · rw [if_pos ho,ho,updateModem_self]
      rfl
    · rw [if_neg ho,updateModem_other _ _ ho]
      rfl
  refine ⟨⟨hpending,hw.tidy,hw.fresh,hw.reachable,hw.devices,hrenews.marked hw,
    fun other hle => ?_,hw.voltage.narrows rfl rfl (fun other => ?_) (fun other => ?_)
      fun id query hquery hlive => ?_⟩,.inr hrenews⟩
  · have hbefore := hw.unborn other (hadmitted ▸ hle)
    refine ⟨?_,fun activity huses => hbefore.unused activity (hrenews.uses other activity huses),
      fun index howns => hbefore.unowned index ((hrenews.owns other _).mp howns)⟩
    show (sms.bridge.modems other).live = false
    rw [hmodems]
    split
    · rfl
    · exact hbefore.live
  · show (sms.bridge.modems other).generation = _
    rw [hmodems]
    split
    · rename_i ho
      rw [ho]
      rfl
    · rfl
  · show (sms.bridge.modems other).modem = _
    rw [hmodems]
    split
    · rename_i ho
      rw [ho]
      rfl
    · rfl
  · have hshown : (sms.bridge.modems query.modem).live = true := hlive
    have hne : query.modem ≠ ref := by
      intro he
      rw [hmodems,if_pos he] at hshown
      cases hshown
    rw [hmodems,if_neg hne] at hshown
    refine ⟨hshown,?_⟩
    show status query.modem = _
    rw [hstatus,Function.update_of_ne hne]

theorem smsAdmitted_kept (hw : Inv w) (hpending : Sms.Pending sms none)
    (hsms : sms = Sms.admitModem w.smsAt) (hstatus : ∀ other,other ≠ w.sms.admitted →
      status other = w.status other) :
    Kept w {w with bridge := sms.bridge,sms := sms,status := status} := by
  have hrenews := admitModem_renews status hw hsms
  have hadmitted : sms.admitted = w.sms.admitted+1 := by
    rw [hsms]
    rfl
  have hother : ∀ other,other ≠ w.sms.admitted →
      sms.bridge.modems other = w.bridge.modems other := by
    intro other ho
    rw [hsms]
    exact updateModem_other _ _ ho
  have hself : sms.bridge.modems w.sms.admitted =
      {(w.bridge.modems w.sms.admitted).clearMutation with
        live := true,servingCell := none,voltageRefreshPending := false} := by
    rw [hsms]
    exact updateModem_self _ _ _
  refine ⟨⟨hpending,hw.tidy,hw.fresh,hw.reachable,hw.devices,hrenews.marked hw,
    fun other hle => ?_,hw.voltage.narrows rfl rfl (fun other => ?_) (fun other => ?_)
      fun id query hquery hlive => ?_⟩,.inr hrenews⟩
  · have hle' : w.sms.admitted+1 ≤ other := hadmitted ▸ hle
    have hbefore := hw.unborn other (Nat.le_trans (Nat.le_succ _) hle')
    refine ⟨?_,fun activity huses => hbefore.unused activity (hrenews.uses other activity huses),
      fun index howns => hbefore.unowned index ((hrenews.owns other _).mp howns)⟩
    show (sms.bridge.modems other).live = false
    rw [hother other (Nat.ne_of_gt hle')]
    exact hbefore.live
  · show (sms.bridge.modems other).generation = _
    by_cases ho : other = w.sms.admitted
    · rw [ho,hself]
      rfl
    · rw [hother other ho]
  · show (sms.bridge.modems other).modem = _
    by_cases ho : other = w.sms.admitted
    · rw [ho,hself]
      rfl
    · rw [hother other ho]
  · have hne : query.modem ≠ w.sms.admitted := by
      intro he
      obtain ⟨index,hindex⟩ := (hw.unborn w.sms.admitted (Nat.le_refl _)).unused (.voltage id)
        ⟨query,hquery,he⟩
      cases hindex
    refine ⟨?_,hstatus query.modem hne⟩
    rw [← hother query.modem hne]
    exact hlive

theorem sms_kept (hw : Inv w) (hs : Sms.handle sha256 random w.smsAt (event.withTables w.tables) =
    some sms) : Kept w {w with bridge := sms.bridge,sms := sms,status := w.statusAfter event} := by
  have hpendingAt : Sms.Pending w.smsAt none := ⟨hw.pending.fresh,hw.pending.count,hw.pending.fits⟩
  have hpending : Sms.Pending sms none := (Sms.handle_effect hpendingAt hs).pending hpendingAt
  have hworks : ∀ {status},status = w.status → Works w {w with
      bridge := sms.bridge,sms := sms,status := status} → Kept w {w with
        bridge := sms.bridge,sms := sms,status := status} := by
    intro status hstatus hworks
    exact ⟨⟨hpending,hw.tidy,hw.fresh,hw.reachable,hw.devices,hworks.marked hw,
      fun ref hle => hworks.unborn hw hle,hw.voltage.same hworks.same rfl rfl hstatus⟩,
      .inl hworks⟩
  by_cases hremoved : ∃ ref,event = .removed ref
  · obtain ⟨ref,rfl⟩ := hremoved
    simp only [Sms.Event.withTables,Sms.handle,Option.ite_none_right_eq_some,
      Option.some.injEq] at hs
    exact smsRemoved_kept hw hpending hs.2.symm rfl
  by_cases hadmitted : event = .admitted
  · subst hadmitted
    simp only [Sms.Event.withTables,Sms.handle,Option.ite_none_left_eq_some,
      Option.some.injEq] at hs
    exact smsAdmitted_kept hw hpending hs.2.symm fun other ho => Function.update_of_ne ho _ _
  have hstatus : w.statusAfter event = w.status := by
    cases event with
    | removed ref => exact absurd ⟨ref,rfl⟩ hremoved
    | admitted => exact absurd rfl hadmitted
    | _ => rfl
  cases Sms.handle_moved hpendingAt hs with
  | ends h => exact hworks hstatus (smsEnds_works h)
  | begins h => exact hworks hstatus (smsBegins_works hw h)
  | admitted h => exact absurd rfl hadmitted
  | removed h => exact absurd ⟨_,rfl⟩ hremoved

end

end Exclusion
end L850GL
