import L850GL.Exclusion.Operations

/-! Whole runs of a bridge. -/
namespace L850GL
namespace Exclusion

open Bridge Cooldown Mutation Ownership Sms

variable {w w' : World} {ref : ModemRef} {sha256 : CString → Digest}
  {random : Nat → Option (Vector UInt8 16)} {event : Event} {report : Bridge}
  {input : Bridge × Event}

section

variable {reads : Reads.World} {event : Reads.Event}

/-- Reads leave the records as they are. -/
theorem readsAt_kept (hw : Inv w) (hsame : reads.bridge = w.bridge) (htidy : Reads.Tidy reads)
    (hprogress : Progress w {w with bridge := reads.bridge,reads := reads}) :
    Kept w {w with bridge := reads.bridge,reads := reads} := by
  have hturned : Turned w {w with bridge := reads.bridge,reads := reads} :=
    (Releases.of_same hsame fun _ owner => by cases owner <;> exact Iff.rfl).turns
  have hworks : Works w {w with bridge := reads.bridge,reads := reads} :=
    ⟨hturned,rfl,hprogress,fun _ _ => .inl⟩
  exact ⟨⟨hw.pending,htidy,hw.fresh,hw.reachable,hw.devices,hworks.marked hw,
    fun ref hle => hworks.unborn hw hle,hw.voltage.same hworks.same rfl rfl rfl⟩,.inl hworks⟩

theorem reads_kept (hw : Inv w) (hs : Reads.step w.readsAt
    ((event.withMutations w.devices).withBridge w.bridge) = some reads) :
    Kept w {w with bridge := reads.bridge,reads := reads} := by
  have htidyAt : Reads.Tidy w.readsAt := ⟨hw.tidy.slots,hw.tidy.fresh,hw.tidy.ubus⟩
  have hsame : reads.bridge = w.bridge := by
    rw [(Reads.step_writes hs).2,Reads.Event.withBridge_bridge]
    rfl
  refine readsAt_kept hw hsame (Reads.step_move htidyAt hs).1 ?_
  have hrest : ∀ {ref : ModemRef} {index : Nat},
      Uses {w with bridge := reads.bridge,reads := reads} ref (.mutation index) →
        Uses w ref (.mutation index) := by
    rintro ref index ⟨s,hget,hlive,hdevice⟩
    rw [hsame] at hdevice
    exact ⟨s,hget,hlive,hdevice⟩
  cases Reads.step_moved w.bridge htidyAt hs with
  | shrinks h =>
    refine .shrinks (fun ref activity huses => ?_) fun _ _ => id
    cases activity with
    | scan op => exact h .scan ref op huses
    | carrier op => exact h .carrier ref op huses
    | mutation index => exact hrest huses
    | _ => exact huses
  | @begins kind target h =>
    have hnew : ∀ (other : Reads.ReadKind) (ref : ModemRef) (op : Reads.OperationRef),
        Reads.Uses reads other ref op → Reads.Uses w.reads other ref op ∨
          other = kind ∧ ref = target ∧ op = w.reads.next := h.uses
    cases kind with
    | status =>
      refine .shrinks (fun ref activity huses => ?_) fun _ _ => id
      cases activity with
      | scan op => exact (hnew .scan ref op huses).resolve_right fun he => by cases he.1
      | carrier op => exact (hnew .carrier ref op huses).resolve_right fun he => by cases he.1
      | mutation index => exact hrest huses
      | _ => exact huses
    | scan =>
      refine .starts (.scan w.reads.next) target (h.spare (by decide))
        (fun ref activity huses => ?_) fun _ _ => .inl
      cases activity with
      | scan op =>
        rcases hnew .scan ref op huses with hold | ⟨-,hr,hop⟩
        · exact .inl hold
        · exact .inr ⟨by rw [hop],.inl hr⟩
      | carrier op =>
        exact .inl ((hnew .carrier ref op huses).resolve_right fun he => by cases he.1)
      | mutation index => exact .inl (hrest huses)
      | _ => exact .inl huses
    | carrier =>
      refine .starts (.carrier w.reads.next) target (h.spare (by decide))
        (fun ref activity huses => ?_) fun _ _ => .inl
      cases activity with
      | carrier op =>
        rcases hnew .carrier ref op huses with hold | ⟨-,hr,hop⟩
        · exact .inl hold
        · exact .inr ⟨by rw [hop],.inl hr⟩
      | scan op => exact .inl ((hnew .scan ref op huses).resolve_right fun he => by cases he.1)
      | mutation index => exact .inl (hrest huses)
      | _ => exact .inl huses

end

/-- What `l850_voltage_refresh` comes to. -/
theorem l850VoltageRefresh_cases (tables : Tables) (modem : Modem) (ref : ModemRef) (now : Int)
    (status : Status.ModemStatus) :
    Status.l850VoltageRefresh tables modem ref now status = status ∨
      modem.live = true ∧ modem.mutationBusy = false ∧
        l850ModemHasActiveMutation tables modem = false ∧
        l850ModemHasActiveScan tables ref = false ∧
        l850ModemHasActiveCarrierQuery tables ref = false ∧
        status.voltageRefreshPending = false ∧
        Status.l850VoltageRefresh tables modem ref now status =
          {status with voltageRefreshPending := true,voltageLastAttemptAt := now} := by
  unfold Status.l850VoltageRefresh
  split
  · exact .inl rfl
  · rename_i h
    simp only [Bool.or_eq_true,not_or,Bool.not_eq_true,Bool.not_eq_false'] at h
    obtain ⟨⟨⟨⟨⟨⟨⟨⟨hlive,hpending⟩,-⟩,-⟩,-⟩,hbusy⟩,hmutation⟩,hscan⟩,hcarrier⟩ := h
    exact .inr ⟨hlive,hbusy,hmutation,hscan,hcarrier,hpending,rfl⟩

/-- The owners and the records of a step that does not touch them. -/
theorem Turned.still (hbridge : w'.bridge = w.bridge) (hsms : w'.sms = w.sms)
    (hadvanced : w'.advanced = w.advanced) (hmutations : w'.mutations = w.mutations) :
    Turned w w' := by
  refine (Releases.of_same hbridge fun ref owner => ?_).turns
  cases owner with
  | sms op => rw [Owns,Owns,hsms]
  | advanced op => rw [Owns,Owns,hadvanced]
  | mutation index => rw [Owns,Owns,hmutations]

theorem voltage_kept {status : ModemRef → Status.ModemStatus} {queries : Nat → Option VoltageQuery}
    (next : Nat) (hw : Inv w)
    (hsound : VoltageSound {w with status := status,queries := queries,nextQuery := next})
    (hprogress : Progress w {w with status := status,queries := queries,nextQuery := next}) :
    Kept w {w with status := status,queries := queries,nextQuery := next} := by
  have hturned : Turned w {w with status := status,queries := queries,nextQuery := next} :=
    .still rfl rfl rfl rfl
  have hworks : Works w {w with status := status,queries := queries,nextQuery := next} :=
    ⟨hturned,rfl,hprogress,fun _ _ => .inl⟩
  exact ⟨⟨hw.pending,hw.tidy,hw.fresh,hw.reachable,hw.devices,hw.marked,
    fun ref hle => hworks.unborn hw hle,hsound⟩,.inl hworks⟩

/-- A query is sent where nothing else uses the record, and only there. -/
theorem voltageRefresh_cases (hsynced : Synced w) (ref : ModemRef) :
    w.voltageRefresh ref = w ∨ Spare w.tables (w.bridge.modems ref) ref ∧
      (w.status ref).voltageRefreshPending = false ∧
      ∃ status : Status.ModemStatus,status.voltageRefreshPending = true ∧ w.voltageRefresh ref =
        {w with
          status := Function.update w.status ref status
          queries := Function.update w.queries w.nextQuery
            (some ⟨ref,(w.bridge.modems ref).modem,(w.bridge.modems ref).generation⟩)
          nextQuery := w.nextQuery+1} := by
  rcases l850VoltageRefresh_cases w.tables (w.bridge.modems ref) ref w.bridge.now (w.status ref)
    with hsame | ⟨hlive,hbusy,hmutation,hscan,hcarrier,hpending,hasked⟩
  · left
    simp [World.voltageRefresh,hsame]
  · refine .inr ⟨⟨hlive,hbusy,hmutation,hscan,hcarrier,(hsynced ref).trans hpending⟩,hpending,
      {w.status ref with voltageRefreshPending := true,voltageLastAttemptAt := w.bridge.now},rfl,?_⟩
    simp [World.voltageRefresh,hasked,hpending]

theorem Kept.refl (hw : Inv w) : Kept w w :=
  ⟨hw,.inl ⟨Turned.still rfl rfl rfl rfl,rfl,.shrinks (fun _ _ => id) fun _ _ => id,
    fun _ _ => .inl⟩⟩

theorem voltageRefresh_kept (hw : Inv w) (hsynced : Synced w) (ref : ModemRef) :
    Kept w (w.voltageRefresh ref) := by
  rcases voltageRefresh_cases hsynced ref with hsame | ⟨hspare,hidle,status,hasked,heq⟩
  · rw [hsame]
    exact .refl hw
  rw [heq]
  have hnone : ∀ query,w.queries w.nextQuery = some query → False := fun query hquery =>
    Nat.lt_irrefl _ (hw.voltage.known _ query hquery).1
  -- A query on a live record makes it wait, and this record did not.
  have hfree : ∀ id query,w.queries id = some query → query.modem ≠ ref := by
    rintro id query hquery rfl
    have hwaits := hw.voltage.pending id query hquery hspare.live
    rw [hidle] at hwaits
    cases hwaits
  have hold : ∀ id query,Function.update w.queries w.nextQuery
      (some ⟨ref,(w.bridge.modems ref).modem,(w.bridge.modems ref).generation⟩) id = some query →
        id = w.nextQuery ∧ query = ⟨ref,(w.bridge.modems ref).modem,
          (w.bridge.modems ref).generation⟩ ∨ w.queries id = some query := by
    intro id query hquery
    by_cases hid : id = w.nextQuery
    · rw [hid,Function.update_self,Option.some.injEq] at hquery
      exact .inl ⟨hid,hquery.symm⟩
    · rw [Function.update_of_ne hid] at hquery
      exact .inr hquery
  refine voltage_kept _ hw ⟨fun id query hquery => ?_,fun id query hquery hlive => ?_,
    fun id id' query query' hquery hquery' hmodem hlive => ?_⟩
    (.starts (.voltage w.nextQuery) ref hspare (fun other activity huses => ?_) fun _ _ => .inl)
  · rcases hold id query hquery with ⟨rfl,rfl⟩ | hbefore
    · exact ⟨Nat.lt_succ_self _,rfl,rfl⟩
    · obtain ⟨hlt,hgeneration,hsource⟩ := hw.voltage.known id query hbefore
      exact ⟨Nat.lt_succ_of_lt hlt,hgeneration,hsource⟩
  · rcases hold id query hquery with ⟨rfl,rfl⟩ | hbefore
    · simpa using hasked
    · show (Function.update w.status ref status query.modem).voltageRefreshPending = true
      rw [Function.update_of_ne (hfree id query hbefore)]
      exact hw.voltage.pending id query hbefore hlive
  · rcases hold id query hquery with ⟨rfl,rfl⟩ | hbefore
    · rcases hold id' query' hquery' with ⟨rfl,-⟩ | hbefore'
      · rfl
      · exact absurd hmodem.symm (hfree id' query' hbefore')
    · rcases hold id' query' hquery' with ⟨rfl,rfl⟩ | hbefore'
      · exact absurd hmodem (hfree id query hbefore)
      · exact hw.voltage.one id id' query query' hbefore hbefore' hmodem hlive
  · cases activity with
    | voltage id =>
      obtain ⟨query,hquery,hmodem⟩ := huses
      rcases hold id query hquery with ⟨rfl,rfl⟩ | hbefore
      · exact .inr ⟨rfl,.inl hmodem.symm⟩
      · exact .inl ⟨query,hbefore,hmodem⟩
    | _ => exact .inl huses

theorem voltageReady_kept {id : Nat} {query : VoltageQuery} (hw : Inv w)
    (hquery : w.queries id = some query) (response : Option CString) :
    Kept w (w.voltageReady id query response) := by
  have hold : ∀ other found,Function.update w.queries id none other = some found →
      other ≠ id ∧ w.queries other = some found := by
    intro other found hfound
    by_cases ho : other = id
    · rw [ho,Function.update_self] at hfound
      cases hfound
    · rw [Function.update_of_ne ho] at hfound
      exact ⟨ho,hfound⟩
  have hkept : ∀ status : ModemRef → Status.ModemStatus,
      (∀ ref,status ref = w.status ref ∨ ref = query.modem) →
      Kept w {w with status := status,queries := Function.update w.queries id none} := by
    intro status hother
    refine voltage_kept w.nextQuery hw ⟨fun other found hfound => ?_,
      fun other found hfound hlive => ?_,fun other other' found found' hfound hfound' => ?_⟩
      (.shrinks (fun ref activity huses => ?_) fun _ _ htargets => htargets)
    · exact hw.voltage.known other found (hold other found hfound).2
    · obtain ⟨hne,hbefore⟩ := hold other found hfound
      have hwaits := hw.voltage.pending other found hbefore hlive
      rcases hother found.modem with hsame | hmodem
      · rw [← hsame] at hwaits
        exact hwaits
      · exact absurd (hw.voltage.one other id found query hbefore hquery hmodem hlive) hne
    · exact hw.voltage.one other other' found found' (hold other found hfound).2
        (hold other' found' hfound').2
    · cases activity with
      | voltage other =>
        obtain ⟨found,hfound,hmodem⟩ := huses
        exact ⟨found,(hold other found hfound).2,hmodem⟩
      | _ => exact huses
  refine hkept _ fun ref => ?_
  by_cases hr : ref = query.modem
  · exact .inr hr
  · exact .inl (Function.update_of_ne hr _ _)

theorem handle_kept (hw : Inv w) (hsynced : Synced w)
    (hs : handle sha256 random w event = some w') : Kept w w' := by
  cases event with
  | sms event =>
    obtain ⟨sms,hstep,rfl⟩ := Option.map_eq_some_iff.mp hs
    exact sms_kept hw hstep
  | advanced event =>
    obtain ⟨advanced,hstep,rfl⟩ := Option.map_eq_some_iff.mp hs
    exact advanced_kept hw hstep
  | setCellLock ubus request =>
    simp only [handle,Option.ite_none_left_eq_some,Option.some.injEq] at hs
    obtain ⟨hserves,rfl⟩ := hs
    exact admission_kept hw fun s hs => ⟨methodSetCellLock_begins hs,
      .start ⟨_,_,_,serving_of_serves hserves,.inl ⟨_,hs⟩⟩⟩
  | clearCellLock ubus request =>
    simp only [handle,Option.ite_none_left_eq_some,Option.some.injEq] at hs
    obtain ⟨hserves,rfl⟩ := hs
    exact admission_kept hw fun s hs => ⟨methodClearCellLock_begins hs,
      .start ⟨_,_,_,serving_of_serves hserves,.inr ⟨_,hs⟩⟩⟩
  | mutation index event =>
    obtain ⟨s,hget,hs⟩ := Option.bind_eq_some_iff.mp hs
    obtain ⟨t,hstep,rfl⟩ := Option.map_eq_some_iff.mp hs
    exact mutation_kept hw hget hstep
  | reads event =>
    obtain ⟨reads,hstep,rfl⟩ := Option.map_eq_some_iff.mp hs
    exact reads_kept hw hstep
  | voltageRefresh ref =>
    obtain rfl := Option.some.inj hs
    exact voltageRefresh_kept hw hsynced ref
  | voltageReady id response =>
    obtain ⟨query,hquery,rfl⟩ := Option.map_eq_some_iff.mp hs
    exact voltageReady_kept hw hquery response

/-- A report tells the bridge nothing about its operations. -/
theorem Inv.reported (hw : Inv w) (report : Bridge) : Inv (w.reported report) := by
  refine ⟨hw.pending,hw.tidy,hw.fresh,hw.reachable,hw.devices,hw.marked,fun ref hle => ?_,
    ⟨hw.voltage.known,hw.voltage.pending,hw.voltage.one⟩⟩
  have hbefore := hw.unborn ref hle
  refine ⟨hbefore.live,fun activity huses => ?_,hbefore.unowned⟩
  cases activity with
  | mutation index => exact ⟨index,rfl⟩
  | sms op => exact hbefore.unused (.sms op) huses
  | advanced op => exact hbefore.unused (.advanced op) huses
  | scan op => exact hbefore.unused (.scan op) huses
  | carrier op => exact hbefore.unused (.carrier op) huses
  | voltage id => exact hbefore.unused (.voltage id) huses

theorem reported_synced (w : World) (report : Bridge) : Synced (w.reported report) := fun _ => rfl

theorem step_kept (hw : Inv w) (hs : step sha256 random w input = some w') :
    Kept (w.reported input.1) w' := by
  simp only [step,Option.ite_none_left_eq_some] at hs
  exact handle_kept (hw.reported input.1) (reported_synced w input.1) hs.2

theorem Initial.not_owns (h : Initial w) (ref : ModemRef) (owner : Owner) : ¬Owns w ref owner := by
  intro howns
  cases owner with
  | sms op =>
    obtain ⟨operation,hop,-⟩ := howns
    have hnone : w.sms.operations op = none := h.sms.operations op
    rw [hnone] at hop
    cases hop
  | advanced op =>
    obtain ⟨operation,hop,-⟩ := howns
    rw [h.advanced.1] at hop
    cases hop
  | mutation index =>
    obtain ⟨s,hs,-⟩ := howns
    rw [h.mutations] at hs
    cases hs

theorem Initial.not_uses (h : Initial w) (ref : ModemRef) (activity : Activity) :
    ¬Uses w ref activity := by
  intro huses
  cases activity with
  | sms op => exact h.not_owns ref (.sms op) huses
  | advanced op => exact h.not_owns ref (.advanced op) huses
  | mutation index =>
    obtain ⟨s,hs,-⟩ := huses
    rw [h.mutations] at hs
    cases hs
  | scan op =>
    have htable := huses.1
    rw [h.reads.operations] at htable
    cases htable
  | carrier op =>
    have htable := huses.1
    rw [h.reads.operations] at htable
    cases htable
  | voltage id =>
    obtain ⟨query,hquery,-⟩ := huses
    rw [h.queries] at hquery
    cases hquery

theorem Initial.inv (h : Initial w) : Inv w := by
  have hquery : ∀ {id query},w.queries id = some query → False := by
    intro id query hquery
    rw [h.queries] at hquery
    cases hquery
  have hpending := h.sms.pending
  refine ⟨⟨hpending.fresh,hpending.count,hpending.fits⟩,Reads.reachable_tidy (.start h.reads),
    fun ref _ => ?_,fun s hs => ?_,fun i j s t hs => ?_,
    fun ref => ⟨fun owner howns => ?_,fun _ => ?_,fun a b ha => ?_⟩,
    fun ref _ => ⟨(h.sms.modems ref).1,fun activity huses => ?_,fun index => ?_⟩,
    ⟨fun _ _ hq => (hquery hq).elim,fun _ _ hq => (hquery hq).elim,
      fun _ _ _ _ hq => (hquery hq).elim⟩⟩
  · rw [h.advanced.1]
    rfl
  · rw [h.mutations] at hs
    cases hs
  · rw [h.mutations] at hs
    cases hs
  · exact absurd howns (h.not_owns ref owner)
  · obtain ⟨-,hbusy,hkind,hcancellable⟩ := h.sms.modems ref
    simp only [World.modem] at hbusy hkind hcancellable
    rw [Modem.mark,hbusy,hkind,hcancellable]
    rfl
  · exact absurd ha (h.not_owns ref a)
  · exact absurd huses (h.not_uses ref activity)
  · exact h.not_owns ref (.mutation index)

theorem reachable_inv (h : (bridgeSystem sha256 random).Reachable w) : Inv w := by
  refine h.invariant (P:=Inv) (fun s hs => Initial.inv hs) fun s input t hinv hs => ?_
  exact (step_kept hinv hs).inv

end Exclusion
end L850GL
