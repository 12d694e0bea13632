import L850GL.Exclusion

/-! Every mark of a record is that of its one owner, whatever runs. -/
namespace L850GL
namespace Exclusion

open Bridge Cooldown Mutation Ownership Sms

variable {w w' : World} {ref : ModemRef} {owner : Owner} {sha256 : CString → Digest}
  {random : Nat → Option (Vector UInt8 16)} {event : Event}

theorem Owner.tag_ne_unmarked (owner : Owner) : owner.tag ≠ Modem.unmarked := by
  cases owner with
  | sms op => exact Sms.tag_ne_unmarked op
  | advanced op => exact Advanced.tag_ne_unmarked op
  | mutation index => exact Mutation.tag_ne_unmarked ()

/-- The records keep what nothing but their operations writes, and their owners and marks change
together. -/
abbrev Turned (w w' : World) : Prop :=
  Bridge.Turns Owner.tag w.bridge w'.bridge (Owns w) (Owns w')

theorem sms_turned (h : Bridge.Turns Sms.tag w.bridge w'.bridge (Sms.Owns w.sms)
    (Sms.Owns w'.sms)) (hadvanced : w'.advanced = w.advanced)
    (hmutations : w'.mutations = w.mutations) : Turned w w' := by
  refine ⟨h.same,fun ref => (h.turn ref).embed (ι:=Owner.sms) (fun a b hab => by cases hab; rfl)
    (fun _ => Iff.rfl) (fun _ => Iff.rfl) fun owner hother => ?_⟩
  cases owner with
  | sms op => exact absurd rfl (hother op)
  | advanced op => rw [Owns,Owns,hadvanced]
  | mutation index => rw [Owns,Owns,hmutations]

theorem advanced_turned (h : Bridge.Turns Advanced.tag w.bridge w'.bridge
    (Advanced.Owns w.advanced) (Advanced.Owns w'.advanced)) (hsms : w'.sms = w.sms)
    (hmutations : w'.mutations = w.mutations) : Turned w w' := by
  refine ⟨h.same,fun ref => (h.turn ref).embed (ι:=Owner.advanced)
    (fun a b hab => by cases hab; rfl) (fun _ => Iff.rfl) (fun _ => Iff.rfl) fun owner hother => ?_⟩
  cases owner with
  | sms op => rw [Owns,Owns,hsms]
  | advanced op => exact absurd rfl (hother op)
  | mutation index => rw [Owns,Owns,hmutations]

/-- The owners among the operations on a lock, when one of them is written. -/
theorem mutation_turned {index : Nat} {own own' : ModemRef → Unit → Prop}
    (h : Bridge.Turns Mutation.tag w.bridge w'.bridge own own')
    (hown : ∀ ref,Owns w ref (.mutation index) ↔ own ref ())
    (hown' : ∀ ref,Owns w' ref (.mutation index) ↔ own' ref ())
    (hrest : ∀ other,other ≠ index → w'.mutations[other]? = w.mutations[other]?)
    (hsms : w'.sms = w.sms) (hadvanced : w'.advanced = w.advanced) : Turned w w' := by
  refine ⟨h.same,fun ref => (h.turn ref).embed (ι:=fun _ => Owner.mutation index)
    (fun _ _ _ => rfl) (fun _ => hown ref) (fun _ => hown' ref) fun owner hother => ?_⟩
  cases owner with
  | sms op => rw [Owns,Owns,hsms]
  | advanced op => rw [Owns,Owns,hadvanced]
  | mutation other =>
    have hne : other ≠ index := fun he => hother () (by rw [he])
    rw [Owns,Owns,hrest other hne]

/-- No device is under two lock operations. -/
def OneEach (w : World) : Prop :=
  ∀ (i j : Nat) (s t : Mutation.State),w.mutations[i]? = some s → w.mutations[j]? = some t →
    s.released = false → t.released = false → s.operation.physdev = t.operation.physdev → i = j

/-- A query in flight was sent for the record as it is, and is what a live record waits for. -/
structure VoltageSound (w : World) : Prop where
  known : ∀ id query,w.queries id = some query → id < w.nextQuery ∧
    query.generation = (w.bridge.modems query.modem).generation ∧
    query.source = (w.bridge.modems query.modem).modem
  pending : ∀ id query,w.queries id = some query → (w.bridge.modems query.modem).live = true →
    (w.status query.modem).voltageRefreshPending = true
  one : ∀ id id' query query',w.queries id = some query → w.queries id' = some query' →
    query.modem = query'.modem → (w.bridge.modems query.modem).live = true → id = id'

/-- A record that has not been made is not used, but for a lock operation on its device. -/
structure Unborn (w : World) (ref : ModemRef) : Prop where
  live : (w.bridge.modems ref).live = false
  unused : ∀ activity,Uses w ref activity → ∃ index,activity = .mutation index
  unowned : ∀ index,¬Owns w ref (.mutation index)

/-- What every step keeps. -/
structure Inv (w : World) : Prop where
  pending : Sms.Pending w.sms none
  tidy : Reads.Tidy w.reads
  fresh : ∀ ref : Advanced.OperationRef,w.advanced.next ≤ ref →
    (w.advanced.slots ref).memory = none
  reachable : ∀ s ∈ w.mutations,mutationSystem.Reachable s
  devices : OneEach w
  marked : ∀ ref,Marked Modem.unmarked Owner.tag (w.bridge.modems ref).mark (Owns w ref)
  unborn : ∀ ref,w.sms.admitted ≤ ref → Unborn w ref
  voltage : VoltageSound w

/-- A record that is shown as it is. -/
def Synced (w : World) : Prop :=
  ∀ ref,(w.bridge.modems ref).voltageRefreshPending = (w.status ref).voltageRefreshPending

theorem Inv.clean (hw : Inv w) (hidle : (w.bridge.modems ref).mutationBusy = false) :
    (w.bridge.modems ref).mark = Modem.unmarked := by
  refine (hw.marked ref).idle fun owner howns => ?_
  have hmark := congrArg Prod.fst ((hw.marked ref).owned owner howns)
  have hbusy : (Modem.mark (w.bridge.modems ref)).1 = false := hidle
  rw [hbusy] at hmark
  cases owner with
  | sms op => cases hmark
  | advanced op => cases hmark
  | mutation index => cases hmark

theorem Inv.not_owns (hw : Inv w) (hidle : (w.bridge.modems ref).mutationBusy = false)
    (owner : Owner) : ¬Owns w ref owner :=
  (hw.marked ref).not_owns Owner.tag_ne_unmarked (hw.clean hidle) owner

theorem mem_devices {device : CString} : device ∈ w.devices ↔
    ∃ (index : Nat) (s : Mutation.State),w.mutations[index]? = some s ∧ s.released = false ∧
      s.operation.physdev = device := by
  rw [World.devices,List.mem_map]
  constructor
  · rintro ⟨s,hs,hdevice⟩
    obtain ⟨hmem,hlive⟩ := List.mem_filter.mp hs
    obtain ⟨index,hindex⟩ := List.getElem?_of_mem hmem
    exact ⟨index,s,hindex,by simpa using hlive,hdevice⟩
  · rintro ⟨index,s,hs,hlive,hdevice⟩
    exact ⟨s,List.mem_filter.mpr ⟨List.mem_of_getElem? hs,by simp [hlive]⟩,hdevice⟩

theorem Inv.mutation_free (hw : Inv w) {device : CString}
    (hdevice : (w.bridge.modems ref).physdev = some device)
    (hfree : l850ModemHasActiveMutation w.tables (w.bridge.modems ref) = false) {index : Nat}
    {s : Mutation.State} (hs : w.mutations[index]? = some s) (hlive : s.released = false) :
    s.operation.physdev ≠ device := by
  intro hsame
  have hnamed := (reachable_settled (hw.reachable s (List.mem_of_getElem? hs))).2
  have hmem : device ∈ w.devices := mem_devices.mpr ⟨index,s,hs,hlive,hsame⟩
  rw [hsame] at hnamed
  simp [l850ModemHasActiveMutation,hdevice,World.tables,Reads.World.tables,hnamed,hmem] at hfree

/-- Where a new operation may start, nothing is in progress. -/
theorem Inv.not_uses (hw : Inv w) (hsynced : Synced w)
    (hspare : Spare w.tables (w.bridge.modems ref) ref) (activity : Activity) :
    ¬Uses w ref activity := by
  intro huses
  cases activity with
  | sms op => exact hw.not_owns hspare.idle (.sms op) huses
  | advanced op => exact hw.not_owns hspare.idle (.advanced op) huses
  | mutation index =>
    obtain ⟨s,hs,hlive,hdevice⟩ := huses
    exact hw.mutation_free hdevice hspare.mutation hs hlive rfl
  | scan op =>
    have hmem : ref ∈ w.reads.modemsUnder .scan := Reads.mem_modemsUnder.mpr ⟨op,huses⟩
    have hscan := hspare.scan
    simp [l850ModemHasActiveScan,World.tables,Reads.World.tables,hmem] at hscan
  | carrier op =>
    have hmem : ref ∈ w.reads.modemsUnder .carrier := Reads.mem_modemsUnder.mpr ⟨op,huses⟩
    have hcarrier := hspare.carrier
    simp [l850ModemHasActiveCarrierQuery,World.tables,Reads.World.tables,hmem] at hcarrier
  | voltage id =>
    obtain ⟨query,hquery,rfl⟩ := huses
    have hpending := hw.voltage.pending id query hquery hspare.live
    rw [← hsynced,hspare.voltage] at hpending
    cases hpending

/-- What targets a record owns it or uses it. -/
theorem Targets.cases {activity : Activity} (h : Targets w ref activity) :
    (∃ index,activity = .mutation index ∧ Owns w ref (.mutation index)) ∨
      (∀ index,activity ≠ .mutation index) ∧ Uses w ref activity := by
  cases activity with
  | mutation index =>
    obtain ⟨s,hs,hlive,horiginal⟩ := h
    exact .inl ⟨index,rfl,s,hs,hlive,.inl horiginal.symm⟩
  | _ => exact .inr ⟨nofun,h⟩

theorem Uses.targets {activity : Activity} (h : Uses w ref activity)
    (hother : ∀ index,activity ≠ .mutation index) : Targets w ref activity := by
  cases activity with
  | mutation index => exact absurd rfl (hother index)
  | _ => exact h

theorem Inv.not_targets (hw : Inv w) (hsynced : Synced w)
    (hspare : Spare w.tables (w.bridge.modems ref) ref) (activity : Activity) :
    ¬Targets w ref activity := by
  intro htargets
  rcases htargets.cases with ⟨index,-,howns⟩ | ⟨-,huses⟩
  · exact hw.not_owns hspare.idle (.mutation index) howns
  · exact hw.not_uses hsynced hspare activity huses

/-- What a new activity comes on: its record, and all records of its device for a lock. -/
def Reaches (w : World) (activity : Activity) (target ref : ModemRef) : Prop :=
  ref = target ∨ (∃ index,activity = .mutation index) ∧
    ∃ device,(w.bridge.modems target).physdev = some device ∧
      (w.bridge.modems ref).physdev = some device

/-- How the activities change in a step: none is new, or one is, on a record that nothing used. -/
inductive Progress (w w' : World) : Prop
  | shrinks (h : ∀ ref activity,Uses w' ref activity → Uses w ref activity)
      (hasked : ∀ ref index,Targets w' ref (.mutation index) → Targets w ref (.mutation index))
  | starts (activity : Activity) (target : ModemRef)
      (hspare : Spare w.tables (w.bridge.modems target) target)
      (h : ∀ ref other,Uses w' ref other →
        Uses w ref other ∨ other = activity ∧ Reaches w activity target ref)
      (hasked : ∀ ref index,Targets w' ref (.mutation index) →
        Targets w ref (.mutation index) ∨ .mutation index = activity ∧ ref = target)

/-- A step in which no record is made or removed. -/
structure Works (w w' : World) : Prop extends
  Bridge.Turns Owner.tag w.bridge w'.bridge (Owns w) (Owns w') where
  admitted : w'.sms.admitted = w.sms.admitted
  progress : Progress w w'
  owns : ∀ ref index,Owns w' ref (.mutation index) →
    Owns w ref (.mutation index) ∨ (w.bridge.modems ref).live = true

theorem Works.unborn (h : Works w w') (hw : Inv w) (hle : w'.sms.admitted ≤ ref) :
    Unborn w' ref := by
  rw [h.admitted] at hle
  have hbefore := hw.unborn ref hle
  refine ⟨by rw [h.same.live,hbefore.live],fun activity huses => ?_,fun index howns => ?_⟩
  · cases h.progress with
    | shrinks hold hasked => exact hbefore.unused activity (hold ref activity huses)
    | starts started target hspare hnew hasked =>
      rcases hnew ref activity huses with hold | ⟨rfl,rfl | ⟨hmutation,-⟩⟩
      · exact hbefore.unused activity hold
      · have hlive := hspare.live
        rw [hbefore.live] at hlive
        cases hlive
      · exact hmutation
  · rcases h.owns ref index howns with hold | hlive
    · exact hbefore.unowned index hold
    · rw [hbefore.live] at hlive
      cases hlive

theorem VoltageSound.same (h : VoltageSound w) (hsame : SameRecords w.bridge w'.bridge)
    (hqueries : w'.queries = w.queries) (hnext : w'.nextQuery = w.nextQuery)
    (hstatus : w'.status = w.status) : VoltageSound w' := by
  refine ⟨fun id query hquery => ?_,fun id query hquery hlive => ?_,
    fun id id' query query' hquery hquery' hmodem hlive => ?_⟩
  · rw [hqueries] at hquery
    rw [hnext,hsame.generation,hsame.proxy]
    exact h.known id query hquery
  · rw [hqueries] at hquery
    rw [hsame.live] at hlive
    rw [hstatus]
    exact h.pending id query hquery hlive
  · rw [hqueries] at hquery hquery'
    rw [hsame.live] at hlive
    exact h.one id id' query query' hquery hquery' hmodem hlive

end Exclusion
end L850GL
