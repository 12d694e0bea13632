import L850GL.Lib.Ownership
import L850GL.Mutation.Operation

/-! The marks that operations put on a record, and what a record must be like for a new one. -/
namespace L850GL

open Mutation Ownership

abbrev RecordMark := Bool × MutationKind × Option MutationCancellable

namespace Modem

/-- What an operation writes on the record it owns. -/
def mark (modem : Modem) : RecordMark :=
  (modem.mutationBusy,modem.mutationKind,modem.mutationCancellable)

/-- The mark of a record that nobody owns. -/
def unmarked : RecordMark := (false,.none,none)

/-- The record without what operations write on it. -/
def bare (modem : Modem) : Modem :=
  {modem.clearMutation with advancedCooldownUntil := 0,servingCell := none}

section

variable (modem : Modem)

@[simp] theorem clearMutation_mark : modem.clearMutation.mark = unmarked := rfl
@[simp] theorem clearMutation_bare : modem.clearMutation.bare = modem.bare := rfl
@[simp] theorem acquireL850_mark : modem.acquireL850.mark = (true,.l850,some .l850) := rfl
@[simp] theorem acquireL850_bare : modem.acquireL850.bare = modem.bare := rfl
@[simp] theorem bare_live : modem.bare.live = modem.live := rfl
@[simp] theorem bare_physdev : modem.bare.physdev = modem.physdev := rfl
@[simp] theorem bare_modem : modem.bare.modem = modem.modem := rfl
@[simp] theorem bare_generation : modem.bare.generation = modem.generation := rfl

end

theorem mutationBusy_of_mark {modem : Modem} (h : modem.mark = unmarked) :
    modem.mutationBusy = false := congrArg Prod.fst h

end Modem

/-- A record on which an operation may start, with the tables as they are. -/
structure Spare (tables : Tables) (modem : Modem) (ref : ModemRef) : Prop where
  live : modem.live = true
  idle : modem.mutationBusy = false
  mutation : l850ModemHasActiveMutation tables modem = false
  scan : l850ModemHasActiveScan tables ref = false
  carrier : l850ModemHasActiveCarrierQuery tables ref = false
  voltage : modem.voltageRefreshPending = false

namespace Bridge

variable {bridge bridge' bridge'' : Bridge} {ref : ModemRef} {modem : Modem}

/-- The records are the same but for what operations write on them. -/
structure SameRecords (bridge bridge' : Bridge) : Prop where
  now : bridge'.now = bridge.now
  bare : ∀ ref,(bridge'.modems ref).bare = (bridge.modems ref).bare

theorem SameRecords.refl (bridge : Bridge) : SameRecords bridge bridge := ⟨rfl,fun _ => rfl⟩

theorem SameRecords.trans (h : SameRecords bridge bridge') (h' : SameRecords bridge' bridge'') :
    SameRecords bridge bridge'' :=
  ⟨h'.now.trans h.now,fun ref => (h'.bare ref).trans (h.bare ref)⟩

theorem SameRecords.updateModem (h : modem.bare = (bridge.modems ref).bare) :
    SameRecords bridge (bridge.updateModem ref modem) := by
  refine ⟨rfl,fun other => ?_⟩
  by_cases ho : other = ref
  · rw [ho,updateModem_self,h]
  · rw [updateModem_other bridge modem ho]

theorem SameRecords.live (h : SameRecords bridge bridge') (ref : ModemRef) :
    (bridge'.modems ref).live = (bridge.modems ref).live := by
  simpa using congrArg Modem.live (h.bare ref)

theorem SameRecords.physdev (h : SameRecords bridge bridge') (ref : ModemRef) :
    (bridge'.modems ref).physdev = (bridge.modems ref).physdev := by
  simpa using congrArg Modem.physdev (h.bare ref)

theorem SameRecords.proxy (h : SameRecords bridge bridge') (ref : ModemRef) :
    (bridge'.modems ref).modem = (bridge.modems ref).modem := by
  simpa using congrArg Modem.modem (h.bare ref)

theorem SameRecords.generation (h : SameRecords bridge bridge') (ref : ModemRef) :
    (bridge'.modems ref).generation = (bridge.modems ref).generation := by
  simpa using congrArg Modem.generation (h.bare ref)

/-- An operation that sees the proxies of its start writes its records back. -/
theorem SameRecords.refresh {old : Bridge} (h : SameRecords (old.refresh bridge) bridge') :
    SameRecords bridge (bridge.refresh bridge') := by
  refine ⟨h.now,fun ref => ?_⟩
  have hbare := h.bare ref
  simp only [Bridge.refresh,Modem.bare,Modem.clearMutation,Modem.mk.injEq] at hbare ⊢
  simp [hbare]

variable {β : Type} {tag : β → RecordMark} {owns owns' owns'' : ModemRef → β → Prop}

/-- What the operations of one kind do to the records in a step. -/
structure Turns (tag : β → RecordMark) (bridge bridge' : Bridge)
    (owns owns' : ModemRef → β → Prop) : Prop where
  same : SameRecords bridge bridge'
  turn : ∀ ref,Turn Modem.unmarked tag (bridge.modems ref).mark (bridge'.modems ref).mark
    (owns ref) (owns' ref)

/-- What an operation that sees the proxies of its start makes of the records. -/
theorem Turns.refresh (old : Bridge) (h : Turns tag (old.refresh bridge) bridge' owns owns') :
    Turns tag bridge (bridge.refresh bridge') owns owns' := ⟨h.same.refresh,h.turn⟩

/-- Operations end, and each takes its own mark with it. -/
structure Releases (tag : β → RecordMark) (bridge bridge' : Bridge)
    (owns owns' : ModemRef → β → Prop) : Prop where
  same : SameRecords bridge bridge'
  leaves : ∀ ref,Leaves Modem.unmarked tag (bridge.modems ref).mark (bridge'.modems ref).mark
    (owns ref) (owns' ref)

theorem Releases.turns (h : Releases tag bridge bridge' owns owns') :
    Turns tag bridge bridge' owns owns' := ⟨h.same,fun ref => .leaves (h.leaves ref)⟩

theorem Releases.refl (bridge : Bridge) (owns : ModemRef → β → Prop) :
    Releases tag bridge bridge owns owns :=
  ⟨.refl bridge,fun _ => .kept rfl fun _ => Iff.rfl⟩

theorem Releases.trans (htag : ∀ b,tag b ≠ Modem.unmarked)
    (h : Releases tag bridge bridge' owns owns')
    (h' : Releases tag bridge' bridge'' owns' owns'') :
    Releases tag bridge bridge'' owns owns'' :=
  ⟨h.same.trans h'.same,fun ref => (h.leaves ref).trans htag (h'.leaves ref)⟩

/-- The records and the owners are what they were. -/
theorem Releases.of_same (hbridge : bridge' = bridge) (howns : ∀ ref b,owns' ref b ↔ owns ref b) :
    Releases tag bridge bridge' owns owns' :=
  ⟨hbridge ▸ .refl bridge,fun ref => .kept (by rw [hbridge]) (howns ref)⟩

/-- A new operation on an idle record. -/
theorem Turns.take {b : β} (hidle : (bridge.modems ref).mark = Modem.unmarked)
    (hmark : modem.mark = tag b) (hbare : modem.bare = (bridge.modems ref).bare)
    (howns : ∀ other c,owns' other c ↔ owns other c ∨ other = ref ∧ c = b) :
    Turns tag bridge (bridge.updateModem ref modem) owns owns' := by
  refine ⟨.updateModem hbare,fun other => ?_⟩
  by_cases ho : other = ref
  · rw [ho,updateModem_self]
    refine .taken b hidle hmark fun c => ?_
    rw [howns]
    tauto
  · rw [updateModem_other bridge modem ho]
    refine .leaves (.kept rfl fun c => ?_)
    rw [howns]
    tauto

end Bridge
end L850GL
