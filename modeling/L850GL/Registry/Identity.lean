import L850GL.Registry
import L850GL.Sms.Steps

/-! Every record has a generation of its own and every messaging epoch a number of its own, and a
request that names an identity from an earlier reply reaches that record and epoch or none. -/
namespace L850GL
namespace Registry

open Identity Sms

/-- The records of the table. -/
def admittedRefs (r : Registry) : List ModemRef := r.modemsByPath.map Prod.snd

/-- The live records are those of the table, with distinct identifiers, and the records have the
generations 1, 2, 3 and so on. -/
structure Inv (r : Registry) : Prop where
  paths : (AssocList.Keys r.modemsByPath).Nodup
  refs : r.admittedRefs.Nodup
  live : ∀ ref, (r.modems ref).live = true ↔ ref ∈ r.admittedRefs
  made : ∀ ref ∈ r.admittedRefs, ref < r.next
  ids : ∀ ref ∈ r.admittedRefs, ∀ other ∈ r.admittedRefs,
    (r.modems ref).modemId = (r.modems other).modemId → ref = other
  generations : ∀ ref, ref < r.next → (r.modems ref).generation = ref+1
  next : r.nextGeneration = r.next
  bounded : r.nextGeneration ≤ Cell.uint32Max
  epochs : ∀ ref, (r.messaging ref).messagingGeneration ≤ Cell.uint32Max

/-- The messaging of one record at a later time; the counters tell how many epochs it has left. -/
structure Later (m m' : Messaging) (count count' : Nat) : Prop where
  counts : count ≤ count'
  epochs : m.messagingGeneration ≤ m'.messagingGeneration
  kept : count' = count →
    m'.messaging = m.messaging ∧ m'.messagingGeneration = m.messagingGeneration
  left : count' ≠ count → m.messagingGeneration < m'.messagingGeneration ∨
    m'.messagingGeneration = Cell.uint32Max ∧ m'.messaging = none

/-- What holds between a registry and a later one. -/
structure Evolves (r r' : Registry) : Prop where
  next : r.next ≤ r'.next
  identity : ∀ ref, ref < r.next → (r'.modems ref).modemId = (r.modems ref).modemId ∧
    (r'.modems ref).generation = (r.modems ref).generation
  removed : ∀ ref, ref < r.next → (r'.modems ref).live = true → (r.modems ref).live = true
  later : ∀ ref, ref < r.next →
    Later (r.messaging ref) (r'.messaging ref) (r.epochs ref) (r'.epochs ref)

def Advances (r r' : Registry) : Prop := Inv r → Inv r' ∧ Evolves r r'

variable {r r' r'' : Registry} {random : Nat → Option (Vector UInt8 16)} {ref : ModemRef}
  {path : CString}

theorem Later.refl (m : Messaging) (count : Nat) : Later m m count count :=
  ⟨Nat.le_refl _,Nat.le_refl _,fun _ => ⟨rfl,rfl⟩,fun h => absurd rfl h⟩

/-- At the limit an epoch is left once. -/
theorem Later.trans {m m' m'' : Messaging} {count count' count'' : Nat}
    (h : Later m m' count count') (h' : Later m' m'' count' count'')
    (hbound : m''.messagingGeneration ≤ Cell.uint32Max) : Later m m'' count count'' := by
  have hcount := h.counts
  have hcount' := h'.counts
  have hle := h.epochs
  have hle' := h'.epochs
  constructor
  · omega
  · omega
  · intro he
    have h₁ := h.kept (by omega)
    have h₂ := h'.kept (by omega)
    exact ⟨h₂.1.trans h₁.1,h₂.2.trans h₁.2⟩
  · intro hne
    by_cases hfirst : count' = count
    · have h₁ := h.kept hfirst
      have h₂ := h'.left (by omega)
      rwa [h₁.2] at h₂
    rcases h.left hfirst with hlt | ⟨hlimit,hnone⟩
    · left
      omega
    · right
      refine ⟨by omega,?_⟩
      by_cases hsecond : count'' = count'
      · rw [(h'.kept hsecond).1,hnone]
      · rcases h'.left hsecond with hlt | ⟨_,hnone'⟩
        · omega
        · exact hnone'

theorem Evolves.refl (r : Registry) : Evolves r r :=
  ⟨Nat.le_refl _,fun _ _ => ⟨rfl,rfl⟩,fun _ _ => id,fun _ _ => .refl _ _⟩

theorem Evolves.trans (h : Evolves r r') (h' : Evolves r' r'') (hr : Inv r'') : Evolves r r'' := by
  constructor
  · exact h.next.trans h'.next
  · intro ref hlt
    have h₁ := h.identity ref hlt
    have h₂ := h'.identity ref (Nat.lt_of_lt_of_le hlt h.next)
    exact ⟨h₂.1.trans h₁.1,h₂.2.trans h₁.2⟩
  · intro ref hlt hlive
    exact h.removed ref hlt (h'.removed ref (Nat.lt_of_lt_of_le hlt h.next) hlive)
  · intro ref hlt
    exact (h.later ref hlt).trans (h'.later ref (Nat.lt_of_lt_of_le hlt h.next)) (hr.epochs ref)

theorem Advances.refl (r : Registry) : Advances r r := fun h => ⟨h,.refl r⟩

theorem Advances.trans (h : Advances r r') (h' : Advances r' r'') : Advances r r'' := by
  intro hr
  obtain ⟨hr',h₁⟩ := h hr
  obtain ⟨hr'',h₂⟩ := h' hr'
  exact ⟨hr'',h₁.trans h₂ hr''⟩

theorem changeEpoch_later {m : Messaging} (hm : m.messagingGeneration ≤ Cell.uint32Max)
    (messaging : Option Nat) (count : Nat) :
    (m.changeEpoch messaging).messagingGeneration ≤ Cell.uint32Max ∧
      Later m (m.changeEpoch messaging) count (count+1) := by
  have hlimit : m.messagingGeneration = Cell.uint32Max →
      (m.changeEpoch messaging).messagingGeneration = m.messagingGeneration ∧
        (m.changeEpoch messaging).messaging = none := by
    intro he
    simp only [Messaging.changeEpoch]
    rw [if_pos (by exact he)]
    exact ⟨rfl,rfl⟩
  have hnext : m.messagingGeneration ≠ Cell.uint32Max →
      (m.changeEpoch messaging).messagingGeneration = m.messagingGeneration+1 := by
    intro he
    simp only [Messaging.changeEpoch]
    rw [if_neg (by exact he)]
    split <;> rfl
  by_cases he : m.messagingGeneration = Cell.uint32Max
  · obtain ⟨hsame,hnone⟩ := hlimit he
    exact ⟨by omega,⟨by omega,by omega,fun h => absurd h (by omega),
      fun _ => .inr ⟨hsame.trans he,hnone⟩⟩⟩
  · have hsucc := hnext he
    exact ⟨by omega,⟨by omega,by omega,fun h => absurd h (by omega),
      fun _ => .inl (by omega)⟩⟩

/-- An epoch change concerns one record and none of the identities. -/
theorem reconcileMessaging_advances (r : Registry) (ref : ModemRef) (forceEpoch : Bool)
    (messaging : Option Nat) : Advances r (r.reconcileMessaging ref forceEpoch messaging) := by
  intro hr
  rw [Registry.reconcileMessaging]
  split
  · exact ⟨hr,.refl r⟩
  have hchange := changeEpoch_later (hr.epochs ref) messaging (r.epochs ref)
  have hquery : ∀ m : Messaging, m.querySms.1.messaging = m.messaging ∧
      m.querySms.1.messagingGeneration = m.messagingGeneration := by
    intro m
    rw [Messaging.querySms]
    split
    · exact ⟨rfl,rfl⟩
    · split <;> exact ⟨rfl,rfl⟩
  obtain ⟨hsource,hepoch⟩ := hquery ((r.messaging ref).changeEpoch messaging)
  constructor
  · refine {hr with epochs := ?_}
    intro other
    by_cases ho : other = ref
    · subst ho
      simpa [updateMessaging,hepoch] using hchange.1
    · simpa [updateMessaging,ho] using hr.epochs other
  · constructor
    · exact Nat.le_refl _
    · exact fun _ _ => ⟨rfl,rfl⟩
    · exact fun _ _ => id
    · intro other _
      by_cases ho : other = ref
      · subst ho
        have h₁ := hchange.2
        constructor
        · simp
        · simpa [updateMessaging,hepoch] using h₁.epochs
        · intro he
          simp at he
        · intro _
          simpa [updateMessaging,hepoch,hsource] using h₁.left (Nat.succ_ne_self _)
      · simpa [updateMessaging,ho] using Later.refl (r.messaging other) (r.epochs other)

/-- What a removal and the rest of the bridge keep of the records. -/
structure SameRecords (r r' : Registry) : Prop where
  ids : ∀ ref, (r'.modems ref).modemId = (r.modems ref).modemId ∧
    (r'.modems ref).generation = (r.modems ref).generation
  messaging : ∀ ref, (r'.messaging ref).messaging = (r.messaging ref).messaging ∧
    (r'.messaging ref).messagingGeneration = (r.messaging ref).messagingGeneration
  epochs : r'.epochs = r.epochs
  next : r'.next = r.next
  nextGeneration : r'.nextGeneration = r.nextGeneration

theorem SameRecords.trans (h : SameRecords r r') (h' : SameRecords r' r'') : SameRecords r r'' := by
  constructor
  · intro ref
    exact ⟨(h'.ids ref).1.trans (h.ids ref).1,(h'.ids ref).2.trans (h.ids ref).2⟩
  · intro ref
    exact ⟨(h'.messaging ref).1.trans (h.messaging ref).1,
      (h'.messaging ref).2.trans (h.messaging ref).2⟩
  · exact h'.epochs.trans h.epochs
  · exact h'.next.trans h.next
  · exact h'.nextGeneration.trans h.nextGeneration

/-- Records leave the table, and those that stay stay live. -/
theorem Inv.shrink (hr : Inv r) (h : SameRecords r r')
    (htable : r'.modemsByPath.Sublist r.modemsByPath)
    (hlive : ∀ ref, (r'.modems ref).live = true ↔
      (r.modems ref).live = true ∧ ref ∈ r'.admittedRefs) : Inv r' ∧ Evolves r r' := by
  have hrefs : r'.admittedRefs.Sublist r.admittedRefs := htable.map Prod.snd
  constructor
  · constructor
    · exact hr.paths.sublist (htable.map Prod.fst)
    · exact hr.refs.sublist hrefs
    · intro ref
      rw [hlive,hr.live]
      constructor
      · exact And.right
      · exact fun hm => ⟨hrefs.subset hm,hm⟩
    · intro ref hm
      rw [h.next]
      exact hr.made ref (hrefs.subset hm)
    · intro ref hm other hm' he
      rw [(h.ids ref).1,(h.ids other).1] at he
      exact hr.ids ref (hrefs.subset hm) other (hrefs.subset hm') he
    · intro ref hlt
      rw [(h.ids ref).2]
      exact hr.generations ref (h.next ▸ hlt)
    · rw [h.nextGeneration,h.next]
      exact hr.next
    · rw [h.nextGeneration]
      exact hr.bounded
    · intro ref
      rw [(h.messaging ref).2]
      exact hr.epochs ref
  · constructor
    · exact Nat.le_of_eq h.next.symm
    · exact fun ref _ => h.ids ref
    · exact fun ref _ hl => ((hlive ref).mp hl).1
    · intro ref _
      rw [h.epochs]
      obtain ⟨hsource,hepoch⟩ := h.messaging ref
      exact ⟨Nat.le_refl _,Nat.le_of_eq hepoch.symm,fun _ => ⟨hsource,hepoch⟩,
        fun hne => absurd rfl hne⟩

theorem modemMarkRemoved_live (r : Registry) (ref other : ModemRef) :
    ((r.modemMarkRemoved ref).modems other).live = true ↔
      (r.modems other).live = true ∧ other ≠ ref := by
  by_cases ho : other = ref
  · simp [modemMarkRemoved,updateModem,updateMessaging,Modem.modemMarkRemoved,ho]
  · simp [modemMarkRemoved,updateModem,updateMessaging,ho]

theorem modemMarkRemoved_same (r : Registry) (ref : ModemRef) :
    SameRecords r (r.modemMarkRemoved ref) := by
  constructor
  · intro other
    by_cases ho : other = ref
    · subst ho
      simp [modemMarkRemoved,updateModem,updateMessaging,Modem.modemMarkRemoved]
    · simp [modemMarkRemoved,updateModem,updateMessaging,ho]
  · intro other
    by_cases ho : other = ref
    · subst ho
      simp [modemMarkRemoved,updateModem,updateMessaging,Messaging.clearSmsCache]
    · simp [modemMarkRemoved,updateModem,updateMessaging,ho]
  · rfl
  · rfl
  · rfl

/-- A record has one path. -/
theorem mem_remove_iff (hr : Inv r) (hlookup : r.lookupPath path = some ref) (other : ModemRef) :
    other ∈ (AssocList.remove r.modemsByPath path).map Prod.snd ↔
      other ∈ r.admittedRefs ∧ other ≠ ref := by
  have hm : (path,ref) ∈ r.modemsByPath := AssocList.mem_of_lookup hlookup
  constructor
  · intro h
    obtain ⟨entry,he,rfl⟩ := List.mem_map.mp h
    obtain ⟨he,hne⟩ := AssocList.mem_remove.mp he
    refine ⟨List.mem_map.mpr ⟨entry,he,rfl⟩,fun hsame => hne ?_⟩
    have h₁ := List.inj_on_of_nodup_map hr.refs he hm hsame
    rw [h₁]
  · rintro ⟨h,hne⟩
    obtain ⟨entry,he,rfl⟩ := List.mem_map.mp h
    refine List.mem_map.mpr ⟨entry,AssocList.mem_remove.mpr ⟨he,fun hpath => hne ?_⟩,rfl⟩
    subst hpath
    exact AssocList.eq_of_mem hr.paths he hm

theorem removePath_advances (r : Registry) (path : CString) : Advances r (r.removePath path) := by
  intro hr
  rw [removePath]
  split
  · exact ⟨hr,.refl r⟩
  rename_i ref hlookup
  apply hr.shrink
  · have h₁ := modemMarkRemoved_same r ref
    exact ⟨h₁.ids,h₁.messaging,h₁.epochs,h₁.next,h₁.nextGeneration⟩
  · exact List.filter_sublist
  · intro other
    have h₁ := modemMarkRemoved_live r ref other
    have h₂ := mem_remove_iff hr hlookup other
    have h₃ := hr.live other
    simp only [admittedRefs] at h₂ h₃ ⊢
    rw [h₁,h₂,h₃]
    tauto

theorem foldl_modemMarkRemoved (entries : List (CString × ModemRef)) (r : Registry) :
    SameRecords r (entries.foldl (fun r entry => r.modemMarkRemoved entry.2) r) ∧
      ∀ other, ((entries.foldl (fun r entry => r.modemMarkRemoved entry.2) r).modems other).live =
        true ↔ (r.modems other).live = true ∧ other ∉ entries.map Prod.snd := by
  induction entries generalizing r with
  | nil => exact ⟨⟨fun _ => ⟨rfl,rfl⟩,fun _ => ⟨rfl,rfl⟩,rfl,rfl,rfl⟩,by simp⟩
  | cons entry entries ih =>
    obtain ⟨hsame,hlive⟩ := ih (r.modemMarkRemoved entry.2)
    refine ⟨(modemMarkRemoved_same r entry.2).trans hsame,fun other => ?_⟩
    simp only [List.foldl_cons,List.map_cons,List.mem_cons,not_or]
    rw [hlive other,modemMarkRemoved_live]
    tauto

theorem clearModems_advances (r : Registry) : Advances r r.clearModems := by
  intro hr
  obtain ⟨hsame,hlive⟩ := foldl_modemMarkRemoved r.modemsByPath r
  apply hr.shrink
  · exact ⟨hsame.ids,hsame.messaging,hsame.epochs,hsame.next,hsame.nextGeneration⟩
  · exact List.nil_sublist _
  · intro ref
    have h₁ := hlive ref
    have h₂ := hr.live ref
    simp only [clearModems,admittedRefs,List.map_nil,List.not_mem_nil,and_false,iff_false] at h₂ ⊢
    rw [h₁,h₂]
    tauto

theorem use_advances (r : Registry) (modems : ModemRef → Modem)
    (messaging : ModemRef → Messaging) : Advances r (r.use modems messaging) := by
  intro hr
  apply hr.shrink
  · exact ⟨fun _ => ⟨rfl,rfl⟩,fun _ => ⟨rfl,rfl⟩,rfl,rfl,rfl⟩
  · exact List.Sublist.refl _
  · intro ref
    have h₁ := hr.live ref
    simp only [use,admittedRefs] at h₁ ⊢
    rw [h₁]
    tauto

/-- An identifier in the table is drawn again. -/
theorem drawModemId_spec (random : Nat → Option (Vector UInt8 16)) (taken : CString → Bool)
    {tries drawn : Nat} {modemId : CString}
    (h : (drawModemId random taken tries drawn).1 = some modemId) : taken modemId = false := by
  induction tries generalizing drawn with
  | zero => simp [drawModemId] at h
  | succ tries ih =>
    simp only [drawModemId] at h
    split at h
    · cases h
    · split at h
      · exact ih h
      · rename_i hfree
        obtain rfl := Option.some.inj h
        simpa using hfree

/-- A new record takes the next address and the next generation. -/
theorem Inv.admit (hr : Inv r) (modem : Modem) (hpath : r.lookupPath path = none)
    (hlimit : r.nextGeneration ≠ Cell.uint32Max) (hid : r.modemIdExists modem.modemId = false)
    (hlive : modem.live = true) (hgeneration : modem.generation = r.nextGeneration+1) :
    Inv {(r.updateModem r.next modem).updateMessaging r.next Messaging.new with
      modemsByPath := AssocList.put r.modemsByPath path r.next
      next := r.next+1
      nextGeneration := r.nextGeneration+1} ∧
    Evolves r {(r.updateModem r.next modem).updateMessaging r.next Messaging.new with
      modemsByPath := AssocList.put r.modemsByPath path r.next
      next := r.next+1
      nextGeneration := r.nextGeneration+1} := by
  have hfresh : r.next ∉ r.admittedRefs := fun hm => Nat.lt_irrefl _ (hr.made _ hm)
  have hrefs : ∀ other, other ∈ (AssocList.put r.modemsByPath path r.next).map Prod.snd ↔
      other ∈ r.admittedRefs ∨ other = r.next := by
    intro other
    have hkeys := AssocList.lookup_eq_none.mp hpath
    have hkept : AssocList.remove r.modemsByPath path = r.modemsByPath := by
      rw [AssocList.remove,List.filter_eq_self]
      intro entry hm
      simp only [bne_iff_ne]
      exact fun he => hkeys (he ▸ List.mem_map.mpr ⟨entry,hm,rfl⟩)
    simp [AssocList.put,hkept,admittedRefs]
  have hunused : ∀ other ∈ r.admittedRefs, (r.modems other).modemId ≠ modem.modemId := by
    intro other hm he
    obtain ⟨entry,hentry,rfl⟩ := List.mem_map.mp hm
    have h₁ : r.modemIdExists modem.modemId = true :=
      List.any_eq_true.mpr ⟨entry,hentry,by simpa using he⟩
    simp [hid] at h₁
  have hne : ∀ other ∈ r.admittedRefs, other ≠ r.next := fun other hm he => hfresh (he ▸ hm)
  constructor
  · constructor
    · exact AssocList.keys_put_nodup _ hr.paths
    · apply AssocList.map_put_nodup (f:=id) hr.refs
      intro entry hm _ he
      exact hfresh (List.mem_map.mpr ⟨entry,hm,he⟩)
    · intro other
      have h₁ := hr.live other
      have h₂ := hrefs other
      simp only [admittedRefs] at h₁ h₂ ⊢
      rw [h₂]
      by_cases ho : other = r.next
      · simp [updateModem,updateMessaging,ho,hlive]
      · simpa [updateModem,updateMessaging,ho] using h₁
    · intro other hm
      rcases (hrefs other).mp hm with hm | rfl
      · exact Nat.lt_succ_of_lt (hr.made other hm)
      · exact Nat.lt_succ_self _
    · intro a ha b hb he
      simp only [updateModem,updateMessaging] at he
      rcases (hrefs a).mp ha with ha | rfl
      · rcases (hrefs b).mp hb with hb | rfl
        · rw [Function.update_of_ne (hne a ha),Function.update_of_ne (hne b hb)] at he
          exact hr.ids a ha b hb he
        · rw [Function.update_of_ne (hne a ha),Function.update_self] at he
          exact absurd he (hunused a ha)
      · rcases (hrefs b).mp hb with hb | rfl
        · rw [Function.update_self,Function.update_of_ne (hne b hb)] at he
          exact absurd he.symm (hunused b hb)
        · rfl
    · intro other hlt
      simp only [updateModem,updateMessaging]
      by_cases ho : other = r.next
      · rw [ho,Function.update_self,hgeneration,hr.next]
      · rw [Function.update_of_ne ho]
        exact hr.generations other (Nat.lt_of_le_of_ne (Nat.le_of_lt_succ hlt) ho)
    · simp [hr.next]
    · have h₁ := hr.bounded
      simp only
      omega
    · intro other
      simp only [updateModem,updateMessaging]
      by_cases ho : other = r.next
      · simp [ho,Messaging.new]
      · rw [Function.update_of_ne ho]
        exact hr.epochs other
  · constructor
    · exact Nat.le_succ _
    · intro other hlt
      simp [updateModem,updateMessaging,Nat.ne_of_lt hlt]
    · intro other hlt
      simp [updateModem,updateMessaging,Nat.ne_of_lt hlt]
    · intro other hlt
      simpa [updateModem,updateMessaging,Nat.ne_of_lt hlt] using
        Later.refl (r.messaging other) (r.epochs other)

theorem reconcileObject_advances (r : Registry) (object : GDBusObject) :
    Advances r (r.reconcileObject random object) := by
  rw [reconcileObject]
  split
  · exact removePath_advances r object.path
  rename_i mmModem _
  split
  · exact reconcileMessaging_advances r _ false object.messaging
  rename_i hpath
  split
  · exact .refl r
  split
  · exact .refl r
  rename_i hlimit
  have hdrawn : Advances r (r.newModemId random).2 := fun hr =>
    hr.shrink ⟨fun _ => ⟨rfl,rfl⟩,fun _ => ⟨rfl,rfl⟩,rfl,rfl,rfl⟩ (List.Sublist.refl _)
      fun ref => by
      have h₁ := hr.live ref
      simp only [newModemId,admittedRefs] at h₁ ⊢
      rw [h₁]
      tauto
  have hid : ∀ modemId, (r.newModemId random).1 = some modemId →
      r.modemIdExists modemId = false := fun _ h => drawModemId_spec random r.modemIdExists h
  split
  · rename_i r' hnew
    have h₁ := hdrawn
    rwa [hnew] at h₁
  · rename_i modemId r' hnew
    have hsame : r'.lookupPath object.path = none ∧ r'.nextGeneration ≠ Cell.uint32Max ∧
        r'.modemIdExists modemId = false := by
      obtain ⟨-,rfl⟩ := Prod.mk.inj hnew
      exact ⟨hpath,hlimit,hid modemId (by rw [hnew])⟩
    rw [hnew] at hdrawn
    refine hdrawn.trans (Advances.trans (fun hr => ?_)
      (reconcileMessaging_advances _ _ false object.messaging))
    exact hr.admit (newModem (r'.modems r'.next) mmModem.proxy modemId (r'.nextGeneration+1))
      hsame.1 hsame.2.1 hsame.2.2 rfl rfl

theorem reconcileAll_advances (r : Registry) (objects : List GDBusObject) :
    Advances r (r.reconcileAll random objects) := by
  rw [reconcileAll]
  induction objects generalizing r with
  | nil => exact .refl r
  | cons object objects ih => exact (reconcileObject_advances r object).trans (ih _)

theorem propertiesChanged_advances (r : Registry) (object : GDBusObject)
    (modemInterface simUpdated primarySlotUpdated : Bool) :
    Advances r
      (r.propertiesChanged random object modemInterface simUpdated primarySlotUpdated) := by
  have h₁ : Advances r (r.reconcileObject random object) := reconcileObject_advances r object
  simp only [propertiesChanged]
  split
  · exact h₁
  · split
    · exact h₁.trans (reconcileMessaging_advances _ _ true object.messaging)
    · exact h₁

theorem step_advances {event : Event} (hs : step random r event = some r') : Advances r r' := by
  cases event with
  | reconcileObject object =>
    obtain rfl := Option.some.inj hs
    exact reconcileObject_advances r object
  | objectRemoved path =>
    obtain rfl := Option.some.inj hs
    exact removePath_advances r path
  | propertiesChanged object modemInterface simUpdated primarySlotUpdated =>
    obtain rfl := Option.some.inj hs
    exact propertiesChanged_advances r object _ _ _
  | reconcileAll objects =>
    obtain rfl := Option.some.inj hs
    exact reconcileAll_advances r objects
  | nameOwnerChanged owner objects =>
    obtain rfl := Option.some.inj hs
    split
    · exact reconcileAll_advances r objects
    · exact clearModems_advances r
  | clearManagerConnection =>
    obtain rfl := Option.some.inj hs
    exact clearModems_advances r
  | used modems messaging =>
    obtain rfl := Option.some.inj hs
    exact use_advances r modems messaging

theorem Inv.of_initial (h : Initial r) : Inv r := by
  have hrefs : r.admittedRefs = [] := by simp [admittedRefs,h.modemsByPath]
  constructor
  · simp [AssocList.Keys,h.modemsByPath]
  · simp [hrefs]
  · simp [hrefs,h.live]
  · simp [hrefs]
  · simp [hrefs]
  · simp [h.next]
  · rw [h.nextGeneration,h.next]
  · simp [h.nextGeneration]
  · simp [h.messaging,Messaging.new]

theorem Inv.of_reachable (h : (registrySystem random).Reachable r) : Inv r :=
  h.invariant (fun _ => Inv.of_initial) fun r event r' hr hs =>
    (@step_advances r r' random event hs hr).1

/-- A run only advances. -/
theorem path_evolves {steps : List (Registry × Event)} (hr : Inv r)
    (h : (registrySystem random).Path r steps r') : Inv r' ∧ Evolves r r' := by
  induction h with
  | nil r => exact ⟨hr,.refl r⟩
  | cons hs _ ih =>
    obtain ⟨hr',h₁⟩ := @step_advances _ _ random _ hs hr
    obtain ⟨hr'',h₂⟩ := ih hr'
    exact ⟨hr'',h₁.trans h₂ hr''⟩

variable {bridge : Bridge} {tables : Mutation.Tables} {modemId : CString} {generation epoch : Nat}

theorem find_shown (h : (r.shown bridge).l850glBridgeFindModem modemId = some ref) :
    (r.modems ref).live = true ∧ (r.modems ref).modemId = modemId := by
  have h₁ := List.find?_some h
  simpa [shown] using h₁

theorem advancedMutationModem_ok
    (h : Advanced.advancedMutationModem tables (r.shown bridge) modemId generation = .ok ref) :
    (r.modems ref).live = true ∧ (r.modems ref).generation = generation := by
  simp only [Advanced.advancedMutationModem] at h
  split at h
  · cases h
  rename_i found hfind
  split at h
  · cases h
  rename_i hgeneration
  split at h
  · cases h
  split at h
  · cases h
  split at h
  · cases h
  · obtain rfl := Except.ok.inj h
    exact ⟨(find_shown hfind).1,by simpa [shown] using hgeneration⟩

theorem smsMutationModem_record {w : Sms.World}
    (h : smsMutationModem w tables modemId generation epoch = .ok ref) :
    (w.modem ref).live = true ∧ (w.modem ref).generation = generation := by
  have hattested := (smsMutationModem_ok h).1
  simp only [smsMutationModem] at h
  split at h
  · cases h
  split at h
  · cases h
  rename_i hgeneration
  split at h
  · cases h
  split at h
  · cases h
  split at h
  · cases h
  split at h
  · cases h
  · obtain rfl := Except.ok.inj h
    simp only [Modem.l850glModemAttestMutationTarget,Bool.and_eq_true] at hattested
    exact ⟨hattested.1.1,by simpa using hgeneration⟩

theorem l850RequestedModem_ok
    (h : Mutation.l850RequestedModem tables (r.shown bridge) modemId generation = .ok ref) :
    (r.modems ref).live = true ∧ (r.modems ref).generation = generation := by
  simp only [Mutation.l850RequestedModem] at h
  split at h
  · cases h
  split at h
  · cases h
  rename_i found hfind
  split at h
  · cases h
  rename_i hgeneration
  split at h
  · cases h
  split at h
  · cases h
  · obtain rfl := Except.ok.inj h
    exact ⟨(find_shown hfind).1,by simpa [shown] using hgeneration⟩

/-- A request with an old identity is admitted for its own record, which has stayed. -/
theorem Inv.reached {other : ModemRef} (hr : Inv r) (hr' : Inv r')
    (hmade : ref < r.next) (hadmitted : (r'.modems other).live = true ∧
      (r'.modems other).generation = (r.modems ref).generation) :
    other = ref ∧ (r'.modems ref).live = true := by
  obtain ⟨hlive,hgeneration⟩ := hadmitted
  have h₁ := hr'.generations other (hr'.made other ((hr'.live other).mp hlive))
  rw [hgeneration,hr.generations ref hmade] at h₁
  have h₂ : other = ref := (Nat.succ.inj h₁).symm
  exact ⟨h₂,h₂ ▸ hlive⟩

/-- Identities, generations and messaging epochs are never used twice, and a request that names
them is admitted for nothing else. -/
theorem registry_identities (h : (registrySystem random).Reachable r) :
    (∀ ref other, (r.modems ref).live = true → (r.modems other).live = true →
      (r.modems ref).modemId = (r.modems other).modemId ∨
        (r.modems ref).generation = (r.modems other).generation → ref = other) ∧
    (∀ ref other, ref < r.next → other < r.next →
      (r.modems ref).generation = (r.modems other).generation → ref = other) ∧
    (∀ ref, ref < r.next → (r.modems ref).generation ≤ Cell.uint32Max ∧
      (r.messaging ref).messagingGeneration ≤ Cell.uint32Max) ∧
    ∀ steps r', (registrySystem random).Path r steps r' →
      (r.nextGeneration = Cell.uint32Max → r'.next = r.next) ∧ ∀ ref, ref < r.next →
      (r'.modems ref).modemId = (r.modems ref).modemId ∧
      (r'.modems ref).generation = (r.modems ref).generation ∧
      (r'.epochs ref ≠ r.epochs ref →
        (r.messaging ref).messagingGeneration < (r'.messaging ref).messagingGeneration ∨
          (r'.messaging ref).messagingGeneration = Cell.uint32Max ∧
            (r'.messaging ref).messaging = none) ∧
      ∀ tables bridge,
        (∀ other, Advanced.advancedMutationModem tables (r'.shown bridge) (r.modems ref).modemId
            (r.modems ref).generation = .ok other ∨
          Mutation.l850RequestedModem tables (r'.shown bridge) (r.modems ref).modemId
            (r.modems ref).generation = .ok other → other = ref ∧ (r'.modems ref).live = true) ∧
        ∀ (w : Sms.World) other, w.bridge = r'.shown bridge → w.messaging = r'.messaging →
          smsMutationModem w tables (r.modems ref).modemId (r.modems ref).generation
            (r.messaging ref).messagingGeneration = .ok other →
          other = ref ∧ (r'.modems ref).live = true ∧ r'.epochs ref = r.epochs ref ∧
            (r'.messaging ref).messaging = (r.messaging ref).messaging := by
  have hr := Inv.of_reachable h
  refine ⟨?_,?_,?_,?_⟩
  · intro ref other hlive hlive' hsame
    have hm := (hr.live ref).mp hlive
    have hm' := (hr.live other).mp hlive'
    rcases hsame with hid | hgeneration
    · exact hr.ids ref hm other hm' hid
    · rw [hr.generations ref (hr.made ref hm),hr.generations other (hr.made other hm')]
        at hgeneration
      exact Nat.succ.inj hgeneration
  · intro ref other hlt hlt' hgeneration
    rw [hr.generations ref hlt,hr.generations other hlt'] at hgeneration
    exact Nat.succ.inj hgeneration
  · intro ref hlt
    refine ⟨?_,hr.epochs ref⟩
    rw [hr.generations ref hlt]
    exact (Nat.succ_le_of_lt hlt).trans (hr.next ▸ hr.bounded)
  intro steps r' hpath
  obtain ⟨hr',hevolves⟩ := path_evolves hr hpath
  constructor
  · intro hlimit
    have h₁ := hevolves.next
    have h₂ := hr'.bounded
    rw [hr'.next] at h₂
    rw [hr.next] at hlimit
    exact Nat.le_antisymm (hlimit ▸ h₂) h₁
  intro ref hmade
  have hid := hevolves.identity ref hmade
  have hlater := hevolves.later ref hmade
  refine ⟨hid.1,hid.2,hlater.left,fun tables bridge => ⟨?_,?_⟩⟩
  · rintro other (hadvanced | hrequested)
    · exact hr.reached hr' hmade (advancedMutationModem_ok hadvanced)
    · exact hr.reached hr' hmade (l850RequestedModem_ok hrequested)
  · intro w other hbridge hmessaging hok
    have hfound : (r'.modems other).live = true ∧
        (r'.modems other).generation = (r.modems ref).generation := by
      obtain ⟨hlive,hgeneration⟩ := smsMutationModem_record hok
      simpa [World.modem,hbridge,shown] using And.intro hlive hgeneration
    obtain ⟨rfl,hlive⟩ := hr.reached hr' hmade hfound
    obtain ⟨-,hepoch,hsome⟩ := smsMutationModem_ok hok
    rw [hmessaging] at hepoch hsome
    have hcount : r'.epochs other = r.epochs other := by
      by_contra hne
      rcases hlater.left hne with hlt | ⟨_,hnone⟩
      · omega
      · simp [hnone] at hsome
    exact ⟨rfl,hlive,hcount,(hlater.kept hcount).1⟩

def sampleStart : Registry where
  modemsByPath := []
  modems := fun _ => sampleModem false 10 0
  messaging := fun _ => Messaging.new
  next := 0
  nextGeneration := 0
  drawn := 0
  randomFailed := false
  epochs := fun _ => 0

theorem sampleStart_initial : Initial sampleStart := ⟨rfl,fun _ => rfl,fun _ => rfl,rfl,rfl⟩

/-- A random source that repeats itself. -/
def sampleRandom (_ : Nat) : Option (Vector UInt8 16) := some (Vector.replicate 16 0)

def sampleObject (path : String) : GDBusObject where
  path := path.toList
  isMMObject := true
  modem := some ⟨10,some "Fibocom".toList,some "Fibocom Wireless Inc.".toList⟩
  messaging := some 7

/-- A modem appears, disappears and appears again under another path. -/
def sampleAppeared : Registry :=
  sampleStart.reconcileObject sampleRandom (sampleObject "/Modem/0")

def sampleBack : Registry :=
  (sampleAppeared.removePath "/Modem/0".toList).reconcileObject sampleRandom
    (sampleObject "/Modem/1")

theorem sampleBack_modems : sampleAppeared.next = 1 ∧ (sampleBack.modems 0).live = false ∧
    (sampleBack.modems 1).live = true ∧
      (sampleBack.modems 1).modemId = (sampleAppeared.modems 0).modemId := by
  decide +kernel

/-- The rule at that run: the modem has its old identifier back, and an old request fails. -/
theorem registry_identities_sample :
    (sampleBack.modems 1).modemId = (sampleAppeared.modems 0).modemId ∧
    ∀ tables bridge other, Advanced.advancedMutationModem tables (sampleBack.shown bridge)
      (sampleAppeared.modems 0).modemId (sampleAppeared.modems 0).generation ≠ .ok other := by
  obtain ⟨hnext,hdead,_,hid⟩ := sampleBack_modems
  have hreach : (registrySystem sampleRandom).Reachable sampleAppeared :=
    .step (e:=.reconcileObject (sampleObject "/Modem/0")) (.start sampleStart_initial) trivial rfl
  have hpath : ∃ steps, (registrySystem sampleRandom).Path sampleAppeared steps sampleBack :=
    ⟨_,.cons (e:=.objectRemoved "/Modem/0".toList) rfl
      (.cons (e:=.reconcileObject (sampleObject "/Modem/1")) rfl (.nil _))⟩
  obtain ⟨steps,hpath⟩ := hpath
  refine ⟨hid,fun tables bridge other hok => ?_⟩
  have hlaw := ((registry_identities hreach).2.2.2 steps sampleBack hpath).2 0
    (by rw [hnext]; decide)
  have hlive := ((hlaw.2.2.2 tables bridge).1 other (.inl hok)).2
  simp [hdead] at hlive

end Registry
end L850GL
