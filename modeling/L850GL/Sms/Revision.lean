import L850GL.Lib.Version
import L850GL.Sms.Epochs
import L850GL.Sms.Listing

/-! The revision of a message cache: two answers of `list_sms` with one epoch and one revision
show the same messages. -/
namespace L850GL
namespace Sms

open AssocList Identity Messaging Mutation Sorting Version World

variable {w w' : World} {ref : ModemRef} {sha256 : CString → Digest}
  {random : Nat → Option (Vector UInt8 16)} {event : Event} {changes : List Change}
  {s : Messaging × Nat} {m m' : Messaging} {request request' : ListSmsRequest}
  {reply reply' : Reply}

/-- The epoch and the revision in it, which `list_sms` reports. -/
def Messaging.version (m : Messaging) : Nat ×ₗ Nat := toLex (m.messagingGeneration,m.smsRevision)

/-- A counter has reached its last value: the revision, or the epoch of a record that is left
without a messaging object. -/
def Messaging.Exhausted (m : Messaging) : Prop :=
  uint64Max ≤ m.smsRevision ∨ m.messaging = none ∧ m.messagingGeneration = Cell.uint32Max

theorem smsRevisionBump_le (m : Messaging) : m.smsRevision ≤ m.smsRevisionBump.smsRevision := by
  simp only [Messaging.smsRevisionBump]
  split
  · exact Nat.le_succ _
  · exact Nat.le_refl _

theorem exhausted_or_lt_of_bump (he : m'.messagingGeneration = m.messagingGeneration)
    (hr : m'.smsRevision = m.smsRevisionBump.smsRevision) :
    m'.Exhausted ∨ m.version < m'.version := by
  simp only [Messaging.smsRevisionBump] at hr
  by_cases hlt : m.smsRevision < uint64Max
  · rw [if_pos hlt] at hr
    refine .inr (Prod.Lex.toLex_lt_toLex.mpr (.inr ⟨he.symm,?_⟩))
    simp only
    omega
  · rw [if_neg hlt] at hr
    exact .inl (.inl (by omega))

theorem tracked_of_bump (he : m'.messagingGeneration = m.messagingGeneration)
    (hr : m'.smsRevision = m.smsRevisionBump.smsRevision) :
    Tracked Messaging.version Messaging.smsByPath Messaging.Exhausted m m' :=
  (exhausted_or_lt_of_bump he hr).imp id .inl

theorem tracked_of_same (he : m'.messagingGeneration = m.messagingGeneration)
    (hr : m'.smsRevision = m.smsRevision) (hc : m'.smsByPath = m.smsByPath) :
    Tracked Messaging.version Messaging.smsByPath Messaging.Exhausted m m' :=
  .inr (.inr ⟨by rw [Messaging.version,he,hr]; rfl,hc⟩)

theorem changeEpoch_tracked (m : Messaging) (object : Option Nat) :
    Tracked Messaging.version Messaging.smsByPath Messaging.Exhausted m
      (m.changeEpoch object) := by
  by_cases hlast : m.messagingGeneration = Cell.uint32Max
  · refine .inl (.inr ?_)
    simp [Messaging.changeEpoch,leaveEpoch,clearSmsCache,hlast]
  · refine .inr (.inl (Prod.Lex.toLex_lt_toLex.mpr (.inl ?_)))
    have he : (m.changeEpoch object).messagingGeneration = m.messagingGeneration+1 := by
      cases object <;>
        simp [Messaging.changeEpoch,leaveEpoch,clearSmsCache,Messaging.smsRevisionBump,hlast]
    simp only [he]
    omega

theorem changeEpoch_revision (m : Messaging) (object : Option Nat) :
    m.smsRevision ≤ (m.changeEpoch object).smsRevision := by
  by_cases hlast : m.messagingGeneration = Cell.uint32Max
  · simp [Messaging.changeEpoch,leaveEpoch,clearSmsCache,hlast]
  · have hr : (m.changeEpoch object).smsRevision = m.smsRevisionBump.smsRevision := by
      have hne : ¬m.leaveEpoch.messagingGeneration = Cell.uint32Max := hlast
      simp only [Messaging.changeEpoch]
      rw [if_neg hne]
      cases object <;> rfl
    rw [hr]
    exact smsRevisionBump_le m

/-- A reserved id is new in the cache, so that a message under it is a change of the revision. -/
theorem admitReservedSms_revision (h : IdsOf random s) (ref : ModemRef) (generation : Nat)
    (sms : MMSms) (reservedId : CString) :
    (s.1.admitReservedSms ref generation sms reservedId).1.smsRevision = s.1.smsRevision ∧
        (s.1.admitReservedSms ref generation sms reservedId).1.smsByPath = s.1.smsByPath ∨
      (s.1.admitReservedSms ref generation sms reservedId).1.smsRevision =
        s.1.smsRevisionBump.smsRevision := by
  obtain ⟨hm,-⟩ | ⟨hm,-⟩ | ⟨path,entry,-,-,hres,-,-,-,-,hm | ⟨-,hused⟩⟩ :=
    s.1.admitReservedSms_cases ref generation sms reservedId
  · rw [hm]
    exact .inl ⟨rfl,rfl⟩
  · rw [hm]
    exact .inl ⟨rfl,rfl⟩
  · rw [hm]
    exact .inr rfl
  · exact absurd hused (h.disjoint reservedId hres)

theorem rebuildCache_revision (m : Messaging) (ref : ModemRef) (generation : Nat)
    (properties : Nat → SmsProperties) (messages : List MMSms) (drawn : Nat) :
    (m.rebuildCache random ref generation properties messages drawn).1.smsRevision =
      m.smsRevisionBump.smsRevision := by
  simp only [Messaging.rebuildCache]
  split <;> rfl

theorem smsDeleted_revision (m : Messaging) (path : CString) :
    (m.smsDeleted path).smsRevision = m.smsRevision ∧ (m.smsDeleted path).smsByPath = m.smsByPath ∨
      (m.smsDeleted path).smsRevision = m.smsRevisionBump.smsRevision := by
  simp only [Messaging.smsDeleted]
  split_ifs
  · split
    · exact .inl ⟨rfl,rfl⟩
    · exact .inr rfl
  · split
    · exact .inl ⟨rfl,rfl⟩
    · exact .inr rfl

/-- A change of the messages inside an epoch is a change of the revision. -/
theorem apply_revision (h : IdsOf random s) (ref : ModemRef) {change : Change}
    (hclear : change ≠ .clear) (hepoch : ∀ object, change ≠ .epoch object) :
    (change.apply random ref s).1.smsRevision = s.1.smsRevision ∧
        (change.apply random ref s).1.smsByPath = s.1.smsByPath ∨
      (change.apply random ref s).1.smsRevision = s.1.smsRevisionBump.smsRevision := by
  have hkeep : change.KeepsCache →
      (change.apply random ref s).1.smsRevision = s.1.smsRevision →
      (change.apply random ref s).1.smsRevision = s.1.smsRevision ∧
          (change.apply random ref s).1.smsByPath = s.1.smsByPath ∨
        (change.apply random ref s).1.smsRevision = s.1.smsRevisionBump.smsRevision :=
    fun hk hr => .inl ⟨hr,apply_keepsCache hk⟩
  cases change with
  | querySms =>
    refine hkeep trivial ?_
    simp only [Change.apply,Messaging.querySms]
    split_ifs <;> rfl
  | dedupePrune | dedupeRemove | dedupeStore => exact hkeep trivial rfl
  | reserve =>
    refine hkeep trivial ?_
    simp only [Change.apply,Messaging.reserveSmsId]
    split <;> rfl
  | release smsId =>
    refine hkeep trivial ?_
    cases smsId <;> rfl
  | enter generation sms reservedId =>
    exact admitReservedSms_revision h ref generation sms reservedId
  | listFailed => exact .inr rfl
  | rebuild generation properties messages =>
    exact .inr (rebuildCache_revision s.1.answered ref generation properties messages s.2)
  | added path =>
    right
    simp only [Change.apply,Messaging.smsAdded]
    split <;> rfl
  | deleted path => exact smsDeleted_revision s.1 path
  | revisionBump => exact .inr rfl
  | clear => exact absurd rfl hclear
  | epoch object => exact absurd rfl (hepoch object)

theorem apply_tracked (h : IdsOf random s) (ref : ModemRef) {change : Change}
    (hclear : change ≠ .clear) :
    Tracked Messaging.version Messaging.smsByPath Messaging.Exhausted s.1
      (change.apply random ref s).1 := by
  by_cases hepoch : ∃ object, change = .epoch object
  · obtain ⟨object,rfl⟩ := hepoch
    exact changeEpoch_tracked s.1 object
  · have hne : ∀ object, change ≠ .epoch object := fun object he => hepoch ⟨object,he⟩
    have hg := (apply_messaging random ref (s:=s) hne).2
    rcases apply_revision h ref hclear hne with ⟨hr,hc⟩ | hr
    · exact tracked_of_same hg hr hc
    · exact tracked_of_bump hg hr

/-- A used up counter stays so. -/
theorem apply_exhausted (h : IdsOf random s) (ref : ModemRef) (change : Change)
    (hx : s.1.Exhausted) : (change.apply random ref s).1.Exhausted := by
  by_cases hepoch : ∃ object, change = .epoch object
  · obtain ⟨object,rfl⟩ := hepoch
    rcases hx with hx | ⟨-,hx⟩
    · exact .inl (Nat.le_trans hx (changeEpoch_revision s.1 object))
    · right
      simp [Change.apply,Messaging.changeEpoch,leaveEpoch,clearSmsCache,hx]
  · have hne : ∀ object, change ≠ .epoch object := fun object he => hepoch ⟨object,he⟩
    obtain ⟨hm,hg⟩ := apply_messaging random ref (s:=s) hne
    rcases hx with hx | ⟨hx,hx'⟩
    · left
      by_cases hclear : change = .clear
      · subst hclear
        exact hx
      · rcases apply_revision h ref hclear hne with ⟨hr,-⟩ | hr
        · rw [hr]
          exact hx
        · rw [hr]
          exact Nat.le_trans hx (smsRevisionBump_le s.1)
    · exact .inr ⟨hm.trans hx,hg.trans hx'⟩

theorem applyAll_exhausted (h : IdsOf random s) (ref : ModemRef) (changes : List Change)
    (hx : s.1.Exhausted) : (applyAll random ref s changes).1.Exhausted := by
  induction changes generalizing s with
  | nil => exact hx
  | cons change changes ih =>
    exact ih (apply_ids h ref change).ids (apply_exhausted h ref change hx)

theorem apply_revisionBound (h : IdsOf random s) (ref : ModemRef) (change : Change)
    (hbound : s.1.smsRevision ≤ uint64Max) :
    (change.apply random ref s).1.smsRevision ≤ uint64Max := by
  have hbump : s.1.smsRevisionBump.smsRevision ≤ uint64Max := by
    simp only [Messaging.smsRevisionBump]
    split
    · omega
    · exact hbound
  by_cases hepoch : ∃ object, change = .epoch object
  · obtain ⟨object,rfl⟩ := hepoch
    have hleave : s.1.leaveEpoch.smsRevisionBump.smsRevision ≤ uint64Max := hbump
    simp only [Change.apply,Messaging.changeEpoch]
    split
    · exact hbound
    split
    · exact hleave
    · exact hleave
  by_cases hclear : change = .clear
  · subst hclear
    exact hbound
  · rcases apply_revision h ref hclear fun object he => hepoch ⟨object,he⟩ with ⟨hr,-⟩ | hr
    · rwa [hr]
    · rwa [hr]

/-- The revisions stay within the range of their field. -/
theorem reachable_revisionBound (h : (smsSystem sha256 random).Reachable w) (ref : ModemRef) :
    (w.messaging ref).smsRevision ≤ uint64Max := by
  induction h with
  | start h₀ =>
    rw [Initial.messaging h₀]
    exact Nat.zero_le _
  | @step w w' event h _ hs ih =>
    have hinv := (reachable_epochInv h).ids
    obtain ⟨changed,changes,hr,-⟩ := step_script hinv hs
    have hall : ∀ s : Messaging × Nat, IdsOf random s → s.1.smsRevision ≤ uint64Max →
        (applyAll random changed s changes).1.smsRevision ≤ uint64Max := by
      clear hr
      induction changes with
      | nil => exact fun s _ hs => hs
      | cons change changes ihc =>
        exact fun s hi hs => ihc _ (apply_ids hi changed change).ids
          (apply_revisionBound hi changed change hs)
    by_cases ho : ref = changed
    · subst ho
      rw [show w'.messaging ref = _ from congrArg Prod.fst hr.of_report.1]
      exact hall _ (hinv.ids ref) ih
    · rw [hr.of_report.2 ref ho]
      exact ih

theorem applyAll_tracked (h : IdsOf random s) (ref : ModemRef) (hclear : .clear ∉ changes) :
    Tracked Messaging.version Messaging.smsByPath Messaging.Exhausted s.1
      (applyAll random ref s changes).1 := by
  induction changes generalizing s with
  | nil => exact .refl s.1
  | cons change changes ih =>
    have hi := (apply_ids h ref change).ids
    have h₁ := apply_tracked h ref fun he : change = .clear => hclear (he ▸ List.mem_cons_self)
    have h₂ := ih hi fun hm => hclear (List.mem_cons_of_mem _ hm)
    exact h₁.trans h₂ (applyAll_exhausted hi ref changes)

/-- The properties of a proxy change when it is told so, which is what the handler of a cached
message hears. -/
def PropertiesFit (w : World) (event : Event × Bridge) : Prop :=
  ∀ ref path properties, event.1 = .smsPropertiesChanged ref path properties →
    ∀ other, ∀ entry ∈ (w.messaging other).smsByPath,
      properties entry.2.sms.object ≠ w.properties entry.2.sms.object →
        other = ref ∧ entry.1 = path

/-- What `list_sms` can show of a record: the cached messages with what they report. -/
def shown (ref : ModemRef) (w : World) : List (CString × L850GLSms) × List SmsProperties :=
  ((w.messaging ref).smsByPath,
    (w.messaging ref).smsByPath.map fun entry => w.properties entry.2.sms.object)

def shownVersion (ref : ModemRef) (w : World) : Nat ×ₗ Nat := (w.messaging ref).version

/-- The record is dead, or one of its counters is used up. -/
def Retired (ref : ModemRef) (w : World) : Prop :=
  (w.modem ref).live = false ∨ (w.messaging ref).Exhausted

theorem tracked_shown
    (h : Tracked Messaging.version Messaging.smsByPath Messaging.Exhausted (w.messaging ref)
      (w'.messaging ref))
    (hp : ∀ entry ∈ (w.messaging ref).smsByPath,
      w'.properties entry.2.sms.object = w.properties entry.2.sms.object) :
    Tracked (shownVersion ref) (shown ref) (Retired ref) w w' := by
  rcases h with h | h | ⟨hv,hc⟩
  · exact .inl (.inr h)
  · exact .inr (.inl h)
  · refine .inr (.inr ⟨hv,?_⟩)
    simp only [shown,hc]
    congr 1
    exact List.map_congr_left hp

theorem Script.clear_mem (hs : Script sha256 random w w' event ref changes)
    (h : .clear ∈ changes) : event = .removed ref := by
  cases hs with
  | removed => rfl
  | listFailed _ _ _ _ _ later hlater | listed _ _ _ _ _ later hlater =>
    rw [hlater] at h
    split at h <;> simp at h
  | ended before settlement ha hb hst =>
    cases hb <;> cases hst <;> simp at h
  | _ => simp at h

theorem step_removed {bridge : Bridge}
    (hs : step sha256 random w (.removed ref,bridge) = some w') :
    (w'.modem ref).live = false := by
  simp only [step,Option.ite_none_right_eq_some,handle,Option.some.injEq] at hs
  obtain ⟨-,-,rfl⟩ := hs
  simp [markRemoved,World.modem,updateMessaging,Bridge.updateModem,Modem.modemMarkRemoved]

theorem smsPropertiesChanged_messaging (changed : ModemRef) (path : CString)
    (properties : Nat → SmsProperties) (ref : ModemRef) :
    (smsPropertiesChanged w changed path properties).messaging ref = w.messaging ref ∨
      (smsPropertiesChanged w changed path properties).messaging ref =
        (w.messaging ref).smsRevisionBump := by
  simp only [smsPropertiesChanged]
  split
  · exact .inl rfl
  split
  · by_cases ho : ref = changed
    · subst ho
      exact .inr (by simp [updateMessaging])
    · exact .inl (by simp [updateMessaging,ho])
  · exact .inl rfl

theorem smsPropertiesChanged_live (changed : ModemRef) (path : CString)
    (properties : Nat → SmsProperties) (ref : ModemRef) :
    ((smsPropertiesChanged w changed path properties).modem ref).live = (w.modem ref).live := by
  simp only [smsPropertiesChanged]
  split
  · rfl
  split
  · rfl
  · rfl

theorem smsPropertiesChanged_properties (changed : ModemRef) (path : CString)
    (properties : Nat → SmsProperties) :
    (smsPropertiesChanged w changed path properties).properties = properties := by
  simp only [smsPropertiesChanged]
  split
  · rfl
  split
  · rfl
  · rfl

/-- The handler of a live record's message counts the revision. -/
theorem smsPropertiesChanged_bump (hi : EpochInv random w) {entry : CString × L850GLSms}
    (hm : entry ∈ (w.messaging ref).smsByPath) (hlive : (w.modem ref).live = true)
    (properties : Nat → SmsProperties) :
    (smsPropertiesChanged w ref entry.1 properties).messaging ref =
      (w.messaging ref).smsRevisionBump := by
  have hlookup : lookupSms (w.messaging ref).smsByPath entry.1 = some entry.2 :=
    (lookup_eq_some (hi.ids.ids ref).keys).mpr hm
  have hs := hi.stamped ref entry hm
  have hcurrent : entry.2.owner = some ref ∧ (w.modem ref).live = true ∧
      entry.2.modemGeneration = (w.modem ref).generation ∧
      entry.2.messagingGeneration = (w.messaging ref).messagingGeneration :=
    ⟨hs.owner,hlive,hs.modemGeneration,hs.messagingGeneration⟩
  simp only [smsPropertiesChanged,hlookup]
  have hlive' : ({w with properties := properties}.modem ref).live = true := hlive
  rw [if_pos ⟨hcurrent.1,hlive',hcurrent.2.2.1,hcurrent.2.2.2⟩]
  simp [updateMessaging]

theorem smsPropertiesChanged_tracked (hi : EpochInv random w) (ref : ModemRef)
    {changed : ModemRef} {path : CString} {properties : Nat → SmsProperties}
    (hfit : ∀ other, ∀ entry ∈ (w.messaging other).smsByPath,
      properties entry.2.sms.object ≠ w.properties entry.2.sms.object →
        other = changed ∧ entry.1 = path) :
    Tracked (shownVersion ref) (shown ref) (Retired ref) w
      (smsPropertiesChanged w changed path properties) := by
  by_cases hkeep : ∀ entry ∈ (w.messaging ref).smsByPath,
      properties entry.2.sms.object = w.properties entry.2.sms.object
  · refine tracked_shown ?_ fun entry hm => ?_
    · rcases smsPropertiesChanged_messaging changed path properties ref with hm | hm
      · rw [hm]
        exact .refl _
      · rw [hm]
        exact tracked_of_bump rfl rfl
    · rw [smsPropertiesChanged_properties]
      exact hkeep entry hm
  · simp only [not_forall] at hkeep
    obtain ⟨entry,hm,hne⟩ := hkeep
    obtain ⟨rfl,rfl⟩ := hfit ref entry hm hne
    cases hlive : (w.modem ref).live with
    | false => exact .inl (.inl ((smsPropertiesChanged_live _ _ _ _).trans hlive))
    | true =>
      have hb := smsPropertiesChanged_bump hi hm hlive properties
      have hv : (w.messaging ref).smsRevisionBump.Exhausted ∨
          (w.messaging ref).version < (w.messaging ref).smsRevisionBump.version :=
        exhausted_or_lt_of_bump rfl rfl
      rw [← hb] at hv
      rcases hv with hv | hv
      · exact .inl (.inr hv)
      · exact .inr (.inl hv)

/-- No step shows something else of a record at the same version. -/
theorem step_tracked {event : Event × Bridge} (hi : EpochInv random w)
    (hs : step sha256 random w event = some w') (hfit : PropertiesFit w event)
    (hadm : ref < w.admitted) :
    ref < w'.admitted ∧ Tracked (shownVersion ref) (shown ref) (Retired ref) w w' ∧
      (Retired ref w → Retired ref w') := by
  obtain ⟨changed,changes,hr,hc⟩ := step_script hi.ids hs
  have he := (step_effect hi.ids.pending hs).2
  have hdead : (w.modem ref).live = false → (w'.modem ref).live = false := by
    intro hd
    refine he.stays_dead hadm ?_
    rw [← hd]
    exact refreshModem_live _ _
  have hself : ref = changed →
      w'.messaging ref = (applyAll random ref (w.messaging ref,w.drawn) changes).1 := by
    rintro rfl
    exact congrArg Prod.fst hr.of_report.1
  have hother : ref ≠ changed → w'.messaging ref = w.messaging ref := hr.of_report.2 ref
  refine ⟨Nat.lt_of_lt_of_le hadm he.admitted_le,?_,?_⟩
  · by_cases hprop : ∃ ref path properties, event.1 = .smsPropertiesChanged ref path properties
    · obtain ⟨signalled,path,properties,hevent⟩ := hprop
      have hw : w' = smsPropertiesChanged (w.refresh event.2) signalled path properties := by
        simp only [step,hevent,handle,Option.ite_none_right_eq_some,Option.some.injEq] at hs
        exact hs.2.symm
      have ht := smsPropertiesChanged_tracked (hi.refresh event.2) ref
        (fun other entry hm => hfit signalled path properties hevent other entry hm)
      rw [hw]
      exact ht
    · have hproperties : w'.properties = w.properties := by
        rw [hr.properties]
        cases hevent : event.1 with
        | smsPropertiesChanged ref path properties => exact absurd ⟨_,_,_,hevent⟩ hprop
        | _ => rfl
      by_cases hclear : .clear ∈ changes ∧ ref = changed
      · obtain ⟨hm,rfl⟩ := hclear
        have hremoved := hc.clear_mem hm
        have hs' : step sha256 random w (.removed ref,event.2) = some w' := by
          rw [← hremoved]
          exact hs
        exact .inl (.inl (step_removed hs'))
      · refine tracked_shown ?_ fun entry _ => by rw [hproperties]
        by_cases ho : ref = changed
        · rw [hself ho]
          exact applyAll_tracked (hi.ids.ids ref) ref fun hm => hclear ⟨hm,ho⟩
        · rw [hother ho]
          exact .refl _
  · rintro (hd | hx)
    · exact .inl (hdead hd)
    · right
      by_cases ho : ref = changed
      · rw [hself ho]
        exact applyAll_exhausted (hi.ids.ids ref) ref changes hx
      · rw [hother ho]
        exact hx

theorem path_tracked {steps : List (World × (Event × Bridge))}
    (h : (smsSystem sha256 random).Reachable w) (hpath : (smsSystem sha256 random).Path w steps w')
    (hfit : ∀ run ∈ steps, PropertiesFit run.1 run.2) (hlive : (w.modem ref).live = true) :
    Tracked (shownVersion ref) (shown ref) (Retired ref) w w' := by
  have hi := reachable_epochInv h
  have hstart : EpochInv random w ∧ ref < w.admitted := ⟨hi,hi.ids.holding.live ref hlive⟩
  refine (Version.path_tracked (P:=fun w => EpochInv random w ∧ ref < w.admitted) hpath hstart
    fun run hm t hP hs => ?_).1
  obtain ⟨hadm,ht,hr⟩ := step_tracked hP.1 hs (hfit run hm) hP.2
  exact ⟨⟨hP.1.step hs,hadm⟩,ht,hr⟩

/-- The state that serves a request. -/
structure Serves (w : World) (request : ListSmsRequest) (ref : ModemRef) : Prop where
  identity : l850glIdentityIsValid request.modemId = true
  found : w.bridge.l850glBridgeFindModem request.modemId = some ref
  messaging : (w.messaging ref).messaging ≠ none
  ready : (w.messaging ref).smsCacheState.isReady = true
  limit : 1 ≤ request.limit ∧ request.limit ≤ smsMaxLimit

theorem methodListSms_serves {snapshot : List L850GLSms}
    (h : (methodListSms w (some request)).2 = .served ref snapshot) :
    Serves w request ref ∧ snapshot = (w.messaging ref).smsByPath.map (·.2) := by
  simp only [methodListSms] at h
  split at h
  · cases h
  rename_i hid
  split at h
  · cases h
  rename_i hlimit
  split at h
  · cases h
  split at h
  · split at h <;> cases h
  rename_i found hfind
  split at h
  · cases h
  rename_i hsome
  split at h
  · cases h
  rename_i hready
  cases h
  refine ⟨⟨by simpa using hid,hfind,fun hn => hsome (by rw [hn]; rfl),
    by simpa using hready,by omega⟩,rfl⟩

/-- What an answer of `list_sms` was made from. -/
theorem listSmsReply_ok (h : listSmsReply w request = .ok reply) :
    ∃ ref page, Serves w request ref ∧
      smsPage (smsView w.properties request.folder ((w.messaging ref).smsByPath.map (·.2)))
        request.limit request.cursor = some page ∧
      reply = smsPageReply w ref request page := by
  simp only [listSmsReply] at h
  split at h
  · cases h
  · rename_i ref snapshot hserved
    obtain ⟨hs,rfl⟩ := methodListSms_serves hserved
    split at h
    · cases h
    · rename_i page hpage
      cases h
      exact ⟨ref,page,hs,hpage,rfl⟩

theorem find_live {modemId : CString} (h : w.bridge.l850glBridgeFindModem modemId = some ref) :
    (w.modem ref).live = true ∧ (w.modem ref).modemId = modemId := by
  have h₁ := List.find?_some h
  simpa [World.modem] using h₁

theorem smsPageReply_generation (w : World) (ref : ModemRef) (request : ListSmsRequest)
    (page : Pages.Page L850GLSms CString) :
    (smsPageReply w ref request page).lookup "generation" =
      some (.u32 (w.modem ref).generation) := rfl

theorem smsPageReply_messagingGeneration (w : World) (ref : ModemRef) (request : ListSmsRequest)
    (page : Pages.Page L850GLSms CString) :
    (smsPageReply w ref request page).lookup "messaging_generation" =
      some (.u32 (w.messaging ref).messagingGeneration) := rfl

theorem smsPageReply_revision (w : World) (ref : ModemRef) (request : ListSmsRequest)
    (page : Pages.Page L850GLSms CString) :
    (smsPageReply w ref request page).lookup "revision" =
      some (.u64 (w.messaging ref).smsRevision) := rfl

/-- The messages of a record as `list_sms` takes them out of its hash table. -/
def Messaging.snapshot (m : Messaging) : List L850GLSms := m.smsByPath.map (·.2)

theorem snapshot_eq_of_smsId (h : IdsOf random s) {entry entry' : L850GLSms}
    (hm : entry ∈ s.1.snapshot) (hm' : entry' ∈ s.1.snapshot) (hid : entry.smsId = entry'.smsId) :
    entry = entry' := by
  have hnodup : (s.1.snapshot.map (·.smsId)).Nodup := by
    rw [Messaging.snapshot,List.map_map]
    exact h.ids
  exact List.inj_on_of_nodup_map hnodup hm hm' hid

/-- A view does not depend on the order of the hash table. -/
theorem smsView_congr (h : IdsOf random s) {properties properties' : Nat → SmsProperties}
    (hp : ∀ entry ∈ s.1.snapshot,
      properties' entry.sms.object = properties entry.sms.object)
    {order order' : List L850GLSms} (ho : order.Perm s.1.snapshot) (ho' : order'.Perm s.1.snapshot)
    (folder : Folder) : smsView properties folder order = smsView properties' folder order' := by
  have hfilter : (order.filter fun entry =>
        folder == .all || folder == smsFolder (properties' entry.sms.object)) =
      order.filter fun entry =>
        folder == .all || folder == smsFolder (properties entry.sms.object) :=
    List.filter_congr fun entry hm => by rw [hp entry (ho.mem_iff.mp hm)]
  have hmem : ∀ {entry : L850GLSms}, entry ∈ (order.filter fun entry =>
      folder == .all || folder == smsFolder (properties entry.sms.object)) → entry ∈ s.1.snapshot :=
    fun hm => ho.mem_iff.mp (List.mem_of_mem_filter hm)
  refine sortBy_congr (hfilter ▸ (ho.trans ho'.symm).filter _) (fun a ha b hb => ?_)
    fun a ha b hb he => ?_
  · rw [smsCompare,smsCompare,hp a (hmem ha),hp b (hmem hb)]
  · exact snapshot_eq_of_smsId h (hmem ha) (hmem hb) (smsCompare_eq_eq he)

theorem mem_smsView {properties : Nat → SmsProperties} {folder : Folder}
    {order : List L850GLSms} {entry : L850GLSms} (hm : entry ∈ smsView properties folder order) :
    entry ∈ order := List.mem_of_mem_filter (mem_sortBy.mp hm)

theorem addSmsEntry_congr {properties properties' : Nat → SmsProperties} {entry : L850GLSms}
    (h : properties' entry.sms.object = properties entry.sms.object) :
    addSmsEntry properties' entry = addSmsEntry properties entry := by
  rw [addSmsEntry,addSmsEntry,h]

/-- Two states in which a record is served with one version, have one view of it. -/
theorem Serves.sameView (h : (smsSystem sha256 random).Reachable w)
    (hpath : (smsSystem sha256 random).Path w steps w')
    (hfit : ∀ run ∈ steps, PropertiesFit run.1 run.2) {bridge bridge' : Bridge}
    (hs : Serves (w.refresh bridge) request ref) (hs' : Serves (w'.refresh bridge') request' ref)
    (hepoch : (w'.messaging ref).messagingGeneration = (w.messaging ref).messagingGeneration)
    (hrevision : (w'.messaging ref).smsRevision = (w.messaging ref).smsRevision)
    (hlast : (w.messaging ref).smsRevision < uint64Max) :
    (w'.messaging ref).smsByPath = (w.messaging ref).smsByPath ∧
    (∀ entry ∈ (w.messaging ref).smsByPath,
      w'.properties entry.2.sms.object = w.properties entry.2.sms.object) ∧
    ∀ folder order order', order.Perm (w.messaging ref).snapshot →
      order'.Perm (w'.messaging ref).snapshot →
      smsView w'.properties folder order' = smsView w.properties folder order ∧
      (smsView w'.properties folder order').map (addSmsEntry w'.properties) =
        (smsView w.properties folder order).map (addSmsEntry w.properties) := by
  have hlive : (w.modem ref).live = true := by
    rw [← (find_live hs.found).1]
    exact (refreshModem_live _ _).symm
  have hlive' : (w'.modem ref).live = true := by
    rw [← (find_live hs'.found).1]
    exact (refreshModem_live _ _).symm
  have hopen : ¬Retired ref w' := by
    rintro (hd | hx | ⟨hm,-⟩)
    · rw [hlive'] at hd
      cases hd
    · omega
    · exact hs'.messaging hm
  have hversion : shownVersion ref w' = shownVersion ref w :=
    congrArg toLex (Prod.ext hepoch hrevision)
  have hshown := (path_tracked h hpath hfit hlive).view_eq hopen hversion
  obtain ⟨hcache,hproperties⟩ := Prod.mk.inj hshown
  have hp : ∀ entry ∈ (w.messaging ref).smsByPath,
      w'.properties entry.2.sms.object = w.properties entry.2.sms.object := by
    rw [hcache] at hproperties
    exact List.map_inj_left.mp hproperties
  refine ⟨hcache,hp,fun folder order order' ho ho' => ?_⟩
  have hsnapshot : (w'.messaging ref).snapshot = (w.messaging ref).snapshot := by
    rw [Messaging.snapshot,hcache]
    rfl
  have hsp : ∀ entry ∈ (w.messaging ref).snapshot,
      w'.properties entry.sms.object = w.properties entry.sms.object := by
    intro entry hm
    obtain ⟨pair,hpair,rfl⟩ := List.mem_map.mp hm
    exact hp pair hpair
  have hview := smsView_congr ((reachable_epochInv h).ids.ids ref) hsp ho (hsnapshot ▸ ho') folder
  rw [← hview]
  refine ⟨rfl,List.map_congr_left fun entry hm => addSmsEntry_congr (hsp entry ?_)⟩
  exact ho.mem_iff.mp (mem_smsView hm)

/-- The revision law.  Two answers of `list_sms` about a record, with one epoch and one revision
below the last one, come from the same messages, whatever happens between them and in whatever
order the hash table gives them: with the same ids, in the same order, showing the same. -/
theorem smsRevision_law (h : (smsSystem sha256 random).Reachable w) (ref : ModemRef)
    (steps : List (World × (Event × Bridge))) (hpath : (smsSystem sha256 random).Path w steps w')
    (hfit : ∀ run ∈ steps, PropertiesFit run.1 run.2) (bridge bridge' : Bridge)
    (hfound : (w.refresh bridge).bridge.l850glBridgeFindModem request.modemId = some ref)
    (hfound' : (w'.refresh bridge').bridge.l850glBridgeFindModem request'.modemId = some ref)
    (hreply : listSmsReply (w.refresh bridge) request = .ok reply)
    (hreply' : listSmsReply (w'.refresh bridge') request' = .ok reply')
    (hepoch : reply'.lookup "messaging_generation" = reply.lookup "messaging_generation")
    (hrevision : reply'.lookup "revision" = reply.lookup "revision")
    (hlast : (w.messaging ref).smsRevision < uint64Max) :
    (w'.messaging ref).smsByPath = (w.messaging ref).smsByPath ∧
    (∀ entry ∈ (w.messaging ref).smsByPath,
      w'.properties entry.2.sms.object = w.properties entry.2.sms.object) ∧
    ∀ folder order order', order.Perm (w.messaging ref).snapshot →
      order'.Perm (w'.messaging ref).snapshot →
      smsView w'.properties folder order' = smsView w.properties folder order ∧
      (smsView w'.properties folder order').map (addSmsEntry w'.properties) =
        (smsView w.properties folder order).map (addSmsEntry w.properties) := by
  obtain ⟨ref₁,page,hs,-,rfl⟩ := listSmsReply_ok hreply
  obtain ⟨ref₂,page',hs',-,rfl⟩ := listSmsReply_ok hreply'
  obtain rfl : ref₁ = ref := Option.some.inj (hs.found.symm.trans hfound)
  obtain rfl : ref₂ = ref₁ := Option.some.inj (hs'.found.symm.trans hfound')
  rw [smsPageReply_messagingGeneration,smsPageReply_messagingGeneration,Option.some.injEq,
    Blob.u32.injEq] at hepoch
  rw [smsPageReply_revision,smsPageReply_revision,Option.some.injEq,Blob.u64.injEq] at hrevision
  exact hs.sameView h hpath hfit hs' hepoch hrevision hlast

def sampleRequery : Event × Bridge := (.refreshSms 0,sampleBridge false)

theorem sampleReported_served : ((sampleIdSystem.run sampleStart sampleReported).bind fun w =>
    (sampleIdSystem.step w sampleRequery).map fun w' =>
      (((w.refresh (sampleBridge false)).bridge.l850glBridgeFindModem sampleListRequest.modemId,
        (w'.refresh (sampleBridge false)).bridge.l850glBridgeFindModem sampleListRequest.modemId),
      ((listSmsReply (w.refresh (sampleBridge false)) sampleListRequest).toOption.isSome,
        (listSmsReply (w'.refresh (sampleBridge false)) sampleListRequest).toOption.isSome),
      ((w.messaging 0).messagingGeneration,(w'.messaging 0).messagingGeneration),
      ((w.messaging 0).smsRevision,(w'.messaging 0).smsRevision),
      (w.messaging 0).snapshot == [sampleFirst,sampleSecond])) =
    some ((some 0,some 0),(true,true),(1,1),(2,2),true) := by
  decide +kernel

/-- The law at a run that lists two messages and asks for another listing. -/
theorem smsRevision_law_sample : ∃ w w', sampleIdSystem.run sampleStart sampleReported = some w ∧
    sampleIdSystem.step w sampleRequery = some w' ∧
    (w.messaging 0).snapshot = [sampleFirst,sampleSecond] ∧
    (w'.messaging 0).smsByPath = (w.messaging 0).smsByPath := by
  obtain ⟨w,hw,hrest⟩ := Option.bind_eq_some_iff.mp sampleReported_served
  obtain ⟨w',hw',hall⟩ := Option.map_eq_some_iff.mp hrest
  simp only [Prod.mk.injEq] at hall
  obtain ⟨⟨hfound,hfound'⟩,⟨hok,hok'⟩,⟨hgen,hgen'⟩,⟨hrev,hrev'⟩,htwo⟩ := hall
  have hanswer : ∀ {answer : Except Reply Reply}, answer.toOption.isSome = true →
      ∃ reply, answer = .ok reply := by
    intro answer ha
    cases answer with
    | error code => cases ha
    | ok reply => exact ⟨reply,rfl⟩
  obtain ⟨reply,hr⟩ := hanswer hok
  obtain ⟨reply',hr'⟩ := hanswer hok'
  have hshown : ∀ {v : World} {reply : Reply},
      (v.refresh (sampleBridge false)).bridge.l850glBridgeFindModem sampleListRequest.modemId =
        some 0 →
      listSmsReply (v.refresh (sampleBridge false)) sampleListRequest = .ok reply →
      reply.lookup "messaging_generation" = some (.u32 (v.messaging 0).messagingGeneration) ∧
        reply.lookup "revision" = some (.u64 (v.messaging 0).smsRevision) := by
    intro v reply hf hv
    obtain ⟨ref,page,hs,-,rfl⟩ := listSmsReply_ok hv
    obtain rfl : ref = 0 := Option.some.inj (hs.found.symm.trans hf)
    exact ⟨rfl,rfl⟩
  obtain ⟨hg₁,hv₁⟩ := hshown hfound hr
  obtain ⟨hg₂,hv₂⟩ := hshown hfound' hr'
  refine ⟨w,w',hw,hw',beq_iff_eq.mp htwo,(smsRevision_law (System.reachable_run (S:=sampleIdSystem)
    (.start sampleStart_initial) hw) 0 [(w,sampleRequery)] (.cons hw' (.nil w')) (fun run hm => ?_)
    (sampleBridge false) (sampleBridge false) hfound hfound' hr hr' ?_ ?_ ?_).1⟩
  · intro ref path properties he
    rw [List.mem_singleton.mp hm] at he
    cases he
  · rw [hg₁,hg₂,hgen,hgen']
  · rw [hv₁,hv₂,hrev,hrev']
  · rw [hrev]
    decide

end Sms
end L850GL
