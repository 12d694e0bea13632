import L850GL.Sms.CacheReady
import L850GL.Sms.Ids

/-! The ids of the messages over whole runs: who gives an id, who takes it away, and what a
deletion names. -/
namespace L850GL
namespace Sms

open AssocList Errors Identity Messaging Mutation World

variable {w w' w₁ : World} {ref : ModemRef} {op : OperationRef} {operation : SmsOperation}
  {sha256 : CString → Digest} {random : Nat → Option (Vector UInt8 16)} {event : Event}
  {changes : List Change} {s : Messaging × Nat} {path smsId : CString}

/-- Changes that leave the message cache as it is. -/
def Change.KeepsCache : Change → Prop
  | .enter _ _ _ | .listFailed _ | .rebuild _ _ _ | .deleted _ | .clear | .epoch _ => False
  | _ => True

theorem apply_keepsCache {change : Change} (h : change.KeepsCache) :
    (change.apply random ref s).1.smsByPath = s.1.smsByPath := by
  cases change with
  | querySms => exact (querySms_tables s.1).1
  | reserve =>
    simp only [Change.apply,Messaging.reserveSmsId]
    split <;> rfl
  | release smsId => exact (releaseSmsId_tables s.1 smsId).1
  | added path => exact (smsAdded_tables s.1 path).1
  | dedupePrune | dedupeRemove | dedupeStore | revisionBump => rfl
  | enter | listFailed | rebuild | deleted | clear | epoch => exact absurd h id

theorem applyAll_keepsCache (h : ∀ change ∈ changes, change.KeepsCache) :
    (applyAll random ref s changes).1.smsByPath = s.1.smsByPath := by
  induction changes generalizing s with
  | nil => rfl
  | cons change changes ih =>
    have h₁ := ih (s:=change.apply random ref s) fun c hc => h c (List.mem_cons_of_mem _ hc)
    exact h₁.trans (apply_keepsCache (h change List.mem_cons_self))

theorem Settlement.keepsCache {ok : Bool} (h : Settlement w operation ok changes) :
    ∀ change ∈ changes, change.KeepsCache := by
  intro change hc
  cases h with
  | nothing => cases hc
  | stale => cases hc
  | removed => rw [List.mem_singleton.mp hc]; trivial
  | stored => rw [List.mem_singleton.mp hc]; trivial

/-- Only the first change of a script touches the message cache. -/
theorem Script.head (h : Script sha256 random w w' event ref changes) :
    (∀ change ∈ changes, change.KeepsCache) ∨
    ∃ main later, changes = main::later ∧ ∀ change ∈ later, change.KeepsCache := by
  have hquery : ∀ c : Bool, ∀ change ∈ (if c then [Change.querySms] else []),
      change.KeepsCache := by
    intro c change hc
    cases c with
    | true => rw [List.mem_singleton.mp hc]; trivial
    | false => cases hc
  cases h with
  | idle | startedDelete => exact .inl (by simp)
  | queried | known | changed | noId | startedSend | added =>
    exact .inl (by simp [Change.KeepsCache])
  | removed => exact .inr ⟨_,[],rfl,by simp⟩
  | listFailed _ _ _ _ _ later hlater => exact .inr ⟨_,_,rfl,hlater ▸ hquery _⟩
  | listed _ _ _ _ _ later hlater => exact .inr ⟨_,_,rfl,hlater ▸ hquery _⟩
  | dispatched => exact .inr ⟨_,[],rfl,by simp⟩
  | deleted | epochChanged => exact .inr ⟨_,_,rfl,by simp [Change.KeepsCache]⟩
  | @ended index outcome call op operation before settlement ha hb hs =>
    have hrelease : ∀ change ∈ settlement++[.release operation.smsId], change.KeepsCache := by
      intro change hc
      rcases List.mem_append.mp hc with hc | hc
      · exact hs.keepsCache change hc
      · rw [List.mem_singleton.mp hc]
        trivial
    rw [List.append_assoc]
    cases hb with
    | nothing => exact .inl hrelease
    | queried =>
      refine .inl fun change hc => ?_
      rcases List.mem_cons.mp hc with rfl | hc
      · trivial
      · exact hrelease change hc
    | admitted => exact .inr ⟨_,_,rfl,hrelease⟩

theorem applyAll_ids (h : IdsOf random s) (ref : ModemRef) (changes : List Change) :
    IdsOf random (applyAll random ref s changes) ∧ s.2 ≤ (applyAll random ref s changes).2 := by
  induction changes generalizing s with
  | nil => exact ⟨h,Nat.le_refl _⟩
  | cons change changes ih =>
    have h₁ := apply_ids h ref change
    obtain ⟨h₂,h₃⟩ := ih h₁.ids
    exact ⟨h₂,Nat.le_trans h₁.drawn h₃⟩

theorem applyAll_reserved (h : IdsOf random s)
    (hm : smsId ∈ (applyAll random ref s changes).1.smsReservedIds) :
    smsId ∈ s.1.smsReservedIds ∨
      .reserve ∈ changes ∧ Generated random s.2 (applyAll random ref s changes).2 smsId := by
  induction changes generalizing s with
  | nil => exact .inl hm
  | cons change changes ih =>
    have h₁ := apply_ids h ref change
    have h₂ := (applyAll_ids h₁.ids ref changes).2
    rcases ih h₁.ids hm with h₃ | ⟨h₃,h₄⟩
    · rcases h₁.reserved smsId h₃ with h₄ | ⟨rfl,h₄,-⟩
      · exact .inl h₄
      · exact .inr ⟨List.mem_cons_self,h₄.mono (Nat.le_refl _) h₂⟩
    · exact .inr ⟨List.mem_cons_of_mem _ h₃,h₄.mono h₁.drawn (Nat.le_refl _)⟩

/-- The ids of all records. -/
def IdsSound (random : Nat → Option (Vector UInt8 16)) (w : World) : Prop :=
  ∀ ref, IdsOf random (w.messaging ref,w.drawn)

theorem report_messaging (w : World) (event : Event) :
    (w.report event).messaging = w.messaging ∧ (w.report event).drawn = w.drawn := by
  cases event <;> exact ⟨rfl,rfl⟩

/-- The record that an event changes, and how. -/
theorem Runs.of_report (h : Runs random ref (w.report event) w' changes) :
    (w'.messaging ref,w'.drawn) = applyAll random ref (w.messaging ref,w.drawn) changes ∧
      ∀ other, other ≠ ref → w'.messaging other = w.messaging other := by
  have h₁ := h.messaging
  have h₂ := h.others
  rw [(report_messaging w event).1,(report_messaging w event).2] at h₁
  rw [(report_messaging w event).1] at h₂
  exact ⟨h₁,h₂⟩

theorem handle_drawn (hw : IdsSound random w) (h : Runs random ref (w.report event) w' changes) :
    w.drawn ≤ w'.drawn := by
  have h₁ := (applyAll_ids (hw ref) ref changes).2
  rwa [← h.of_report.1] at h₁

theorem IdsSound.step (hw : IdsSound random w)
    (h : Runs random ref (w.report event) w' changes) : IdsSound random w' := by
  obtain ⟨hm,hother⟩ := h.of_report
  intro other
  by_cases ho : other = ref
  · rw [ho,hm]
    exact (applyAll_ids (hw ref) ref changes).1
  · rw [hother other ho]
    exact (hw other).shrink (.refl _) (List.Subset.refl _) (handle_drawn hw h)

theorem Initial.idsSound (h : Initial w) : IdsSound random w := by
  intro ref
  rw [h.messaging ref]
  refine ⟨List.nodup_nil,List.nodup_nil,?_,Nat.zero_le _,?_,?_⟩
  all_goals simp [Messaging.new,Messaging.smsIds]

/-- Every reserved id belongs to a message that is being sent. -/
def Reservations (w : World) : Prop :=
  ∀ ref smsId, smsId ∈ (w.messaging ref).smsReservedIds → ∃ op operation,
    w.operations op = some operation ∧ operation.type = .send ∧ operation.modem = ref ∧
      operation.smsId = some smsId

theorem Carried.continues (h : Carried w w') (ho : w.operations op = some operation) :
    ∃ operation', w'.operations op = some operation' ∧ operation.Continues operation' := by
  have h₁ := h op
  rw [ho] at h₁
  cases ho' : w'.operations op with
  | none =>
    rw [ho'] at h₁
    cases h₁
  | some operation' =>
    rw [ho'] at h₁
    cases h₁ with
    | some h₂ => exact ⟨operation',rfl,h₂⟩

theorem Carried.reservations (h : Carried w w')
    (hr : ∀ ref smsId, smsId ∈ (w'.messaging ref).smsReservedIds →
      smsId ∈ (w.messaging ref).smsReservedIds) (hw : Reservations w) : Reservations w' := by
  intro ref smsId hm
  obtain ⟨op,operation,ho,htype,hmodem,hid⟩ := hw ref smsId (hr ref smsId hm)
  obtain ⟨operation',ho',hc⟩ := h.continues ho
  exact ⟨op,operation',ho',hc.type.trans htype,hc.modem.trans hmodem,hc.smsId.trans hid⟩

theorem releaseSmsId_not_mem (m : Messaging) :
    smsId ∉ (m.releaseSmsId (some smsId)).smsReservedIds := by
  simp [Messaging.releaseSmsId]

/-- The id of an operation that ends is no longer reserved. -/
theorem Runs.released {before : List Change}
    (h : Runs random ref (w.report event) w' (before++[.release (some smsId)])) :
    smsId ∉ (w'.messaging ref).smsReservedIds := by
  have h₁ := h.of_report.1
  rw [applyAll_append] at h₁
  have h₂ := congrArg Prod.fst h₁
  dsimp only at h₂
  rw [h₂]
  exact releaseSmsId_not_mem _

/-- Without a new reservation there is nothing new among the reserved ids. -/
theorem Runs.reserved_subset (hi : IdsSound random w)
    (h : Runs random ref (w.report event) w' changes) (hn : .reserve ∉ changes) :
    ∀ other smsId, smsId ∈ (w'.messaging other).smsReservedIds →
      smsId ∈ (w.messaging other).smsReservedIds := by
  obtain ⟨hm,hother⟩ := h.of_report
  intro other smsId hs
  by_cases ho : other = ref
  · subst ho
    rw [show w'.messaging other = _ from congrArg Prod.fst hm] at hs
    exact (applyAll_reserved (hi other) hs).resolve_right fun h₁ => hn h₁.1
  · rw [← hother other ho]
    exact hs

/-- The reserved ids after `method_send_sms` looked for one. -/
theorem reserve_reserved (hi : IdsSound random w) {now : Int} {smsId' : CString}
    (hm : smsId' ∈ (((w.messaging ref).smsDedupePrune now).reserveSmsId random
      w.drawn).1.smsReservedIds) :
    smsId' ∈ (w.messaging ref).smsReservedIds ∨
      (((w.messaging ref).smsDedupePrune now).reserveSmsId random w.drawn).2.1 = some smsId' := by
  have h₁ : IdsOf random ((w.messaging ref).smsDedupePrune now,w.drawn) :=
    (hi ref).shrink (.refl _) (List.Subset.refl _) (Nat.le_refl _)
  exact (h₁.reserve.2.2 smsId' hm).imp id (·.2)

theorem Reservations.step (hp : Pending w none) (hi : IdsSound random w) (hw : Reservations w)
    (h : Runs random ref (w.report event) w' changes)
    (hs : Script sha256 random w w' event ref changes) : Reservations w' := by
  have hnext : ∀ {op operation}, w.operations op = some operation → op ≠ w.next := by
    intro op operation ho he
    rw [he,hp.fresh w.next (Nat.le_refl _)] at ho
    cases ho
  cases hs with
  | idle hc | queried _ _ hc | known hc | dispatched _ _ _ hc
  | added _ _ hc | deleted _ _ _ hc | changed hc | epochChanged _ _ hc
  | removed _ hc =>
    exact hc.reservations (h.reserved_subset hi (by simp)) hw
  | listFailed _ _ _ _ hc later hlater =>
    refine hc.reservations (h.reserved_subset hi ?_) hw
    rw [hlater]
    split <;> simp
  | listed _ _ _ _ hc later hlater =>
    refine hc.reservations (h.reserved_subset hi ?_) hw
    rw [hlater]
    split <;> simp
  | noId hid hc =>
    refine hc.reservations (fun other smsId hm => ?_) hw
    by_cases ho : other = ref
    · subst ho
      rw [show w'.messaging other = _ from congrArg Prod.fst h.of_report.1] at hm
      refine (reserve_reserved hi hm).resolve_right ?_
      rw [hid]
      exact fun hx => by cases hx
    · rw [← h.of_report.2 other ho]
      exact hm
  | @startedSend tables ref source request smsId hid hlive hidle hsource hops =>
    intro other smsId' hm
    have hcases : smsId' ∈ (w.messaging other).smsReservedIds ∨ other = ref ∧ smsId' = smsId := by
      by_cases ho : other = ref
      · subst ho
        rw [show w'.messaging other = _ from congrArg Prod.fst h.of_report.1] at hm
        refine (reserve_reserved hi hm).imp id fun h₁ => ⟨rfl,?_⟩
        rw [hid] at h₁
        exact (Option.some.inj h₁).symm
      · rw [h.of_report.2 other ho] at hm
        exact .inl hm
    rcases hcases with hold | ⟨rfl,rfl⟩
    · obtain ⟨op,operation,ho,hrest⟩ := hw other smsId' hold
      refine ⟨op,operation,?_,hrest⟩
      rw [hops,Function.update_of_ne (hnext ho)]
      exact ho
    · exact ⟨w.next,sendOperation sha256 w other source request smsId',
        by rw [hops,Function.update_self],rfl,rfl,rfl⟩
  | startedDelete _ _ _ _ _ hops =>
    intro other smsId' hm
    obtain ⟨op,operation,ho,hrest⟩ := hw other smsId'
      (h.reserved_subset hi (by simp) other smsId' hm)
    refine ⟨op,operation,?_,hrest⟩
    rw [hops,Function.update_of_ne (hnext ho)]
    exact ho
  | @ended index outcome call op operation before settlement ha hb hst he =>
    have hn : Change.reserve ∉ before++settlement++[.release operation.smsId] := by
      cases hb <;> cases hst <;> simp
    intro other smsId' hm
    obtain ⟨op',operation',ho,htype,hmodem,hid⟩ :=
      hw other smsId' (h.reserved_subset hi hn other smsId' hm)
    by_cases hop : op' = op
    · subst hop
      obtain rfl := Option.some.inj (ho.symm.trans ha.known)
      rw [hid] at h
      subst hmodem
      exact absurd hm h.released
    · exact ⟨op',operation',by rw [he.others op' hop]; exact ho,htype,hmodem,hid⟩

/-- The reserved id of the operation whose `Messaging.Create` is answered with the path. -/
def createdAt (w : World) (event : Event) (ref : ModemRef) (path : CString) : Option CString :=
  match event with
  | .finish index outcome =>
    match w.calls[index]?,outcome.sms with
    | some (.create op),some sms =>
      ((w.operations op).filter fun operation =>
        operation.modem == ref && sms.path == some path).bind (·.smsId)
    | _,_ => none
  | _ => none

/-- How a message comes to have its id after a step. -/
inductive IdStep (random : Nat → Option (Vector UInt8 16)) (w w' : World) (event : Event)
    (ref : ModemRef) (path smsId : CString) : Prop
  | kept (entry : CString × L850GLSms) (hm : entry ∈ (w.messaging ref).smsByPath)
      (hpath : entry.1 = path) (hid : entry.2.smsId = smsId) :
      IdStep random w w' event ref path smsId
  | created (h : createdAt w event ref path = some smsId)
      (hr : smsId ∈ (w.messaging ref).smsReservedIds) : IdStep random w w' event ref path smsId
  | listed (index : Nat) (outcome : Outcome) (source epoch : Nat)
      (hevent : event = .finish index outcome)
      (hcall : w.calls[index]? = some (.list ref source epoch))
      (hg : Generated random w.drawn w'.drawn smsId)
      (hr : smsId ∉ (w.messaging ref).smsReservedIds)
      (hnew : path ∉ Keys (w.messaging ref).smsByPath ∨
        ¬ (listedPaths outcome.messages).Nodup) : IdStep random w w' event ref path smsId

/-- The operation of a reserved id has that id. -/
theorem Reservations.smsId_eq (hw : Reservations w) (hh : Holding w)
    (ho : w.operations op = some operation)
    (hr : operation.smsId.getD [] ∈ (w.messaging operation.modem).smsReservedIds) :
    operation.smsId = some (operation.smsId.getD []) := by
  obtain ⟨op',operation',ho',-,hmodem,hid⟩ := hw _ _ hr
  have he := (hh.holds op' operation' ho').unique (hh.holds op operation ho) hmodem
  rw [he,ho] at ho'
  obtain rfl := Option.some.inj ho'
  exact hid

theorem Runs.kept (h : Runs random ref (w.report event) w' changes)
    (hkeep : ∀ change ∈ changes, change.KeepsCache) (other : ModemRef) :
    (w'.messaging other).smsByPath = (w.messaging other).smsByPath := by
  by_cases ho : other = ref
  · subst ho
    rw [show w'.messaging other = _ from congrArg Prod.fst h.of_report.1]
    exact applyAll_keepsCache hkeep
  · rw [h.of_report.2 other ho]

theorem Runs.origin {main : Change} {later : List Change} (hi : IdsSound random w)
    (h : Runs random ref (w.report event) w' (main::later))
    (hkeep : ∀ change ∈ later, change.KeepsCache) (entry : CString × L850GLSms)
    (hm : entry ∈ (w'.messaging ref).smsByPath) :
    Origin random (w.messaging ref,w.drawn) (w'.messaging ref,w'.drawn) main entry.1
      entry.2.smsId := by
  have h₁ := apply_ids (hi ref) ref main
  have hle := (applyAll_ids h₁.ids ref later).2
  have hdrawn : w'.drawn = (applyAll random ref (main.apply random ref
      (w.messaging ref,w.drawn)) later).2 := congrArg Prod.snd h.of_report.1
  have hcache : (w'.messaging ref).smsByPath = (main.apply random ref
      (w.messaging ref,w.drawn)).1.smsByPath := by
    rw [show w'.messaging ref = _ from congrArg Prod.fst h.of_report.1]
    exact applyAll_keepsCache hkeep
  rw [hcache] at hm
  cases h₁.origin entry hm with
  | kept e he hpath hid => exact .kept e he hpath hid
  | entered generation sms hc hpath hres => exact .entered generation sms hc hpath hres
  | listed generation properties messages hc hg hr hnew =>
    exact .listed generation properties messages hc (hg.mono (Nat.le_refl _) (hdrawn ▸ hle)) hr
      hnew

theorem Origin.kept_of {s' : Messaging × Nat} {change : Change}
    (h : Origin random s s' change path smsId)
    (hn : ∀ generation sms reservedId, change ≠ .enter generation sms reservedId)
    (hl : ∀ generation properties messages, change ≠ .rebuild generation properties messages) :
    ∃ entry ∈ s.1.smsByPath, entry.1 = path ∧ entry.2.smsId = smsId := by
  cases h with
  | kept e he hpath hid => exact ⟨e,he,hpath,hid⟩
  | entered generation sms hc => exact absurd hc (hn _ _ _)
  | listed generation properties messages hc => exact absurd hc (hl _ _ _)

theorem AnswersCall.idStep {index : Nat} {outcome : Outcome} {sms : MMSms}
    {later : List Change} (hh : Holding w) (hi : IdsSound random w) (hr : Reservations w)
    (ha : AnswersCall w index (.create op) op operation) (hsms : outcome.sms = some sms)
    (h : Runs random operation.modem (w.report (.finish index outcome)) w'
      (.enter (w.modem operation.modem).generation sms (operation.smsId.getD [])::later))
    (hkeep : ∀ change ∈ later, change.KeepsCache) (entry : CString × L850GLSms)
    (hm : entry ∈ (w'.messaging operation.modem).smsByPath) :
    IdStep random w w' (.finish index outcome) operation.modem entry.1 entry.2.smsId := by
  cases h.origin hi hkeep entry hm with
  | kept e he hpath hid => exact .kept e he hpath hid
  | entered generation sms' hc hpath hres =>
    injection hc with _ hsms' hid
    subst hsms'
    rw [← hid] at hres ⊢
    have hid := hr.smsId_eq hh ha.known hres
    refine .created ?_ hres
    simp only [createdAt,ha.call,hsms,ha.known,hpath,Option.filter,beq_self_eq_true,Bool.and_self,
      if_true,Option.bind_some]
    exact hid
  | listed generation properties messages hc => cases hc

/-- The first change of an operation that ends, when there is one to the cache. -/
theorem Settlement.keepsRelease {ok : Bool} (h : Settlement w operation ok changes) :
    ∀ change ∈ changes++[.release operation.smsId], change.KeepsCache := by
  intro change hc
  rcases List.mem_append.mp hc with hc | hc
  · exact h.keepsCache change hc
  · rw [List.mem_singleton.mp hc]
    trivial

theorem Script.idStep (hh : Holding w) (hi : IdsSound random w) (hr : Reservations w)
    (h : Runs random ref (w.report event) w' changes)
    (hs : Script sha256 random w w' event ref changes) (other : ModemRef)
    (entry : CString × L850GLSms) (hm : entry ∈ (w'.messaging other).smsByPath) :
    IdStep random w w' event other entry.1 entry.2.smsId := by
  by_cases ho : other = ref
  swap
  · rw [h.of_report.2 other ho] at hm
    exact .kept entry hm rfl rfl
  subst ho
  have hkept : (∃ e ∈ (w.messaging other).smsByPath, e.1 = entry.1 ∧
      e.2.smsId = entry.2.smsId) → IdStep random w w' event other entry.1 entry.2.smsId := by
    rintro ⟨e,he,hpath,hid⟩
    exact .kept e he hpath hid
  have hquery : ∀ c : Bool, ∀ change ∈ (if c then [Change.querySms] else []),
      change.KeepsCache := by
    intro c change hc
    cases c with
    | true =>
      rw [List.mem_singleton.mp hc]
      trivial
    | false => cases hc
  cases hs with
  | idle | startedDelete =>
    rw [h.kept (by simp)] at hm
    exact .kept entry hm rfl rfl
  | queried | known | changed | noId | startedSend | added =>
    rw [h.kept (by simp [Change.KeepsCache])] at hm
    exact .kept entry hm rfl rfl
  | deleted | epochChanged | removed =>
    exact hkept ((h.origin hi (by simp [Change.KeepsCache]) entry hm).kept_of (by simp) (by simp))
  | listFailed _ _ _ _ _ later hlater =>
    exact hkept ((h.origin hi (hlater ▸ hquery _) entry hm).kept_of (by simp) (by simp))
  | @listed index outcome ref source epoch hcall _ _ _ _ later hlater =>
    cases h.origin hi (hlater ▸ hquery _) entry hm with
    | kept e he hpath hid => exact .kept e he hpath hid
    | entered generation sms hc => cases hc
    | listed generation properties messages hc hg hr hnew =>
      injection hc with _ _ hmessages
      subst hmessages
      exact .listed index outcome source epoch rfl hcall hg hr hnew
  | dispatched ha hsms => exact ha.idStep hh hi hr hsms h (by simp) entry hm
  | ended before settlement ha hb hst he =>
    rw [List.append_assoc] at h
    cases hb with
    | nothing =>
      rw [h.kept hst.keepsRelease] at hm
      exact .kept entry hm rfl rfl
    | queried =>
      rw [h.kept (fun change hc => ?_)] at hm
      · exact .kept entry hm rfl rfl
      · rcases List.mem_cons.mp hc with rfl | hc
        · trivial
        · exact hst.keepsRelease change hc
    | admitted op' sms hcall hsms =>
      subst hcall
      have ha' := ha
      have hop : op' = _ := Option.some.inj ha.belongs
      subst hop
      exact ha.idStep hh hi hr hsms h hst.keepsRelease entry hm

/-- What the ids of a run rely on. -/
structure IdInv (random : Nat → Option (Vector UInt8 16)) (w : World) : Prop where
  pending : Pending w none
  holding : Holding w
  ids : IdsSound random w
  reservations : Reservations w

theorem IdInv.refresh (h : IdInv random w) (bridge : Bridge) : IdInv random (w.refresh bridge) :=
  ⟨h.pending.refresh bridge,h.holding.refresh bridge,h.ids,h.reservations⟩

theorem step_script (h : IdInv random w) {event : Event × Bridge}
    (hs : step sha256 random w event = some w') :
    ∃ ref changes, Runs random ref ((w.refresh event.2).report event.1) w' changes ∧
      Script sha256 random (w.refresh event.2) w' event.1 ref changes := by
  simp only [step,Option.ite_none_right_eq_some] at hs
  exact handle_script (h.refresh event.2).pending hs.2

theorem IdInv.step {event : Event × Bridge} (h : IdInv random w)
    (hs : step sha256 random w event = some w') : IdInv random w' := by
  obtain ⟨ref,changes,hr,hc⟩ := step_script h hs
  have h₁ := h.refresh event.2
  exact ⟨step_pending h.pending hs,(step_effect h.pending hs).2.holding h₁.holding,
    h₁.ids.step hr,h₁.reservations.step h₁.pending h₁.ids hr hc⟩

theorem Initial.idInv (h : Initial w) : IdInv random w := by
  refine ⟨h.pending,h.holding,h.idsSound,fun ref smsId hm => ?_⟩
  rw [h.messaging ref] at hm
  cases hm

theorem reachable_idInv {G : World → Event × Bridge → Prop}
    (h : (smsSystem sha256 random).ReachableUnder G w) : IdInv random w :=
  h.invariant (fun _ => Initial.idInv) fun _ _ _ hw _ hs => hw.step hs

theorem step_idStep {event : Event × Bridge} (h : IdInv random w)
    (hs : step sha256 random w event = some w') (ref : ModemRef) (entry : CString × L850GLSms)
    (hm : entry ∈ (w'.messaging ref).smsByPath) :
    IdStep random (w.refresh event.2) w' event.1 ref entry.1 entry.2.smsId := by
  obtain ⟨changed,changes,hr,hc⟩ := step_script h hs
  have h₁ := h.refresh event.2
  exact hc.idStep h₁.holding h₁.ids h₁.reservations hr ref entry hm

/-- The id that is cached for a path. -/
def smsIdAt (w : World) (ref : ModemRef) (path : CString) : Option CString :=
  (lookupSms (w.messaging ref).smsByPath path).map (·.smsId)

theorem smsIdAt_eq_some (hi : IdsSound random w) :
    smsIdAt w ref path = some smsId ↔ ∃ entry ∈ (w.messaging ref).smsByPath, entry.1 = path ∧
      entry.2.smsId = smsId := by
  simp only [smsIdAt,Option.map_eq_some_iff]
  constructor
  · rintro ⟨value,hl,hid⟩
    exact ⟨(path,value),mem_of_lookup hl,rfl,hid⟩
  · rintro ⟨⟨key,value⟩,hm,rfl,hid⟩
    exact ⟨value,(lookup_eq_some (hi ref).keys).mpr hm,hid⟩

/-- No listing names a path twice. -/
def ListsDistinct (w : World) (event : Event × Bridge) : Prop :=
  ∀ index outcome ref source epoch, event.1 = .finish index outcome →
    w.calls[index]? = some (.list ref source epoch) → (listedPaths outcome.messages).Nodup

/-- A cached path changes its id only to the reserved one of the message that was created
there. -/
theorem step_smsIdAt {event : Event × Bridge} (h : IdInv random w)
    (hs : step sha256 random w event = some w') (hlist : ListsDistinct w event)
    {smsId' : CString} (hid : smsIdAt w ref path = some smsId)
    (hid' : smsIdAt w' ref path = some smsId') (hne : smsId' ≠ smsId) :
    createdAt w event.1 ref path = some smsId' ∧ smsId' ∈ (w.messaging ref).smsReservedIds := by
  obtain ⟨old,hold,hpath,hold'⟩ := (smsIdAt_eq_some h.ids).mp hid
  obtain ⟨entry,hm,rfl,rfl⟩ := (smsIdAt_eq_some (h.step hs).ids).mp hid'
  cases step_idStep h hs ref entry hm with
  | kept other ho hpath' hid'' =>
    have hval : old.2 = other.2 := eq_of_mem (h.ids ref).keys
      (show (entry.1,old.2) ∈ _ from hpath ▸ hold) (show (entry.1,other.2) ∈ _ from hpath' ▸ ho)
    exact absurd (by rw [← hid'',← hval,hold']) hne
  | created hc hr => exact ⟨hc,hr⟩
  | listed index outcome source epoch hevent hcall hg _ hnew =>
    rcases hnew with hnew | hnew
    · exact absurd (List.mem_map.mpr ⟨old,hold,hpath⟩) hnew
    · exact absurd (hlist index outcome ref source epoch hevent hcall) hnew

/-- The random values give no id twice. -/
def NeverRepeats (random : Nat → Option (Vector UInt8 16)) : Prop :=
  ∀ i j smsId, generatedId random i = some smsId → generatedId random j = some smsId → i = j

theorem NeverRepeats.fresh (h : NeverRepeats random) {low high drawn : Nat}
    (h₁ : Generated random 0 drawn smsId) (h₂ : Generated random low high smsId) :
    low < drawn := by
  obtain ⟨i,-,hi,hi'⟩ := h₁
  obtain ⟨j,hj,-,hj'⟩ := h₂
  have he := h i j smsId hi' hj'
  omega

theorem newSmsId_fresh (h : NeverRepeats random) {cache additional : List (CString × L850GLSms)}
    {reserved : List CString} {drawn : Nat} (hid : generatedId random drawn = some smsId)
    (hcache : ∀ entry ∈ cache, Generated random 0 drawn entry.2.smsId)
    (hadditional : ∀ entry ∈ additional, Generated random 0 drawn entry.2.smsId)
    (hreserved : ∀ used ∈ reserved, Generated random 0 drawn used) :
    newSmsId random cache additional reserved drawn = (some smsId,drawn+1) := by
  have hnew : ∀ used, Generated random 0 drawn used → used ≠ smsId := by
    rintro used hused rfl
    exact absurd (h.fresh hused ⟨drawn,Nat.le_refl _,Nat.lt_succ_self _,hid⟩) (Nat.lt_irrefl _)
  have htaken : (smsIdExistsInHash cache smsId || smsIdExistsInHash additional smsId ||
      reserved.contains smsId) = false := by
    rw [Bool.eq_false_iff]
    intro ht
    simp only [Bool.or_eq_true,smsIdExistsInHash_iff,List.contains_iff_mem] at ht
    rcases ht with (⟨entry,hm,he⟩ | ⟨entry,hm,he⟩) | hm
    · exact hnew _ (hcache entry hm) he
    · exact hnew _ (hadditional entry hm) he
    · exact hnew _ (hreserved _ hm) rfl
  have hid' : l850glSmsIdentityGenerateWith (random drawn) = some smsId := hid
  simp only [newSmsId,randomRetries,drawSmsId,hid',htaken,Bool.false_eq_true,if_false]

/-- Each message that the loop keeps uses one random value at most. -/
theorem rebuildStep_ready (hrandom : NeverRepeats random) {s : Messaging × Nat} {r : Rebuild}
    {passed : List MMSms} {sms : MMSms} (hs : IdsOf random s) (h : RebuildIds random s passed r)
    (hle : r.drawn ≤ s.2+r.count) (generation : Nat)
    (hsome : ∀ index < s.2+maxSmsCache, (generatedId random index).isSome = true) :
    ∃ r', rebuildStep random s.1 ref generation r sms = .ok r' ∧ r'.drawn ≤ s.2+r'.count := by
  have hlow := h.drawn
  have hused : ∀ entry ∈ s.1.smsByPath, Generated random 0 r.drawn entry.2.smsId := fun entry hm =>
    (hs.generated _ (.inl (mem_smsIds.mpr ⟨entry,hm,rfl⟩))).mono (Nat.le_refl _) hlow
  simp only [rebuildStep]
  split
  · exact ⟨_,rfl,hle⟩
  split
  · exact ⟨_,rfl,hle⟩
  split
  · exact ⟨_,rfl,hle⟩
  rename_i hcount
  split
  · exact ⟨_,rfl,Nat.le_succ_of_le hle⟩
  obtain ⟨smsId,hid⟩ := Option.isSome_iff_exists.mp (hsome r.drawn (by omega))
  have hkept : ∀ entry ∈ r.newCache, Generated random 0 r.drawn entry.2.smsId := by
    intro entry hm
    rcases h.origin entry hm with ⟨other,ho,-,he⟩ | ⟨hnew,-⟩
    · exact he ▸ hused other ho
    · exact hnew.mono (Nat.zero_le _) (Nat.le_refl _)
  rw [newSmsId_fresh hrandom hid (fun entry hm => hused entry (h.old.subset hm)) hkept
    fun used hm => (hs.generated used (.inr hm)).mono (Nat.le_refl _) hlow]
  exact ⟨_,rfl,Nat.succ_le_succ hle⟩

/-- A listing ends ready when the random source has an id for each message that it can keep. -/
theorem rebuildCache_ready (hrandom : NeverRepeats random) {s : Messaging × Nat}
    (hs : IdsOf random s) (ref : ModemRef) (generation : Nat) (properties : Nat → SmsProperties)
    (messages : List MMSms)
    (hsome : ∀ index < s.2+maxSmsCache, (generatedId random index).isSome = true) :
    (s.1.rebuildCache random ref generation properties messages s.2).1.smsCacheState.isReady =
      true := by
  have hloop := (Loop.foldlM_inv
    (fun passed r => RebuildIds random s passed r ∧ r.drawn ≤ s.2+r.count) (fun _ => False)
    (l:=Sorting.sortBy (smsProxyNewestFirst properties) messages)
    (fun passed r sms r' hi (hr : rebuildStep random s.1 ref generation r sms = .ok r') => by
      obtain ⟨r₁,hok,hle⟩ := rebuildStep_ready hrandom hs hi.1 hi.2
        generation hsome
      rw [hr] at hok
      cases hok
      exact ⟨rebuildStep_ids hs hi.1 hr,hle⟩)
    (fun passed r sms drawn hi (hr : rebuildStep random s.1 ref generation r sms =
        .error drawn) => by
      obtain ⟨r₁,hok,-⟩ := rebuildStep_ready hrandom hs hi.1 hi.2
        generation hsome
      rw [hr] at hok
      cases hok) ⟨.start random s,Nat.le_refl _⟩).2
  simp only [Messaging.rebuildCache]
  split
  · rename_i drawn hr
    exact (hloop drawn hr).elim
  · rename_i r hr
    by_cases ht : r.truncated
    · simp [Messaging.smsRevisionBump,SmsCacheState.isReady,ht]
    · simp [Messaging.smsRevisionBump,SmsCacheState.isReady,ht]

/-- The record has the id for a message, or keeps it for one. -/
def Uses (w : World) (ref : ModemRef) (smsId : CString) : Prop :=
  smsId ∈ (w.messaging ref).smsIds ∨ smsId ∈ (w.messaging ref).smsReservedIds

theorem Uses.generated (hi : IdsSound random w) (h : Uses w ref smsId) :
    Generated random 0 w.drawn smsId := (hi ref).generated smsId h

/-- An id in use has been in use, or is new to the record that the event is about. -/
theorem step_uses {event : Event × Bridge} (h : IdInv random w)
    (hs : step sha256 random w event = some w') :
    ∃ changed, ∀ ref smsId, Uses w' ref smsId →
      Uses w ref smsId ∨ ref = changed ∧ Generated random w.drawn w'.drawn smsId := by
  obtain ⟨changed,changes,hr,hc⟩ := step_script h hs
  obtain ⟨hm,hother⟩ := hr.of_report
  refine ⟨changed,fun ref smsId hu => ?_⟩
  by_cases ho : ref = changed
  swap
  · simp only [Uses,hother ref ho] at hu
    exact .inl hu
  subst ho
  rcases hu with hu | hu
  · obtain ⟨entry,hm,rfl⟩ := mem_smsIds.mp hu
    cases step_idStep h hs ref entry hm with
    | kept other ho hpath hid => exact .inl (.inl (mem_smsIds.mpr ⟨other,ho,hid⟩))
    | created hc hr => exact .inl (.inr hr)
    | listed index outcome source epoch hevent hcall hg => exact .inr ⟨rfl,hg⟩
  · rw [show w'.messaging ref = _ from congrArg Prod.fst hm] at hu
    have hd : w'.drawn = _ := congrArg Prod.snd hm
    rcases applyAll_reserved ((h.refresh event.2).ids ref) hu with h₁ | ⟨-,h₁⟩
    · exact .inl (.inr h₁)
    · rw [← hd] at h₁
      exact .inr ⟨rfl,h₁⟩

/-- No id is in use on two records. -/
def UsedOnce (w : World) : Prop :=
  ∀ ref ref' smsId, Uses w ref smsId → Uses w ref' smsId → ref = ref'

theorem UsedOnce.step {event : Event × Bridge} (hn : NeverRepeats random) (h : IdInv random w)
    (hw : UsedOnce w) (hs : step sha256 random w event = some w') : UsedOnce w' := by
  obtain ⟨changed,hu⟩ := step_uses h hs
  have hfresh : ∀ {ref smsId}, Uses w ref smsId →
      ¬ Generated random w.drawn w'.drawn smsId := by
    intro ref smsId hu hg
    exact absurd (hn.fresh (hu.generated h.ids) hg) (Nat.lt_irrefl _)
  intro ref ref' smsId h₁ h₂
  rcases hu ref smsId h₁ with h₃ | ⟨h₃,h₄⟩
  · rcases hu ref' smsId h₂ with h₅ | ⟨-,h₅⟩
    · exact hw ref ref' smsId h₃ h₅
    · exact absurd h₅ (hfresh h₃)
  · rcases hu ref' smsId h₂ with h₅ | ⟨h₅,-⟩
    · exact absurd h₄ (hfresh h₅)
    · rw [h₃,h₅]

/-- The id names, if anything, the message at the path on the record. -/
structure Names (random : Nat → Option (Vector UInt8 16)) (w : World) (ref : ModemRef)
    (path smsId : CString) : Prop where
  record : ∀ other, Uses w other smsId → other = ref
  unreserved : smsId ∉ (w.messaging ref).smsReservedIds
  message : ∀ entry ∈ (w.messaging ref).smsByPath, entry.2.smsId = smsId → entry.1 = path
  old : Generated random 0 w.drawn smsId

theorem Names.step {event : Event × Bridge} (hn : NeverRepeats random) (h : IdInv random w)
    (hw : Names random w ref path smsId) (hs : step sha256 random w event = some w') :
    Names random w' ref path smsId := by
  obtain ⟨changed,hu⟩ := step_uses h hs
  have hfresh : ¬ Generated random w.drawn w'.drawn smsId :=
    fun hg => absurd (hn.fresh hw.old hg) (Nat.lt_irrefl _)
  have hdrawn : w.drawn ≤ w'.drawn := by
    obtain ⟨changed,changes,hr,-⟩ := step_script h hs
    have h₁ := handle_drawn (h.refresh event.2).ids hr
    exact h₁
  refine ⟨fun other ho => ?_,fun hr => ?_,fun entry hm hid => ?_,
    hw.old.mono (Nat.le_refl _) hdrawn⟩
  · rcases hu other smsId ho with h₁ | ⟨-,h₁⟩
    · exact hw.record other h₁
    · exact absurd h₁ hfresh
  · obtain ⟨changed,changes,hrun,-⟩ := step_script h hs
    obtain ⟨hm,hother⟩ := hrun.of_report
    by_cases ho : ref = changed
    · subst ho
      rw [show w'.messaging ref = _ from congrArg Prod.fst hm] at hr
      have hd : w'.drawn = _ := congrArg Prod.snd hm
      rcases applyAll_reserved ((h.refresh event.2).ids ref) hr with h₁ | ⟨-,h₁⟩
      · exact hw.unreserved h₁
      · rw [← hd] at h₁
        exact hfresh h₁
    · rw [hother ref ho] at hr
      exact hw.unreserved hr
  · subst hid
    cases step_idStep h hs ref entry hm with
    | kept other ho hpath hid => exact hpath ▸ hw.message other ho hid
    | created hc hr => exact absurd hr hw.unreserved
    | listed index outcome source epoch hevent hcall hg => exact absurd hg hfresh

/-- What `list_sms` serves are cached messages. -/
theorem methodListSms_mem {request : Option ListSmsRequest} {snapshot : List L850GLSms}
    {entry : L850GLSms} (h : (methodListSms w request).2 = .served ref snapshot)
    (hm : entry ∈ snapshot) : ∃ key, (key,entry) ∈ (w.messaging ref).smsByPath := by
  cases request with
  | none => cases h
  | some request =>
    simp only [methodListSms] at h
    split at h
    · cases h
    split at h
    · cases h
    split at h
    · cases h
    split at h
    · split at h
      · cases h
      · cases h
    split at h
    · cases h
    split at h
    · cases h
    · cases h
      obtain ⟨⟨key,value⟩,ho,rfl⟩ := List.mem_map.mp hm
      exact ⟨key,ho⟩

theorem querySms_trace (w : World) (ref : ModemRef) : (w.querySms ref).trace = w.trace := by
  simp only [World.querySms]
  split
  · rfl
  · split <;> rfl

theorem findSms_some {generation : Nat} {entry : L850GLSms}
    (h : (w.messaging ref).findSms generation smsId = some entry) :
    ∃ key, (key,entry) ∈ (w.messaging ref).smsByPath ∧ entry.smsId = smsId ∧
      entry.messagingGeneration = (w.messaging ref).messagingGeneration := by
  simp only [Messaging.findSms] at h
  split at h
  · cases h
  · obtain ⟨⟨key,value⟩,hf,rfl⟩ := Option.map_eq_some_iff.mp h
    have h₁ := List.find?_some hf
    simp only [Bool.and_eq_true,beq_iff_eq] at h₁
    exact ⟨key,List.mem_of_find?_eq_some hf,h₁.2,h₁.1.2⟩

/-- `delete_sms` dispatches a deletion of a cached message with the requested id. -/
theorem methodDeleteSms_deleting {tables : Tables} {request : Option DeleteSmsRequest}
    {epoch : Nat}
    (h : .deleting op ref epoch smsId path ∈ (methodDeleteSms w tables request).1.trace)
    (hnew : .deleting op ref epoch smsId path ∉ w.trace) :
    ∃ key entry, (key,entry) ∈ (w.messaging ref).smsByPath ∧ entry.smsId = smsId ∧
      entry.sms.path = some path := by
  cases request with
  | none => exact absurd h hnew
  | some request =>
    simp only [methodDeleteSms] at h
    split at h
    · exact absurd h hnew
    split at h
    · exact absurd h hnew
    rename_i found hok
    have hattested := (smsMutationModem_ok hok).1
    simp only [deleteSmsOn] at h
    split at h
    · rw [querySms_trace] at h
      exact absurd h hnew
    split at h
    · exact absurd h hnew
    split at h
    · rename_i entry source hfound hsource
      split at h
      · exact absurd h hnew
      split at h
      · exact absurd h hnew
      rename_i value hpath
      rw [if_neg] at h
      · rcases List.mem_cons.mp h with h | h
        · injection h with _ hfoundref _ hid hvalue
          subst hfoundref
          obtain ⟨key,hm,hid',-⟩ := findSms_some hfound
          exact ⟨key,entry,hm,hid'.trans hid.symm,
            hvalue ▸ (Option.filter_eq_some_iff.mp hpath).1⟩
        · exact absurd h hnew
      · have hmodem : ∀ operation : SmsOperation, operation.modem = found →
            (smsOperationNew w operation).modem found = acquireModem w.next (w.modem found) := by
          rintro operation rfl
          simp [World.modem,smsOperationNew]
        rw [hmodem _ rfl,acquireModem_attested,hattested]
        decide
    · exact absurd h hnew

/-- The id of a message that `list_sms` reported names that message from then on. -/
theorem names_of_served (h : IdInv random w) (hu : UsedOnce w)
    {key : CString} {entry : L850GLSms} (hm : (key,entry) ∈ (w.messaging ref).smsByPath) :
    Names random w ref key entry.smsId := by
  have huse : Uses w ref entry.smsId := .inl (mem_smsIds.mpr ⟨_,hm,rfl⟩)
  refine ⟨fun other ho => hu other ref _ ho huse,fun hr => ?_,fun other ho hid => ?_,
    huse.generated h.ids⟩
  · exact (h.ids ref).disjoint _ hr (mem_smsIds.mpr ⟨_,hm,rfl⟩)
  · have h₁ := List.inj_on_of_nodup_map (h.ids ref).ids ho hm hid
    rw [h₁]

theorem reachable_usedOnce (hn : NeverRepeats random)
    (h : (smsSystem sha256 random).Reachable w) : IdInv random w ∧ UsedOnce w := by
  refine h.invariant (P:=fun w => IdInv random w ∧ UsedOnce w)
    (fun w (h₀ : Initial w) => ⟨h₀.idInv,fun ref ref' smsId hu => ?_⟩)
    fun w event w' hw hs => ⟨hw.1.step hs,hw.2.step hn hw.1 hs⟩
  simp only [Uses,h₀.messaging,Messaging.new,Messaging.smsIds,List.map_nil,List.not_mem_nil,
    or_self] at hu

/-- The step gives the path another id. -/
def rekeys (sha256 : CString → Digest) (random : Nat → Option (Vector UInt8 16)) (ref : ModemRef)
    (path : CString) (run : World × (Event × Bridge)) : Bool :=
  match step sha256 random run.1 run.2 with
  | none => false
  | some w' => smsIdAt w' ref path != smsIdAt run.1 ref path

/-- The path is cached all the time. -/
def StaysCached (ref : ModemRef) (path : CString) (steps : List (World × (Event × Bridge)))
    (w' : World) : Prop :=
  (∀ run ∈ steps, (smsIdAt run.1 ref path).isSome = true) ∧ (smsIdAt w' ref path).isSome = true

/-- The next state of a run in which the path stays cached has it. -/
theorem rekeys_spec {steps : List (World × (Event × Bridge))}
    (hp : (smsSystem sha256 random).Path w steps w')
    (hr : (smsSystem sha256 random).Reachable w) (hc : StaysCached ref path steps w')
    {run : World × (Event × Bridge)} (hm : run ∈ steps) (hlist : ListsDistinct run.1 run.2)
    (hk : rekeys sha256 random ref path run = true) :
    (createdAt run.1 run.2.1 ref path).isSome = true := by
  induction hp with
  | nil => cases hm
  | @cons s t u e steps hs hpath ih =>
    have hr' := System.ReachableUnder.step hr trivial hs
    have hnext : (smsIdAt t ref path).isSome = true := by
      cases hpath with
      | nil => exact hc.2
      | @cons _ _ _ e' _ _ _ => exact hc.1 (t,e') (by simp)
    rcases List.mem_cons.mp hm with rfl | hm
    · obtain ⟨smsId,hid⟩ := Option.isSome_iff_exists.mp (hc.1 (s,e) (by simp))
      obtain ⟨smsId',hid'⟩ := Option.isSome_iff_exists.mp hnext
      have hs' : step sha256 random s e = some t := hs
      simp only [rekeys,hs',hid,hid',bne_iff_ne,ne_eq,Option.some.injEq] at hk
      rw [(step_smsIdAt (reachable_idInv hr) hs' hlist hid hid' hk).1]
      rfl
    · exact ih hr' ⟨fun run hm => hc.1 run (List.mem_cons_of_mem _ hm),hc.2⟩ hm

/-- An operation ends with its id released. -/
theorem Script.released (h : Runs random ref (w.report event) w' changes)
    (hs : Script sha256 random w w' event ref changes) (ho : w.operations op = some operation)
    (hgone : w'.operations op = none) (hid : operation.smsId = some smsId) :
    smsId ∉ (w'.messaging operation.modem).smsReservedIds := by
  have hcarried : ¬ Carried w w' := by
    intro hc
    obtain ⟨operation',ho',-⟩ := hc.continues ho
    rw [hgone] at ho'
    cases ho'
  have hstarted : ∀ o : SmsOperation,
      w'.operations ≠ Function.update w.operations w.next (some o) := by
    intro o hops
    rw [hops] at hgone
    by_cases he : op = w.next
    · rw [he,Function.update_self] at hgone
      cases hgone
    · rw [Function.update_of_ne he,ho] at hgone
      cases hgone
  cases hs with
  | idle hc | queried _ _ hc | known hc | noId _ hc | dispatched _ _ _ hc
  | added _ _ hc | deleted _ _ _ hc | changed hc | epochChanged _ _ hc
  | removed _ hc | listFailed _ _ _ _ hc | listed _ _ _ _ hc => exact absurd hc hcarried
  | startedSend _ _ _ _ hops => exact absurd hops (hstarted _)
  | startedDelete _ _ _ _ _ hops => exact absurd hops (hstarted _)
  | @ended index outcome call op' operation' before settlement ha hb hst he =>
    by_cases hop : op = op'
    · subst hop
      obtain rfl := Option.some.inj (ho.symm.trans ha.known)
      rw [hid] at h
      exact h.released
    · rw [he.others op hop,ho] at hgone
      cases hgone

/-- The ids of the messages.  Distinct, apart from the reserved ones and at most 1024; reserved
only for a message that is being sent, given only by its operation and free after it; changed for
a cached path at most once for each message created there; and, when the random values make no id
twice, a deletion names the message that any listing reported under its id. -/
theorem smsIds_sound (h : (smsSystem sha256 random).Reachable w) :
    (∀ ref, (w.messaging ref).smsIds.Nodup ∧
      (∀ smsId ∈ (w.messaging ref).smsReservedIds, smsId ∉ (w.messaging ref).smsIds) ∧
      (w.messaging ref).smsByPath.length ≤ maxSmsCache ∧
      ∀ smsId ∈ (w.messaging ref).smsReservedIds, ∃ op operation,
        w.operations op = some operation ∧ operation.type = .send ∧ operation.modem = ref ∧
        operation.smsId = some smsId) ∧
    (∀ event w', step sha256 random w event = some w' →
      (∀ ref smsId, smsId ∈ (w.messaging ref).smsReservedIds →
        smsId ∈ (w'.messaging ref).smsIds →
        ∃ path, createdAt w event.1 ref path = some smsId) ∧
      (∀ op operation smsId, w.operations op = some operation → w'.operations op = none →
        operation.smsId = some smsId →
        smsId ∉ (w'.messaging operation.modem).smsReservedIds) ∧
      (ListsDistinct w event → ∀ ref path smsId smsId', smsIdAt w ref path = some smsId →
        smsIdAt w' ref path = some smsId' → smsId' ≠ smsId →
        createdAt w event.1 ref path = some smsId' ∧
          smsId' ∈ (w.messaging ref).smsReservedIds)) ∧
    (∀ ref path steps w', (smsSystem sha256 random).Path w steps w' →
      StaysCached ref path steps w' → (∀ run ∈ steps, ListsDistinct run.1 run.2) →
      steps.countP (rekeys sha256 random ref path) ≤
        steps.countP fun run => (createdAt run.1 run.2.1 ref path).isSome) ∧
    (NeverRepeats random → ∀ bridge request ref snapshot,
      (methodListSms (w.refresh bridge) request).2 = .served ref snapshot →
      ∀ entry ∈ snapshot, ∀ steps w₁, (smsSystem sha256 random).Path w steps w₁ →
      ∀ tables bridge₁ request₁ w₂,
        step sha256 random w₁ (.deleteSms tables request₁,bridge₁) = some w₂ →
      ∀ op ref₁ epoch path, .deleting op ref₁ epoch entry.smsId path ∈ w₂.trace →
        .deleting op ref₁ epoch entry.smsId path ∉ w₁.trace →
        ref₁ = ref ∧ entry.sms.path = some path) := by
  have hi := reachable_idInv h
  refine ⟨fun ref => ⟨(hi.ids ref).ids,(hi.ids ref).disjoint,(hi.ids ref).bound,
      hi.reservations ref⟩,fun event w' hs => ⟨fun ref smsId hres hmem => ?_,
      fun op operation smsId ho hgone hid => ?_,
      fun hlist ref path smsId smsId' hid hid' hne => step_smsIdAt hi hs hlist hid hid' hne⟩,
    fun ref path steps w' hp hc hlist => ?_,
    fun hn bridge request ref snapshot hserved entry hm steps w₁ hp tables bridge₁ request₁ w₂ hs
      op ref₁ epoch path hdel hnew => ?_⟩
  · obtain ⟨entry,hentry,rfl⟩ := mem_smsIds.mp hmem
    cases step_idStep hi hs ref entry hentry with
    | kept other ho hpath hid =>
      exact absurd (mem_smsIds.mpr ⟨other,ho,hid⟩) ((hi.ids ref).disjoint _ hres)
    | created hc _ => exact ⟨_,hc⟩
    | listed index outcome source epoch hevent hcall hg hr hnew => exact absurd hres hr
  · obtain ⟨changed,changes,hr,hc⟩ := step_script hi hs
    exact hc.released hr ho hgone hid
  · exact List.countP_mono_left fun run hm hk => rekeys_spec hp h hc hm (hlist run hm) hk
  · obtain ⟨key,hentry⟩ := methodListSms_mem hserved hm
    have hused := (reachable_usedOnce hn h).2
    have hnames := hp.invariant (P:=fun v => Names random v ref key entry.smsId) h
      (fun _ _ => trivial)
      (names_of_served hi hused hentry)
      fun v e v' hv hP _ hs => hP.step hn (reachable_idInv hv) hs
    simp only [step,Option.ite_none_right_eq_some] at hs
    obtain ⟨-,hs⟩ := hs
    simp only [handle,Option.ite_none_left_eq_some,Option.some.injEq] at hs
    obtain ⟨-,rfl⟩ := hs
    obtain ⟨key',found,hfound,hid,hpath⟩ := methodDeleteSms_deleting hdel hnew
    have href : ref₁ = ref := hnames.record ref₁ (.inl (mem_smsIds.mpr ⟨(key',found),hfound,hid⟩))
    subst href
    have hkey := hnames.message (key',found) hfound hid
    have h₁ := (hi.ids ref₁).paths (key,entry) hentry
    have h₂ := ((reachable_idInv (hp.reachableUnder h fun _ _ => trivial)).ids ref₁).paths
      (key',found) hfound
    refine ⟨rfl,?_⟩
    rw [h₁.1,← hpath,h₂.1]
    exact congrArg some hkey.symm

/-- Random values that count. -/
def sampleRandom (index : Nat) : Option (Vector UInt8 16) :=
  if index < 65536 then
    some #v[UInt8.ofNat (index/256),UInt8.ofNat index,0,0,0,0,0,0,0,0,0,0,0,0,0,0]
  else none

theorem sampleRandom_neverRepeats : NeverRepeats sampleRandom := by
  have hhex : ∀ {a b : Nat}, a < 16 → b < 16 → hexCharacter a = hexCharacter b → a = b := by
    have h₁ : ∀ a b : Fin 16, hexCharacter a = hexCharacter b → a = b := by decide
    intro a b ha hb h
    exact Fin.val_eq_of_eq (h₁ ⟨a,ha⟩ ⟨b,hb⟩ h)
  have hdigits : ∀ {index : Nat} {smsId : CString}, generatedId sampleRandom index = some smsId →
      index < 65536 ∧ (smsId.drop 4).take 4 = [hexCharacter (index/256/16),
        hexCharacter (index/256%16),hexCharacter (index%256/16),hexCharacter (index%16)] := by
    intro index smsId h
    simp only [generatedId,sampleRandom,l850glSmsIdentityGenerateWith,tokenGenerateWith] at h
    split at h
    · rename_i hlt
      simp only [Option.map_some,Option.some.injEq] at h
      subst h
      refine ⟨hlt,?_⟩
      have hhigh : index/256%256 = index/256 := Nat.mod_eq_of_lt (by omega)
      have hlow : index%256%16 = index%16 := by omega
      simp [l850glSmsIdPrefix,hexByte,hhigh,hlow]
    · cases h
  intro i j smsId hi hj
  obtain ⟨hi₁,hi₂⟩ := hdigits hi
  obtain ⟨hj₁,hj₂⟩ := hdigits hj
  rw [hi₂] at hj₂
  simp only [List.cons.injEq,and_true] at hj₂
  obtain ⟨h₁,h₂,h₃,h₄⟩ := hj₂
  have h₁' := hhex (by omega) (by omega) h₁
  have h₂' := hhex (by omega) (by omega) h₂
  have h₃' := hhex (by omega) (by omega) h₃
  have h₄' := hhex (by omega) (by omega) h₄
  omega

def sampleSmsId : CString := "sms-00000000000000000000000000000000".toList

def sampleOtherId : CString := "sms-00010000000000000000000000000000".toList

/-- Two messages are listed. -/
def sampleReported : List (Event × Bridge) :=
  [.admitted,.reconcile 0 false (some 7),
   .finish 0 ⟨[⟨3,some "/sms/3".toList⟩,⟨4,some "/sms/4".toList⟩],none,true,none⟩].map
    fun event => (event,sampleBridge false)

def sampleDelete : Event × Bridge :=
  (.deleteSms ⟨[],[],[]⟩ (some ⟨"l850gl-00112233445566778899aabbccddeeff".toList,1,1,sampleOtherId,
    true⟩),sampleBridge false)

def sampleIdSystem : System World (Event × Bridge) :=
  smsSystem (fun _ => Vector.replicate 32 0) sampleRandom

def sampleFirst : L850GLSms := ⟨some 0,⟨3,some "/sms/3".toList⟩,sampleSmsId,1,1⟩

def sampleSecond : L850GLSms := ⟨some 0,⟨4,some "/sms/4".toList⟩,sampleOtherId,1,1⟩

theorem sampleReported_deletes : ((sampleIdSystem.run sampleStart sampleReported).bind fun w =>
    (sampleIdSystem.step w sampleDelete).map fun w' =>
      ((methodListSms (w.refresh (sampleBridge false)) (some sampleListRequest)).2 ==
        .served 0 [sampleFirst,sampleSecond],
      w'.trace.contains (.deleting 0 0 1 sampleOtherId "/sms/4".toList),
      w.trace.contains (.deleting 0 0 1 sampleOtherId "/sms/4".toList))) =
    some (true,true,false) := by
  decide +kernel

/-- The rules at a run that lists two messages and deletes the second one. -/
theorem smsIds_sound_sample : ∃ w w', sampleIdSystem.run sampleStart sampleReported = some w ∧
    sampleIdSystem.step w sampleDelete = some w' ∧ (w.messaging 0).smsIds.Nodup ∧
    ∃ path, (methodListSms (w.refresh (sampleBridge false)) (some sampleListRequest)).2 =
        .served 0 [sampleFirst,sampleSecond] ∧
      .deleting 0 0 1 sampleSecond.smsId path ∈ w'.trace ∧ sampleSecond.sms.path = some path := by
  obtain ⟨w,hw,hrest⟩ := Option.bind_eq_some_iff.mp sampleReported_deletes
  obtain ⟨w',hw',hall⟩ := Option.map_eq_some_iff.mp hrest
  simp only [Prod.mk.injEq,beq_iff_eq,List.contains_iff_mem] at hall
  obtain ⟨hserved,hdel,hnew⟩ := hall
  have h₁ := smsIds_sound (System.reachable_run (S:=sampleIdSystem)
    (.start sampleStart_initial) hw)
  have hsecond : sampleSecond ∈ [sampleFirst,sampleSecond] := by simp
  refine ⟨w,w',hw,hw',(h₁.1 0).1,"/sms/4".toList,hserved,hdel,?_⟩
  refine (h₁.2.2.2 sampleRandom_neverRepeats _ _ 0 _ hserved _ hsecond [] w
    (.nil w) _ _ _ w' hw' 0 0 1 _ hdel ?_).2
  simpa [sampleSecond] using hnew

end Sms
end L850GL
