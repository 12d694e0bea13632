import L850GL.Sms.Epochs

/-! Tombstones: a deleted message stays out of the cache until it is added again, unless
`Messaging.Create` is answered with its path. -/
namespace L850GL
namespace Sms

open AssocList Errors Identity Messaging Mutation World

variable {w w' w₁ : World} {ref other : ModemRef} {op : OperationRef} {operation : SmsOperation}
  {sha256 : CString → Digest} {random : Nat → Option (Vector UInt8 16)} {event : Event}
  {changes later : List Change} {s : Messaging × Nat} {path : CString} {early : Bool}

/-- The message with the path is in the cache. -/
def Visible (w : World) (ref : ModemRef) (path : CString) : Prop :=
  path ∈ Keys (w.messaging ref).smsByPath

/-- The call is a listing of the record in the epoch it is in. -/
def listsNow (w : World) (ref : ModemRef) : Call → Bool
  | .list other source epoch => other == ref && (w.messaging ref).messaging == some source &&
      (w.messaging ref).messagingGeneration == epoch
  | _ => false

/-- The messages that answer a listing of the record in the epoch it is in. -/
def listReply (w : World) (event : Event) (ref : ModemRef) : Option (List MMSms) :=
  match event with
  | .finish index outcome =>
    if w.calls[index]?.any (listsNow w ref) then some outcome.messages else none
  | _ => none

/-- `Messaging.Create` answers a current operation on the record with the path, and the cache
has room for the message. -/
def createReply (w : World) (event : Event) (ref : ModemRef) (path : CString) : Bool :=
  match event with
  | .finish index outcome =>
    match w.calls[index]?,outcome.sms with
    | some (.create op),some sms => (w.operations op).any fun operation =>
        operation.modem == ref && sms.path == some path &&
          (smsOperationStaleCode w operation).isNone &&
          decide ((w.messaging ref).smsByPath.length < maxSmsCache)
    | _,_ => false
  | _ => false

/-- The record enters another epoch. -/
def changesEpoch (w : World) (event : Event) (ref : ModemRef) : Bool :=
  match event with
  | .reconcile other forceEpoch object =>
    other == ref && (forceEpoch || object != (w.messaging ref).messaging)
  | _ => false

/-- Listings that ModemManager takes after the deletion of a path do not name it.  As long as
`early`, the listing that is out was called before the deletion. -/
def ListsFit (ref : ModemRef) (path : CString) : Bool → List (World × (Event × Bridge)) → Prop
  | _, [] => True
  | early, run::rest =>
    match listReply run.1 run.2.1 ref with
    | none => ListsFit ref path early rest
    | some messages => (path ∈ listedPaths messages → early = true) ∧ ListsFit ref path false rest

/-- A change that does not bring the path back. -/
def Change.Spares (m : Messaging) (path : CString) : Change → Prop
  | .enter _ sms _ => sms.path = some path → maxSmsCache ≤ m.smsByPath.length
  | .rebuild _ _ messages => path ∈ listedPaths messages → path ∈ m.smsDeletedPaths
  | _ => True

/-- A change that can take the tombstone of the path away. -/
def Change.Retires (path : CString) : Change → Prop
  | .added value => value = some path
  | .rebuild _ _ _ | .epoch _ => True
  | _ => False

theorem apply_hidden (hi : IdsOf random s) (ref : ModemRef) {change : Change}
    (hk : path ∉ Keys s.1.smsByPath) (hs : change.Spares s.1 path) :
    path ∉ Keys (change.apply random ref s).1.smsByPath := by
  have hsub : ∀ {m : Messaging}, m.smsByPath ⊆ s.1.smsByPath → path ∉ Keys m.smsByPath :=
    fun hc hm => hk (List.map_subset _ hc hm)
  by_cases hkeeps : change.KeepsCache
  · rw [apply_keepsCache hkeeps]
    exact hk
  cases change with
  | querySms | dedupePrune | dedupeRemove | dedupeStore | reserve | release | added
  | revisionBump => exact absurd trivial hkeeps
  | listFailed | clear => exact hsub (List.nil_subset _)
  | epoch object =>
    refine hsub ?_
    rw [show (Change.apply random ref s (.epoch object)).1.smsByPath = [] from
      (changeEpoch_tables s.1 object).1]
    exact List.nil_subset _
  | deleted deleted =>
    refine hsub ?_
    rw [show (Change.apply random ref s (.deleted deleted)).1.smsByPath = _ from
      (smsDeleted_tables s.1 deleted).1]
    exact List.filter_subset_self _
  | enter generation sms reservedId =>
    rcases s.1.admitReservedSms_cases ref generation sms reservedId with
      ⟨hm,-⟩ | ⟨hm,-⟩ | ⟨created,entry,hpath,-,-,-,-,-,hroom,hm⟩
    · simp only [Change.apply,hm]
      exact hk
    · simp only [Change.apply,hm]
      exact hk
    · have hne : created ≠ path := by
        rintro rfl
        rcases hroom with hroom | hroom
        · exact absurd (hs hpath) (by omega)
        · exact hk hroom
      have hput : path ∉ Keys (insertSms s.1.smsByPath created entry) := by
        intro hm
        have hm' : path ∈ Keys (AssocList.put s.1.smsByPath created entry) := hm
        rcases mem_keys_put.mp hm' with hm | rfl
        · exact hk hm
        · exact hne rfl
      rcases hm with hm | ⟨hm,-⟩
      · simp only [Change.apply,hm]
        exact hput
      · simp only [Change.apply,hm]
        exact hput
  | rebuild generation properties messages =>
    have hi' : IdsOf random (s.1.answered,s.2) := hi.shrink (.refl _) (List.Subset.refl _)
      (Nat.le_refl _)
    rcases rebuildCache_cases hi' ref generation properties messages with
      ⟨drawn,-,hm⟩ | ⟨passed,r,hperm,hr,hm⟩
    · simp only [Change.apply,hm]
      exact hsub (List.nil_subset _)
    · simp only [Change.apply,hm]
      intro hmem
      obtain ⟨entry,he,rfl⟩ := List.mem_map.mp hmem
      obtain ⟨-,-,hlisted,hnot⟩ := hr.paths entry he
      exact hnot (hs ((listedPaths_perm hperm).mem_iff.mp hlisted))

theorem smsDeleted_deletedPaths (m : Messaging) (path : CString) :
    (m.smsDeleted path).smsDeletedPaths = if m.smsDeletedPaths.length < maxSmsCache then
      insertString m.smsDeletedPaths path else m.smsDeletedPaths := by
  simp only [Messaging.smsDeleted]
  split_ifs
  · split <;> rfl
  · split <;> rfl

theorem mem_insertString {set : List CString} {value other : CString} :
    other ∈ insertString set value ↔ other ∈ set ∨ other = value := by
  simp only [insertString]
  split
  · constructor
    · exact .inl
    · rintro (h | rfl)
      · exact h
      · assumption
  · simp

theorem admitReservedSms_deletedPaths (m : Messaging) (ref : ModemRef) (generation : Nat)
    (sms : MMSms) (reservedId : CString) :
    (m.admitReservedSms ref generation sms reservedId).1.smsDeletedPaths = m.smsDeletedPaths := by
  rcases m.admitReservedSms_cases ref generation sms reservedId with
    ⟨hm,-⟩ | ⟨hm,-⟩ | ⟨created,entry,-,-,-,-,-,-,-,hm | ⟨hm,-⟩⟩
  all_goals rw [hm]
  all_goals rfl

/-- What changes leave of the tombstones. -/
theorem apply_tombstone (random : Nat → Option (Vector UInt8 16)) (ref : ModemRef)
    {change : Change} (h : path ∈ s.1.smsDeletedPaths) (hr : ¬change.Retires path) :
    path ∈ (change.apply random ref s).1.smsDeletedPaths := by
  cases change with
  | querySms =>
    rw [show (Change.apply random ref s .querySms).1.smsDeletedPaths = _ from
      (querySms_tables s.1).2.2]
    exact h
  | reserve =>
    simp only [Change.apply,Messaging.reserveSmsId]
    split <;> exact h
  | release smsId =>
    rw [show (Change.apply random ref s (.release smsId)).1.smsDeletedPaths = _ from
      (releaseSmsId_tables s.1 smsId).2.2]
    exact h
  | enter generation sms reservedId =>
    rw [show (Change.apply random ref s (.enter generation sms reservedId)).1.smsDeletedPaths = _
      from admitReservedSms_deletedPaths s.1 ref generation sms reservedId]
    exact h
  | added added =>
    simp only [Change.apply,Messaging.smsAdded]
    split
    · exact h
    · rename_i value hvalue
      refine List.mem_filter.mpr ⟨h,?_⟩
      rw [bne_iff_ne]
      rintro rfl
      exact hr (Option.filter_eq_some_iff.mp hvalue).1
  | deleted deleted =>
    rw [show (Change.apply random ref s (.deleted deleted)).1.smsDeletedPaths = _ from
      smsDeleted_deletedPaths s.1 deleted]
    split
    · exact mem_insertString.mpr (.inl h)
    · exact h
  | dedupePrune | dedupeRemove | dedupeStore | listFailed | revisionBump | clear => exact h
  | rebuild | epoch => exact absurd trivial hr

theorem applyAll_tombstone (ref : ModemRef) (h : path ∈ s.1.smsDeletedPaths)
    (hr : ∀ change ∈ changes, ¬change.Retires path) :
    path ∈ (applyAll random ref s changes).1.smsDeletedPaths := by
  induction changes generalizing s with
  | nil => exact h
  | cons change changes ih =>
    have h₁ := apply_tombstone random ref h (hr change List.mem_cons_self)
    exact ih h₁ fun c hc => hr c (List.mem_cons_of_mem _ hc)

/-- The path is hidden, with its tombstone as long as a listing from before its deletion is
out. -/
structure Hidden (w : World) (ref : ModemRef) (path : CString) (early : Bool) : Prop where
  hidden : ¬Visible w ref path
  tombstone : early = true → path ∈ (w.messaging ref).smsDeletedPaths

theorem listReply_of_list {index : Nat} {outcome : Outcome} {source epoch : Nat}
    (hcall : w.calls[index]? = some (.list ref source epoch))
    (hsource : (w.messaging ref).messaging = some source)
    (hepoch : (w.messaging ref).messagingGeneration = epoch) :
    listReply w (.finish index outcome) ref = some outcome.messages := by
  simp [listReply,hcall,listsNow,hsource,hepoch]

theorem AnswersCall.full {index : Nat} {outcome : Outcome} {sms : MMSms}
    (ha : AnswersCall w index (.create op) op operation) (hsms : outcome.sms = some sms)
    (hcurrent : smsOperationStaleCode w operation = none)
    (hc : createReply w (.finish index outcome) operation.modem path = false)
    (hpath : sms.path = some path) :
    maxSmsCache ≤ (w.messaging operation.modem).smsByPath.length := by
  simpa [createReply,ha.call,hsms,ha.known,hcurrent,hpath] using hc

/-- One event, in the record's epoch and without another `Added` for the path. -/
theorem Script.hidden (hi : IdsSound random w)
    (h : Runs random ref (w.report event) w' changes)
    (hs : Script sha256 random w w' event ref changes) (hw : Hidden w other path early)
    (hadded : event ≠ .added other (some path)) (hepoch : changesEpoch w event other = false)
    (hcreate : createReply w event other path = false)
    (hlist : ∀ messages, listReply w event other = some messages →
      path ∈ listedPaths messages → early = true) :
    Hidden w' other path (early && (listReply w event other).isNone) := by
  by_cases ho : other = ref
  · subst ho
    have hm : w'.messaging other = (applyAll random other (w.messaging other,w.drawn) changes).1 :=
      congrArg Prod.fst h.of_report.1
    have htomb : (∀ change ∈ changes, ¬change.Retires path) → early = true →
        path ∈ (w'.messaging other).smsDeletedPaths := by
      intro hr he
      rw [hm]
      exact applyAll_tombstone other (hw.tombstone he) hr
    have hkeep : (∀ change ∈ changes, change.KeepsCache) → ¬Visible w' other path := by
      intro hk
      rw [Visible,h.kept hk]
      exact hw.hidden
    have hmain : ∀ {main : Change} {later : List Change}, changes = main::later →
        (∀ change ∈ later, change.KeepsCache) → main.Spares (w.messaging other) path →
        ¬Visible w' other path := by
      rintro main later rfl hk hsp
      rw [Visible,hm,applyAll,List.foldl_cons]
      rw [show (List.foldl (Change.apply random other) (main.apply random other
        (w.messaging other,w.drawn)) later).1.smsByPath = _ from applyAll_keepsCache hk]
      exact apply_hidden (hi other) other hw.hidden hsp
    have hand : ∀ {b : Bool}, (early && b) = true → early = true := by
      intro b hb
      exact (Bool.and_eq_true_iff.mp hb).1
    have hquery : ∀ c : Bool, ∀ change ∈ (if c then [Change.querySms] else []),
        change.KeepsCache := by
      intro c change hc
      cases c with
      | true => rw [List.mem_singleton.mp hc]; trivial
      | false => cases hc
    cases hs with
    | idle | startedDelete =>
      exact ⟨hkeep (by simp),fun he => htomb (by simp) (hand he)⟩
    | queried | known | changed | noId | startedSend =>
      exact ⟨hkeep (by simp [Change.KeepsCache]),
        fun he => htomb (by simp [Change.Retires]) (hand he)⟩
    | added =>
      refine ⟨hkeep (by simp [Change.KeepsCache]),fun he => htomb ?_ (hand he)⟩
      simp only [List.mem_cons,List.not_mem_nil,or_false]
      rintro change (rfl | rfl) hr
      · have hr' : _ = some path := hr
        exact hadded (by rw [hr'])
      · exact hr
    | deleted =>
      exact ⟨hmain rfl (by simp [Change.KeepsCache]) trivial,
        fun he => htomb (by simp [Change.Retires]) (hand he)⟩
    | removed =>
      exact ⟨hmain rfl (by simp) trivial,fun he => htomb (by simp [Change.Retires]) (hand he)⟩
    | epochChanged _ hchanged =>
      exfalso
      simp only [changesEpoch,beq_self_eq_true,Bool.true_and,Bool.or_eq_false_iff,
        bne_eq_false_iff_eq] at hepoch
      rcases hchanged with hc | hc
      · rw [hepoch.1] at hc
        cases hc
      · exact hc hepoch.2
    | listFailed hcall _ hsource hep _ later hlater =>
      refine ⟨hmain rfl (hlater ▸ hquery _) trivial,fun he => ?_⟩
      rw [listReply_of_list hcall hsource hep] at he
      simp at he
    | listed hcall _ hsource hep _ later hlater =>
      refine ⟨hmain rfl (hlater ▸ hquery _) fun hp =>
        hw.tombstone (hlist _ (listReply_of_list hcall hsource hep) hp),fun he => ?_⟩
      rw [listReply_of_list hcall hsource hep] at he
      simp at he
    | dispatched ha hsms hcurrent =>
      exact ⟨hmain rfl (by simp) (ha.full hsms hcurrent hcreate),
        fun he => htomb (by simp [Change.Retires]) (hand he)⟩
    | @ended index outcome call op operation before settlement ha hb hst =>
      have hrest := hst.keepsRelease
      have htombs : ∀ change ∈ before++settlement++[.release operation.smsId],
          ¬change.Retires path := by
        cases hb <;> cases hst <;> simp [Change.Retires]
      refine ⟨?_,fun he => htomb htombs (hand he)⟩
      cases hb with
      | nothing => exact hkeep hrest
      | queried =>
        refine hkeep fun change hc => ?_
        rw [List.append_assoc] at hc
        rcases List.mem_cons.mp hc with rfl | hc
        · trivial
        · exact hrest change hc
      | admitted op' sms hcall hsms hcurrent =>
        subst hcall
        cases ha.belongs
        exact hmain rfl hrest (ha.full hsms hcurrent hcreate)
  · have hsame := h.of_report.2 other ho
    refine ⟨?_,fun he => ?_⟩
    · rw [Visible,hsame]
      exact hw.hidden
    · rw [hsame]
      exact hw.tombstone (Bool.and_eq_true_iff.mp he).1

theorem step_hidden {event : Event × Bridge} (h : IdInv random w)
    (hs : step sha256 random w event = some w') (hw : Hidden w ref path early)
    (hadded : event.1 ≠ .added ref (some path)) (hepoch : changesEpoch w event.1 ref = false)
    (hcreate : createReply w event.1 ref path = false)
    (hlist : ∀ messages, listReply w event.1 ref = some messages →
      path ∈ listedPaths messages → early = true) :
    Hidden w' ref path (early && (listReply w event.1 ref).isNone) := by
  obtain ⟨changed,changes,hr,hc⟩ := step_script h hs
  have hstale : ∀ operation, smsOperationStaleCode (w.refresh event.2) operation =
      smsOperationStaleCode w operation := by
    intro operation
    have hl : ((w.refresh event.2).modem operation.modem).live =
        (w.modem operation.modem).live := refreshModem_live _ _
    have hg : ((w.refresh event.2).modem operation.modem).generation =
        (w.modem operation.modem).generation := refreshModem_generation _ _
    simp only [smsOperationStaleCode,hl,hg]
    rfl
  have hcreate' : createReply (w.refresh event.2) event.1 ref path = false := by
    rw [← hcreate]
    simp only [createReply,hstale]
    rfl
  have hw' : Hidden (w.refresh event.2) ref path early := ⟨hw.hidden,hw.tombstone⟩
  have hepoch' : changesEpoch (w.refresh event.2) event.1 ref = false := hepoch
  have hlist' : ∀ messages, listReply (w.refresh event.2) event.1 ref = some messages →
      path ∈ listedPaths messages → early = true := hlist
  have h₁ := hc.hidden (h.refresh event.2).ids hr hw' hadded hepoch' hcreate' hlist'
  exact h₁

/-- The steps of a run after a deletion: of one epoch, and without another `Added` for the
path. -/
def Undisturbed (ref : ModemRef) (path : CString) (run : World × (Event × Bridge)) : Prop :=
  run.2.1 ≠ .added ref (some path) ∧ changesEpoch run.1 run.2.1 ref = false

theorem path_hidden {steps : List (World × (Event × Bridge))}
    (hp : (smsSystem sha256 random).Path w steps w') (hi : IdInv random w)
    (hw : Hidden w ref path early) (hu : ∀ run ∈ steps, Undisturbed ref path run)
    (hlists : ListsFit ref path early steps)
    (hcreate : ∀ run ∈ steps, createReply run.1 run.2.1 ref path = false) :
    ¬Visible w' ref path ∧ ∀ run ∈ steps, ¬Visible run.1 ref path := by
  induction hp generalizing early with
  | nil => exact ⟨hw.hidden,by simp⟩
  | @cons s t u e steps hs hpath ih =>
    obtain ⟨hadded,hepoch⟩ := hu (s,e) (by simp)
    have hnext : (∀ messages, listReply s e.1 ref = some messages →
        path ∈ listedPaths messages → early = true) ∧
        ListsFit ref path (early && (listReply s e.1 ref).isNone) steps := by
      simp only [ListsFit] at hlists
      cases hr : listReply s e.1 ref with
      | none =>
        rw [hr] at hlists
        exact ⟨by simp,by simpa using hlists⟩
      | some messages =>
        rw [hr] at hlists
        refine ⟨fun messages' hm => ?_,by simpa using hlists.2⟩
        cases hm
        exact hlists.1
    have h₁ := step_hidden hi hs hw hadded hepoch (hcreate (s,e) (by simp)) hnext.1
    obtain ⟨h₂,h₃⟩ := ih (hi.step hs) h₁ (fun run hm => hu run (List.mem_cons_of_mem _ hm))
      hnext.2 fun run hm => hcreate run (List.mem_cons_of_mem _ hm)
    refine ⟨h₂,fun run hm => ?_⟩
    rcases List.mem_cons.mp hm with rfl | hm
    · exact hw.hidden
    · exact h₃ run hm

/-- A tombstone is of a deletion. -/
theorem apply_deletedPaths (random : Nat → Option (Vector UInt8 16)) (ref : ModemRef)
    {change : Change} (h : path ∈ (change.apply random ref s).1.smsDeletedPaths) :
    path ∈ s.1.smsDeletedPaths ∨ change = .deleted path := by
  cases change with
  | querySms =>
    rw [show (Change.apply random ref s .querySms).1.smsDeletedPaths = _ from
      (querySms_tables s.1).2.2] at h
    exact .inl h
  | reserve =>
    simp only [Change.apply,Messaging.reserveSmsId] at h
    split at h <;> exact .inl h
  | release smsId =>
    rw [show (Change.apply random ref s (.release smsId)).1.smsDeletedPaths = _ from
      (releaseSmsId_tables s.1 smsId).2.2] at h
    exact .inl h
  | enter generation sms reservedId =>
    rw [show (Change.apply random ref s (.enter generation sms reservedId)).1.smsDeletedPaths = _
      from admitReservedSms_deletedPaths s.1 ref generation sms reservedId] at h
    exact .inl h
  | added added =>
    simp only [Change.apply,Messaging.smsAdded] at h
    split at h
    · exact .inl h
    · exact .inl (List.mem_of_mem_filter h)
  | deleted deleted =>
    rw [show (Change.apply random ref s (.deleted deleted)).1.smsDeletedPaths = _ from
      smsDeleted_deletedPaths s.1 deleted] at h
    split at h
    · rcases mem_insertString.mp h with h | rfl
      · exact .inl h
      · exact .inr rfl
    · exact .inl h
  | dedupePrune | dedupeRemove | dedupeStore | listFailed | revisionBump | clear => exact .inl h
  | rebuild generation properties messages =>
    simp only [Change.apply,Messaging.rebuildCache] at h
    split at h
    · exact .inl h
    · exact .inl (List.mem_of_mem_filter h)
  | epoch object =>
    rw [show (Change.apply random ref s (.epoch object)).1.smsDeletedPaths = [] from
      (changeEpoch_tables s.1 object).2.2] at h
    cases h

theorem applyAll_deletedPaths (random : Nat → Option (Vector UInt8 16)) (ref : ModemRef)
    (h : path ∈ (applyAll random ref s changes).1.smsDeletedPaths) :
    path ∈ s.1.smsDeletedPaths ∨ .deleted path ∈ changes := by
  induction changes generalizing s with
  | nil => exact .inl h
  | cons change changes ih =>
    rcases ih h with h | h
    · rcases apply_deletedPaths random ref h with h | rfl
      · exact .inl h
      · exact .inr List.mem_cons_self
    · exact .inr (List.mem_cons_of_mem _ h)

theorem Script.deleted_mem (hs : Script sha256 random w w' event ref changes)
    (h : .deleted path ∈ changes) :
    event = .deleted ref (some path) ∧ gVariantIsObjectPath path = true := by
  cases hs with
  | @deleted ref value hlive hsome hpath =>
    simp only [List.mem_cons,Change.deleted.injEq,reduceCtorEq,List.not_mem_nil,or_false] at h
    subst h
    exact ⟨rfl,hpath⟩
  | listFailed _ _ _ _ _ later hlater | listed _ _ _ _ _ later hlater =>
    rw [hlater] at h
    split at h <;> simp at h
  | ended before settlement ha hb hst =>
    cases hb <;> cases hst <;> simp at h
  | _ => simp at h

/-- Tombstones of a step are old, or of the deletion that it is. -/
theorem step_deletedPaths {event : Event × Bridge} (h : IdInv random w)
    (hs : step sha256 random w event = some w')
    (hm : path ∈ (w'.messaging ref).smsDeletedPaths) :
    path ∈ (w.messaging ref).smsDeletedPaths ∨
      event.1 = .deleted ref (some path) ∧ gVariantIsObjectPath path = true := by
  obtain ⟨changed,changes,hr,hc⟩ := step_script h hs
  by_cases ho : ref = changed
  · subst ho
    rw [show w'.messaging ref = _ from congrArg Prod.fst hr.of_report.1] at hm
    exact (applyAll_deletedPaths random ref hm).imp id hc.deleted_mem
  · rw [hr.of_report.2 ref ho] at hm
    exact .inl hm

theorem reachable_deletedPaths (h : (smsSystem sha256 random).Reachable w)
    (hm : path ∈ (w.messaging ref).smsDeletedPaths) : gVariantIsObjectPath path = true := by
  induction h with
  | start h₀ =>
    rw [Initial.messaging h₀] at hm
    cases hm
  | step h _ hs ih =>
    rcases step_deletedPaths (reachable_idInv h) hs hm with hm | ⟨-,hpath⟩
    · exact ih hm
    · exact hpath

/-- An `Added` signal leaves no tombstone of its path. -/
theorem step_added {bridge : Bridge} (h : (smsSystem sha256 random).Reachable w)
    (hs : step sha256 random w (.added ref (some path),bridge) = some w') :
    path ∉ (w'.messaging ref).smsDeletedPaths := by
  intro hm
  have hvalid : gVariantIsObjectPath path = true := reachable_deletedPaths (.step h trivial hs) hm
  simp only [step,Option.ite_none_right_eq_some,handle,Option.some.injEq,Bool.and_eq_true] at hs
  obtain ⟨-,⟨hlive,hsome⟩,rfl⟩ := hs
  have hr₁ : Runs random ref (w.refresh bridge) ((w.refresh bridge).updateMessaging ref
      (((w.refresh bridge).messaging ref).smsAdded (some path))) [.added (some path)] :=
    .of_update _ rfl rfl rfl rfl
  have hr : Runs random ref (w.refresh bridge) (smsAdded (w.refresh bridge) ref (some path))
      [.added (some path),.querySms] := hr₁.trans (querySms_runs random hlive)
  rw [show (smsAdded (w.refresh bridge) ref (some path)).messaging ref = _ from
    congrArg Prod.fst hr.messaging] at hm
  have hm' : path ∈ (applyAll random ref (Change.apply random ref
      ((w.refresh bridge).messaging ref,(w.refresh bridge).drawn) (.added (some path)))
        [.querySms]).1.smsDeletedPaths := hm
  rcases applyAll_deletedPaths random ref hm' with hm | hm
  · simp [Change.apply,Messaging.smsAdded,Option.filter,hvalid,Messaging.smsRevisionBump] at hm
  · simp at hm

/-- A `Deleted` signal leaves nothing of its path in the cache. -/
theorem step_deleted {bridge : Bridge} (h : IdInv random w)
    (hs : step sha256 random w (.deleted ref (some path),bridge) = some w') :
    ¬Visible w' ref path := by
  have hi' := (h.step hs).ids ref
  intro hv
  obtain ⟨entry,he,hpath⟩ := List.mem_map.mp hv
  have hvalid := (hi'.paths entry he).2
  rw [hpath] at hvalid
  simp only [step,Option.ite_none_right_eq_some,handle,Option.some.injEq,Bool.and_eq_true] at hs
  obtain ⟨-,⟨hlive,hsome⟩,rfl⟩ := hs
  have hr : Runs random ref (w.refresh bridge) (smsDeleted (w.refresh bridge) ref (some path))
      [.deleted path,.querySms] := by
    have hf : (some path).filter gVariantIsObjectPath = some path := by simp [hvalid]
    have hr₁ : Runs random ref (w.refresh bridge) ((w.refresh bridge).updateMessaging ref
        (((w.refresh bridge).messaging ref).smsDeleted path)) [.deleted path] :=
      .of_update _ rfl rfl rfl rfl
    simp only [smsDeleted,hf]
    exact hr₁.trans (querySms_runs random hlive)
  rw [Visible,show (smsDeleted (w.refresh bridge) ref (some path)).messaging ref = _ from
    congrArg Prod.fst hr.messaging] at hv
  have hcache : (applyAll random ref ((w.refresh bridge).messaging ref,(w.refresh bridge).drawn)
      [.deleted path,.querySms]).1.smsByPath =
        removeSms ((w.refresh bridge).messaging ref).smsByPath path :=
    (querySms_tables _).1.trans (smsDeleted_tables _ path).1
  rw [hcache] at hv
  exact (mem_keys_remove.mp hv).2 rfl

/-- Deleted messages stay away.  After a `Deleted` signal that left a tombstone, no state of the
run shows the path before it is added again, in the epoch, when `Messaging.Create` does not answer
an operation with it; and after an `Added` signal it has no tombstone before another deletion. -/
theorem smsDeleted_hidden (h : (smsSystem sha256 random).Reachable w) (bridge : Bridge)
    (ref : ModemRef) (path : CString) (w₁ : World) (steps : List (World × (Event × Bridge)))
    (hpath : (smsSystem sha256 random).Path w₁ steps w') :
    (step sha256 random w (.deleted ref (some path),bridge) = some w₁ →
      path ∈ (w₁.messaging ref).smsDeletedPaths →
      (∀ run ∈ steps, Undisturbed ref path run) →
      ListsFit ref path (w.calls.any (listsNow w ref)) steps →
      (∀ run ∈ steps, createReply run.1 run.2.1 ref path = false) →
      ¬Visible w' ref path ∧ ∀ run ∈ steps, ¬Visible run.1 ref path) ∧
    (step sha256 random w (.added ref (some path),bridge) = some w₁ →
      (∀ run ∈ steps, run.2.1 ≠ .deleted ref (some path)) →
      path ∉ (w'.messaging ref).smsDeletedPaths ∧
        ∀ run ∈ steps, path ∉ (run.1.messaging ref).smsDeletedPaths) := by
  refine ⟨fun hs hrec hu hlists hcreate => ?_,fun hs hdeleted => ?_⟩
  · have hi := reachable_idInv h
    exact path_hidden hpath (hi.step hs) ⟨step_deleted hi hs,fun _ => hrec⟩ hu hlists hcreate
  · have h₁ := step_added h hs
    have hr₁ : (smsSystem sha256 random).Reachable w₁ := .step h trivial hs
    clear hs h
    induction hpath with
    | nil => exact ⟨h₁,by simp⟩
    | @cons s t u e steps hs hpath ih =>
      have ht : path ∉ (t.messaging ref).smsDeletedPaths := by
        intro hm
        rcases step_deletedPaths (reachable_idInv hr₁) hs hm with hm | ⟨he,-⟩
        · exact h₁ hm
        · exact hdeleted (s,e) (by simp) he
      obtain ⟨h₂,h₃⟩ := ih (fun run hm => hdeleted run (List.mem_cons_of_mem _ hm)) ht
        (.step hr₁ trivial hs)
      refine ⟨h₂,fun run hm => ?_⟩
      rcases List.mem_cons.mp hm with rfl | hm
      · exact h₁
      · exact h₃ run hm

def sampleSmsPath : CString := "/sms/3".toList

/-- A message is being created when its path is added. -/
def sampleCreated : List (Event × Bridge) :=
  [.admitted,.reconcile 0 false (some 7),.finish 0 ⟨[],none,false,none⟩,
   .sendSms ⟨[],[],[]⟩ (some (sampleSendRequest "hello".toList)),.added 0 (some sampleSmsPath)].map
    fun event => (event,sampleBridge false)

def sampleDeleted : Event × Bridge := (.deleted 0 (some sampleSmsPath),sampleBridge false)

def sampleCreateReply : Event × Bridge :=
  (.finish 0 ⟨[],some ⟨3,some sampleSmsPath⟩,true,none⟩,sampleBridge false)

/-- The listing that was called before the deletion names the path. -/
def sampleEarlyList : Event × Bridge :=
  (.finish 1 ⟨[⟨3,some sampleSmsPath⟩],none,true,none⟩,sampleBridge false)

theorem sampleCreated_listed : ((sampleSendSystem.run sampleStart sampleCreated).bind fun w =>
    (sampleSendSystem.step w sampleDeleted).bind fun w₁ =>
    (sampleSendSystem.step w₁ sampleEarlyList).map fun _ =>
      (decide (sampleSmsPath ∈ (w₁.messaging 0).smsDeletedPaths),w.calls.any (listsNow w 0),
        createReply w₁ sampleEarlyList.1 0 sampleSmsPath)) = some (true,true,false) := by
  decide +kernel

/-- The rules at a run whose listing of before the deletion names the deleted path. -/
theorem smsDeleted_hidden_sample : ∃ w w₁ w',
    sampleSendSystem.run sampleStart sampleCreated = some w ∧
    sampleSendSystem.step w sampleDeleted = some w₁ ∧
    sampleSendSystem.step w₁ sampleEarlyList = some w' ∧ ¬Visible w' 0 sampleSmsPath := by
  obtain ⟨w,hw,hrest⟩ := Option.bind_eq_some_iff.mp sampleCreated_listed
  obtain ⟨w₁,hw₁,hrest⟩ := Option.bind_eq_some_iff.mp hrest
  obtain ⟨w',hw',hall⟩ := Option.map_eq_some_iff.mp hrest
  simp only [Prod.mk.injEq,decide_eq_true_eq] at hall
  obtain ⟨htomb,hearly,hcreate⟩ := hall
  have hp : sampleSendSystem.Path w₁ [(w₁,sampleEarlyList)] w' := .cons hw' (.nil w')
  have h₁ := (smsDeleted_hidden (System.reachable_run (.start sampleStart_initial) hw)
    (sampleBridge false) 0 sampleSmsPath w₁ [(w₁,sampleEarlyList)] hp).1 hw₁ htomb
  refine ⟨w,w₁,w',hw,hw₁,hw',(h₁ (fun run hm => ?_) ?_ fun run hm => ?_).1⟩
  · rw [List.mem_singleton.mp hm]
    exact ⟨by simp [sampleEarlyList],rfl⟩
  · simp only [ListsFit,hearly]
    split <;> simp
  · rw [List.mem_singleton.mp hm]
    exact hcreate

theorem sampleCreated_deleted : ((sampleSendSystem.run sampleStart sampleCreated).bind fun w =>
    (sampleSendSystem.step w sampleDeleted).bind fun w₁ =>
    (sampleSendSystem.step w₁ sampleCreateReply).map fun w' =>
      (decide (sampleSmsPath ∈ (w₁.messaging 0).smsDeletedPaths),
        listReply w₁ sampleCreateReply.1 0 == none,
        decide (sampleSmsPath ∈ AssocList.Keys (w'.messaging 0).smsByPath))) =
    some (true,true,true) := by
  decide +kernel

/-- `Messaging.Create` answers with a path that was deleted meanwhile, and the message is back. -/
theorem smsDeleted_shown : ∃ w w₁ w' steps, sampleSendSystem.Reachable w ∧
    sampleSendSystem.step w sampleDeleted = some w₁ ∧
    sampleSmsPath ∈ (w₁.messaging 0).smsDeletedPaths ∧ sampleSendSystem.Path w₁ steps w' ∧
    (∀ run ∈ steps, Undisturbed 0 sampleSmsPath run) ∧
    ListsFit 0 sampleSmsPath (w.calls.any (listsNow w 0)) steps ∧
    Visible w' 0 sampleSmsPath := by
  obtain ⟨w,hw,hrest⟩ := Option.bind_eq_some_iff.mp sampleCreated_deleted
  obtain ⟨w₁,hw₁,hrest⟩ := Option.bind_eq_some_iff.mp hrest
  obtain ⟨w',hw',hall⟩ := Option.map_eq_some_iff.mp hrest
  simp only [Prod.mk.injEq,decide_eq_true_eq,beq_iff_eq] at hall
  obtain ⟨htomb,hlist,hvisible⟩ := hall
  refine ⟨w,w₁,w',[(w₁,sampleCreateReply)],
    System.reachable_run (.start sampleStart_initial) hw,hw₁,htomb,.cons hw' (.nil w'),
    fun run hm => ?_,?_,hvisible⟩
  · rw [List.mem_singleton.mp hm]
    exact ⟨by simp [sampleCreateReply],rfl⟩
  · simp [ListsFit,hlist]

end Sms
end L850GL
