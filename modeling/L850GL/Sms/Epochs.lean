import L850GL.Sms.Repeats
import L850GL.Sms.IdIntegrity

/-! Messaging epochs: calls of an older epoch leave the records alone, cached messages are of the
current epoch, and a token is busy only as long as its message is being sent. -/
namespace L850GL
namespace Sms

open AssocList Errors ExpiringQueue Identity Messaging Mutation World

variable {w w' w₁ : World} {ref : ModemRef} {op : OperationRef} {operation : SmsOperation}
  {sha256 : CString → Digest} {random : Nat → Option (Vector UInt8 16)} {event : Event}
  {changes : List Change} {s : Messaging × Nat} {m : Messaging} {generation : Nat}

/-- Nothing is reserved and no token is known. -/
def Cleared (m : Messaging) : Prop := m.smsReservedIds = [] ∧ m.smsDedupe = []

/-- The operation was started in another epoch than the one its record is in. -/
def Outdated (w : World) (operation : SmsOperation) : Prop :=
  (w.messaging operation.modem).messagingGeneration ≠ operation.messagingGeneration ∨
    (w.messaging operation.modem).messaging ≠ some operation.messaging

theorem apply_messaging (random : Nat → Option (Vector UInt8 16)) (ref : ModemRef)
    {change : Change} (h : ∀ object, change ≠ .epoch object) :
    (change.apply random ref s).1.messaging = s.1.messaging ∧
      (change.apply random ref s).1.messagingGeneration = s.1.messagingGeneration := by
  have hledger : ∀ {m' : Messaging}, s.1.Ledger 0 m' →
      m'.messaging = s.1.messaging ∧ m'.messagingGeneration = s.1.messagingGeneration :=
    fun hl => ⟨hl.messaging,hl.epoch⟩
  cases change with
  | querySms => exact hledger (Messaging.querySms_ledger 0 s.1)
  | reserve => exact hledger (Messaging.reserveSmsId_ledger random s.1 s.2).1
  | release smsId => exact ⟨Messaging.releaseSmsId_messaging s.1 smsId,
      Messaging.releaseSmsId_messagingGeneration s.1 smsId⟩
  | enter generation sms reservedId =>
    exact hledger (Messaging.admitReservedSms_ledger 0 ref generation sms reservedId).1
  | rebuild generation properties messages =>
    have hl := Messaging.rebuildCache_ledger 0 ref random s.1.answered generation properties
      messages s.2
    exact ⟨hl.messaging,hl.epoch⟩
  | added path => exact hledger (Messaging.smsAdded_ledger s.1 path)
  | deleted path => exact hledger (Messaging.smsDeleted_ledger s.1 path)
  | dedupePrune | dedupeRemove | dedupeStore | listFailed | revisionBump | clear => exact ⟨rfl,rfl⟩
  | epoch object => exact absurd rfl (h object)

theorem prune_subset (now : Int) (q : Queue CString SmsResult) : prune now q ⊆ q :=
  List.filter_subset_self _

theorem Messaging.Ledger.dedupe_subset {m m' : Messaging} {now : Int} (h : m.Ledger now m') :
    m'.smsDedupe ⊆ m.smsDedupe := by
  rcases h.dedupe with h₁ | h₁
  · rw [h₁]
    exact List.Subset.refl _
  · rw [h₁]
    exact prune_subset now _

theorem apply_dedupe {change : Change}
    (h : ∀ now token result, change ≠ .dedupeStore now token result) :
    (change.apply random ref s).1.smsDedupe ⊆ s.1.smsDedupe := by
  have hledger : ∀ {m' : Messaging}, s.1.Ledger 0 m' → m'.smsDedupe ⊆ s.1.smsDedupe :=
    fun hl => hl.dedupe_subset
  cases change with
  | querySms => exact hledger (Messaging.querySms_ledger 0 s.1)
  | dedupePrune now => exact prune_subset now _
  | dedupeRemove now token =>
    exact List.Subset.trans (List.eraseP_subset : _ ⊆ prune now s.1.smsDedupe)
      (prune_subset now _)
  | reserve => exact hledger (Messaging.reserveSmsId_ledger random s.1 s.2).1
  | release smsId =>
    rw [show (Change.apply random ref s (.release smsId)).1.smsDedupe = s.1.smsDedupe from
      Messaging.releaseSmsId_smsDedupe s.1 smsId]
    exact List.Subset.refl _
  | enter generation sms reservedId =>
    exact hledger (Messaging.admitReservedSms_ledger 0 ref generation sms reservedId).1
  | rebuild generation properties messages =>
    exact (Messaging.rebuildCache_ledger 0 ref random s.1.answered generation properties messages
      s.2).dedupe_subset
  | added path => exact hledger (Messaging.smsAdded_ledger s.1 path)
  | deleted path => exact hledger (Messaging.smsDeleted_ledger s.1 path)
  | listFailed | revisionBump | clear => exact List.Subset.refl _
  | epoch object =>
    rw [show (Change.apply random ref s (.epoch object)).1.smsDedupe = [] from
      Messaging.changeEpoch_smsDedupe _ _]
    exact List.nil_subset _
  | dedupeStore now token result => exact absurd rfl (h now token result)

theorem applyAll_messaging (h : ∀ object, .epoch object ∉ changes) :
    (applyAll random ref s changes).1.messaging = s.1.messaging ∧
      (applyAll random ref s changes).1.messagingGeneration = s.1.messagingGeneration := by
  induction changes generalizing s with
  | nil => exact ⟨rfl,rfl⟩
  | cons change changes ih =>
    obtain ⟨h₁,h₂⟩ := ih (s:=change.apply random ref s)
      fun object hm => h object (List.mem_cons_of_mem _ hm)
    have h₃ := apply_messaging random ref (s:=s) fun object (he : change = .epoch object) =>
      h object (he ▸ List.mem_cons_self)
    exact ⟨h₁.trans h₃.1,h₂.trans h₃.2⟩

theorem applyAll_dedupe (h : ∀ now token result, .dedupeStore now token result ∉ changes) :
    (applyAll random ref s changes).1.smsDedupe ⊆ s.1.smsDedupe := by
  induction changes generalizing s with
  | nil => exact List.Subset.refl _
  | cons change changes ih =>
    have h₁ := ih (s:=change.apply random ref s)
      fun now token result hm => h now token result (List.mem_cons_of_mem _ hm)
    exact List.Subset.trans h₁ (apply_dedupe fun now token result he =>
      h now token result (he ▸ List.mem_cons_self))

/-- Outside an epoch change the records keep their epochs. -/
theorem Runs.epoch_eq (h : Runs random ref (w.report event) w' changes)
    (hn : ∀ object, .epoch object ∉ changes) (other : ModemRef) :
    (w'.messaging other).messaging = (w.messaging other).messaging ∧
      (w'.messaging other).messagingGeneration = (w.messaging other).messagingGeneration := by
  by_cases ho : other = ref
  · subst ho
    rw [show w'.messaging other = _ from congrArg Prod.fst h.of_report.1]
    exact applyAll_messaging hn
  · rw [h.of_report.2 other ho]
    exact ⟨rfl,rfl⟩

/-- Without a new token the token caches only shrink. -/
theorem Runs.dedupe_subset (h : Runs random ref (w.report event) w' changes)
    (hn : ∀ now token result, .dedupeStore now token result ∉ changes) (other : ModemRef) :
    (w'.messaging other).smsDedupe ⊆ (w.messaging other).smsDedupe := by
  by_cases ho : other = ref
  · subst ho
    rw [show w'.messaging other = _ from congrArg Prod.fst h.of_report.1]
    exact applyAll_dedupe hn
  · rw [h.of_report.2 other ho]
    exact List.Subset.refl _

/-- While an operation of another epoch is in flight, its record has nothing that it could take
away. -/
def OutdatedCleared (w : World) : Prop :=
  ∀ op operation, w.operations op = some operation → Outdated w operation →
    Cleared (w.messaging operation.modem)

theorem SmsOperation.Continues.outdated {o o' : SmsOperation} (h : o.Continues o') :
    Outdated w o' ↔ Outdated w o := by
  simp only [Outdated,h.modem,h.messagingGeneration,h.messaging]

theorem outdated_stale (h : Outdated w operation) : smsOperationStaleCode w operation ≠ none := by
  intro hc
  obtain ⟨-,-,h₁,h₂⟩ := smsOperationStaleCode_eq_none.mp hc
  rcases h with h | h
  · exact h h₁
  · exact h h₂

theorem Cleared.of_subset {m' : Messaging} (h : Cleared m)
    (hr : ∀ smsId ∈ m'.smsReservedIds, smsId ∈ m.smsReservedIds)
    (hd : m'.smsDedupe ⊆ m.smsDedupe) : Cleared m' := by
  refine ⟨List.eq_nil_iff_forall_not_mem.mpr fun x hx => ?_,?_⟩
  · have h₁ := hr x hx
    rw [h.1] at h₁
    cases h₁
  · rw [h.2] at hd
    exact List.subset_nil.mp hd

/-- A script that neither changes an epoch nor adds anything keeps cleared records cleared. -/
theorem OutdatedCleared.keep (hw : OutdatedCleared w)
    (hold : ∀ op o', w'.operations op = some o' →
      ∃ o, w.operations op = some o ∧ o.Continues o')
    (hepoch : ∀ ref, (w'.messaging ref).messaging = (w.messaging ref).messaging ∧
      (w'.messaging ref).messagingGeneration = (w.messaging ref).messagingGeneration)
    (hcleared : ∀ op o, w.operations op = some o → Outdated w o → Cleared (w.messaging o.modem) →
      w'.operations op ≠ none → Cleared (w'.messaging o.modem)) : OutdatedCleared w' := by
  intro op o' ho' hout
  obtain ⟨o,ho,hc⟩ := hold op o' ho'
  have hout' : Outdated w o := by
    have h₁ : Outdated w o' := by
      simp only [Outdated,(hepoch _).1,(hepoch _).2] at hout ⊢
      exact hout
    exact hc.outdated.mp h₁
  rw [hc.modem]
  refine hcleared op o ho hout' (hw op o ho hout') ?_
  rw [ho']
  exact Option.some_ne_none _

theorem Carried.continued (h : Carried w w') {o' : SmsOperation}
    (ho : w'.operations op = some o') : ∃ o, w.operations op = some o ∧ o.Continues o' := by
  have h₁ := h op
  rw [ho] at h₁
  cases ho' : w.operations op with
  | none =>
    rw [ho'] at h₁
    cases h₁
  | some o =>
    rw [ho'] at h₁
    cases h₁ with
    | some h₂ => exact ⟨o,rfl,h₂⟩

theorem Settlement.no_epoch {ok : Bool} (h : Settlement w operation ok changes) :
    (∀ object, Change.epoch object ∉ changes) ∧ Change.reserve ∉ changes := by
  cases h <;> simp

theorem Before.no_epoch {call : Call} {outcome : Outcome}
    (h : Before w operation call outcome changes) :
    (∀ object, Change.epoch object ∉ changes) ∧ Change.reserve ∉ changes ∧
      ∀ now token result, Change.dedupeStore now token result ∉ changes := by
  cases h <;> simp

/-- A new operation is of the current epoch, and its record had none before. -/
theorem OutdatedCleared.started {o : SmsOperation} (hw : OutdatedCleared w) (hh : Holding w)
    (hidle : (w.modem o.modem).mutationBusy = false)
    (hops : w'.operations = Function.update w.operations w.next (some o))
    (hepoch : ∀ ref, (w'.messaging ref).messaging = (w.messaging ref).messaging ∧
      (w'.messaging ref).messagingGeneration = (w.messaging ref).messagingGeneration)
    (hother : ∀ ref, ref ≠ o.modem → w'.messaging ref = w.messaging ref)
    (hcurrent : (w.messaging o.modem).messagingGeneration = o.messagingGeneration ∧
      (w.messaging o.modem).messaging = some o.messaging) : OutdatedCleared w' := by
  intro op o' ho' hout
  rw [hops] at ho'
  by_cases he : op = w.next
  · rw [he,Function.update_self] at ho'
    obtain rfl := Option.some.inj ho'
    simp only [Outdated,(hepoch _).1,(hepoch _).2] at hout
    rcases hout with h | h
    · exact absurd hcurrent.1 h
    · exact absurd hcurrent.2 h
  · rw [Function.update_of_ne he] at ho'
    have hne : o'.modem ≠ o.modem := by
      intro hm
      have h₁ := (hh.holds op o' ho').busy
      rw [hm,hidle] at h₁
      cases h₁
    simp only [Outdated,(hepoch _).1,(hepoch _).2] at hout
    rw [hother _ hne]
    exact hw op o' ho' hout

theorem querySms_cleared (h : Cleared m) : Cleared m.querySms.1 :=
  h.of_subset (fun _ hx => (querySms_tables m).2.1 ▸ hx)
    (Messaging.querySms_ledger 0 m).dedupe_subset

theorem changeEpoch_cleared (m : Messaging) (object : Option Nat) :
    Cleared (m.changeEpoch object) :=
  ⟨(changeEpoch_tables m object).2.1,Messaging.changeEpoch_smsDedupe m object⟩

theorem OutdatedCleared.step (hh : Holding w) (hi : IdsSound random w) (hw : OutdatedCleared w)
    (h : Runs random ref (w.report event) w' changes)
    (hs : Script sha256 random w w' event ref changes) : OutdatedCleared w' := by
  have hsame : Carried w w' → (∀ object, Change.epoch object ∉ changes) →
      Change.reserve ∉ changes →
      (∀ now token result, Change.dedupeStore now token result ∉ changes) →
      OutdatedCleared w' := by
    intro hc hn₁ hn₂ hn₃
    exact hw.keep (fun _ _ ho => hc.continued ho) (h.epoch_eq hn₁) fun op o _ _ hcl _ =>
      hcl.of_subset (h.reserved_subset hi hn₂ _) (h.dedupe_subset hn₃ _)
  cases hs with
  | idle hc | queried _ _ hc | known hc | dispatched _ _ _ hc
  | added _ _ hc | deleted _ _ _ hc | changed hc | removed _ hc =>
    exact hsame hc (by simp) (by simp) (by simp)
  | listFailed _ _ _ _ hc later hlater =>
    refine hsame hc ?_ ?_ ?_
    all_goals
      rw [hlater]
      split <;> simp
  | listed _ _ _ _ hc later hlater =>
    refine hsame hc ?_ ?_ ?_
    all_goals
      rw [hlater]
      split <;> simp
  | noId hid hc =>
    refine hw.keep (fun _ _ ho => hc.continued ho) (h.epoch_eq (by simp)) fun op o _ _ hcl _ =>
      hcl.of_subset (fun smsId hm => ?_) (h.dedupe_subset (by simp) _)
    by_cases ho : o.modem = ref
    · rw [ho] at hm ⊢
      rw [show w'.messaging ref = _ from congrArg Prod.fst h.of_report.1] at hm
      refine (reserve_reserved hi hm).resolve_right ?_
      rw [hid]
      exact fun hx => by cases hx
    · rw [← h.of_report.2 _ ho]
      exact hm
  | startedSend _ _ hidle hsource hops =>
    exact hw.started hh hidle hops (h.epoch_eq (by simp)) h.of_report.2 ⟨rfl,hsource⟩
  | startedDelete hidle _ _ hsource _ hops =>
    exact hw.started hh hidle hops (h.epoch_eq (by simp)) h.of_report.2 ⟨rfl,hsource⟩
  | @ended index outcome call op operation before settlement ha hb hst he =>
    refine hw.keep (fun op' o' ho' => ?_) (h.epoch_eq fun object hm => ?_)
      fun op' o ho _ hcl hlive => ?_
    · by_cases hop : op' = op
      · rw [hop,he.gone] at ho'
        cases ho'
      · exact ⟨o',by rw [← he.others op' hop]; exact ho',.refl o'⟩
    · simp only [List.mem_append,List.mem_singleton,reduceCtorEq,or_false] at hm
      exact hm.elim (hb.no_epoch.1 object) (hst.no_epoch.1 object)
    · have hne : o.modem ≠ operation.modem := by
        intro hm
        rw [(hh.holds op' o ho).unique (hh.holds op operation ha.known) hm,he.gone] at hlive
        exact hlive rfl
      rw [h.of_report.2 _ hne]
      exact hcl
  | @epochChanged ref forceEpoch object hlive hchanged hc =>
    intro op o' ho' hout
    obtain ⟨o,ho,hcont⟩ := hc.continued ho'
    by_cases hr : o'.modem = ref
    · rw [hr,show w'.messaging ref = _ from congrArg Prod.fst h.of_report.1]
      exact querySms_cleared (changeEpoch_cleared _ _)
    · simp only [Outdated,h.of_report.2 _ hr] at hout
      rw [h.of_report.2 _ hr,hcont.modem]
      exact hw op o ho (hcont.outdated.mp hout)

/-- The call belongs to an operation or a listing of an older epoch. -/
def OfOlderEpoch (w : World) (call : Call) : Prop :=
  match call with
  | .list ref source epoch => (w.messaging ref).messagingGeneration ≠ epoch ∨
      (w.messaging ref).messaging ≠ some source
  | .create op | .send op | .delete op _ =>
    ∃ operation, w.operations op = some operation ∧ Outdated w operation

theorem Cleared.release (h : Cleared m) (smsId : Option CString) : m.releaseSmsId smsId = m := by
  obtain ⟨hr,-⟩ := h
  cases smsId with
  | none => rfl
  | some smsId =>
    cases m
    simp only at hr
    simp [Messaging.releaseSmsId,hr]

theorem Cleared.dedupeRemove (h : Cleared m) (now : Int) (token : CString) :
    m.smsDedupeRemove now token = m := by
  obtain ⟨-,hd⟩ := h
  cases m
  simp only at hd
  simp [Messaging.smsDedupeRemove,Messaging.smsDedupePrune,hd,prune,ExpiringQueue.remove]

/-- A call of an older epoch ends without any trace in the records. -/
theorem Script.ofOlderEpoch {index : Nat} {outcome : Outcome} {call : Call} (hw : OutdatedCleared w)
    (h : Runs random ref (w.report (.finish index outcome)) w' changes)
    (hs : Script sha256 random w w' (.finish index outcome) ref changes)
    (hcall : w.calls[index]? = some call) (hold : OfOlderEpoch w call) :
    w'.messaging = w.messaging := by
  have hsame : changes = [] ∨ (applyAll random ref (w.messaging ref,w.drawn) changes).1 =
      w.messaging ref → w'.messaging = w.messaging := by
    intro hc
    funext other
    by_cases ho : other = ref
    · subst ho
      rw [show w'.messaging other = _ from congrArg Prod.fst h.of_report.1]
      rcases hc with rfl | hc
      · rfl
      · exact hc
    · exact h.of_report.2 other ho
  have hstale : ∀ {op operation}, AnswersCall w index call op operation → Outdated w operation := by
    intro op operation ha
    obtain ⟨hc,hop,ho⟩ := ha
    cases call with
    | list => cases hop
    | create | send | delete =>
      obtain ⟨o,ho',hout⟩ := hold
      cases hop
      rw [ho] at ho'
      exact Option.some.inj ho' ▸ hout
  cases hs with
  | idle => exact hsame (.inl rfl)
  | queried hevent => cases hevent
  | listFailed hcall' _ hsource hepoch | listed hcall' _ hsource hepoch =>
    rw [hcall] at hcall'
    cases hcall'
    rcases hold with hold | hold
    · exact absurd hepoch hold
    · exact absurd hsource hold
  | dispatched ha _ hcurrent =>
    obtain rfl := Option.some.inj (hcall.symm.trans ha.call)
    exact absurd hcurrent (outdated_stale (hstale ha))
  | ended before settlement ha hb hst he =>
    obtain rfl := Option.some.inj (hcall.symm.trans ha.call)
    have hout := hstale ha
    have hcl := hw _ _ ha.known hout
    have hns := outdated_stale hout
    refine hsame (.inr ?_)
    cases hb with
    | queried hcurrent => exact absurd hcurrent hns
    | admitted _ _ _ _ hcurrent => exact absurd hcurrent hns
    | nothing =>
      cases hst with
      | nothing | stale => exact hcl.release _
      | removed token =>
        simp only [List.nil_append,List.cons_append,applyAll,List.foldl_cons,List.foldl_nil,
          Change.apply,hcl.dedupeRemove]
        exact hcl.release _
      | stored _ _ _ hcurrent => exact absurd hcurrent hns

/-- Every cached message was made for the record, its generation and its epoch. -/
def AllStamped (ref : ModemRef) (generation : Nat) (m : Messaging) : Prop :=
  ∀ entry ∈ m.smsByPath, entry.2.Stamped ref generation m.messagingGeneration

theorem AllStamped.of_subset {m' : Messaging} (h : AllStamped ref generation m)
    (hc : m'.smsByPath ⊆ m.smsByPath) (he : m'.messagingGeneration = m.messagingGeneration) :
    AllStamped ref generation m' := by
  intro entry hm
  rw [he]
  exact h entry (hc hm)

theorem rebuildStep_stamped {r r' : Rebuild} {sms : MMSms}
    (h : (∀ entry ∈ r.oldCache, entry.2.Stamped ref generation m.messagingGeneration) ∧
      ∀ entry ∈ r.newCache, entry.2.Stamped ref generation m.messagingGeneration)
    (hr : rebuildStep random m ref generation r sms = .ok r') :
    (∀ entry ∈ r'.oldCache, entry.2.Stamped ref generation m.messagingGeneration) ∧
      ∀ entry ∈ r'.newCache, entry.2.Stamped ref generation m.messagingGeneration := by
  obtain ⟨hold,hnew⟩ := h
  have hput : ∀ {path : CString} {value : L850GLSms},
      value.Stamped ref generation m.messagingGeneration →
      ∀ entry ∈ insertSms r.newCache path value,
        entry.2.Stamped ref generation m.messagingGeneration := by
    intro path value hv entry hm
    have hm' : entry ∈ AssocList.put r.newCache path value := hm
    rcases AssocList.mem_put.mp hm' with ⟨hm,-⟩ | rfl
    · exact hnew entry hm
    · exact hv
  simp only [rebuildStep] at hr
  split at hr
  · cases hr
    exact ⟨hold,hnew⟩
  split at hr
  · cases hr
    exact ⟨hold,hnew⟩
  split at hr
  · cases hr
    exact ⟨hold,hnew⟩
  split at hr
  · rename_i entry hlookup
    cases hr
    refine ⟨fun other ho => hold other (List.mem_of_mem_filter ho),hput ?_⟩
    exact smsSetProxy_stamped (hold _ (mem_of_lookup hlookup))
  · split at hr
    · cases hr
    · cases hr
      exact ⟨hold,hput ⟨rfl,rfl,rfl⟩⟩

theorem rebuildCache_stamped (h : AllStamped ref generation m)
    (properties : Nat → SmsProperties) (messages : List MMSms) (drawn : Nat) :
    AllStamped ref generation
      (m.rebuildCache random ref generation properties messages drawn).1 := by
  have hloop := (Loop.foldlM_inv (fun (_ : List MMSms) (r : Rebuild) =>
      (∀ entry ∈ r.oldCache, entry.2.Stamped ref generation m.messagingGeneration) ∧
        ∀ entry ∈ r.newCache, entry.2.Stamped ref generation m.messagingGeneration)
    (fun (_ : Nat) => True)
    (fun _ r sms r' hi (hr : rebuildStep random m ref generation r sms = .ok r') =>
      rebuildStep_stamped hi hr) (fun _ _ _ _ _ _ => trivial)
    (l:=Sorting.sortBy (smsProxyNewestFirst properties) messages)
    (s:=⟨m.smsByPath,[],[],0,false,drawn⟩) ⟨h,by simp⟩).1
  simp only [Messaging.rebuildCache]
  split
  · intro entry hm
    cases hm
  · rename_i r hr
    exact (hloop r hr).2

theorem apply_stamped {change : Change} (h : AllStamped ref generation s.1)
    (henter : ∀ g sms reservedId, change = .enter g sms reservedId → g = generation)
    (hlist : ∀ g properties messages, change = .rebuild g properties messages → g = generation) :
    AllStamped ref generation (change.apply random ref s).1 := by
  have hkeep : change.KeepsCache → AllStamped ref generation (change.apply random ref s).1 := by
    intro hk
    have hne : ∀ object, change ≠ .epoch object := by
      intro object he
      subst he
      exact hk
    refine h.of_subset ?_ (apply_messaging random ref hne).2
    rw [apply_keepsCache hk]
    exact List.Subset.refl _
  cases change with
  | querySms | dedupePrune | dedupeRemove | dedupeStore | reserve | release | added
  | revisionBump => exact hkeep trivial
  | enter g sms reservedId =>
    obtain rfl := henter g sms reservedId rfl
    rcases s.1.admitReservedSms_cases ref g sms reservedId with
      ⟨hm,-⟩ | ⟨hm,-⟩ | ⟨path,entry,-,-,-,-,-,hstamp,-,hm⟩
    · simp only [Change.apply,hm]
      exact h
    · simp only [Change.apply,hm]
      exact h
    · have hput : ∀ other ∈ insertSms s.1.smsByPath path entry,
          other.2.Stamped ref g s.1.messagingGeneration := by
        intro other ho
        have ho' : other ∈ AssocList.put s.1.smsByPath path entry := ho
        rcases AssocList.mem_put.mp ho' with ⟨ho,-⟩ | rfl
        · exact h other ho
        · exact hstamp h
      rcases hm with hm | ⟨hm,-⟩
      · simp only [Change.apply,hm]
        exact hput
      · simp only [Change.apply,hm]
        exact hput
  | rebuild g properties messages =>
    obtain rfl := hlist g properties messages rfl
    exact rebuildCache_stamped (m:=s.1.answered) h properties messages s.2
  | deleted path =>
    refine h.of_subset ?_ (apply_messaging random ref (by simp)).2
    rw [show (Change.apply random ref s (.deleted path)).1.smsByPath = _ from
      (smsDeleted_tables s.1 path).1]
    exact List.filter_subset_self _
  | listFailed | clear =>
    intro entry hm
    cases hm
  | epoch object =>
    intro entry hm
    rw [show (Change.apply random ref s (.epoch object)).1.smsByPath = _ from
      (changeEpoch_tables s.1 object).1] at hm
    cases hm

theorem applyAll_stamped (h : AllStamped ref generation s.1)
    (henter : ∀ g sms reservedId, .enter g sms reservedId ∈ changes → g = generation)
    (hlist : ∀ g properties messages, .rebuild g properties messages ∈ changes → g = generation) :
    AllStamped ref generation (applyAll random ref s changes).1 := by
  induction changes generalizing s with
  | nil => exact h
  | cons change changes ih =>
    refine ih (s:=change.apply random ref s) (apply_stamped h ?_ ?_) ?_ ?_
    · rintro g sms reservedId rfl
      exact henter g sms reservedId List.mem_cons_self
    · rintro g properties messages rfl
      exact hlist g properties messages List.mem_cons_self
    · exact fun g sms reservedId hm => henter g sms reservedId (List.mem_cons_of_mem _ hm)
    · exact fun g properties messages hm =>
        hlist g properties messages (List.mem_cons_of_mem _ hm)

/-- No event gives a record another generation. -/
theorem Effect.generation_eq (h : Effect sha256 w w' event) (ref : ModemRef) :
    (w'.modem ref).generation = (w.modem ref).generation := by
  have hpassive : ∀ {v v' : World}, Passive v v' →
      (v'.modem ref).generation = (v.modem ref).generation := by
    intro v v' hp
    rw [World.modem,World.modem,hp.bridge]
  have hupdate : ∀ {v v' : World} {other : ModemRef} {modem : Modem},
      v'.bridge = v.bridge.updateModem other modem →
      modem.generation = (v.modem other).generation →
      (v'.modem ref).generation = (v.modem ref).generation := by
    intro v v' other modem hb hg
    rw [World.modem,hb]
    by_cases ho : ref = other
    · rw [ho,Bridge.updateModem_self]
      exact hg
    · rw [Bridge.updateModem_other _ _ ho]
      rfl
  cases h with
  | passive h => exact hpassive h
  | @listed _ index _ _ _ _ h =>
    exact hpassive (v:=w.answer index) h
  | @completed _ index _ _ _ w₁ _ _ h _ h' =>
    have h₁ : (w₁.modem ref).generation = (w.modem ref).generation :=
      hpassive (v:=w.answer index) h
    refine (hupdate h'.bridge ?_).trans h₁
    simp only [releaseModem]
    split
    · rfl
    · rfl
  | @dispatched _ index _ _ w₁ _ h _ h' =>
    have h₁ : (w₁.modem ref).generation = (w.modem ref).generation :=
      hpassive (v:=w.answer index) h
    rw [World.modem,h'.bridge]
    exact h₁
  | startedSend h h' => exact (hupdate h'.bridge rfl).trans (hpassive h)
  | startedDelete h => exact hupdate h.bridge rfl
  | @epochChanged _ _ _ w₁ _ _ h _ h' =>
    have h₁ : (w'.modem ref).generation = (w₁.modem ref).generation :=
      hpassive (v:=w₁.updateMessaging _ _) h'
    exact h₁.trans (hpassive h)
  | admitted h =>
    subst h
    exact hupdate (v:=w) rfl rfl
  | removed _ h h' =>
    subst h'
    exact hupdate (v:=w) rfl rfl

/-- A record comes to life when it is admitted and dies when it is removed. -/
theorem Effect.live_eq (h : Effect sha256 w w' event) (ref : ModemRef) :
    (w'.modem ref).live = (w.modem ref).live ∨
    event = .admitted ∧ ref = w.admitted ∧ (w'.modem ref).live = true ∨
    event = .removed ref ∧ (w'.modem ref).live = false := by
  have hpassive : ∀ {v v' : World}, Passive v v' → (v'.modem ref).live = (v.modem ref).live := by
    intro v v' hp
    rw [World.modem,World.modem,hp.bridge]
  have hupdate : ∀ {v v' : World} {other : ModemRef} {modem : Modem},
      v'.bridge = v.bridge.updateModem other modem → modem.live = (v.modem other).live →
      (v'.modem ref).live = (v.modem ref).live := by
    intro v v' other modem hb hg
    rw [World.modem,hb]
    by_cases ho : ref = other
    · rw [ho,Bridge.updateModem_self]
      exact hg
    · rw [Bridge.updateModem_other _ _ ho]
      rfl
  cases h with
  | passive h => exact .inl (hpassive h)
  | @listed _ index _ _ _ _ h =>
    have h₁ : (w'.modem ref).live = (w.modem ref).live := hpassive (v:=w.answer index) h
    exact .inl h₁
  | @completed _ index _ _ _ w₁ _ _ h _ h' =>
    have h₁ : (w₁.modem ref).live = (w.modem ref).live := hpassive (v:=w.answer index) h
    exact .inl ((hupdate h'.bridge (releaseModem_live _ _)).trans h₁)
  | @dispatched _ index _ _ w₁ _ h _ h' =>
    have h₁ : (w₁.modem ref).live = (w.modem ref).live := hpassive (v:=w.answer index) h
    left
    rw [World.modem,h'.bridge]
    exact h₁
  | startedSend h h' => exact .inl ((hupdate h'.bridge rfl).trans (hpassive h))
  | startedDelete h => exact .inl (hupdate h.bridge rfl)
  | @epochChanged _ _ _ w₁ _ _ h _ h' =>
    have h₁ : (w'.modem ref).live = (w₁.modem ref).live :=
      hpassive (v:=w₁.updateMessaging _ _) h'
    exact .inl (h₁.trans (hpassive h))
  | admitted h =>
    subst h
    by_cases ho : ref = w.admitted
    · exact .inr (.inl ⟨rfl,ho,by simp [ho,admitModem,World.modem]⟩)
    · left
      rw [World.modem,admitModem,Bridge.updateModem_other _ _ ho]
      rfl
  | @removed other w₁ _ h h' =>
    subst h'
    by_cases ho : ref = other
    · refine .inr (.inr ⟨by rw [ho],?_⟩)
      rw [World.modem,ho,Bridge.updateModem_self]
      rfl
    · left
      rw [World.modem,Bridge.updateModem_other _ _ ho]
      rfl

/-- A record dies only when it is removed. -/
theorem Effect.dead (h : Effect sha256 w w' event) (hd : (w'.modem ref).live = false) :
    (w.modem ref).live = false ∨ event = .removed ref := by
  rcases h.live_eq ref with h | ⟨-,-,h⟩ | ⟨h,-⟩
  · exact .inl (h.symm.trans hd)
  · rw [hd] at h
    cases h
  · exact .inr h

/-- A dead record stays dead. -/
theorem Effect.stays_dead (h : Effect sha256 w w' event) (hadm : ref < w.admitted)
    (hd : (w.modem ref).live = false) : (w'.modem ref).live = false := by
  rcases h.live_eq ref with h | ⟨-,rfl,-⟩ | ⟨-,h⟩
  · exact h.trans hd
  · exact absurd hadm (Nat.lt_irrefl _)
  · exact h

theorem Effect.admitted_le (h : Effect sha256 w w' event) : w.admitted ≤ w'.admitted := by
  cases h with
  | passive h => exact Nat.le_of_eq h.admitted.symm
  | listed _ h => exact Nat.le_of_eq h.admitted.symm
  | completed _ _ h _ h' => exact Nat.le_of_eq (h'.admitted.trans h.admitted).symm
  | dispatched _ h _ h' => exact Nat.le_of_eq (h'.admitted.trans h.admitted).symm
  | startedSend h h' => exact Nat.le_of_eq (h'.admitted.trans h.admitted).symm
  | startedDelete h => exact Nat.le_of_eq h.admitted.symm
  | epochChanged _ _ h _ h' => exact Nat.le_of_eq (h'.admitted.trans h.admitted).symm
  | admitted h =>
    subst h
    exact Nat.le_succ _
  | removed _ h h' =>
    subst h'
    exact Nat.le_of_eq h.admitted.symm

/-- The messages of every record are its own, of its generation and its epoch. -/
def Stamped (w : World) : Prop :=
  ∀ ref, AllStamped ref (w.modem ref).generation (w.messaging ref)

theorem Script.generation_eq (hs : Script sha256 random w w' event ref changes) :
    (∀ g sms reservedId, .enter g sms reservedId ∈ changes → g = (w.modem ref).generation) ∧
      ∀ g properties messages, .rebuild g properties messages ∈ changes →
        g = (w.modem ref).generation := by
  have hquery : ∀ (c : Bool) (change : Change),
      change ∈ (if c then [Change.querySms] else []) → change = .querySms := by
    intro c change hc
    cases c with
    | true => exact List.mem_singleton.mp hc
    | false => cases hc
  cases hs with
  | listFailed _ _ _ _ _ later hlater =>
    refine ⟨fun g sms reservedId hm => ?_,fun g properties messages hm => ?_⟩
    all_goals
      rw [hlater] at hm
      rcases List.mem_cons.mp hm with hm | hm
      · cases hm
      · cases hquery _ _ hm
  | listed _ _ _ _ _ later hlater =>
    refine ⟨fun g sms reservedId hm => ?_,fun g properties messages hm => ?_⟩
    all_goals
      rw [hlater] at hm
      rcases List.mem_cons.mp hm with hm | hm
      · cases hm
        try rfl
      · cases hquery _ _ hm
  | ended before settlement ha hb hst =>
    refine ⟨fun g sms reservedId hm => ?_,fun g properties messages hm => ?_⟩
    · cases hb <;> cases hst <;> simp at hm <;> exact hm.1
    · cases hb <;> cases hst <;> simp at hm
  | _ =>
    refine ⟨fun g sms reservedId hm => ?_,fun g properties messages hm => ?_⟩
    all_goals simp_all

theorem Stamped.step (he : Effect sha256 w w' event) (hw : Stamped w)
    (h : Runs random ref (w.report event) w' changes)
    (hs : Script sha256 random w w' event ref changes) : Stamped w' := by
  intro other
  rw [he.generation_eq other]
  by_cases ho : other = ref
  · subst ho
    obtain ⟨h₁,h₂⟩ := hs.generation_eq
    rw [show w'.messaging other = _ from congrArg Prod.fst h.of_report.1]
    exact applyAll_stamped (s:=(w.messaging other,w.drawn)) (hw other) h₁ h₂
  · rw [h.of_report.2 other ho]
    exact hw other

/-- The operations of a removed record have been cancelled. -/
def DeadCancelled (w : World) : Prop :=
  ∀ op operation, w.operations op = some operation → (w.modem operation.modem).live = false →
    operation.cancelled = true

theorem markRemoved_cancelled (hh : Holds w op operation) (ho : w.operations op = some operation) :
    ∃ o, (markRemoved w operation.modem).operations op = some o ∧ o.cancelled = true := by
  refine ⟨{operation with cancelled := true},?_,rfl⟩
  have h₁ : (cancelMutation w operation.modem).operations op =
      some {operation with cancelled := true} := by
    simp only [cancelMutation,hh.cancellable,World.updateOperation,Function.update_self,ho,
      Option.map_some]
  exact h₁

/-- Where the operations of a state come from. -/
theorem Script.origin (hs : Script sha256 random w w' event ref changes) {o' : SmsOperation}
    (ho : w'.operations op = some o') :
    (∃ o, w.operations op = some o ∧ o.Continues o') ∨
      (w.modem o'.modem).live = true ∧ ∀ other, event ≠ .removed other := by
  have hstarted : ∀ {o : SmsOperation}, o.modem = ref → (w.modem ref).live = true →
      (∀ other, event ≠ .removed other) →
      w'.operations = Function.update w.operations w.next (some o) →
      (∃ o, w.operations op = some o ∧ o.Continues o') ∨
        (w.modem o'.modem).live = true ∧ ∀ other, event ≠ .removed other := by
    intro o hm hlive hevent hops
    rw [hops] at ho
    by_cases he : op = w.next
    · rw [he,Function.update_self] at ho
      refine .inr ⟨?_,hevent⟩
      rw [← Option.some.inj ho,hm]
      exact hlive
    · rw [Function.update_of_ne he] at ho
      exact .inl ⟨o',ho,.refl o'⟩
  cases hs with
  | idle hc | queried _ _ hc | known hc | noId _ hc | dispatched _ _ _ hc
  | added _ _ hc | deleted _ _ _ hc | changed hc | epochChanged _ _ hc
  | removed _ hc | listFailed _ _ _ _ hc | listed _ _ _ _ hc => exact .inl (hc.continued ho)
  | startedSend _ hlive _ _ hops => exact hstarted rfl hlive (by simp) hops
  | startedDelete _ hlive _ _ _ hops => exact hstarted rfl hlive (by simp) hops
  | @ended index outcome call op' operation before settlement ha hb hst he =>
    by_cases hop : op = op'
    · rw [hop,he.gone] at ho
      cases ho
    · rw [he.others op hop] at ho
      exact .inl ⟨o',ho,.refl o'⟩

theorem DeadCancelled.step (hh : Holding w) (hw : DeadCancelled w)
    (hhandle : handle sha256 random w event = some w') (he : Effect sha256 w w' event)
    (hs : Script sha256 random w w' event ref changes) : DeadCancelled w' := by
  intro op o' ho' hdead
  rcases hs.origin ho' with ⟨o,ho,hc⟩ | ⟨hlive,hevent⟩
  · rcases he.dead hdead with hd | rfl
    · rw [hc.modem] at hd
      exact hc.cancelled (hw op o ho hd)
    · simp only [handle,Option.ite_none_right_eq_some,Option.some.injEq] at hhandle
      obtain ⟨-,rfl⟩ := hhandle
      obtain ⟨o'',ho'',hcancelled⟩ := markRemoved_cancelled (hh.holds op o ho) ho
      rw [← hc.modem,ho'] at ho''
      exact Option.some.inj ho'' ▸ hcancelled
  · rcases he.dead hdead with hd | rfl
    · rw [hlive] at hd
      cases hd
    · exact absurd rfl (hevent _)

/-- A callback whose call was cancelled is told so, even when the reply had arrived. -/
def CancelledFails (w : World) (event : Event × Bridge) : Prop :=
  ∀ index outcome call op operation, event.1 = .finish index outcome →
    w.calls[index]? = some call → call.operation = some op →
    w.operations op = some operation → operation.cancelled = true →
    outcome.sms = none ∧ outcome.succeeded = false

/-- A token is busy only as long as the operation that stored it is in flight. -/
def BusyInFlight (w : World) : Prop :=
  ∀ ref, ∀ entry ∈ (w.messaging ref).smsDedupe, entry.value.errorCode = some "busy" →
    ∃ op operation smsId, w.operations op = some operation ∧ operation.type = .send ∧
      operation.modem = ref ∧ operation.clientToken = some entry.key ∧
      operation.smsId = some smsId ∧ entry.value = busyMarker operation smsId

theorem SmsOperation.Continues.busyMarker_eq {o o' : SmsOperation} (h : o.Continues o')
    (smsId : CString) : busyMarker o' smsId = busyMarker o smsId := by
  simp only [busyMarker,h.requestDigest]

theorem Messaging.Ledger.dedupe_sublist {m m' : Messaging} {now : Int} (h : m.Ledger now m') :
    m'.smsDedupe.Sublist m.smsDedupe := by
  rcases h.dedupe with h₁ | h₁
  · rw [h₁]
  · rw [h₁]
    exact List.filter_sublist

theorem Before.dedupe {call : Call} {outcome : Outcome}
    (h : Before w operation call outcome changes) (random : Nat → Option (Vector UInt8 16))
    (ref : ModemRef) :
    (applyAll random ref s changes).1.smsDedupe.Sublist s.1.smsDedupe := by
  cases h with
  | nothing => exact List.Sublist.refl _
  | queried => exact (Messaging.querySms_ledger 0 s.1).dedupe_sublist
  | admitted op sms =>
    exact (Messaging.admitReservedSms_ledger 0 ref _ sms _).1.dedupe_sublist

/-- What an operation leaves for its token when it ends is not busy. -/
theorem Settlement.busy {ok : Bool} {entry : SmsDedupe}
    (h : Settlement w operation ok changes) (random : Nat → Option (Vector UInt8 16))
    (ref : ModemRef) (hm : entry ∈ (applyAll random ref s changes).1.smsDedupe)
    (hbusy : entry.value.errorCode = some "busy") : entry ∈ s.1.smsDedupe := by
  cases h with
  | nothing | stale => exact hm
  | removed token => exact applyAll_dedupe (fun _ _ _ hx => by simp at hx) hm
  | stored token result _ _ hresult =>
    rcases mem_put hm with rfl | ⟨hm,-⟩
    · exact absurd hbusy hresult
    · exact prune_subset w.bridge.now _ hm

/-- The token of an operation that ends is not busy any more. -/
theorem AnswersCall.not_busy {index : Nat} {outcome : Outcome} {call : Call}
    {before settlement : List Change} {bridge : Bridge} {entry : SmsDedupe}
    (ha : AnswersCall w index call op operation) (hh : Holding w) (hcl : OutdatedCleared w)
    (hd : DeadCancelled w) (hk : (Keys (w.messaging operation.modem).smsDedupe).Nodup)
    (hg : CancelledFails w (.finish index outcome,bridge))
    (h : Runs random operation.modem (w.report (.finish index outcome)) w'
      (before++settlement++[.release operation.smsId]))
    (hb : Before w operation call outcome before)
    (hst : Settlement w operation outcome.succeeded settlement)
    (hm : entry ∈ (w'.messaging operation.modem).smsDedupe)
    (htype : operation.type = .send) (htoken : operation.clientToken = some entry.key) :
    entry.value.errorCode ≠ some "busy" := by
  have hsub := hb.dedupe random operation.modem (s:=(w.messaging operation.modem,w.drawn))
  rw [show w'.messaging operation.modem = _ from congrArg Prod.fst h.of_report.1,
    applyAll_append,applyAll_append] at hm
  have hrelease : ∀ t : Messaging × Nat,
      (applyAll random operation.modem t [.release operation.smsId]).1.smsDedupe =
        t.1.smsDedupe := fun t => Messaging.releaseSmsId_smsDedupe t.1 _
  rw [hrelease] at hm
  generalize applyAll random operation.modem (w.messaging operation.modem,w.drawn) before = t
    at hm hsub
  have hkt : (Keys t.1.smsDedupe).Nodup := hk.sublist (hsub.map _)
  cases hst with
  | nothing hnone =>
    rcases hnone with hnone | hnone
    · rw [htype] at hnone
      cases hnone
    · rw [htoken] at hnone
      cases hnone
  | stale hok hstale =>
    exfalso
    by_cases hlive : (w.modem operation.modem).live = true
    · have hout : Outdated w operation := by
        by_contra hn
        simp only [Outdated,not_or,not_not] at hn
        exact hstale (smsOperationStaleCode_eq_none.mpr
          ⟨hlive,(hh.holds op operation ha.known).generation.symm,hn.1,hn.2⟩)
      have h₁ := hsub.subset hm
      rw [(hcl op operation ha.known hout).2] at h₁
      cases h₁
    · have hc := hd op operation ha.known (by simpa using hlive)
      have h₁ := (hg index outcome call op operation rfl ha.call ha.belongs ha.known hc).2
      rw [hok] at h₁
      cases h₁
  | removed token ht =>
    obtain rfl := Option.some.inj (htoken.symm.trans ht)
    have hkp : (Keys (prune w.bridge.now t.1.smsDedupe)).Nodup := hkt.sublist (keys_prune _)
    exact absurd rfl ((mem_remove hkp).mp hm).2
  | stored token result ht hcurrent hresult =>
    have hkey : entry.key = token := Option.some.inj (htoken.symm.trans ht)
    rcases mem_put hm with he | ⟨-,hne⟩
    · rw [he]
      exact hresult
    · exact absurd hkey hne

theorem BusyInFlight.step (hp : Pending w none) (hh : Holding w) (hcl : OutdatedCleared w)
    (hd : DeadCancelled w) (hk : ∀ ref, (Keys (w.messaging ref).smsDedupe).Nodup)
    {bridge : Bridge} (hg : CancelledFails w (event,bridge)) (hw : BusyInFlight w)
    (h : Runs random ref (w.report event) w' changes)
    (hs : Script sha256 random w w' event ref changes) : BusyInFlight w' := by
  have hsame : Carried w w' →
      (∀ now token result, Change.dedupeStore now token result ∉ changes) → BusyInFlight w' := by
    intro hc hn other entry hm hbusy
    obtain ⟨op,o,smsId,ho,htype,hmodem,htoken,hid,hvalue⟩ :=
      hw other entry (h.dedupe_subset hn other hm) hbusy
    obtain ⟨o',ho',hcont⟩ := hc.continues ho
    exact ⟨op,o',smsId,ho',hcont.type.trans htype,hcont.modem.trans hmodem,
      hcont.clientToken.trans htoken,hcont.smsId.trans hid,
      hvalue.trans (hcont.busyMarker_eq smsId).symm⟩
  -- a token that is stored under another key or at another record stays as it was
  have hold : ∀ other, ∀ entry ∈ (w.messaging other).smsDedupe,
      entry.value.errorCode = some "busy" →
      (∀ op o, w.operations op = some o → o.modem = other → o.type = .send →
        o.clientToken = some entry.key → w'.operations op = some o) →
      ∃ op operation smsId, w'.operations op = some operation ∧ operation.type = .send ∧
        operation.modem = other ∧ operation.clientToken = some entry.key ∧
        operation.smsId = some smsId ∧ entry.value = busyMarker operation smsId := by
    intro other entry hm hbusy hkeep
    obtain ⟨op,o,smsId,ho,htype,hmodem,htoken,hrest⟩ := hw other entry hm hbusy
    exact ⟨op,o,smsId,hkeep op o ho hmodem htype htoken,htype,hmodem,htoken,hrest⟩
  cases hs with
  | idle hc | queried _ _ hc | known hc | noId _ hc | dispatched _ _ _ hc
  | added _ _ hc | deleted _ _ _ hc | changed hc | epochChanged _ _ hc | removed _ hc =>
    exact hsame hc (by simp)
  | listFailed _ _ _ _ hc later hlater =>
    refine hsame hc ?_
    rw [hlater]
    split <;> simp
  | listed _ _ _ _ hc later hlater =>
    refine hsame hc ?_
    rw [hlater]
    split <;> simp
  | @startedSend tables ref source request smsId hid hlive hidle hsource hops =>
    have hkeep : ∀ op o, w.operations op = some o → w'.operations op = some o := by
      intro op o ho
      have hne : op ≠ w.next := by
        rintro rfl
        rw [hp.fresh w.next (Nat.le_refl _)] at ho
        cases ho
      rw [hops,Function.update_of_ne hne]
      exact ho
    intro other entry hm hbusy
    by_cases ho : other = ref
    · subst ho
      rw [show w'.messaging other = _ from congrArg Prod.fst h.of_report.1] at hm
      rcases mem_put hm with rfl | ⟨hm,-⟩
      · exact ⟨w.next,_,smsId,by rw [hops,Function.update_self],rfl,rfl,rfl,rfl,rfl⟩
      · have hsub : (applyAll random other (w.messaging other,w.drawn)
            [.dedupePrune w.bridge.now,.reserve]).1.smsDedupe ⊆ (w.messaging other).smsDedupe :=
          applyAll_dedupe (by simp)
        have hm₁ := prune_subset w.bridge.now _ hm
        exact hold other entry (hsub hm₁) hbusy fun op o ho _ _ _ => hkeep op o ho
    · rw [h.of_report.2 other ho] at hm
      exact hold other entry hm hbusy fun op o ho _ _ _ => hkeep op o ho
  | startedDelete hidle _ _ _ _ hops =>
    intro other entry hm hbusy
    refine hold other entry (h.dedupe_subset (by simp) other hm) hbusy fun op o ho _ _ _ => ?_
    have hne : op ≠ w.next := by
      rintro rfl
      rw [hp.fresh w.next (Nat.le_refl _)] at ho
      cases ho
    rw [hops,Function.update_of_ne hne]
    exact ho
  | @ended index outcome call op operation before settlement ha hb hst he =>
    intro other entry hm hbusy
    by_cases ho : other = operation.modem
    · subst ho
      have hm₁ : entry ∈ (w.messaging operation.modem).smsDedupe := by
        have hm₂ := hm
        rw [show w'.messaging operation.modem = _ from congrArg Prod.fst h.of_report.1,
          applyAll_append,applyAll_append] at hm₂
        have hsub := (hb.dedupe random operation.modem
          (s:=(w.messaging operation.modem,w.drawn))).subset
        refine hsub (hst.busy random operation.modem ?_ hbusy)
        rw [← Messaging.releaseSmsId_smsDedupe _ operation.smsId]
        exact hm₂
      refine hold operation.modem entry hm₁ hbusy fun op' o ho _ htype htoken => ?_
      by_cases hop : op' = op
      · subst hop
        obtain rfl := Option.some.inj (ho.symm.trans ha.known)
        exact absurd hbusy (ha.not_busy hh hcl hd (hk _) hg h hb hst hm htype htoken)
      · rw [he.others op' hop]
        exact ho
    · rw [h.of_report.2 other ho] at hm
      refine hold other entry hm hbusy fun op' o ho' hmodem _ _ => ?_
      have hop : op' ≠ op := by
        rintro rfl
        rw [ha.known] at ho'
        exact ho (Option.some.inj ho' ▸ hmodem).symm
      rw [he.others op' hop]
      exact ho'

/-- The call was made for the record, in the epoch the record is in. -/
def OfCurrentEpoch (w : World) (ref : ModemRef) (call : Call) : Prop :=
  match call with
  | .list other source epoch => other = ref ∧ (w.messaging ref).messagingGeneration = epoch ∧
      (w.messaging ref).messaging = some source
  | .create op | .send op | .delete op _ =>
    ∃ operation, w.operations op = some operation ∧ operation.modem = ref ∧
      (w.messaging ref).messagingGeneration = operation.messagingGeneration ∧
      (w.messaging ref).messaging = some operation.messaging

theorem AnswersCall.ofCurrentEpoch {index : Nat} {call : Call}
    (ha : AnswersCall w index call op operation) (hn : ¬OfOlderEpoch w call) :
    OfCurrentEpoch w operation.modem call := by
  obtain ⟨-,hop,ho⟩ := ha
  have hcurrent : ¬Outdated w operation → ∃ o, w.operations op = some o ∧
      o.modem = operation.modem ∧
      (w.messaging operation.modem).messagingGeneration = o.messagingGeneration ∧
      (w.messaging operation.modem).messaging = some o.messaging := by
    intro hout
    simp only [Outdated,not_or,not_not] at hout
    exact ⟨operation,ho,rfl,hout.1,hout.2⟩
  cases call with
  | list => cases hop
  | create | send | delete =>
    cases hop
    exact hcurrent fun hout => hn ⟨operation,ho,hout⟩

/-- A callback changes only messages of the record and the epoch its call was made for. -/
theorem Script.ofCurrentEpoch {index : Nat} {outcome : Outcome} {call : Call}
    (hw : OutdatedCleared w) (h : Runs random ref (w.report (.finish index outcome)) w' changes)
    (hs : Script sha256 random w w' (.finish index outcome) ref changes)
    (hcall : w.calls[index]? = some call) {other : ModemRef}
    (hne : w'.messaging other ≠ w.messaging other) : OfCurrentEpoch w other call := by
  have hn : ¬OfOlderEpoch w call := by
    intro hold
    rw [hs.ofOlderEpoch hw h hcall hold] at hne
    exact hne rfl
  have hother : other = ref := by
    by_contra ho
    exact hne (h.of_report.2 other ho)
  subst hother
  cases hs with
  | idle =>
    rw [show w'.messaging other = _ from congrArg Prod.fst h.of_report.1] at hne
    exact absurd rfl hne
  | queried hevent => cases hevent
  | listFailed hcall' _ hsource hepoch | listed hcall' _ hsource hepoch =>
    rw [hcall] at hcall'
    cases hcall'
    exact ⟨rfl,hepoch,hsource⟩
  | dispatched ha =>
    obtain rfl := Option.some.inj (hcall.symm.trans ha.call)
    exact ha.ofCurrentEpoch hn
  | ended before settlement ha =>
    obtain rfl := Option.some.inj (hcall.symm.trans ha.call)
    exact ha.ofCurrentEpoch hn

theorem refreshModem_generation (old new : Modem) :
    (refreshModem old new).generation = old.generation := by
  simp only [refreshModem]
  split <;> rfl

theorem refreshModem_modemId (old new : Modem) :
    (refreshModem old new).modemId = old.modemId := by
  simp only [refreshModem]
  split <;> rfl

/-- What the epochs of a run rely on. -/
structure EpochInv (random : Nat → Option (Vector UInt8 16)) (w : World) : Prop where
  ids : IdInv random w
  outdated : OutdatedCleared w
  stamped : Stamped w
  dead : DeadCancelled w

theorem EpochInv.refresh (h : EpochInv random w) (bridge : Bridge) :
    EpochInv random (w.refresh bridge) where
  ids := h.ids.refresh bridge
  outdated := h.outdated
  stamped ref := by
    have h₁ : ((w.refresh bridge).modem ref).generation = (w.modem ref).generation :=
      refreshModem_generation _ _
    rw [h₁]
    exact h.stamped ref
  dead op operation ho hdead := h.dead op operation ho <| by
    rw [← hdead]
    exact (refreshModem_live _ _).symm

theorem Initial.epochInv (h : Initial w) : EpochInv random w where
  ids := h.idInv
  outdated op operation ho := by
    rw [h.operations] at ho
    cases ho
  stamped ref entry hm := by
    rw [h.messaging] at hm
    cases hm
  dead op operation ho := by
    rw [h.operations] at ho
    cases ho

theorem EpochInv.step {event : Event × Bridge} (h : EpochInv random w)
    (hs : step sha256 random w event = some w') : EpochInv random w' := by
  obtain ⟨ref,changes,hr,hc⟩ := step_script h.ids hs
  have he := (step_effect h.ids.pending hs).2
  have hids := h.ids.step hs
  have h₁ := h.refresh event.2
  simp only [Sms.step,Option.ite_none_right_eq_some] at hs
  exact ⟨hids,h₁.outdated.step h₁.ids.holding h₁.ids.ids hr hc,h₁.stamped.step he hr hc,
    h₁.dead.step h₁.ids.holding hs.2 he hc⟩

theorem reachable_epochInv {G : World → Event × Bridge → Prop}
    (h : (smsSystem sha256 random).ReachableUnder G w) : EpochInv random w :=
  h.invariant (fun _ => Initial.epochInv) fun _ _ _ hw _ hs => hw.step hs

/-- The generation of a record tells which one it is. -/
theorem reachable_generation (h : (smsSystem sha256 random).Reachable w) (ref : ModemRef) :
    (w.modem ref).generation = ref+1 := by
  induction h with
  | start h₀ => exact Initial.generations h₀ ref
  | @step w w' event h _ hs ih =>
    have he := (step_effect (reachable_epochInv h).ids.pending hs).2
    have hg := he.generation_eq ref
    have hr : ((w.refresh event.2).modem ref).generation = (w.modem ref).generation :=
      refreshModem_generation _ _
    rw [hg,hr,ih]

theorem apply_epochBound (ref : ModemRef) (change : Change)
    (h : s.1.messagingGeneration ≤ Cell.uint32Max) :
    (change.apply random ref s).1.messagingGeneration ≤ Cell.uint32Max := by
  by_cases he : ∃ object, change = .epoch object
  · obtain ⟨object,rfl⟩ := he
    have hleave : s.1.leaveEpoch.messagingGeneration = s.1.messagingGeneration := rfl
    simp only [Change.apply,Messaging.changeEpoch,hleave]
    split
    · exact h
    · have hnext : s.1.messagingGeneration+1 ≤ Cell.uint32Max := by omega
      split
      · exact hnext
      · exact hnext
  · rw [(apply_messaging random ref fun object ho => he ⟨object,ho⟩).2]
    exact h

/-- The epochs stay within the range of their field. -/
theorem reachable_epochBound (h : (smsSystem sha256 random).Reachable w) (ref : ModemRef) :
    (w.messaging ref).messagingGeneration ≤ Cell.uint32Max := by
  induction h with
  | start h₀ =>
    rw [Initial.messaging h₀]
    exact Nat.zero_le _
  | @step w w' event h _ hs ih =>
    obtain ⟨changed,changes,hr,-⟩ := step_script (reachable_epochInv h).ids hs
    have hall : ∀ s : Messaging × Nat, s.1.messagingGeneration ≤ Cell.uint32Max →
        (applyAll random changed s changes).1.messagingGeneration ≤ Cell.uint32Max := by
      clear hr
      induction changes with
      | nil => exact fun s hs => hs
      | cons change changes ihc => exact fun s hs => ihc _ (apply_epochBound changed change hs)
    by_cases ho : ref = changed
    · subst ho
      rw [show w'.messaging ref = _ from congrArg Prod.fst hr.of_report.1]
      exact hall _ ih
    · rw [hr.of_report.2 ref ho]
      exact ih

/-- Records are admitted while there are numbers for them. -/
theorem reachable_admitted_le (h : (smsSystem sha256 random).Reachable w) :
    w.admitted ≤ Cell.uint32Max := by
  induction h with
  | start h₀ =>
    rw [Initial.admitted h₀]
    exact Nat.zero_le _
  | @step w w' event h _ hs ih =>
    obtain ⟨event,bridge⟩ := event
    have he := (step_effect (reachable_epochInv h).ids.pending hs).2
    have hsame : (w.refresh bridge).admitted = w.admitted := rfl
    have hkeeps : w'.admitted = (w.refresh bridge).admitted → w'.admitted ≤ Cell.uint32Max :=
      fun heq => (heq.trans hsame).trans_le ih
    cases he with
    | passive h => exact hkeeps h.admitted
    | listed _ h => exact hkeeps h.admitted
    | completed _ _ h _ h' => exact hkeeps (h'.admitted.trans h.admitted)
    | dispatched _ h _ h' => exact hkeeps (h'.admitted.trans h.admitted)
    | startedSend h h' => exact hkeeps (h'.admitted.trans h.admitted)
    | startedDelete h => exact hkeeps h.admitted
    | epochChanged _ _ h _ h' => exact hkeeps (h'.admitted.trans h.admitted)
    | removed _ h h' =>
      subst h'
      exact hkeeps h.admitted
    | admitted h =>
      -- the step is refused once the last number has been given away
      simp only [smsSystem,Sms.step,handle,Option.ite_none_right_eq_some,
        Option.ite_none_left_eq_some] at hs
      have hnext : w'.admitted = w.admitted+1 := congrArg World.admitted h
      rw [hnext]
      exact Nat.lt_of_le_of_ne ih hs.2.1

/-- The generation of a live record is within the range of its field. -/
theorem reachable_generation_le (h : (smsSystem sha256 random).Reachable w) {ref : ModemRef}
    (hlive : (w.modem ref).live = true) : ref+1 ≤ Cell.uint32Max := by
  have hlt := (reachable_epochInv h).ids.holding.live ref hlive
  exact Nat.le_trans hlt (reachable_admitted_le h)

theorem reachable_busyInFlight (h : (smsSystem sha256 random).ReachableUnder CancelledFails w) :
    BusyInFlight w := by
  induction h with
  | start h₀ =>
    intro ref entry hm
    rw [Initial.messaging h₀] at hm
    cases hm
  | @step w w' event h hG hs ih =>
    have hi := reachable_epochInv h
    obtain ⟨ref,changes,hr,hc⟩ := step_script hi.ids hs
    have h₁ := hi.refresh event.2
    have hinv : Inv sha256 w := reachable_inv (h.mono fun _ _ _ => trivial)
    have hg : CancelledFails (w.refresh event.2) event := hG
    exact BusyInFlight.step h₁.ids.pending h₁.ids.holding h₁.outdated h₁.dead hinv.recorded.keys hg
      ih hr hc

/-- Messaging epochs are isolated.  A callback changes no messages but those of the record and the
epoch its call was made for; every cached message is of its record's current epoch; and, when a
callback whose call was cancelled is told so, a token is busy only while the operation that stored
it is in flight. -/
theorem epochs_isolated (h : (smsSystem sha256 random).Reachable w) :
    (∀ index outcome bridge call w', w.calls[index]? = some call →
      step sha256 random w (.finish index outcome,bridge) = some w' →
      ∀ ref, w'.messaging ref ≠ w.messaging ref → OfCurrentEpoch w ref call) ∧
    (∀ ref, ∀ entry ∈ (w.messaging ref).smsByPath,
      entry.2.messagingGeneration = (w.messaging ref).messagingGeneration) ∧
    ((smsSystem sha256 random).ReachableUnder CancelledFails w → BusyInFlight w) := by
  have hi := reachable_epochInv h
  refine ⟨fun index outcome bridge call w' hcall hs ref hne => ?_,
    fun ref entry hm => (hi.stamped ref entry hm).messagingGeneration,reachable_busyInFlight⟩
  obtain ⟨changed,changes,hr,hc⟩ := step_script hi.ids hs
  exact hc.ofCurrentEpoch (hi.refresh bridge).outdated hr hcall hne

/-- A message is being created when its epoch ends. -/
def sampleEpochEnds : List (Event × Bridge) :=
  [.admitted,.reconcile 0 false (some 7),.finish 0 ⟨[],none,false,none⟩,
   .sendSms ⟨[],[],[]⟩ (some (sampleSendRequest "hello".toList)),.reconcile 0 true (some 7)].map
    fun event => (event,sampleBridge false)

theorem sampleEpochEnds_finish : ((sampleSendSystem.run sampleStart sampleEpochEnds).bind fun w =>
    (sampleSendSystem.step w (.finish 0 ⟨[],none,false,none⟩,sampleBridge false)).map fun w' =>
      (w.calls[0]? == some (.create 0),(w.operations 0).isSome,(w'.operations 0).isSome)) =
    some (true,true,false) := by
  decide +kernel

theorem sampleEpochEnds_cancelledFails (w : World) :
    ∀ event ∈ sampleEpochEnds, CancelledFails w event := by
  intro event hm index outcome call op operation he
  simp only [sampleEpochEnds,List.map_cons,List.map_nil,List.mem_cons,List.not_mem_nil,
    or_false] at hm
  rcases hm with rfl | rfl | rfl | rfl | rfl
  all_goals cases he
  exact fun _ _ _ _ => ⟨rfl,rfl⟩

/-- The rules at a run whose epoch ends while a message is being created. -/
theorem epochs_isolated_sample : ∃ w w', sampleSendSystem.run sampleStart sampleEpochEnds = some w ∧
    sampleSendSystem.step w (.finish 0 ⟨[],none,false,none⟩,sampleBridge false) = some w' ∧
    (∀ ref, w'.messaging ref ≠ w.messaging ref → OfCurrentEpoch w ref (.create 0)) ∧
    BusyInFlight w := by
  obtain ⟨w,hw,hrest⟩ := Option.bind_eq_some_iff.mp sampleEpochEnds_finish
  obtain ⟨w',hw',hall⟩ := Option.map_eq_some_iff.mp hrest
  simp only [Prod.mk.injEq,beq_iff_eq] at hall
  have h₁ := epochs_isolated (System.reachable_run (S:=sampleSendSystem)
    (.start sampleStart_initial) hw)
  refine ⟨w,w',hw,hw',h₁.1 0 _ _ _ w' hall.1 hw',h₁.2.2 ?_⟩
  exact System.ReachableUnder.of_run (.start sampleStart_initial)
    (fun s => sampleEpochEnds_cancelledFails s) hw

end Sms
end L850GL
