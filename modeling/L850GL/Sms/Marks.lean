import L850GL.Marks
import L850GL.Sms.Steps

/-! What an SMS operation does to the mark of its record. -/
namespace L850GL
namespace Sms

open Bridge Messaging Mutation Ownership World

/-- The operations that own a record. -/
def Owns (w : World) (modem : ModemRef) (op : OperationRef) : Prop :=
  ∃ operation,w.operations op = some operation ∧ operation.modem = modem

def tag (op : OperationRef) : RecordMark := (true,.sms,some (.sms op))

variable {w w' w₁ : World} {ref : ModemRef} {op : OperationRef} {operation : SmsOperation}
  {tables : Tables} {event : Event} {sha256 : CString → Digest}
  {random : Nat → Option (Vector UInt8 16)}

theorem tag_ne_unmarked (op : OperationRef) : tag op ≠ Modem.unmarked := by
  simp [Modem.unmarked,tag]

theorem owns_iff (w : World) (modem : ModemRef) (op : OperationRef) :
    Owns w modem op ↔ (w.operations op).map (·.modem) = some modem := by
  rw [Owns,Option.map_eq_some_iff]

/-- Operations may end, and each takes its own mark with it. -/
structure Ends (w w' : World) : Prop extends
  Bridge.Releases tag w.bridge w'.bridge (Owns w) (Owns w') where
  admitted : w'.admitted = w.admitted

/-- An operation is made on a record that nothing else uses. -/
structure Begins (tables : Tables) (w w' : World) (ref : ModemRef) : Prop where
  spare : Spare tables (w.modem ref) ref
  bridge : w'.bridge = w.bridge.updateModem ref (acquireModem w.next (w.modem ref))
  admitted : w'.admitted = w.admitted
  owns : ∀ other op,Owns w' other op ↔ Owns w other op ∨ other = ref ∧ op = w.next

/-- What an event does to the records and their owners. -/
inductive Moved (tables : Tables) (w w' : World) : Event → Prop
  | ends {event : Event} (h : Ends w w') : Moved tables w w' event
  | begins {event : Event} {ref : ModemRef} (h : Begins tables w w' ref) : Moved tables w w' event
  | admitted (h : w' = admitModem w) : Moved tables w w' .admitted
  | removed {ref : ModemRef} (h : w' = markRemoved w ref) : Moved tables w w' (.removed ref)

theorem identity_modem (operation : SmsOperation) : operation.identity.modem = operation.modem :=
  rfl

theorem Passive.owns (h : Passive w w') (modem : ModemRef) (op : OperationRef) :
    Owns w' modem op ↔ Owns w modem op := by
  have hmodem : ∀ memory : Option SmsOperation,memory.map (·.modem) =
      (memory.map SmsOperation.identity).map (·.modem) := by
    intro memory
    rw [Option.map_map]
    rfl
  rw [owns_iff,owns_iff,hmodem,h.operations op,← hmodem]

theorem Passive.ends (h : Passive w w') : Ends w w' :=
  ⟨.of_same h.bridge h.owns,h.admitted⟩

theorem Ends.trans {w'' : World} (h : Ends w w') (h' : Ends w' w'') : Ends w w'' :=
  ⟨h.toReleases.trans tag_ne_unmarked h'.toReleases,h'.admitted.trans h.admitted⟩

theorem releaseModem_mark (op : OperationRef) (modem : Modem) :
    (releaseModem op modem).bare = modem.bare ∧
      ((releaseModem op modem).mark = Modem.unmarked ∧ tag op ≠ Modem.unmarked ∨
        (releaseModem op modem).mark = modem.mark ∧ modem.mark ≠ tag op) := by
  simp only [releaseModem]
  split
  · exact ⟨rfl,.inl ⟨rfl,tag_ne_unmarked op⟩⟩
  · rename_i h
    refine ⟨rfl,.inr ⟨rfl,fun htag => h ?_⟩⟩
    simp only [Modem.mark,tag,Prod.mk.injEq] at htag
    exact htag.2

theorem Frees.ends (h : Frees w w' op operation) (ho : w.operations op = some operation) :
    Ends w w' := by
  obtain ⟨hbare,hmark⟩ := releaseModem_mark op (w.modem operation.modem)
  refine ⟨⟨?_,fun modem => ?_⟩,h.admitted⟩
  · rw [h.bridge]
    exact .updateModem hbare
  · by_cases hm : modem = operation.modem
    · refine .one (a:=op) ⟨operation,ho,hm.symm⟩ ?_ fun other => ?_
      · rw [hm,h.bridge,updateModem_self]
        exact hmark
      · rw [owns_iff,owns_iff,h.operations]
        by_cases he : other = op
        · subst he
          simp
        · simp [he]
    · refine .kept (by rw [h.bridge,updateModem_other _ _ hm]) fun other => ?_
      rw [owns_iff,owns_iff,h.operations]
      by_cases he : other = op
      · subst he
        simpa [ho] using fun h => hm h.symm
      · simp [he]

theorem Dispatches.ends (h : Dispatches w w' op operation)
    (ho : w.operations op = some operation) : Ends w w' := by
  obtain ⟨sending,hops,hid⟩ := h.operations
  have hmodem : sending.modem = operation.modem := by
    rw [← identity_modem sending,hid]
    rfl
  refine ⟨.of_same h.bridge fun modem other => ?_,h.admitted⟩
  rw [owns_iff,owns_iff,hops]
  by_cases he : other = op
  · subst he
    simp [ho,hmodem]
  · simp [he]

theorem smsMutationModem_spare {modemId : CString} {generation epoch : Nat}
    (h : smsMutationModem w tables modemId generation epoch = .ok ref)
    (hidle : (w.modem ref).mutationBusy = false) : Spare tables (w.modem ref) ref := by
  obtain ⟨hattested,-,-⟩ := smsMutationModem_ok h
  simp only [smsMutationModem] at h
  split at h
  · cases h
  split at h
  · cases h
  split at h
  · cases h
  split at h
  · cases h
  split at h
  · cases h
  split at h
  · cases h
  rename_i hspare
  cases h
  simp only [Modem.l850glModemAttestMutationTarget,Bool.and_eq_true] at hattested
  simp only [Bool.or_eq_true,not_or,Bool.not_eq_true] at hspare
  exact ⟨hattested.1.1,hidle,hspare.1.1.1,hspare.1.1.2,hspare.1.2,hspare.2⟩

theorem Passive.begins (h : Passive w w₁) (h' : Begins tables w₁ w' ref) :
    Begins tables w w' ref := by
  have hmodem : w₁.modem ref = w.modem ref := by rw [World.modem,h.bridge]; rfl
  refine ⟨hmodem ▸ h'.spare,?_,h'.admitted.trans h.admitted,fun other op => ?_⟩
  · rw [h'.bridge,h.bridge,hmodem,h.next]
  · rw [h'.owns,h.owns,h.next]

/-- The owners once an operation has been made, under a number that nobody has. -/
theorem Pending.owns_new (hp : Pending w none)
    (h : w'.operations = Function.update w.operations w.next (some operation))
    (other : ModemRef) (op : OperationRef) :
    Owns w' other op ↔ Owns w other op ∨ other = operation.modem ∧ op = w.next := by
  rw [owns_iff,owns_iff,h]
  by_cases he : op = w.next
  · subst he
    simp [hp.fresh w.next (Nat.le_refl _),eq_comm]
  · simp [he]

theorem startSend_begins {source : Nat} {request : SendSmsRequest} {smsId : CString}
    (hp : Pending w none) (hspare : Spare tables (w.modem ref) ref)
    (hattested : (w.modem ref).l850glModemAttestMutationTarget = true) :
    Begins tables w (startSend sha256 w ref source request smsId) ref := by
  have hs := smsDedupeStore_stores
    (smsOperationNew w (sendOperation sha256 w ref source request smsId)) w.next
    (sendOperation sha256 w ref source request smsId) ⟨false,some smsId,none,some "busy",true,
      (sendOperation sha256 w ref source request smsId).requestDigest⟩
  simp only [startSend]
  rw [if_neg]
  · exact ⟨hspare,hs.bridge,hs.admitted,hp.owns_new hs.operations⟩
  · rw [World.modem,hs.bridge]
    simpa [smsOperationNew,sendOperation,newOperation] using hattested

theorem sendNewSms_begins (sha256 : CString → Digest) (random : Nat → Option (Vector UInt8 16))
    (w : World) {request : SendSmsRequest} (hp : Pending w none)
    (hspare : (w.modem ref).mutationBusy = false → Spare tables (w.modem ref) ref)
    (hattested : (w.modem ref).l850glModemAttestMutationTarget = true) :
    Passive w (sendNewSms sha256 random w ref request).1 ∨
      Begins tables w (sendNewSms sha256 random w ref request).1 ref := by
  obtain ⟨hl,hs⟩ := Messaging.reserveSmsId_ledger random (w.messaging ref) w.drawn
  have h₁ := Passive.updateMessaging (w:=w) hl (by rw [hs]; exact id)
  have h₂ : Passive w {w.updateMessaging ref ((w.messaging ref).reserveSmsId random w.drawn).1 with
      drawn := ((w.messaging ref).reserveSmsId random w.drawn).2.2} :=
    ⟨h₁.bridge,h₁.admitted,h₁.next,h₁.operations,h₁.messaging,h₁.ready,h₁.calls,h₁.trace⟩
  simp only [sendNewSms]
  split
  · exact .inl (.refl w)
  rename_i hidle
  split
  · exact .inr (h₂.begins (startSend_begins (h₂.pending hp)
      (hspare (by simpa using hidle)) hattested))
  · exact .inl h₂

theorem sendSmsOn_begins {request : SendSmsRequest} (hp : Pending w none)
    (hspare : (w.modem ref).mutationBusy = false → Spare tables (w.modem ref) ref)
    (hattested : (w.modem ref).l850glModemAttestMutationTarget = true) :
    Passive w (sendSmsOn sha256 random w ref request).1 ∨
      Begins tables w (sendSmsOn sha256 random w ref request).1 ref := by
  have h₁ : Passive w (w.updateMessaging ref ((w.messaging ref).smsDedupePrune w.bridge.now)) :=
    Passive.updateMessaging ⟨rfl,rfl,.inr rfl⟩ id
  simp only [sendSmsOn,Messaging.smsDedupeFind]
  split
  · split
    · exact .inl h₁
    · exact .inl h₁
  · rcases sendNewSms_begins sha256 random
      (w.updateMessaging ref ((w.messaging ref).smsDedupePrune w.bridge.now)) (h₁.pending hp)
      hspare hattested with h | h
    · exact .inl (h₁.trans h)
    · exact .inr (h₁.begins h)

theorem startDelete_begins {source : Nat} {smsId path : CString} (hp : Pending w none)
    (hspare : Spare tables (w.modem ref) ref)
    (hop : operation = {newOperation w ref source .delete with smsId := some smsId}) :
    Begins tables w (((smsOperationNew w operation).call (.delete w.next path)).observe
      (.deleting w.next ref operation.messagingGeneration smsId path)) ref := by
  have hmodem : operation.modem = ref := by rw [hop]; rfl
  refine ⟨hspare,?_,rfl,fun other op => ?_⟩
  · rw [← hmodem]
    rfl
  · rw [← hmodem]
    exact hp.owns_new rfl other op

theorem deleteSmsOn_begins {request : DeleteSmsRequest} (hp : Pending w none)
    (hspare : (w.modem ref).mutationBusy = false → Spare tables (w.modem ref) ref)
    (hattested : (w.modem ref).l850glModemAttestMutationTarget = true) :
    Passive w (deleteSmsOn w ref request).1 ∨
      Begins tables w (deleteSmsOn w ref request).1 ref := by
  simp only [deleteSmsOn]
  split
  · exact .inl (querySms_passive w ref)
  split
  · exact .inl (.refl w)
  rename_i hidle
  split
  · split
    · exact .inl (.refl w)
    split
    · exact .inl (.refl w)
    rw [if_neg]
    · exact .inr (startDelete_begins hp (hspare (by simpa using hidle)) rfl)
    · simpa [World.modem,smsOperationNew,newOperation] using hattested
  · exact .inl (.refl w)

/-- The tables that a request looks at. -/
def Event.withTables (tables : Tables) : Event → Event
  | .sendSms _ request => .sendSms tables request
  | .deleteSms _ request => .deleteSms tables request
  | event => event

theorem methodSendSms_moved (hp : Pending w none) (request : Option SendSmsRequest) :
    Moved tables w (methodSendSms sha256 random w tables request).1 event := by
  cases request with
  | none => exact .ends (Passive.refl w).ends
  | some request =>
    simp only [methodSendSms]
    split
    · exact .ends (Passive.refl w).ends
    split
    · exact .ends (Passive.refl w).ends
    · rename_i ref hok
      rcases sendSmsOn_begins hp (smsMutationModem_spare hok) (smsMutationModem_ok hok).1
        with h | h
      · exact .ends h.ends
      · exact .begins h

theorem methodDeleteSms_moved (hp : Pending w none) (request : Option DeleteSmsRequest) :
    Moved tables w (methodDeleteSms w tables request).1 event := by
  cases request with
  | none => exact .ends (Passive.refl w).ends
  | some request =>
    simp only [methodDeleteSms]
    split
    · exact .ends (Passive.refl w).ends
    split
    · exact .ends (Passive.refl w).ends
    · rename_i ref hok
      rcases deleteSmsOn_begins hp (smsMutationModem_spare hok) (smsMutationModem_ok hok).1
        with h | h
      · exact .ends h.ends
      · exact .begins h

theorem Ends.answer {index : Nat} (h : Ends (w.answer index) w') : Ends w w' :=
  ⟨⟨h.same,h.leaves⟩,h.admitted⟩

theorem finish_ends (hp : Pending w none) {index : Nat} {call : Call} {outcome : Outcome}
    (hcall : w.calls[index]? = some call) :
    Ends w (finish random (w.answer index) call outcome) := by
  have hmem := List.mem_of_getElem? hcall
  cases call with
  | list ref source epoch => exact (smsListReady_passive _ _ _ _ _ _ _).ends.answer
  | create op =>
    obtain ⟨operation,ho,-⟩ := hp.exists_operation hmem rfl
    obtain ⟨w₁,o₁,h₁,ho₁,hcompletes | hdispatches⟩ := smsCreateReady_spec (w:=w.answer index) ho
      outcome.sms outcome.error
    · exact (h₁.ends.trans (hcompletes.toFrees.ends ho₁)).answer
    · exact (h₁.ends.trans (hdispatches.ends ho₁)).answer
  | send op =>
    obtain ⟨operation,ho,-⟩ := hp.exists_operation hmem rfl
    obtain ⟨w₁,h₁,ho₁,hcompletes⟩ := smsSendReady_spec (w:=w.answer index) ho outcome.succeeded
      outcome.error
    exact (h₁.ends.trans (hcompletes.toFrees.ends ho₁)).answer
  | delete op path =>
    obtain ⟨operation,ho,hfits⟩ := hp.exists_operation hmem rfl
    obtain ⟨w₁,h₁,ho₁,hcompletes⟩ := smsDeleteReady_spec (w:=w.answer index) ho hfits
      outcome.succeeded outcome.error
    exact (h₁.ends.trans (hcompletes.toFrees.ends ho₁)).answer

theorem reconcileMessaging_ends (w : World) (ref : ModemRef) (forceEpoch : Bool)
    (object : Option Nat) : Ends w (reconcileMessaging w ref forceEpoch object) := by
  have hepoch : ∀ w : World,Ends w
      ((w.updateMessaging ref ((w.messaging ref).changeEpoch object)).querySms ref) := by
    intro w
    have hupdate : Ends w (w.updateMessaging ref ((w.messaging ref).changeEpoch object)) :=
      ⟨.of_same rfl fun _ _ => Iff.rfl,rfl⟩
    exact hupdate.trans (querySms_passive _ ref).ends
  have hcancel := cancelMutation_passive w ref
  have hmessaging : (cancelMutation w ref).messaging = w.messaging := by
    simp only [cancelMutation]
    split
    · rfl
    · rfl
  simp only [reconcileMessaging]
  split
  · exact (Passive.refl w).ends
  split
  · rw [← hmessaging]
    exact hcancel.ends.trans (hepoch _)
  · exact hepoch w

theorem markRemoved_records (w : World) (ref : ModemRef) :
    (markRemoved w ref).admitted = w.admitted ∧
      (markRemoved w ref).bridge = w.bridge.updateModem ref (w.modem ref).modemMarkRemoved ∧
      ∀ other op,Owns (markRemoved w ref) other op ↔ Owns w other op := by
  have hcancel := cancelMutation_passive w ref
  refine ⟨hcancel.admitted,?_,hcancel.owns⟩
  simp only [markRemoved,updateMessaging,World.modem,hcancel.bridge]

theorem handle_moved (hp : Pending w none)
    (hs : handle sha256 random w (event.withTables tables) = some w') :
    Moved tables w w' event := by
  cases event with
  | sendSms _ request =>
    simp only [Event.withTables,handle,Option.ite_none_left_eq_some,Option.some.injEq] at hs
    obtain ⟨-,rfl⟩ := hs
    exact methodSendSms_moved hp request
  | deleteSms _ request =>
    simp only [Event.withTables,handle,Option.ite_none_left_eq_some,Option.some.injEq] at hs
    obtain ⟨-,rfl⟩ := hs
    exact methodDeleteSms_moved hp request
  | listSms request =>
    simp only [Event.withTables,handle,Option.ite_none_left_eq_some,Option.some.injEq] at hs
    obtain ⟨-,rfl⟩ := hs
    exact .ends (methodListSms_passive w request).ends
  | finish index outcome =>
    simp only [Event.withTables,handle] at hs
    split at hs
    · cases hs
    · rename_i call hcall
      cases hs
      exact .ends (finish_ends hp hcall)
  | timeout op =>
    simp only [Event.withTables,handle] at hs
    split at hs
    · cases hs
    · rename_i operation ho
      simp only [Option.ite_none_right_eq_some,Option.some.injEq] at hs
      obtain ⟨-,rfl⟩ := hs
      exact .ends (smsOperationTimeout_passive ho).ends
  | added ref path =>
    simp only [Event.withTables,handle,Option.ite_none_right_eq_some,Option.some.injEq] at hs
    obtain ⟨-,rfl⟩ := hs
    exact .ends (smsAdded_passive w ref path).ends
  | deleted ref path =>
    simp only [Event.withTables,handle,Option.ite_none_right_eq_some,Option.some.injEq] at hs
    obtain ⟨-,rfl⟩ := hs
    exact .ends (smsDeleted_passive w ref path).ends
  | smsPropertiesChanged ref path properties =>
    cases hs
    exact .ends (smsPropertiesChanged_passive w ref path properties).ends
  | reconcile ref forceEpoch object =>
    simp only [Event.withTables,handle,Option.ite_none_right_eq_some,Option.some.injEq] at hs
    obtain ⟨-,rfl⟩ := hs
    exact .ends (reconcileMessaging_ends w ref forceEpoch object)
  | refreshSms ref =>
    cases hs
    exact .ends (querySms_passive w ref).ends
  | admitted =>
    simp only [Event.withTables,handle,Option.ite_none_left_eq_some,Option.some.injEq] at hs
    obtain ⟨-,rfl⟩ := hs
    exact .admitted rfl
  | removed ref =>
    simp only [Event.withTables,handle,Option.ite_none_right_eq_some,Option.some.injEq] at hs
    obtain ⟨-,rfl⟩ := hs
    exact .removed rfl
  | connectionLost =>
    cases hs
    exact .ends (connectionLost_passive w).ends
  | reconnected =>
    simp only [Event.withTables,handle,Option.ite_none_left_eq_some,Option.some.injEq] at hs
    obtain ⟨-,rfl⟩ := hs
    exact .ends ((Passive.refl w).withUbus _).ends
  | shutdown =>
    simp only [Event.withTables,handle,Option.ite_none_left_eq_some,Option.some.injEq] at hs
    obtain ⟨-,rfl⟩ := hs
    exact .ends ((Passive.refl w).withUbus _).ends
  | stop =>
    cases hs
    exact .ends (l850glUbusStop_passive w).ends

theorem Begins.turns (h : Begins tables w w' ref)
    (hidle : (w.modem ref).mark = Modem.unmarked) :
    Turns tag w.bridge w'.bridge (Owns w) (Owns w') := by
  rw [h.bridge]
  exact .take hidle rfl rfl h.owns

end Sms
end L850GL
