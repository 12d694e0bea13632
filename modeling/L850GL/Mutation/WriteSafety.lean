import L850GL.Mutation.Run

/-! Write safety: the tuple and the reset go out at most once, to the unchanged original, and only
after the replies that allow them. -/
namespace L850GL
namespace Mutation

open Cell Errors

def sendsTuple (lock : Lock) : Observation → Bool
  | .command _ _ text => text == lock.command
  | _ => false

def sendsReset : Observation → Bool
  | .command _ _ text => text == l850glL850ResetCommand
  | _ => false

theorem sendsTuple_iff {lock : Lock} {o : Observation} :
    sendsTuple lock o = true ↔ lock.IsTuple o := by
  cases o <;> simp [sendsTuple,Lock.IsTuple]

theorem sendsReset_iff {o : Observation} : sendsReset o = true ↔ Lock.IsReset o := by
  cases o <;> simp [sendsReset,Lock.IsReset]

/-- Write safety of a state: `object` is the proxy of the original at admission, which the probe
went to, and `past` holds what was observed before a command. -/
structure WriteSafe (object : Nat) (s : State) : Prop where
  tupleOnce : s.trace.countP (sendsTuple s.operation.lock) ≤ 1
  resetOnce : s.trace.countP sendsReset ≤ 1
  proxy : ∀ later target record text past,
    s.trace = later++.command target record text::past →
      target = s.operation.original → record.modem = object
  tupleGuarded : ∀ later target record past,
    s.trace = later++.command target record (tuple s.operation)::past →
      target = s.operation.original ∧ SameOriginal s.operation.lock object record ∧
      Undisturbed past ∧ s.operation.lock.ProbeAccepted past
  resetGuarded : ∀ later target record past,
    s.trace = later++.command target record l850glL850ResetCommand::past →
      target = s.operation.original ∧ SameOriginal s.operation.lock object record ∧
      Undisturbed past ∧ s.operation.lock.Acknowledged past ∧
      openWindow past = some .preReset ∧
      ∃ last previous rest, windowReads past = last::previous::rest ∧
        last.1.target = s.operation.original ∧ s.operation.lock.Matches last.2 ∧
        previous.1.target = s.operation.original ∧ s.operation.lock.Matches previous.2
  commands : ∀ later target record text past,
    s.trace = later++.command target record text::past →
      (text = l850glL850NvmQueryCommand ∨ text = l850glL850ScanCommand) ∨
        target = s.operation.original ∧
          (text = tuple s.operation ∨ text = l850glL850ResetCommand)

/-- What the invariant of either kind of state keeps of the trace. -/
theorem Inv.reasons {object : Nat} {s : State} (h : Inv object s) :
    Justified (Reason s.operation.lock object) s.trace := by
  rcases h with h | ⟨wait,h⟩
  · exact h.reasons
  · exact h.idle.reasons

theorem Inv.command {object : Nat} {s : State} (h : Inv object s) :
    IsTupleText s.operation.lock.command := by
  rcases h with h | ⟨wait,h⟩
  · exact h.command
  · exact h.idle.command

theorem CommandReason.of_tuple {lock : Lock} {object : Nat} {past : List Observation}
    {target : ModemRef} {record : Modem} {text : CString} (hcommand : IsTupleText lock.command)
    (h : CommandReason lock object past target record text) (htext : text = lock.command) :
    target = lock.original ∧ SameOriginal lock object record ∧ lock.ProbeAccepted past ∧
      ∀ o ∈ past, ¬ lock.IsTuple o := by
  cases h with
  | query hquery =>
    exact absurd ⟨target,record,htext ▸ rfl⟩ (not_isTuple_query hcommand hquery target record)
  | tuple hrecord hprobe honce => exact ⟨rfl,hrecord,hprobe,honce⟩
  | reset =>
    exact absurd ⟨lock.original,record,htext ▸ rfl⟩ (hcommand.not_isReset lock.original record)

theorem CommandReason.of_reset {lock : Lock} {object : Nat} {past : List Observation}
    {target : ModemRef} {record : Modem} {text : CString} (hcommand : IsTupleText lock.command)
    (h : CommandReason lock object past target record text)
    (htext : text = l850glL850ResetCommand) :
    target = lock.original ∧ SameOriginal lock object record ∧ lock.Acknowledged past ∧
      openWindow past = some .preReset ∧
      (∃ last previous rest, windowReads past = last::previous::rest ∧
        last.1.target = lock.original ∧ lock.Matches last.2 ∧
        previous.1.target = lock.original ∧ lock.Matches previous.2) ∧
      ∀ o ∈ past, ¬ Lock.IsReset o := by
  cases h with
  | query hquery =>
    exact absurd ⟨target,record,htext ▸ rfl⟩ (not_isReset_query hquery target record)
  | tuple =>
    exact absurd ⟨lock.original,record,htext ▸ rfl⟩ (hcommand.not_isReset lock.original record)
  | reset hrecord hack hwindow hreads honce => exact ⟨rfl,hrecord,hack,hwindow,hreads,honce⟩

theorem writeSafe_of_reasons {object : Nat} {s : State}
    (hcommand : IsTupleText s.operation.lock.command)
    (h : Justified (Reason s.operation.lock object) s.trace) : WriteSafe object s where
  tupleOnce := by
    refine h.countP_le_one fun past e he hsend o ho => ?_
    obtain ⟨target,record,rfl⟩ := sendsTuple_iff.mp hsend
    have honce := (he.2.2.of_tuple hcommand rfl).2.2.2
    rw [Bool.eq_false_iff]
    exact fun hearlier => honce o ho (sendsTuple_iff.mp hearlier)
  resetOnce := by
    refine h.countP_le_one fun past e he hsend o ho => ?_
    obtain ⟨target,record,rfl⟩ := sendsReset_iff.mp hsend
    have honce := (he.2.2.of_reset hcommand rfl).2.2.2.2.2
    rw [Bool.eq_false_iff]
    exact fun hearlier => honce o ho (sendsReset_iff.mp hearlier)
  proxy := by
    intro later target record text past htrace
    rw [htrace] at h
    exact h.split.2.1
  tupleGuarded := by
    intro later target record past htrace
    rw [htrace] at h
    obtain ⟨hundisturbed,-,hreason⟩ := h.split
    obtain ⟨htarget,hrecord,hprobe,-⟩ := hreason.of_tuple hcommand rfl
    exact ⟨htarget,hrecord,hundisturbed,hprobe⟩
  resetGuarded := by
    intro later target record past htrace
    rw [htrace] at h
    obtain ⟨hundisturbed,-,hreason⟩ := h.split
    obtain ⟨htarget,hrecord,hack,hwindow,hreads,-⟩ := hreason.of_reset hcommand rfl
    exact ⟨htarget,hrecord,hundisturbed,hack,hwindow,hreads⟩
  commands := by
    intro later target record text past htrace
    rw [htrace] at h
    obtain ⟨-,-,hreason⟩ := h.split
    generalize s.operation = op at hreason ⊢
    cases hreason with
    | query hquery => exact .inl hquery
    | tuple => exact .inr ⟨rfl,.inl rfl⟩
    | reset => exact .inr ⟨rfl,.inr rfl⟩

/-- The tuple and the reset are written at most once, to the unchanged original, and only after
the probe was accepted, respectively after the acknowledgement and two matching reads. -/
theorem l850Mutation_writeSafe {s : State} (h : mutationSystem.Reachable s) :
    ∃ object, WriteSafe object s := by
  obtain ⟨object,hinv⟩ := reachable_inv h
  exact ⟨object,writeSafe_of_reasons hinv.command hinv.reasons⟩

def sampleRequest : SetCellLockRequest where
  modemId := "l850gl-00112233445566778899aabbccddeeff".toList
  generation := 1
  earfcn := 1850
  pci := some 12
  confirm := true

def sampleNvm : CString :=
  ("frequency=1850\nrat=3\npsc_or_pci=12\nband_info=3\n"++"inter_freq_lock_support=1").toList

def sampleScan : CString :=
  "+XMCI: 4,510,10,1,2,12,1850,19850,100,50,20,10,1,2\nOK".toList

def sampleReply (response : CString) : CommandResult := ⟨some response,none⟩

/-- Probe, acknowledgement, two reads, reset, adoption, verifying read and scan. -/
def sampleEvents : List Event :=
  [.finish 0 (sampleReply sampleNvm) (sampleBridge false),
   .finish 0 (sampleReply l850SetSuccess) (sampleBridge false),
   .finish 0 (sampleReply sampleNvm) (sampleBridge false),
   .source 2 (sampleBridge false),
   .finish 0 (sampleReply sampleNvm) (sampleBridge false),
   .finish 0 ⟨none,some gIoErrorCancelled⟩ (sampleBridge false),
   .source 3 (sampleBridge true),
   .finish 0 (sampleReply sampleNvm) (sampleBridge true),
   .finish 0 (sampleReply sampleScan) (sampleBridge true)]

/-- The state after the events, when the request is admitted and every event can happen. -/
def sampleRun (events : List Event) : Option State :=
  match methodSetCellLock ⟨[],[],[]⟩ sampleUbus (sampleBridge false) (some sampleRequest) with
  | .refused _ => none
  | .started s => mutationSystem.run s events

theorem sampleRun_reachable {events : List Event} {s : State} (h : sampleRun events = some s) :
    mutationSystem.Reachable s := by
  unfold sampleRun at h
  split at h
  · cases h
  · rename_i start hstart
    have hstarted : mutationSystem.start start :=
      ⟨_,_,_,⟨rfl,rfl,rfl⟩,.inl ⟨_,hstart⟩⟩
    exact System.reachable_run (.start hstarted) h

/-- The commands of a trace in the order they went out. -/
def commandsSent (s : State) : List CString :=
  s.trace.reverse.filterMap fun
    | .command _ _ text => some text
    | _ => none

theorem sampleRun_commands : (sampleRun sampleEvents).map commandsSent = some
    [l850glL850NvmQueryCommand,"AT@SIC:FREQ_LOCK(0,3,3,1,1850,12)".toList,
     l850glL850NvmQueryCommand,l850glL850NvmQueryCommand,l850glL850ResetCommand,
     l850glL850NvmQueryCommand,l850glL850ScanCommand] := by
  decide +kernel

/-- The rule at a run that writes the tuple and resets the modem. -/
theorem l850Mutation_writeSafe_sample : ∃ s object, sampleRun sampleEvents = some s ∧
    WriteSafe object s := by
  obtain ⟨s,hs,-⟩ := Option.map_eq_some_iff.mp sampleRun_commands
  obtain ⟨object,hsafe⟩ := l850Mutation_writeSafe (sampleRun_reachable hs)
  exact ⟨s,object,hs,hsafe⟩

end Mutation
end L850GL
