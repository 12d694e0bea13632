import L850GL.Mutation.Moves
import L850GL.Mutation.WriteSafety
import Mathlib.Logic.Relation

/-! The coordinator refines the declared state machine: so does every step and every run. -/
namespace L850GL
namespace Mutation

open Cell State

variable {object : Nat} {s t u : State} {call : PendingCall} {result : CommandResult}

/-- What a run keeps besides the invariant. -/
structure Tracked (s : State) : Prop where
  generation : (s.modem s.operation.original).generation = s.operation.originalGeneration
  calls : ∀ call ∈ s.calls, call.source = (s.modem call.target).modem
  flagged : s.released = false → Flagged s.operation
  unanswered : s.released = false → s.operation.phase.acknowledged = false →
    Unanswered s.trace

/-- The step that answers the tuple with the exact acknowledgement while the original is live. -/
def AcknowledgedStep (s : State) (event : Event) : Prop :=
  ∃ index result bridge call, event = .finish index result bridge ∧
    s.calls[index]? = some call ∧ call.callback = .setReady ∧
    s.mmModemCommandFinish call result = ⟨some l850SetSuccess,none⟩ ∧
    ((s.bridge.refresh bridge).modems s.operation.original).live = true

/-- A reply told from a phase: a stutter or a declared transition once the tuple was acknowledged,
with the flags when it is a failure. -/
structure Told (lock : Lock) (phase : L850MutationPhase) (past : List Observation)
    (body : Reply) : Prop where
  state : lock.Acknowledged past → ∃ state,
    body.lookup "state" = some (.text (l850glL850StateName state)) ∧
      Follows (declaredState phase) state
  flags : body.lookup "ok" = some (.u8 false) →
    body.lookup "configuration_acknowledged" = some (.u8 phase.acknowledged) ∧
    body.lookup "verification_stage" =
      (phaseWindow phase).map fun stage => .text (nvmVerifyStageName stage)

/-- What one step does to the phase and to the ubus client. -/
structure Stepped (s t : State) : Prop where
  lock : t.operation.lock = s.operation.lock
  follows : Follows (declaredState s.operation.phase) (declaredState t.operation.phase)
  replies : ∀ later connection body past, t.trace = later++.reply connection body::past →
    .reply connection body ∉ s.trace →
      t.operation.phase = s.operation.phase ∧
        Told s.operation.lock s.operation.phase past body

/-- What the main loop does before it runs a callback. -/
structure Prepares (report : Bridge) (s s' : State) : Prop where
  operation : s'.operation = s.operation
  released : s'.released = s.released
  bridge : s'.bridge = s.bridge.refresh report
  calls : ∀ call ∈ s'.calls, call ∈ s.calls
  trace : ∃ new, s'.trace = new++s.trace ∧ ∀ o ∈ new, ¬ Lock.IsReply o

theorem follows_acknowledged {phase phase' : L850MutationPhase}
    (h : Follows (declaredState phase) (declaredState phase'))
    (hack : phase.acknowledged = true) : phase'.acknowledged = true := by
  cases phase' with
  | protocolProbe => cases phase <;> revert h hack <;> decide
  | setCommand => cases phase <;> revert h hack <;> decide
  | _ => rfl

theorem Moves.kept (h : Moves s t) : Kept s t := by
  rcases h with h | h
  · exact h.toKept
  · exact h.toKept

theorem Moves.follows (h : Moves s t) :
    Follows (declaredState s.operation.phase) (declaredState t.operation.phase) := by
  rcases h with h | h
  · exact h.follows
  · exact .inl (congrArg declaredState h.phase)

theorem Moves.unacknowledged (h : Moves s t) (hack : t.operation.phase.acknowledged = false) :
    s.operation.phase.acknowledged = false := by
  by_contra hn
  have := follows_acknowledged h.follows (Bool.not_eq_false _ ▸ hn)
  simp [this] at hack

theorem Lock.Acknowledged.of_append {lock : Lock} {new past : List Observation}
    (h : lock.Acknowledged (new++past)) (hnew : ∀ o ∈ new, Silent o ∨ Lock.IsReply o) :
    lock.Acknowledged past := by
  obtain ⟨call,result,now,hm,hrest⟩ := h
  rcases List.mem_append.mp hm with hm | hm
  · rcases hnew _ hm with ho | ⟨connection,body,ho⟩
    · exact ho.elim
    · cases ho
  · exact ⟨call,result,now,hm,hrest⟩

theorem Lock.Acknowledged.mono {lock : Lock} {past later : List Observation}
    (h : lock.Acknowledged past) (hsub : past ⊆ later) : lock.Acknowledged later := by
  obtain ⟨call,result,now,hm,hrest⟩ := h
  exact ⟨call,result,now,hsub hm,hrest⟩

theorem Prepares.stepped (hp : Prepares report s u) (h : Moves u t) : Stepped s t := by
  have hkept := h.kept
  have hfollows := h.follows
  rw [hp.operation] at hfollows
  refine ⟨by rw [hkept.lock,hp.operation],hfollows,
    fun later connection body past htrace hfresh => ?_⟩
  obtain ⟨before,hbefore,hquiet⟩ := hp.trace
  have hmem : Observation.reply connection body ∈ t.trace := by rw [htrace]; simp
  have hold : Observation.reply connection body ∉ u.trace := by
    rw [hbefore]
    intro hm
    rcases List.mem_append.mp hm with hm | hm
    · exact hquiet _ hm ⟨_,_,rfl⟩
    · exact hfresh hm
  rcases h with h | h
  · exfalso
    obtain ⟨new,hnew,hsilent⟩ := h.trace
    rw [hnew] at hmem
    rcases List.mem_append.mp hmem with hm | hm
    · exact hsilent _ hm
    · exact hold hm
  · obtain ⟨new,hnew,hshown⟩ := h.trace
    rw [hnew] at hmem
    have hm := (List.mem_append.mp hmem).resolve_right hold
    have hphase := h.phase
    rw [hp.operation] at hphase
    rcases hshown _ hm with hs | ⟨connection',body',heq,⟨name,hname,hreports⟩,hflags⟩
    · exact hs.elim
    cases heq
    simp only [hp.operation] at hreports hflags
    refine ⟨hphase,fun hack => ?_,by rwa [CarriesFlags,hp.operation] at hflags⟩
    have hall : s.operation.lock.Acknowledged (new++u.trace) := by
      rw [← hnew]
      refine hack.mono fun o ho => ?_
      rw [htrace]
      exact List.mem_append_right _ (List.mem_cons_of_mem _ ho)
    obtain ⟨state,hstate,hfollow⟩ := hreports (hall.of_append fun o ho => by
      rcases hshown o ho with hs | ⟨c,b,hc,-⟩
      · exact .inl hs
      · exact .inr ⟨c,b,hc⟩)
    exact ⟨state,hname.trans (by rw [hstate]),hfollow⟩

theorem Prepares.tracked (hp : Prepares report s u) (h : Moves u t) (ht : Tracked s)
    (hanswered : t.released = false → t.operation.phase.acknowledged = false →
      Unanswered u.trace) : Tracked t := by
  have hkept := h.kept
  have hbridge := hp.bridge
  have hlock : t.operation.lock = s.operation.lock := by rw [hkept.lock,hp.operation]
  have hmodem : ∀ ref, (t.modem ref).modem = (s.modem ref).modem := by
    intro ref
    rw [(hkept.modems ref).modem,State.modem,hbridge]
    rfl
  constructor
  · have horiginal : t.operation.original = s.operation.original := congrArg Lock.original hlock
    have hgeneration : t.operation.originalGeneration = s.operation.originalGeneration :=
      congrArg Lock.generation hlock
    rw [horiginal,hgeneration,(hkept.modems _).generation,State.modem,hbridge]
    exact ht.generation
  · intro call hm
    rw [hmodem]
    rcases hkept.calls call hm with hm | hsource
    · exact ht.calls call (hp.calls call hm)
    · rw [hsource,State.modem,hbridge]
      rfl
  · intro hlive
    rcases h with h | h
    · exact h.flagged
    · rw [h.released] at hlive
      cases hlive
  · intro hlive hack
    rcases h with h | h
    · obtain ⟨new,hnew,hsilent⟩ := h.trace
      intro call result now hm
      rw [hnew] at hm
      rcases List.mem_append.mp hm with hm | hm
      · exact (hsilent _ hm).elim
      · exact hanswered hlive hack call result now hm
    · rw [h.released] at hlive
      cases hlive

/-- A step of a live operation: a callback moves it, and the tuple is acknowledged at the step
that says so only. -/
structure Advances (s t : State) (event : Event) : Prop where
  moves : ∃ u, Prepares event.bridge s u ∧ Moves u t ∧
    (t.released = false → t.operation.phase.acknowledged = false → Unanswered u.trace)
  acknowledged : t.operation.phase.acknowledged = true ↔
    s.operation.phase.acknowledged = true ∨ AcknowledgedStep s event

theorem Tracked.unanswered_of_moves (ht : Tracked s) (hlive : s.released = false)
    (hp : Prepares report s u) (h : Moves u t) (htrace : u.trace = s.trace)
    (hack : t.operation.phase.acknowledged = false) : Unanswered u.trace := by
  rw [htrace]
  apply ht.unanswered hlive
  rw [← hp.operation]
  exact h.unacknowledged hack

/-- What leaves the phase alone. -/
theorem advances_still {event : Event} (ht : Tracked s) (hlive : s.released = false)
    (hevent : ∀ index result bridge, event ≠ .finish index result bridge)
    (hp : Prepares event.bridge s u) (hkept : Kept u t) (hreleased : t.released = u.released)
    (hshown : t.operation.shown = u.operation.shown)
    (htrace : u.trace = s.trace) (hnew : ∃ new, t.trace = new++u.trace ∧ ∀ o ∈ new, Silent o) :
    Advances s t event := by
  simp only [L850MutationOperation.shown,Prod.mk.injEq,hp.operation] at hshown
  obtain ⟨-,hphase,hack,hstage,hdispatched⟩ := hshown
  have hflagged := ht.flagged hlive
  have h : Moves u t := .inl { hkept with
    live := hreleased
    follows := by rw [hphase,hp.operation]; exact .inl rfl
    flagged := by
      refine ⟨?_,?_,?_⟩
      · rw [hack,hphase,hflagged.acknowledged]
      · rw [hstage,hphase,hflagged.stage]
      · rw [hdispatched,hphase]
        exact hflagged.dispatched
    trace := hnew }
  refine ⟨⟨u,hp,h,fun _ hno => ht.unanswered_of_moves hlive hp h htrace hno⟩,?_⟩
  rw [hphase]
  refine ⟨.inl,fun hor => hor.resolve_right ?_⟩
  rintro ⟨index,result,bridge,-,he,-⟩
  exact hevent index result bridge he

/-- A finished call hands over to its callback. -/
structure Finishing (object : Nat) (s : State) (result : CommandResult) (bridge : Bridge)
    (call : PendingCall) (u : State) : Prop where
  state : u = ({s with bridge := s.bridge.refresh bridge,calls := []} : State).observe
    (.finished call (s.mmModemCommandFinish call result) (s.bridge.refresh bridge).now)
  running : Running object u call (s.mmModemCommandFinish call result)

theorem finish_running {wait : Wait} (h : Waiting object s wait) (ht : Tracked s) {index : Nat}
    {result : CommandResult} {bridge : Bridge}
    (hstep : step s (.finish index result bridge) = some t) :
    ∃ call u, s.calls[index]? = some call ∧ Finishing object s result bridge call u ∧
      t = commandReady u call (s.mmModemCommandFinish call result) := by
  have hlive : s.released = false := h.idle.live
  unfold step at hstep
  dsimp only at hstep
  split at hstep
  · cases hstep
  rename_i call hcall
  rw [Option.some.injEq] at hstep
  have hwait : wait = .reply call ∧ s.calls.eraseIdx index = [] := by
    rw [h.calls] at hcall ⊢
    cases wait with
    | tick source => simp [Wait.calls] at hcall
    | reply pending =>
      cases index with
      | succ index => simp [Wait.calls] at hcall
      | zero =>
        simp only [Wait.calls,List.getElem?_cons_zero,Option.some.injEq] at hcall
        exact ⟨by rw [hcall],rfl⟩
  obtain ⟨rfl,herase⟩ := hwait
  rw [herase] at hstep
  exact ⟨call,_,hcall,⟨rfl,(h.withBridge bridge).replied result,ht.flagged hlive,
    ht.unanswered hlive⟩,hstep.symm⟩

namespace Finishing

variable {bridge : Bridge}

theorem operation (h : Finishing object s result bridge call u) : u.operation = s.operation := by
  rw [h.state]
  rfl

theorem trace (h : Finishing object s result bridge call u) : u.trace =
    .finished call (s.mmModemCommandFinish call result) (s.bridge.refresh bridge).now::s.trace := by
  rw [h.state]
  rfl

theorem prepares (h : Finishing object s result bridge call u) : Prepares bridge s u := by
  refine ⟨h.operation,by rw [h.state]; rfl,by rw [h.state]; rfl,?_,?_⟩
  · rw [h.state]
    exact fun call hm => by cases hm
  · exact ⟨[_],h.trace,by simp [Lock.IsReply]⟩

theorem acknowledgedStep (h : Finishing object s result bridge call u) {index : Nat}
    (hcall : s.calls[index]? = some call) :
    AcknowledgedStep s (.finish index result bridge) ↔ call.callback = .setReady ∧
      s.mmModemCommandFinish call result = ⟨some l850SetSuccess,none⟩ ∧
      (u.modem u.operation.original).live = true := by
  rw [h.operation,h.state]
  constructor
  · rintro ⟨i,r,b,c,he,hc,hrest⟩
    cases he
    rw [hcall] at hc
    cases hc
    exact hrest
  · intro hrest
    exact ⟨index,result,bridge,call,rfl,hcall,hrest⟩

/-- Before the acknowledgement only the callback of the tuple sees its reply. -/
theorem unanswered (h : Finishing object s result bridge call u) (ht : Tracked s)
    (hlive : s.released = false) (hother : call.callback ≠ .setReady) (hmoves : Moves u t)
    (hack : t.operation.phase.acknowledged = false) : Unanswered u.trace := by
  have hbefore : s.operation.phase.acknowledged = false := by
    rw [← h.operation]
    exact hmoves.unacknowledged hack
  rw [h.trace]
  intro c r now hm
  rcases List.mem_cons.mp hm with heq | hm
  · cases heq
    exact hother
  · exact ht.unanswered hlive hbefore c r now hm

/-- A callback after the acknowledgement. -/
theorem advances (h : Finishing object s result bridge call u) (ht : Tracked s)
    (hlive : s.released = false) (hother : call.callback ≠ .setReady) (hmoves : Moves u t)
    (hack : u.operation.phase.acknowledged = true) {index : Nat} :
    Advances s t (.finish index result bridge) := by
  refine ⟨⟨u,h.prepares,hmoves,fun _ hno => h.unanswered ht hlive hother hmoves hno⟩,?_⟩
  rw [← h.operation]
  exact iff_of_true (follows_acknowledged hmoves.follows hack) (.inl hack)

end Finishing

theorem finish_advances {wait : Wait} (h : Waiting object s wait) (ht : Tracked s) {index : Nat}
    {result : CommandResult} {bridge : Bridge}
    (hstep : step s (.finish index result bridge) = some t) :
    Advances s t (.finish index result bridge) := by
  have hlive : s.released = false := h.idle.live
  obtain ⟨call,u,hcall,hf,hready⟩ := finish_running h ht hstep
  have hexpected := hf.running.expected
  unfold commandReady at hready
  cases hcb : call.callback with
  | probeReady =>
    simp only [hcb] at hready hexpected
    obtain ⟨hmoves,hno⟩ := probeReady_moves hf.running hcb
    rw [← hready] at hmoves hno
    have hother : call.callback ≠ .setReady := by simp [hcb]
    refine ⟨⟨u,hf.prepares,hmoves,fun _ hno => hf.unanswered ht hlive hother hmoves hno⟩,?_⟩
    refine iff_of_false (by simp [hno]) ?_
    rw [hf.acknowledgedStep hcall]
    rintro (hack | hack)
    · rw [← hf.operation,(expectedCall_probe hexpected).1] at hack
      cases hack
    · exact hother hack.1
  | setReady =>
    simp only [hcb] at hready
    have hsource : call.source = (u.modem call.target).modem := by
      rw [ht.calls call (List.mem_of_getElem? hcall),hf.state]
      rfl
    have hgeneration : (u.modem u.operation.original).generation =
        u.operation.originalGeneration := by
      rw [hf.operation,← ht.generation,hf.state]
      rfl
    have hset := setReady_moves hf.running hcb hsource hgeneration
    rw [← hready] at hset
    rcases hset with ⟨hends,hnot⟩ | ⟨hgoes,hack,hexact⟩
    · refine ⟨⟨u,hf.prepares,.inr hends,fun hfree => ?_⟩,?_⟩
      · rw [hends.released] at hfree
        cases hfree
      · rw [hf.acknowledgedStep hcall,hends.phase,hf.operation]
        rw [hf.operation] at hnot
        exact ⟨.inl,fun hor => hor.resolve_right fun hc => hnot hc.2⟩
    · refine ⟨⟨u,hf.prepares,.inl hgoes,fun _ hno => by simp [hack] at hno⟩,?_⟩
      exact iff_of_true hack (.inr ((hf.acknowledgedStep hcall).mpr ⟨hcb,hexact⟩))
  | nvmReady =>
    simp only [hcb] at hready hexpected
    refine hf.advances ht hlive (by simp [hcb]) (hready ▸ nvmReady_moves hf.running hcb) ?_
    rcases (expectedCall_nvm hexpected).2 with hphase | hphase <;> rw [hphase.1] <;> rfl
  | resetReady =>
    simp only [hcb] at hready hexpected
    refine hf.advances ht hlive (by simp [hcb]) (hready ▸ resetReady_moves hf.running hcb) ?_
    rw [expectedCall_reset hexpected]
    rfl
  | cellReady =>
    simp only [hcb] at hready hexpected
    refine hf.advances ht hlive (by simp [hcb]) (hready ▸ cellReady_moves hf.running hcb) ?_
    rw [(expectedCall_cell hexpected).1]
    rfl

theorem source_advances {wait : Wait} (h : Waiting object s wait) (ht : Tracked s) {id : Nat}
    {bridge : Bridge} (hstep : step s (.source id bridge) = some t) :
    Advances s t (.source id bridge) := by
  have hlive : s.released = false := h.idle.live
  have hevent : ∀ index result b, Event.source id bridge ≠ .finish index result b := by simp
  unfold step at hstep
  dsimp only at hstep
  split at hstep
  · cases hstep
  rename_i source hfind
  rw [Option.some.injEq] at hstep
  generalize hu : ({s with
    bridge := s.bridge.refresh bridge
    sources := s.sources.filter fun other => other.id != source.id} : State) = u
  have hp : Prepares bridge s u := by
    rw [← hu]
    exact ⟨rfl,rfl,rfl,fun _ hm => hm,[],rfl,by simp⟩
  have htrace : u.trace = s.trace := by rw [← hu]
  have hmem := List.mem_of_find?_eq_some hfind
  rw [h.sources,List.mem_append] at hmem
  rcases hmem with hmem | hmem
  · -- the global timeout only marks the operation
    have hcallback : source.callback = .timeout := by
      unfold timeoutSources at hmem
      split at hmem
      · cases hmem
      · rw [List.mem_singleton.mp hmem]
    have htimeout : t = l850MutationTimeout u := by
      rw [← hstep,← hu]
      unfold dispatchSource
      rw [hcallback]
    rw [htimeout]
    exact advances_still ht hlive hevent hp ⟨rfl,rfl,fun _ => .refl _,fun _ => .inl⟩ rfl rfl
      htrace ⟨[.deadlineFired],rfl,by simp [Silent]⟩
  · cases wait with
    | reply pending => cases hmem
    | tick armed =>
      have hsource := List.mem_singleton.mp hmem
      subst hsource
      obtain ⟨hcallback,-,-,hpolls⟩ := h.fits
      have hdispatch : t = if (l850MutationPoll u).2 then
          {(l850MutationPoll u).1 with sources := (l850MutationPoll u).1.sources++[source]}
          else (l850MutationPoll u).1 := by
        rw [← hstep,← hu]
        unfold dispatchSource
        rw [hcallback]
      have hoperation : u.operation = s.operation := hp.operation
      have hflagged : Flagged u.operation := hoperation ▸ ht.flagged hlive
      have hpolled := poll_moves hflagged (hoperation ▸ hpolls)
      rw [hdispatch]
      rcases hpolled with ⟨hagain,hsame⟩ | ⟨hdone,hmoves⟩
      · rw [if_pos hagain,hsame]
        exact advances_still ht hlive hevent hp ⟨rfl,rfl,fun _ => .refl _,fun _ => .inl⟩ rfl rfl
          htrace ⟨[],rfl,by simp⟩
      · rw [if_neg (by simp [hdone])]
        have hack := L850MutationPhase.acknowledged_of_polls hpolls
        rw [← hoperation] at hack
        refine ⟨⟨u,hp,hmoves,fun _ hno => ht.unanswered_of_moves hlive hp hmoves htrace hno⟩,?_⟩
        rw [← hoperation]
        exact iff_of_true (follows_acknowledged hmoves.follows hack) (.inl hack)

/-- The loss of the connection and the stop only mark the operation. -/
theorem cancel_advances (event : Event) (ht : Tracked s) (hlive : s.released = false)
    (hevent : ∀ index result bridge, event ≠ .finish index result bridge)
      (hp : Prepares event.bridge s u)
    (htrace : u.trace = s.trace) {o : Observation} (ho : Silent o) {ubus : Ubus} :
    Advances s (cancelL850MutationOperations (({u with ubus := ubus}).observe o) true) event := by
  have hfree : u.released = false := hp.released.trans hlive
  have hcancel : cancelL850MutationOperations (({u with ubus := ubus}).observe o) true =
      {u with
        ubus := ubus
        trace := o::u.trace
        operation := {u.operation with deferred := false,transportLost := true}
        cancelled := u.operation.cancellable::u.cancelled} := by
    simp [cancelL850MutationOperations,State.observe,State.gCancellableCancel,hfree]
  rw [hcancel]
  exact advances_still ht hlive hevent hp ⟨rfl,rfl,fun _ => .refl _,fun _ => .inl⟩ rfl rfl
    htrace ⟨[o],rfl,by simpa using ho⟩

theorem step_advances {wait : Wait} (h : Waiting object s wait) (ht : Tracked s) {event : Event}
    (hstep : step s event = some t) : Advances s t event := by
  have hlive : s.released = false := h.idle.live
  have hprepares : ∀ bridge, Prepares bridge s {s with bridge := s.bridge.refresh bridge} :=
    fun bridge => ⟨rfl,rfl,rfl,fun _ => id,[],rfl,by simp⟩
  have hstill : ∀ ubus, (∀ index result b, event ≠ .finish index result b) →
      Advances s {s with bridge := s.bridge.refresh event.bridge,ubus := ubus} event :=
    fun ubus hevent => advances_still ht hlive hevent (hprepares event.bridge)
      ⟨rfl,rfl,fun _ => .refl _,fun _ => .inl⟩ rfl rfl rfl ⟨[],rfl,by simp⟩
  cases event with
  | finish index result bridge => exact finish_advances h ht hstep
  | source id bridge => exact source_advances h ht hstep
  | connectionLost bridge =>
    simp only [step,connectionLost,Option.some.injEq] at hstep
    subst hstep
    split
    · exact hstill s.ubus (by simp)
    · apply cancel_advances (.connectionLost bridge) ht hlive (by simp) (hprepares bridge) rfl
      trivial
  | reconnected bridge =>
    simp only [step] at hstep
    split at hstep
    · cases hstep
    · rw [Option.some.injEq] at hstep
      subst hstep
      exact hstill _ (by simp)
  | shutdown bridge =>
    simp only [step] at hstep
    split at hstep
    · cases hstep
    · rw [Option.some.injEq] at hstep
      subst hstep
      exact hstill _ (by simp)
  | stop bridge =>
    simp only [step,l850glUbusStop,Option.some.injEq] at hstep
    subst hstep
    split
    · exact hstill s.ubus (by simp)
    · apply cancel_advances (.stop bridge) ht hlive (by simp) (hprepares bridge) rfl
      trivial

/-- After its release an operation only sees the connection and the records change. -/
theorem step_released_still (h : Released object s) {event : Event}
    (hstep : step s event = some t) : t.operation = s.operation ∧ t.released = s.released ∧
      t.calls = s.calls ∧ t.bridge = s.bridge.refresh event.bridge ∧
      ∃ new, t.trace = new++s.trace ∧ ∀ o ∈ new, Silent o := by
  have hcancel : ∀ u : State, u.released = true → ∀ b, cancelL850MutationOperations u b = u := by
    intro u hu b
    simp [cancelL850MutationOperations,hu]
  cases event with
  | finish index result bridge => simp [step,h.calls] at hstep
  | source id bridge => simp [step,h.sources] at hstep
  | connectionLost bridge =>
    simp only [step,connectionLost,Option.some.injEq] at hstep
    subst hstep
    split
    · exact ⟨rfl,rfl,rfl,rfl,[],rfl,by simp⟩
    · rw [hcancel]
      · exact ⟨rfl,rfl,rfl,rfl,[.connectionLost],rfl,by simp [Silent]⟩
      · exact h.released
  | reconnected bridge =>
    simp only [step] at hstep
    split at hstep
    · cases hstep
    · rw [Option.some.injEq] at hstep
      subst hstep
      exact ⟨rfl,rfl,rfl,rfl,[],rfl,by simp⟩
  | shutdown bridge =>
    simp only [step] at hstep
    split at hstep
    · cases hstep
    · rw [Option.some.injEq] at hstep
      subst hstep
      exact ⟨rfl,rfl,rfl,rfl,[],rfl,by simp⟩
  | stop bridge =>
    simp only [step,l850glUbusStop,Option.some.injEq] at hstep
    subst hstep
    split
    · exact ⟨rfl,rfl,rfl,rfl,[],rfl,by simp⟩
    · rw [hcancel]
      · exact ⟨rfl,rfl,rfl,rfl,[.stopped],rfl,by simp [Silent]⟩
      · exact h.released

/-- What one step keeps and shows, whether the operation is live or not. -/
theorem step_tracked (h : Inv object s) (ht : Tracked s) {event : Event}
    (hstep : step s event = some t) : Tracked t ∧ Stepped s t ∧
      (t.operation.phase.acknowledged = true ↔
        s.operation.phase.acknowledged = true ∨ AcknowledgedStep s event) := by
  rcases h with h | ⟨wait,h⟩
  · obtain ⟨hoperation,hreleased,hcalls,hbridge,new,hnew,hsilent⟩ :=
      step_released_still h hstep
    have hmodem : ∀ ref, (t.modem ref).modem = (s.modem ref).modem := by
      intro ref
      rw [State.modem,hbridge]
      rfl
    have hgone : t.released = true := hreleased.trans h.released
    refine ⟨⟨?_,?_,by simp [hgone],by simp [hgone]⟩,⟨by rw [hoperation],?_,?_⟩,?_⟩
    · rw [hoperation,State.modem,hbridge]
      exact ht.generation
    · intro call hm
      rw [hmodem]
      exact ht.calls call (hcalls ▸ hm)
    · rw [hoperation]
      exact .inl rfl
    · intro later connection body past htrace hfresh
      exfalso
      have hmem : Observation.reply connection body ∈ t.trace := by rw [htrace]; simp
      rw [hnew] at hmem
      rcases List.mem_append.mp hmem with hm | hm
      · exact hsilent _ hm
      · exact hfresh hm
    · rw [hoperation]
      refine ⟨.inl,fun hor => hor.resolve_right ?_⟩
      rintro ⟨index,result,bridge,call,-,hcall,-⟩
      simp [h.calls] at hcall
  · have hadvances := step_advances h ht hstep
    obtain ⟨u,hp,hmoves,hanswered⟩ := hadvances.moves
    exact ⟨hp.tracked hmoves ht hanswered,hp.stepped hmoves,hadvances.acknowledged⟩

theorem start_tracked {ubus : Ubus} {bridge : Bridge} {ref : ModemRef} {type : L850MutationType}
    {earfcn pci band : Nat} {hasPci : Bool} {command : CString}
    (h : l850MutationStart ubus bridge ref type earfcn hasPci pci band command = .started s) :
    Tracked s ∧ s.operation.phase = .protocolProbe := by
  unfold l850MutationStart l850MutationOperationNew at h
  dsimp only at h
  split at h
  · cases h
  rename_i u hnew
  rw [Admission.started.injEq] at h
  subst h
  split at hnew
  · cases hnew
  split at hnew
  · cases hnew
  rw [Option.some.injEq] at hnew
  subst hnew
  refine ⟨⟨?_,?_,fun _ => ⟨rfl,rfl,by simp [mmModemCommand]⟩,fun _ _ => ?_⟩,rfl⟩
  · simp [State.modem,mmModemCommand]
  · simp [State.modem,mmModemCommand]
  · intro call result now hm
    simp [mmModemCommand] at hm

theorem admitted_tracked (h : Admitted s) :
    Tracked s ∧ s.operation.phase = .protocolProbe := by
  obtain ⟨tables,ubus,bridge,-,⟨request,hs⟩ | ⟨request,hs⟩⟩ := h
  · unfold methodSetCellLock refuseRequested at hs
    dsimp only at hs
    repeat' split at hs
    all_goals first
      | cases hs
      | exact start_tracked hs
  · unfold methodClearCellLock refuseRequested at hs
    dsimp only at hs
    repeat' split at hs
    all_goals first
      | cases hs
      | exact start_tracked hs

theorem tracked_reachable (h : mutationSystem.Reachable s) : Tracked s := by
  have hboth : (∃ object, Inv object s) ∧ Tracked s := by
    refine h.invariant (P := fun s => (∃ object, Inv object s) ∧ Tracked s) ?_ ?_
    · intro s hs
      exact ⟨reachable_inv (.start hs),(admitted_tracked hs).1⟩
    · rintro s event t ⟨⟨object,hs⟩,ht⟩ hstep
      exact ⟨⟨object,step_inv hs hstep⟩,(step_tracked hs ht hstep).1⟩
  exact hboth.2

/-- A step accepted by the table of the declared states. -/
def Declared (old new : L850State) : Prop := l850glL850StateTransitionIsValid old new = true

/-- A run passes through declared transitions only, and is past the acknowledgement exactly when
one of its steps was the exact one. -/
theorem path_refines {s₀ : State} {steps : List (State × Event)} (h₀ : Admitted s₀)
    (hpath : mutationSystem.Path s₀ steps s) :
    Relation.ReflTransGen Declared .scanReady (declaredState s.operation.phase) ∧
      (s.operation.phase.acknowledged = true ↔
        ∃ step ∈ steps, AcknowledgedStep step.1 step.2) := by
  have hgeneral : ∀ {s t : State} {steps : List (State × Event)},
      mutationSystem.Path s steps t → mutationSystem.Reachable s →
      Relation.ReflTransGen Declared (declaredState s.operation.phase)
          (declaredState t.operation.phase) ∧
        (t.operation.phase.acknowledged = true ↔ s.operation.phase.acknowledged = true ∨
          ∃ step ∈ steps, AcknowledgedStep step.1 step.2) := by
    intro s t steps hpath
    induction hpath with
    | nil => exact fun _ => ⟨.refl,by simp⟩
    | @cons s u t event steps hs hrest ih =>
      intro hreach
      obtain ⟨object,hinv⟩ := reachable_inv hreach
      obtain ⟨-,hstepped,hack⟩ := step_tracked hinv (tracked_reachable hreach) hs
      obtain ⟨hpath,hlater⟩ := ih (.step hreach trivial hs)
      refine ⟨?_,?_⟩
      · rcases hstepped.follows with hsame | hdeclared
        · rwa [hsame] at hpath
        · exact .head hdeclared hpath
      · rw [hlater,hack]
        simp [or_assoc]
  obtain ⟨hpath,hack⟩ := hgeneral hpath (.start h₀)
  rw [(admitted_tracked h₀).2] at hpath hack
  exact ⟨hpath,hack.trans (or_iff_right (by simp [L850MutationPhase.acknowledged]))⟩

/-- How the last of `steps`, which leads from `s` to `t`, fits the declared machine. -/
structure RefinesDeclared (steps : List (State × Event)) (s t : State) : Prop where
  phase : Follows (declaredState s.operation.phase) (declaredState t.operation.phase)
  reply : ∀ later connection body past, t.trace = later++.reply connection body::past →
    .reply connection body ∉ s.trace → s.operation.lock.Acknowledged past →
    ∃ state, body.lookup "state" = some (.text (l850glL850StateName state)) ∧
      Follows (declaredState s.operation.phase) state
  failure : ∀ connection body, .reply connection body ∈ t.trace →
    .reply connection body ∉ s.trace → body.lookup "ok" = some (.u8 false) →
    (∃ acknowledged, body.lookup "configuration_acknowledged" = some (.u8 acknowledged) ∧
      (acknowledged = true ↔ ∃ step ∈ steps, AcknowledgedStep step.1 step.2)) ∧
    body.lookup "verification_stage" =
      (phaseWindow s.operation.phase).map fun stage => .text (nvmVerifyStageName stage)

/-- The coordinator refines the declared state machine at every step of every run. -/
theorem l850Mutation_refinesDeclared {s₀ : State} {steps : List (State × Event)} {event : Event}
    (h₀ : Admitted s₀) (hpath : mutationSystem.Path s₀ steps s)
    (hstep : step s event = some t) : RefinesDeclared (steps++[(s,event)]) s t := by
  have hreach : mutationSystem.Reachable s := hpath.reachableUnder (.start h₀) (by simp)
  obtain ⟨object,hinv⟩ := reachable_inv hreach
  obtain ⟨-,hstepped,-⟩ := step_tracked hinv (tracked_reachable hreach) hstep
  have hlast : mutationSystem.Path s₀ (steps++[(s,event)]) t :=
    hpath.append (.cons hstep (.nil t))
  constructor
  · exact hstepped.follows
  · intro later connection body past htrace hfresh hack
    exact (hstepped.replies later connection body past htrace hfresh).2.state hack
  · intro connection body hmem hfresh hfailed
    obtain ⟨later,past,htrace⟩ := List.append_of_mem hmem
    obtain ⟨hphase,htold⟩ := hstepped.replies later connection body past htrace hfresh
    obtain ⟨hflag,hstage⟩ := htold.flags hfailed
    refine ⟨⟨_,hflag,?_⟩,hstage⟩
    rw [← hphase]
    exact (path_refines h₀ hlast).2

theorem sampleRun_path {events : List Event} (h : sampleRun events = some s) :
    ∃ s₀ steps, Admitted s₀ ∧ steps.map Prod.snd = events ∧ mutationSystem.Path s₀ steps s := by
  unfold sampleRun at h
  split at h
  · cases h
  · rename_i start hstart
    obtain ⟨steps,hsteps,hpath⟩ := System.Path.of_run h
    exact ⟨start,steps,⟨_,_,_,⟨rfl,rfl,rfl⟩,.inl ⟨_,hstart⟩⟩,hsteps,hpath⟩

/-- The flags of the failure replies of a trace. -/
def failureFlags (s : State) : List (Bool × Option CString) :=
  s.trace.filterMap fun
    | .reply _ body =>
      match body.lookup "ok",body.lookup "configuration_acknowledged",
        body.lookup "verification_stage" with
      | some (.u8 false),some (.u8 acknowledged),some (.string stage) =>
        some (acknowledged,some stage)
      | some (.u8 false),some (.u8 acknowledged),none => some (acknowledged,none)
      | _,_,_ => none
    | _ => none

/-- A malformed read after the acknowledgement. -/
def malformedRead : List Event :=
  [.finish 0 (sampleReply sampleNvm) (sampleBridge false),
   .finish 0 (sampleReply l850SetSuccess) (sampleBridge false)]

theorem malformedRead_flags : (sampleRun malformedRead).bind (fun s =>
    (step s (.finish 0 (sampleReply []) (sampleBridge false))).map fun t =>
      (failureFlags s,failureFlags t)) =
    some ([],[(true,some "pre_reset_nvm".toList)]) := by
  decide +kernel

/-- The refinement at a failure inside the window before the reset. -/
theorem l850Mutation_refinesDeclared_sample : ∃ s t steps,
    sampleRun malformedRead = some s ∧ failureFlags t ≠ [] ∧
      RefinesDeclared (steps++[(s,.finish 0 (sampleReply []) (sampleBridge false))]) s t := by
  obtain ⟨s,hs,hflags⟩ := Option.bind_eq_some_iff.mp malformedRead_flags
  obtain ⟨t,hstep,hshown⟩ := Option.map_eq_some_iff.mp hflags
  obtain ⟨s₀,steps,h₀,-,hpath⟩ := sampleRun_path hs
  rw [Prod.mk.injEq] at hshown
  exact ⟨s,t,steps,hs,by simp [hshown.2],l850Mutation_refinesDeclared h₀ hpath hstep⟩

/-- The exact acknowledgement comes when the modem is gone. -/
def removedEvents : List Event :=
  [.finish 0 (sampleReply sampleNvm) (sampleBridge false),
   .finish 0 (sampleReply l850SetSuccess) (sampleBridge true)]

/-- The replies to the tuple. -/
def tupleReplies (s : State) : List CommandResult :=
  s.trace.filterMap fun
    | .finished call result _ => if call.callback = .setReady then some result else none
    | _ => none

/-- The reply of a removed modem is not taken for an acknowledgement, although it is the exact
one: the failure says that the configuration was not acknowledged. -/
theorem removedEvents_unacknowledged :
    (sampleRun removedEvents).map (fun s => (failureFlags s,tupleReplies s)) =
      some ([(false,none)],[⟨some l850SetSuccess,none⟩]) := by
  decide +kernel

end Mutation
end L850GL
