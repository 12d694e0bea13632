import L850GL.Advanced.Cooldown
import L850GL.Advanced.ExactlyOnce
import L850GL.Mutation.Cooldown
import L850GL.Reads.Spacing

/-! The band and mode changes, the lock operations and the reads of one bridge in any order, and
how long a record is left alone by them. -/
namespace L850GL
namespace Cooldown

open Cell Mutation

/-- One bridge: its records, table and clock as the last step left them, with every lock operation
in the order of admission. -/
structure World where
  bridge : Bridge
  advanced : Advanced.World
  mutations : List Mutation.State
  reads : Reads.World

def World.cooldown (w : World) (modem : ModemRef) : Int :=
  (w.bridge.modems modem).advancedCooldownUntil

def World.current (w : World) (report : Bridge) : Bridge :=
  let bridge := w.bridge.refresh report
  {bridge with modems := fun modem =>
    {bridge.modems modem with advancedCooldownUntil := w.cooldown modem}}

def World.advancedAt (w : World) (report : Bridge) : Advanced.World :=
  {w.advanced with bridge := w.current report}

def World.readsAt (w : World) (report : Bridge) : Reads.World :=
  {w.reads with bridge := w.current report}

/-- What runs next; a lock operation is named by its place. -/
inductive Event
  | advanced (event : Advanced.Event)
  | setCellLock (tables : Tables) (ubus : Ubus) (request : Option SetCellLockRequest)
  | clearCellLock (tables : Tables) (ubus : Ubus) (request : Option ClearCellLockRequest)
  | mutation (index : Nat) (event : Mutation.Event)
  | reads (event : Reads.Event)

def World.admitted (w : World) (bridge : Bridge) : Admission → World
  | .refused _ => {w with bridge := bridge}
  | .started s => {w with bridge := bridge.refresh s.bridge,mutations := w.mutations++[s]}

def serves (ubus : Ubus) : Bool :=
  ubus.connected && ubus.contextInitialized && !ubus.stopping

/-- An event runs at the time of its report, which is never before the last one. -/
def step (w : World) (input : Bridge × Event) : Option World :=
  let bridge := w.current input.1
  if input.1.now < w.bridge.now then none
  else match input.2 with
    | .advanced event =>
      (Advanced.step (w.advancedAt input.1) (event.withBridge bridge)).map
        fun advanced => {w with bridge := advanced.bridge,advanced := advanced}
    | .setCellLock tables ubus request =>
      if !serves ubus then none
      else some (w.admitted bridge (methodSetCellLock tables ubus bridge request))
    | .clearCellLock tables ubus request =>
      if !serves ubus then none
      else some (w.admitted bridge (methodClearCellLock tables ubus bridge request))
    | .mutation index event =>
      (w.mutations[index]?).bind fun s =>
        (Mutation.step s (event.withBridge bridge)).map fun t =>
          {w with bridge := bridge.refresh t.bridge,mutations := w.mutations.set index t}
    | .reads event =>
      (Reads.step (w.readsAt input.1) (event.withBridge bridge)).map
        fun reads => {w with bridge := reads.bridge,reads := reads}

/-- Nothing has run.  The monotonic clock counts from the boot on. -/
structure Initial (w : World) : Prop where
  now : 0 < w.bridge.now
  advanced : Advanced.Initial w.advanced
  mutations : w.mutations = []
  reads : Reads.Initial w.reads

def bridgeSystem : System World (Bridge × Event) := ⟨Initial,step⟩

/-- What every step keeps: the runs of the lock operations, the one cooldown of the band and mode
changes, and the times of the reads. -/
structure Inv (w : World) : Prop where
  mutations : ∀ s ∈ w.mutations,mutationSystem.Reachable s
  short : ∀ ref op,(w.advanced.slots ref).memory = some op →
    op.cooldownSeconds = Advanced.advancedShortCooldownSeconds
  fresh : ∀ ref : Advanced.OperationRef,w.advanced.next ≤ ref →
    (w.advanced.slots ref).memory = none
  stamped : Reads.Stamped {w.reads with bridge := w.bridge}

def shortCooldown : Int := (Advanced.advancedShortCooldownSeconds : Int)*Bridge.usec

def Event.isLockRequest : Event → Bool
  | .setCellLock _ _ _ | .clearCellLock _ _ _ => true
  | _ => false

def Event.isMutationRequest : Event → Bool
  | .advanced event => event.isRequest
  | event => event.isLockRequest

def Started (w w' : World) : Prop :=
  w'.advanced.next ≠ w.advanced.next ∨ w'.mutations.length ≠ w.mutations.length

/-- A band or mode change is admitted on the record that its request names. -/
structure AdmittedOn (w : World) (report : Bridge) (event : Advanced.Event) (w' : World)
    (modem : ModemRef) : Prop where
  named : ∃ modemId,event.requested = some modemId ∧
    (w.current report).l850glBridgeFindModem modemId = some modem
  ready : w.cooldown modem ≤ report.now
  held : ∀ op,(w'.advanced.slots w.advanced.next).memory = some op → op.modem = modem
  cooled : report.now+shortCooldown ≤ w'.cooldown modem

/-- Both records of a lock operation are left alone after its tuple. -/
def LeftAlone (w : World) (t : State) : Prop :=
  cooledUntil w.bridge ≤ w.cooldown t.operation.original ∧
    ∀ ref,t.operation.replacement = some ref → cooledUntil w.bridge ≤ w.cooldown ref

/-- One step keeps to the cooldowns. -/
structure Disciplined (w : World) (report : Bridge) (event : Event) (w' : World) : Prop where
  now : w'.bridge.now = report.now
  monotone : ∀ modem,w.cooldown modem ≤ w'.cooldown modem
  refused : event.isMutationRequest = true → ¬ Started w w' → w'.cooldown = w.cooldown
  changed : w'.advanced.next ≠ w.advanced.next →
    ∃ advanced modem,event = .advanced advanced ∧ AdmittedOn w report advanced w' modem
  locked : w'.mutations.length ≠ w.mutations.length →
    ∃ s,w'.mutations = w.mutations++[s] ∧ s.released = false ∧
      w.cooldown s.operation.original ≤ report.now
  freed : ∀ ref op,(w.advanced.slots ref).memory = some op →
    (w'.advanced.slots ref).memory = none → report.now+shortCooldown ≤ w'.cooldown op.modem
  released : ∀ (index : Nat) (s t : State),w.mutations[index]? = some s →
    w'.mutations[index]? = some t → s.released = false → t.released = true →
    t.operation.setDispatched = true ∨ Dispatched s → LeftAlone w' t
  spaced : Justified Reads.Spaced w'.reads.trace
  window : ∀ read,event = .reads read → read.isRequest = true →
    w'.reads.records.completedAt = w.reads.records.completedAt

/-- What a step can be. -/
inductive Steps (w : World) (report : Bridge) (w' : World) : Event → Prop
  | advanced {event : Advanced.Event} {advanced : Advanced.World}
      (hs : Advanced.step (w.advancedAt report) (event.withBridge (w.current report)) =
        some advanced)
      (h : w' = {w with bridge := advanced.bridge,advanced := advanced}) :
      Steps w report w' (.advanced event)
  | refused {event : Event} (hlock : event.isLockRequest = true)
      (h : w' = {w with bridge := w.current report}) : Steps w report w' event
  | started {event : Event} {s : State} (hlock : event.isLockRequest = true)
      (hadmits : Admits (w.current report) s) (hreach : mutationSystem.Reachable s)
      (h : w' = {w with
        bridge := (w.current report).refresh s.bridge,mutations := w.mutations++[s]}) :
      Steps w report w' event
  | mutation {index : Nat} {event : Mutation.Event} {s t : State}
      (hget : w.mutations[index]? = some s)
      (hs : Mutation.step s (event.withBridge (w.current report)) = some t)
      (h : w' = {w with
        bridge := (w.current report).refresh t.bridge,mutations := w.mutations.set index t}) :
      Steps w report w' (.mutation index event)
  | reads {event : Reads.Event} {reads : Reads.World}
      (hs : Reads.step (w.readsAt report) (event.withBridge (w.current report)) = some reads)
      (h : w' = {w with bridge := reads.bridge,reads := reads}) :
      Steps w report w' (.reads event)

variable {w w' : World} {report : Bridge} {event : Event}

theorem serving_of_serves {ubus : Ubus} (h : ¬ (!serves ubus) = true) :
    Mutation.Ubus.serving ubus := by
  simpa [serves,Mutation.Ubus.serving,and_assoc] using h

/-- The lock requests, each with the two ways it can come out. -/
theorem Steps.admitted {admission : Admission} (hlock : event.isLockRequest = true)
    (h : w' = w.admitted (w.current report) admission)
    (hstarted : ∀ s,admission = .started s →
      Admits (w.current report) s ∧ mutationSystem.Reachable s) : Steps w report w' event := by
  cases admission with
  | refused body => exact .refused hlock h
  | started s =>
    obtain ⟨hadmits,hreach⟩ := hstarted s rfl
    exact .started hlock hadmits hreach h

theorem step_cases (hs : step w (report,event) = some w') :
    w.bridge.now ≤ report.now ∧ Steps w report w' event := by
  simp only [step,Option.ite_none_left_eq_some,Int.not_lt] at hs
  obtain ⟨hnow,hs⟩ := hs
  refine ⟨hnow,?_⟩
  cases event with
  | advanced event =>
    obtain ⟨advanced,hs,h⟩ := Option.map_eq_some_iff.mp hs
    exact .advanced hs h.symm
  | setCellLock tables ubus request =>
    simp only [Option.ite_none_left_eq_some,Option.some.injEq] at hs
    obtain ⟨hserves,h⟩ := hs
    exact .admitted rfl h.symm fun s hs => ⟨methodSetCellLock_admits hs,
      .start ⟨_,_,_,serving_of_serves hserves,.inl ⟨_,hs⟩⟩⟩
  | clearCellLock tables ubus request =>
    simp only [Option.ite_none_left_eq_some,Option.some.injEq] at hs
    obtain ⟨hserves,h⟩ := hs
    exact .admitted rfl h.symm fun s hs => ⟨methodClearCellLock_admits hs,
      .start ⟨_,_,_,serving_of_serves hserves,.inr ⟨_,hs⟩⟩⟩
  | mutation index event =>
    obtain ⟨s,hget,hs⟩ := Option.bind_eq_some_iff.mp hs
    obtain ⟨t,hs,h⟩ := Option.map_eq_some_iff.mp hs
    exact .mutation hget hs h.symm
  | reads event =>
    obtain ⟨reads,hs,h⟩ := Option.map_eq_some_iff.mp hs
    exact .reads hs h.symm

theorem cooldown_of_advancedRetryAfterMs {bridge : Bridge} {modem : ModemRef}
    (hnow : 0 ≤ bridge.now) (h : advancedRetryAfterMs bridge modem = 0) :
    (bridge.modems modem).advancedCooldownUntil ≤ bridge.now := by
  have hmax : uint32Max = 4294967295 := rfl
  rw [advancedRetryAfterMs,cooldownRemainingMs] at h
  split at h
  · omega
  · omega

theorem advanced_cools {event : Advanced.Event} {advanced : Advanced.World}
    (hs : Advanced.step (w.advancedAt report) (event.withBridge (w.current report)) =
      some advanced) :
    Advanced.Cools (w.advancedAt report) advanced ∨ ∃ modemId,event.requested = some modemId ∧
      Advanced.Admits (w.advancedAt report) advanced modemId :=
  Advanced.step_cools (w:=w.advancedAt report) hs

theorem advanced_requests {event : Advanced.Event} {advanced : Advanced.World}
    (hs : Advanced.step (w.advancedAt report) (event.withBridge (w.current report)) =
      some advanced) (hrequest : event.isRequest = true) :
    Advanced.Requests (w.advancedAt report) advanced event.requested :=
  Advanced.step_requests (w:=w.advancedAt report) hs hrequest

theorem reads_bridge {event : Reads.Event} {reads : Reads.World}
    (hs : Reads.step (w.readsAt report) (event.withBridge (w.current report)) = some reads) :
    reads.bridge = w.current report := by
  have hbridge := (Reads.step_writes hs).2
  rw [Reads.Event.withBridge_bridge] at hbridge
  exact hbridge

/-- A step leaves no cooldown shorter than it found it. -/
theorem Steps.extends (h : Steps w report w' event) (hw : Inv w) :
    Bridge.Extends (w.current report) w'.bridge := by
  cases h with
  | advanced hs h =>
    subst h
    rcases advanced_cools hs with hcools | ⟨modemId,-,hadmits⟩
    · exact hcools.toExtends
    · exact hadmits.bridge
  | refused hlock h =>
    subst h
    exact .refl _
  | started hlock hadmits hreach h =>
    subst h
    exact ⟨hadmits.now,hadmits.cooldown⟩
  | mutation hget hs h =>
    subst h
    have hspares := step_spares (hw.mutations _ (List.mem_of_getElem? hget)) hs
    rw [Mutation.Event.withBridge_bridge] at hspares
    exact ⟨hspares.now,hspares.cooldown⟩
  | reads hs h =>
    subst h
    dsimp only
    rw [reads_bridge hs]
    exact .refl _

theorem Steps.short (h : Steps w report w' event) (hw : Inv w) (ref : Advanced.OperationRef)
    (op : Advanced.AdvancedOperation) (hmemory : (w'.advanced.slots ref).memory = some op) :
    op.cooldownSeconds = Advanced.advancedShortCooldownSeconds := by
  cases h with
  | @advanced _ advanced hs h =>
    subst h
    have hold : ∀ {bridge : Bridge},
        Advanced.Fate bridge (w.advanced.slots ref).memory (advanced.slots ref).memory →
        op.cooldownSeconds = Advanced.advancedShortCooldownSeconds := by
      intro bridge hfate
      dsimp only at hmemory
      rw [hmemory] at hfate
      generalize hbefore : (w.advanced.slots ref).memory = before at hfate
      cases hfate with
      | live hmodem hseconds =>
        rw [hseconds]
        exact hw.short ref _ hbefore
    rcases advanced_cools hs with hcools | ⟨modemId,-,hadmits⟩
    · exact hold (hcools.fate ref)
    · by_cases hnew : ref = (w.advancedAt report).next
      · obtain ⟨modem,-,-,-,hheld⟩ := hadmits.admitted
        exact (hheld op (hnew ▸ hmemory)).2
      · exact hold (hadmits.fate ref hnew)
  | refused hlock h =>
    subst h
    exact hw.short ref op hmemory
  | started hlock hadmits hreach h =>
    subst h
    exact hw.short ref op hmemory
  | mutation hget hs h =>
    subst h
    exact hw.short ref op hmemory
  | reads hs h =>
    subst h
    exact hw.short ref op hmemory

theorem Steps.fresh (h : Steps w report w' event) (hw : Inv w) (ref : Advanced.OperationRef)
    (hnext : w'.advanced.next ≤ ref) : (w'.advanced.slots ref).memory = none := by
  cases h with
  | @advanced _ advanced hs h =>
    subst h
    have hold : ∀ {bridge : Bridge},w.advanced.next ≤ ref →
        Advanced.Fate bridge (w.advanced.slots ref).memory (advanced.slots ref).memory →
        (advanced.slots ref).memory = none := by
      intro bridge hold hfate
      rw [hw.fresh ref hold] at hfate
      generalize (advanced.slots ref).memory = after at hfate
      cases hfate with
      | none => rfl
    rcases advanced_cools hs with hcools | ⟨modemId,-,hadmits⟩
    · exact hold (Nat.le_trans (Nat.le_of_eq hcools.next.symm) hnext) (hcools.fate ref)
    · have hafter : w.advanced.next < ref := Nat.lt_of_lt_of_le
        (Nat.lt_of_lt_of_le (Nat.lt_succ_self w.advanced.next)
          (Nat.le_of_eq hadmits.next.symm)) hnext
      exact hold (Nat.le_of_lt hafter) (hadmits.fate ref (Nat.ne_of_gt hafter))
  | refused hlock h =>
    subst h
    exact hw.fresh ref hnext
  | started hlock hadmits hreach h =>
    subst h
    exact hw.fresh ref hnext
  | mutation hget hs h =>
    subst h
    exact hw.fresh ref hnext
  | reads hs h =>
    subst h
    exact hw.fresh ref hnext

theorem Steps.inv (h : Steps w report w' event) (hnow : w.bridge.now ≤ report.now) (hw : Inv w) :
    Inv w' := by
  have hlater : w.bridge.now ≤ w'.bridge.now := by
    rw [(h.extends hw).now]
    exact hnow
  have hshort := h.short hw
  have hfresh := h.fresh hw
  cases h with
  | advanced hs h =>
    subst h
    exact ⟨hw.mutations,hshort,hfresh,hw.stamped.later hlater⟩
  | refused hlock h =>
    subst h
    exact ⟨hw.mutations,hshort,hfresh,hw.stamped.later hlater⟩
  | started hlock hadmits hreach h =>
    subst h
    refine ⟨fun s hm => ?_,hshort,hfresh,hw.stamped.later hlater⟩
    rcases List.mem_append.mp hm with hm | hm
    · exact hw.mutations s hm
    · rwa [List.mem_singleton.mp hm]
  | mutation hget hs h =>
    subst h
    refine ⟨fun s hm => ?_,hshort,hfresh,hw.stamped.later hlater⟩
    rcases List.mem_or_eq_of_mem_set hm with hm | rfl
    · exact hw.mutations s hm
    · exact .step (hw.mutations _ (List.mem_of_getElem? hget)) trivial hs
  | reads hs h =>
    subst h
    refine ⟨hw.mutations,hshort,hfresh,?_⟩
    apply Reads.step_stamped (w:=w.readsAt report) (hw.stamped.later hnow) _ hs
    rw [Reads.Event.withBridge_bridge]
    exact Int.le_refl _

theorem reachable_inv (h : bridgeSystem.Reachable w) : Inv w := by
  refine h.invariant (P:=Inv) (fun w hstart => ?_) fun w input w' hw hs => ?_
  · refine ⟨by simp [hstart.mutations],fun ref op hmemory => ?_,fun ref _ => ?_,?_⟩
    · rw [hstart.advanced.1] at hmemory
      cases hmemory
    · rw [hstart.advanced.1]
      rfl
    · exact Reads.initial_stamped ⟨hstart.reads.slots,hstart.reads.next,hstart.reads.operations,
        hstart.reads.records,hstart.reads.ubus,hstart.reads.trace⟩ hstart.now
  · obtain ⟨hnow,hsteps⟩ := @step_cases w w' input.1 input.2 hs
    exact hsteps.inv hnow hw

theorem Steps.freed (h : Steps w report w' event) (hw : Inv w) {ref : Advanced.OperationRef}
    {op : Advanced.AdvancedOperation} (hmemory : (w.advanced.slots ref).memory = some op)
    (hgone : (w'.advanced.slots ref).memory = none) :
    report.now+shortCooldown ≤ w'.cooldown op.modem := by
  have hsame : w'.advanced = w.advanced → report.now+shortCooldown ≤ w'.cooldown op.modem := by
    intro hsame
    rw [hsame,hmemory] at hgone
    cases hgone
  cases h with
  | @advanced _ advanced hs h =>
    subst h
    have hfreed : advanced.bridge.now = report.now → Advanced.Fate advanced.bridge
        (w.advanced.slots ref).memory (advanced.slots ref).memory →
        report.now+shortCooldown ≤ (advanced.bridge.modems op.modem).advancedCooldownUntil := by
      intro hnow hfate
      dsimp only at hgone
      rw [hmemory,hgone] at hfate
      cases hfate with
      | freed hcooled => rwa [Advanced.Cooled,hnow,hw.short ref op hmemory] at hcooled
    rcases advanced_cools hs with hcools | ⟨modemId,-,hadmits⟩
    · exact hfreed hcools.now (hcools.fate ref)
    · by_cases hnew : ref = (w.advancedAt report).next
      · rw [hw.fresh ref (Nat.le_of_eq hnew.symm)] at hmemory
        cases hmemory
      · exact hfreed hadmits.bridge.now (hadmits.fate ref hnew)
  | refused hlock h =>
    subst h
    exact hsame rfl
  | started hlock hadmits hreach h =>
    subst h
    exact hsame rfl
  | mutation hget hs h =>
    subst h
    exact hsame rfl
  | reads hs h =>
    subst h
    exact hsame rfl

theorem Steps.released (h : Steps w report w' event) (hw : Inv w) {index : Nat} {s t : State}
    (hs : w.mutations[index]? = some s) (ht : w'.mutations[index]? = some t)
    (hlive : s.released = false) (hfreed : t.released = true)
    (hdispatched : t.operation.setDispatched = true ∨ Dispatched s) : LeftAlone w' t := by
  have hsame : w'.mutations[index]? = w.mutations[index]? → LeftAlone w' t := by
    intro hsame
    rw [hsame,hs] at ht
    cases ht
    rw [hlive] at hfreed
    cases hfreed
  cases h with
  | advanced _ h =>
    subst h
    exact hsame rfl
  | refused _ h =>
    subst h
    exact hsame rfl
  | started _ _ _ h =>
    subst h
    exact hsame (List.getElem?_append_left (List.getElem?_eq_some_iff.mp hs).1)
  | @mutation index' event s' t' hget hstep h =>
    subst h
    by_cases hi : index' = index
    · subst hi
      obtain rfl := Option.some.inj (hget.symm.trans hs)
      dsimp only at ht
      rw [List.getElem?_set_self (List.getElem?_eq_some_iff.mp hs).1] at ht
      obtain rfl := Option.some.inj ht
      have hcooled := (step_spares (hw.mutations _ (List.mem_of_getElem? hget)) hstep).freed
        hlive hfreed hdispatched
      exact ⟨hcooled.original,hcooled.replacement⟩
    · exact hsame (List.getElem?_set_ne hi)
  | reads _ h =>
    subst h
    exact hsame rfl

theorem Steps.changed (h : Steps w report w' event) (hw : Inv w) (hnow : w.bridge.now ≤ report.now)
    (hnext : w'.advanced.next ≠ w.advanced.next) :
    ∃ advanced modem,event = .advanced advanced ∧ AdmittedOn w report advanced w' modem := by
  cases h with
  | @advanced event advanced hs h =>
    subst h
    rcases advanced_cools hs with hcools | ⟨modemId,hrequested,hadmits⟩
    · exact absurd hcools.next hnext
    · obtain ⟨modem,hfound,hready,hcooled,hheld⟩ := hadmits.admitted
      refine ⟨event,modem,rfl,⟨modemId,hrequested,hfound⟩,?_,fun op hop => (hheld op hop).1,hcooled⟩
      exact @cooldown_of_advancedRetryAfterMs (w.current report) modem
        (Int.le_trans (Int.le_of_lt hw.stamped.now) hnow) hready
  | refused _ h =>
    subst h
    exact absurd rfl hnext
  | started _ _ _ h =>
    subst h
    exact absurd rfl hnext
  | mutation _ _ h =>
    subst h
    exact absurd rfl hnext
  | reads _ h =>
    subst h
    exact absurd rfl hnext

theorem Steps.locked (h : Steps w report w' event) (hw : Inv w) (hnow : w.bridge.now ≤ report.now)
    (hlength : w'.mutations.length ≠ w.mutations.length) :
    ∃ s,w'.mutations = w.mutations++[s] ∧ s.released = false ∧
      w.cooldown s.operation.original ≤ report.now := by
  cases h with
  | advanced _ h =>
    subst h
    exact absurd rfl hlength
  | refused _ h =>
    subst h
    exact absurd rfl hlength
  | started _ hadmits _ h =>
    subst h
    refine ⟨_,rfl,hadmits.live,?_⟩
    exact @cooldown_of_advancedRetryAfterMs (w.current report) _
      (Int.le_trans (Int.le_of_lt hw.stamped.now) hnow) hadmits.ready
  | mutation _ _ h =>
    subst h
    exact absurd (List.length_set ..) hlength
  | reads _ h =>
    subst h
    exact absurd rfl hlength

theorem Steps.refused_same (h : Steps w report w' event) (hrequest : event.isMutationRequest = true)
    (hrefused : ¬ Started w w') : w'.cooldown = w.cooldown := by
  cases h with
  | advanced hs h =>
    subst h
    rcases advanced_requests hs hrequest with rfl | ⟨modemId,-,hadmits⟩
    · rfl
    · refine absurd (.inl ?_) hrefused
      dsimp only
      rw [hadmits.next]
      exact Nat.succ_ne_self w.advanced.next
  | refused _ h =>
    subst h
    rfl
  | started _ _ _ h =>
    subst h
    exact absurd (.inr (by simp)) hrefused
  | mutation _ _ _ => cases hrequest
  | reads _ _ => cases hrequest

/-- The cooldowns of a bridge in every run: none ever becomes shorter, no change of the bands, the
modes or the lock is admitted on a record before it is over, and each of them leaves its own. -/
theorem cooldown_disciplined (h : bridgeSystem.Reachable w) :
    (∀ steps w',bridgeSystem.Path w steps w' → ∀ modem,w.cooldown modem ≤ w'.cooldown modem) ∧
      ∀ report event w',step w (report,event) = some w' → Disciplined w report event w' := by
  have hstep : ∀ {w report event w'},Inv w → step w (report,event) = some w' →
      Disciplined w report event w' := by
    intro w report event w' hw hs
    obtain ⟨hnow,hsteps⟩ := step_cases hs
    have hextends := hsteps.extends hw
    refine ⟨hextends.now,hextends.cooldown,hsteps.refused_same,hsteps.changed hw hnow,
      hsteps.locked hw hnow,fun _ _ => hsteps.freed hw,fun _ _ _ => hsteps.released hw,
      (hsteps.inv hnow hw).stamped.spaced,?_⟩
    rintro read rfl hrequest
    cases hsteps with
    | reads hread h =>
      subst h
      refine Reads.step_request (w:=w.readsAt report) hread ?_
      cases read with
      | cellLockStatus | cellScan | getCarrierInfo => rfl
      | _ => cases hrequest
    | refused hlock h => cases hlock
    | started hlock _ _ h => cases hlock
  refine ⟨fun steps w' hpath modem => ?_,fun report event w' => hstep (reachable_inv h)⟩
  refine hpath.invariant (P:=fun w' => w.cooldown modem ≤ w'.cooldown modem) h (by simp)
    (Int.le_refl _) fun w₁ input w₂ hreach hle _ hs => ?_
  exact Int.le_trans hle ((@hstep w₁ input.1 input.2 w₂ (reachable_inv hreach) hs).monotone modem)

def sampleWorld : World where
  bridge := sampleBridge false
  advanced := Advanced.sampleWorld
  mutations := []
  reads := {
    slots := fun _ => Reads.Slot.empty
    next := 0
    operations := fun _ => []
    records := ⟨fun _ => 0,fun _ => 0,fun _ =>
      ⟨false,0,0,0,0,.finite 0,.finite 0,false,false,0,""⟩⟩
    ubus := sampleUbus
    bridge := sampleBridge false
    trace := [] }

/-- A mode change is admitted, and its record is left alone for ten seconds. -/
def sampleChange : Event :=
  .advanced (.setModes ⟨[],[],[]⟩ (some Advanced.sampleModesRequest) .ok (sampleBridge false))

theorem sampleChange_cooldown :
    (step sampleWorld (sampleBridge false,sampleChange)).map (fun w => w.cooldown 0) =
      some 11000000 := by
  decide +kernel

theorem cooldown_disciplined_sample : ∃ w',
    step sampleWorld (sampleBridge false,sampleChange) = some w' ∧ w'.cooldown 0 = 11000000 ∧
      Disciplined sampleWorld (sampleBridge false) sampleChange w' := by
  obtain ⟨w',hw',hcooldown⟩ := Option.map_eq_some_iff.mp sampleChange_cooldown
  have hstart : bridgeSystem.start sampleWorld :=
    ⟨by decide,⟨rfl,rfl,rfl,rfl,fun _ => ⟨rfl,rfl⟩⟩,rfl,
      ⟨rfl,rfl,rfl,fun _ => ⟨rfl,rfl⟩,fun _ => ⟨rfl,rfl⟩,rfl⟩⟩
  exact ⟨w',hw',hcooldown,(cooldown_disciplined (.start hstart)).2 _ _ _ hw'⟩

end Cooldown
end L850GL
