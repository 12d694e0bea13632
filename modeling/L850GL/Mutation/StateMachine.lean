import L850GL.Mutation.Run

/-! The declared states of a cell lock and their transitions, and how the phases of a lock
operation map to them: what every callback does to the phase, to the flags of a failure reply and
to the records. -/
namespace L850GL
namespace Mutation

open Cell Errors MutationPolicy State

inductive L850State
  | available | unsupportedBuild | unsupportedProtocol | scanReady | lockAppliedResetRequired
  | resetting | appliedVerified | clearedVerified | reprobeTimeout | registrationTimeout
  | verificationMismatch | outcomeUnknown
  deriving DecidableEq,Repr

def l850glL850StateName : L850State → String
  | .available => "available"
  | .unsupportedBuild => "unsupported_build"
  | .unsupportedProtocol => "unsupported_protocol"
  | .scanReady => "scan_ready"
  | .lockAppliedResetRequired => "lock_applied_reset_required"
  | .resetting => "resetting"
  | .appliedVerified => "applied_verified"
  | .clearedVerified => "cleared_verified"
  | .reprobeTimeout => "reprobe_timeout"
  | .registrationTimeout => "registration_timeout"
  | .verificationMismatch => "verification_mismatch"
  | .outcomeUnknown => "outcome_unknown"

def l850glL850StateTransitionIsValid (old new : L850State) : Bool :=
  match old with
  | .available => new == .scanReady
  | .scanReady => new == .lockAppliedResetRequired || new == .outcomeUnknown
  | .lockAppliedResetRequired => new == .resetting || new == .outcomeUnknown
  | .resetting => new == .appliedVerified || new == .clearedVerified || new == .reprobeTimeout ||
      new == .registrationTimeout || new == .verificationMismatch || new == .outcomeUnknown
  | _ => false

/-- The declared state an operation is in. -/
def declaredState : L850MutationPhase → L850State
  | .protocolProbe | .setCommand => .scanReady
  | .preResetNvmVerify | .resetCommand => .lockAppliedResetRequired
  | .reprobe | .registration | .nvmVerify | .cellVerify => .resetting

def Follows (old new : L850State) : Prop :=
  new = old ∨ l850glL850StateTransitionIsValid old new = true

instance (old new : L850State) : Decidable (Follows old new) := inferInstanceAs (Decidable (_ ∨ _))

/-- The NVM verification window a phase is. -/
def phaseWindow : L850MutationPhase → Option NvmVerifyStage
  | .preResetNvmVerify => some .preReset
  | .nvmVerify => some .postReset
  | _ => none

/-- The phases after the acknowledgement of the tuple. -/
def L850MutationPhase.acknowledged : L850MutationPhase → Bool
  | .protocolProbe | .setCommand => false
  | _ => true

/-- The flags of a failure reply go with the phase. -/
structure Flagged (op : L850MutationOperation) : Prop where
  acknowledged : op.configurationAcknowledged = op.phase.acknowledged
  stage : op.verificationStage = (phaseWindow op.phase).map nvmVerifyStageName
  dispatched : op.phase ≠ .protocolProbe → op.setDispatched = true

/-- A record that an operation has written: the same modem, with no shorter cooldown. -/
structure SameModem (m m' : Modem) : Prop where
  modem : m'.modem = m.modem
  generation : m'.generation = m.generation
  cooldown : m.advancedCooldownUntil ≤ m'.advancedCooldownUntil

/-- The time until which a record is left alone after a tuple. -/
def cooledUntil (bridge : Bridge) : Int :=
  bridge.now+(l850PostMutationCooldownSeconds : Int)*Bridge.usec

/-- Both records of an operation are left alone. -/
structure Cooled (s : State) : Prop where
  original : cooledUntil s.bridge ≤ (s.modem s.operation.original).advancedCooldownUntil
  replacement : ∀ ref, s.operation.replacement = some ref →
    cooledUntil s.bridge ≤ (s.modem ref).advancedCooldownUntil

/-- A reply tells a state that follows the one of the phase; before the acknowledgement it may
tell another one. -/
def Reports (s : State) (body : Reply) : Prop :=
  ∃ name, body.lookup "state" = some (.text name) ∧
    (s.operation.lock.Acknowledged s.trace → ∃ state, name = l850glL850StateName state ∧
      Follows (declaredState s.operation.phase) state)

/-- A failure reply carries the flags. -/
def CarriesFlags (s : State) (body : Reply) : Prop :=
  body.lookup "ok" = some (.u8 false) →
    body.lookup "configuration_acknowledged" =
      some (.u8 s.operation.phase.acknowledged) ∧
    body.lookup "verification_stage" =
      (phaseWindow s.operation.phase).map fun stage => .text (nvmVerifyStageName stage)

/-- What a callback keeps. -/
structure Kept (s s' : State) : Prop where
  lock : s'.operation.lock = s.operation.lock
  now : s'.bridge.now = s.bridge.now
  modems : ∀ ref, SameModem (s.modem ref) (s'.modem ref)
  calls : ∀ call ∈ s'.calls, call ∈ s.calls ∨ call.source = (s.modem call.target).modem

/-- Neither a reply nor the end of a command. -/
def Silent : Observation → Prop
  | .reply _ _ | .finished _ _ _ => False
  | _ => True

/-- The operation goes on. -/
structure Continues (s s' : State) : Prop extends Kept s s' where
  live : s'.released = s.released
  follows : Follows (declaredState s.operation.phase) (declaredState s'.operation.phase)
  flagged : Flagged s'.operation
  trace : ∃ new, s'.trace = new++s.trace ∧ ∀ o ∈ new, Silent o

/-- The operation ends, with a reply unless the request is gone. -/
structure Ends (s s' : State) : Prop extends Kept s s' where
  released : s'.released = true
  phase : s'.operation.phase = s.operation.phase
  acknowledged : s'.operation.configurationAcknowledged = s.operation.configurationAcknowledged
  dispatched : s'.operation.setDispatched = s.operation.setDispatched
  cooled : s'.operation.setDispatched = true → Cooled s'
  trace : ∃ new, s'.trace = new++s.trace ∧ ∀ o ∈ new, Silent o ∨
    ∃ connection body, o = .reply connection body ∧ Reports s body ∧ CarriesFlags s body

def Moves (s s' : State) : Prop := Continues s s' ∨ Ends s s'

variable {s s' t : State}

theorem SameModem.refl (m : Modem) : SameModem m m := ⟨rfl,rfl,Int.le_refl _⟩

theorem SameModem.trans {m m' m'' : Modem} (h : SameModem m m') (h' : SameModem m' m'') :
    SameModem m m'' :=
  ⟨h'.modem.trans h.modem,h'.generation.trans h.generation,Int.le_trans h.cooldown h'.cooldown⟩

theorem updateModem_same {bridge : Bridge} {ref : ModemRef} {modem : Modem}
    (h : SameModem (bridge.modems ref) modem) (other : ModemRef) :
    SameModem (bridge.modems other) ((bridge.updateModem ref modem).modems other) := by
  by_cases ho : other = ref
  · subst ho
    rwa [Bridge.updateModem_self]
  · rw [Bridge.updateModem_other bridge modem ho]
    exact .refl _

theorem applyCooldown_same (now : Int) (m : Modem) :
    SameModem m (l850MutationApplyCooldown now m) :=
  ⟨rfl,rfl,Int.le_max_left _ _⟩

theorem clearedModem_same (m : Modem) :
    SameModem m (if m.mutationKind = .l850 then m.clearMutation else m) := by
  split
  · exact ⟨rfl,rfl,Int.le_refl _⟩
  · exact .refl m

theorem releaseModem_same (bridge : Bridge) (ref : Option ModemRef) (applyCooldown : Bool)
    (other : ModemRef) : SameModem (bridge.modems other)
      ((l850MutationReleaseModem bridge ref applyCooldown).modems other) := by
  cases ref with
  | none => exact .refl _
  | some ref =>
    apply updateModem_same
    cases applyCooldown with
    | false => exact clearedModem_same _
    | true => exact (applyCooldown_same bridge.now _).trans (clearedModem_same _)

theorem releaseModem_now (bridge : Bridge) (ref : Option ModemRef) (applyCooldown : Bool) :
    (l850MutationReleaseModem bridge ref applyCooldown).now = bridge.now := by
  cases ref <;> rfl

theorem releaseModem_cooled (bridge : Bridge) (ref : ModemRef) :
    cooledUntil bridge ≤
      ((l850MutationReleaseModem bridge (some ref) true).modems ref).advancedCooldownUntil := by
  simp only [l850MutationReleaseModem,Bridge.updateModem_self,if_true]
  split
  · exact Int.le_max_right _ _
  · exact Int.le_max_right _ _

/-- Freeing an operation: its two records are released, and nothing else happens to them. -/
theorem operationFree_records (s : State) :
    (l850MutationOperationFree s).bridge.now = s.bridge.now ∧
      (∀ ref, SameModem (s.modem ref) ((l850MutationOperationFree s).modem ref)) ∧
      (s.operation.setDispatched = true → Cooled (l850MutationOperationFree s)) := by
  have hbridge : (l850MutationOperationFree s).bridge =
      (let bridge := l850MutationReleaseModem s.bridge s.operation.replacement
          s.operation.setDispatched
        if some s.operation.original ≠ s.operation.replacement then
          l850MutationReleaseModem bridge (some s.operation.original) s.operation.setDispatched
        else bridge) := by
    have hsources : ∀ (c : Prop) [Decidable c] (t : State) (id : Nat),
        (if c then t.gSourceRemove id else t).bridge = t.bridge := by
      intro c _ t id
      split <;> rfl
    simp only [l850MutationOperationFree,hsources]
  have hop : (l850MutationOperationFree s).operation = s.operation := by
    unfold l850MutationOperationFree
    dsimp only
    split <;> split <;> rfl
  have hfirst := releaseModem_same s.bridge s.operation.replacement s.operation.setDispatched
  have hnow := releaseModem_now s.bridge s.operation.replacement s.operation.setDispatched
  refine ⟨?_,fun ref => ?_,fun hdispatched => ?_⟩
  · rw [hbridge]
    dsimp only
    split
    · rw [releaseModem_now,hnow]
    · exact hnow
  · simp only [State.modem,hbridge]
    split
    · exact (hfirst ref).trans (releaseModem_same _ _ _ ref)
    · exact hfirst ref
  · have hreplacement : ∀ ref, s.operation.replacement = some ref → cooledUntil s.bridge ≤
        ((l850MutationReleaseModem s.bridge s.operation.replacement
          s.operation.setDispatched).modems ref).advancedCooldownUntil := by
      intro ref href
      rw [href,hdispatched]
      exact releaseModem_cooled s.bridge ref
    have hcooled : cooledUntil (l850MutationReleaseModem s.bridge s.operation.replacement
        s.operation.setDispatched) = cooledUntil s.bridge := by
      rw [cooledUntil,hnow,cooledUntil]
    constructor
    · simp only [hop,State.modem,hbridge]
      split
      · rw [cooledUntil,releaseModem_now,← cooledUntil,hdispatched]
        exact releaseModem_cooled _ _
      · rename_i hsame
        rw [hcooled]
        exact hreplacement _ (not_not.mp hsame).symm
    · intro ref href
      simp only [hop] at href
      simp only [State.modem,hbridge]
      split
      · rw [cooledUntil,releaseModem_now,← cooledUntil,hcooled]
        exact Int.le_trans (hreplacement ref href) (releaseModem_same _ _ _ ref).cooldown
      · rw [hcooled]
        exact hreplacement ref href

theorem completeBuffer_operation (s : State) (body : Reply) :
    (l850MutationCompleteBuffer s body).operation = {s.operation with deferred := false} := by
  unfold l850MutationCompleteBuffer l850MutationOperationFree
  split <;> (dsimp only; split <;> split <;> rfl)

/-- Every completion ends the operation. -/
theorem completeBuffer_ends {o : Observation} {body : Reply} (h : Kept s t)
    (htrace : t.trace = o::s.trace) (ho : Silent o)
    (hphase : t.operation.phase = s.operation.phase)
    (hack : t.operation.configurationAcknowledged = s.operation.configurationAcknowledged)
    (hdispatched : t.operation.setDispatched = s.operation.setDispatched)
    (hreports : Reports s body) (hflags : CarriesFlags s body) :
    Ends s (l850MutationCompleteBuffer t body) := by
  have hrecords : (l850MutationCompleteBuffer t body).bridge.now = t.bridge.now ∧
      (∀ ref, SameModem (t.modem ref) ((l850MutationCompleteBuffer t body).modem ref)) ∧
      (t.operation.setDispatched = true → Cooled (l850MutationCompleteBuffer t body)) := by
    unfold l850MutationCompleteBuffer
    split
    · exact operationFree_records _
    · exact operationFree_records _
  have hop := completeBuffer_operation t body
  constructor
  · constructor
    · rw [completeBuffer_lock]
      exact h.lock
    · exact hrecords.1.trans h.now
    · exact fun ref => (h.modems ref).trans (hrecords.2.1 ref)
    · rw [completeBuffer_calls]
      exact h.calls
  · rfl
  · rw [hop]
    exact hphase
  · rw [hop]
    exact hack
  · rw [hop]
    exact hdispatched
  · rw [hop]
    exact hrecords.2.2
  · rw [completeBuffer_trace,htrace]
    refine ⟨_,(List.append_assoc (_::_) [o] s.trace).symm,fun other hm => ?_⟩
    simp only [List.cons_append,List.mem_cons,List.mem_append,List.not_mem_nil,or_false] at hm
    rcases hm with rfl | hm | rfl
    · exact .inl trivial
    · split at hm
      · rw [List.mem_singleton.mp hm]
        exact .inr ⟨_,_,rfl,hreports,hflags⟩
      · cases hm
    · exact .inl ho

/-- What a failure reply is made from. -/
def L850MutationOperation.shown (op : L850MutationOperation) :=
  (op.lock,op.phase,op.configurationAcknowledged,op.verificationStage,op.setDispatched)

theorem Kept.withOperation {op : L850MutationOperation} (h : op.lock = s.operation.lock) :
    Kept s {s with operation := op} :=
  ⟨h,rfl,fun _ => .refl _,fun _ => .inl⟩

theorem failureBody_lookup (s : State) (state code : String) (retryable : Bool) :
    (failureBody s state code retryable).lookup "state" = some (.text state) ∧
      (failureBody s state code retryable).lookup "configuration_acknowledged" =
        some (.u8 s.operation.configurationAcknowledged) ∧
      (failureBody s state code retryable).lookup "verification_stage" =
        s.operation.verificationStage.map Blob.text := by
  simp only [failureBody]
  cases s.operation.replacement with
  | none =>
    cases s.operation.verificationStage with
    | none => exact ⟨rfl,rfl,rfl⟩
    | some stage => exact ⟨rfl,rfl,rfl⟩
  | some ref =>
    cases s.operation.verificationStage with
    | none => exact ⟨rfl,rfl,rfl⟩
    | some stage => exact ⟨rfl,rfl,rfl⟩

/-- A failure that tells a state of the table, or comes before the acknowledgement. -/
theorem Ends.fail {op : L850MutationOperation} (hs : Flagged s.operation)
    (hop : op.shown = s.operation.shown) {state : String} (code : String) (retryable : Bool)
    (hstate : s.operation.lock.Acknowledged s.trace → ∃ declared,
      state = l850glL850StateName declared ∧
        Follows (declaredState s.operation.phase) declared) :
    Ends s (l850MutationCompleteFailure {s with operation := op} state code retryable) := by
  simp only [L850MutationOperation.shown,Prod.mk.injEq] at hop
  obtain ⟨hlock,hphase,hack,hstage,hdispatched⟩ := hop
  have hbody := failureBody_lookup (({s with operation := op} : State).observe
    (.failed state code retryable)) state code retryable
  apply completeBuffer_ends (o:=.failed state code retryable)
  · exact ⟨hlock,rfl,fun _ => .refl _,fun _ => .inl⟩
  · rfl
  · trivial
  · exact hphase
  · exact hack
  · exact hdispatched
  · exact ⟨state,hbody.1,hstate⟩
  · intro _
    refine ⟨hbody.2.1.trans ?_,hbody.2.2.trans ?_⟩
    · simp only [observe,hack,hs.acknowledged]
    · simp only [observe,hstage,hs.stage,Option.map_map]
      rfl

theorem Ends.succeed {serving : Option L850Cell} (h : Kept s t) (htrace : t.trace = s.trace)
    (hphase : t.operation.phase = s.operation.phase)
    (hack : t.operation.configurationAcknowledged = s.operation.configurationAcknowledged)
    (hdispatched : t.operation.setDispatched = s.operation.setDispatched)
    (hresetting : declaredState s.operation.phase = .resetting) :
    Ends s (l850MutationCompleteSuccess t serving) := by
  apply completeBuffer_ends (o:=.succeeded serving)
  · exact ⟨h.lock,h.now,h.modems,h.calls⟩
  · rw [← htrace]
    rfl
  · trivial
  · exact hphase
  · exact hack
  · exact hdispatched
  · refine ⟨_,rfl,fun _ => ?_⟩
    rw [hresetting]
    split
    · exact ⟨.clearedVerified,rfl,by decide⟩
    · exact ⟨.appliedVerified,rfl,by decide⟩
  · intro hok
    cases hok

theorem Continues.withOperation {op : L850MutationOperation}
    (hlock : op.lock = s.operation.lock)
    (hfollows : Follows (declaredState s.operation.phase) (declaredState op.phase))
    (hflagged : Flagged op) : Continues s {s with operation := op} :=
  { Kept.withOperation hlock with
    live := rfl
    follows := hfollows
    flagged := hflagged
    trace := ⟨[],rfl,by simp⟩ }

theorem Continues.observe {o : Observation} (h : Continues s t) (ho : Silent o) :
    Continues s (t.observe o) := by
  obtain ⟨new,htrace,hnew⟩ := h.trace
  exact { h with
    trace := ⟨o::new,by simp [State.observe,htrace],List.forall_mem_cons.mpr ⟨ho,hnew⟩⟩ }

theorem Continues.command (h : Continues s t) (callback : CommandCallback) (target : ModemRef)
    (text : CString) :
    Continues s (t.l850MutationReplaceCancellable.mmModemCommand callback target text) := by
  obtain ⟨new,htrace,hnew⟩ := h.trace
  exact {
    lock := h.lock
    now := h.now
    modems := h.modems
    calls := by
      intro call hm
      rcases List.mem_append.mp hm with hm | hm
      · exact h.calls call hm
      · right
        rw [List.mem_singleton.mp hm]
        exact (h.modems target).modem
    live := h.live
    follows := h.follows
    flagged := ⟨h.flagged.acknowledged,h.flagged.stage,h.flagged.dispatched⟩
    trace := ⟨.command target (t.modem target) text::new,by
        simp [mmModemCommand,l850MutationReplaceCancellable,htrace,State.modem],
      List.forall_mem_cons.mpr ⟨trivial,hnew⟩⟩ }

theorem Continues.armPoll (h : Continues s t) (intervalMs : Nat) :
    Continues s (t.armPoll intervalMs) :=
  { h with flagged := ⟨h.flagged.acknowledged,h.flagged.stage,h.flagged.dispatched⟩ }

theorem Continues.replaceCancellable (h : Continues s t) :
    Continues s t.l850MutationReplaceCancellable :=
  { h with flagged := ⟨h.flagged.acknowledged,h.flagged.stage,h.flagged.dispatched⟩ }

end Mutation
end L850GL
