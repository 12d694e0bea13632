import L850GL.Lib.Trace
import L850GL.Reads.Effects
import L850GL.Reads.RetryAfter

/-! The time between two cell scans, or between two carrier queries, on one record. -/
namespace L850GL
namespace Reads

open Cell CellInfo Ca Errors Mutation World

def Event.bridge : Event → Bridge
  | .cellLockStatus _ _ bridge | .cellScan _ _ bridge | .getCarrierInfo _ _ bridge
  | .finish _ _ _ bridge | .timeout _ bridge | .modemRemoved _ bridge | .connectionLost bridge
  | .reconnected bridge | .shutdown bridge | .stop bridge => bridge

/-- An event with another report. -/
def Event.withBridge (bridge : Bridge) : Event → Event
  | .cellLockStatus mutations request _ => .cellLockStatus mutations request bridge
  | .cellScan mutations request _ => .cellScan mutations request bridge
  | .getCarrierInfo mutations request _ => .getCarrierInfo mutations request bridge
  | .finish ref result mutations _ => .finish ref result mutations bridge
  | .timeout ref _ => .timeout ref bridge
  | .modemRemoved ref _ => .modemRemoved ref bridge
  | .connectionLost _ => .connectionLost bridge
  | .reconnected _ => .reconnected bridge
  | .shutdown _ => .shutdown bridge
  | .stop _ => .stop bridge

@[simp] theorem Event.withBridge_bridge (event : Event) (bridge : Bridge) :
    (event.withBridge bridge).bridge = bridge := by
  cases event <;> rfl

def Event.isRequest : Event → Bool
  | .cellLockStatus _ _ _ | .cellScan _ _ _ | .getCarrierInfo _ _ _ => true
  | _ => false

/-- When the last operation of a kind on a record was over. -/
def Records.completedAt (records : Records) : ReadKind → ModemRef → Int
  | .status,_ => 0
  | .scan,modem => records.lastScanCompletedAt modem
  | .carrier,modem => records.lastCarrierQueryCompletedAt modem

def interval : Int := l850glL850CellScanCooldownSeconds*Bridge.usec

/-- A scan or a carrier query starts no sooner than five seconds after any earlier one of its kind
on its record was over. -/
def Spaced (past : List Observation) : Observation → Prop
  | .started _ kind modem _ now => kind ≠ .status → ∀ ref now' body,
      .completed ref kind modem now' body ∈ past → now'+interval ≤ now
  | _ => True

/-- The records know the end of every operation, and the clock is past it. -/
structure Stamped (w : World) : Prop where
  now : 0 < w.bridge.now
  bounded : ∀ kind modem,w.records.completedAt kind modem ≤ w.bridge.now
  recorded : ∀ ref kind modem now body,kind ≠ .status →
    .completed ref kind modem now body ∈ w.trace →
    0 < now ∧ now ≤ w.records.completedAt kind modem
  spaced : Justified Spaced w.trace

/-- Neither the start nor the end of an operation. -/
def Observation.Idle : Observation → Prop
  | .started _ _ _ _ _ | .completed _ _ _ _ _ => False
  | _ => True

/-- What a step writes down. -/
inductive Writes (w w' : World) : Prop
  | idle (hrecords : w'.records.completedAt = w.records.completedAt)
      (htrace : ∃ new,w'.trace = new++w.trace ∧ ∀ o ∈ new,o.Idle)
  | started (ref : OperationRef) (kind : ReadKind) (modem : ModemRef) (connection : Nat)
      (hready : kind ≠ .status →
        retryAfterMs 5 w.bridge.now (w.records.completedAt kind modem) = 0)
      (hrecords : w'.records.completedAt = w.records.completedAt)
      (htrace : w'.trace = .started ref kind modem connection w.bridge.now::w.trace)
  | completed (ref : OperationRef) (kind : ReadKind) (modem : ModemRef) (body : Reply)
      (hrecords : w'.records.completedAt =
        (stampCompletion kind w.bridge.now modem w.records).completedAt)
      (htrace : ∃ new,w'.trace = new++.completed ref kind modem w.bridge.now body::w.trace ∧
        ∀ o ∈ new,o.Idle)

variable {w w' : World} {ref : OperationRef} {op : ReadOperation} {kind : ReadKind} {body : Reply}
  {event : Event}

theorem Spaced.idle {o : Observation} (h : o.Idle) (past : List Observation) : Spaced past o := by
  cases o with
  | started => exact h.elim
  | _ => trivial

theorem Writes.same (hrecords : w'.records = w.records) (htrace : w'.trace = w.trace) :
    Writes w w' :=
  .idle (by rw [hrecords]) ⟨[],htrace,by simp⟩

/-- One more observation that is none of an operation. -/
theorem Writes.observe (hrecords : w'.records = w.records) {o : Observation}
    (htrace : w'.trace = o::w.trace) (ho : o.Idle) : Writes w w' :=
  .idle (by rw [hrecords]) ⟨[o],htrace,by simpa using ho⟩

theorem Ends.writes (h : Ends kind w w' ref op body) : Writes w w' := by
  refine .completed ref kind op.modem body ?_
    ⟨.released ref::answers w ref op body,h.trace,fun o ho => ?_⟩
  · funext kind' modem
    cases kind' with
    | status => rfl
    | scan => rw [Records.completedAt,h.lastScan,Records.completedAt]
    | carrier => rw [Records.completedAt,h.lastQuery,Records.completedAt]
  · rcases List.mem_cons.mp ho with rfl | ho
    · trivial
    · rw [answers] at ho
      split at ho
      · rw [List.mem_singleton.mp ho]
        trivial
      · cases ho

theorem Serves.writes (h : Serves kind w w') : Writes w w' := by
  cases h with
  | refused body h =>
    subst h
    exact .observe rfl rfl trivial
  | started callback modem hkind hscan hcarrier h =>
    subst h
    refine .started w.next kind modem w.ubus.connection (fun hlimited => ?_) rfl rfl
    cases kind with
    | status => exact absurd rfl hlimited
    | scan => exact hscan rfl
    | carrier => exact hcarrier rfl

theorem readReady_fault {mutations : List CString} {callback : ReadCallback} {source : Nat}
    {result : ReadResult} (h : (w.slots ref).memory = none) :
    readReady w mutations ref callback source result = w.observe (.fault ref) := by
  cases callback <;> simp [readReady,l850StatusReady,l850ScanReady,l850VendorScanReady,
    l850CarrierReady,withOperation,h]

theorem readReady_writes (w : World) (mutations : List CString) (ref : OperationRef)
    (callback : ReadCallback) (source : Nat) (result : ReadResult) :
    Writes w (readReady w mutations ref callback source result) := by
  cases hmemory : (w.slots ref).memory with
  | none =>
    rw [readReady_fault hmemory]
    exact .observe rfl rfl trivial
  | some op =>
    rcases readReady_effect hmemory with ⟨body,hends⟩ | ⟨-,hfall⟩
    · exact hends.writes
    · rw [hfall]
      exact .same rfl rfl

theorem readReady_bridge (w : World) (mutations : List CString) (ref : OperationRef)
    (callback : ReadCallback) (source : Nat) (result : ReadResult) :
    (readReady w mutations ref callback source result).bridge = w.bridge := by
  cases hmemory : (w.slots ref).memory with
  | none =>
    rw [readReady_fault hmemory]
    rfl
  | some op =>
    rcases readReady_effect hmemory with ⟨body,hends⟩ | ⟨-,hfall⟩
    · exact hends.bridge
    · rw [hfall]
      rfl

theorem Serves.bridge (h : Serves kind w w') : w'.bridge = w.bridge := by
  cases h with
  | refused body h =>
    subst h
    rfl
  | started callback modem hkind hscan hcarrier h =>
    subst h
    rfl

/-- A step writes down what it does at the time of its event, and leaves the cooldowns alone. -/
theorem step_writes (hs : step w event = some w') :
    Writes (w.refresh event.bridge) w' ∧ w'.bridge = w.bridge.refresh event.bridge := by
  cases event with
  | cellLockStatus mutations request bridge =>
    simp only [step,Option.ite_none_left_eq_some,Option.some.injEq] at hs
    obtain ⟨-,rfl⟩ := hs
    have h := methodCellLockStatus_serves (w.refresh bridge) mutations request
    exact ⟨h.writes,h.bridge⟩
  | cellScan mutations request bridge =>
    simp only [step,Option.ite_none_left_eq_some,Option.some.injEq] at hs
    obtain ⟨-,rfl⟩ := hs
    have h := methodCellScan_serves (w.refresh bridge) mutations request
    exact ⟨h.writes,h.bridge⟩
  | getCarrierInfo mutations request bridge =>
    simp only [step,Option.ite_none_left_eq_some,Option.some.injEq] at hs
    obtain ⟨-,rfl⟩ := hs
    have h := methodGetCarrierInfo_serves (w.refresh bridge) mutations request
    exact ⟨h.writes,h.bridge⟩
  | finish ref result mutations bridge =>
    simp only [step] at hs
    split at hs
    · cases hs
    · rename_i callback source hcall
      obtain rfl := Option.some.inj hs
      have h := readReady_writes ((w.refresh bridge).updateSlot ref fun slot =>
        {slot with call := none}) mutations ref callback source
          (finishRead ((w.refresh bridge).slots ref) result)
      refine ⟨?_,readReady_bridge _ _ _ _ _ _⟩
      cases h with
      | idle hrecords htrace => exact .idle hrecords htrace
      | started ref kind modem connection hready hrecords htrace =>
        exact .started ref kind modem connection hready hrecords htrace
      | completed ref kind modem body hrecords htrace =>
        exact .completed ref kind modem body hrecords htrace
  | timeout ref bridge =>
    simp only [step,Option.ite_none_left_eq_some,Option.some.injEq] at hs
    obtain ⟨-,rfl⟩ := hs
    unfold readTimeout withOperation
    dsimp only
    split
    · exact ⟨.observe rfl rfl trivial,rfl⟩
    · exact ⟨.same rfl rfl,rfl⟩
  | modemRemoved ref bridge =>
    simp only [step,Option.ite_none_left_eq_some,Option.some.injEq] at hs
    obtain ⟨-,rfl⟩ := hs
    unfold readParentCancelled withOperation
    split
    · exact ⟨.observe rfl rfl trivial,rfl⟩
    · exact ⟨.same rfl rfl,rfl⟩
  | connectionLost bridge =>
    obtain rfl := Option.some.inj hs
    unfold connectionLost
    split
    · exact ⟨.same rfl rfl,rfl⟩
    · exact ⟨.observe rfl rfl trivial,rfl⟩
  | reconnected bridge =>
    simp only [step,Option.ite_none_left_eq_some,Option.some.injEq] at hs
    obtain ⟨-,rfl⟩ := hs
    exact ⟨.same rfl rfl,rfl⟩
  | shutdown bridge =>
    simp only [step,Option.ite_none_left_eq_some,Option.some.injEq] at hs
    obtain ⟨-,rfl⟩ := hs
    exact ⟨.same rfl rfl,rfl⟩
  | stop bridge =>
    obtain rfl := Option.some.inj hs
    unfold l850glUbusStop
    split
    · exact ⟨.same rfl rfl,rfl⟩
    · exact ⟨.observe rfl rfl trivial,rfl⟩

/-- A hint of nothing: the interval since the last one is over. -/
theorem elapsed_of_retryAfterMs {now last : Int} (hlast : 0 < last) (horder : last ≤ now)
    (h : retryAfterMs 5 now last = 0) : last+interval ≤ now := by
  have husec : Bridge.usec = 1000000 := rfl
  have hinterval : interval = 5*Bridge.usec := rfl
  have hhint := retryAfterMs_eq now hlast horder
  rw [h] at hhint
  split at hhint
  · omega
  · omega

theorem completedAt_stamp (now : Int) (modem : ModemRef) (records : Records) {kind' : ReadKind}
    {other : ModemRef} (hkind : kind' ≠ .status) :
    (stampCompletion kind now modem records).completedAt kind' other =
      if kind = kind' ∧ other = modem then now else records.completedAt kind' other := by
  cases kind <;> cases kind' <;>
    simp [stampCompletion,Records.completedAt,Function.update_apply] at hkind ⊢

theorem Stamped.writes (h : Stamped w) (hw : Writes w w') (hbridge : w'.bridge = w.bridge) :
    Stamped w' := by
  have hnow := h.now
  cases hw with
  | idle hrecords htrace =>
    obtain ⟨new,htrace,hidle⟩ := htrace
    refine ⟨hbridge ▸ h.now,?_,fun ref kind modem now body hlimited hm => ?_,?_⟩
    · rw [hrecords,hbridge]
      exact h.bounded
    · rw [htrace] at hm
      rcases List.mem_append.mp hm with hm | hm
      · exact (hidle _ hm).elim
      · rw [hrecords]
        exact h.recorded ref kind modem now body hlimited hm
    · rw [htrace]
      exact h.spaced.append fun o ho past => Spaced.idle (hidle o ho) past
  | started ref kind modem connection hready hrecords htrace =>
    refine ⟨hbridge ▸ h.now,?_,fun ref' kind' modem' now body hlimited hm => ?_,?_⟩
    · rw [hrecords,hbridge]
      exact h.bounded
    · rw [htrace] at hm
      rcases List.mem_cons.mp hm with heq | hm
      · cases heq
      · rw [hrecords]
        exact h.recorded ref' kind' modem' now body hlimited hm
    · rw [htrace]
      refine h.spaced.cons fun hlimited ref' now' body hm => ?_
      obtain ⟨hpos,hle⟩ := h.recorded ref' kind modem now' body hlimited hm
      have helapsed := elapsed_of_retryAfterMs (Int.lt_of_lt_of_le hpos hle)
        (h.bounded kind modem) (hready hlimited)
      omega
  | completed ref kind modem body hrecords htrace =>
    obtain ⟨new,htrace,hidle⟩ := htrace
    refine ⟨hbridge ▸ h.now,fun kind' modem' => ?_,
      fun ref' kind' modem' now body' hlimited hm => ?_,?_⟩
    · rw [hrecords,hbridge]
      by_cases hlimited : kind' = .status
      · subst hlimited
        exact Int.le_of_lt h.now
      · rw [completedAt_stamp _ _ _ hlimited]
        split
        · exact Int.le_refl _
        · exact h.bounded kind' modem'
    · rw [htrace] at hm
      rw [hrecords,completedAt_stamp _ _ _ hlimited]
      rcases List.mem_append.mp hm with hm | hm
      · exact (hidle _ hm).elim
      rcases List.mem_cons.mp hm with heq | hm
      · cases heq
        rw [if_pos ⟨rfl,rfl⟩]
        exact ⟨h.now,Int.le_refl _⟩
      · obtain ⟨hpos,hle⟩ := h.recorded ref' kind' modem' now body' hlimited hm
        split
        · rename_i hsame
          obtain ⟨rfl,rfl⟩ := hsame
          exact ⟨hpos,Int.le_trans hle (h.bounded kind modem')⟩
        · exact ⟨hpos,hle⟩
    · rw [htrace]
      exact (h.spaced.cons trivial).append fun o ho past => Spaced.idle (hidle o ho) past

/-- The clock goes on. -/
theorem Stamped.later {bridge bridge' : Bridge} (h : Stamped {w with bridge := bridge})
    (hnow : bridge.now ≤ bridge'.now) : Stamped {w with bridge := bridge'} :=
  ⟨Int.lt_of_lt_of_le h.now hnow,fun kind modem => Int.le_trans (h.bounded kind modem) hnow,
    h.recorded,h.spaced⟩

theorem Stamped.refresh (h : Stamped w) {bridge : Bridge} (hnow : w.bridge.now ≤ bridge.now) :
    Stamped (w.refresh bridge) := @later w w.bridge (w.bridge.refresh bridge) h hnow

theorem step_stamped (h : Stamped w) (hnow : w.bridge.now ≤ event.bridge.now)
    (hs : step w event = some w') : Stamped w' := by
  obtain ⟨hwrites,hbridge⟩ := step_writes hs
  exact (h.refresh hnow).writes hwrites hbridge

theorem initial_stamped (h : Initial w) (hnow : 0 < w.bridge.now) : Stamped w := by
  refine ⟨hnow,fun kind modem => ?_,?_,?_⟩
  · have hrecords := h.records modem
    cases kind with
    | status => exact Int.le_of_lt hnow
    | scan =>
      rw [Records.completedAt,hrecords.1]
      exact Int.le_of_lt hnow
    | carrier =>
      rw [Records.completedAt,hrecords.2]
      exact Int.le_of_lt hnow
  · rw [h.trace]
    intro ref kind modem now body _ hm
    cases hm
  · rw [h.trace]
    trivial

/-- A request starts an operation or is refused: neither moves a window. -/
theorem step_request (hs : step w event = some w') (hrequest : event.isRequest = true) :
    w'.records.completedAt = w.records.completedAt := by
  have hserves : ∃ kind,Serves kind (w.refresh event.bridge) w' := by
    cases event with
    | cellLockStatus mutations request bridge =>
      simp only [step,Option.ite_none_left_eq_some,Option.some.injEq] at hs
      obtain ⟨-,rfl⟩ := hs
      exact ⟨_,methodCellLockStatus_serves _ mutations request⟩
    | cellScan mutations request bridge =>
      simp only [step,Option.ite_none_left_eq_some,Option.some.injEq] at hs
      obtain ⟨-,rfl⟩ := hs
      exact ⟨_,methodCellScan_serves _ mutations request⟩
    | getCarrierInfo mutations request bridge =>
      simp only [step,Option.ite_none_left_eq_some,Option.some.injEq] at hs
      obtain ⟨-,rfl⟩ := hs
      exact ⟨_,methodGetCarrierInfo_serves _ mutations request⟩
    | _ => cases hrequest
  obtain ⟨kind,hserves⟩ := hserves
  cases hserves with
  | refused body h =>
    subst h
    rfl
  | started callback modem hkind hscan hcarrier h =>
    subst h
    rfl

end Reads
end L850GL
