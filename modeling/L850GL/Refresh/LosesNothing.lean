import L850GL.Refresh
import L850GL.Sms.Holding

/-! No notification is lost: the refreshers of a record keep the rule of coalesced queries over
every order of notifications, completions, epoch changes and the removal. -/
namespace L850GL
namespace Refresh

open Coalesce Errors Sms RefreshWorld

/-- The listings in flight are of the epochs so far, one at most of each. -/
structure ListsOnce (lists : List RefreshCall) (m : Messaging) : Prop where
  epochs : ∀ source epoch, .list source epoch ∈ lists → epoch ≤ m.messagingGeneration
  source : ∀ source, .list source m.messagingGeneration ∈ lists →
    m.messaging = none ∨ m.messaging = some source
  once : ∀ epoch, lists.countP (·.ofEpoch epoch) ≤ 1

/-- The invariant, with a refresher whose last notification is about to be answered. -/
structure InvBut (w : RefreshWorld) (owed : Option Refresher) : Prop where
  counted : ∀ r, r ≠ .sms ∨ w.modem.live = true → Counted (flagsOf w.modem r) (w.inFlight r)
  answered : w.modem.live = true → ∀ r, owed ≠ some r → (flagsOf w.modem r).dirty = false →
    Answered (w.marks r)
  lists : ListsOnce w.lists w.modem.messaging

variable {w w' : RefreshWorld} {owed owed' : Option Refresher} {r : Refresher}
  {random : Nat → Option (Vector UInt8 16)} {ref : ModemRef} {generation : Nat}

theorem InvBut.coalesced (h : InvBut w owed) (hlive : w.modem.live = true) (hr : owed ≠ some r) :
    Coalesced (flagsOf w.modem r) (w.inFlight r) (w.marks r) :=
  ⟨h.counted r (.inr hlive),h.answered hlive r hr⟩

/-- Only one refresher does something. -/
theorem InvBut.of_one (h : InvBut w owed) (r : Refresher)
    (hlive : w'.modem.live = w.modem.live)
    (hothers : ∀ other, other ≠ r → flagsOf w'.modem other = flagsOf w.modem other ∧
      w'.inFlight other = w.inFlight other ∧ w'.marks other = w.marks other)
    (howed : ∀ other, other ≠ r → owed' ≠ some other → owed ≠ some other)
    (hcounted : r ≠ .sms ∨ w'.modem.live = true → Counted (flagsOf w'.modem r) (w'.inFlight r))
    (hanswered : w'.modem.live = true → owed' ≠ some r → (flagsOf w'.modem r).dirty = false →
      Answered (w'.marks r))
    (hlists : ListsOnce w'.lists w'.modem.messaging) : InvBut w' owed' := by
  constructor
  · intro other ho
    by_cases hr : other = r
    · subst hr
      exact hcounted ho
    · obtain ⟨hflags,hcount,_⟩ := hothers other hr
      rw [hflags,hcount]
      exact h.counted other (by rwa [← hlive])
  · intro hl other ho
    by_cases hr : other = r
    · subst hr
      exact hanswered hl ho
    · obtain ⟨hflags,_,hmarks⟩ := hothers other hr
      rw [hflags,hmarks]
      exact h.answered (hlive ▸ hl) other (howed other hr ho)
  · exact hlists

theorem InvBut.notified (h : InvBut w none) (r : Refresher) :
    InvBut (w.mark r .notified) (some r) := by
  apply h.of_one r
  · rfl
  · intro other ho
    exact ⟨rfl,by cases other <;> rfl,by simp [mark,ho]⟩
  · simp
  · intro hr
    have h₁ := h.counted r hr
    cases r <;> exact h₁
  · simp
  · exact h.lists

/-- A call of another kind is no listing. -/
theorem lists_append {c : RefreshCall} (hc : c.isList = false) (calls : List RefreshCall) :
    (calls++[c]).filter RefreshCall.isList = calls.filter RefreshCall.isList := by
  simp [hc]

theorem lists_erase {c : RefreshCall} (hc : c.isList = false) (calls : List RefreshCall) :
    (calls.erase c).filter RefreshCall.isList = calls.filter RefreshCall.isList := by
  rw [← List.erase_filter]
  apply List.erase_of_not_mem
  simp [hc]

/-- A notification that has been processed is answered by `query_sim`. -/
theorem InvBut.querySim (h : InvBut w owed) (howed : ∀ other, other ≠ .sim → owed ≠ some other) :
    InvBut w.querySim none := by
  rw [RefreshWorld.querySim]
  split
  · rename_i hdead
    exact ⟨h.counted,fun hl => absurd hl (by simpa using hdead),h.lists⟩
  rename_i hlive
  have hlive : w.modem.live = true := by simpa using hlive
  have hcount := h.counted .sim (.inr hlive)
  split
  · rename_i hpending
    apply h.of_one .sim
    · rfl
    · intro other ho
      cases other with
      | sim => exact absurd rfl ho
      | bearers => exact ⟨rfl,rfl,rfl⟩
      | sms => exact ⟨rfl,rfl,rfl⟩
    · exact fun other ho _ => howed other ho
    · exact fun _ => ⟨hcount.count,fun _ => hpending⟩
    · intro _ _ hd
      simp [flagsOf] at hd
    · exact h.lists
  rename_i hidle
  have hidle : w.modem.simQueryPending = false := by simpa using hidle
  split
  · have hresolved : Coalesced _ _ (.resolved::w.marks .sim) := hcount.resolved
    apply h.of_one .sim
    · rfl
    · intro other ho
      cases other with
      | sim => exact absurd rfl ho
      | bearers => exact ⟨rfl,rfl,by simp [mark]⟩
      | sms => exact ⟨rfl,rfl,by simp [mark]⟩
    · exact fun other ho _ => howed other ho
    · exact fun _ => hresolved.toCounted
    · intro _ _ hd
      simpa [mark] using hresolved.answered hd
    · exact h.lists
  · have hstarted : Coalesced _ _ (.started::w.marks .sim) := hcount.started hidle
    apply h.of_one .sim
    · rfl
    · intro other ho
      cases other with
      | sim => exact absurd rfl ho
      | bearers => exact ⟨rfl,by simp [inFlight,mark,call],by simp [mark,call]⟩
      | sms =>
        refine ⟨rfl,?_,by simp [mark,call]⟩
        simp only [inFlight,mark,call]
        split <;> simp
    · exact fun other ho _ => howed other ho
    · intro _
      have hcalls : (w.calls++[RefreshCall.sim]).count RefreshCall.sim =
          w.calls.count RefreshCall.sim+1 := by simp
      simp only [inFlight,mark,call,hcalls]
      exact hstarted.toCounted
    · intro _ _ hd
      simpa [mark,call] using hstarted.answered hd
    · simp only [RefreshWorld.lists,mark,call,lists_append (c:=.sim) rfl]
      exact h.lists

theorem InvBut.queryBearers (h : InvBut w owed)
    (howed : ∀ other, other ≠ .bearers → owed ≠ some other) : InvBut w.queryBearers none := by
  rw [RefreshWorld.queryBearers]
  split
  · rename_i hdead
    exact ⟨h.counted,fun hl => absurd hl (by simpa using hdead),h.lists⟩
  rename_i hlive
  have hlive : w.modem.live = true := by simpa using hlive
  have hcount := h.counted .bearers (.inr hlive)
  split
  · rename_i hpending
    apply h.of_one .bearers
    · rfl
    · intro other ho
      cases other with
      | sim => exact ⟨rfl,rfl,rfl⟩
      | bearers => exact absurd rfl ho
      | sms => exact ⟨rfl,rfl,rfl⟩
    · exact fun other ho _ => howed other ho
    · exact fun _ => ⟨hcount.count,fun _ => hpending⟩
    · intro _ _ hd
      simp [flagsOf] at hd
    · exact h.lists
  · rename_i hidle
    have hidle : w.modem.bearerQueryPending = false := by simpa using hidle
    have hstarted : Coalesced _ _ (.started::w.marks .bearers) := hcount.started hidle
    apply h.of_one .bearers
    · rfl
    · intro other ho
      cases other with
      | sim => exact ⟨rfl,by simp [inFlight,mark,call],by simp [mark,call]⟩
      | bearers => exact absurd rfl ho
      | sms =>
        refine ⟨rfl,?_,by simp [mark,call]⟩
        simp only [inFlight,mark,call]
        split <;> simp
    · exact fun other ho _ => howed other ho
    · intro _
      have hcalls : (w.calls++[RefreshCall.bearers]).count RefreshCall.bearers =
          w.calls.count RefreshCall.bearers+1 := by simp
      simp only [inFlight,mark,call,hcalls]
      exact hstarted.toCounted
    · intro _ _ hd
      simpa [mark,call] using hstarted.answered hd
    · simp only [RefreshWorld.lists,mark,call,lists_append (c:=.bearers) rfl]
      exact h.lists

@[simp] theorem querySms_messaging (m : Messaging) : m.querySms.1.messaging = m.messaging := by
  rw [Messaging.querySms]
  split
  · rfl
  · split <;> rfl

@[simp] theorem querySms_messagingGeneration (m : Messaging) :
    m.querySms.1.messagingGeneration = m.messagingGeneration := by
  rw [Messaging.querySms]
  split
  · rfl
  · split <;> rfl

theorem ListsOnce.congr {lists : List RefreshCall} {m m' : Messaging} (h : ListsOnce lists m)
    (hm : m'.messaging = m.messaging) (hg : m'.messagingGeneration = m.messagingGeneration) :
    ListsOnce lists m' :=
  ⟨by simpa [hg] using h.epochs,by simpa [hm,hg] using h.source,h.once⟩

/-- A listing of the current epoch is started when none is in flight. -/
theorem ListsOnce.append {lists : List RefreshCall} {m : Messaging} {source : Nat}
    (h : ListsOnce lists m) (hsource : m.messaging = some source)
    (hnone : lists.count (.list source m.messagingGeneration) = 0) :
    ListsOnce (lists++[.list source m.messagingGeneration]) m := by
  have hcurrent : lists.countP (·.ofEpoch m.messagingGeneration) = 0 := by
    rw [List.countP_eq_zero]
    intro c hc hepoch
    cases c with
    | sim => simp [RefreshCall.ofEpoch] at hepoch
    | bearers => simp [RefreshCall.ofEpoch] at hepoch
    | list other epoch =>
      obtain rfl : epoch = m.messagingGeneration := by simpa [RefreshCall.ofEpoch] using hepoch
      rcases h.source other hc with hno | hsome
      · simp [hsource] at hno
      · obtain rfl : source = other := by simpa [hsource] using hsome
        exact List.count_eq_zero.mp hnone hc
  constructor
  · intro other epoch hm
    rcases List.mem_append.mp hm with hm | hm
    · exact h.epochs other epoch hm
    · have heq : RefreshCall.list other epoch = .list source m.messagingGeneration := by
        simpa using hm
      simp only [RefreshCall.list.injEq] at heq
      omega
  · intro other hm
    rcases List.mem_append.mp hm with hm | hm
    · exact h.source other hm
    · obtain rfl : other = source := by simpa using hm
      exact .inr hsource
  · intro epoch
    rw [List.countP_append]
    have h₁ := h.once epoch
    by_cases he : epoch = m.messagingGeneration
    · subst he
      have h₂ : [RefreshCall.list source m.messagingGeneration].countP
          (·.ofEpoch m.messagingGeneration) ≤ 1 := List.countP_le_length
      omega
    · have h₂ : [RefreshCall.list source m.messagingGeneration].countP (·.ofEpoch epoch) = 0 := by
        simp [RefreshCall.ofEpoch,Ne.symm he]
      omega

theorem count_lists (w : RefreshWorld) (source epoch : Nat) :
    w.lists.count (.list source epoch) = w.calls.count (.list source epoch) := by
  rw [RefreshWorld.lists,List.count_filter rfl]

theorem InvBut.querySms (h : InvBut w owed) (howed : ∀ other, other ≠ .sms → owed ≠ some other) :
    InvBut w.querySms none := by
  rw [RefreshWorld.querySms]
  split
  · rename_i hdead
    exact ⟨h.counted,fun hl => absurd hl (by simpa using hdead),h.lists⟩
  rename_i hlive
  have hlive : w.modem.live = true := by simpa using hlive
  have hcount := h.counted .sms (.inr hlive)
  have hlists := h.lists.congr (querySms_messaging w.modem.messaging)
    (querySms_messagingGeneration w.modem.messaging)
  cases hsource : w.modem.messaging.messaging with
  | none =>
    have hsame : w.modem.messaging.querySms.1 = w.modem.messaging := by
      simp [Messaging.querySms,hsource]
    have hresolved : Coalesced _ _ (.resolved::w.marks .sms) := hcount.resolved
    simp only [hsource,hsame]
    apply h.of_one .sms
    · rfl
    · intro other ho
      cases other with
      | sim => exact ⟨rfl,rfl,by simp [mark,updateMessaging]⟩
      | bearers => exact ⟨rfl,rfl,by simp [mark,updateMessaging]⟩
      | sms => exact absurd rfl ho
    · exact fun other ho _ => howed other ho
    · exact fun _ => hresolved.toCounted
    · intro _ _ hd
      simpa [mark,updateMessaging] using hresolved.answered hd
    · exact h.lists
  | some source =>
    have hflight : w.inFlight .sms =
        w.calls.count (.list source w.modem.messaging.messagingGeneration) := by
      simp only [inFlight,hsource]
    rw [hflight] at hcount
    cases hpending : w.modem.messaging.smsQueryPending with
    | true =>
      have hquery : w.modem.messaging.querySms =
          ({w.modem.messaging with smsQueryDirty := true},false) := by
        simp [Messaging.querySms,hsource,hpending]
      simp only [hsource,hquery,Bool.false_eq_true,if_false]
      apply h.of_one .sms
      · rfl
      · intro other ho
        cases other with
        | sim => exact ⟨rfl,rfl,rfl⟩
        | bearers => exact ⟨rfl,rfl,rfl⟩
        | sms => exact absurd rfl ho
      · exact fun other ho _ => howed other ho
      · intro _
        simp only [inFlight,updateMessaging]
        exact ⟨hcount.count,fun _ => hpending⟩
      · intro _ _ hd
        simp [flagsOf,updateMessaging] at hd
      · exact h.lists.congr hsource.symm rfl
    | false =>
      have hquery : w.modem.messaging.querySms.2 = true := by
        simp [Messaging.querySms,hsource,hpending]
      have hflags : w.modem.messaging.querySms.1.smsQueryPending = true ∧
          w.modem.messaging.querySms.1.smsQueryDirty = w.modem.messaging.smsQueryDirty := by
        simp [Messaging.querySms,hsource,hpending]
      have hstarted : Coalesced _ _ (.started::w.marks .sms) := hcount.started hpending
      have hnone : w.calls.count (.list source w.modem.messaging.messagingGeneration) = 0 := by
        have h₁ := hcount.count
        simpa [flagsOf,hpending] using h₁
      simp only [hsource,hquery,if_true]
      apply h.of_one .sms
      · rfl
      · intro other ho
        cases other with
        | sim => exact ⟨rfl,by simp [inFlight,mark,call,updateMessaging],
            by simp [mark,call,updateMessaging]⟩
        | bearers => exact ⟨rfl,by simp [inFlight,mark,call,updateMessaging],
            by simp [mark,call,updateMessaging]⟩
        | sms => exact absurd rfl ho
      · exact fun other ho _ => howed other ho
      · intro _
        simp only [flagsOf,inFlight,mark,call,updateMessaging,querySms_messaging,hsource,
          querySms_messagingGeneration,hflags.1,hflags.2,List.count_append]
        simpa [flagsOf] using hstarted.toCounted
      · intro _ _ hd
        have h₁ := hstarted.answered (by simpa [flagsOf,mark,call,updateMessaging,hflags] using hd)
        simpa [mark,call,updateMessaging] using h₁
      · have hcalls := (h.lists.append hsource (by rw [count_lists]; exact hnone)).congr
          (querySms_messaging w.modem.messaging) (querySms_messagingGeneration w.modem.messaging)
        simp only [RefreshWorld.lists,mark,call,updateMessaging,List.filter_append]
        exact hcalls

/-- A removed record answers no notifications. -/
theorem InvBut.dead (h : InvBut w owed) (hdead : w.modem.live = false) : InvBut w owed' :=
  ⟨h.counted,fun hl => absurd hl (by simp [hdead]),h.lists⟩

theorem ListsOnce.sublist {lists lists' : List RefreshCall} {m : Messaging}
    (h : ListsOnce lists m) (hs : lists'.Sublist lists) : ListsOnce lists' m :=
  ⟨fun source epoch hm => h.epochs source epoch (hs.subset hm),
    fun source hm => h.source source (hs.subset hm),
    fun epoch => (hs.countP_le).trans (h.once epoch)⟩

/-- The query of the SIM has come back. -/
theorem InvBut.simAnswered (h : InvBut w none) (hcall : .sim ∈ w.calls) (sim : Option Nat)
    (state : CacheState) :
    InvBut {w with
      calls := w.calls.erase .sim
      modem := {w.modem with
        simQueryPending := false,simQueryDirty := false,sim := sim,simCacheState := state}}
      (if w.modem.simQueryDirty then some .sim else none) := by
  have hcount := h.counted .sim (.inl (by simp))
  have hpositive : 0 < w.calls.count .sim := List.count_pos_iff.mpr hcall
  have herase : w.calls.count .sim = (w.calls.erase .sim).count .sim+1 := by
    rw [List.count_erase_self]
    omega
  apply h.of_one .sim
  · rfl
  · intro other ho
    cases other with
    | sim => exact absurd rfl ho
    | bearers => exact ⟨rfl,List.count_erase_of_ne (by simp),rfl⟩
    | sms =>
      refine ⟨rfl,?_,rfl⟩
      simp only [inFlight]
      split
      · rfl
      · exact List.count_erase_of_ne (by simp)
  · simp
  · intro _
    simp only [inFlight,herase] at hcount
    exact hcount.completed
  · intro hlive howed _
    apply h.answered hlive .sim (by simp)
    simpa [flagsOf] using howed
  · simp only [RefreshWorld.lists,lists_erase (show RefreshCall.sim.isList = false from rfl)]
    exact h.lists

theorem InvBut.bearersAnswered (h : InvBut w none) (hcall : .bearers ∈ w.calls)
    (bearers : List Nat) (state : CacheState) :
    InvBut {w with
      calls := w.calls.erase .bearers
      modem := {w.modem with
        bearerQueryPending := false,bearerQueryDirty := false,bearers := bearers
        bearerCacheState := state}}
      (if w.modem.bearerQueryDirty then some .bearers else none) := by
  have hcount := h.counted .bearers (.inl (by simp))
  have hpositive : 0 < w.calls.count .bearers := List.count_pos_iff.mpr hcall
  have herase : w.calls.count .bearers = (w.calls.erase .bearers).count .bearers+1 := by
    rw [List.count_erase_self]
    omega
  apply h.of_one .bearers
  · rfl
  · intro other ho
    cases other with
    | sim => exact ⟨rfl,List.count_erase_of_ne (by simp),rfl⟩
    | bearers => exact absurd rfl ho
    | sms =>
      refine ⟨rfl,?_,rfl⟩
      simp only [inFlight]
      split
      · rfl
      · exact List.count_erase_of_ne (by simp)
  · simp
  · intro _
    simp only [inFlight,herase] at hcount
    exact hcount.completed
  · intro hlive howed _
    apply h.answered hlive .bearers (by simp)
    simpa [flagsOf] using howed
  · simp only [RefreshWorld.lists,lists_erase (show RefreshCall.bearers.isList = false from rfl)]
    exact h.lists

theorem InvBut.simReady (h : InvBut w none) (hcall : .sim ∈ w.calls) (sim : Option Nat)
    (error : Option GError) :
    InvBut ({w with calls := w.calls.erase .sim}.simReady sim error) none := by
  cases hlive : w.modem.live with
  | false =>
    have hsame := h.simAnswered hcall w.modem.sim w.modem.simCacheState
    simpa [RefreshWorld.simReady,hlive] using hsame.dead hlive
  | true =>
    have hanswered := h.simAnswered hcall sim
      (if sim.isSome then .ready else failedState error)
    cases hdirty : w.modem.simQueryDirty with
    | false =>
      simpa [RefreshWorld.simReady,hlive,hdirty] using hanswered
    | true =>
      rw [hdirty,if_pos rfl] at hanswered
      have hquery := hanswered.querySim fun _ ho => Option.some_inj.not.mpr ho.symm
      simpa [RefreshWorld.simReady,hlive,hdirty] using hquery

theorem InvBut.bearersReady (h : InvBut w none) (hcall : .bearers ∈ w.calls)
    (bearers : List Nat) (error : Option GError) :
    InvBut ({w with calls := w.calls.erase .bearers}.bearersReady bearers error) none := by
  cases hlive : w.modem.live with
  | false =>
    have hsame := h.bearersAnswered hcall w.modem.bearers w.modem.bearerCacheState
    simpa [RefreshWorld.bearersReady,hlive] using hsame.dead hlive
  | true =>
    have hanswered := h.bearersAnswered hcall bearers
      (if bearers ≠ [] then .ready else if error.isNone then .ready else failedState error)
    cases hdirty : w.modem.bearerQueryDirty with
    | false =>
      simpa [RefreshWorld.bearersReady,hlive,hdirty] using hanswered
    | true =>
      rw [hdirty,if_pos rfl] at hanswered
      have hquery := hanswered.queryBearers fun _ ho => Option.some_inj.not.mpr ho.symm
      simpa [RefreshWorld.bearersReady,hlive,hdirty] using hquery

/-- The messages change, but not their queries. -/
theorem InvBut.updateMessaging {m : Messaging} (h : InvBut w owed)
    (hm : SameQuery w.modem.messaging m) : InvBut (w.updateMessaging m) owed := by
  obtain ⟨hsource,hepoch,hpending,hdirty⟩ := hm
  apply h.of_one .sms
  · rfl
  · intro other ho
    cases other with
    | sim => exact ⟨rfl,rfl,rfl⟩
    | bearers => exact ⟨rfl,rfl,rfl⟩
    | sms => exact absurd rfl ho
  · simp
  · intro hr
    have h₁ := h.counted .sms hr
    simpa [flagsOf,inFlight,RefreshWorld.updateMessaging,hsource,hepoch,hpending,hdirty] using h₁
  · intro hlive howed hd
    apply h.answered hlive .sms howed
    simpa [flagsOf,RefreshWorld.updateMessaging,hdirty] using hd
  · exact h.lists.congr hsource hepoch

/-- A notification about the messages. -/
theorem InvBut.smsNotified (h : InvBut w none) : InvBut (w.mark .sms .notified).querySms none :=
  (h.notified .sms).querySms fun _ ho => Option.some_inj.not.mpr ho.symm

/-- An epoch change drops the queries of the old epoch. -/
theorem InvBut.changeEpoch (h : InvBut w none) (messaging : Option Nat) :
    InvBut ((w.updateMessaging (w.modem.messaging.changeEpoch messaging)).mark .sms .notified)
      (some .sms) := by
  have hcases := Messaging.changeEpoch_cases w.modem.messaging messaging
  have hidle : (w.modem.messaging.changeEpoch messaging).smsQueryPending = false ∧
      (w.modem.messaging.changeEpoch messaging).smsQueryDirty = false := by
    simp only [Messaging.changeEpoch]
    split
    · exact ⟨rfl,rfl⟩
    · split <;> exact ⟨rfl,rfl⟩
  have hfresh : ∀ source,
      (w.modem.messaging.changeEpoch messaging).messaging = some source →
      .list source (w.modem.messaging.changeEpoch messaging).messagingGeneration ∉ w.lists := by
    intro source hsource hm
    have h₁ := h.lists.epochs source _ hm
    rcases hcases with hnext | ⟨_,hnone⟩
    · omega
    · simp [hnone] at hsource
  apply h.of_one .sms
  · rfl
  · intro other ho
    cases other with
    | sim => exact ⟨rfl,rfl,by simp [mark,RefreshWorld.updateMessaging]⟩
    | bearers => exact ⟨rfl,rfl,by simp [mark,RefreshWorld.updateMessaging]⟩
    | sms => exact absurd rfl ho
  · simp
  · intro _
    simp only [flagsOf,inFlight,mark,RefreshWorld.updateMessaging,hidle.1,hidle.2]
    split
    · exact .idle
    · rename_i source hsource
      have h₁ := hfresh source hsource
      rw [← count_lists,List.count_eq_zero.mpr h₁]
      exact .idle
  · simp
  · constructor
    · intro source epoch hm
      have h₁ := h.lists.epochs source epoch hm
      rcases hcases with hnext | ⟨hsame,_⟩
      · simp only [mark,RefreshWorld.updateMessaging,hnext]
        omega
      · simpa [mark,RefreshWorld.updateMessaging,hsame] using h₁
    · intro source hm
      cases hsource : (w.modem.messaging.changeEpoch messaging).messaging with
      | none => exact .inl hsource
      | some other =>
        rcases hcases with hnext | ⟨_,hnone⟩
        · have h₁ := h.lists.epochs source _ hm
          simp only [mark,RefreshWorld.updateMessaging,hnext] at h₁
          omega
        · simp [hnone] at hsource
    · exact h.lists.once

theorem InvBut.reconcileMessaging (h : InvBut w none) (forceEpoch : Bool)
    (messaging : Option Nat) : InvBut (w.reconcileMessaging forceEpoch messaging) none := by
  rw [RefreshWorld.reconcileMessaging]
  split
  · exact h
  · exact (h.changeEpoch messaging).querySms fun _ ho => Option.some_inj.not.mpr ho.symm

theorem smsAdded_sameQuery (m : Messaging) (path : Option CString) :
    SameQuery m (m.smsAdded path) := by
  rw [Messaging.smsAdded]
  split
  · exact ⟨rfl,rfl,rfl,rfl⟩
  · exact ⟨rfl,rfl,rfl,rfl⟩

theorem smsDeleted_sameQuery (m : Messaging) (path : CString) :
    SameQuery m (m.smsDeleted path) := by
  simp only [Messaging.smsDeleted]
  split_ifs
  all_goals
    split
    · exact ⟨rfl,rfl,rfl,rfl⟩
    · exact ⟨rfl,rfl,rfl,rfl⟩

theorem rebuildCache_sameQuery (m : Messaging) (properties : Nat → SmsProperties)
    (messages : List MMSms) (drawn : Nat) :
    SameQuery m (m.rebuildCache random ref generation properties messages drawn).1 := by
  simp only [Messaging.rebuildCache]
  split
  · exact ⟨rfl,rfl,rfl,rfl⟩
  · exact ⟨rfl,rfl,rfl,rfl⟩

theorem InvBut.smsAdded (h : InvBut w none) (path : Option CString) :
    InvBut (w.smsAdded path) none := by
  rw [RefreshWorld.smsAdded]
  split
  · exact h
  · exact (h.updateMessaging (smsAdded_sameQuery w.modem.messaging path)).smsNotified

theorem InvBut.smsDeleted (h : InvBut w none) (path : Option CString) :
    InvBut (w.smsDeleted path) none := by
  rw [RefreshWorld.smsDeleted]
  split
  · exact h
  · split
    · exact h
    · rename_i path _
      exact (h.updateMessaging (smsDeleted_sameQuery w.modem.messaging path)).smsNotified

/-- A listing that is no longer wanted has come back. -/
theorem InvBut.listDropped {source epoch : Nat} (h : InvBut w none)
    (hstale : w.modem.live = false ∨ w.modem.messaging.messaging ≠ some source ∨
      w.modem.messaging.messagingGeneration ≠ epoch) :
    InvBut {w with calls := w.calls.erase (.list source epoch)} none := by
  apply h.of_one .sms
  · rfl
  · intro other ho
    cases other with
    | sim => exact ⟨rfl,List.count_erase_of_ne (by simp),rfl⟩
    | bearers => exact ⟨rfl,List.count_erase_of_ne (by simp),rfl⟩
    | sms => exact absurd rfl ho
  · simp
  · intro hr
    have hlive : w.modem.live = true := by simpa using hr
    have hcount := h.counted .sms (.inr hlive)
    simp only [inFlight] at hcount ⊢
    cases hsource : w.modem.messaging.messaging with
    | none => simpa [hsource,flagsOf] using hcount
    | some current =>
      have hne : RefreshCall.list current w.modem.messaging.messagingGeneration ≠
          .list source epoch := by
        simp only [hlive,hsource] at hstale
        simp only [ne_eq,RefreshCall.list.injEq]
        rintro ⟨rfl,rfl⟩
        simp at hstale
      rw [hsource] at hcount
      simpa [List.count_erase_of_ne hne,flagsOf] using hcount
  · intro hlive _ hd
    exact h.answered hlive .sms (by simp) hd
  · exact h.lists.sublist (List.erase_sublist.filter _)

/-- The listing of the current epoch has come back, and the messages were read from it. -/
theorem InvBut.listAnswered {source : Nat} {m : Messaging} (h : InvBut w none)
    (hlive : w.modem.live = true) (hsource : w.modem.messaging.messaging = some source)
    (hcall : .list source w.modem.messaging.messagingGeneration ∈ w.calls)
    (hm : SameQuery {w.modem.messaging with smsQueryPending := false,smsQueryDirty := false} m)
    (drawn : Nat) :
    InvBut {w.updateMessaging m with
      calls := w.calls.erase (.list source w.modem.messaging.messagingGeneration)
      drawn := drawn}
      (if w.modem.messaging.smsQueryDirty then some .sms else none) := by
  obtain ⟨hsource',hepoch,hpending,hdirty⟩ := hm
  have hcount := h.counted .sms (.inr hlive)
  have hpositive : 0 < w.calls.count (.list source w.modem.messaging.messagingGeneration) :=
    List.count_pos_iff.mpr hcall
  have herase : w.calls.count (.list source w.modem.messaging.messagingGeneration) =
      (w.calls.erase (.list source w.modem.messaging.messagingGeneration)).count
        (.list source w.modem.messaging.messagingGeneration)+1 := by
    rw [List.count_erase_self]
    omega
  apply h.of_one .sms
  · rfl
  · intro other ho
    cases other with
    | sim => exact ⟨rfl,List.count_erase_of_ne (by simp),rfl⟩
    | bearers => exact ⟨rfl,List.count_erase_of_ne (by simp),rfl⟩
    | sms => exact absurd rfl ho
  · simp
  · intro _
    simp only [inFlight,hsource,herase] at hcount
    simp only [flagsOf,inFlight,RefreshWorld.updateMessaging,hsource',hsource,hepoch,hpending,
      hdirty]
    exact hcount.completed
  · intro _ howed _
    apply h.answered hlive .sms (by simp)
    simpa [flagsOf] using howed
  · exact (h.lists.sublist (List.erase_sublist.filter _)).congr hsource' hepoch

theorem InvBut.smsListReady {source epoch : Nat} (h : InvBut w none)
    (hcall : .list source epoch ∈ w.calls) (messages : List MMSms) (error : Option GError) :
    InvBut ({w with calls := w.calls.erase (.list source epoch)}.smsListReady random ref
      generation source epoch messages error) none := by
  simp only [RefreshWorld.smsListReady]
  split
  · rename_i hstale
    apply h.listDropped
    simpa [or_assoc] using hstale
  rename_i hcurrent
  simp only [Bool.or_eq_true,Bool.not_eq_true',bne_iff_ne,ne_eq,not_or,Decidable.not_not,
    Bool.not_eq_false] at hcurrent
  obtain ⟨⟨hlive,hsource⟩,rfl⟩ := hcurrent
  have hanswered : InvBut (if messages.isEmpty && error.isSome then
        {w with calls := w.calls.erase (.list source w.modem.messaging.messagingGeneration)}
          |>.updateMessaging (Messaging.listFailed {w.modem.messaging with
            smsQueryPending := false,smsQueryDirty := false}
            (gErrorMatches error (.io .cancelled)))
      else
        {{w with calls := w.calls.erase (.list source w.modem.messaging.messagingGeneration)}
          |>.updateMessaging (Messaging.rebuildCache random {w.modem.messaging with
            smsQueryPending := false,smsQueryDirty := false} ref generation w.properties messages
            w.drawn).1 with
          drawn := (Messaging.rebuildCache random {w.modem.messaging with
            smsQueryPending := false,smsQueryDirty := false} ref generation w.properties messages
            w.drawn).2})
      (if w.modem.messaging.smsQueryDirty then some .sms else none) := by
    split
    · exact h.listAnswered (m:=Messaging.listFailed {w.modem.messaging with
        smsQueryPending := false,smsQueryDirty := false} (gErrorMatches error (.io .cancelled)))
        hlive hsource hcall ⟨rfl,rfl,rfl,rfl⟩ w.drawn
    · exact h.listAnswered hlive hsource hcall (rebuildCache_sameQuery _ _ _ _) _
  cases hdirty : w.modem.messaging.smsQueryDirty with
  | false =>
    rw [hdirty] at hanswered
    simpa [hdirty] using hanswered
  | true =>
    rw [hdirty,if_pos rfl] at hanswered
    simpa [hdirty] using hanswered.querySms fun _ ho => Option.some_inj.not.mpr ho.symm

theorem InvBut.propertiesChanged (h : InvBut w none) (messaging : Option Nat)
    (modemInterface simUpdated primarySlotUpdated bearersUpdated : Bool) :
    InvBut (w.propertiesChanged messaging modemInterface simUpdated primarySlotUpdated
      bearersUpdated) none := by
  have h₁ := h.reconcileMessaging false messaging
  cases hinterface : modemInterface with
  | false => simpa [RefreshWorld.propertiesChanged] using h₁
  | true =>
  simp only [RefreshWorld.propertiesChanged,Bool.not_true,Bool.false_eq_true,if_false]
  have h₂ : InvBut (if simUpdated || primarySlotUpdated then
      (w.reconcileMessaging false messaging).reconcileMessaging true messaging
      else w.reconcileMessaging false messaging) none := by
    split
    · exact h₁.reconcileMessaging true messaging
    · exact h₁
  have h₃ : ∀ {v : RefreshWorld}, InvBut v none →
      InvBut (if simUpdated then (v.mark .sim .notified).querySim else v) none := by
    intro v hv
    split
    · exact (hv.notified .sim).querySim fun _ ho => Option.some_inj.not.mpr ho.symm
    · exact hv
  have h₄ := h₃ h₂
  split
  · exact (h₄.notified .bearers).queryBearers fun _ ho => Option.some_inj.not.mpr ho.symm
  · exact h₄

theorem InvBut.smsReconcile (h : InvBut w none) (messaging : Option Nat) :
    InvBut (w.smsReconcile messaging) none := by
  have h₁ := h.reconcileMessaging false messaging
  rw [RefreshWorld.smsReconcile]
  split
  · exact h₁.smsNotified
  · exact h₁

theorem InvBut.modemMarkRemoved (h : InvBut w none) : InvBut w.modemMarkRemoved none := by
  have h₁ := h.updateMessaging (m:=w.modem.messaging.clearSmsCache) ⟨rfl,rfl,rfl,rfl⟩
  constructor
  · intro r hr
    have hr : r ≠ .sms := by simpa [RefreshWorld.modemMarkRemoved] using hr
    have h₂ := h.counted r (.inl hr)
    cases r with
    | sim => exact h₂
    | bearers => exact h₂
    | sms => exact absurd rfl hr
  · intro hlive
    simp [RefreshWorld.modemMarkRemoved] at hlive
  · exact h₁.lists

theorem InvBut.handle {event : Event} (h : InvBut w none) (hcompletes : event.completes = none)
    (hs : handle random ref generation w event = some w') : InvBut w' none := by
  cases event with
  | simReady sim error => simp [Event.completes] at hcompletes
  | bearersReady bearers error => simp [Event.completes] at hcompletes
  | smsListReady source epoch messages error => simp [Event.completes] at hcompletes
  | propertiesChanged messaging modemInterface simUpdated primarySlotUpdated bearersUpdated =>
    simp only [Refresh.handle,Option.ite_none_right_eq_some] at hs
    obtain rfl := Option.some.inj hs.2
    exact h.propertiesChanged _ _ _ _ _
  | reconciled messaging =>
    simp only [Refresh.handle,Option.ite_none_right_eq_some] at hs
    obtain rfl := Option.some.inj hs.2
    exact h.reconcileMessaging _ _
  | smsReconcile messaging =>
    simp only [Refresh.handle,Option.ite_none_right_eq_some] at hs
    obtain rfl := Option.some.inj hs.2
    exact h.smsReconcile _
  | smsAdded path =>
    simp only [Refresh.handle,Option.ite_none_right_eq_some] at hs
    obtain rfl := Option.some.inj hs.2
    exact h.smsAdded _
  | smsDeleted path =>
    simp only [Refresh.handle,Option.ite_none_right_eq_some] at hs
    obtain rfl := Option.some.inj hs.2
    exact h.smsDeleted _
  | refreshSms =>
    obtain rfl := Option.some.inj hs
    exact h.smsNotified
  | operated m =>
    simp only [Refresh.handle,Option.ite_none_right_eq_some] at hs
    obtain rfl := Option.some.inj hs.2
    exact h.updateMessaging hs.1
  | removed =>
    simp only [Refresh.handle,Option.ite_none_right_eq_some] at hs
    obtain rfl := Option.some.inj hs.2
    exact h.modemMarkRemoved

theorem InvBut.step {event : Event × Option CString × (Nat → SmsProperties)}
    (h : InvBut w none) (hs : Refresh.step random ref generation w event = some w') :
    InvBut w' none := by
  obtain ⟨event,simPath,properties⟩ := event
  have h₁ : InvBut {w with simPath := simPath,properties := properties} none :=
    ⟨h.counted,h.answered,h.lists⟩
  cases hcall : event.completes with
  | none =>
    simp only [Refresh.step,hcall] at hs
    exact h₁.handle hcall hs
  | some call =>
    simp only [Refresh.step,hcall,Option.ite_none_right_eq_some] at hs
    obtain ⟨hm,hs⟩ := hs
    cases event with
    | simReady sim error =>
      obtain rfl := Option.some.inj hcall
      obtain rfl := Option.some.inj hs
      exact h₁.simReady hm sim error
    | bearersReady bearers error =>
      obtain rfl := Option.some.inj hcall
      obtain rfl := Option.some.inj hs
      exact h₁.bearersReady hm bearers error
    | smsListReady source epoch messages error =>
      obtain rfl := Option.some.inj hcall
      obtain rfl := Option.some.inj hs
      exact h₁.smsListReady hm messages error
    | _ => simp [Event.completes] at hcall

theorem InvBut.of_initial (h : Initial w) : InvBut w none := by
  obtain ⟨simPath,properties,drawn,messaging,rfl⟩ := h
  have hidle : InvBut (⟨RefreshModem.new,[],simPath,properties,drawn,fun _ => []⟩ : RefreshWorld)
      none := by
    constructor
    · intro r _
      cases r <;> exact .idle
    · intro _ r _ _
      simp [Answered]
    · exact ⟨by simp [RefreshWorld.lists],by simp [RefreshWorld.lists],
        by simp [RefreshWorld.lists]⟩
  rw [RefreshWorld.admitted]
  exact ((hidle.querySim (by simp)).queryBearers (by simp)).reconcileMessaging false messaging

theorem InvBut.of_reachable (h : (refreshSystem random ref generation).Reachable w) :
    InvBut w none :=
  h.invariant (fun _ => InvBut.of_initial) fun _ _ _ hw hs => hw.step hs

/-- What the replies about a modem are made from. -/
def SameData (m m' : RefreshModem) : Prop :=
  m'.sim = m.sim ∧ m'.simCacheState = m.simCacheState ∧ m'.bearers = m.bearers ∧
    m'.bearerCacheState = m.bearerCacheState ∧ m'.messaging = m.messaging

theorem smsListReady_stale {source epoch : Nat} {messages : List MMSms} {error : Option GError}
    (hstale : w.modem.live = false ∨ w.modem.messaging.messaging ≠ some source ∨
      epoch ≠ w.modem.messaging.messagingGeneration) :
    w.smsListReady random ref generation source epoch messages error = w := by
  simp only [RefreshWorld.smsListReady]
  apply if_pos
  rcases hstale with hdead | hsource | hepoch
  · simp [hdead]
  · simp [hsource]
  · simp [hepoch.symm]

/-- The completion of a query of a removed modem. -/
theorem step_removed {event : Event × Option CString × (Nat → SmsProperties)} {call : RefreshCall}
    (hlive : w.modem.live = false) (hcall : event.1.completes = some call)
    (hs : Refresh.step random ref generation w event = some w') :
    w'.calls = w.calls.erase call ∧ SameData w.modem w'.modem := by
  obtain ⟨event,simPath,properties⟩ := event
  simp only at hcall
  simp only [Refresh.step,hcall,Option.ite_none_right_eq_some] at hs
  obtain ⟨_,hs⟩ := hs
  cases event with
  | simReady sim error =>
    obtain rfl := Option.some.inj hs
    simp [RefreshWorld.simReady,hlive,SameData]
  | bearersReady bearers error =>
    obtain rfl := Option.some.inj hs
    simp [RefreshWorld.bearersReady,hlive,SameData]
  | smsListReady source epoch messages error =>
    obtain rfl := Option.some.inj hs
    simp [RefreshWorld.smsListReady,hlive,SameData]
  | _ => simp [Event.completes] at hcall

/-- No notification of a live modem is lost, and completions that come too late change nothing. -/
theorem refresh_losesNothing (h : (refreshSystem random ref generation).Reachable w) :
    (w.modem.live = true → ∀ r, w.inFlight r ≤ 1 ∧ (w.inFlight r = 0 → Answered (w.marks r))) ∧
    (∀ epoch, w.lists.countP (·.ofEpoch epoch) ≤ 1) ∧
    (∀ event call w', w.modem.live = false → event.1.completes = some call →
      (refreshSystem random ref generation).step w event = some w' →
      w'.calls = w.calls.erase call ∧ SameData w.modem w'.modem) ∧
    ∀ source epoch messages error simPath properties w',
      epoch ≠ w.modem.messaging.messagingGeneration →
      (refreshSystem random ref generation).step w
        (.smsListReady source epoch messages error,simPath,properties) = some w' →
      w'.modem = w.modem ∧ w'.calls = w.calls.erase (.list source epoch) := by
  have hw := InvBut.of_reachable h
  constructor
  · intro hlive r
    have hr := hw.coalesced hlive (r:=r) (by simp)
    refine ⟨hr.le_one,fun hidle => ?_⟩
    rw [hidle] at hr
    exact hr.answered_idle
  refine ⟨hw.lists.once,fun event call w' hlive hcall hs => step_removed hlive hcall hs,?_⟩
  intro source epoch messages error simPath properties w' hepoch hs
  simp only [refreshSystem,Refresh.step,Event.completes,Option.ite_none_right_eq_some] at hs
  obtain ⟨_,hs⟩ := hs
  obtain rfl := Option.some.inj hs
  rw [smsListReady_stale]
  · exact ⟨rfl,rfl⟩
  · exact .inr (.inr hepoch)

def sampleProperties (_ : Nat) : SmsProperties :=
  ⟨none,.unknown,none,none,none,.unknown,0,0,.unknown,0⟩

/-- A modem without a SIM that was admitted with a messaging object. -/
def sampleAdmitted : RefreshWorld :=
  (⟨RefreshModem.new,[],none,sampleProperties,0,fun _ => []⟩ : RefreshWorld).admitted (some 7)

/-- A message arrives during the first listing, then the messaging object is replaced, and the
listing of the first epoch comes back. -/
def sampleOvertaken : List (Event × Option CString × (Nat → SmsProperties)) :=
  [.smsAdded none,.reconciled (some 8),.smsListReady 7 1 [] none].map
    fun event => (event,none,sampleProperties)

def sampleSystem : System RefreshWorld (Event × Option CString × (Nat → SmsProperties)) :=
  refreshSystem (fun _ => none) 0 1

theorem sampleOvertaken_calls : (sampleSystem.run sampleAdmitted sampleOvertaken).map
    (fun w => (w.modem.live,w.calls)) = some (true,[.bearers,.list 8 2]) := by
  decide +kernel

/-- The rule at a run that leaves the messages to the second listing. -/
theorem refresh_losesNothing_sample :
    ∃ w, sampleSystem.run sampleAdmitted sampleOvertaken = some w ∧
      w.calls = [.bearers,.list 8 2] ∧ (∀ r, w.inFlight r ≤ 1) ∧ Answered (w.marks .sim) := by
  obtain ⟨w,hw,hcalls⟩ := Option.map_eq_some_iff.mp sampleOvertaken_calls
  obtain ⟨hlive,hcalls⟩ := Prod.mk.inj hcalls
  have hreach : sampleSystem.Reachable w := System.reachable_run
    (.start ⟨none,sampleProperties,0,some 7,rfl⟩) hw
  have hlaw := (refresh_losesNothing hreach).1 hlive
  refine ⟨w,hw,hcalls,fun r => (hlaw r).1,(hlaw .sim).2 ?_⟩
  rw [inFlight,hcalls]
  decide

end Refresh
end L850GL
