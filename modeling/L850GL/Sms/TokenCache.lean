import L850GL.Lib.ExpiringMap
import L850GL.Sms.Cache

/-! The queue of recent client tokens is a map from each token to its last result. -/
namespace L850GL
namespace Sms

open ExpiringQueue (Keys Represents)

/-- A call of `sms_dedupe_store`, `sms_dedupe_find` or `sms_dedupe_remove` at a time. -/
inductive TokenCall
  | store (now : Int) (clientToken : CString) (result : SmsResult)
  | find (now : Int) (clientToken : CString)
  | remove (now : Int) (clientToken : CString)

namespace TokenCall

def now : TokenCall → Int
  | store now _ _ | find now _ | remove now _ => now

/-- What a call leaves in the modem. -/
def apply (m : Messaging) : TokenCall → Messaging
  | store now clientToken result => m.smsDedupeStore now clientToken result
  | find now clientToken => (m.smsDedupeFind now clientToken).1
  | remove now clientToken => m.smsDedupeRemove now clientToken

/-- What a call means for the map of tokens. -/
noncomputable def meaning (map : ExpiringMap CString SmsResult) :
    TokenCall → ExpiringMap CString SmsResult
  | store now clientToken result =>
    map.store (·+dedupeWindow) l850glSmsDedupeMax now clientToken result
  | find _ _ => map
  | remove _ clientToken => map.remove clientToken

end TokenCall

/-- The map after some calls. -/
noncomputable def tokenMap (calls : List TokenCall) : ExpiringMap CString SmsResult :=
  calls.foldl TokenCall.meaning .empty

/-- What `g_get_monotonic_time` may return. -/
def MonotonicTime (now : Int) : Prop := 0 ≤ now ∧ now < int64Max

/-- The times of some calls and a last one, in order. -/
def NonDecreasing (calls : List TokenCall) (now : Int) : Prop :=
  (calls.map (·.now)++[now]).Pairwise (· ≤ ·) ∧ ∀ t ∈ calls.map (·.now)++[now],MonotonicTime t

structure TokenInv (q : List SmsDedupe) (map : ExpiringMap CString SmsResult) (now : Int) :
    Prop where
  represents : Represents q map l850glSmsDedupeExpiry now
  length : q.length ≤ l850glSmsDedupeMax
  stamped : ∀ token stored, map.entries token = some stored → 0 ≤ stored.storedAt

variable {m : Messaging} {map : ExpiringMap CString SmsResult} {now later : Int}
  {q : List SmsDedupe}

/-- Within the range of the clock an entry expires 300 s after its store. -/
theorem lt_l850glSmsDedupeExpiry_iff {stored : Int} (hs : 0 ≤ stored) (hn : MonotonicTime now) :
    now < l850glSmsDedupeExpiry stored ↔ now < stored+dedupeWindow := by
  obtain ⟨h₁,h₂⟩ := hn
  simp only [l850glSmsDedupeExpiry,int64Max,dedupeWindow,l850glSmsDedupeSeconds] at h₂ ⊢
  split_ifs <;> omega

theorem TokenInv.visible_eq (h : TokenInv q map now) (hn : MonotonicTime later) :
    map.visible l850glSmsDedupeExpiry later = map.visible (·+dedupeWindow) later :=
  ExpiringMap.visible_congr fun token stored hstored =>
    lt_l850glSmsDedupeExpiry_iff (h.stamped token stored hstored) hn

theorem tokenInv_empty : TokenInv [] .empty now :=
  ⟨ExpiringQueue.represents_empty,by simp,by simp [ExpiringMap.empty]⟩

theorem TokenInv.prune (h : TokenInv q map now) (hle : now ≤ later) :
    TokenInv (ExpiringQueue.prune later q) map later where
  represents := h.represents.prune hle
  length := (List.length_filter_le _ _).trans h.length
  stamped := h.stamped

theorem prune_unexpired : ∀ e ∈ ExpiringQueue.prune now q, now < e.expiresAt :=
  fun _ he => (ExpiringQueue.mem_prune.mp he).2

/-- One call keeps the queue a map. -/
theorem TokenInv.apply (h : TokenInv m.smsDedupe map now) (call : TokenCall)
    (hle : now ≤ call.now) (hn : MonotonicTime call.now) :
    TokenInv (call.apply m).smsDedupe (call.meaning map) call.now := by
  have hp := h.prune hle
  cases call with
  | store later token result =>
    have hstore := hp.represents.store prune_unexpired hp.length (by decide) token result
    have hcongr := ExpiringMap.store_congr (hp.visible_eq hn) l850glSmsDedupeMax token result
    constructor
    · rw [hcongr] at hstore
      exact hstore
    · exact ExpiringQueue.length_put (by decide) hp.length
    · intro key stored hstored
      rcases ExpiringMap.entries_store hstored with hs | hs
      · rw [hs]
        exact hn.1
      · exact h.stamped key stored hs
  | find later token => exact hp
  | remove later token =>
    constructor
    · exact hp.represents.remove token
    · exact List.eraseP_sublist.length_le.trans hp.length
    · intro key stored hstored
      exact h.stamped key stored (ExpiringMap.entries_remove hstored)

/-- Every run of calls keeps the queue a map. -/
theorem TokenInv.run (calls : List TokenCall) (h : TokenInv m.smsDedupe map now)
    (hle : now ≤ later) (hcalls : ∀ call ∈ calls,now ≤ call.now)
    (horder : NonDecreasing calls later) :
    ∃ last ≤ later,TokenInv (calls.foldl TokenCall.apply m).smsDedupe
      (calls.foldl TokenCall.meaning map) last := by
  induction calls generalizing m map now with
  | nil => exact ⟨now,hle,h⟩
  | cons call calls ih =>
    obtain ⟨hpairwise,htimes⟩ := horder
    simp only [List.map_cons,List.cons_append,List.pairwise_cons] at hpairwise
    simp only [List.map_cons,List.cons_append,List.mem_cons,forall_eq_or_imp] at htimes
    have hcall := h.apply call (hcalls call (by simp)) htimes.1
    have hlater : call.now ≤ later := hpairwise.1 later (by simp)
    refine ih hcall hlater ?_ ⟨hpairwise.2,htimes.2⟩
    intro call' hcall'
    exact hpairwise.1 call'.now (List.mem_append_left _ (List.mem_map_of_mem hcall'))

theorem tokenInv_calls (hempty : m.smsDedupe = []) {calls : List TokenCall}
    (horder : NonDecreasing calls now) :
    ∃ last ≤ now,TokenInv (calls.foldl TokenCall.apply m).smsDedupe (tokenMap calls) last := by
  have hstart : ∀ t,TokenInv m.smsDedupe .empty t := by
    intro t
    rw [hempty]
    exact tokenInv_empty
  cases calls with
  | nil => exact ⟨now,le_rfl,hstart now⟩
  | cons call calls =>
    have hpairwise := horder.1
    simp only [List.map_cons,List.cons_append,List.pairwise_cons] at hpairwise
    refine (hstart call.now).run (call::calls) (hpairwise.1 now (by simp)) ?_ horder
    intro call' hcall'
    rcases List.mem_cons.mp hcall' with rfl | hcall'
    · exact le_rfl
    · exact hpairwise.1 call'.now (List.mem_append_left _ (List.mem_map_of_mem hcall'))

/-- The token queue refines a bounded map whose entries are seen for 300 s after their last
store: its tokens are distinct, it answers as the map does, it always keeps the token just
stored, and a store drops only the oldest token, for a new one in a full map. -/
theorem smsDedupe_refinesTokenMap (m : Messaging) (hempty : m.smsDedupe = [])
    (calls : List TokenCall) (now : Int) (horder : NonDecreasing calls now) :
    let m' := calls.foldl TokenCall.apply m
    let map := tokenMap calls
    (Keys m'.smsDedupe).Nodup ∧ m'.smsDedupe.length ≤ l850glSmsDedupeMax ∧
      (∀ token,(m'.smsDedupeFind now token).2.map (·.value) =
        (map.visible (·+dedupeWindow) now token).map (·.value)) ∧
      (∀ token result,((m'.smsDedupeStore now token result).smsDedupeFind now token).2.map
        (·.value) = some result) ∧
      ∀ token result, ∀ e ∈ (m'.smsDedupePrune now).smsDedupe,
        e.key ∉ Keys (m'.smsDedupeStore now token result).smsDedupe →
          map.visible (·+dedupeWindow) now token = none ∧
            map.Full (·+dedupeWindow) l850glSmsDedupeMax now ∧
            map.Oldest (·+dedupeWindow) now e.key := by
  intro m' map
  obtain ⟨last,hlast,hinv⟩ := tokenInv_calls hempty horder
  have hnow : MonotonicTime now := horder.2 now (by simp)
  have hp := hinv.prune hlast
  have hvisible := hp.visible_eq hnow
  refine ⟨hinv.represents.nodup,hinv.length,?_,?_,?_⟩
  · intro token
    have hfind := hp.represents.visible prune_unexpired token
    rw [hvisible] at hfind
    exact hfind
  · intro token result
    have hstored : TokenInv (m'.smsDedupeStore now token result).smsDedupe
        (map.store (·+dedupeWindow) l850glSmsDedupeMax now token result) now :=
      hinv.apply (.store now token result) hlast hnow
    have hfind := (hstored.prune le_rfl).represents.visible prune_unexpired token
    rw [hstored.visible_eq hnow] at hfind
    have hwindow : now < now+dedupeWindow := by
      have h₁ : (0 : Int) < dedupeWindow := by decide
      omega
    obtain ⟨stored,hs,hvalue⟩ :=
      map.visible_store (·+dedupeWindow) l850glSmsDedupeMax hwindow token result
    rw [hs,Option.map_some,hvalue] at hfind
    exact hfind
  · intro token result e he hkey
    have hdropped := hp.represents.dropped prune_unexpired hp.length (by decide) he hkey
    simpa only [ExpiringMap.Full,ExpiringMap.Oldest,hvisible] using hdropped

/-- A run with a store, a later store of the same token and a removal. -/
theorem smsDedupe_refinesTokenMap_sample :
    let result : SmsResult := ⟨true,none,none,none,false,none⟩
    let calls : List TokenCall :=
      [.store 5 "a".toList result,.store 7 "b".toList result,.remove 9 "b".toList]
    NonDecreasing calls 9 ∧
      (((calls.foldl TokenCall.apply Messaging.new).smsDedupeFind 9 "b".toList).2.map (·.value) =
        ((tokenMap calls).visible (·+dedupeWindow) 9 "b".toList).map (·.value)) := by
  intro result calls
  have horder : NonDecreasing calls 9 := by
    refine ⟨by decide,?_⟩
    simp [calls,TokenCall.now,MonotonicTime,int64Max]
  exact ⟨horder,(smsDedupe_refinesTokenMap Messaging.new rfl calls 9 horder).2.2.1 _⟩

end Sms
end L850GL
