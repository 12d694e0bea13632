import L850GL.Frontend.Carrier
import L850GL.Lib.AssocList

/-! The carriers that the overview goes on showing for a while: `carrierCache` of `overview.js`
through every sequence of inventories and carrier results. -/
namespace L850GL
namespace Frontend
namespace Overview

open JsValue Widgets AssocList

def carrierCacheMaxEntries : Nat := 64
def carrierCacheTtlMs : Int := 30000

/-- What the functions below read of a summary that `listError` admits. -/
structure Summary where
  modemId : CString
  generation : Int
  deriving DecidableEq,Repr

def Summary.value (summary : Summary) : JsValue :=
  .object [("modem_id",.string summary.modemId),("generation",.number summary.generation)]

structure CachedCarrier where
  generation : Int
  receivedAtMs : Int
  result : JsValue

/-- The properties of `carrierCache`, in the order in which they were added. -/
abbrev CarrierCache := List (CString × CachedCarrier)

/-- `live[modemId]` after the loop over the summaries. -/
def liveGeneration (summaries : List Summary) (modemId : CString) : Option Int :=
  (summaries.reverse.find? fun summary => summary.modemId == modemId).map (·.generation)

/-- `summaries` is nothing when it is no array. -/
def pruneCarrierCache (cache : CarrierCache) (summaries : Option (List Summary)) : CarrierCache :=
  match summaries with
  | none => []
  | some summaries =>
    if carrierCacheMaxEntries < summaries.length then []
    else cache.filter fun entry =>
      liveGeneration summaries entry.1 == some entry.2.generation

def earlier (oldest : Option (CString × CachedCarrier)) (entry : CString × CachedCarrier) :
    Option (CString × CachedCarrier) :=
  match oldest with
  | none => some entry
  | some first => if entry.2.receivedAtMs < first.2.receivedAtMs then some entry else some first

/-- The first key when they are sorted by `received_at_ms`. -/
def oldestModemId (cache : CarrierCache) : Option CString := (cache.foldl earlier none).map (·.1)

/-- `carrierCache[modemId] = cached`. -/
def assignCarrier (cache : CarrierCache) (modemId : CString) (cached : CachedCarrier) :
    CarrierCache :=
  if (cache.lookup modemId).isSome then
    cache.map fun entry => if entry.1 = modemId then (modemId,cached) else entry
  else cache++[(modemId,cached)]

def rememberCarrier (cache : CarrierCache) (result : JsValue) (summary : Summary)
    (receivedAtMs : Int) : CarrierCache :=
  let cache :=
    if (cache.lookup summary.modemId).isNone && carrierCacheMaxEntries ≤ cache.length then
      match oldestModemId cache with
      | none => cache
      | some oldest => remove cache oldest
    else cache
  assignCarrier cache summary.modemId ⟨summary.generation,receivedAtMs,result⟩

/-- Whether a cached result may stand in for a transient error. -/
def isReusable (cached : CachedCarrier) (summary : Summary) (now : Int) : Bool :=
  let age := now-cached.receivedAtMs
  cached.generation == summary.generation && -maxSafeInteger ≤ age && age ≤ maxSafeInteger &&
    0 ≤ age && age ≤ carrierCacheTtlMs

/-- `selectCarrier` at the time `now` of the page's clock: the cache it leaves and the result it
returns. -/
def selectCarrier (cache : CarrierCache) (now : Int) (result : JsValue) (summary : Summary) :
    CarrierCache × JsValue :=
  if carrierInfoError result summary.value == none then
    (rememberCarrier cache result summary now,result)
  else
    let cached := cache.lookup summary.modemId
    match cached.filter fun cached =>
        carrierTransientError result summary.value && isReusable cached summary now with
    | some cached => (cache,cached.result)
    | none => (remove cache summary.modemId,result)

/-- What happens to the cache. -/
inductive CarrierEvent
  | cleared
  | inventory (summaries : Option (List Summary))
  | received (now : Int) (result : JsValue) (summary : Summary)

def carrierStep (cache : CarrierCache) : CarrierEvent → CarrierCache
  | .cleared => []
  | .inventory summaries => pruneCarrierCache cache summaries
  | .received now result summary => (selectCarrier cache now result summary).1

def carrierRun (events : List CarrierEvent) : CarrierCache := events.foldl carrierStep []

/-- The events that leave a result of a modem and its generation in the cache. -/
def Spares (modemId : CString) (generation : Int) : CarrierEvent → Prop
  | .cleared => False
  | .inventory summaries => ∃ live,summaries = some live ∧
      live.length ≤ carrierCacheMaxEntries ∧ liveGeneration live modemId = some generation
  | .received _ result summary => summary.modemId = modemId →
      summary.generation = generation ∧ carrierTransientError result summary.value = true

/-- A result that was received, valid for its modem, and then only spared. -/
def StillGood (past : List CarrierEvent) (modemId : CString) (cached : CachedCarrier) : Prop :=
  ∃ before after,
    past = before++.received cached.receivedAtMs cached.result ⟨modemId,cached.generation⟩::after ∧
    carrierInfoError cached.result (Summary.value ⟨modemId,cached.generation⟩) = none ∧
    ∀ event ∈ after,Spares modemId cached.generation event

structure CacheInv (past : List CarrierEvent) (cache : CarrierCache) : Prop where
  nodup : (Keys cache).Nodup
  length : cache.length ≤ carrierCacheMaxEntries
  good : ∀ modemId cached,(modemId,cached) ∈ cache → StillGood past modemId cached

variable {past : List CarrierEvent} {cache : CarrierCache} {modemId : CString}
  {cached : CachedCarrier} {event : CarrierEvent}

theorem StillGood.spared (h : StillGood past modemId cached)
    (hevent : Spares modemId cached.generation event) :
    StillGood (past++[event]) modemId cached := by
  obtain ⟨before,after,rfl,hvalid,hspared⟩ := h
  refine ⟨before,after++[event],by simp,hvalid,fun other hother => ?_⟩
  rcases List.mem_append.mp hother with hother | hother
  · exact hspared other hother
  · rw [List.mem_singleton.mp hother]
    exact hevent

theorem mem_assignCarrier {entry : CString × CachedCarrier}
    (h : entry ∈ assignCarrier cache modemId cached) :
    entry = (modemId,cached) ∨ entry ∈ cache ∧ entry.1 ≠ modemId := by
  unfold assignCarrier at h
  split at h
  · obtain ⟨old,hold,rfl⟩ := List.mem_map.mp h
    by_cases hk : old.1 = modemId
    · simp [hk]
    · simp [hk,hold]
  · rename_i hnew
    rcases List.mem_append.mp h with h | h
    · right
      refine ⟨h,fun hk => ?_⟩
      simp only [Option.not_isSome_iff_eq_none,lookup_eq_none] at hnew
      exact hnew (hk ▸ List.mem_map_of_mem h)
    · exact .inl (List.mem_singleton.mp h)

theorem keys_assignCarrier (h : (Keys cache).Nodup) :
    (Keys (assignCarrier cache modemId cached)).Nodup := by
  unfold assignCarrier
  split
  · have hkeys : Keys (cache.map fun entry =>
        if entry.1 = modemId then (modemId,cached) else entry) = Keys cache := by
      simp only [Keys,List.map_map]
      refine List.map_congr_left fun entry _ => ?_
      by_cases hk : entry.1 = modemId
      · simp [hk]
      · simp [hk]
    rw [hkeys]
    exact h
  · rename_i hnew
    simp only [Option.not_isSome_iff_eq_none,lookup_eq_none] at hnew
    simp only [Keys,List.map_append,List.map_cons,List.map_nil]
    refine List.nodup_append.mpr ⟨h,by simp,?_⟩
    rintro a ha b hb rfl
    exact hnew (List.mem_singleton.mp hb ▸ ha)

theorem foldl_earlier (cache : CarrierCache) (first : CString × CachedCarrier) :
    ∃ entry,cache.foldl earlier (some first) = some entry ∧ (entry = first ∨ entry ∈ cache) := by
  induction cache generalizing first with
  | nil => exact ⟨first,rfl,.inl rfl⟩
  | cons head cache ih =>
    have hstep : earlier (some first) head = some head ∨
        earlier (some first) head = some first := by
      by_cases h : head.2.receivedAtMs < first.2.receivedAtMs
      · simp [earlier,h]
      · simp [earlier,h]
    rw [List.foldl_cons]
    rcases hstep with h | h
    · rw [h]
      obtain ⟨entry,hentry,hmem⟩ := ih head
      refine ⟨entry,hentry,.inr ?_⟩
      rcases hmem with rfl | hmem
      · simp
      · simp [hmem]
    · rw [h]
      obtain ⟨entry,hentry,hmem⟩ := ih first
      refine ⟨entry,hentry,?_⟩
      rcases hmem with rfl | hmem
      · simp
      · simp [hmem]

theorem oldestModemId_mem (h : cache ≠ []) :
    ∃ oldest ∈ Keys cache,oldestModemId cache = some oldest := by
  cases cache with
  | nil => exact absurd rfl h
  | cons head cache =>
    obtain ⟨entry,hentry,hmem⟩ := foldl_earlier cache head
    refine ⟨entry.1,List.mem_map_of_mem ?_,?_⟩
    · rcases hmem with rfl | hmem
      · simp
      · simp [hmem]
    · rw [oldestModemId,List.foldl_cons,show earlier none head = some head from rfl,hentry]
      rfl

/-- A stored result is there, and a full cache makes room for it. -/
theorem rememberCarrier_length (hlength : cache.length ≤ carrierCacheMaxEntries)
    (result : JsValue) (summary : Summary) (now : Int) :
    (rememberCarrier cache result summary now).length ≤ carrierCacheMaxEntries := by
  unfold rememberCarrier assignCarrier
  by_cases hknown : (cache.lookup summary.modemId).isSome = true
  · have hnone : (cache.lookup summary.modemId).isNone = false := by
      simpa [Option.isSome_iff_ne_none] using hknown
    simp only [hnone,Bool.false_and,Bool.false_eq_true,if_false,hknown,if_true,List.length_map]
    exact hlength
  · have hnone := Option.not_isSome_iff_eq_none.mp hknown
    by_cases hfull : carrierCacheMaxEntries ≤ cache.length
    · have hne : cache ≠ [] := by
        rintro rfl
        exact absurd hfull (by decide)
      obtain ⟨oldest,hmem,holdest⟩ := oldestModemId_mem hne
      have hremoved : (remove cache oldest).lookup summary.modemId = none := by
        rw [lookup_eq_none] at hnone ⊢
        exact fun h => hnone (mem_keys_remove.mp h).1
      have hshort : (remove cache oldest).length < cache.length := by
        obtain ⟨entry,hentry,rfl⟩ := List.mem_map.mp hmem
        exact List.length_filter_lt_length_iff_exists.mpr ⟨entry,hentry,by simp⟩
      simp only [hnone,Option.isNone_none,Bool.true_and,hfull,decide_true,if_true,holdest,hremoved,
        Option.isSome_none,Bool.false_eq_true,if_false,List.length_append,List.length_singleton]
      omega
    · simp only [hnone,Option.isNone_none,Bool.true_and,hfull,decide_false,Bool.false_eq_true,
        if_false,Option.isSome_none,List.length_append,List.length_singleton]
      omega

/-- The cache before the assignment of `rememberCarrier`. -/
theorem rememberCarrier_eq (cache : CarrierCache) (result : JsValue) (summary : Summary)
    (now : Int) : ∃ kept : CarrierCache,kept.Sublist cache ∧
      rememberCarrier cache result summary now =
        assignCarrier kept summary.modemId ⟨summary.generation,now,result⟩ := by
  unfold rememberCarrier
  dsimp only
  split
  · split
    · exact ⟨cache,.refl _,rfl⟩
    · exact ⟨_,List.filter_sublist,rfl⟩
  · exact ⟨cache,.refl _,rfl⟩

/-- What a carrier result leaves in the cache. -/
theorem mem_selectCarrier {entry : CString × CachedCarrier} {now : Int} {result : JsValue}
    {summary : Summary} (h : entry ∈ (selectCarrier cache now result summary).1) :
    (carrierInfoError result summary.value = none ∧
      entry = (summary.modemId,⟨summary.generation,now,result⟩)) ∨
    entry ∈ cache ∧ (entry.1 = summary.modemId →
      cache.lookup summary.modemId ≠ none ∧ carrierTransientError result summary.value = true ∧
      ∀ cached,cache.lookup summary.modemId = some cached →
        isReusable cached summary now = true) := by
  unfold selectCarrier at h
  split at h
  · rename_i hvalid
    obtain ⟨kept,hkept,heq⟩ := rememberCarrier_eq cache result summary now
    dsimp only at h
    rw [heq] at h
    rcases mem_assignCarrier h with h | ⟨h,hne⟩
    · exact .inl ⟨by simpa using hvalid,h⟩
    · exact .inr ⟨hkept.subset h,fun hk => absurd hk hne⟩
  · dsimp only at h
    split at h
    · rename_i cached hcached
      obtain ⟨hlookup,hreuse⟩ := Option.filter_eq_some_iff.mp hcached
      simp only [Bool.and_eq_true] at hreuse
      refine .inr ⟨h,fun _ => ⟨by simp [hlookup],hreuse.1,fun other hother => ?_⟩⟩
      rw [hlookup] at hother
      exact Option.some.inj hother ▸ hreuse.2
    · obtain ⟨h,hne⟩ := mem_remove.mp h
      exact .inr ⟨h,fun hk => absurd hk hne⟩

theorem isReusable_iff {summary : Summary} {now : Int} : isReusable cached summary now = true ↔
    cached.generation = summary.generation ∧ 0 ≤ now-cached.receivedAtMs ∧
      now-cached.receivedAtMs ≤ carrierCacheTtlMs := by
  have hmax : maxSafeInteger = 9007199254740991 := rfl
  have httl : carrierCacheTtlMs = 30000 := rfl
  simp only [isReusable,Bool.and_eq_true,beq_iff_eq,decide_eq_true_eq]
  constructor
  · rintro ⟨⟨⟨⟨h₁,-⟩,-⟩,h₂⟩,h₃⟩
    exact ⟨h₁,h₂,h₃⟩
  · rintro ⟨h₁,h₂,h₃⟩
    exact ⟨⟨⟨⟨h₁,by omega⟩,by omega⟩,h₂⟩,h₃⟩

theorem keys_selectCarrier (h : (Keys cache).Nodup) (now : Int) (result : JsValue)
    (summary : Summary) : (Keys (selectCarrier cache now result summary).1).Nodup := by
  unfold selectCarrier
  split
  · obtain ⟨kept,hkept,heq⟩ := rememberCarrier_eq cache result summary now
    dsimp only
    rw [heq]
    exact keys_assignCarrier (h.sublist (List.Sublist.map _ hkept))
  · dsimp only
    split
    · exact h
    · exact h.sublist (keys_remove _ _)

theorem length_selectCarrier (h : cache.length ≤ carrierCacheMaxEntries) (now : Int)
    (result : JsValue) (summary : Summary) :
    (selectCarrier cache now result summary).1.length ≤ carrierCacheMaxEntries := by
  unfold selectCarrier
  split
  · exact rememberCarrier_length h result summary now
  · dsimp only
    split
    · exact h
    · exact (length_remove_le _ _).trans h

theorem StillGood.received {summary : Summary} {now : Int} {result : JsValue}
    (h : carrierInfoError result summary.value = none) :
    StillGood (past++[.received now result summary]) summary.modemId
      ⟨summary.generation,now,result⟩ :=
  ⟨past,[],rfl,h,by simp⟩

/-- One event keeps the cache good. -/
theorem CacheInv.step (h : CacheInv past cache) (event : CarrierEvent) :
    CacheInv (past++[event]) (carrierStep cache event) := by
  cases event with
  | cleared => exact ⟨by simp [carrierStep,Keys],by simp [carrierStep],by simp [carrierStep]⟩
  | inventory summaries =>
    cases summaries with
    | none =>
      exact ⟨by simp [carrierStep,pruneCarrierCache,Keys],by simp [carrierStep,pruneCarrierCache],
        by simp [carrierStep,pruneCarrierCache]⟩
    | some live =>
      by_cases hmany : carrierCacheMaxEntries < live.length
      · have hcleared : carrierStep cache (.inventory (some live)) = [] := if_pos hmany
        rw [hcleared]
        exact ⟨by simp [Keys],by simp,by simp⟩
      · have hpruned : carrierStep cache (.inventory (some live)) = cache.filter fun entry =>
            liveGeneration live entry.1 == some entry.2.generation := if_neg hmany
        rw [hpruned]
        constructor
        · exact h.nodup.sublist (List.Sublist.map _ List.filter_sublist)
        · exact (List.length_filter_le _ _).trans h.length
        · intro modemId cached hmem
          obtain ⟨hmem,hlive⟩ := List.mem_filter.mp hmem
          refine (h.good modemId cached hmem).spared ⟨live,rfl,Nat.not_lt.mp hmany,?_⟩
          simpa using hlive
  | received now result summary =>
    constructor
    · exact keys_selectCarrier h.nodup now result summary
    · exact length_selectCarrier h.length now result summary
    · intro modemId cached hmem
      rcases mem_selectCarrier hmem with ⟨hvalid,heq⟩ | ⟨hmem,hother⟩
      · obtain ⟨rfl,rfl⟩ := Prod.mk.inj heq
        exact .received hvalid
      · refine (h.good modemId cached hmem).spared fun hid => ?_
        obtain ⟨-,htransient,hreusable⟩ := hother hid.symm
        have hlookup : cache.lookup summary.modemId = some cached :=
          hid ▸ (lookup_eq_some h.nodup).mpr hmem
        exact ⟨(isReusable_iff.mp (hreusable cached hlookup)).1.symm,htransient⟩

/-- Every run keeps the cache good. -/
theorem carrierRun_inv (past : List CarrierEvent) : CacheInv past (carrierRun past) := by
  induction past using List.reverseRecOn with
  | nil => exact ⟨by simp [carrierRun,Keys],by simp [carrierRun],by simp [carrierRun]⟩
  | append_singleton past event ih =>
    have hrun : carrierRun (past++[event]) = carrierStep (carrierRun past) event := by
      simp [carrierRun]
    rw [hrun]
    exact ih.step event

/-- What stands in for a carrier result is a cached one of the same modem and generation. -/
theorem selectCarrier_other {now : Int} {result : JsValue} {summary : Summary}
    (h : (selectCarrier cache now result summary).2 ≠ result) :
    ∃ cached,cache.lookup summary.modemId = some cached ∧ isReusable cached summary now = true ∧
      (selectCarrier cache now result summary).2 = cached.result ∧
      carrierTransientError result summary.value = true := by
  unfold selectCarrier at h ⊢
  split at h
  · exact absurd rfl h
  · rename_i hinvalid
    dsimp only at h
    split at h
    · rename_i cached hcached
      obtain ⟨hlookup,hreuse⟩ := Option.filter_eq_some_iff.mp hcached
      simp only [Bool.and_eq_true] at hreuse
      refine ⟨cached,hlookup,hreuse.2,?_,hreuse.1⟩
      rw [if_neg hinvalid]
      dsimp only
      rw [hcached]
    · exact absurd rfl h

/-- Whatever happened before, a result other than the one just received was valid for the same
modem and generation, came at most 30 s ago by the page's clock and has since only been followed
by transient errors; everything else drops it, and the cache stays small. -/
theorem selectCarrier_fresh (past : List CarrierEvent) (now : Int) (result : JsValue)
    (summary : Summary) :
    let cache := carrierRun past
    let selected := selectCarrier cache now result summary
    (selected.2 ≠ result → ∃ cached,StillGood past summary.modemId cached ∧
      cached.generation = summary.generation ∧ cached.result = selected.2 ∧
      0 ≤ now-cached.receivedAtMs ∧ now-cached.receivedAtMs ≤ 30000) ∧
    (∀ cached,selected.1.lookup summary.modemId = some cached →
      carrierInfoError result summary.value = none ∧
        cached = ⟨summary.generation,now,result⟩ ∨
      cache.lookup summary.modemId = some cached ∧
        carrierTransientError result summary.value = true ∧
        cached.generation = summary.generation ∧
        0 ≤ now-cached.receivedAtMs ∧ now-cached.receivedAtMs ≤ 30000) ∧
    (∀ summaries modemId cached,
      (pruneCarrierCache cache summaries).lookup modemId = some cached →
        ∃ live,summaries = some live ∧ liveGeneration live modemId = some cached.generation) ∧
    (Keys cache).Nodup ∧ cache.length ≤ 64 := by
  intro cache selected
  have hinv : CacheInv past cache := carrierRun_inv past
  refine ⟨?_,?_,?_,hinv.nodup,hinv.length⟩
  · intro hother
    obtain ⟨cached,hlookup,hreusable,hresult,-⟩ := selectCarrier_other hother
    obtain ⟨hgeneration,hnotNegative,hrecent⟩ := isReusable_iff.mp hreusable
    exact ⟨cached,hinv.good _ _ (mem_of_lookup hlookup),hgeneration,hresult.symm,hnotNegative,
      hrecent⟩
  · intro cached hlookup
    rcases mem_selectCarrier (mem_of_lookup hlookup) with ⟨hvalid,heq⟩ | ⟨hmem,hother⟩
    · exact .inl ⟨hvalid,(Prod.mk.inj heq).2⟩
    · obtain ⟨-,htransient,hreusable⟩ := hother rfl
      have hcached := (lookup_eq_some hinv.nodup).mpr hmem
      exact .inr ⟨hcached,htransient,isReusable_iff.mp (hreusable cached hcached)⟩
  · intro summaries modemId cached hlookup
    have hmem := mem_of_lookup hlookup
    unfold pruneCarrierCache at hmem
    split at hmem
    · cases hmem
    · rename_i live
      split at hmem
      · cases hmem
      · exact ⟨live,rfl,by simpa using (List.mem_filter.mp hmem).2⟩

def sampleSummary : Summary := ⟨"m1".toList,3⟩

def sampleCarrier : JsValue := .object
  [("schema",.number 4),("generated_at",.number 1),("ok",.boolean true),
    ("modem_id",.string "m1".toList),("generation",.number 3),
    ("state",.string "available".toList),("active_bands",.array [.number 3]),
    ("primary",.object [("index",.number 1),("band",.number 3),("earfcn",.number 1300),
      ("pci",.number 7),("dl_bandwidth_mhz",.number 20),("ul_bandwidth_mhz",.number 20)]),
    ("secondary",.array []),("active_carriers",.number 1),
    ("source",.string "modemmanager".toList),("method",.string "l850-gtcainfo".toList)]

def sampleBusy : JsValue := .object
  [("schema",.number 4),("generated_at",.number 2),("ok",.boolean false),
    ("state",.string "busy".toList),
    ("error",.object [("code",.string "busy".toList),("message",.string "Busy".toList),
      ("retryable",.boolean true)])]

/-- A busy modem keeps its carriers on the page. -/
theorem selectCarrier_fresh_sample :
    ∃ cached,StillGood [.received 100 sampleCarrier sampleSummary] "m1".toList cached ∧
      cached.receivedAtMs = 100 := by
  have hvalid : (carrierInfoError sampleCarrier sampleSummary.value == none) = true := by
    decide +kernel
  have hbusy : (carrierInfoError sampleBusy sampleSummary.value == none) = false := by
    decide +kernel
  have htransient : carrierTransientError sampleBusy sampleSummary.value = true := by
    decide +kernel
  have hcache : carrierRun [.received 100 sampleCarrier sampleSummary] =
      [("m1".toList,⟨3,100,sampleCarrier⟩)] := by
    simp only [carrierRun,List.foldl_cons,List.foldl_nil,carrierStep,selectCarrier,hvalid,if_true]
    rfl
  have hselected : selectCarrier (carrierRun [.received 100 sampleCarrier sampleSummary]) 200
      sampleBusy sampleSummary =
        ([("m1".toList,⟨3,100,sampleCarrier⟩)],sampleCarrier) := by
    rw [hcache]
    simp only [selectCarrier,hbusy,htransient,Bool.false_eq_true,if_false]
    rfl
  obtain ⟨hfresh,-,-⟩ := selectCarrier_fresh [.received 100 sampleCarrier sampleSummary] 200
    sampleBusy sampleSummary
  rw [hselected] at hfresh
  obtain ⟨cached,hgood,-⟩ := hfresh (by simp [sampleCarrier,sampleBusy])
  refine ⟨cached,hgood,?_⟩
  obtain ⟨before,after,hpast,-⟩ := hgood
  cases before with
  | nil =>
    simp only [List.nil_append,List.cons.injEq,CarrierEvent.received.injEq] at hpast
    exact hpast.1.1.symm
  | cons event before => simp at hpast

end Overview
end Frontend
end L850GL
