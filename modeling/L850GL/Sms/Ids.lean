import L850GL.Lib.Loop
import L850GL.Sms.Scripts

/-! The ids of a record's messages: what one change does to them. -/
namespace L850GL
namespace Sms

open AssocList Identity Messaging Mutation

/-- The id a random value makes. -/
def generatedId (random : Nat → Option (Vector UInt8 16)) (index : Nat) : Option CString :=
  l850glSmsIdentityGenerateWith (random index)

/-- The id was made from a random value of `low` up to `high`. -/
def Generated (random : Nat → Option (Vector UInt8 16)) (low high : Nat) (smsId : CString) : Prop :=
  ∃ index, low ≤ index ∧ index < high ∧ generatedId random index = some smsId

def Messaging.smsIds (m : Messaging) : List CString := m.smsByPath.map fun entry => entry.2.smsId

/-- The ids of a record, next to the number of random values used so far. -/
structure IdsOf (random : Nat → Option (Vector UInt8 16)) (s : Messaging × Nat) : Prop where
  keys : (Keys s.1.smsByPath).Nodup
  ids : s.1.smsIds.Nodup
  disjoint : ∀ smsId ∈ s.1.smsReservedIds, smsId ∉ s.1.smsIds
  bound : s.1.smsByPath.length ≤ maxSmsCache
  paths : ∀ entry ∈ s.1.smsByPath, entry.2.sms.path = some entry.1 ∧
    gVariantIsObjectPath entry.1 = true
  generated : ∀ smsId, smsId ∈ s.1.smsIds ∨ smsId ∈ s.1.smsReservedIds →
    Generated random 0 s.2 smsId

variable {random : Nat → Option (Vector UInt8 16)} {ref : ModemRef} {s s' : Messaging × Nat}
  {m : Messaging} {smsId path : CString} {low mid high drawn : Nat}

theorem Generated.mono {low' high' : Nat} (h : Generated random low high smsId)
    (hl : low' ≤ low) (hh : high ≤ high') : Generated random low' high' smsId := by
  obtain ⟨index,h₁,h₂,h₃⟩ := h
  exact ⟨index,Nat.le_trans hl h₁,Nat.lt_of_lt_of_le h₂ hh,h₃⟩

theorem mem_smsIds : smsId ∈ m.smsIds ↔ ∃ entry ∈ m.smsByPath, entry.2.smsId = smsId :=
  List.mem_map

theorem smsIdExistsInHash_iff {cache : List (CString × L850GLSms)} :
    smsIdExistsInHash cache smsId = true ↔ ∃ entry ∈ cache, entry.2.smsId = smsId := by
  simp [smsIdExistsInHash]

theorem drawSmsId_spec (random : Nat → Option (Vector UInt8 16)) (taken : CString → Bool)
    (attempts drawn : Nat) :
    drawn ≤ (drawSmsId random taken attempts drawn).2 ∧
      ∀ smsId, (drawSmsId random taken attempts drawn).1 = some smsId → taken smsId = false ∧
        Generated random drawn (drawSmsId random taken attempts drawn).2 smsId := by
  induction attempts generalizing drawn with
  | zero => exact ⟨Nat.le_refl _,fun smsId h => by cases h⟩
  | succ attempts ih =>
    simp only [drawSmsId]
    cases hg : l850glSmsIdentityGenerateWith (random drawn) with
    | none => exact ⟨Nat.le_succ _,fun smsId h => by cases h⟩
    | some candidate =>
      dsimp only
      by_cases ht : taken candidate = true
      · rw [if_pos ht]
        obtain ⟨hle,hnew⟩ := ih (drawn+1)
        refine ⟨Nat.le_of_succ_le hle,fun smsId h => ?_⟩
        exact ⟨(hnew smsId h).1,(hnew smsId h).2.mono (Nat.le_succ _) (Nat.le_refl _)⟩
      · rw [if_neg ht]
        refine ⟨Nat.le_succ _,fun smsId h => ?_⟩
        cases h
        exact ⟨by simpa using ht,drawn,Nat.le_refl _,Nat.lt_succ_self _,hg⟩

theorem newSmsId_spec (random : Nat → Option (Vector UInt8 16))
    (cache additional : List (CString × L850GLSms)) (reserved : List CString)
    (drawn : Nat) :
    drawn ≤ (newSmsId random cache additional reserved drawn).2 ∧
      ∀ smsId, (newSmsId random cache additional reserved drawn).1 = some smsId →
        (∀ entry ∈ cache, entry.2.smsId ≠ smsId) ∧ (∀ entry ∈ additional, entry.2.smsId ≠ smsId) ∧
        smsId ∉ reserved ∧
        Generated random drawn (newSmsId random cache additional reserved drawn).2 smsId := by
  obtain ⟨hle,hnew⟩ := drawSmsId_spec random (fun candidate =>
    smsIdExistsInHash cache candidate || smsIdExistsInHash additional candidate ||
      reserved.contains candidate) randomRetries drawn
  refine ⟨hle,fun smsId h => ?_⟩
  obtain ⟨ht,hg⟩ := hnew smsId h
  simp only [Bool.or_eq_false_iff] at ht
  obtain ⟨⟨h₁,h₂⟩,h₃⟩ := ht
  refine ⟨fun entry hm he => ?_,fun entry hm he => ?_,by simpa using h₃,hg⟩
  · rw [smsIdExistsInHash_iff.mpr ⟨entry,hm,he⟩] at h₁
    cases h₁
  · rw [smsIdExistsInHash_iff.mpr ⟨entry,hm,he⟩] at h₂
    cases h₂

/-- Changes that leave the messages alone, or drop some of them. -/
theorem IdsOf.shrink (h : IdsOf random s) (hc : s'.1.smsByPath.Sublist s.1.smsByPath)
    (hr : s'.1.smsReservedIds ⊆ s.1.smsReservedIds) (hd : s.2 ≤ s'.2) : IdsOf random s' := by
  have hids : s'.1.smsIds.Sublist s.1.smsIds := hc.map _
  refine ⟨h.keys.sublist (hc.map _),h.ids.sublist hids,fun smsId hs hm => ?_,
    Nat.le_trans hc.length_le h.bound,fun entry hm => h.paths entry (hc.subset hm),
    fun smsId hm => ?_⟩
  · exact h.disjoint smsId (hr hs) (hids.subset hm)
  · exact (h.generated smsId (hm.imp (hids.subset ·) (hr ·))).mono (Nat.le_refl _) hd

theorem IdsOf.reserve (h : IdsOf random s) :
    IdsOf random ((s.1.reserveSmsId random s.2).1,(s.1.reserveSmsId random s.2).2.2) ∧
      s.2 ≤ (s.1.reserveSmsId random s.2).2.2 ∧
      ∀ smsId ∈ (s.1.reserveSmsId random s.2).1.smsReservedIds, smsId ∈ s.1.smsReservedIds ∨
        Generated random s.2 (s.1.reserveSmsId random s.2).2.2 smsId ∧
          (s.1.reserveSmsId random s.2).2.1 = some smsId := by
  obtain ⟨hle,hnew⟩ := newSmsId_spec random s.1.smsByPath [] s.1.smsReservedIds s.2
  simp only [Messaging.reserveSmsId]
  cases hd : newSmsId random s.1.smsByPath [] s.1.smsReservedIds s.2 with
  | mk result drawn =>
    rw [hd] at hle hnew
    cases result with
    | none => exact ⟨h.shrink (.refl _) (List.Subset.refl _) hle,hle,fun smsId hm => .inl hm⟩
    | some candidate =>
      obtain ⟨hcache,-,hreserved,hg⟩ := hnew candidate rfl
      have hmem : ∀ smsId, smsId ∈ insertString s.1.smsReservedIds candidate ↔
          smsId ∈ s.1.smsReservedIds ∨ smsId = candidate := by
        intro smsId
        simp [insertString,hreserved]
      refine ⟨⟨h.keys,h.ids,fun smsId hm hids => ?_,h.bound,h.paths,fun smsId hm => ?_⟩,hle,
        fun smsId hm => ?_⟩
      · rcases (hmem smsId).mp hm with hm | rfl
        · exact h.disjoint smsId hm hids
        · obtain ⟨entry,he,hid⟩ := mem_smsIds.mp hids
          exact hcache entry he hid
      · have hm' : smsId ∈ s.1.smsIds ∨ smsId ∈ s.1.smsReservedIds ∨ smsId = candidate :=
          hm.imp id (hmem smsId).mp
        rcases hm' with hm' | hm' | rfl
        · exact (h.generated smsId (.inl hm')).mono (Nat.le_refl _) hle
        · exact (h.generated smsId (.inr hm')).mono (Nat.le_refl _) hle
        · exact hg.mono (Nat.zero_le _) (Nat.le_refl _)
      · rcases (hmem smsId).mp hm with hm | rfl
        · exact .inl hm
        · exact .inr ⟨hg,rfl⟩

/-- A message is put under a path with an id that no other path has. -/
theorem IdsOf.put (h : IdsOf random s) {entry : L850GLSms} (hpath : entry.sms.path = some path)
    (hvalid : gVariantIsObjectPath path = true)
    (hfree : ∀ other ∈ s.1.smsByPath, other.1 ≠ path → other.2.smsId ≠ entry.smsId)
    (hgen : Generated random 0 s.2 entry.smsId)
    (hbound : s.1.smsByPath.length < maxSmsCache ∨ path ∈ Keys s.1.smsByPath)
    (hc : s'.1.smsByPath = insertSms s.1.smsByPath path entry)
    (hr : ∀ smsId ∈ s'.1.smsReservedIds, smsId ∈ s.1.smsReservedIds ∧ smsId ≠ entry.smsId)
    (hd : s'.2 = s.2) : IdsOf random s' := by
  have hput : s'.1.smsByPath = AssocList.put s.1.smsByPath path entry := hc
  have hids : ∀ smsId, smsId ∈ s'.1.smsIds →
      smsId = entry.smsId ∨ smsId ∈ s.1.smsIds := by
    intro smsId hm
    obtain ⟨other,ho,rfl⟩ := mem_smsIds.mp hm
    rw [hput] at ho
    rcases mem_put.mp ho with ⟨ho,-⟩ | rfl
    · exact .inr (mem_smsIds.mpr ⟨other,ho,rfl⟩)
    · exact .inl rfl
  refine ⟨?_,?_,fun smsId hm hi => ?_,?_,fun other ho => ?_,fun smsId hm => ?_⟩
  · rw [hput]
    exact keys_put_nodup entry h.keys
  · rw [Messaging.smsIds,hput]
    exact map_put_nodup h.ids hfree
  · rcases hids smsId hi with rfl | hi
    · exact (hr _ hm).2 rfl
    · exact h.disjoint smsId (hr smsId hm).1 hi
  · rw [hput]
    rcases hbound with hb | hb
    · exact Nat.le_trans (length_put_le _ _ _) hb
    · exact Nat.le_trans (length_put_of_mem entry hb) h.bound
  · rw [hput] at ho
    rcases mem_put.mp ho with ⟨ho,-⟩ | rfl
    · exact h.paths other ho
    · exact ⟨hpath,hvalid⟩
  · rw [hd]
    rcases hm with hm | hm
    · rcases hids smsId hm with rfl | hm
      · exact hgen
      · exact h.generated smsId (.inl hm)
    · exact h.generated smsId (.inr (hr smsId hm).1)

@[simp] theorem smsSetProxy_smsId (entry : L850GLSms) (ref : ModemRef) (generation epoch : Nat)
    (sms : MMSms) : (smsSetProxy entry ref generation epoch sms).smsId = entry.smsId := by
  simp only [smsSetProxy]
  split
  · rfl
  · rfl

@[simp] theorem smsSetProxy_sms (entry : L850GLSms) (ref : ModemRef) (generation epoch : Nat)
    (sms : MMSms) : (smsSetProxy entry ref generation epoch sms).sms = sms := by
  simp only [smsSetProxy]
  split
  · rename_i h
    exact h.1
  · rfl

/-- The entry was made for the record, its generation and its epoch. -/
structure L850GLSms.Stamped (entry : L850GLSms) (ref : ModemRef) (generation epoch : Nat) :
    Prop where
  owner : entry.owner = some ref
  modemGeneration : entry.modemGeneration = generation
  messagingGeneration : entry.messagingGeneration = epoch

theorem L850GLSms.Stamped.withSmsId {entry : L850GLSms} {generation epoch : Nat}
    (h : entry.Stamped ref generation epoch) :
    {entry with smsId := smsId}.Stamped ref generation epoch := ⟨h.1,h.2,h.3⟩

theorem smsSetProxy_stamped {entry : L850GLSms} {generation epoch : Nat} {sms : MMSms}
    (h : entry.Stamped ref generation epoch) :
    (smsSetProxy entry ref generation epoch sms).Stamped ref generation epoch := by
  simp only [smsSetProxy]
  split
  · exact h
  · exact ⟨rfl,rfl,rfl⟩

/-- What `l850gl_modem_admit_reserved_sms` does: it refuses, notes that the cache is full, or puts
the message under its path with the reserved id. -/
theorem Messaging.admitReservedSms_cases (m : Messaging) (ref : ModemRef) (generation : Nat)
    (sms : MMSms) (reservedId : CString) :
    (m.admitReservedSms ref generation sms reservedId).1 = m ∧
        (m.admitReservedSms ref generation sms reservedId).2 = none ∨
      (m.admitReservedSms ref generation sms reservedId).1 = {m with smsCacheTruncated := true} ∧
        (m.admitReservedSms ref generation sms reservedId).2 = none ∨
      ∃ path entry, sms.path = some path ∧ gVariantIsObjectPath path = true ∧
        reservedId ∈ m.smsReservedIds ∧ entry.smsId = reservedId ∧ entry.sms = sms ∧
        ((∀ old ∈ m.smsByPath, old.2.Stamped ref generation m.messagingGeneration) →
          entry.Stamped ref generation m.messagingGeneration) ∧
        (m.smsByPath.length < maxSmsCache ∨ path ∈ Keys m.smsByPath) ∧
        ((m.admitReservedSms ref generation sms reservedId).1 = {m with
            smsByPath := insertSms m.smsByPath path entry
            smsReservedIds := m.smsReservedIds.filter (· != reservedId)}.smsRevisionBump ∨
          (m.admitReservedSms ref generation sms reservedId).1 = {m with
            smsByPath := insertSms m.smsByPath path entry
            smsReservedIds := m.smsReservedIds.filter (· != reservedId)} ∧
          reservedId ∈ m.smsIds) := by
  simp only [Messaging.admitReservedSms]
  split
  · exact .inl ⟨rfl,rfl⟩
  split
  · exact .inl ⟨rfl,rfl⟩
  rename_i hreserved
  have hmem : reservedId ∈ m.smsReservedIds := by
    simp only [Bool.or_eq_true,not_or,Bool.not_eq_eq_eq_not,Bool.not_true,Bool.not_eq_false,
      List.contains_iff_mem] at hreserved
    exact hreserved.2
  split
  · exact .inl ⟨rfl,rfl⟩
  rename_i path hpath
  obtain ⟨hpath,hvalid⟩ := Option.filter_eq_some_iff.mp hpath
  split
  · rename_i entry hlookup
    have hkey : path ∈ Keys m.smsByPath := by
      by_contra hk
      rw [lookupSms,lookup_eq_none.mpr hk] at hlookup
      cases hlookup
    split
    · exact .inl ⟨rfl,rfl⟩
    right
    right
    refine ⟨path,smsSetProxy {entry with smsId := reservedId} ref generation m.messagingGeneration
      sms,hpath,hvalid,hmem,?_,?_,fun hold => ?_,.inr hkey,?_⟩
    · rw [smsSetProxy_smsId]
    · rw [smsSetProxy_sms]
    · have h := hold _ (mem_of_lookup hlookup)
      exact smsSetProxy_stamped h.withSmsId
    · by_cases hid : entry.smsId = reservedId
      · right
        simp only [hid,ne_eq,not_true_eq_false,if_false]
        exact ⟨rfl,mem_smsIds.mpr ⟨_,mem_of_lookup hlookup,hid⟩⟩
      · left
        simp only [ne_eq,hid,not_false_eq_true,if_true]
        rfl
  · split
    · exact .inr (.inl ⟨rfl,rfl⟩)
    · rename_i hfull
      right
      right
      exact ⟨path,_,hpath,hvalid,hmem,rfl,rfl,fun _ => ⟨rfl,rfl,rfl⟩,
        .inl (Nat.lt_of_not_le hfull),.inl rfl⟩

/-- The object paths of a listing. -/
def listedPaths (messages : List MMSms) : List CString :=
  messages.filterMap fun sms => sms.path.filter gVariantIsObjectPath

/-- The caches of a listing after the messages `passed`; `s` is the record before it. -/
structure RebuildIds (random : Nat → Option (Vector UInt8 16)) (s : Messaging × Nat)
    (passed : List MMSms) (r : Rebuild) : Prop where
  old : r.oldCache.Sublist s.1.smsByPath
  left : ∀ entry ∈ s.1.smsByPath, entry.1 ∈ listedPaths passed ∨ entry ∈ r.oldCache
  keys : (Keys r.newCache).Nodup
  ids : (r.newCache.map fun entry => entry.2.smsId).Nodup
  apart : ∀ entry ∈ r.newCache, ∀ other ∈ r.oldCache, entry.2.smsId ≠ other.2.smsId
  reserved : ∀ entry ∈ r.newCache, entry.2.smsId ∉ s.1.smsReservedIds
  bound : r.newCache.length ≤ r.count ∧ r.count ≤ maxSmsCache
  drawn : s.2 ≤ r.drawn
  paths : ∀ entry ∈ r.newCache, entry.2.sms.path = some entry.1 ∧
    gVariantIsObjectPath entry.1 = true ∧ entry.1 ∈ listedPaths passed ∧
    entry.1 ∉ s.1.smsDeletedPaths
  origin : ∀ entry ∈ r.newCache,
    (∃ other ∈ s.1.smsByPath, other.1 = entry.1 ∧ other.2.smsId = entry.2.smsId) ∨
    Generated random s.2 r.drawn entry.2.smsId ∧
      (entry.1 ∉ Keys s.1.smsByPath ∨ ¬ (listedPaths passed).Nodup)

theorem listedPaths_append (passed : List MMSms) (sms : MMSms) :
    listedPaths (passed++[sms]) =
      listedPaths passed++(sms.path.filter gVariantIsObjectPath).toList := by
  simp only [listedPaths,List.filterMap_append,List.filterMap_cons,List.filterMap_nil]
  cases sms.path.filter gVariantIsObjectPath <;> rfl

theorem not_nodup_append {α : Type*} {l l' : List α} (h : ¬ l.Nodup) : ¬ (l++l').Nodup :=
  fun h' => h h'.of_append_left

/-- A passed message that the caches do not keep. -/
theorem RebuildIds.skip {passed : List MMSms} {r r' : Rebuild} (h : RebuildIds random s passed r)
    (sms : MMSms) (ho : r'.oldCache = r.oldCache) (hn : r'.newCache = r.newCache)
    (hc : r'.count = r.count) (hd : r'.drawn = r.drawn) :
    RebuildIds random s (passed++[sms]) r' := by
  refine ⟨ho ▸ h.old,fun entry hm => ?_,hn ▸ h.keys,hn ▸ h.ids,?_,hn ▸ h.reserved,?_,hd ▸ h.drawn,
    ?_,?_⟩
  · rw [listedPaths_append,ho]
    exact (h.left entry hm).imp (List.mem_append_left _) id
  · rw [hn,ho]
    exact h.apart
  · rw [hn,hc]
    exact h.bound
  · intro entry hm
    obtain ⟨h₁,h₂,h₃,h₄⟩ := h.paths entry (hn ▸ hm)
    rw [listedPaths_append]
    exact ⟨h₁,h₂,List.mem_append_left _ h₃,h₄⟩
  · intro entry hm
    rw [listedPaths_append,hd]
    exact (h.origin entry (hn ▸ hm)).imp id fun h₁ => ⟨h₁.1,h₁.2.imp id not_nodup_append⟩

/-- A passed message that is put into the new cache. -/
theorem RebuildIds.put {passed : List MMSms} {r r' : Rebuild} {sms : MMSms} {entry : L850GLSms}
    (h : RebuildIds random s passed r) (hpath : sms.path = some path)
    (hvalid : gVariantIsObjectPath path = true) (hlive : path ∉ s.1.smsDeletedPaths)
    (hcount : r.count < maxSmsCache)
    (hsms : entry.sms = sms) (hnew : r'.newCache = insertSms r.newCache path entry)
    (hold : r'.oldCache = removeSms r.oldCache path) (hc : r'.count = r.count+1)
    (hd : r.drawn ≤ r'.drawn)
    (hfree : ∀ other ∈ r.newCache, other.2.smsId ≠ entry.smsId)
    (hapart : ∀ other ∈ r'.oldCache, entry.smsId ≠ other.2.smsId)
    (hreserved : entry.smsId ∉ s.1.smsReservedIds)
    (horigin : (∃ other ∈ s.1.smsByPath, other.1 = path ∧ other.2.smsId = entry.smsId) ∨
      Generated random s.2 r'.drawn entry.smsId ∧
        (path ∉ Keys s.1.smsByPath ∨ path ∈ listedPaths passed)) :
    RebuildIds random s (passed++[sms]) r' := by
  have hfilter : sms.path.filter gVariantIsObjectPath = some path :=
    Option.filter_eq_some_iff.mpr ⟨hpath,hvalid⟩
  have hlisted : listedPaths (passed++[sms]) = listedPaths passed++[path] := by
    rw [listedPaths_append,hfilter]
    rfl
  have hput : r'.newCache = AssocList.put r.newCache path entry := hnew
  have hrem : r'.oldCache = AssocList.remove r.oldCache path := hold
  have hsub : r'.oldCache.Sublist r.oldCache := hrem ▸ List.filter_sublist
  have hmem : ∀ other ∈ r'.newCache, other ∈ r.newCache ∨ other = (path,entry) := by
    intro other ho
    rw [hput] at ho
    exact (mem_put.mp ho).imp (·.1) id
  refine ⟨hsub.trans h.old,fun other ho => ?_,?_,?_,fun other ho before hb => ?_,
    fun other ho => ?_,⟨?_,?_⟩,Nat.le_trans h.drawn hd,fun other ho => ?_,fun other ho => ?_⟩
  · rw [hlisted]
    rcases h.left other ho with hl | hl
    · exact .inl (List.mem_append_left _ hl)
    · by_cases hk : other.1 = path
      · exact .inl (by simp [hk])
      · exact .inr (hrem ▸ mem_remove.mpr ⟨hl,hk⟩)
  · rw [hput]
    exact keys_put_nodup entry h.keys
  · rw [hput]
    exact map_put_nodup h.ids fun other ho _ => hfree other ho
  · rcases hmem other ho with ho | rfl
    · exact h.apart other ho before (hsub.subset hb)
    · exact hapart before hb
  · rcases hmem other ho with ho | rfl
    · exact h.reserved other ho
    · exact hreserved
  · rw [hput,hc]
    exact Nat.le_trans (length_put_le _ _ _) (Nat.succ_le_succ h.bound.1)
  · rw [hc]
    exact hcount
  · rw [hlisted]
    rcases hmem other ho with ho | rfl
    · obtain ⟨h₁,h₂,h₃,h₄⟩ := h.paths other ho
      exact ⟨h₁,h₂,List.mem_append_left _ h₃,h₄⟩
    · exact ⟨hsms ▸ hpath,hvalid,by simp,hlive⟩
  · rcases hmem other ho with ho | rfl
    · refine (h.origin other ho).imp id fun h₁ => ⟨h₁.1.mono (Nat.le_refl _) hd,?_⟩
      rw [hlisted]
      exact h₁.2.imp id not_nodup_append
    · refine horigin.imp id fun h₁ => ⟨h₁.1,h₁.2.imp id fun hl hn => ?_⟩
      rw [hlisted,List.nodup_append] at hn
      exact hn.2.2 path hl path (by simp) rfl

theorem rebuildStep_ids {passed : List MMSms} {r r' : Rebuild} {generation : Nat} {sms : MMSms}
    (hs : IdsOf random s) (h : RebuildIds random s passed r)
    (hr : rebuildStep random s.1 ref generation r sms = .ok r') :
    RebuildIds random s (passed++[sms]) r' := by
  simp only [rebuildStep] at hr
  split at hr
  · cases hr
    exact h.skip sms rfl rfl rfl rfl
  rename_i path hfilter
  obtain ⟨hpath,hvalid⟩ := Option.filter_eq_some_iff.mp hfilter
  split at hr
  · cases hr
    exact h.skip sms rfl rfl rfl rfl
  rename_i hlive
  have hlive' : path ∉ s.1.smsDeletedPaths := by simpa using hlive
  split at hr
  · cases hr
    exact h.skip sms rfl rfl rfl rfl
  rename_i hcount
  have hcount' : r.count < maxSmsCache := Nat.lt_of_not_le hcount
  split at hr
  · rename_i entry hlookup
    cases hr
    have hm := mem_of_lookup hlookup
    have hold : (r.oldCache.map fun entry => entry.2.smsId).Nodup := hs.ids.sublist (h.old.map _)
    have hkeys : (Keys r.oldCache).Nodup := hs.keys.sublist (h.old.map _)
    refine h.put hpath hvalid hlive' hcount' (smsSetProxy_sms _ _ _ _ _) rfl rfl rfl
      (Nat.le_refl _) (fun other ho => ?_) (fun other ho => ?_) ?_ (.inl ⟨_,h.old.subset hm,rfl,?_⟩)
    · rw [smsSetProxy_smsId]
      exact h.apart other ho _ hm
    · rw [smsSetProxy_smsId]
      intro he
      have ho' := mem_remove.mp (show other ∈ AssocList.remove r.oldCache path from ho)
      have h₁ := List.inj_on_of_nodup_map hold hm ho'.1 he
      exact ho'.2 (h₁ ▸ rfl)
    · rw [smsSetProxy_smsId]
      exact fun hin => hs.disjoint _ hin (mem_smsIds.mpr ⟨_,h.old.subset hm,rfl⟩)
    · rw [smsSetProxy_smsId]
  · rename_i hlookup
    have hnone := lookup_eq_none.mp hlookup
    have hrem : removeSms r.oldCache path = r.oldCache := by
      refine List.filter_eq_self.mpr fun other ho => ?_
      rw [bne_iff_ne]
      exact fun he => hnone (he ▸ List.mem_map.mpr ⟨other,ho,rfl⟩)
    split at hr
    · cases hr
    rename_i smsId drawn hid
    cases hr
    obtain ⟨hle,hnew⟩ := newSmsId_spec random r.oldCache r.newCache s.1.smsReservedIds r.drawn
    rw [hid] at hle hnew
    obtain ⟨h₁,h₂,h₃,h₄⟩ := hnew smsId rfl
    refine h.put hpath hvalid hlive' hcount' rfl rfl hrem.symm rfl hle (fun other ho => h₂ other ho)
      (fun other ho => ?_) h₃ (.inr ⟨h₄.mono h.drawn (Nat.le_refl _),?_⟩)
    · exact fun he => h₁ other ho he.symm
    · by_cases hk : path ∈ Keys s.1.smsByPath
      · obtain ⟨other,ho,rfl⟩ := List.mem_map.mp hk
        rcases h.left other ho with hl | hl
        · exact .inr hl
        · exact absurd (List.mem_map.mpr ⟨other,hl,rfl⟩) hnone
      · exact .inl hk

theorem rebuildStep_error {r : Rebuild} {generation drawn : Nat} {sms : MMSms}
    (hr : rebuildStep random m ref generation r sms = .error drawn) : r.drawn ≤ drawn := by
  simp only [rebuildStep] at hr
  split at hr
  · cases hr
  split at hr
  · cases hr
  split at hr
  · cases hr
  split at hr
  · cases hr
  split at hr
  · rename_i hid
    cases hr
    have h := (newSmsId_spec random r.oldCache r.newCache m.smsReservedIds r.drawn).1
    rw [hid] at h
    exact h
  · cases hr

theorem listedPaths_perm {messages messages' : List MMSms} (h : messages.Perm messages') :
    (listedPaths messages).Perm (listedPaths messages') := h.filterMap _

theorem RebuildIds.start (random : Nat → Option (Vector UInt8 16)) (s : Messaging × Nat) :
    RebuildIds random s [] ⟨s.1.smsByPath,[],[],0,false,s.2⟩ := by
  refine ⟨.refl _,fun entry hm => .inr hm,List.nodup_nil,List.nodup_nil,?_,?_,
    ⟨Nat.le_refl _,Nat.zero_le _⟩,Nat.le_refl _,?_,?_⟩
  all_goals
    intro entry hm
    cases hm

/-- A listing leaves nothing, or a cache of the listed messages that have no tombstone. -/
theorem rebuildCache_cases (hs : IdsOf random s) (ref : ModemRef) (generation : Nat)
    (properties : Nat → SmsProperties) (messages : List MMSms) :
    (∃ drawn, s.2 ≤ drawn ∧
      s.1.rebuildCache random ref generation properties messages s.2 =
        ({s.1.clearSmsCache with smsCacheState := .unavailable}.smsRevisionBump,drawn)) ∨
    ∃ passed r, passed.Perm messages ∧ RebuildIds random s passed r ∧
      s.1.rebuildCache random ref generation properties messages s.2 =
        ({s.1 with
          smsByPath := r.newCache
          smsCacheTruncated := r.truncated
          smsCacheState := if r.truncated then .readyTruncated else .ready
          smsDeletedPaths := s.1.smsDeletedPaths.filter r.seenDeleted.contains}.smsRevisionBump,
          r.drawn) := by
  obtain ⟨hok,herror⟩ := Loop.foldlM_inv (RebuildIds random s) (fun drawn => s.2 ≤ drawn)
    (fun passed r sms r' h (hr : rebuildStep random s.1 ref generation r sms = .ok r') =>
      rebuildStep_ids hs h hr)
    (fun passed r sms drawn h hr => Nat.le_trans h.drawn (rebuildStep_error hr))
    (l:=Sorting.sortBy (smsProxyNewestFirst properties) messages) (.start random s)
  simp only [Messaging.rebuildCache]
  split
  · rename_i drawn he
    exact .inl ⟨drawn,herror drawn he,rfl⟩
  · rename_i r hr
    exact .inr ⟨_,r,Sorting.sortBy_perm _ _,hok r hr,rfl⟩

/-- Where the id of a cached message comes from. -/
inductive Origin (random : Nat → Option (Vector UInt8 16)) (s s' : Messaging × Nat)
    (change : Change) (path smsId : CString) : Prop
  | kept (other : CString × L850GLSms) (hm : other ∈ s.1.smsByPath) (hpath : other.1 = path)
      (hid : other.2.smsId = smsId) : Origin random s s' change path smsId
  | entered (generation : Nat) (sms : MMSms) (hc : change = .enter generation sms smsId)
      (hpath : sms.path = some path) (hr : smsId ∈ s.1.smsReservedIds) :
      Origin random s s' change path smsId
  | listed (generation : Nat) (properties : Nat → SmsProperties) (messages : List MMSms)
      (hc : change = .rebuild generation properties messages)
      (hg : Generated random s.2 s'.2 smsId) (hr : smsId ∉ s.1.smsReservedIds)
      (hnew : path ∉ Keys s.1.smsByPath ∨ ¬ (listedPaths messages).Nodup) :
      Origin random s s' change path smsId

/-- What a change does to the ids of a record. -/
structure ChangeIds (random : Nat → Option (Vector UInt8 16)) (s s' : Messaging × Nat)
    (change : Change) : Prop where
  ids : IdsOf random s'
  drawn : s.2 ≤ s'.2
  origin : ∀ entry ∈ s'.1.smsByPath, Origin random s s' change entry.1 entry.2.smsId
  reserved : ∀ smsId ∈ s'.1.smsReservedIds, smsId ∈ s.1.smsReservedIds ∨
    change = .reserve ∧ Generated random s.2 s'.2 smsId ∧
      (s.1.reserveSmsId random s.2).2.1 = some smsId

theorem IdsOf.changeIds {change : Change} (h : IdsOf random s)
    (hc : s'.1.smsByPath.Sublist s.1.smsByPath)
    (hr : s'.1.smsReservedIds ⊆ s.1.smsReservedIds) (hd : s.2 ≤ s'.2) :
    ChangeIds random s s' change :=
  ⟨h.shrink hc hr hd,hd,fun entry hm => .kept entry (hc.subset hm) rfl rfl,
    fun _ hm => .inl (hr hm)⟩

theorem querySms_tables (m : Messaging) : m.querySms.1.smsByPath = m.smsByPath ∧
    m.querySms.1.smsReservedIds = m.smsReservedIds ∧
    m.querySms.1.smsDeletedPaths = m.smsDeletedPaths := by
  simp only [Messaging.querySms]
  split
  · exact ⟨rfl,rfl,rfl⟩
  split
  · exact ⟨rfl,rfl,rfl⟩
  · exact ⟨rfl,rfl,rfl⟩

theorem releaseSmsId_tables (m : Messaging) (smsId : Option CString) :
    (m.releaseSmsId smsId).smsByPath = m.smsByPath ∧
    (m.releaseSmsId smsId).smsReservedIds ⊆ m.smsReservedIds ∧
    (m.releaseSmsId smsId).smsDeletedPaths = m.smsDeletedPaths := by
  cases smsId with
  | none => exact ⟨rfl,List.Subset.refl _,rfl⟩
  | some smsId => exact ⟨rfl,List.filter_subset_self _,rfl⟩

theorem smsAdded_tables (m : Messaging) (path : Option CString) :
    (m.smsAdded path).smsByPath = m.smsByPath ∧
    (m.smsAdded path).smsReservedIds = m.smsReservedIds := by
  simp only [Messaging.smsAdded]
  split
  · exact ⟨rfl,rfl⟩
  · exact ⟨rfl,rfl⟩

theorem smsDeleted_tables (m : Messaging) (path : CString) :
    (m.smsDeleted path).smsByPath = removeSms m.smsByPath path ∧
    (m.smsDeleted path).smsReservedIds = m.smsReservedIds := by
  have hnone : lookupSms m.smsByPath path = none →
      m.smsByPath = removeSms m.smsByPath path := by
    intro hl
    refine (List.filter_eq_self.mpr fun entry hm => ?_).symm
    rw [bne_iff_ne]
    exact fun he => lookup_eq_none.mp hl (he ▸ List.mem_map.mpr ⟨entry,hm,rfl⟩)
  simp only [Messaging.smsDeleted]
  split_ifs
  · split
    · rename_i hl
      exact ⟨hnone hl,rfl⟩
    · exact ⟨rfl,rfl⟩
  · split
    · rename_i hl
      exact ⟨hnone hl,rfl⟩
    · exact ⟨rfl,rfl⟩

theorem changeEpoch_tables (m : Messaging) (object : Option Nat) :
    (m.changeEpoch object).smsByPath = [] ∧ (m.changeEpoch object).smsReservedIds = [] ∧
    (m.changeEpoch object).smsDeletedPaths = [] := by
  simp only [Messaging.changeEpoch]
  split
  · exact ⟨rfl,rfl,rfl⟩
  · split
    · exact ⟨rfl,rfl,rfl⟩
    · exact ⟨rfl,rfl,rfl⟩

theorem admitReservedSms_ids (h : IdsOf random s) (ref : ModemRef) (generation : Nat) (sms : MMSms)
    (reservedId : CString) :
    ChangeIds random s ((s.1.admitReservedSms ref generation sms reservedId).1,s.2)
      (.enter generation sms reservedId) := by
  obtain ⟨hm,-⟩ | ⟨hm,-⟩ | ⟨path,entry,hpath,hvalid,hres,hid,hsms,-,hbound,hm⟩ :=
    s.1.admitReservedSms_cases ref generation sms reservedId
  · rw [hm]
    exact h.changeIds (.refl _) (List.Subset.refl _) (Nat.le_refl _)
  · rw [hm]
    exact h.changeIds (.refl _) (List.Subset.refl _) (Nat.le_refl _)
  have hfree : ∀ other ∈ s.1.smsByPath, other.2.smsId ≠ entry.smsId := by
    intro other ho he
    exact h.disjoint reservedId hres (mem_smsIds.mpr ⟨other,ho,he.trans hid⟩)
  have htables : (s.1.admitReservedSms ref generation sms reservedId).1.smsByPath =
        insertSms s.1.smsByPath path entry ∧
      (s.1.admitReservedSms ref generation sms reservedId).1.smsReservedIds =
        s.1.smsReservedIds.filter (· != reservedId) := by
    rcases hm with hm | ⟨hm,-⟩
    · rw [hm]
      exact ⟨rfl,rfl⟩
    · rw [hm]
      exact ⟨rfl,rfl⟩
  have hput : IdsOf random ((s.1.admitReservedSms ref generation sms reservedId).1,s.2) := h.put
    (hsms ▸ hpath) hvalid (fun other ho _ => hfree other ho)
    (h.generated _ (.inr (hid ▸ hres))) hbound htables.1 (fun smsId hr => by
      rw [htables.2,List.mem_filter,bne_iff_ne] at hr
      exact ⟨hr.1,hid ▸ hr.2⟩) rfl
  refine ⟨hput,Nat.le_refl _,fun other ho => ?_,fun smsId hr => ?_⟩
  · rw [htables.1] at ho
    rcases mem_put.mp (show other ∈ AssocList.put s.1.smsByPath path entry from ho) with
      ⟨ho,-⟩ | rfl
    · exact .kept other ho rfl rfl
    · exact .entered generation sms (by rw [hid]) hpath (hid ▸ hres)
  · rw [htables.2] at hr
    exact .inl (List.mem_of_mem_filter hr)

theorem rebuildCache_ids (h : IdsOf random s) (ref : ModemRef) (generation : Nat)
    (properties : Nat → SmsProperties) (messages : List MMSms) :
    ChangeIds random s (s.1.rebuildCache random ref generation properties messages s.2)
      (.rebuild generation properties messages) := by
  obtain ⟨drawn,hle,hm⟩ | ⟨passed,r,hperm,hr,hm⟩ := rebuildCache_cases h ref generation properties
    messages
  · rw [hm]
    exact h.changeIds (List.nil_sublist _) (List.Subset.refl _) hle
  rw [hm]
  refine ⟨⟨hr.keys,hr.ids,fun smsId hres hi => ?_,?_,fun entry hm => ?_,fun smsId hm => ?_⟩,
    hr.drawn,fun entry hm => ?_,fun smsId hres => .inl hres⟩
  · obtain ⟨entry,he,rfl⟩ := mem_smsIds.mp hi
    exact hr.reserved entry he hres
  · exact Nat.le_trans hr.bound.1 hr.bound.2
  · exact ⟨(hr.paths entry hm).1,(hr.paths entry hm).2.1⟩
  · rcases hm with hm | hm
    · obtain ⟨entry,he,rfl⟩ := mem_smsIds.mp hm
      rcases hr.origin entry he with ⟨other,ho,-,hid⟩ | ⟨hg,-⟩
      · rw [← hid]
        exact (h.generated _ (.inl (mem_smsIds.mpr ⟨other,ho,rfl⟩))).mono (Nat.le_refl _) hr.drawn
      · exact hg.mono (Nat.zero_le _) (Nat.le_refl _)
    · exact (h.generated _ (.inr hm)).mono (Nat.le_refl _) hr.drawn
  · rcases hr.origin entry hm with ⟨other,ho,hpath,hid⟩ | ⟨hg,hnew⟩
    · exact .kept other ho hpath hid
    · exact .listed generation properties messages rfl hg (hr.reserved entry hm)
        (hnew.imp id fun hn h' => hn ((listedPaths_perm hperm).nodup_iff.mpr h'))

theorem apply_ids (h : IdsOf random s) (ref : ModemRef) (change : Change) :
    ChangeIds random s (change.apply random ref s) change := by
  have hsame : ∀ m : Messaging, m.smsByPath = s.1.smsByPath →
      m.smsReservedIds ⊆ s.1.smsReservedIds → ∀ change, ChangeIds random s (m,s.2) change := by
    intro m hc hr change
    exact h.changeIds (hc ▸ .refl _) hr (Nat.le_refl _)
  cases change with
  | querySms =>
    have h₁ := querySms_tables s.1
    exact hsame _ h₁.1 (by rw [h₁.2.1]; exact List.Subset.refl _) _
  | dedupePrune now => exact hsame (s.1.smsDedupePrune now) rfl (List.Subset.refl _) _
  | dedupeRemove now token =>
    exact hsame (s.1.smsDedupeRemove now token) rfl (List.Subset.refl _) _
  | dedupeStore now token result =>
    exact hsame (s.1.smsDedupeStore now token result) rfl (List.Subset.refl _) _
  | reserve =>
    obtain ⟨h₁,h₂,h₃⟩ := h.reserve
    have hc : (s.1.reserveSmsId random s.2).1.smsByPath = s.1.smsByPath := by
      simp only [Messaging.reserveSmsId]
      split <;> rfl
    refine ⟨h₁,h₂,fun entry hm => .kept entry (hc ▸ hm) rfl rfl,fun smsId hm => ?_⟩
    exact (h₃ smsId hm).imp id fun h₄ => ⟨rfl,h₄⟩
  | release smsId =>
    have h₁ := releaseSmsId_tables s.1 smsId
    exact hsame _ h₁.1 h₁.2.1 _
  | enter generation sms reservedId => exact admitReservedSms_ids h ref generation sms reservedId
  | listFailed cancelled =>
    exact h.changeIds (List.nil_sublist _) (List.Subset.refl _) (Nat.le_refl _)
  | rebuild generation properties messages =>
    have h₁ : IdsOf random (s.1.answered,s.2) := h.shrink (.refl _) (List.Subset.refl _)
      (Nat.le_refl _)
    obtain ⟨h₂,h₃,h₄,h₅⟩ := rebuildCache_ids h₁ ref generation properties messages
    refine ⟨h₂,h₃,fun entry hm => ?_,fun smsId hm => ?_⟩
    · cases h₄ entry hm with
      | kept other ho hpath hid => exact .kept other ho hpath hid
      | entered _ _ hc => cases hc
      | listed generation properties messages hc hg hr hnew =>
        exact .listed generation properties messages hc hg hr hnew
    · rcases h₅ smsId hm with h₆ | ⟨hc,-⟩
      · exact .inl h₆
      · cases hc
  | added path =>
    have h₁ := smsAdded_tables s.1 path
    exact hsame _ h₁.1 (by rw [h₁.2]; exact List.Subset.refl _) _
  | deleted path =>
    have h₁ := smsDeleted_tables s.1 path
    refine h.changeIds ?_ ?_ (Nat.le_refl _)
    · rw [show (Change.apply random ref s (.deleted path)).1.smsByPath = _ from h₁.1]
      exact List.filter_sublist
    · rw [show (Change.apply random ref s (.deleted path)).1.smsReservedIds = _ from h₁.2]
      exact List.Subset.refl _
  | revisionBump => exact hsame s.1.smsRevisionBump rfl (List.Subset.refl _) _
  | clear => exact h.changeIds (List.nil_sublist _) (List.Subset.refl _) (Nat.le_refl _)
  | epoch object =>
    have h₁ := changeEpoch_tables s.1 object
    refine h.changeIds ?_ ?_ (Nat.le_refl _)
    · rw [show (Change.apply random ref s (.epoch object)).1.smsByPath = _ from h₁.1]
      exact List.nil_sublist _
    · rw [show (Change.apply random ref s (.epoch object)).1.smsReservedIds = _ from h₁.2.1]
      exact List.nil_subset _

end Sms
end L850GL
