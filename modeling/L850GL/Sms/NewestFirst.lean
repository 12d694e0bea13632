import L850GL.Lib.Iso8601
import L850GL.Sms.Paging

/-! Where the order of timestamps as texts is the order of time, in the cache bound of 1,024
messages and in the answers of `list_sms`. -/
namespace L850GL
namespace Sms

open Identity Iso8601 Messaging SafeText Sorting World

variable {w : World} {sha256 : CString → Digest} {drawn : Nat} {ref : ModemRef}
  {random : Nat → Option (Vector UInt8 16)} {m : Messaging}
  {request : ListSmsRequest} {replies : List Reply} {properties : Nat → SmsProperties}
  {folder : Folder} {snapshot : List L850GLSms} {passed messages : List MMSms} {generation : Nat}
  {first second third : Option CString}

/-- The point in time that a timestamp names. -/
def timeOf (timestamp : Option CString) : Option Int := timestamp.bind parse

/-- Both timestamps name a time, and the second one is later. -/
def Later (first second : Option CString) : Prop :=
  ∃ time time', timeOf first = some time ∧ timeOf second = some time' ∧ time < time'

/-- The first timestamp is the greater text, the second one is later. -/
def Misordered (first second : Option CString) : Prop :=
  gStrcmp0 first second = .gt ∧ Later first second

theorem not_later_self (first : Option CString) : ¬Later first first := by
  rintro ⟨time,time',h,h',hlt⟩
  rw [h] at h'
  cases h'
  omega

/-- Texts with one offset are never misordered. -/
theorem not_misordered_of_suffix {text text' : CString} (h : suffix text = suffix text') :
    ¬Misordered (some text) (some text') := by
  rintro ⟨hgt,time,time',ht,ht',hlt⟩
  have hcompare : gStrcmp0 (some text) (some text') = compare time time' :=
    compare_of_suffix_eq ht ht' h
  rw [hcompare,Int.compare_eq_gt] at hgt
  omega

def InFolder (properties : Nat → SmsProperties) (folder : Folder) (entry : L850GLSms) : Prop :=
  folder = .all ∨ folder = smsFolder (properties entry.sms.object)

theorem mem_smsView_iff {entry : L850GLSms} : entry ∈ smsView properties folder snapshot ↔
    entry ∈ snapshot ∧ InFolder properties folder entry := by
  simp [smsView,mem_sortBy,InFolder]

/-- A view is in the order of time unless two of its messages are misordered. -/
theorem smsView_inTime_iff :
    ((smsView properties folder snapshot).Pairwise fun a b =>
      ¬Later (properties a.sms.object).timestamp (properties b.sms.object).timestamp) ↔
    ∀ a ∈ snapshot, InFolder properties folder a → ∀ b ∈ snapshot, InFolder properties folder b →
      ¬Misordered (properties a.sms.object).timestamp (properties b.sms.object).timestamp := by
  constructor
  · rintro h a ha haf b hb hbf ⟨hgt,hlater⟩
    have hlt : smsCompare properties a b = .lt := by
      rw [smsCompare,Std.OrientedCmp.gt_iff_lt.mp hgt]
      rfl
    refine rel_of_sortBy h ?_ ?_ hlt hlater
    · exact mem_sortBy.mp (mem_smsView_iff.mpr ⟨ha,haf⟩)
    · exact mem_sortBy.mp (mem_smsView_iff.mpr ⟨hb,hbf⟩)
  · intro h
    refine sortBy_pairwise.imp_of_mem fun {a b} ha hb hab hlater => ?_
    obtain ⟨ha,haf⟩ := mem_smsView_iff.mp ha
    obtain ⟨hb,hbf⟩ := mem_smsView_iff.mp hb
    cases hc : gStrcmp0 (properties b.sms.object).timestamp (properties a.sms.object).timestamp with
    | lt => exact h a ha haf b hb hbf ⟨Std.OrientedCmp.gt_iff_lt.mpr hc,hlater⟩
    | eq =>
      rw [gStrcmp0_eq_eq.mp hc] at hlater
      exact not_later_self _ hlater
    | gt =>
      rw [smsCompare,hc] at hab
      exact hab rfl

theorem parse_none_of_length {text : CString} (h : 25 < text.length) : parse text = none := by
  by_contra hne
  obtain ⟨time,ht⟩ := Option.ne_none_iff_exists'.mp hne
  have := (parse_plain ht).1
  omega

theorem length_flatMap_gUnicharToUtf8 (characters : List Nat) :
    characters.length ≤ (characters.flatMap gUnicharToUtf8).length := by
  induction characters with
  | nil => exact Nat.le_refl _
  | cons c characters ih =>
    have hc : 1 ≤ (gUnicharToUtf8 c).length := by
      unfold gUnicharToUtf8
      split_ifs <;> simp
    rw [List.flatMap_cons,List.length_append,List.length_cons]
    omega

/-- A text that names a time goes out as it is. -/
theorem safeText_of_parse {text : CString} {time : Int} (h : parse text = some time) :
    safeText (some text) 64 = text := by
  obtain ⟨hlen,hplain⟩ := parse_plain h
  have hdecode : utf8Decode text = some (text.map Char.toNat) :=
    utf8Decode_ascii fun c hc => by have := (hplain c hc).2; omega
  have hcntrl : (text.map Char.toNat).any gUnicharIscntrl = false := by
    simp only [List.any_map,List.any_eq_false,Function.comp_apply,gUnicharIscntrl,Bool.or_eq_true,
      Bool.and_eq_true,decide_eq_true_eq]
    intro c hc
    have := hplain c hc
    unfold Plain at this
    omega
  have hlimit : ¬64 < (text.map Char.toNat).length := by
    rw [List.length_map]
    omega
  simp only [safeText,Option.bind_some,hdecode,hcntrl,Bool.false_eq_true,if_false,if_neg hlimit]

/-- A timestamp names the same time in a reply. -/
theorem timeOf_safeText (timestamp : Option CString) :
    timeOf (some (safeText timestamp 64)) = timeOf timestamp := by
  have hnil : timeOf (some []) = none := rfl
  cases timestamp with
  | none => rfl
  | some text =>
    cases ht : parse text with
    | some time => rw [safeText_of_parse ht]
    | none =>
      have hnone : timeOf (some text) = none := ht
      rw [hnone]
      cases hd : utf8Decode text with
      | none => simp only [safeText,Option.bind_some,hd,hnil]
      | some characters =>
        simp only [safeText,Option.bind_some,hd]
        split
        · exact hnil
        split
        · refine parse_none_of_length ?_
          have := length_flatMap_gUnicharToUtf8 (characters.take 64)
          rw [List.length_take] at this
          omega
        · exact hnone

/-- The timestamp of a message in a reply. -/
def timestampOf (message : Blob) : Option CString :=
  match message with
  | .table fields =>
    match fields.lookup "timestamp" with
    | some (.string timestamp) => some timestamp
    | _ => none
  | _ => none

theorem timestampOf_addSmsEntry (properties : Nat → SmsProperties) (entry : L850GLSms) :
    timestampOf (addSmsEntry properties entry) =
      some (safeText (properties entry.sms.object).timestamp 64) := rfl

theorem later_addSmsEntry (a b : L850GLSms) :
    Later (timestampOf (addSmsEntry properties a)) (timestampOf (addSmsEntry properties b)) ↔
      Later (properties a.sms.object).timestamp (properties b.sms.object).timestamp := by
  simp only [Later,timestampOf_addSmsEntry,timeOf_safeText]

/-- A listed message that the cache can hold: it has an object path and no tombstone. -/
def Messaging.cacheable (m : Messaging) (sms : MMSms) : Bool :=
  match sms.path.filter gVariantIsObjectPath with
  | none => false
  | some path => !m.smsDeletedPaths.contains path

/-- The loop of `sms_list_ready` after the messages `passed`. -/
structure RebuildNewest (m : Messaging) (passed : List MMSms) (r : Rebuild) : Prop where
  cached : r.newCache.map (·.2.sms) = (passed.filter m.cacheable).take maxSmsCache
  count : r.count = r.newCache.length
  paths : ∀ entry ∈ r.newCache, entry.1 ∈ listedPaths passed

theorem RebuildNewest.skip {r r' : Rebuild} {sms : MMSms} (h : RebuildNewest m passed r)
    (hs : m.cacheable sms = false ∨ maxSmsCache ≤ r.count) (hn : r'.newCache = r.newCache)
    (hc : r'.count = r.count) : RebuildNewest m (passed++[sms]) r' := by
  refine ⟨?_,by rw [hn,hc,h.count],fun entry hm => ?_⟩
  · rw [hn,h.cached,List.filter_append]
    rcases hs with hs | hs
    · simp [hs]
    · have hlen := congrArg List.length h.cached
      rw [List.length_map,List.length_take,← h.count] at hlen
      rw [List.take_append_of_le_length (by omega)]
  · rw [listedPaths_append]
    exact List.mem_append_left _ (h.paths entry (hn ▸ hm))

theorem RebuildNewest.put {r r' : Rebuild} {sms : MMSms} {path : CString} {entry : L850GLSms}
    (h : RebuildNewest m passed r) (hpath : sms.path.filter gVariantIsObjectPath = some path)
    (hs : m.cacheable sms = true) (hcount : r.count < maxSmsCache) (hsms : entry.sms = sms)
    (hnodup : (listedPaths (passed++[sms])).Nodup)
    (hn : r'.newCache = insertSms r.newCache path entry) (hc : r'.count = r.count+1) :
    RebuildNewest m (passed++[sms]) r' := by
  have hlisted : listedPaths (passed++[sms]) = listedPaths passed++[path] := by
    rw [listedPaths_append,hpath]
    rfl
  have hfresh : path ∉ listedPaths passed := by
    intro hm
    rw [hlisted,List.nodup_append] at hnodup
    exact hnodup.2.2 path hm path (by simp) rfl
  have hremove : removeSms r.newCache path = r.newCache := by
    refine List.filter_eq_self.mpr fun other ho => ?_
    rw [bne_iff_ne]
    rintro rfl
    exact hfresh (h.paths other ho)
  have hnew : r'.newCache = r.newCache++[(path,entry)] := by rw [hn,insertSms,hremove]
  have hlen := congrArg List.length h.cached
  rw [List.length_map,List.length_take,← h.count] at hlen
  refine ⟨?_,?_,fun other ho => ?_⟩
  · have hshort : (passed.filter m.cacheable).length < maxSmsCache := by omega
    have hlast : [sms].filter m.cacheable = [sms] := by simp [hs]
    rw [hnew,List.map_append,h.cached,List.filter_append,hlast,
      List.take_of_length_le (by omega),
      List.take_of_length_le (by rw [List.length_append,List.length_singleton]; omega)]
    simp [hsms]
  · rw [hc,hnew,List.length_append,h.count]
    rfl
  · rw [hlisted]
    rw [hnew] at ho
    rcases List.mem_append.mp ho with ho | ho
    · exact List.mem_append_left _ (h.paths other ho)
    · simp [List.mem_singleton.mp ho]

theorem rebuildStep_newest {r r' : Rebuild} {sms : MMSms} (h : RebuildNewest m passed r)
    (hnodup : (listedPaths (passed++[sms])).Nodup)
    (hr : rebuildStep random m ref generation r sms = .ok r') :
    RebuildNewest m (passed++[sms]) r' := by
  simp only [rebuildStep] at hr
  split at hr
  · rename_i hpath
    cases hr
    exact h.skip (.inl (by simp [Messaging.cacheable,hpath])) rfl rfl
  rename_i path hpath
  split at hr
  · rename_i hdeleted
    cases hr
    exact h.skip (.inl (by simpa [Messaging.cacheable,hpath] using hdeleted)) rfl rfl
  rename_i hlive
  have hs : m.cacheable sms = true := by simpa [Messaging.cacheable,hpath] using hlive
  split at hr
  · rename_i hfull
    cases hr
    exact h.skip (.inr hfull) rfl rfl
  rename_i hcount
  have hcount' : r.count < maxSmsCache := Nat.lt_of_not_le hcount
  split at hr
  · cases hr
    exact h.put hpath hs hcount' (smsSetProxy_sms _ _ _ _ _) hnodup rfl rfl
  · split at hr
    · cases hr
    · cases hr
      exact h.put hpath hs hcount' rfl hnodup rfl rfl

/-- A listing that ends ready keeps the first messages that the cache can hold. -/
theorem rebuildCache_newest (hnodup : (listedPaths messages).Nodup)
    (hready : (m.rebuildCache random ref generation properties messages
      drawn).1.smsCacheState.isReady = true) :
    (m.rebuildCache random ref generation properties messages drawn).1.snapshot.map (·.sms) =
      ((sortBy (smsProxyNewestFirst properties) messages).filter m.cacheable).take maxSmsCache := by
  have hstart : RebuildNewest m [] ⟨m.smsByPath,[],[],0,false,drawn⟩ :=
    ⟨rfl,rfl,fun entry hm => absurd hm List.not_mem_nil⟩
  have hsorted : (listedPaths (sortBy (smsProxyNewestFirst properties) messages)).Nodup :=
    (listedPaths_perm (sortBy_perm _ messages)).nodup_iff.mpr hnodup
  have hloop := (Loop.foldlM_inv
    (fun passed r => (listedPaths passed).Nodup → RebuildNewest m passed r) (fun _ => True)
    (fun passed r sms r' h (hr : rebuildStep random m ref generation r sms = .ok r') hn => by
      refine rebuildStep_newest (h ?_) hn hr
      rw [listedPaths_append] at hn
      exact hn.of_append_left)
    (fun _ _ _ _ _ _ => trivial)
    (l:=sortBy (smsProxyNewestFirst properties) messages) (fun _ => hstart)).1
  simp only [sortBy] at hloop hsorted ⊢
  simp only [Messaging.rebuildCache] at hready ⊢
  split at hready
  · exact absurd hready (by simp [Messaging.smsRevisionBump,SmsCacheState.isReady])
  · rename_i r hr
    have hr' := hloop r hr hsorted
    rw [← hr'.cached]
    simp [Messaging.snapshot,Messaging.smsRevisionBump]

/-- The messages of a listing that the cache could hold but does not. -/
def discarded (m m' : Messaging) (messages : List MMSms) : List MMSms :=
  messages.filter fun sms => m.cacheable sms && sms ∉ m'.snapshot.map (·.sms)

/-- How many messages of a listing that the cache can hold come before one. -/
def newerCount (m : Messaging) (properties : Nat → SmsProperties) (messages : List MMSms)
    (sms : MMSms) : Nat :=
  rank (smsProxyNewestFirst properties) (messages.filter m.cacheable) sms

instance (properties : Nat → SmsProperties) : Std.TransCmp (smsProxyNewestFirst properties) := by
  have htime := transCmp_on gStrcmp0 fun sms : MMSms => (properties sms.object).timestamp
  have hpath := transCmp_on gStrcmp0 fun sms : MMSms => sms.path
  have hnewest := @Std.TransCmp.opposite _ _ htime
  exact inferInstanceAs (Std.TransCmp (compareLex _ _))

theorem sorted_strict (hnodup : (listedPaths messages).Nodup) :
    ((sortBy (smsProxyNewestFirst properties) messages).filter m.cacheable).Pairwise
      fun a b => smsProxyNewestFirst properties a b = .lt := by
  have hpaths : (messages.filter m.cacheable).Pairwise fun a b => a.path ≠ b.path := by
    have h₁ : messages.Pairwise fun a b => ∀ path, a.path.filter gVariantIsObjectPath = some path →
        b.path.filter gVariantIsObjectPath ≠ some path := by
      have h₂ := List.pairwise_filterMap.mp hnodup
      exact h₂.imp fun h path ha hb => h path ha path hb rfl
    refine (h₁.filter _).imp_of_mem fun {a b} ha hb h he => ?_
    have hc := (List.mem_filter.mp ha).2
    simp only [Messaging.cacheable] at hc
    split at hc
    · cases hc
    · rename_i path hpath
      exact h path hpath (he ▸ hpath)
  have hperm : ((sortBy (smsProxyNewestFirst properties) messages).filter m.cacheable).Perm
      (messages.filter m.cacheable) := (sortBy_perm _ messages).filter _
  have hpaths' := (hperm.pairwise_iff fun {a b} (h : a.path ≠ b.path) => h.symm).mpr hpaths
  have hsorted : ((sortBy (smsProxyNewestFirst properties) messages).filter m.cacheable).Pairwise
      fun a b => smsProxyNewestFirst properties a b ≠ .gt := sortBy_pairwise.filter _
  refine (hsorted.and hpaths').imp fun {a b} ⟨hgt,hne⟩ => ?_
  cases hc : smsProxyNewestFirst properties a b with
  | lt => rfl
  | eq => exact absurd (gStrcmp0_eq_eq.mp (Ordering.then_eq_eq.mp hc).2) hne
  | gt => exact absurd hc hgt

/-- The cache of a ready listing holds the messages with fewer than 1,024 newer ones. -/
theorem mem_rebuildCache_iff (hnodup : (listedPaths messages).Nodup)
    (hready : (m.rebuildCache random ref generation properties messages
      drawn).1.smsCacheState.isReady = true) (sms : MMSms) :
    sms ∈ (m.rebuildCache random ref generation properties messages drawn).1.snapshot.map (·.sms) ↔
      sms ∈ messages.filter m.cacheable ∧ newerCount m properties messages sms < maxSmsCache := by
  have hperm : ((sortBy (smsProxyNewestFirst properties) messages).filter m.cacheable).Perm
      (messages.filter m.cacheable) := (sortBy_perm _ messages).filter _
  rw [rebuildCache_newest hnodup hready,newerCount,← rank_perm hperm]
  constructor
  · intro hm
    have hmem := List.mem_of_mem_take hm
    exact ⟨hperm.mem_iff.mp hmem,(mem_take_iff_rank (sorted_strict hnodup) hmem).mp hm⟩
  · rintro ⟨hmem,hrank⟩
    exact (mem_take_iff_rank (sorted_strict hnodup) (hperm.mem_iff.mpr hmem)).mpr hrank

/-- Without misordered timestamps a message with more newer ones is not later. -/
theorem not_later_of_newerCount_lt {kept lost : MMSms}
    (h : ¬Misordered (properties kept.object).timestamp (properties lost.object).timestamp)
    (hcount : newerCount m properties messages kept < newerCount m properties messages lost) :
    ¬Later (properties kept.object).timestamp (properties lost.object).timestamp := by
  intro hlater
  have hgt : smsProxyNewestFirst properties lost kept = .gt := by
    by_contra hne
    have := rank_le (l:=messages.filter m.cacheable) hne
    unfold newerCount at hcount
    omega
  cases hc : gStrcmp0 (properties kept.object).timestamp (properties lost.object).timestamp with
  | lt =>
    rw [smsProxyNewestFirst,hc] at hgt
    cases hgt
  | eq =>
    rw [gStrcmp0_eq_eq.mp hc] at hlater
    exact not_later_self _ hlater
  | gt => exact h ⟨hc,hlater⟩

/-- The timestamp order decides both: a folder is listed newest first unless two of its timestamps
are misordered, and a listing keeps the latest messages unless one that is later than a kept one
has 1,024 greater timestamps before it. -/
theorem newestFirst_law :
    (∀ bridge request ref replies, (smsSystem sha256 random).Reachable w →
      Serves (w.refresh bridge) request ref → Reads (w.refresh bridge) request [] replies →
      (((replies.flatMap messagesOf).Pairwise fun a b => ¬Later (timestampOf a) (timestampOf b)) ↔
        ∀ a ∈ (w.messaging ref).snapshot, InFolder w.properties request.folder a →
          ∀ b ∈ (w.messaging ref).snapshot, InFolder w.properties request.folder b →
            ¬Misordered (w.properties a.sms.object).timestamp
              (w.properties b.sms.object).timestamp)) ∧
    ∀ m m' ref generation properties messages drawn drawn', (listedPaths messages).Nodup →
      Messaging.rebuildCache random m ref generation properties messages drawn = (m',drawn') →
      m'.smsCacheState.isReady = true →
      ((∀ entry ∈ m'.snapshot, ∀ lost ∈ discarded m m' messages,
          ¬Later (properties entry.sms.object).timestamp (properties lost.object).timestamp) ↔
        ∀ kept ∈ messages.filter m.cacheable, ∀ lost ∈ messages.filter m.cacheable,
          newerCount m properties messages kept < maxSmsCache →
            maxSmsCache ≤ newerCount m properties messages lost →
              ¬Later (properties kept.object).timestamp (properties lost.object).timestamp) := by
  refine ⟨fun bridge request ref replies h hs hr => ?_,
    fun m m' ref generation properties messages drawn drawn' hnodup hm hready => ?_⟩
  · have hi := (reachable_epochInv h).ids.ids ref
    have hview := (reads_all (w:=w.refresh bridge) hi hs).2 replies hr
    rw [hview,List.pairwise_map]
    simp only [later_addSmsEntry]
    exact smsView_inTime_iff
  · obtain rfl : m' = (m.rebuildCache random ref generation properties messages drawn).1 := by
      rw [hm]
    have hmem := mem_rebuildCache_iff hnodup hready
    constructor
    · intro h kept hk lost hl hkept hlost hlater
      obtain ⟨entry,he,rfl⟩ := List.mem_map.mp ((hmem kept).mpr ⟨hk,hkept⟩)
      refine h entry he lost ?_ hlater
      have hout : lost ∉ (m.rebuildCache random ref generation properties messages
          drawn).1.snapshot.map (·.sms) := by
        intro hin
        have := ((hmem lost).mp hin).2
        omega
      simp only [discarded,List.mem_filter,Bool.and_eq_true,decide_eq_true_eq]
      exact ⟨(List.mem_filter.mp hl).1,(List.mem_filter.mp hl).2,hout⟩
    · intro h entry he lost hl hlater
      obtain ⟨hk,hkept⟩ := (hmem entry.sms).mp (List.mem_map.mpr ⟨entry,he,rfl⟩)
      simp only [discarded,List.mem_filter,Bool.and_eq_true,decide_eq_true_eq] at hl
      obtain ⟨hin,hc,hout⟩ := hl
      have hlost : lost ∈ messages.filter m.cacheable := List.mem_filter.mpr ⟨hin,hc⟩
      refine h entry.sms hk lost hlost hkept ?_ hlater
      by_contra hlt
      exact hout ((hmem lost).mpr ⟨hlost,by omega⟩)

/-- Where all timestamps carry one offset, both orders are the order of time. -/
theorem newestFirst_of_suffix {zone : CString}
    (h : ∀ object text, (properties object).timestamp = some text → suffix text = zone) :
    (∀ folder snapshot, (smsView properties folder snapshot).Pairwise fun a b =>
      ¬Later (properties a.sms.object).timestamp (properties b.sms.object).timestamp) ∧
    ∀ m messages kept lost,
      newerCount m properties messages kept < newerCount m properties messages lost →
        ¬Later (properties kept.object).timestamp (properties lost.object).timestamp := by
  have hordered : ∀ object object',
      ¬Misordered (properties object).timestamp (properties object').timestamp := by
    intro object object' hmis
    obtain ⟨time,time',ht,ht',-⟩ := hmis.2
    obtain ⟨text,htext,-⟩ := Option.bind_eq_some_iff.mp ht
    obtain ⟨text',htext',-⟩ := Option.bind_eq_some_iff.mp ht'
    rw [htext,htext'] at hmis
    exact not_misordered_of_suffix ((h object text htext).trans (h object' text' htext').symm) hmis
  refine ⟨fun folder snapshot => ?_,fun m messages kept lost hlt => ?_⟩
  · exact smsView_inTime_iff.mpr fun a _ _ b _ _ => hordered _ _
  · exact not_later_of_newerCount_lt (hordered _ _) hlt

/-- A message of 08:00 UTC, written with another offset, and one of 09:00 UTC. -/
def sampleZones : World :=
  {sampleStart with
    bridge := sampleBridge false
    messaging := fun _ => {Messaging.new with
      messaging := some 7
      smsByPath := [("/sms/3".toList,sampleFirst),("/sms/4".toList,sampleSecond)]
      messagingGeneration := 1
      smsCacheState := .ready}
    properties := fun object => {sampleStart.properties object with
      timestamp := if object = 3 then some "2026-01-01T10:00:00+02:00".toList
        else some "2026-01-01T09:00:00+00:00".toList}}

/-- The earlier message is listed before the later one. -/
theorem listSmsReply_misordered : ∃ reply, listSmsReply sampleZones sampleListRequest = .ok reply ∧
    ¬(messagesOf reply).Pairwise fun a b => ¬Later (timestampOf a) (timestampOf b) := by
  have hs : Serves sampleZones sampleListRequest 0 :=
    ⟨by decide +kernel,by decide +kernel,by decide,by decide,by decide⟩
  have hlen : (folderView sampleZones 0 .all).length = 2 := length_sortBy
  have hpage : Pages.page (·.smsId) (folderView sampleZones 0 .all) smsDefaultLimit none =
      some ⟨folderView sampleZones 0 .all,false,none⟩ := by
    simp [Pages.page,Pages.start,Pages.pageAt,hlen,smsDefaultLimit,List.take_of_length_le]
  have hempty : ([] : CString) = [] ∨ l850glSmsIdentityIsValid [] = true := .inl rfl
  refine ⟨_,(listSmsReply_ok_iff hs hempty).mpr ⟨_,hpage,rfl⟩,fun h => ?_⟩
  rw [messagesOf_page,List.pairwise_map] at h
  simp only [later_addSmsEntry] at h
  refine smsView_inTime_iff.mp h sampleFirst (by decide) (.inl rfl) sampleSecond (by decide)
    (.inl rfl) ⟨by decide +kernel,63934473600,63934477200,?_,?_,by decide⟩
  · decide +kernel
  · decide +kernel

/-- Message 3 is of 08:00 UTC, the others of 10:00 and 15:30 UTC, each with its own offset. -/
def sampleTimestamp (object : Nat) : CString :=
  if object = 3 then "2026-01-01T10:00:00+02:00".toList
  else if object%2 = 0 then "2026-01-01T11:00:00+01:00".toList
  else "2026-01-01T12:00:00-03:30".toList

def sampleTime (object : Nat) : Int :=
  if object = 3 then 63934473600 else if object%2 = 0 then 63934480800 else 63934500600

theorem sampleTimestamp_time (object : Nat) :
    timeOf (some (sampleTimestamp object)) = some (sampleTime object) := by
  rw [sampleTimestamp,sampleTime]
  split
  · decide +kernel
  split
  · decide +kernel
  · decide +kernel

theorem sampleTimestamp_later (object object' : Nat) :
    Later (some (sampleTimestamp object)) (some (sampleTimestamp object')) ↔
      sampleTime object < sampleTime object' := by
  simp [Later,sampleTimestamp_time]

theorem sampleTimestamp_ordered (object object' : Nat) :
    ¬Misordered (some (sampleTimestamp object)) (some (sampleTimestamp object')) := by
  rintro ⟨hgt,hlater⟩
  rw [sampleTimestamp_later] at hlater
  revert hgt hlater
  simp only [sampleTimestamp,sampleTime]
  split_ifs <;> decide +kernel

def sampleProperties (object : Nat) : SmsProperties :=
  {sampleStart.properties object with timestamp := some (sampleTimestamp object)}

def sampleDated : World := {sampleStart with properties := sampleProperties}

theorem sampleDated_initial : Initial sampleDated := {sampleStart_initial with}

theorem sampleDated_serves : (sampleIdSystem.run sampleDated sampleReported).map (fun w =>
    (((w.refresh (sampleBridge false)).bridge.l850glBridgeFindModem sampleListRequest.modemId,
      (w.messaging 0).messaging),
    ((w.messaging 0).smsCacheState,(w.messaging 0).snapshot.map (·.sms.object)))) =
    some ((some 0,some 7),(.ready,[4,3])) := by
  decide +kernel

theorem sampleDated_properties {w : World}
    (hw : sampleIdSystem.run sampleDated sampleReported = some w) :
    w.properties = sampleProperties := by
  have hrun : (sampleIdSystem.run sampleDated sampleReported).map (·.properties) =
      some sampleProperties := rfl
  rw [hw] at hrun
  exact Option.some.inj hrun

/-- A message whose path is told from the others by its length. -/
def sampleSms (index : Nat) : MMSms := ⟨index+3,some ('/'::List.replicate (index+1) 'a')⟩

/-- One message more than the cache holds. -/
def sampleMany : List MMSms := (List.range 1025).map sampleSms

theorem sampleSms_path (index : Nat) :
    (sampleSms index).path.filter gVariantIsObjectPath = (sampleSms index).path := by
  have hsplit : (List.replicate (index+1) 'a').splitOn '/' = [List.replicate (index+1) 'a'] := by
    refine List.splitOn_eq_singleton fun hm => ?_
    exact absurd (List.eq_of_mem_replicate hm) (by decide)
  have hpath : gVariantIsObjectPath ('/'::List.replicate (index+1) 'a') = true := by
    rw [List.replicate_succ] at hsplit ⊢
    simp only [gVariantIsObjectPath,hsplit]
    simp
  exact Option.filter_eq_some_iff.mpr ⟨rfl,hpath⟩

theorem sampleMany_paths : (listedPaths sampleMany).Nodup := by
  have hpaths : listedPaths sampleMany =
      (List.range 1025).map fun index => '/'::List.replicate (index+1) 'a' := by
    rw [listedPaths,sampleMany,List.filterMap_map,← List.filterMap_eq_map]
    exact List.filterMap_congr fun index _ => sampleSms_path index
  rw [hpaths]
  refine List.nodup_range.map fun a b h => ?_
  have hlen := congrArg List.length h
  simp only [List.length_cons,List.length_replicate] at hlen
  omega

theorem sampleMany_cacheable : sampleMany.filter Messaging.new.cacheable = sampleMany := by
  refine List.filter_eq_self.mpr fun sms hm => ?_
  obtain ⟨index,-,rfl⟩ := List.mem_map.mp hm
  rw [Messaging.cacheable,sampleSms_path]
  rfl

theorem sampleMany_ready : (Messaging.new.rebuildCache sampleRandom 0 1 sampleProperties sampleMany
    0).1.smsCacheState.isReady = true := by
  have hids : IdsOf sampleRandom (Messaging.new,0) := by
    refine ⟨List.nodup_nil,List.nodup_nil,?_,Nat.zero_le _,?_,?_⟩
    · intro smsId hm
      cases hm
    · intro entry hm
      cases hm
    · rintro smsId (hm | hm)
      · cases hm
      · cases hm
  have hsome : ∀ index < 0+maxSmsCache, (generatedId sampleRandom index).isSome = true := by
    intro index hlt
    have hlt' : index < 65536 := by
      have hmax : maxSmsCache = 1024 := rfl
      omega
    simp [generatedId,sampleRandom,hlt',l850glSmsIdentityGenerateWith,tokenGenerateWith]
  have hready := rebuildCache_ready sampleRandom_neverRepeats hids 0 1 sampleProperties sampleMany
    hsome
  simpa only using hready

/-- All other messages come before message 3. -/
theorem sampleMany_oldest {sms : MMSms} (hm : sms ∈ sampleMany) (hne : sms ≠ sampleSms 0) :
    smsProxyNewestFirst sampleProperties sms (sampleSms 0) = .lt := by
  obtain ⟨index,-,rfl⟩ := List.mem_map.mp hm
  have hindex : index ≠ 0 := by
    rintro rfl
    exact hne rfl
  have hcompare : gStrcmp0 (some (sampleTimestamp 3)) (some (sampleTimestamp (index+3))) = .lt := by
    have hother : index+3 ≠ 3 := by omega
    rw [sampleTimestamp,sampleTimestamp,if_pos rfl,if_neg hother]
    split
    · decide +kernel
    · decide +kernel
  simp only [smsProxyNewestFirst,sampleProperties,sampleSms]
  rw [hcompare]
  rfl

theorem sampleMany_nodup : sampleMany.Nodup := by
  refine List.nodup_range.map fun a b h => ?_
  have hobject := congrArg MMSms.object h
  simp only [sampleSms] at hobject
  omega

/-- The cache has no room for message 3 only. -/
theorem sampleMany_lost {sms : MMSms} (hm : sms ∈ sampleMany) :
    maxSmsCache ≤ newerCount Messaging.new sampleProperties sampleMany sms ↔
      sms = sampleSms 0 := by
  have hlength : sampleMany.length = 1025 := by rw [sampleMany,List.length_map,List.length_range]
  have hcap : maxSmsCache = 1024 := rfl
  have hold : sampleSms 0 ∈ sampleMany := List.mem_map.mpr ⟨0,by simp,rfl⟩
  have hself : smsProxyNewestFirst sampleProperties sms sms ≠ .lt := by
    rw [show smsProxyNewestFirst sampleProperties sms sms = .eq from Std.ReflCmp.compare_self]
    decide
  have hsplit := List.length_eq_countP_add_countP
    (fun b => smsProxyNewestFirst sampleProperties b sms == .lt) (l:=sampleMany)
  rw [newerCount,sampleMany_cacheable,rank]
  simp only [List.countP_eq_length_filter] at hsplit ⊢
  constructor
  · intro hcount
    by_contra hne
    have hgt := Std.OrientedCmp.gt_iff_lt.mpr (sampleMany_oldest hm hne)
    have hsame : [sms,sampleSms 0] ⊆ sampleMany.filter fun b =>
        ¬(smsProxyNewestFirst sampleProperties b sms == .lt) = true := by
      intro b hb
      rcases List.mem_pair.mp hb with rfl | rfl
      · exact List.mem_filter.mpr ⟨hm,by simpa using hself⟩
      · exact List.mem_filter.mpr ⟨hold,by simp [hgt]⟩
    have htwo := (List.subperm_of_subset (by simpa using hne) hsame).length_le
    simp only [List.length_cons,List.length_nil] at htwo
    omega
  · rintro rfl
    have hone : (sampleMany.filter fun b =>
        ¬(smsProxyNewestFirst sampleProperties b (sampleSms 0) == .lt) = true) ⊆
          [sampleSms 0] := by
      intro b hb
      obtain ⟨hb,hlt⟩ := List.mem_filter.mp hb
      by_contra hne
      rw [sampleMany_oldest hb (by simpa using hne)] at hlt
      simp at hlt
    have hle := (List.subperm_of_subset (sampleMany_nodup.filter _) hone).length_le
    simp only [List.length_cons,List.length_nil] at hle
    omega

theorem sampleMany_discarded : discarded Messaging.new (Messaging.new.rebuildCache sampleRandom 0 1
    sampleProperties sampleMany 0).1 sampleMany = [sampleSms 0] := by
  have hkept : ∀ sms ∈ sampleMany, (Messaging.new.cacheable sms && sms ∉
      (Messaging.new.rebuildCache sampleRandom 0 1 sampleProperties sampleMany 0).1.snapshot.map
        (·.sms)) = (sms == sampleSms 0) := by
    intro sms hm
    have hcacheable : Messaging.new.cacheable sms = true :=
      (List.mem_filter.mp (sampleMany_cacheable ▸ hm)).2
    have hiff := mem_rebuildCache_iff sampleMany_paths sampleMany_ready sms
    rw [sampleMany_cacheable,← Nat.not_le,sampleMany_lost hm] at hiff
    rw [hcacheable,Bool.true_and,Bool.eq_iff_iff,decide_eq_true_eq,hiff,beq_iff_eq]
    simp [hm]
  rw [discarded,List.filter_congr hkept]
  have hold : sampleSms 0 ∈ sampleMany := List.mem_map.mpr ⟨0,by simp,rfl⟩
  rw [List.filter_beq,List.count_eq_one_of_mem sampleMany_nodup hold]
  rfl

/-- The law at a run that lists two messages of different offsets, and at a listing of three offsets
whose earliest message the cache has no room for. -/
theorem newestFirst_law_sample :
    (∃ w replies, sampleIdSystem.run sampleDated sampleReported = some w ∧
      (w.messaging 0).snapshot.map (·.sms.object) = [4,3] ∧
      Reads (w.refresh (sampleBridge false)) sampleListRequest [] replies ∧
      (replies.flatMap messagesOf).Pairwise fun a b => ¬Later (timestampOf a) (timestampOf b)) ∧
    ∃ m', (Messaging.new.rebuildCache sampleRandom 0 1 sampleProperties sampleMany 0).1 = m' ∧
      discarded Messaging.new m' sampleMany = [sampleSms 0] ∧
      ∀ entry ∈ m'.snapshot, ∀ lost ∈ discarded Messaging.new m' sampleMany,
        ¬Later (sampleProperties entry.sms.object).timestamp
          (sampleProperties lost.object).timestamp := by
  obtain ⟨w,hw,hall⟩ := Option.map_eq_some_iff.mp sampleDated_serves
  simp only [Prod.mk.injEq] at hall
  obtain ⟨⟨hfound,hobject⟩,hstate,htwo⟩ := hall
  have h : sampleIdSystem.Reachable w :=
    System.reachable_run (S:=sampleIdSystem) (.start sampleDated_initial) hw
  have hs : Serves (w.refresh (sampleBridge false)) sampleListRequest 0 := by
    have hmessaging : ((w.refresh (sampleBridge false)).messaging 0).messaging = some 7 := hobject
    have hready : ((w.refresh (sampleBridge false)).messaging 0).smsCacheState = .ready := hstate
    exact ⟨by decide +kernel,hfound,by rw [hmessaging]; decide,by rw [hready]; decide,by decide⟩
  obtain ⟨replies,hr⟩ := (reads_all (w:=w.refresh (sampleBridge false))
    ((reachable_epochInv h).ids.ids 0) hs).1
  have hlaw := @newestFirst_law w (fun _ => Vector.replicate 32 0) sampleRandom
  refine ⟨⟨w,replies,hw,htwo,hr,?_⟩,_,rfl,?_,?_⟩
  · refine (hlaw.1 (sampleBridge false) sampleListRequest 0 replies h hs hr).mpr ?_
    intro a ha _ b hb _
    have hdated := sampleDated_properties hw
    rw [hdated]
    exact sampleTimestamp_ordered _ _
  · exact sampleMany_discarded
  · refine (hlaw.2 Messaging.new _ 0 1 sampleProperties sampleMany 0 _ sampleMany_paths
      Prod.mk.eta.symm sampleMany_ready).mpr ?_
    rw [sampleMany_cacheable]
    intro kept hk lost hl _ hlost hlater
    have hold := (sampleMany_lost hl).mp hlost
    subst hold
    have htime := (sampleTimestamp_later kept.object 3).mp hlater
    simp only [sampleTime] at htime
    split_ifs at htime <;> omega

end Sms
end L850GL
