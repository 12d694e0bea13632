import L850GL.Frontend.SmsPages
import L850GL.Frontend.SmsReplies
import L850GL.Sms.Paging

/-! Deleting all messages: whatever happens between the pages, what the page offers for deletion is
the folder as it was at one revision. -/
namespace L850GL
namespace Frontend
namespace SmsPage

open Sms
open Gateway Identity JsValue Messaging Mutation Pages SafeText Widgets World

variable {gateway : Gateway} {w w' w₁ : World} {ref : ModemRef} {sha256 : CString → Digest}
  {random : Nat → Option (Vector UInt8 16)} {summary result : JsValue} {folder : Folder}
  {p p' : Pager} {turn : Turn} {loaded : Loaded} {request : ListSmsRequest} {reply : Reply}
  {steps : List (World × (Sms.Event × Bridge))}

def jsBytes (text : CString) : CString :=
  text.flatMap fun character => gUnicharToUtf8 character.toNat

def pageRequest (summary : JsValue) (folder : Folder) (p : Pager) : ListSmsRequest :=
  ⟨jsBytes (textOf (summary.get "modem_id")),folder,smsLimit,jsBytes p.cursor⟩

/-- The results that a request can have in a state. -/
inductive Answer (gateway : Gateway) (w : World) (request : ListSmsRequest) : JsValue → Prop
  | served {reply : Reply} (h : listSmsReply w request = .ok reply) :
      Answer gateway w request (gateway.ofReply reply)
  | refused {reply : Reply} (h : listSmsReply w request = .error reply) :
      Answer gateway w request (gateway.ofReply reply)
  | lost (message : CString) : Answer gateway w request (transportResult message)

/-- Loading pages while the bridge runs: it takes any steps before it answers a request. -/
inductive Loads (gateway : Gateway) (sha256 : CString → Digest)
    (random : Nat → Option (Vector UInt8 16)) (summary : JsValue) (strictPaging : Bool)
    (pageCount : Nat) (folder : Folder) :
    World → Pager → Turn → Prop
  | last {w w' : World} {steps : List (World × (Sms.Event × Bridge))} {bridge : Bridge} {p : Pager}
      {result : JsValue} {turn : Turn} (hpath : (smsSystem sha256 random).Path w steps w')
      (hfit : ∀ run ∈ steps, PropertiesFit run.1 run.2)
      (hanswer : Answer gateway (w'.refresh bridge) (pageRequest summary folder p) result)
      (hturn : p.turn summary strictPaging pageCount result = turn)
      (hend : ∀ p', turn ≠ .next p') :
      Loads gateway sha256 random summary strictPaging pageCount folder w p turn
  | more {w w' : World} {steps : List (World × (Sms.Event × Bridge))} {bridge : Bridge}
      {p p' : Pager} {result : JsValue} {turn : Turn}
      (hpath : (smsSystem sha256 random).Path w steps w')
      (hfit : ∀ run ∈ steps, PropertiesFit run.1 run.2)
      (hanswer : Answer gateway (w'.refresh bridge) (pageRequest summary folder p) result)
      (hturn : p.turn summary strictPaging pageCount result = .next p')
      (rest : Loads gateway sha256 random summary strictPaging pageCount folder w' p' turn) :
      Loads gateway sha256 random summary strictPaging pageCount folder w p turn

def offered (state : DeviceState) : Turn → Option (List CString)
  | .next _ => none
  | .done loaded => (deleteAllLoaded state loaded).2
  | .thrown => (deleteAllThrown state).2

/-- What `prepareDeleteAll` offers for deletion.  `later` is what other handlers do to the state
while the pages are loading. -/
def deleteAllOffer (state : DeviceState) (entry : Entry) (later : DeviceState → DeviceState)
    (turn : Turn) : Option (List CString) :=
  (prepareDeleteAll state entry).bind fun state => offered (later state) turn

theorem jsBytes_ascii {text : CString} (h : ∀ c ∈ text, c.toNat < 0x80) : jsBytes text = text := by
  induction text with
  | nil => rfl
  | cons c text ih =>
    have hc : gUnicharToUtf8 c.toNat = [c] := by
      simp [gUnicharToUtf8,h c List.mem_cons_self,Char.ofNat_toNat]
    have h₁ := ih fun c hc => h c (List.mem_cons_of_mem _ hc)
    rw [jsBytes,List.flatMap_cons,hc]
    exact congrArg (c::·) h₁

theorem smsIdentity_ascii {smsId : CString} (h : l850glSmsIdentityIsValid smsId = true) :
    ∀ c ∈ smsId, c.toNat < 0x80 := tokenIsValid_ascii h (ascii_of_all (by decide))

theorem listSmsReply_error (h : listSmsReply w request = .error reply) :
    ∃ code message retryable, reply = Sms.sendError w.bridge code message retryable := by
  simp only [listSmsReply] at h
  split at h
  · cases h
    exact ⟨_,_,_,rfl⟩
  · split at h
    · cases h
      exact ⟨_,_,_,rfl⟩
    · cases h

theorem Answer.served_of_valid (h : Answer gateway w request result)
    (hvalid : smsIsValid result summary 100 = true) :
    ∃ reply, listSmsReply w request = .ok reply ∧ result = gateway.ofReply reply := by
  have hsome : (result.get "messaging_generation").isNullish = false := by
    have hu := (smsIsValid_counters hvalid).1
    cases hg : result.get "messaging_generation" with
    | undefined | null =>
      rw [hg] at hu
      cases hu
    | _ => rfl
  cases h with
  | served h => exact ⟨_,h,rfl⟩
  | refused h =>
    obtain ⟨code,message,retryable,rfl⟩ := listSmsReply_error h
    rw [ofReply_eq (sendError_distinct _ _ _ _),renderReply_get_none rfl] at hsome
    cases hsome
  | lost message => cases hsome

theorem Pager.refuse_eq_none (h : p.refuse summary true result = none) :
    smsIsValid result summary 100 = true ∧
      (∀ first, p.first = some first → sameInventory first result = true) ∧
      p.messages.length+(result.get "messages").items.length ≤ smsCacheMax := by
  simp only [Pager.refuse] at h
  split at h
  · cases h
  split at h
  · cases h
  split at h
  · cases h
  rename_i herror
  split at h
  · cases h
  rename_i hsame
  split at h
  · cases h
  rename_i hbound
  refine ⟨(truthy_smsError.mp (by simpa using herror)).2,fun first hf => ?_,by omega⟩
  rw [hf] at hsame
  simpa using hsame

/-- In strict paging a refused result ends the loading with an error. -/
theorem Pager.refuse_error (h : p.refuse summary true result = some turn) :
    turn = .thrown ∨ ∃ loaded, turn = .done loaded ∧ truthy loaded.error = true := by
  simp only [Pager.refuse] at h
  split at h
  · cases h
    exact .inl rfl
  split at h
  · cases h
    exact .inr ⟨_,rfl,rfl⟩
  split at h
  · rename_i herror
    cases h
    exact .inr ⟨_,rfl,herror⟩
  split at h
  · cases h
    exact .inr ⟨_,rfl,rfl⟩
  split at h
  · cases h
    exact .inr ⟨_,rfl,rfl⟩
  · cases h

theorem foldl_collect {items : List JsValue} {ids : List CString}
    (hids : items.map smsIdOf = ids.map some) (hnodup : (p.seen++ids).Nodup) :
    items.foldl Pager.collect p = {p with messages := p.messages++items} := by
  induction items generalizing p ids with
  | nil => simp
  | cons item items ih =>
    cases ids with
    | nil => cases hids
    | cons smsId ids =>
      simp only [List.map_cons,List.cons.injEq] at hids
      obtain ⟨hid,hids⟩ := hids
      have hnew : smsId ∉ p.seen := by
        intro hm
        exact (List.nodup_append.mp hnodup).2.2 smsId hm smsId List.mem_cons_self rfl
      have hc : p.collect item = {p with messages := p.messages++[item]} := by
        simp only [Pager.collect,hid,if_neg hnew]
      have hseen : (p.collect item).seen = p.seen++[smsId] := by
        rw [hc]
        simp [Pager.seen,hid]
      have hn : ((p.collect item).seen++ids).Nodup := by
        rw [hseen,List.append_assoc]
        exact hnodup
      rw [List.foldl_cons,ih hids hn,hc]
      simp

theorem isObject_entry (gateway : Gateway) (properties : Nat → SmsProperties)
    (entry : L850GLSms) : isObject (gateway.ofBlob (addSmsEntry properties entry)) = true := by
  rw [ofBlob_eq_render (addSmsEntry_distinct properties entry),addSmsEntry,render_table]
  rfl

theorem smsIdOf_entry (properties : Nat → SmsProperties) {entry : L850GLSms}
    (h : l850glSmsIdentityIsValid entry.smsId = true) :
    smsIdOf (gateway.ofBlob (addSmsEntry properties entry)) = some entry.smsId := by
  have hid : (gateway.ofBlob (addSmsEntry properties entry)).get "sms_id" =
      .string entry.smsId := by
    rw [ofBlob_eq_render (addSmsEntry_distinct properties entry),addSmsEntry,render_table,
      @renderReply_get_some _ _ "sms_id" (.string entry.smsId) rfl,render_string,
      text_ascii (smsIdentity_ascii h)]
  rw [smsIdOf,isObject_entry,hid]

def entriesOf (gateway : Gateway) (properties : Nat → SmsProperties) (view : List L850GLSms) :
    List JsValue :=
  view.map fun entry => gateway.ofBlob (addSmsEntry properties entry)

theorem map_smsIdOf_entriesOf {properties : Nat → SmsProperties} {view : List L850GLSms}
    (hvalid : ∀ entry ∈ view, l850glSmsIdentityIsValid entry.smsId = true) :
    (entriesOf gateway properties view).map smsIdOf = (view.map (·.smsId)).map some := by
  rw [entriesOf,List.map_map,List.map_map]
  exact List.map_congr_left fun entry hm => smsIdOf_entry properties (hvalid entry hm)

theorem filterMap_smsIdOf_entriesOf {properties : Nat → SmsProperties} {view : List L850GLSms}
    (hvalid : ∀ entry ∈ view, l850glSmsIdentityIsValid entry.smsId = true) :
    (entriesOf gateway properties view).filterMap smsIdOf = view.map (·.smsId) := by
  have h₁ : (entriesOf gateway properties view).filterMap smsIdOf =
      ((entriesOf gateway properties view).map smsIdOf).filterMap id := by
    rw [List.filterMap_map]
    rfl
  rw [h₁,map_smsIdOf_entriesOf hvalid,List.filterMap_map]
  exact List.filterMap_some

/-- The pager has the first messages of a view and asks for the next ones. -/
structure Collected (gateway : Gateway) (properties : Nat → SmsProperties)
    (view : List L850GLSms) (p : Pager) (s : Nat) : Prop where
  messages : p.messages = entriesOf gateway properties (view.take s)
  duplicate : p.duplicate = false
  start : Pages.start (·.smsId) view (cursorOf (jsBytes p.cursor)) = some s

theorem Collected.take {properties : Nat → SmsProperties} {view : List L850GLSms} {s limit : Nat}
    (h : Collected gateway properties view p s) (hnodup : (view.map (·.smsId)).Nodup)
    (hvalid : ∀ entry ∈ view, l850glSmsIdentityIsValid entry.smsId = true)
    (hitems : (result.get "messages").items =
      entriesOf gateway properties (pageAt (·.smsId) view limit s).items) :
    (p.take result).messages =
        entriesOf gateway properties (view.take (min view.length (s+limit))) ∧
      (p.take result).duplicate = false ∧ (p.take result).page = p.page ∧
      (p.take result).first = some (p.first.getD result) := by
  have hs : s ≤ view.length := start_le h.start
  have hsplit : view.take (min view.length (s+limit)) =
      view.take s++(pageAt (·.smsId) view limit s).items := by
    have hstop : min view.length (s+limit) = s+(min view.length (s+limit)-s) := by omega
    rw [hstop,List.take_add]
    rfl
  have hmem : ∀ entry ∈ (pageAt (·.smsId) view limit s).items, entry ∈ view :=
    fun entry hm => List.mem_of_mem_drop (List.mem_of_mem_take hm)
  have hids : (result.get "messages").items.map smsIdOf =
      ((pageAt (·.smsId) view limit s).items.map (·.smsId)).map some := by
    rw [hitems]
    exact map_smsIdOf_entriesOf fun entry hm => hvalid entry (hmem entry hm)
  have hseen : p.seen = (view.take s).map (·.smsId) := by
    rw [Pager.seen,h.messages]
    exact filterMap_smsIdOf_entriesOf fun entry hm => hvalid entry (List.mem_of_mem_take hm)
  have hfold := foldl_collect (p:={p with first := some (p.first.getD result)}) hids (by
    rw [show Pager.seen {p with first := some (p.first.getD result)} = p.seen from rfl,hseen,
      ← List.map_append,← hsplit]
    exact hnodup.sublist ((List.take_sublist _ _).map _))
  have htake : p.take result = {p with
      first := some (p.first.getD result)
      messages := p.messages++(result.get "messages").items} := hfold
  rw [htake]
  refine ⟨?_,h.duplicate,rfl,rfl⟩
  simp only [h.messages,hitems,hsplit,entriesOf,List.map_append]

theorem pageReply_get (gateway : Gateway) (w : World) (ref : ModemRef) (request : ListSmsRequest)
    (page : Pages.Page L850GLSms CString) :
    (gateway.ofReply (smsPageReply w ref request page)).get "generation" =
        .number (signed 32 (w.modem ref).generation) ∧
      (gateway.ofReply (smsPageReply w ref request page)).get "messaging_generation" =
        .number (signed 32 (w.messaging ref).messagingGeneration) ∧
      ∃ shown,ReadAs (signed 64 (w.messaging ref).smsRevision) shown ∧
        (gateway.ofReply (smsPageReply w ref request page)).get "revision" = .number shown := by
  obtain ⟨shown,hread,hshown⟩ := gateway.u64 (w.messaging ref).smsRevision
  have hrevision : gateway.render (.u64 (w.messaging ref).smsRevision) = .number shown := hshown
  rw [ofReply_eq (smsPageReply_distinct w ref request page),
    renderReply_get_some (smsPageReply_generation w ref request page),
    renderReply_get_some (smsPageReply_messagingGeneration w ref request page),
    renderReply_get_some (smsPageReply_revision w ref request page),render_u32,render_u32,hrevision]
  exact ⟨rfl,rfl,shown,hread,rfl⟩

theorem pageReply_counters (h : (smsSystem sha256 random).Reachable w) {bridge : Bridge}
    {page : Pages.Page L850GLSms CString}
    (hepoch : isUnsigned ((gateway.ofReply
      (smsPageReply (w.refresh bridge) ref request page)).get "messaging_generation") = true)
    (hrevision : isUnsigned ((gateway.ofReply
      (smsPageReply (w.refresh bridge) ref request page)).get "revision") = true) :
    (gateway.ofReply (smsPageReply (w.refresh bridge) ref request page)).get
        "messaging_generation" = .number (w.messaging ref).messagingGeneration ∧
      (gateway.ofReply (smsPageReply (w.refresh bridge) ref request page)).get "revision" =
        .number (w.messaging ref).smsRevision := by
  obtain ⟨-,he,shown,hread,hr⟩ := pageReply_get gateway (w.refresh bridge) ref request page
  rw [he,← @render_u32 gateway] at hepoch
  have hsmall := (isUnsigned_render_iff (reachable_epochBound h ref)).mp hepoch
  rw [hr] at hrevision
  simp only [isUnsigned,isSafeIntegerWith,Bool.and_eq_true,decide_eq_true_eq] at hrevision
  obtain ⟨⟨-,hhigh⟩,hlow⟩ := hrevision
  have hlong : (w.messaging ref).smsRevision < 2^64 :=
    Nat.lt_of_le_of_lt (reachable_revisionBound h ref) (by decide)
  rw [he,hr,hread.eq_of_unsigned hlong hlow hhigh]
  exact ⟨congrArg JsValue.number (signed_of_lt hsmall),rfl⟩

theorem refresh_generation (h : (smsSystem sha256 random).Reachable w) (bridge : Bridge)
    (ref : ModemRef) : ((w.refresh bridge).modem ref).generation = ref+1 := by
  rw [← reachable_generation h ref]
  exact refreshModem_generation _ _

theorem live_refresh {bridge : Bridge} {modemId : CString}
    (h : (w.refresh bridge).bridge.l850glBridgeFindModem modemId = some ref) :
    (w.modem ref).live = true := by
  rw [← (find_live h).1]
  exact (refreshModem_live _ _).symm

/-- Two pages that the pager takes together come from one view of one record. -/
theorem sameInventory_view (h : (smsSystem sha256 random).Reachable w₁)
    (hpath : (smsSystem sha256 random).Path w₁ steps w)
    (hfit : ∀ run ∈ steps, PropertiesFit run.1 run.2) {bridge bridge' : Bridge}
    {request' : ListSmsRequest} {reply' : Reply}
    (hreply : listSmsReply (w₁.refresh bridge) request = .ok reply)
    (hreply' : listSmsReply (w.refresh bridge') request' = .ok reply')
    (hvalid : smsIsValid (gateway.ofReply reply) summary 100 = true)
    (hsame : sameInventory (gateway.ofReply reply) (gateway.ofReply reply') = true)
    (hserves : Serves (w₁.refresh bridge) request ref) :
    Serves (w.refresh bridge') request' ref ∧ ∀ folder,
      folderView w ref folder = folderView w₁ ref folder ∧
      entriesOf gateway w.properties (folderView w₁ ref folder) =
        entriesOf gateway w₁.properties (folderView w₁ ref folder) := by
  have hreach : (smsSystem sha256 random).Reachable w := hpath.reachableUnder h fun _ _ => trivial
  obtain ⟨ref₁,page,hs,-,rfl⟩ := listSmsReply_ok hreply
  obtain rfl : ref₁ = ref := Option.some.inj (hs.found.symm.trans hserves.found)
  obtain ⟨ref₂,page',hs',-,rfl⟩ := listSmsReply_ok hreply'
  simp only [sameInventory,List.all_cons,List.all_nil,Bool.and_true,Bool.and_eq_true] at hsame
  obtain ⟨hgen,hepoch,hrev⟩ := hsame
  obtain ⟨hu,hu'⟩ := smsIsValid_counters hvalid
  obtain ⟨hg,-,-⟩ := pageReply_get gateway (w₁.refresh bridge) ref₁ request page
  obtain ⟨hg',-,-⟩ := pageReply_get gateway (w.refresh bridge') ref₂ request' page'
  rw [hg,hg',strictEquals_eq_number,refresh_generation h,refresh_generation hreach] at hgen
  have hword : ∀ {n}, n ≤ Cell.uint32Max → n < 2^32 :=
    fun hle => Nat.lt_of_le_of_lt hle (by decide)
  have hsucc : ref₂+1 = ref₁+1 :=
    signed_inj (hword (reachable_generation_le hreach (live_refresh hs'.found)))
      (hword (reachable_generation_le h (live_refresh hs.found))) (JsValue.number.inj hgen)
  have hrefs : ref₂ = ref₁ := Nat.add_right_cancel hsucc
  subst hrefs
  -- both pages show the same two counters, so those of the record have not changed
  obtain ⟨he,hr⟩ := pageReply_counters h hu hu'
  rw [he,strictEquals_eq_number] at hepoch
  rw [hr,strictEquals_eq_number] at hrev
  rw [he,← hepoch] at hu
  rw [hr,← hrev] at hu'
  obtain ⟨he',hr'⟩ := pageReply_counters hreach hu hu'
  have hepoch' : (w.messaging ref₂).messagingGeneration =
      (w₁.messaging ref₂).messagingGeneration := by
    rw [he',JsValue.number.injEq] at hepoch
    exact_mod_cast hepoch
  have hrevision : (w.messaging ref₂).smsRevision = (w₁.messaging ref₂).smsRevision := by
    rw [hr',JsValue.number.injEq] at hrev
    exact_mod_cast hrev
  have hlast : (w₁.messaging ref₂).smsRevision < uint64Max := by
    rw [hrev] at hu'
    simp only [isUnsigned,isSafeIntegerWith,Bool.and_eq_true,decide_eq_true_eq] at hu'
    have hmax : maxSafeInteger = 9007199254740991 := rfl
    have hlong : uint64Max = 18446744073709551615 := rfl
    omega
  have hlaw := hs.sameView h hpath hfit hs' hepoch' hrevision hlast
  refine ⟨hs',fun folder => ?_⟩
  obtain ⟨hview,hshown⟩ := hlaw.2.2 folder _ _ (.refl _) (.refl _)
  refine ⟨hview,?_⟩
  rw [hview] at hshown
  have h₁ := congrArg (List.map gateway.ofBlob) hshown
  rw [List.map_map,List.map_map] at h₁
  exact h₁

theorem Collected.turn_page {properties : Nat → SmsProperties} {view : List L850GLSms} {s : Nat}
    (h : Collected gateway properties view p s) (pageCount : Nat)
    (hnodup : (view.map (·.smsId)).Nodup)
    (hvalid : ∀ entry ∈ view, l850glSmsIdentityIsValid entry.smsId = true)
    (hitems : (result.get "messages").items =
      entriesOf gateway properties (pageAt (·.smsId) view smsLimit s).items)
    (hmore : result.get "has_more" = .boolean (pageAt (·.smsId) view smsLimit s).hasMore)
    (hnext : result.get "next_cursor" =
      .string (gateway.text ((pageAt (·.smsId) view smsLimit s).next.getD [])))
    (hrefuse : p.refuse summary true result = none) :
    (∃ p', p.turn summary true pageCount result = .next p' ∧
      p'.first = some (p.first.getD result) ∧ Collected gateway properties view p' (s+smsLimit) ∧
      p'.page = p.page+1 ∧ s+smsLimit < view.length) ∨
    ∃ messages next, p.turn summary true pageCount result =
        .done ⟨(p.first.getD result).assign [("messages",.array messages),
          ("next_cursor",.string next),("has_more",result.get "has_more")],none,false⟩ ∧
      ((pageAt (·.smsId) view smsLimit s).hasMore = false →
        messages = entriesOf gateway properties view) ∧
      ((pageAt (·.smsId) view smsLimit s).hasMore = true → pageCount ≤ p.page+1) := by
  obtain ⟨hids,hdup,hpage,hfirst⟩ := h.take hnodup hvalid hitems
  have hturn : p.turn summary true pageCount result =
      if p.page+1 < pageCount && (pageAt (·.smsId) view smsLimit s).hasMore then
        .next {p.take result with page := p.page+1,cursor := textOf (result.get "next_cursor")}
      else
        .done ⟨(p.first.getD result).assign [("messages",.array (p.take result).messages),
          ("next_cursor",.string (textOf (result.get "next_cursor"))),
          ("has_more",result.get "has_more")],none,false⟩ := by
    simp only [Pager.turn,hrefuse,hdup,Bool.and_false,Bool.false_eq_true,if_false,hpage,hfirst,
      Option.getD_some,hmore,JsValue.isTrue]
  rw [hturn]
  split
  · rename_i hc
    simp only [Bool.and_eq_true,decide_eq_true_eq] at hc
    obtain ⟨hlast,hstart,hlt⟩ := pageAt_more hnodup (by decide) hc.2
    refine .inl ⟨_,rfl,hfirst,⟨?_,hdup,?_⟩,rfl,hlt⟩
    · rw [show min view.length (s+smsLimit) = s+smsLimit from by omega] at hids
      exact hids
    · have hp : Pages.page (·.smsId) view smsLimit (cursorOf (jsBytes p.cursor)) =
          some (pageAt (·.smsId) view smsLimit s) := by
        rw [Pages.page,h.start]
        rfl
      obtain ⟨entry,hm,hn⟩ := page_next hc.2 (by decide) hp
      have hv := hvalid entry hm
      have hcursor : textOf (result.get "next_cursor") = entry.smsId := by
        rw [hnext,hn]
        exact text_ascii (smsIdentity_ascii hv)
      simp only [hcursor,jsBytes_ascii (smsIdentity_ascii hv)]
      rw [hn] at hstart
      simpa [cursorOf,smsIdentity_ne_nil hv] using hstart
  · rename_i hc
    refine .inr ⟨_,_,rfl,fun hm => ?_,fun hm => ?_⟩
    · simp only [pageAt,decide_eq_false_iff_not,Nat.not_lt] at hm
      rw [hids,show min view.length (s+smsLimit) = view.length from by omega,List.take_length]
    · simpa [hm] using hc

theorem pageReply_page (gateway : Gateway) (w : World) (ref : ModemRef) (request : ListSmsRequest)
    (page : Pages.Page L850GLSms CString) :
    let result := gateway.ofReply (smsPageReply w ref request page)
    (result.get "messages").items = entriesOf gateway w.properties page.items ∧
      result.get "has_more" = .boolean page.hasMore ∧
      result.get "next_cursor" = .string (gateway.text (page.next.getD [])) := by
  have hlookup : (smsPageReply w ref request page).lookup "messages" =
      some (.array (page.items.map (addSmsEntry w.properties))) := rfl
  intro result
  have hresult : result = gateway.renderReply (smsPageReply w ref request page) :=
    ofReply_eq (smsPageReply_distinct w ref request page)
  rw [hresult,renderReply_get_some hlookup,
    renderReply_get_some (smsPageReply_hasMore w ref request page),
    renderReply_get_some (smsPageReply_nextCursor w ref request page)]
  refine ⟨?_,render_u8 page.hasMore,render_string _⟩
  rw [render_array,JsValue.items,List.map_map,entriesOf]
  exact List.map_congr_left fun entry _ =>
    (ofBlob_eq_render (addSmsEntry_distinct w.properties entry)).symm

/-- What has been loaded is the folder of the record in the state, unless there is more. -/
def FolderLoaded (gateway : Gateway) (w : World) (ref : ModemRef) (folder : Folder) (reply : Reply)
    (loaded : Loaded) : Prop :=
  ∃ messages next more, loaded.messages = (gateway.ofReply reply).assign
      [("messages",.array messages),("next_cursor",.string next),("has_more",.boolean more)] ∧
    (more = false → messages = entriesOf gateway w.properties (folderView w ref folder))

theorem Collected.answer {s : Nat}
    (hcol : Collected gateway w.properties (folderView w ref folder) p s)
    (h : (smsSystem sha256 random).Reachable w) (pageCount : Nat) {bridge : Bridge}
    (hans : Answer gateway (w.refresh bridge) (pageRequest summary folder p) result)
    (hserves : ∀ reply, listSmsReply (w.refresh bridge) (pageRequest summary folder p) =
      .ok reply → result = gateway.ofReply reply →
      Serves (w.refresh bridge) (pageRequest summary folder p) ref)
    (hrefuse : p.refuse summary true result = none) :
    (∃ p', p.turn summary true pageCount result = .next p' ∧
      p'.first = some (p.first.getD result) ∧
      Collected gateway w.properties (folderView w ref folder) p' (s+smsLimit) ∧
      p'.page = p.page+1 ∧ s+smsLimit < (folderView w ref folder).length) ∨
    ∃ messages next more, p.turn summary true pageCount result =
        .done ⟨(p.first.getD result).assign [("messages",.array messages),
          ("next_cursor",.string next),("has_more",.boolean more)],none,false⟩ ∧
      (more = false → messages = entriesOf gateway w.properties (folderView w ref folder)) ∧
      (more = true → pageCount ≤ p.page+1 ∧ s+smsLimit < (folderView w ref folder).length) := by
  have hi := (reachable_epochInv h).ids.ids ref
  obtain ⟨hvalid,-,-⟩ := Pager.refuse_eq_none hrefuse
  obtain ⟨reply,hr,rfl⟩ := hans.served_of_valid hvalid
  have hs := hserves reply hr rfl
  obtain ⟨ref',page,hs',hpage,rfl⟩ := listSmsReply_ok hr
  obtain rfl : ref' = ref := Option.some.inj (hs'.found.symm.trans hs.found)
  obtain ⟨hitems,hmore,hnext⟩ := pageReply_page gateway (w.refresh bridge) ref'
    (pageRequest summary folder p) page
  have hp : Pages.page (·.smsId) (folderView w ref' folder) smsLimit
      (cursorOf (jsBytes p.cursor)) = some page := hpage
  rw [Pages.page,hcol.start] at hp
  obtain rfl := Option.some.inj hp
  have hturn := hcol.turn_page pageCount (smsView_ids hi _ _)
    (fun entry hm => smsId_valid hi (mem_folderView hm)) hitems hmore hnext hrefuse
  rcases hturn with hturn | ⟨messages,next,hturn,hall,hlast⟩
  · exact .inl hturn
  · rw [hmore] at hturn
    exact .inr ⟨messages,next,_,hturn,hall,fun hm =>
      ⟨hlast hm,(pageAt_more (smsView_ids hi _ _) (by decide) hm).2.2⟩⟩

theorem Collected.later {s : Nat}
    (hcol : Collected gateway w₁.properties (folderView w₁ ref folder) p s)
    (h : (smsSystem sha256 random).Reachable w₁)
    (hpath : (smsSystem sha256 random).Path w₁ steps w)
    (hfit : ∀ run ∈ steps, PropertiesFit run.1 run.2) {bridge bridge' : Bridge}
    (hreply : listSmsReply (w₁.refresh bridge) request = .ok reply)
    (hvalid : smsIsValid (gateway.ofReply reply) summary 100 = true)
    (hserves : Serves (w₁.refresh bridge) request ref)
    (hfirst : p.first = some (gateway.ofReply reply)) (pageCount : Nat)
    (hans : Answer gateway (w.refresh bridge') (pageRequest summary folder p) result)
    (hrefuse : p.refuse summary true result = none) :
    (∃ p', p.turn summary true pageCount result = .next p' ∧
      p'.first = some (gateway.ofReply reply) ∧
      Collected gateway w₁.properties (folderView w₁ ref folder) p' (s+smsLimit)) ∨
    ∃ loaded, p.turn summary true pageCount result = .done loaded ∧
      FolderLoaded gateway w₁ ref folder reply loaded := by
  have hreach : (smsSystem sha256 random).Reachable w := hpath.reachableUnder h fun _ _ => trivial
  obtain ⟨-,hsame,-⟩ := Pager.refuse_eq_none hrefuse
  obtain ⟨reply',hr',rfl⟩ := hans.served_of_valid (Pager.refuse_eq_none hrefuse).1
  obtain ⟨hserves',hview⟩ := sameInventory_view h hpath hfit hreply hr' hvalid
    (hsame _ hfirst) hserves
  obtain ⟨hview,hshown⟩ := hview folder
  have hcol' : Collected gateway w.properties (folderView w ref folder) p s := by
    rw [hview]
    refine ⟨?_,hcol.duplicate,hcol.start⟩
    have h₁ := congrArg (List.take s) hshown
    simp only [entriesOf,← List.map_take] at h₁
    rw [hcol.messages]
    exact h₁.symm
  have hturn := hcol'.answer hreach pageCount hans (fun _ _ _ => hserves') hrefuse
  rw [hfirst,Option.getD_some,hview] at hturn
  rcases hturn with ⟨p',hturn,hfirst',hcol₁,-⟩ | ⟨messages,next,more,hturn,hall,-⟩
  · refine .inl ⟨p',hturn,hfirst',⟨?_,hcol₁.duplicate,hcol₁.start⟩⟩
    have h₁ := congrArg (List.take (s+smsLimit)) hshown
    simp only [entriesOf,← List.map_take] at h₁
    rw [hcol₁.messages]
    exact h₁
  · exact .inr ⟨_,hturn,messages,next,more,rfl,fun hm => (hall hm).trans hshown⟩

theorem Pager.turn_of_refuse {pageCount : Nat} (h : p.refuse summary true result = some turn) :
    p.turn summary true pageCount result = turn := by
  simp only [Pager.turn,h]

/-- Loading that goes on after a first page ends with the folder that the page is of, or with an
error, or before the last page. -/
theorem Loads.collects {pageCount s : Nat}
    (hl : Loads gateway sha256 random summary true pageCount folder w p turn)
    (h : (smsSystem sha256 random).Reachable w₁)
    (hpath : (smsSystem sha256 random).Path w₁ steps w)
    (hfit : ∀ run ∈ steps, PropertiesFit run.1 run.2) {bridge : Bridge}
    (hreply : listSmsReply (w₁.refresh bridge) request = .ok reply)
    (hvalid : smsIsValid (gateway.ofReply reply) summary 100 = true)
    (hserves : Serves (w₁.refresh bridge) request ref)
    (hfirst : p.first = some (gateway.ofReply reply))
    (hcol : Collected gateway w₁.properties (folderView w₁ ref folder) p s)
    (hturn : turn = .done loaded) (herror : truthy loaded.error = false) :
    FolderLoaded gateway w₁ ref folder reply loaded := by
  have hfits : ∀ {steps'' steps' : List (World × (Sms.Event × Bridge))},
      (∀ run ∈ steps'', PropertiesFit run.1 run.2) → (∀ run ∈ steps', PropertiesFit run.1 run.2) →
      ∀ run ∈ steps''++steps', PropertiesFit run.1 run.2 := by
    intro steps'' steps' h₁ h₂ run hm
    rcases List.mem_append.mp hm with hm | hm
    · exact h₁ run hm
    · exact h₂ run hm
  induction hl generalizing s steps with
  | last hpath' hfit' hans ht hend =>
    rename_i p result turn
    cases hrefuse : p.refuse summary true result with
    | some refused =>
      rw [Pager.turn_of_refuse hrefuse] at ht
      rcases Pager.refuse_error hrefuse with rfl | ⟨loaded',rfl,hne⟩
      · rw [hturn] at ht
        cases ht
      · rw [hturn] at ht
        cases ht
        exact absurd (hne.symm.trans herror) (by decide)
    | none =>
      rcases hcol.later h (hpath.append hpath') (hfits hfit hfit') hreply hvalid hserves hfirst
        pageCount hans hrefuse with ⟨p',hnext,-,-⟩ | ⟨loaded',hdone,hall⟩
      · exact absurd (ht.symm.trans hnext) (hend p')
      · rw [ht,hturn] at hdone
        cases hdone
        exact hall
  | more hpath' hfit' hans ht rest ih =>
    rename_i p p' result turn
    cases hrefuse : p.refuse summary true result with
    | some refused =>
      rw [Pager.turn_of_refuse hrefuse] at ht
      rcases Pager.refuse_error hrefuse with rfl | ⟨loaded',rfl,-⟩
      · cases ht
      · cases ht
    | none =>
      rcases hcol.later h (hpath.append hpath') (hfits hfit hfit') hreply hvalid hserves hfirst
        pageCount hans hrefuse with ⟨p'',hnext,hfirst',hcol'⟩ | ⟨loaded',hdone,-⟩
      · rw [ht] at hnext
        cases hnext
        exact ih (hpath.append hpath') (hfits hfit hfit') hfirst' hcol' hturn
      · rw [ht] at hdone
        cases hdone

/-- Loading without an error ends with a folder as it was in one state, unless there is more. -/
theorem Loads.of_start {pageCount : Nat} (h : (smsSystem sha256 random).Reachable w)
    (hl : Loads gateway sha256 random summary true pageCount folder w Pager.start (.done loaded))
    (herror : truthy loaded.error = false) :
    ∃ steps w₁ bridge ref page, (smsSystem sha256 random).Path w steps w₁ ∧
      Serves (w₁.refresh bridge) (pageRequest summary folder Pager.start) ref ∧
      smsIsValid (gateway.ofReply (smsPageReply (w₁.refresh bridge) ref
        (pageRequest summary folder Pager.start) page)) summary 100 = true ∧
      FolderLoaded gateway w₁ ref folder (smsPageReply (w₁.refresh bridge) ref
        (pageRequest summary folder Pager.start) page) loaded := by
  have hstart : ∀ (w : World) (ref : ModemRef),
      Collected gateway w.properties (folderView w ref folder) Pager.start 0 :=
    fun w ref => ⟨rfl,rfl,rfl⟩
  generalize hturn : Turn.done loaded = turn at hl
  generalize hp : Pager.start = p at hl
  cases hl with
  | @last _ w₁ steps bridge _ result _ hpath hfit hans ht hend =>
    subst hp hturn
    have hreach : (smsSystem sha256 random).Reachable w₁ :=
      hpath.reachableUnder h fun _ _ => trivial
    cases hrefuse : Pager.start.refuse summary true result with
    | some refused =>
      rw [Pager.turn_of_refuse hrefuse] at ht
      rcases Pager.refuse_error hrefuse with rfl | ⟨loaded',rfl,hne⟩
      · cases ht
      · cases ht
        exact absurd (hne.symm.trans herror) (by decide)
    | none =>
      obtain ⟨hvalid,-,-⟩ := Pager.refuse_eq_none hrefuse
      obtain ⟨reply,hr,rfl⟩ := hans.served_of_valid hvalid
      obtain ⟨ref,page,hs,-,rfl⟩ := listSmsReply_ok hr
      rcases (hstart w₁ ref).answer hreach pageCount hans (fun _ _ _ => hs) hrefuse with
        ⟨p',hnext,-⟩ | ⟨messages,next,more,hdone,hall,-⟩
      · exact absurd (ht.symm.trans hnext) (hend p')
      · rw [ht] at hdone
        cases hdone
        exact ⟨steps,w₁,bridge,ref,page,hpath,hs,hvalid,messages,next,more,rfl,hall⟩
  | @more _ w₁ steps bridge _ p' result _ hpath hfit hans ht rest =>
    subst hp
    have hreach : (smsSystem sha256 random).Reachable w₁ :=
      hpath.reachableUnder h fun _ _ => trivial
    cases hrefuse : Pager.start.refuse summary true result with
    | some refused =>
      rw [Pager.turn_of_refuse hrefuse] at ht
      rcases Pager.refuse_error hrefuse with rfl | ⟨loaded',rfl,-⟩
      · cases ht
      · cases ht
    | none =>
      obtain ⟨hvalid,-,-⟩ := Pager.refuse_eq_none hrefuse
      obtain ⟨reply,hr,rfl⟩ := hans.served_of_valid hvalid
      obtain ⟨ref,page,hs,-,rfl⟩ := listSmsReply_ok hr
      rcases (hstart w₁ ref).answer hreach pageCount hans (fun _ _ _ => hs) hrefuse with
        ⟨p'',hnext,hfirst,hcol,-⟩ | ⟨messages,next,more,hdone,-⟩
      · rw [ht] at hnext
        cases hnext
        have hloaded := rest.collects hreach (.nil w₁) (by simp) hr hvalid hs hfirst hcol hturn.symm
          herror
        exact ⟨steps,w₁,bridge,ref,page,hpath,hs,hvalid,hloaded⟩
      · rw [ht] at hdone
        cases hdone

def collectedIds (loaded : Loaded) : List CString :=
  (loaded.messages.get "messages").items.filterMap smsIdOf

theorem uniqueSmsIds_eq {messages : List JsValue}
    (hne : ∀ smsId ∈ messages.filterMap smsIdOf, smsId ≠ [])
    (hnodup : (messages.filterMap smsIdOf).Nodup) :
    uniqueSmsIds messages = messages.filterMap smsIdOf := by
  obtain ⟨step,hfold,hskip,hkeep⟩ : ∃ step : List CString → JsValue → List CString,
      (∀ messages,uniqueSmsIds messages = messages.foldl step []) ∧
      (∀ ids message,smsIdOf message = none → step ids message = ids) ∧
      (∀ ids message c cs,smsIdOf message = some (c::cs) → (c::cs) ∉ ids →
        step ids message = ids++[c::cs]) := by
    refine ⟨_,fun _ => rfl,fun ids message h => ?_,fun ids message c cs h hnew => ?_⟩
    · simp only [h]
    · simp only [h,if_neg hnew]
  have hrun : ∀ ids : List CString, (ids++messages.filterMap smsIdOf).Nodup →
      messages.foldl step ids = ids++messages.filterMap smsIdOf := by
    clear hnodup
    induction messages with
    | nil => simp
    | cons message messages ih =>
      intro ids hn
      cases hid : smsIdOf message with
      | none =>
        rw [List.filterMap_cons_none hid] at hn hne ⊢
        rw [List.foldl_cons,hskip ids message hid]
        exact ih hne ids hn
      | some smsId =>
        rw [List.filterMap_cons_some hid] at hn hne ⊢
        cases smsId with
        | nil => exact absurd rfl (hne [] List.mem_cons_self)
        | cons c cs =>
          have hnew : (c::cs) ∉ ids := fun hm =>
            (List.nodup_append.mp hn).2.2 _ hm _ List.mem_cons_self rfl
          rw [List.foldl_cons,hkeep ids message c cs hid hnew]
          rw [ih (fun smsId hm => hne smsId (List.mem_cons_of_mem _ hm)) _ (by
            rw [List.append_assoc]
            exact hn),List.append_assoc]
          rfl
  rw [hfold]
  exact hrun [] hnodup

theorem messagesForView_sublist (messages : List JsValue) (state : DeviceState) :
    (messagesForView messages state).Sublist messages := by
  simp only [messagesForView]
  split
  · exact .refl _
  · exact .refl _
  · exact List.filter_sublist

theorem FolderLoaded.messages_isObject (h : FolderLoaded gateway w ref folder reply loaded) :
    isObject loaded.messages = true := by
  obtain ⟨messages,next,more,hloaded,-⟩ := h
  rw [hloaded]
  cases gateway.ofReply reply <;> rfl

theorem FolderLoaded.items (h : FolderLoaded gateway w ref folder reply loaded)
    (hmore : (loaded.messages.get "has_more").isTrue = false) :
    (loaded.messages.get "messages").items =
      entriesOf gateway w.properties (folderView w ref folder) := by
  obtain ⟨messages,next,more,hloaded,hall⟩ := h
  have hm : more = false := by
    rw [hloaded,assign_get_some rfl] at hmore
    exact hmore
  rw [← hall hm,hloaded,assign_get_some rfl]
  rfl

theorem FolderLoaded.fields (h : FolderLoaded gateway w ref folder reply loaded) :
    ∀ name ∈ ["generation","messaging_generation","revision"],
      loaded.messages.get name = (gateway.ofReply reply).get name := by
  obtain ⟨messages,next,more,hloaded,-⟩ := h
  intro name hname
  rw [hloaded]
  simp only [List.mem_cons,List.not_mem_nil,or_false] at hname
  rcases hname with rfl | rfl | rfl
  · exact assign_get_none rfl
  · exact assign_get_none rfl
  · exact assign_get_none rfl

theorem isObject_entriesOf {properties : Nat → SmsProperties} {view : List L850GLSms}
    {message : JsValue} (hm : message ∈ entriesOf gateway properties view) :
    isObject message = true := by
  obtain ⟨entry,-,rfl⟩ := List.mem_map.mp hm
  exact isObject_entry gateway properties entry

/-- What was loaded is a folder of a record as it was in the state. -/
structure OneInventory (w : World) (ref : ModemRef) (folder : Folder)
    (loaded : Loaded) : Prop where
  live : (w.modem ref).live = true
  generation : loaded.messages.get "generation" =
    .number (signed 32 (w.modem ref).generation)
  messagingGeneration : loaded.messages.get "messaging_generation" =
    .number (w.messaging ref).messagingGeneration
  revision : loaded.messages.get "revision" = .number (w.messaging ref).smsRevision
  ids : collectedIds loaded = (folderView w ref folder).map (·.smsId)
  nodup : (collectedIds loaded).Nodup
  bound : (collectedIds loaded).length ≤ smsCacheMax

theorem folderView_perm (w : World) (ref : ModemRef) (folder : Folder) :
    (folderView w ref folder).Perm ((w.messaging ref).snapshot.filter fun entry =>
      folder == .all || folder == smsFolder (w.properties entry.sms.object)) :=
  Sorting.sortBy_perm _ _

theorem folderView_length (hi : IdsOf random (w.messaging ref,w.drawn)) (folder : Folder) :
    (folderView w ref folder).length ≤ maxSmsCache := by
  rw [(folderView_perm w ref folder).length_eq]
  refine Nat.le_trans (List.length_filter_le _ _) ?_
  rw [Messaging.snapshot,List.length_map]
  exact hi.bound

/-- A load that ends without an error, to the last page, has the messages of one folder. -/
theorem Loads.inventory {pageCount : Nat} (h : (smsSystem sha256 random).Reachable w)
    (hl : Loads gateway sha256 random summary true pageCount folder w Pager.start (.done loaded))
    (herror : truthy loaded.error = false)
    (hmore : (loaded.messages.get "has_more").isTrue = false) :
    ∃ steps w₁ ref, (smsSystem sha256 random).Path w steps w₁ ∧
      OneInventory w₁ ref folder loaded ∧
      (loaded.messages.get "messages").items =
        entriesOf gateway w₁.properties (folderView w₁ ref folder) ∧
      ∀ entry ∈ folderView w₁ ref folder, l850glSmsIdentityIsValid entry.smsId = true := by
  obtain ⟨steps,w₁,bridge,ref,page,hpath,hs,hpage,hloaded⟩ := hl.of_start h herror
  have hreach : (smsSystem sha256 random).Reachable w₁ := hpath.reachableUnder h fun _ _ => trivial
  have hi := (reachable_epochInv hreach).ids.ids ref
  have hvalid : ∀ entry ∈ folderView w₁ ref folder, l850glSmsIdentityIsValid entry.smsId = true :=
    fun entry hm => smsId_valid hi (mem_folderView hm)
  have hitems := hloaded.items hmore
  have hfields := hloaded.fields
  obtain ⟨hg,-,-⟩ := pageReply_get gateway (w₁.refresh bridge) ref
    (pageRequest summary folder Pager.start) page
  obtain ⟨he,hr⟩ := pageReply_counters hreach (smsIsValid_counters hpage).1
    (smsIsValid_counters hpage).2
  have hview : collectedIds loaded = (folderView w₁ ref folder).map (·.smsId) := by
    rw [collectedIds,hitems]
    exact filterMap_smsIdOf_entriesOf hvalid
  refine ⟨steps,w₁,ref,hpath,⟨?_,?_,?_,?_,hview,?_,?_⟩,hitems,hvalid⟩
  · exact live_refresh hs.found
  · rw [hfields _ (by simp),hg,refresh_generation hreach,reachable_generation hreach]
  · rw [hfields _ (by simp),he]
  · rw [hfields _ (by simp),hr]
  · rw [hview]
    exact smsView_ids hi _ _
  · rw [hview,List.length_map]
    exact folderView_length hi folder

/-- A folder that the bridge serves and the page can show. -/
structure Shows (gateway : Gateway) (w : World) (ref : ModemRef) (summary : JsValue)
    (folder : Folder) : Prop where
  serves : Serves w (pageRequest summary folder Pager.start) ref
  clock : (w.bridge.time : Int) ≤ maxSafeInteger
  summary : IsSummary gateway summary (w.modem ref).modemId (w.modem ref).generation
  epoch : (w.messaging ref).messagingGeneration < 2^31
  revision : (w.messaging ref).smsRevision < 2^53
  references : ∀ object, (w.properties object).messageReference ≤ Cell.uint32Max
  messages : ∀ entry ∈ folderView w ref folder, NarrowMessage (w.properties entry.sms.object)

theorem Collected.cursor_valid {properties : Nat → SmsProperties} {view : List L850GLSms} {s : Nat}
    (h : Collected gateway properties view p s)
    (hvalid : ∀ entry ∈ view, l850glSmsIdentityIsValid entry.smsId = true) :
    jsBytes p.cursor = [] ∨ l850glSmsIdentityIsValid (jsBytes p.cursor) = true := by
  by_cases hnil : jsBytes p.cursor = []
  · exact .inl hnil
  · have hstart := h.start
    rw [cursorOf,if_neg hnil,Pages.start,Option.map_eq_some_iff] at hstart
    obtain ⟨index,hindex,-⟩ := hstart
    obtain ⟨hlt,hkey,-⟩ := List.findIdx?_eq_some_iff_getElem.mp hindex
    have hid : view[index].smsId = jsBytes p.cursor := by simpa using hkey
    exact .inr (hid ▸ hvalid _ (List.getElem_mem hlt))

theorem Collected.accepted {s : Nat} {bridge : Bridge}
    (hcol : Collected gateway w.properties (folderView w ref folder) p s)
    (h : (smsSystem sha256 random).Reachable w)
    (hshows : Shows gateway (w.refresh bridge) ref summary folder)
    (hfirst : ∀ first, p.first = some first → smsIsValid first summary 100 = true ∧
      ∃ request page, first = gateway.ofReply (smsPageReply (w.refresh bridge) ref request page)) :
    ∃ page, listSmsReply (w.refresh bridge) (pageRequest summary folder p) =
        .ok (smsPageReply (w.refresh bridge) ref (pageRequest summary folder p) page) ∧
      p.refuse summary true (gateway.ofReply
        (smsPageReply (w.refresh bridge) ref (pageRequest summary folder p) page)) = none := by
  have hi := (reachable_epochInv h).ids.ids ref
  have hvalid : ∀ entry ∈ folderView w ref folder, l850glSmsIdentityIsValid entry.smsId = true :=
    fun entry hm => smsId_valid hi (mem_folderView hm)
  have hpage : Pages.page (·.smsId) (folderView w ref folder) smsLimit
      (cursorOf (jsBytes p.cursor)) =
        some (pageAt (·.smsId) (folderView w ref folder) smsLimit s) := by
    rw [Pages.page,hcol.start]
    rfl
  have hreply : listSmsReply (w.refresh bridge) (pageRequest summary folder p) =
      .ok (smsPageReply (w.refresh bridge) ref (pageRequest summary folder p) _) :=
    (listSmsReply_ok_iff hshows.serves (hcol.cursor_valid hvalid)).mpr ⟨_,hpage,rfl⟩
  have hnarrow : NarrowPage (w.refresh bridge) ref (pageRequest summary folder p) :=
    ⟨hshows.epoch,fun _ _ entry hm => hshows.messages entry
      (List.mem_of_mem_drop (List.mem_of_mem_take hm))⟩
  have hok := (smsError_eq_none (w:=w.refresh bridge) hi (reachable_epochBound h ref) hreply
    hshows.serves.found hshows.clock hshows.summary hshows.revision hshows.references).mpr hnarrow
  have hvalidPage := (truthy_smsError.mp (by rw [hok]; rfl)).2
  refine ⟨_,hreply,?_⟩
  have hsame : (p.first.any fun first => !sameInventory first (gateway.ofReply
      (smsPageReply (w.refresh bridge) ref (pageRequest summary folder p)
        (pageAt (·.smsId) (folderView w ref folder) smsLimit s)))) = false := by
    cases hp : p.first with
    | none => rfl
    | some first =>
      obtain ⟨hvalidFirst,request,page,rfl⟩ := hfirst first hp
      obtain ⟨hg,-,-⟩ := pageReply_get gateway (w.refresh bridge) ref request page
      obtain ⟨hg',-,-⟩ := pageReply_get gateway (w.refresh bridge) ref
        (pageRequest summary folder p) (pageAt (·.smsId) (folderView w ref folder) smsLimit s)
      obtain ⟨he,hr⟩ := pageReply_counters h (smsIsValid_counters hvalidFirst).1
        (smsIsValid_counters hvalidFirst).2
      obtain ⟨he',hr'⟩ := pageReply_counters h (smsIsValid_counters hvalidPage).1
        (smsIsValid_counters hvalidPage).2
      simp [sameInventory,hg,hg',he,he',hr,hr',strictEquals]
  have hlength : p.messages.length+((gateway.ofReply (smsPageReply (w.refresh bridge) ref
      (pageRequest summary folder p) (pageAt (·.smsId) (folderView w ref folder) smsLimit s))).get
        "messages").items.length ≤ smsCacheMax := by
    have hview := folderView_length hi folder
    have hmax : smsCacheMax = maxSmsCache := rfl
    have hs : s ≤ (folderView w ref folder).length := start_le hcol.start
    rw [(pageReply_page gateway (w.refresh bridge) ref (pageRequest summary folder p) _).1,
      hcol.messages,pageAt_items]
    simp only [entriesOf,List.length_map,List.length_take,List.length_drop]
    omega
  have hshort : ¬smsCacheMax < p.messages.length+((gateway.ofReply (smsPageReply
      (w.refresh bridge) ref (pageRequest summary folder p)
        (pageAt (·.smsId) (folderView w ref folder) smsLimit s))).get "messages").items.length :=
    Nat.not_lt.mpr hlength
  simp only [Pager.refuse,hok,hsame,truthy,if_neg hshort,Bool.false_and,Bool.false_eq_true,if_false]

/-- A folder that does not change is loaded to its end. -/
theorem Collected.complete {s : Nat} {bridge : Bridge}
    (hcol : Collected gateway w.properties (folderView w ref folder) p s)
    (h : (smsSystem sha256 random).Reachable w)
    (hshows : Shows gateway (w.refresh bridge) ref summary folder) (hpage : s = smsLimit*p.page)
    (hfirst : ∀ first, p.first = some first → smsIsValid first summary 100 = true ∧
      ∃ request page, first = gateway.ofReply (smsPageReply (w.refresh bridge) ref request page)) :
    ∃ loaded reply, Loads gateway sha256 random summary true maxSmsPages folder w p (.done loaded) ∧
      truthy loaded.error = false ∧ (loaded.messages.get "has_more").isTrue = false ∧
      FolderLoaded gateway w ref folder reply loaded := by
  have hi := (reachable_epochInv h).ids.ids ref
  have hview := folderView_length hi folder
  obtain ⟨n,hn⟩ : ∃ n, n = (folderView w ref folder).length-s := ⟨_,rfl⟩
  induction n using Nat.strong_induction_on generalizing p s with
  | _ n ih =>
    obtain ⟨page,hreply,hrefuse⟩ := hcol.accepted h hshows hfirst
    have hserves : Serves (w.refresh bridge) (pageRequest summary folder p) ref :=
      ⟨hshows.serves.identity,hshows.serves.found,hshows.serves.messaging,hshows.serves.ready,
        hshows.serves.limit⟩
    have hnew : ∀ first, some (p.first.getD (gateway.ofReply (smsPageReply (w.refresh bridge) ref
        (pageRequest summary folder p) page))) = some first → smsIsValid first summary 100 = true ∧
        ∃ request page, first =
          gateway.ofReply (smsPageReply (w.refresh bridge) ref request page) := by
      rintro first hf
      cases hp : p.first with
      | none =>
        rw [hp] at hf
        cases hf
        exact ⟨(Pager.refuse_eq_none hrefuse).1,_,_,rfl⟩
      | some old =>
        rw [hp] at hf
        cases hf
        exact hfirst _ hp
    have hans : Answer gateway (w.refresh bridge) (pageRequest summary folder p) _ :=
      .served hreply
    rcases hcol.answer h maxSmsPages hans (fun _ _ _ => hserves) hrefuse with
      ⟨p',hturn,hfirst',hcol',hpage',hlt⟩ | ⟨messages,next,more,hturn,hall,hlast⟩
    · obtain ⟨loaded,reply,hloads,hrest⟩ := ih _ (by simp only [smsLimit] at hlt ⊢; omega) hcol'
        (by simp only [smsLimit] at hpage ⊢; omega)
        (fun first hf => hnew first (hfirst'.symm.trans hf)) rfl
      exact ⟨loaded,reply,.more (.nil w) (by simp) hans hturn hloads,hrest⟩
    · have hmore : more = false := by
        by_contra hm
        obtain ⟨hle,hlt⟩ := hlast (by simpa using hm)
        simp only [maxSmsPages,smsLimit,maxSmsCache] at hle hlt hpage hview
        omega
      obtain ⟨hvalid,request,cut,hget⟩ := hnew _ rfl
      subst hmore
      refine ⟨_,smsPageReply (w.refresh bridge) ref request cut,
        .last (.nil w) (by simp) hans hturn (by simp),rfl,?_,messages,next,false,?_,hall⟩
      · rw [assign_get_some rfl]
        rfl
      · rw [hget]

/-- Whoever loads a folder that does not change gets all its messages. -/
theorem Loads.complete (h : (smsSystem sha256 random).Reachable w) {bridge : Bridge}
    (hshows : Shows gateway (w.refresh bridge) ref summary folder) :
    ∃ loaded, Loads gateway sha256 random summary true maxSmsPages folder w Pager.start
        (.done loaded) ∧ truthy loaded.error = false ∧
      (loaded.messages.get "has_more").isTrue = false ∧
      collectedIds loaded = (folderView w ref folder).map (·.smsId) := by
  have hi := (reachable_epochInv h).ids.ids ref
  have hstart : Collected gateway w.properties (folderView w ref folder) Pager.start 0 :=
    ⟨rfl,rfl,rfl⟩
  obtain ⟨loaded,reply,hloads,herror,hmore,hloaded⟩ := hstart.complete h hshows rfl
    (by simp [Pager.start])
  refine ⟨loaded,hloads,herror,hmore,?_⟩
  rw [collectedIds,hloaded.items hmore]
  exact filterMap_smsIdOf_entriesOf fun entry hm => smsId_valid hi (mem_folderView hm)

theorem Loads.offered_inventory {pageCount : Nat} (h : (smsSystem sha256 random).Reachable w)
    (hl : Loads gateway sha256 random summary true pageCount folder w Pager.start turn)
    {state : DeviceState} {ids : List CString} (ho : offered state turn = some ids) :
    ∃ loaded steps w₁ ref, turn = .done loaded ∧ truthy loaded.error = false ∧
      (loaded.messages.get "has_more").isTrue = false ∧
      (smsSystem sha256 random).Path w steps w₁ ∧ OneInventory w₁ ref folder loaded ∧
      (loaded.messages.get "messages").items =
        entriesOf gateway w₁.properties (folderView w₁ ref folder) ∧
      ids = (messagesForView (loaded.messages.get "messages").items state).filterMap smsIdOf := by
  cases turn with
  | next p => cases ho
  | thrown => cases ho
  | done loaded =>
    simp only [offered,deleteAllLoaded] at ho
    split at ho
    · cases ho
    rename_i herror
    have herror' : truthy loaded.error = false := by simpa using herror
    obtain ⟨_,_,_,_,_,-,-,-,hloaded⟩ := hl.of_start h herror'
    have hobject : Widgets.object loaded.messages = loaded.messages := by
      rw [Widgets.object,if_pos hloaded.messages_isObject]
    rw [hobject] at ho
    split at ho
    · cases ho
    rename_i hmore
    have hmore' : (loaded.messages.get "has_more").isTrue = false := by
      simp only [Bool.or_eq_true,not_or,Bool.not_eq_true] at hmore
      exact hmore.1.1
    obtain ⟨steps,w₁,ref,hpath,hone,hitems,hvalid⟩ := hl.inventory h herror' hmore'
    have hobjects : ∀ message ∈ (loaded.messages.get "messages").items,
        isObject message = true := by
      rw [hitems]
      exact fun message hm => isObject_entriesOf hm
    have hne : ∀ smsId ∈ collectedIds loaded, smsId ≠ [] := by
      intro smsId hm
      rw [hone.ids] at hm
      obtain ⟨entry,he,rfl⟩ := List.mem_map.mp hm
      exact smsIdentity_ne_nil (hvalid entry he)
    have hall : (loaded.messages.get "messages").items.filter isObject =
        (loaded.messages.get "messages").items := List.filter_eq_self.mpr hobjects
    rw [hall] at ho
    have hsub := (messagesForView_sublist (loaded.messages.get "messages").items
      {state with preparingDeleteAll := false}).filterMap smsIdOf
    have hunique := uniqueSmsIds_eq (fun smsId hm => hne smsId (hsub.subset hm))
      (hone.nodup.sublist hsub)
    rw [hunique] at ho
    simp only [confirmBulkDelete] at ho
    split at ho
    · cases ho
    cases ho
    exact ⟨loaded,steps,w₁,ref,rfl,herror',hmore',hpath,hone,hitems,rfl⟩

/-- What is offered for deletion has been loaded to its end. -/
theorem Loads.offered_spec {pageCount : Nat} (h : (smsSystem sha256 random).Reachable w)
    (hl : Loads gateway sha256 random summary true pageCount folder w Pager.start turn)
    {state : DeviceState} {ids : List CString} (ho : offered state turn = some ids) :
    ∃ loaded, turn = .done loaded ∧ truthy loaded.error = false ∧
      (loaded.messages.get "has_more").isTrue = false ∧ ids.Sublist (collectedIds loaded) ∧
      (state.conversationNumber = none → ids = collectedIds loaded) := by
  obtain ⟨loaded,steps,w₁,ref,hturn,herror,hmore,-,-,-,hids⟩ := hl.offered_inventory h ho
  have hsub := (messagesForView_sublist (loaded.messages.get "messages").items
    state).filterMap smsIdOf
  refine ⟨loaded,hturn,herror,hmore,hids ▸ hsub,fun hnone => ?_⟩
  rw [hids]
  simp only [messagesForView,hnone]
  rfl

/-- Paged listing is complete.  Whoever follows `next_cursor` in one state gets each message of the
folder once, in the order of the view, and comes to an end; what the strict pager collects without
an error and to the last page are the ids that the folder had in one state, whatever happens
between its requests; and only such ids are offered for deletion. -/
theorem pagedListing_complete (gateway : Gateway) (h : (smsSystem sha256 random).Reachable w) :
    (∀ bridge request ref, Serves (w.refresh bridge) request ref →
      (∃ replies, Reads (w.refresh bridge) request [] replies) ∧
      (∀ replies, Reads (w.refresh bridge) request [] replies → replies.flatMap messagesOf =
        (folderView w ref request.folder).map (addSmsEntry w.properties)) ∧
      (folderView w ref request.folder).Perm ((w.messaging ref).snapshot.filter fun entry =>
        request.folder == .all || request.folder == smsFolder (w.properties entry.sms.object)) ∧
      ((folderView w ref request.folder).map (·.smsId)).Nodup) ∧
    ∀ summary folder turn,
      Loads gateway sha256 random summary true maxSmsPages folder w Pager.start turn →
      (∀ loaded, turn = .done loaded → truthy loaded.error = false →
        (loaded.messages.get "has_more").isTrue = false →
        ∃ steps w₁ ref, (smsSystem sha256 random).Path w steps w₁ ∧
          OneInventory w₁ ref folder loaded) ∧
      ∀ state entry later ids, deleteAllOffer state entry later turn = some ids →
        ∃ loaded, turn = .done loaded ∧ truthy loaded.error = false ∧
          (loaded.messages.get "has_more").isTrue = false ∧ ids.Sublist (collectedIds loaded) ∧
          ((later {state with preparingDeleteAll := true}).conversationNumber = none →
            ids = collectedIds loaded) := by
  refine ⟨fun bridge request ref hs => ?_,fun summary folder turn hl =>
    ⟨?_,fun state entry later ids ho => ?_⟩⟩
  · have hi := (reachable_epochInv h).ids.ids ref
    obtain ⟨hex,hall⟩ := reads_all (w:=w.refresh bridge) hi hs
    exact ⟨hex,hall,folderView_perm w ref request.folder,smsView_ids hi _ _⟩
  · rintro loaded rfl herror hmore
    obtain ⟨steps,w₁,ref,hpath,hone,-,-⟩ := hl.inventory h herror hmore
    exact ⟨steps,w₁,ref,hpath,hone⟩
  · simp only [deleteAllOffer,Option.bind_eq_some_iff] at ho
    obtain ⟨started,hstart,ho⟩ := ho
    have hs : started = {state with preparingDeleteAll := true} := by
      simp only [prepareDeleteAll] at hstart
      split at hstart
      · cases hstart
      split at hstart
      · cases hstart
      · exact (Option.some.inj hstart).symm
    subst hs
    exact hl.offered_spec h ho

def sampleSummary : JsValue :=
  .object [("modem_id",.string sampleListRequest.modemId),("generation",.number 1)]

theorem sampleSummary_matches :
    IsSummary sampleGateway sampleSummary sampleListRequest.modemId 1 := by
  have hascii : sampleGateway.text sampleListRequest.modemId = sampleListRequest.modemId :=
    text_ascii (ascii_of_all (by decide))
  refine ⟨rfl,?_,rfl⟩
  rw [sampleGateway.string,hascii]
  rfl

theorem sampleReported_pages : (sampleIdSystem.run sampleStart sampleReported).map (fun w =>
    (((w.refresh (sampleBridge false)).bridge.l850glBridgeFindModem sampleListRequest.modemId,
      (w.messaging 0).messaging),
    ((w.messaging 0).smsCacheState,folderView w 0 .all == [sampleFirst,sampleSecond]))) =
    some ((some 0,some 7),(.ready,true)) := by
  decide +kernel

def sampleFolder : List (Sms.Event × Bridge) :=
  [.admitted,.reconcile 0 false (some 7),.finish 0 ⟨(List.range 101).map fun index =>
    ⟨index,some ['/',hexCharacter (index/16),hexCharacter (index%16)]⟩,none,true,none⟩].map
    fun event => (event,sampleBridge false)

theorem sampleFolder_served : (sampleIdSystem.run sampleStart sampleFolder).map (fun w =>
    (((w.refresh (sampleBridge false)).bridge.l850glBridgeFindModem sampleListRequest.modemId,
      (w.messaging 0).messaging),
    ((w.messaging 0).smsCacheState,(w.modem 0).modemId),[(w.messaging 0).snapshot.length,
      (w.modem 0).generation,(w.messaging 0).messagingGeneration,(w.messaging 0).smsRevision])) =
    some ((some 0,some 7),(.ready,sampleListRequest.modemId),[101,1,1,2]) := by
  decide +kernel

theorem sampleFolder_properties {w : World}
    (hw : sampleIdSystem.run sampleStart sampleFolder = some w) :
    w.properties = sampleStart.properties := by
  have hrun : (sampleIdSystem.run sampleStart sampleFolder).map World.properties =
      some sampleStart.properties := rfl
  rw [hw] at hrun
  exact Option.some.inj hrun

/-- The rules at a run whose two messages a reader gets one by one, and at a run whose folder the
pager loads in two pages. -/
theorem pagedListing_complete_sample :
    (∃ w replies, sampleIdSystem.run sampleStart sampleReported = some w ∧
      Reads (w.refresh (sampleBridge false)) {sampleListRequest with limit := 1} [] replies ∧
      replies.flatMap messagesOf = [sampleFirst,sampleSecond].map (addSmsEntry w.properties)) ∧
    ∃ w loaded, sampleIdSystem.run sampleStart sampleFolder = some w ∧
      Loads sampleGateway (fun _ => Vector.replicate 32 0) sampleRandom sampleSummary true
        maxSmsPages .all w Pager.start (.done loaded) ∧ (collectedIds loaded).length = smsLimit+1 ∧
      ∃ steps w₁ ref, sampleIdSystem.Path w steps w₁ ∧ OneInventory w₁ ref .all loaded := by
  constructor
  · obtain ⟨w,hw,hall⟩ := Option.map_eq_some_iff.mp sampleReported_pages
    simp only [Prod.mk.injEq,beq_iff_eq] at hall
    obtain ⟨⟨hfound,hmessaging⟩,hready,hview⟩ := hall
    have hs : Serves (w.refresh (sampleBridge false)) {sampleListRequest with limit := 1} 0 := by
      refine ⟨by decide +kernel,hfound,fun hnone => ?_,?_,by decide⟩
      · cases hmessaging.symm.trans hnone
      · exact (congrArg SmsCacheState.isReady hready).trans rfl
    obtain ⟨⟨replies,hreads⟩,hall,-⟩ := (pagedListing_complete sampleGateway
      (System.reachable_run (S:=sampleIdSystem) (.start sampleStart_initial) hw)).1 _ _ _ hs
    exact ⟨w,replies,hw,hreads,hview ▸ hall replies hreads⟩
  · obtain ⟨w,hw,hall⟩ := Option.map_eq_some_iff.mp sampleFolder_served
    simp only [Prod.mk.injEq] at hall
    obtain ⟨⟨hfound,hmessaging⟩,⟨hready,hid⟩,hnumbers⟩ := hall
    simp only [List.cons.injEq,and_true] at hnumbers
    obtain ⟨hlength,hgeneration,hepoch,hrevision⟩ := hnumbers
    have hproperties := sampleFolder_properties hw
    have h := System.reachable_run (S:=sampleIdSystem) (.start sampleStart_initial) hw
    have hrequest : pageRequest sampleSummary .all Pager.start =
        {sampleListRequest with limit := smsLimit} := by
      decide +kernel
    have hshows : Shows sampleGateway (w.refresh (sampleBridge false)) 0 sampleSummary .all := by
      have hsummary : IsSummary sampleGateway sampleSummary
          ((w.refresh (sampleBridge false)).modem 0).modemId
          ((w.refresh (sampleBridge false)).modem 0).generation := by
        rw [show ((w.refresh (sampleBridge false)).modem 0).modemId = _ from
            (refreshModem_modemId _ _).trans hid,
          show ((w.refresh (sampleBridge false)).modem 0).generation = _ from
            (refreshModem_generation _ _).trans hgeneration]
        exact sampleSummary_matches
      refine ⟨?_,(by decide : ((sampleBridge false).time : Int) ≤ maxSafeInteger),hsummary,?_,?_,
        fun object => ?_,fun entry _ => ?_⟩
      · rw [hrequest]
        refine ⟨by decide +kernel,hfound,fun hnone => ?_,?_,by decide⟩
        · cases hmessaging.symm.trans hnone
        · exact (congrArg SmsCacheState.isReady hready).trans rfl
      · exact Nat.lt_of_le_of_lt (Nat.le_of_eq hepoch) (by decide)
      · exact Nat.lt_of_le_of_lt (Nat.le_of_eq hrevision) (by decide)
      · exact (congrFun hproperties object).symm ▸ Nat.zero_le _
      · exact (congrFun hproperties entry.sms.object).symm ▸
          ⟨narrow_none _,narrow_none _,Nat.two_pow_pos 31⟩
    obtain ⟨loaded,hloads,herror,hmore,hids⟩ := Loads.complete h hshows
    have hview : (folderView w 0 .all).length = 101 := by
      rw [(folderView_perm w 0 .all).length_eq]
      simpa using hlength
    refine ⟨w,loaded,hw,hloads,?_,?_⟩
    · rw [hids,List.length_map,hview]
      rfl
    · exact ((pagedListing_complete sampleGateway h).2 sampleSummary .all _ hloads).1 loaded rfl
        herror hmore

end SmsPage
end Frontend
end L850GL
