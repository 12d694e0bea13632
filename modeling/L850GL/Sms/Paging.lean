import L850GL.Sms.Revision

/-! A reader of `list_sms` who follows `next_cursor` gets the whole folder. -/
namespace L850GL
namespace Sms

open Identity Messaging Pages Sorting World

variable {w : World} {ref : ModemRef} {random : Nat → Option (Vector UInt8 16)}
  {request : ListSmsRequest} {reply : Reply} {replies : List Reply} {cursor : CString}
  {s : Messaging × Nat} {page : Page L850GLSms CString}
  {pages : List (Page L850GLSms CString)} {properties : Nat → SmsProperties} {folder : Folder}

/-- The view of a record's folder. -/
def folderView (w : World) (ref : ModemRef) (folder : Folder) : List L850GLSms :=
  smsView w.properties folder (w.messaging ref).snapshot

theorem smsId_valid (h : IdsOf random s) {entry : L850GLSms} (hm : entry ∈ s.1.snapshot) :
    l850glSmsIdentityIsValid entry.smsId = true := by
  obtain ⟨pair,hp,rfl⟩ := List.mem_map.mp hm
  obtain ⟨index,-,-,hg⟩ := h.generated pair.2.smsId (.inl (List.mem_map.mpr ⟨pair,hp,rfl⟩))
  exact tokenIsValid_generate hg

theorem smsView_ids (h : IdsOf random s) (properties : Nat → SmsProperties) (folder : Folder) :
    ((smsView properties folder s.1.snapshot).map (·.smsId)).Nodup := by
  have hnodup : (s.1.snapshot.map (·.smsId)).Nodup := by
    rw [Messaging.snapshot,List.map_map]
    exact h.ids
  have hsub : ((s.1.snapshot.filter fun entry => folder == .all ||
      folder == smsFolder (properties entry.sms.object)).map (·.smsId)).Nodup :=
    hnodup.sublist (List.filter_sublist.map _)
  exact ((sortBy_perm _ _).map _).nodup_iff.mpr hsub

theorem smsIdentity_ne_nil {smsId : CString} (h : l850glSmsIdentityIsValid smsId = true) :
    smsId ≠ [] := by
  rintro rfl
  revert h
  decide

/-- What a state that serves a request answers to a cursor. -/
theorem listSmsReply_serves (h : Serves w request ref)
    (hc : cursor = [] ∨ l850glSmsIdentityIsValid cursor = true) :
    listSmsReply w {request with cursor := cursor} =
      match smsPage (folderView w ref request.folder) request.limit cursor with
      | none => .error (sendError w.bridge "stale_cursor"
          (listSmsErrorMessage {request with cursor := cursor} "stale_cursor") false)
      | some page => .ok (smsPageReply w ref {request with cursor := cursor} page) := by
  have hserved : (methodListSms w (some {request with cursor := cursor})).2 =
      .served ref (w.messaging ref).snapshot := by
    have hlimit : ¬(request.limit < 1 ∨ smsMaxLimit < request.limit) := by
      have := h.limit
      omega
    have hcursor : ¬(cursor ≠ [] ∧ (!l850glSmsIdentityIsValid cursor) = true) := by
      rintro ⟨hne,hv⟩
      rcases hc with hc | hc
      · exact hne hc
      · rw [hc] at hv
        cases hv
    have hsome : (w.messaging ref).messaging.isNone = false := by
      cases hm : (w.messaging ref).messaging with
      | none => exact absurd hm h.messaging
      | some object => rfl
    simp only [methodListSms,h.identity,Bool.not_true,Bool.false_eq_true,if_false,if_neg hlimit,
      if_neg hcursor,h.found,hsome,h.ready]
    rfl
  simp only [listSmsReply,hserved]
  rfl

/-- The replies that a reader gets who asks with a cursor and then with each reply's
`next_cursor`, as long as there is more. -/
inductive Reads (w : World) (request : ListSmsRequest) : CString → List Reply → Prop
  | last {cursor : CString} {reply : Reply}
      (h : listSmsReply w {request with cursor := cursor} = .ok reply)
      (hmore : reply.lookup "has_more" = some (.u8 false)) : Reads w request cursor [reply]
  | more {cursor next : CString} {reply : Reply} {replies : List Reply}
      (h : listSmsReply w {request with cursor := cursor} = .ok reply)
      (hmore : reply.lookup "has_more" = some (.u8 true))
      (hnext : reply.lookup "next_cursor" = some (.string next))
      (rest : Reads w request next replies) : Reads w request cursor (reply::replies)

/-- The messages of a reply. -/
def messagesOf (reply : Reply) : List Blob :=
  match reply.lookup "messages" with
  | some (.array items) => items
  | _ => []

/-- The empty cursor stands for none. -/
def cursorOf (cursor : CString) : Option CString := if cursor = [] then none else some cursor

theorem messagesOf_page (w : World) (ref : ModemRef) (request : ListSmsRequest)
    (page : Page L850GLSms CString) :
    messagesOf (smsPageReply w ref request page) = page.items.map (addSmsEntry w.properties) := rfl

theorem smsPageReply_hasMore (w : World) (ref : ModemRef) (request : ListSmsRequest)
    (page : Page L850GLSms CString) :
    (smsPageReply w ref request page).lookup "has_more" = some (.u8 page.hasMore) := rfl

theorem smsPageReply_nextCursor (w : World) (ref : ModemRef) (request : ListSmsRequest)
    (page : Page L850GLSms CString) :
    (smsPageReply w ref request page).lookup "next_cursor" =
      some (.string (page.next.getD [])) := rfl

/-- The cursor of a page that has more is the id of a cached message. -/
theorem page_next {view : List L850GLSms} {limit : Nat} {cursor : Option CString}
    (h : page.hasMore = true) (hlimit : 0 < limit)
    (hp : Pages.page (·.smsId) view limit cursor = some page) :
    ∃ entry ∈ view, page.next = some entry.smsId := by
  obtain ⟨start,-,rfl⟩ := Option.map_eq_some_iff.mp hp
  simp only [pageAt,decide_eq_true_eq] at h ⊢
  have hlt : min view.length (start+limit)-1 < view.length := by omega
  refine ⟨view[min view.length (start+limit)-1],List.getElem_mem hlt,?_⟩
  rw [if_pos ⟨h,by omega⟩,List.getElem?_eq_getElem hlt]
  rfl

theorem listSmsReply_ok_iff (h : Serves w request ref)
    (hc : cursor = [] ∨ l850glSmsIdentityIsValid cursor = true) :
    listSmsReply w {request with cursor := cursor} = .ok reply ↔
      ∃ page, Pages.page (·.smsId) (folderView w ref request.folder) request.limit
          (cursorOf cursor) = some page ∧
        reply = smsPageReply w ref {request with cursor := cursor} page := by
  have hpage : smsPage (folderView w ref request.folder) request.limit cursor =
      Pages.page (·.smsId) (folderView w ref request.folder) request.limit (cursorOf cursor) := rfl
  rw [listSmsReply_serves h hc,hpage]
  cases hp : Pages.page (·.smsId) (folderView w ref request.folder) request.limit
      (cursorOf cursor) with
  | none => simp
  | some page => simp [eq_comm]

theorem mem_folderView {entry : L850GLSms} (hm : entry ∈ folderView w ref folder) :
    entry ∈ (w.messaging ref).snapshot := mem_smsView hm

theorem page_next_valid (hi : IdsOf random (w.messaging ref,w.drawn)) (h : Serves w request ref)
    {cursor : Option CString} (hmore : page.hasMore = true)
    (hp : Pages.page (·.smsId) (folderView w ref request.folder) request.limit cursor =
      some page) :
    l850glSmsIdentityIsValid (page.next.getD []) = true ∧
      cursorOf (page.next.getD []) = page.next := by
  obtain ⟨entry,hm,hnext⟩ := page_next hmore h.limit.1 hp
  have hvalid := smsId_valid hi (mem_folderView hm)
  rw [hnext]
  exact ⟨hvalid,by simp [cursorOf,smsIdentity_ne_nil hvalid]⟩

theorem reads_of_follows (hi : IdsOf random (w.messaging ref,w.drawn)) (h : Serves w request ref)
    {start : Option CString}
    (hf : Follows (·.smsId) (folderView w ref request.folder) request.limit start pages)
    (hstart : cursorOf cursor = start)
    (hc : cursor = [] ∨ l850glSmsIdentityIsValid cursor = true) :
    ∃ replies, Reads w request cursor replies := by
  induction hf generalizing cursor with
  | last hp hmore =>
    have hr := (listSmsReply_ok_iff h hc).mpr ⟨_,hstart ▸ hp,rfl⟩
    exact ⟨_,.last hr (by rw [smsPageReply_hasMore,hmore])⟩
  | more hp hmore rest ih =>
    have hr := (listSmsReply_ok_iff h hc).mpr ⟨_,hstart ▸ hp,rfl⟩
    obtain ⟨hvalid,hnext⟩ := page_next_valid hi h hmore hp
    obtain ⟨replies,hreads⟩ := ih hnext (.inr hvalid)
    exact ⟨_,.more hr (by rw [smsPageReply_hasMore,hmore]) (smsPageReply_nextCursor _ _ _ _) hreads⟩

theorem Reads.follows (hi : IdsOf random (w.messaging ref,w.drawn)) (h : Serves w request ref)
    (hr : Reads w request cursor replies)
    (hc : cursor = [] ∨ l850glSmsIdentityIsValid cursor = true) :
    ∃ pages, Follows (·.smsId) (folderView w ref request.folder) request.limit (cursorOf cursor)
        pages ∧
      replies.flatMap messagesOf =
        (pages.flatMap Page.items).map (addSmsEntry w.properties) := by
  induction hr with
  | last hr hmore =>
    obtain ⟨page,hp,rfl⟩ := (listSmsReply_ok_iff h hc).mp hr
    rw [smsPageReply_hasMore,Option.some.injEq,Blob.u8.injEq] at hmore
    exact ⟨_,.last hp hmore,by simp [messagesOf_page]⟩
  | more hr hmore hnext rest ih =>
    obtain ⟨page,hp,rfl⟩ := (listSmsReply_ok_iff h hc).mp hr
    rw [smsPageReply_hasMore,Option.some.injEq,Blob.u8.injEq] at hmore
    rw [smsPageReply_nextCursor,Option.some.injEq,Blob.string.injEq] at hnext
    subst hnext
    obtain ⟨hvalid,hcursor⟩ := page_next_valid hi h hmore hp
    obtain ⟨pages,hf,hitems⟩ := ih (.inr hvalid)
    rw [hcursor] at hf
    refine ⟨page::pages,.more hp hmore hf,?_⟩
    rw [List.flatMap_cons,List.flatMap_cons,List.map_append,hitems,messagesOf_page]

/-- Whoever follows the cursors comes to the end, and has got every message of the folder once, in
the order of the view. -/
theorem reads_all (hi : IdsOf random (w.messaging ref,w.drawn)) (h : Serves w request ref) :
    (∃ replies, Reads w request [] replies) ∧
    ∀ replies, Reads w request [] replies → replies.flatMap messagesOf =
      (folderView w ref request.folder).map (addSmsEntry w.properties) := by
  have hids : ((folderView w ref request.folder).map (·.smsId)).Nodup :=
    smsView_ids hi w.properties request.folder
  refine ⟨?_,fun replies hr => ?_⟩
  · have hstart : start (·.smsId) (folderView w ref request.folder) none = some 0 := rfl
    obtain ⟨pages,hf,-⟩ := exists_follows hids h.limit.1 hstart
    exact reads_of_follows hi h hf rfl (.inl rfl)
  · obtain ⟨pages,hf,hitems⟩ := hr.follows hi h (.inl rfl)
    rw [hitems,follows_all hids h.limit.1 hf]

end Sms
end L850GL
