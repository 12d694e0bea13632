import L850GL.Frontend.StatusReplies
import L850GL.Sms.InboundText
import L850GL.Sms.Paging

/-! The pages of `list_sms` under the check of the page: what remains to be asked is that the two
times of each message are narrow, and that the numbers fit in 31 bits. -/
namespace L850GL
namespace Frontend

open Gateway JsValue Widgets Cell Identity Pages SafeText Sms

variable {gateway : Gateway} {w : World} {ref : ModemRef} {properties : Nat → SmsProperties}
  {entry : L850GLSms} {request : ListSmsRequest} {page : Page L850GLSms CString}
  {summary : JsValue} {reply : Reply}

/-- The times of a message that a reply shows, and its reference. -/
structure NarrowMessage (sms : SmsProperties) : Prop where
  timestamp : Narrow sms.timestamp 64
  dischargeTimestamp : Narrow sms.dischargeTimestamp 64
  reference : sms.messageReference < 2^31

theorem folderName_shown (folder : Folder) : IsShown folder.name 32 := by
  cases folder <;> decide

theorem directionName_shown (direction : SmsDirection) : IsShown direction.name 32 := by
  cases direction <;> decide

theorem smsStateName_shown (state : MMSmsState) : IsShown (smsStateName state) 32 := by
  cases state <;> decide

theorem smsPduTypeName_shown (type : MMSmsPduType) : IsShown (smsPduTypeName type) 64 := by
  cases type <;> decide

theorem smsStorageName_shown (storage : MMSmsStorage) : IsShown (smsStorageName storage) 32 := by
  cases storage <;> decide

theorem cacheStateName_shown (state : SmsCacheState) : IsShown state.name 64 := by
  cases state <;> decide

/-- A message text is short enough for the page in any characters. -/
theorem isString_smsText (text : Option CString) :
    isString (gateway.render (.string (safeSmsText text).1)) 16384 = true := by
  obtain ⟨shown,hdecode,hlength,hall⟩ := safeSmsText_spec text
  have hunits := utf16Length_le shown
  have hmax : smsInboundCharsMax = 4096 := rfl
  rw [isString_characters hdecode hall]
  omega

/-- The page accepts a message exactly when it is narrow. -/
theorem addSmsEntry_valid (hid : l850glSmsIdentityIsValid entry.smsId = true)
    (hreference : (properties entry.sms.object).messageReference ≤ uint32Max) :
    smsMessageIsValid (gateway.render (addSmsEntry properties entry)) = true ↔
      NarrowMessage (properties entry.sms.object) := by
  obtain ⟨sms,hsms⟩ : ∃ sms,sms = properties entry.sms.object := ⟨_,rfl⟩
  have htimestamp := isString_safeText_iff gateway sms.timestamp 64
  have hdischarge := isString_safeText_iff gateway sms.dischargeTimestamp 64
  have hobject : isObject (gateway.render (addSmsEntry properties entry)) = true := by
    rw [addSmsEntry,render_table]
    rfl
  have hstate : deliveryStateIsValid (gateway.render (.u32 sms.deliveryState)) = true := by
    rw [render_u32]
    rfl
  rw [← hsms] at hreference ⊢
  rw [smsMessageIsValid,hobject,addSmsEntry,render_table,← hsms,
    @renderReply_get_some _ _ "sms_id" (.string entry.smsId) rfl,isString_smsIdentity hid,
    @renderReply_get_some _ _ "direction" (.text (smsDirection sms).name) rfl,
    isString_shown (directionName_shown _),
    @renderReply_get_some _ _ "state" (.text (smsStateName sms.state)) rfl,
    isString_shown (smsStateName_shown _),
    @renderReply_get_some _ _ "folder" (.text (smsFolder sms).name) rfl,
    isString_shown (folderName_shown _),
    @renderReply_get_some _ _ "number" (.string (safeText sms.number 32)) rfl,
    isString_safeText_double _ (by decide),
    @renderReply_get_some _ _ "text" (.string (safeSmsText sms.text).1) rfl,isString_smsText,
    @renderReply_get_some _ _ "timestamp" (.string (safeText sms.timestamp 64)) rfl,
    @renderReply_get_some _ _ "discharge_timestamp"
      (.string (safeText sms.dischargeTimestamp 64)) rfl,
    @renderReply_get_some _ _ "storage" (.text (smsStorageName sms.storage)) rfl,
    isString_shown (smsStorageName_shown _),
    @renderReply_get_some _ _ "pdu_type" (.text (smsPduTypeName sms.pduType)) rfl,
    isString_shown (smsPduTypeName_shown _),
    @renderReply_get_some _ _ "text_truncated" (.u8 (safeSmsText sms.text).2) rfl,
    @renderReply_get_some _ _ "has_binary_data" (.u8 (0 < sms.dataLength)) rfl,
    @renderReply_get_some _ _ "message_reference" (.u32 sms.messageReference) rfl,
    @renderReply_get_some _ _ "delivery_state" (.u32 sms.deliveryState) rfl,hstate]
  have hboolean : ∀ value,(gateway.render (.u8 value)).isBoolean = true := by
    intro value
    rw [render_u8]
    rfl
  have hnumber : (gateway.render (.u32 sms.messageReference)).isNullish = false := by
    rw [render_u32]
    rfl
  simp only [hboolean,hnumber,Bool.true_and,Bool.and_true,Bool.false_or,Bool.and_eq_true,
    htimestamp,hdischarge,isUnsigned_render_iff hreference]
  exact ⟨fun h => ⟨h.1.1,h.1.2,h.2⟩,fun h => ⟨⟨h.timestamp,h.dischargeTimestamp⟩,h.reference⟩⟩

/-- The number of the epoch fits, and the messages that a request asks for are narrow: those after
its cursor in the folder, up to its limit. -/
structure NarrowPage (w : World) (ref : ModemRef) (request : ListSmsRequest) : Prop where
  epoch : (w.messaging ref).messagingGeneration < 2^31
  messages : ∀ position,start (·.smsId) (folderView w ref request.folder)
      (cursorOf request.cursor) = some position →
    ∀ entry ∈ ((folderView w ref request.folder).drop position).take request.limit,
      NarrowMessage (w.properties entry.sms.object)

theorem narrowPage_iff (hpage : smsPage (folderView w ref request.folder) request.limit
    request.cursor = some page) : NarrowPage w ref request ↔
      (w.messaging ref).messagingGeneration < 2^31 ∧
        ∀ entry ∈ page.items,NarrowMessage (w.properties entry.sms.object) := by
  obtain ⟨position,hposition,rfl⟩ := Option.map_eq_some_iff.mp hpage
  rw [pageAt_items]
  constructor
  · exact fun h => ⟨h.epoch,h.messages position hposition⟩
  · rintro ⟨hepoch,hmessages⟩
    refine ⟨hepoch,fun other hother => ?_⟩
    obtain rfl := Option.some.inj (hposition.symm.trans hother)
    exact hmessages

/-- The page accepts a list of messages exactly when the page of the folder is narrow. -/
theorem smsError_eq_none {random : Nat → Option (Vector UInt8 16)}
    (hids : IdsOf random (w.messaging ref,w.drawn))
    (hepoch : (w.messaging ref).messagingGeneration ≤ uint32Max)
    (hreply : listSmsReply w request = .ok reply)
    (hfound : w.bridge.l850glBridgeFindModem request.modemId = some ref)
    (hclock : (w.bridge.time : Int) ≤ maxSafeInteger)
    (hsummary : IsSummary gateway summary (w.modem ref).modemId (w.modem ref).generation)
    (hrevision : (w.messaging ref).smsRevision < 2^53)
    (hreference : ∀ object,(w.properties object).messageReference ≤ uint32Max) :
    smsError (gateway.ofReply reply) summary 100 = none ↔ NarrowPage w ref request := by
  obtain ⟨other,page,hserves,hcut,rfl⟩ := listSmsReply_ok hreply
  have hpage : smsPage (folderView w other request.folder) request.limit request.cursor =
      some page := hcut
  obtain rfl : other = ref := Option.some.inj (hserves.found.symm.trans hfound)
  obtain ⟨hlength,hmem⟩ := page_items hpage
  obtain ⟨hlower,hupper⟩ := hserves.limit
  have hmax : maxSafeInteger = 9007199254740991 := rfl
  have hlimits : smsMaxLimit = 100 := rfl
  have hbound : uint32Max = 4294967295 := rfl
  rw [ofReply_eq (smsPageReply_distinct w other request page)]
  obtain ⟨result,hresult⟩ : ∃ result,result = gateway.renderReply (smsPageReply w other request
    page) := ⟨_,rfl⟩
  obtain ⟨herror,hidentity⟩ := successReply_identity hclock (by rfl) hsummary hresult
  have hunsigned : ∀ n,n ≤ 600 → isUnsigned (gateway.render (.u32 n)) = true :=
    fun n hn => (isUnsigned_render_iff (by omega)).mpr (by omega)
  have hgeneration : isUnsigned (result.get "messaging_generation") = true ↔
      (w.messaging other).messagingGeneration < 2^31 := by
    rw [hresult,@renderReply_get_some _ _ "messaging_generation" (.u32 _) rfl]
    exact isUnsigned_render_iff hepoch
  have hrevisions : isUnsigned (result.get "revision") = true := by
    rw [hresult,@renderReply_get_some _ _ "revision" (.u64 (w.messaging other).smsRevision) rfl,
      render_u64_of_le (by omega)]
    exact isUnsigned_le (by omega)
  have hstate : isString (result.get "cache_state") 64 = true := by
    rw [hresult,@renderReply_get_some _ _ "cache_state" (.text _) rfl]
    exact isString_shown (cacheStateName_shown _)
  have hboolean : ∀ value,(gateway.render (.u8 value)).isBoolean = true := by
    intro value
    rw [render_u8]
    rfl
  have htruncated : (result.get "cache_truncated").isBoolean = true := by
    rw [hresult,@renderReply_get_some _ _ "cache_truncated" (.u8 _) rfl]
    exact hboolean _
  have hcapacity : isUnsigned (result.get "dedupe_capacity") = true := by
    rw [hresult,@renderReply_get_some _ _ "dedupe_capacity" (.u32 l850glSmsDedupeMax) rfl]
    exact hunsigned _ (by decide)
  have hwindow : isUnsigned (result.get "dedupe_window_seconds") = true := by
    rw [hresult,@renderReply_get_some _ _ "dedupe_window_seconds" (.u32 l850glSmsDedupeSeconds) rfl]
    exact hunsigned _ (by decide)
  have hfolder : smsFolders.any (fun folder => (result.get "folder").isText folder) = true := by
    rw [hresult,@renderReply_get_some _ _ "folder" (.text request.folder.name) rfl,
      render_text (folderName_shown request.folder).1]
    cases request.folder <;> decide
  have hlimit : isUnsigned (result.get "limit") = true ∧ (result.get "limit").isSafeIntegerWith
      (fun limit => 1 ≤ limit && limit ≤ 100) = true := by
    rw [hresult,@renderReply_get_some _ _ "limit" (.u32 request.limit) rfl]
    refine ⟨hunsigned _ (by omega),?_⟩
    rw [render_u32_of_lt (by omega)]
    refine isSafeInteger_le (hlimits ▸ hupper) (by decide) ?_
    simp only [Bool.and_eq_true,decide_eq_true_eq]
    omega
  have hmessages : result.get "messages" = .array (page.items.map fun entry =>
      gateway.render (addSmsEntry w.properties entry)) := by
    rw [hresult,@renderReply_get_some _ _ "messages" (.array (page.items.map
      (addSmsEntry w.properties))) rfl,render_array,List.map_map]
    rfl
  have hentries : (page.items.map fun entry => gateway.render (addSmsEntry w.properties entry)).all
      smsMessageIsValid = true ↔
        ∀ entry ∈ page.items,NarrowMessage (w.properties entry.sms.object) := by
    rw [List.all_map,List.all_eq_true]
    have hentry : ∀ entry ∈ page.items,
        smsMessageIsValid (gateway.render (addSmsEntry w.properties entry)) = true ↔
          NarrowMessage (w.properties entry.sms.object) := fun entry hentry =>
      addSmsEntry_valid (smsId_valid hids (mem_folderView (hmem entry hentry))) (hreference _)
    exact ⟨fun hall entry hm => (hentry entry hm).mp (hall entry hm),
      fun hall entry hm => (hentry entry hm).mpr (hall entry hm)⟩
  have hmore : result.get "has_more" = .boolean page.hasMore := by
    rw [hresult,@renderReply_get_some _ _ "has_more" (.u8 page.hasMore) rfl,render_u8]
  have hcursor : isString (result.get "next_cursor") 80 = true ∧
      (!((result.get "has_more").isTrue && (result.get "next_cursor").isText [])) = true := by
    rw [hmore,hresult,@renderReply_get_some _ _ "next_cursor" (.string (page.next.getD [])) rfl]
    cases hhasMore : page.hasMore with
    | true =>
      have hvalid := (page_next_valid hids hserves hhasMore hpage).1
      refine ⟨isString_smsIdentity hvalid,?_⟩
      have hne := smsIdentity_ne_nil hvalid
      have hascii := tokenIsValid_ascii hvalid (ascii_of_all (by decide))
      rw [render_string,text_ascii hascii]
      simpa [JsValue.isTrue,isText] using hne
    | false =>
      have hlast := page_last_next hpage hhasMore
      rw [hlast]
      exact ⟨isString_shown (by decide : IsShown "" 80),rfl⟩
  have hitems : (page.items.map fun entry =>
      gateway.render (addSmsEntry w.properties entry)).length ≤ 100 := by
    rw [List.length_map]
    omega
  rw [← hresult,smsError,pageError_eq_none herror,smsIsValid,hidentity,hrevisions,hstate,
    htruncated,hcapacity,hwindow,hfolder,hlimit.1,hlimit.2,hcursor.1,hcursor.2,hmore,hmessages]
  simp only [JsValue.isArray,JsValue.items,JsValue.isBoolean,Bool.true_and,Bool.and_true,
    Bool.and_eq_true,hgeneration]
  rw [narrowPage_iff hpage,hentries]
  exact ⟨fun h => ⟨h.1.1,h.2⟩,fun h => ⟨⟨h.1,decide_eq_true hitems⟩,h.2⟩⟩

end Frontend
end L850GL
