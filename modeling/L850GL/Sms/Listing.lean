import L850GL.Lib.Pages
import L850GL.Lib.Sorting
import L850GL.SafeText
import L850GL.Sms.Operation

/-! The answer of `list_sms`: the messages of a folder, newest first, cut into pages. -/
namespace L850GL
namespace Sms

open Identity Messaging Pages SafeText Sorting World

inductive SmsDirection
  | inbound | outbound | report | unknown
  deriving DecidableEq,Repr

def SmsDirection.name : SmsDirection → String
  | .inbound => "inbound"
  | .outbound => "outbound"
  | .report => "report"
  | .unknown => "unknown"

def smsDirection (sms : SmsProperties) : SmsDirection :=
  match sms.pduType with
  | .deliver | .cdmaDeliver => .inbound
  | .submit | .cdmaSubmit | .cdmaCancellation => .outbound
  | .statusReport | .cdmaDeliveryAcknowledgement | .cdmaUserAcknowledgement
  | .cdmaReadAcknowledgement => .report
  | .unknown => .unknown

def Folder.name : Folder → String
  | .all => "all"
  | .inbox => "inbox"
  | .outbox => "outbox"
  | .draft => "draft"
  | .unknown => "unknown"

def smsFolder (sms : SmsProperties) : Folder :=
  let direction := smsDirection sms
  if direction = .report then .unknown
  else if sms.state = .stored then .draft
  else if direction = .inbound ∧ (sms.state = .receiving ∨ sms.state = .received) then .inbox
  else if direction = .outbound ∧ (sms.state = .sending ∨ sms.state = .sent) then .outbox
  else .unknown

def smsPduTypeName (type : MMSmsPduType) : String :=
  match type with
  | .deliver => "deliver"
  | .submit => "submit"
  | .statusReport => "status-report"
  | .cdmaDeliver => "cdma-deliver"
  | .cdmaSubmit => "cdma-submit"
  | .cdmaCancellation => "cdma-cancellation"
  | .cdmaDeliveryAcknowledgement => "cdma-delivery-acknowledgement"
  | .cdmaUserAcknowledgement => "cdma-user-acknowledgement"
  | .cdmaReadAcknowledgement => "cdma-read-acknowledgement"
  | .unknown => "unknown"

def smsStorageName (storage : MMSmsStorage) : String :=
  match storage with
  | .sm => "sm"
  | .me => "me"
  | .mt => "mt"
  | .sr => "sr"
  | .bm => "bm"
  | .ta => "ta"
  | .unknown => "unknown"

def smsCompare (properties : Nat → SmsProperties) (left right : L850GLSms) : Ordering :=
  (gStrcmp0 (properties right.sms.object).timestamp
    (properties left.sms.object).timestamp).then
      (gStrcmp0 (some left.smsId) (some right.smsId))

def addSmsEntry (properties : Nat → SmsProperties) (entry : L850GLSms) : Blob :=
  let sms := properties entry.sms.object
  let text := safeSmsText sms.text
  .table
    [("sms_id",.string entry.smsId),
     ("folder",.text (smsFolder sms).name),
     ("direction",.text (smsDirection sms).name),
     ("state",.text (smsStateName sms.state)),
     ("number",.string (safeText sms.number 32)),
     ("text",.string text.1),
     ("text_truncated",.u8 text.2),
     ("timestamp",.string (safeText sms.timestamp 64)),
     ("discharge_timestamp",.string (safeText sms.dischargeTimestamp 64)),
     ("pdu_type",.text (smsPduTypeName sms.pduType)),
     ("delivery_state",.u32 sms.deliveryState),
     ("message_reference",.u32 sms.messageReference),
     ("storage",.text (smsStorageName sms.storage)),
     ("has_binary_data",.u8 (0 < sms.dataLength))]

/-- The messages of a folder, as `list_sms` sorts them. -/
def smsView (properties : Nat → SmsProperties) (folder : Folder) (snapshot : List L850GLSms) :
    List L850GLSms :=
  sortBy (smsCompare properties) (snapshot.filter fun entry =>
    folder == .all || folder == smsFolder (properties entry.sms.object))

/-- The page of a view after a cursor, the empty one for the first page. -/
def smsPage (view : List L850GLSms) (limit : Nat) (cursor : CString) :
    Option (Page L850GLSms CString) :=
  page (·.smsId) view limit (if cursor = [] then none else some cursor)

def SmsCacheState.name : SmsCacheState → String
  | .absent => "absent"
  | .loading => "loading"
  | .ready => "ready"
  | .readyTruncated => "ready-truncated"
  | .unavailable => "unavailable"
  | .cancelled => "cancelled"

/-- The reply to a request that found its page. -/
def smsPageReply (w : World) (ref : ModemRef) (request : ListSmsRequest)
    (page : Page L850GLSms CString) : Reply :=
  let m := w.messaging ref
  addCommon w.bridge.time true++(w.modem ref).addModemIdentity++
    [("messaging_generation",.u32 m.messagingGeneration),
     ("revision",.u64 m.smsRevision),
     ("cache_state",.text m.smsCacheState.name),
     ("cache_truncated",.u8 m.smsCacheTruncated),
     ("dedupe_capacity",.u32 l850glSmsDedupeMax),
     ("dedupe_window_seconds",.u32 l850glSmsDedupeSeconds),
     ("folder",.text request.folder.name),
     ("limit",.u32 request.limit),
     ("messages",.array (page.items.map (addSmsEntry w.properties))),
     ("has_more",.u8 page.hasMore),
     ("next_cursor",.string (page.next.getD []))]

def listSmsErrorMessage (request : ListSmsRequest) (code : String) : String :=
  match code with
  | "invalid_argument" =>
    if !l850glIdentityIsValid request.modemId then "modem_id is invalid"
    else if request.limit < 1 ∨ smsMaxLimit < request.limit then
      "limit must be between 1 and 100"
    else "cursor is invalid"
  | "stale_identity" => "modem identity is no longer live"
  | "dependency_unavailable" => "ModemManager is not available"
  | "unsupported" => "Messaging is not available on this modem"
  | "not_ready" => "SMS inventory is still loading"
  | _ => "cursor is no longer present in this SMS view"

/-- The success or error reply of `method_list_sms`.  The snapshot comes in the order of a hash
table. -/
def listSmsReply (w : World) (request : ListSmsRequest) : Except Reply Reply :=
  match (methodListSms w (some request)).2 with
  | .refused code retryable =>
    .error (sendError w.bridge code (listSmsErrorMessage request code) retryable)
  | .served ref snapshot =>
    match smsPage (smsView w.properties request.folder snapshot) request.limit request.cursor with
    | none =>
      .error (sendError w.bridge "stale_cursor" (listSmsErrorMessage request "stale_cursor") false)
    | some page => .ok (smsPageReply w ref request page)

variable {properties : Nat → SmsProperties} {folder : Folder} {snapshot : List L850GLSms}

theorem gStrcmp0_eq (left right : Option CString) :
    gStrcmp0 left right =
      compare (left.map fun text => text.map Char.toNat)
        (right.map fun text => text.map Char.toNat) := by
  cases left <;> cases right <;> rfl

instance : Std.TransCmp gStrcmp0 := by
  have h₁ : gStrcmp0 = compareOn fun text : Option CString =>
      text.map fun text => text.map Char.toNat := by
    funext left right
    exact gStrcmp0_eq left right
  rw [h₁]
  infer_instance

theorem gStrcmp0_eq_eq {left right : Option CString} :
    gStrcmp0 left right = .eq ↔ left = right := by
  rw [gStrcmp0_eq,Std.compare_eq_iff_eq]
  refine (Option.map_injective (List.map_injective_iff.mpr fun a b h => ?_)).eq_iff
  exact Char.ext (UInt32.toNat_inj.mp h)

instance (properties : Nat → SmsProperties) : Std.TransCmp (smsCompare properties) := by
  have htime := transCmp_on gStrcmp0 fun entry : L850GLSms =>
    (properties entry.sms.object).timestamp
  have hid := transCmp_on gStrcmp0 fun entry : L850GLSms => some entry.smsId
  have hnewest := @Std.TransCmp.opposite _ _ htime
  exact inferInstanceAs (Std.TransCmp (compareLex _ _))

/-- Two messages of one place in the order have one id. -/
theorem smsCompare_eq_eq {left right : L850GLSms}
    (h : smsCompare properties left right = .eq) : left.smsId = right.smsId := by
  have hid := (Ordering.then_eq_eq.mp h).2
  exact Option.some.inj (gStrcmp0_eq_eq.mp hid)

end Sms
end L850GL
