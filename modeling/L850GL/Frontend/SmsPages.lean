import L850GL.Frontend.SmsState

/-! How the SMS page loads the pages of a folder, and what it offers to delete. -/
namespace L850GL
namespace Frontend
namespace SmsPage

open JsValue Sms Widgets

def smsLimit : Nat := 100
def smsCacheMax : Nat := 1024

/-- `Math.ceil (SMS_CACHE_MAX / SMS_LIMIT)`. -/
def maxSmsPages : Nat := 11

def transportResult (message : CString) : JsValue :=
  .object [("transport_error",.string message)]

/-- The variables of `loadSmsPages`; `seen` is what has been collected. -/
structure Pager where
  page : Nat
  cursor : CString
  first : Option JsValue
  duplicate : Bool
  messages : List JsValue

def Pager.start : Pager := ⟨0,[],none,false,[]⟩

def Pager.seen (p : Pager) : List CString := p.messages.filterMap smsIdOf

/-- What loading comes to; `reset` tells that older pages were given up. -/
structure Loaded where
  messages : JsValue
  error : Option CString
  reset : Bool

inductive Turn
  | next (p : Pager)
  | done (loaded : Loaded)
  | thrown

def Pager.collect (p : Pager) (message : JsValue) : Pager :=
  match smsIdOf message with
  | none => p
  | some smsId =>
    if smsId ∈ p.seen then {p with duplicate := true}
    else {p with messages := p.messages++[message]}

def sameInventory (first result : JsValue) : Bool :=
  ["generation","messaging_generation","revision"].all fun name =>
    strictEquals (result.get name) (first.get name)

/-- A result that is no page of the inventory read so far. -/
def Pager.refuse (summary : JsValue) (strictPaging : Bool) (p : Pager) (result : JsValue) :
    Option Turn :=
  let error := smsError result summary 100
  if truthy error && 0 < p.page && result.isNullish then some .thrown
  else if truthy error && 0 < p.page &&
      ((object (result.get "error")).get "code").isText "stale_cursor".toList then
    if strictPaging then
      some (.done ⟨result,some ("The SMS inventory changed while preparing the complete folder. "++
        "Refresh and try again.").toList,false⟩)
    else
      let first := p.first.getD .undefined
      some (.done ⟨first.assign [("messages",.array p.messages),
        ("next_cursor",first.get "next_cursor"),("has_more",first.get "has_more")],none,true⟩)
  else if truthy error then some (.done ⟨result,error,false⟩)
  else if p.first.any fun first => !sameInventory first result then
    some (.done ⟨result,some ("The SMS inventory changed while loading pages. "++
      "Refresh and try again.").toList,false⟩)
  else if smsCacheMax < p.messages.length+(result.get "messages").items.length then
    some (.done ⟨result,some ("The paginated SMS response exceeded the 1,024-message "++
      "safety bound.").toList,false⟩)
  else none

def Pager.take (p : Pager) (result : JsValue) : Pager :=
  (result.get "messages").items.foldl Pager.collect {p with first := some (p.first.getD result)}

/-- The function `next` of `loadSmsPages`, from the result of its request on. -/
def Pager.turn (summary : JsValue) (strictPaging : Bool) (pageCount : Nat) (p : Pager)
    (result : JsValue) : Turn :=
  match p.refuse summary strictPaging result with
  | some turn => turn
  | none =>
    let p := p.take result
    if strictPaging && p.duplicate then
      .done ⟨result,some ("The complete SMS inventory contained a duplicate message "++
        "identity.").toList,false⟩
    else
      let p := {p with page := p.page+1,cursor := textOf (result.get "next_cursor")}
      if p.page < pageCount && (result.get "has_more").isTrue then .next p
      else
        .done ⟨(p.first.getD .undefined).assign [("messages",.array p.messages),
          ("next_cursor",.string p.cursor),("has_more",result.get "has_more")],none,false⟩

/-- What `prepareDeleteAll` does before it loads the folder; nothing when it does not. -/
def prepareDeleteAll (state : DeviceState) (entry : Entry) : Option DeviceState :=
  let messages := object entry.messages
  if isMutationBusy state then none
  else if (messages.get "cache_truncated").isTrue ||
      (messages.get "cache_state").isText "ready-truncated".toList then none
  else some {state with preparingDeleteAll := true}

def confirmBulkDelete (state : DeviceState) (smsIds : List CString) : Option (List CString) :=
  if isMutationBusy state || smsIds = [] then none else some smsIds

/-- What `prepareDeleteAll` does with what was loaded: the state after it, and the ids it offers for
deletion. -/
def deleteAllLoaded (state : DeviceState) (loaded : Loaded) : DeviceState × Option (List CString) :=
  let state := {state with preparingDeleteAll := false}
  if truthy loaded.error then (state,none)
  else
    let result := object loaded.messages
    let allMessages := (result.get "messages").items.filter isObject
    if (result.get "has_more").isTrue || (result.get "cache_truncated").isTrue ||
        (result.get "cache_state").isText "ready-truncated".toList then (state,none)
    else
      let ids := uniqueSmsIds (messagesForView allMessages state)
      (state,confirmBulkDelete state ids)

def deleteAllThrown (state : DeviceState) : DeviceState × Option (List CString) :=
  ({state with preparingDeleteAll := false},none)

end SmsPage
end Frontend
end L850GL
