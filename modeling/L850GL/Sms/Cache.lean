import L850GL.Identity
import L850GL.Lib.Sorting
import L850GL.Modem
import L850GL.Sms.Policy

/-! The messaging half of a modem record and the functions of `bridge.c` on it: the message
cache, the reserved ids, the tombstones, the token cache and the epoch. -/
namespace L850GL
namespace Sms

open Identity

def maxSmsCache : Nat := 1024
def randomRetries : Nat := 8
def uint64Max : Nat := 18446744073709551615

/-- `g_variant_is_object_path`. -/
def gVariantIsObjectPath (path : CString) : Bool :=
  match path with
  | '/'::[] => true
  | '/'::rest => (rest.splitOn '/').all fun element =>
      element != [] && element.all fun c =>
        ('a' ≤ c && c ≤ 'z') || ('A' ≤ c && c ≤ 'Z') || ('0' ≤ c && c ≤ '9') || c == '_'
  | _ => false

/-- An Sms proxy and its object path. -/
structure MMSms where
  object : Nat
  path : Option CString
  deriving DecidableEq,Repr

inductive MMSmsState
  | unknown | stored | receiving | received | sending | sent
  deriving DecidableEq,Repr

inductive MMSmsPduType
  | unknown | deliver | submit | statusReport | cdmaDeliver | cdmaSubmit | cdmaCancellation
  | cdmaDeliveryAcknowledgement | cdmaUserAcknowledgement | cdmaReadAcknowledgement
  deriving DecidableEq,Repr

inductive MMSmsStorage
  | unknown | sm | me | mt | sr | bm | ta
  deriving DecidableEq,Repr

/-- What an Sms proxy reports; `dataLength` is the length of its binary data. -/
structure SmsProperties where
  timestamp : Option CString
  state : MMSmsState
  dischargeTimestamp : Option CString
  text : Option CString
  number : Option CString
  pduType : MMSmsPduType
  deliveryState : Nat
  messageReference : Nat
  storage : MMSmsStorage
  dataLength : Nat
  deriving DecidableEq,Repr

/-- `owner` is also the user data of the connected property handler. -/
structure L850GLSms where
  owner : Option ModemRef
  sms : MMSms
  smsId : CString
  modemGeneration : Nat
  messagingGeneration : Nat
  deriving DecidableEq,Repr

/-- The result a token is answered with. -/
structure SmsResult where
  ok : Bool
  smsId : Option CString
  state : Option String
  errorCode : Option String
  retryable : Bool
  requestDigest : Option Digest
  deriving DecidableEq,Repr

abbrev SmsDedupe := ExpiringQueue.Entry CString SmsResult

inductive SmsCacheState
  | absent | loading | ready | readyTruncated | unavailable | cancelled
  deriving DecidableEq,Repr

def SmsCacheState.isReady (state : SmsCacheState) : Bool :=
  state == .ready || state == .readyTruncated

/-- `smsByPath`, `smsReservedIds` and `smsDeletedPaths` are hash tables of the source. -/
structure Messaging where
  messaging : Option Nat
  smsByPath : List (CString × L850GLSms)
  smsReservedIds : List CString
  smsDeletedPaths : List CString
  smsDedupe : List SmsDedupe
  messagingGeneration : Nat
  smsRevision : Nat
  smsQueryPending : Bool
  smsQueryDirty : Bool
  smsCacheTruncated : Bool
  smsCacheState : SmsCacheState

/-- The record as `reconcile_object` makes it. -/
def Messaging.new : Messaging where
  messaging := none
  smsByPath := []
  smsReservedIds := []
  smsDeletedPaths := []
  smsDedupe := []
  messagingGeneration := 0
  smsRevision := 0
  smsQueryPending := false
  smsQueryDirty := false
  smsCacheTruncated := false
  smsCacheState := .absent

namespace Messaging

def smsRevisionBump (m : Messaging) : Messaging :=
  {m with smsRevision := if m.smsRevision < uint64Max then m.smsRevision+1 else m.smsRevision}

def clearSmsCache (m : Messaging) : Messaging := {m with smsByPath := []}

def lookupSms (cache : List (CString × L850GLSms)) (path : CString) : Option L850GLSms :=
  cache.lookup path

def removeSms (cache : List (CString × L850GLSms)) (path : CString) :
    List (CString × L850GLSms) := cache.filter fun entry => entry.1 != path

def insertSms (cache : List (CString × L850GLSms)) (path : CString) (entry : L850GLSms) :
    List (CString × L850GLSms) := removeSms cache path++[(path,entry)]

def smsIdExistsInHash (cache : List (CString × L850GLSms)) (smsId : CString) : Bool :=
  cache.any fun entry => entry.2.smsId == smsId

def insertString (set : List CString) (value : CString) : List CString :=
  if value ∈ set then set else set++[value]

/-- `sms_set_proxy`. -/
def smsSetProxy (entry : L850GLSms) (ref : ModemRef) (generation epoch : Nat) (sms : MMSms) :
    L850GLSms :=
  if entry.sms = sms ∧ entry.owner = some ref then entry
  else {entry with
    sms := sms,owner := some ref,modemGeneration := generation,messagingGeneration := epoch}

section

variable (random : Nat → Option (Vector UInt8 16))

/-- The retry loop of `new_sms_id`; `drawn` random values have been used before, and each
attempt uses one. -/
def drawSmsId (taken : CString → Bool) : Nat → Nat → Option CString × Nat
  | 0, drawn => (none,drawn)
  | attempts+1, drawn =>
    match l850glSmsIdentityGenerateWith (random drawn) with
    | none => (none,drawn+1)
    | some candidate =>
      if taken candidate then drawSmsId taken attempts (drawn+1) else (some candidate,drawn+1)

def newSmsId (cache additional : List (CString × L850GLSms)) (reserved : List CString)
    (drawn : Nat) : Option CString × Nat :=
  drawSmsId random (fun candidate => smsIdExistsInHash cache candidate ||
    smsIdExistsInHash additional candidate || reserved.contains candidate) randomRetries drawn

def reserveSmsId (m : Messaging) (drawn : Nat) : Messaging × Option CString × Nat :=
  match newSmsId random m.smsByPath [] m.smsReservedIds drawn with
  | (none,drawn) => (m,none,drawn)
  | (some smsId,drawn) =>
    ({m with smsReservedIds := insertString m.smsReservedIds smsId},some smsId,drawn)

def releaseSmsId (m : Messaging) (smsId : Option CString) : Messaging :=
  match smsId with
  | none => m
  | some smsId => {m with smsReservedIds := m.smsReservedIds.filter (· != smsId)}

/-- `l850gl_modem_admit_reserved_sms` on a live record; the entry is nothing when it was
refused. -/
def admitReservedSms (m : Messaging) (ref : ModemRef) (generation : Nat) (sms : MMSms)
    (reservedId : CString) : Messaging × Option L850GLSms :=
  if m.messaging.isNone then (m,none)
  else if !l850glSmsIdentityIsValid reservedId || !m.smsReservedIds.contains reservedId then
    (m,none)
  else match sms.path.filter gVariantIsObjectPath with
    | none => (m,none)
    | some path =>
      match lookupSms m.smsByPath path with
      | some entry =>
        if entry.smsId ≠ reservedId ∧ smsIdExistsInHash m.smsByPath reservedId then (m,none)
        else
          let bumped := if entry.smsId ≠ reservedId then m.smsRevisionBump else m
          let entry := smsSetProxy {entry with smsId := reservedId} ref generation
            m.messagingGeneration sms
          let m := {bumped with smsByPath := insertSms m.smsByPath path entry}
          (m.releaseSmsId (some reservedId),some entry)
      | none =>
        if m.smsByPath.length ≥ maxSmsCache then ({m with smsCacheTruncated := true},none)
        else
          let entry : L850GLSms := ⟨some ref,sms,reservedId,generation,m.messagingGeneration⟩
          let m := {m with smsByPath := insertSms m.smsByPath path entry}
          ((m.releaseSmsId (some reservedId)).smsRevisionBump,some entry)

/-- `l850gl_modem_find_sms`. -/
def findSms (m : Messaging) (generation : Nat) (smsId : CString) : Option L850GLSms :=
  if !l850glSmsIdentityIsValid smsId then none
  else (m.smsByPath.find? fun entry => entry.2.modemGeneration == generation &&
    entry.2.messagingGeneration == m.messagingGeneration && entry.2.smsId == smsId).map (·.2)

/-- The loop of `sms_list_ready`: entries move from the old cache into the new one. -/
structure Rebuild where
  oldCache : List (CString × L850GLSms)
  newCache : List (CString × L850GLSms)
  seenDeleted : List CString
  count : Nat
  truncated : Bool
  drawn : Nat

/-- One listed message; the error is the number of random values used when no id was left. -/
def rebuildStep (m : Messaging) (ref : ModemRef) (generation : Nat) (r : Rebuild) (sms : MMSms) :
    Except Nat Rebuild :=
  match sms.path.filter gVariantIsObjectPath with
  | none => .ok r
  | some path =>
    if m.smsDeletedPaths.contains path then
      .ok {r with seenDeleted := insertString r.seenDeleted path}
    else if r.count ≥ maxSmsCache then .ok {r with truncated := true}
    else match lookupSms r.oldCache path with
      | some entry =>
        let entry := smsSetProxy entry ref generation m.messagingGeneration sms
        .ok {r with
          oldCache := removeSms r.oldCache path
          newCache := insertSms r.newCache path entry
          count := r.count+1}
      | none =>
        match newSmsId random r.oldCache r.newCache m.smsReservedIds r.drawn with
        | (none,drawn) => .error drawn
        | (some smsId,drawn) =>
          let entry : L850GLSms := ⟨some ref,sms,smsId,generation,m.messagingGeneration⟩
          .ok {r with
            newCache := insertSms r.newCache path entry,count := r.count+1,drawn := drawn}

/-- `g_strcmp0` as an order of bytes, the null pointer first. -/
def gStrcmp0 : Option CString → Option CString → Ordering
  | none, none => .eq
  | none, some _ => .lt
  | some _, none => .gt
  | some left, some right => compare (left.map Char.toNat) (right.map Char.toNat)

def smsProxyNewestFirst (properties : Nat → SmsProperties) (left right : MMSms) : Ordering :=
  (gStrcmp0 (properties right.object).timestamp (properties left.object).timestamp).then
    (gStrcmp0 left.path right.path)

/-- The part of `sms_list_ready` after a successful `Messaging.List` of the current epoch. -/
def rebuildCache (m : Messaging) (ref : ModemRef) (generation : Nat)
    (properties : Nat → SmsProperties) (messages : List MMSms) (drawn : Nat) :
    Messaging × Nat :=
  let messages := Sorting.sortBy (smsProxyNewestFirst properties) messages
  match messages.foldlM (rebuildStep random m ref generation)
      ⟨m.smsByPath,[],[],0,false,drawn⟩ with
  | .error drawn =>
    ({m.clearSmsCache with smsCacheState := .unavailable}.smsRevisionBump,drawn)
  | .ok r =>
    ({m with
      smsByPath := r.newCache
      smsCacheTruncated := r.truncated
      smsCacheState := if r.truncated then .readyTruncated else .ready
      smsDeletedPaths := m.smsDeletedPaths.filter r.seenDeleted.contains}.smsRevisionBump,r.drawn)

end

/-- The state changes of `query_sms`; the flag tells that a `Messaging.List` goes out. -/
def querySms (m : Messaging) : Messaging × Bool :=
  if m.messaging.isNone then (m,false)
  else if m.smsQueryPending then ({m with smsQueryDirty := true},false)
  else
    ({m with
      smsQueryPending := true
      smsCacheState := if m.smsCacheState.isReady then m.smsCacheState else .loading},true)

/-- `sms_list_ready` for a failed call of the current epoch. -/
def listFailed (m : Messaging) (cancelled : Bool) : Messaging :=
  let state : SmsCacheState := if cancelled then .cancelled else .unavailable
  {m with smsCacheState := state}.clearSmsCache.smsRevisionBump

/-- `sms_added` up to its query. -/
def smsAdded (m : Messaging) (path : Option CString) : Messaging :=
  match path.filter gVariantIsObjectPath with
  | none => m.smsRevisionBump
  | some path =>
    {m with smsDeletedPaths := m.smsDeletedPaths.filter (· != path)}.smsRevisionBump

/-- `sms_deleted` up to its query, for an object path. -/
def smsDeleted (m : Messaging) (path : CString) : Messaging :=
  let m := if m.smsDeletedPaths.length < maxSmsCache then
      {m with smsDeletedPaths := insertString m.smsDeletedPaths path} else m
  match lookupSms m.smsByPath path with
  | none => m
  | some _ => {m with smsByPath := removeSms m.smsByPath path}.smsRevisionBump

/-- What every epoch change of `reconcile_messaging` clears. -/
def leaveEpoch (m : Messaging) : Messaging :=
  {m.clearSmsCache with
    messaging := none
    smsReservedIds := []
    smsDeletedPaths := []
    smsQueryPending := false
    smsQueryDirty := false
    smsCacheTruncated := false
    smsDedupe := []}

/-- An epoch change, up to its query. -/
def changeEpoch (m : Messaging) (messaging : Option Nat) : Messaging :=
  let m := m.leaveEpoch
  if m.messagingGeneration = Cell.uint32Max then {m with smsCacheState := .unavailable}
  else
    let m := {m with messagingGeneration := m.messagingGeneration+1}.smsRevisionBump
    match messaging with
    | none => {m with smsCacheState := .absent}
    | some object => {m with messaging := some object}

/-- The token cache. -/
def smsDedupePrune (m : Messaging) (now : Int) : Messaging :=
  {m with smsDedupe := ExpiringQueue.prune now m.smsDedupe}

def smsDedupeFind (m : Messaging) (now : Int) (clientToken : CString) :
    Messaging × Option SmsDedupe :=
  let m := m.smsDedupePrune now
  (m,ExpiringQueue.find m.smsDedupe clientToken)

def smsDedupeRemove (m : Messaging) (now : Int) (clientToken : CString) : Messaging :=
  let m := m.smsDedupePrune now
  {m with smsDedupe := ExpiringQueue.remove m.smsDedupe clientToken}

def smsDedupeStore (m : Messaging) (now : Int) (clientToken : CString) (result : SmsResult) :
    Messaging :=
  let m := m.smsDedupePrune now
  let entry : SmsDedupe := ⟨clientToken,result,l850glSmsDedupeExpiry now⟩
  {m with smsDedupe := ExpiringQueue.put l850glSmsDedupeMax m.smsDedupe entry}

end Messaging
end Sms
end L850GL
