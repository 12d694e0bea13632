import L850GL.Cell

/-! The carrier aggregation response of the modem, read as `l850_ca.c` does. -/
namespace L850GL
namespace Ca

open Text Cell

def caPrefix : CString := "+GTCAINFO:".toList
def caPrimaryFieldCount : Nat := 14
def caSecondaryFieldCount : Nat := 10
def caCellIdMax : Nat := 0x0fffffff
def caLteEarfcnMax : Nat := 262143
def l850glL850CaMaxResponse : Nat := 4096
def l850glL850CaMaxSlots : Nat := 8

inductive CaParseResult
  | empty | oversized | malformed | sentinel | range | tooMany | duplicate | countMismatch
  | missingPrimary
  deriving DecidableEq,Repr

structure CaCarrier where
  index : Nat
  primary : Bool
  hasCellIdentity : Bool
  uplinkActive : Bool
  sinrAvailable : Bool
  band : Nat
  mcc : Nat
  mnc : Nat
  tac : Nat
  cellId : Nat
  pci : Nat
  rsrpDbm : Int
  rsrqTenthsDb : Int
  sinrTenthsDb : Int
  dlEarfcn : Nat
  ulEarfcn : Nat
  dlBandwidthTenthsMhz : Nat
  ulBandwidthTenthsMhz : Nat
  deriving DecidableEq,Repr

def CaCarrier.zero : CaCarrier :=
  ⟨0,false,false,false,false,0,0,0,0,0,0,0,0,0,0,0,0,0⟩

/-- The caller's result: an array of carriers, the number in use, and the slots announced. -/
structure CaInfo where
  carriers : List CaCarrier
  length : Nat
  declaredSlots : Nat
  deriving DecidableEq,Repr

def CaInfo.zero : CaInfo := ⟨List.replicate l850glL850CaMaxSlots CaCarrier.zero,0,0⟩

structure CaBandRange where
  band : Nat
  dlFirst : Nat
  dlLast : Nat
  ulFirst : Nat
  ulLast : Nat
  deriving DecidableEq

def caBandRanges : List CaBandRange :=
  [⟨1,0,599,18000,18599⟩,⟨2,600,1199,18600,19199⟩,⟨3,1200,1949,19200,19949⟩,
   ⟨4,1950,2399,19950,20399⟩,⟨5,2400,2649,20400,20649⟩,⟨7,2750,3449,20750,21449⟩,
   ⟨8,3450,3799,21450,21799⟩,⟨11,4750,4949,22750,22949⟩,⟨12,5010,5179,23010,23179⟩,
   ⟨13,5180,5279,23180,23279⟩,⟨17,5730,5849,23730,23849⟩,⟨18,5850,5999,23850,23999⟩,
   ⟨19,6000,6149,24000,24149⟩,⟨20,6150,6449,24150,24449⟩,⟨21,6450,6599,24450,24599⟩,
   ⟨26,8690,9039,26690,27039⟩,⟨28,9210,9659,27210,27659⟩,⟨30,9770,9869,27660,27759⟩,
   ⟨38,37750,38249,37750,38249⟩,⟨39,38250,38649,38250,38649⟩,⟨40,38650,39649,38650,39649⟩,
   ⟨41,39650,41589,39650,41589⟩,⟨66,66436,67335,131972,132671⟩]

structure CaSlot where
  seen : Bool
  active : Bool
  carrier : CaCarrier
  deriving DecidableEq

def CaSlot.zero : CaSlot := ⟨false,false,.zero⟩

def parseUint32Decimal (value : CString) : Option Nat :=
  match value with
  | [] => none
  | _ => accumulate 10 uint32Max 0 value

def parseInt32Decimal (value : CString) : Option Int :=
  match value with
  | [] => none
  | ['-'] => none
  | '-'::digits => (accumulate 10 (int32Max+1) 0 digits).map fun n : Nat => -Int.ofNat n
  | _ => (accumulate 10 int32Max 0 value).map Int.ofNat

/-- The field loop: it stops at the first empty field, and before a field past `capacity`. -/
def splitFieldsLoop (capacity : Nat) : List CString → List CString → Nat × List CString
  | [], fields => (fields.length,fields)
  | part::rest, fields =>
    if fields.length ≥ capacity then (capacity+1,fields)
    else
      let field := trimAscii part
      if field = [] then (0,fields++[field]) else splitFieldsLoop capacity rest (fields++[field])

def splitFields (body : CString) (capacity : Nat) : Nat × List CString :=
  splitFieldsLoop capacity (body.splitOn ',') []

def findBandRange (band : Nat) : Option CaBandRange := caBandRanges.find? (·.band == band)

def bandDownlinkEarfcnIsValid (band dlEarfcn : Nat) : Bool :=
  (findBandRange band).any fun range => range.dlFirst ≤ dlEarfcn && dlEarfcn ≤ range.dlLast

def bandUplinkEarfcnIsValid (band ulEarfcn : Nat) : Bool :=
  (findBandRange band).any fun range => range.ulFirst ≤ ulEarfcn && ulEarfcn ≤ range.ulLast

def bandwidthCodeToTenthsMhz (code : Nat) : Option Nat := [14,30,50,100,150,200][code]?

def validateCommonCarrier (carrier : CaCarrier) (band pci rsrp rsrq : Nat) (sinr : Int)
    (dlEarfcn ulEarfcn dlBandwidth ulBandwidth : Nat)
    (allowInactiveUplink allowUnavailableSinr : Bool) : Except CaParseResult CaCarrier :=
  if band = 255 ∨ pci = 65535 ∨ rsrp = 255 ∨ rsrq = 255 ∨
      (sinr = 127 ∧ allowUnavailableSinr = false) ∨ sinr = 255 ∨ dlEarfcn = 65535 ∨
      ulEarfcn = 65535 ∨ dlBandwidth = 255 then .error .sentinel
  else if band = 0 ∨ band > 85 ∨ pci > 503 ∨ rsrp > 97 ∨ rsrq > 34 ∨
      (sinr ≠ 127 ∧ (sinr < -100 ∨ sinr > 100)) ∨
      bandDownlinkEarfcnIsValid band dlEarfcn = false then .error .range
  else match bandwidthCodeToTenthsMhz dlBandwidth with
    | none => .error .range
    | some dlTenthsMhz =>
      let finish : Bool → Nat → CaCarrier := fun uplinkActive ulTenthsMhz =>
        { carrier with
          band := band, pci := pci, rsrpDbm := (rsrp : Int)-141,
          rsrqTenthsDb := (rsrq : Int)*5-195, sinrAvailable := sinr != 127,
          sinrTenthsDb := if sinr != 127 then sinr*5 else 0, dlEarfcn := dlEarfcn,
          ulEarfcn := ulEarfcn, dlBandwidthTenthsMhz := dlTenthsMhz,
          uplinkActive := uplinkActive, ulBandwidthTenthsMhz := ulTenthsMhz }
      if ulBandwidth = 255 then
        if allowInactiveUplink then .ok (finish false 0) else .error .sentinel
      else if bandUplinkEarfcnIsValid band ulEarfcn = false then .error .range
      else match bandwidthCodeToTenthsMhz ulBandwidth with
        | none => .error .range
        | some ulTenthsMhz => .ok (finish true ulTenthsMhz)

/-- The numeric fields of a record, read but for the signed one at `signedIndex`. -/
def parseRecordFields (signedIndex : Nat) (fields : List CString) : Option (List Nat × Int) := do
  let values ← (fields.eraseIdx signedIndex).mapM parseUint32Decimal
  let sinr ← parseInt32Decimal (fields.getD signedIndex [])
  return (values,sinr)

/-- The values are indexed without field 9, the signed one. -/
def parsePrimaryRecord (fields : List CString) : Except CaParseResult CaCarrier :=
  match parseRecordFields 9 fields with
  | none => .error .malformed
  | some (values,sinr) =>
    let value := fun index => values.getD index 0
    if value 0 ≠ 1 then .error .range
    else if value 2 = 65535 ∨ value 4 = 65535 then .error .sentinel
    else if value 2 = 0 ∨ value 2 > 999 ∨ value 3 > 999 ∨ value 4 > 65535 ∨
        value 5 > caCellIdMax then .error .range
    else match validateCommonCarrier .zero (value 1) (value 6) (value 7) (value 8) sinr
        (value 9) (value 10) (value 11) (value 12) false false with
      | .error result => .error result
      | .ok carrier => .ok { carrier with
          index := 1, primary := true, hasCellIdentity := true, mcc := value 2, mnc := value 3,
          tac := value 4, cellId := value 5 }

/-- The slot index, whether the slot is active, and its carrier; the values are indexed
without field 5, the signed one. -/
def parseSecondaryRecord (fields : List CString) :
    Except CaParseResult (Nat × Bool × CaCarrier) :=
  match parseRecordFields 5 fields with
  | none => .error .malformed
  | some (values,sinr) =>
    let value := fun index => values.getD index 0
    if value 0 < 2 ∨ value 0 > l850glL850CaMaxSlots then .error .range
    else if value 1 = 255 ∧ value 2 = 65535 ∧ value 3 = 255 ∧ value 4 = 255 ∧ sinr = 127 ∧
        value 5 = 65535 ∧ value 7 = 255 ∧ value 8 = 255 then
      if value 6 > caLteEarfcnMax then .error .sentinel
      else .ok (value 0,false,{ CaCarrier.zero with index := value 0, ulEarfcn := value 6 })
    else match validateCommonCarrier .zero (value 1) (value 2) (value 3) (value 4) sinr
        (value 5) (value 6) (value 7) (value 8) true true with
      | .error result => .error result
      | .ok carrier =>
        if carrier.uplinkActive then .error .range
        else .ok (value 0,true,{ carrier with index := value 0 })

def carriersAreDuplicate (left right : CaCarrier) : Bool :=
  left.band == right.band && left.pci == right.pci && left.dlEarfcn == right.dlEarfcn

/-- What the line loop has read. -/
structure CaScan where
  declaredSlots : Nat
  recordCount : Nat
  headerSeen : Bool
  slots : List CaSlot
  deriving DecidableEq

def CaScan.start : CaScan := ⟨0,0,false,List.replicate l850glL850CaMaxSlots .zero⟩

/-- A record of either shape: its slot index, whether it is active, and its carrier. -/
def parseRecord (fieldCount : Nat) (fields : List CString) :
    Except CaParseResult (Nat × Bool × CaCarrier) :=
  if fieldCount = caPrimaryFieldCount then
    match parsePrimaryRecord fields with
    | .error result => .error result
    | .ok carrier => .ok (carrier.index,true,carrier)
  else if fieldCount = caSecondaryFieldCount then parseSecondaryRecord fields
  else .error .malformed

/-- One line of the response that is not blank. -/
def parseCaLine (current : CString) (scan : CaScan) : Except CaParseResult CaScan :=
  if ¬caPrefix.isPrefixOf current then .error .malformed
  else
    let body := trimAscii (current.drop caPrefix.length)
    let (fieldCount,fields) := splitFields body (caPrimaryFieldCount+1)
    if fieldCount = 1 then
      if scan.headerSeen ∨ scan.recordCount ≠ 0 then .error .malformed
      else match parseUint32Decimal (fields.getD 0 []) with
        | none => .error .malformed
        | some declaredSlots =>
          if declaredSlots = 0 then .error .range
          else if declaredSlots > l850glL850CaMaxSlots then .error .tooMany
          else .ok { scan with declaredSlots := declaredSlots, headerSeen := true }
    else if scan.headerSeen = false then .error .malformed
    else if scan.recordCount ≥ scan.declaredSlots then .error .countMismatch
    else match parseRecord fieldCount fields with
      | .error result => .error result
      | .ok (slotIndex,active,carrier) =>
        if slotIndex > scan.declaredSlots then .error .countMismatch
        else if (scan.slots.getD (slotIndex-1) .zero).seen then .error .duplicate
        else .ok { scan with
          slots := scan.slots.set (slotIndex-1) ⟨true,active,carrier⟩,
          recordCount := scan.recordCount+1 }

def caParseLoop : List CString → CaScan → Except CaParseResult CaScan
  | [], scan => .ok scan
  | line::rest, scan =>
    let current := trimAscii line
    if current = [] then caParseLoop rest scan
    else match parseCaLine current scan with
      | .error result => .error result
      | .ok scan => caParseLoop rest scan

/-- The output loop over the announced slots, those before the current one first. -/
def caEmitLoop : List CaSlot → List CaSlot → CaInfo → Option CaParseResult × CaInfo
  | _, [], info => (none,info)
  | before, slot::rest, info =>
    if slot.seen = false then (some .countMismatch,info)
    else if slot.active = false then caEmitLoop (before++[slot]) rest info
    else if before.any fun other => other.active &&
        carriersAreDuplicate slot.carrier other.carrier then (some .duplicate,info)
    else caEmitLoop (before++[slot]) rest
      { info with carriers := info.carriers.set info.length slot.carrier,
                  length := info.length+1 }

/-- The checks across records, then the output. -/
def caFinish (scan : CaScan) : Option CaParseResult × CaInfo :=
  let first := scan.slots.getD 0 .zero
  let declared := scan.slots.take scan.declaredSlots
  if scan.headerSeen = false then (some .empty,.zero)
  else if first.seen = false ∨ first.active = false then (some .missingPrimary,.zero)
  else if scan.recordCount ≠ scan.declaredSlots then (some .countMismatch,.zero)
  else if declared.tail.any fun slot => slot.carrier.uplinkActive == false &&
      slot.carrier.ulEarfcn != first.carrier.ulEarfcn then (some .range,.zero)
  else
    let (result,info) := caEmitLoop [] declared .zero
    if result = none then (none,{ info with declaredSlots := scan.declaredSlots })
    else (result,info)

/-- `l850gl_l850_ca_parse`: the result, none for `OK`, and the caller's info, which is zeroed
first. -/
def l850glL850CaParse (response : CString) : Option CaParseResult × CaInfo :=
  if response = [] then (some .empty,.zero)
  else if response.length > l850glL850CaMaxResponse then (some .oversized,.zero)
  else
    let (result,info) :=
      if '\x00' ∈ response then (some .malformed,.zero)
      else match caParseLoop (lines response) .start with
        | .error result => (some result,CaInfo.zero)
        | .ok scan => caFinish scan
    if result = none then (none,info) else (result,.zero)

end Ca
end L850GL
