import L850GL.Text

/-! The LTE cell, NVM lock state and AT command vocabulary of `l850_cell.c`. -/
namespace L850GL
namespace Cell

open Text

def uint32Max : Nat := 4294967295
def int32Max : Nat := 2147483647
def l850glL850CellMaxResponse : Nat := 16384
def l850glL850CellMaxResults : Nat := 64
def l850glL850CellScanCooldownSeconds : Nat := 5
def l850glL850NvmMaxResponse : Nat := 512
def l850glL850CommandMax : Nat := 96
def l850glL850PciWildcard : Nat := 65535
def l850glL850ClearFrequency : Nat := 65535

inductive CellParseResult
  | empty | oversized | malformed | unsupportedType | sentinel | range | tooMany
  deriving DecidableEq,Repr

structure L850Cell where
  type : Nat
  serving : Bool
  earfcn : Nat
  pci : Nat
  band : Nat
  rsrpDbm : Int
  rsrqTenthsDb : Int
  deriving DecidableEq,Repr

structure LockState where
  enabled : Bool
  hasPci : Bool
  earfcn : Nat
  pci : Nat
  band : Nat
  deriving DecidableEq,Repr

structure EarfcnRange where
  first : Nat
  last : Nat
  band : Nat

def earfcnRanges : List EarfcnRange :=
  [⟨0,599,1⟩,⟨600,1199,2⟩,⟨1200,1949,3⟩,⟨1950,2399,4⟩,⟨2400,2649,5⟩,⟨2650,2749,6⟩,
   ⟨2750,3449,7⟩,⟨3450,3799,8⟩,⟨3800,4149,9⟩,⟨4150,4749,10⟩,⟨4750,4949,11⟩,⟨5010,5179,12⟩,
   ⟨5180,5279,13⟩,⟨5280,5379,14⟩,⟨5730,5849,17⟩,⟨5850,5999,18⟩,⟨6000,6149,19⟩,
   ⟨6150,6449,20⟩,⟨6450,6599,21⟩,⟨6600,7399,22⟩,⟨7500,7699,23⟩,⟨7700,8039,24⟩,
   ⟨8040,8689,25⟩,⟨8690,9039,26⟩,⟨9040,9209,27⟩,⟨9210,9659,28⟩,⟨9660,9769,29⟩,
   ⟨9770,9869,30⟩,⟨9870,9919,31⟩,⟨9920,10359,32⟩,⟨36000,36199,33⟩,⟨36200,36349,34⟩,
   ⟨36350,36949,35⟩,⟨36950,37549,36⟩,⟨37550,37749,37⟩,⟨37750,38249,38⟩,⟨38250,38649,39⟩,
   ⟨38650,39649,40⟩,⟨39650,41589,41⟩,⟨41590,43589,42⟩,⟨43590,45589,43⟩,⟨45590,46589,44⟩,
   ⟨46590,46789,45⟩,⟨46790,54539,46⟩,⟨54540,55239,47⟩,⟨55240,56739,48⟩,⟨65536,66435,65⟩,
   ⟨66436,67335,66⟩,⟨67336,67535,67⟩,⟨67536,67835,68⟩,⟨67836,68335,69⟩,⟨68336,68585,70⟩,
   ⟨68586,68935,71⟩,⟨68936,68985,72⟩,⟨68986,69035,73⟩,⟨69036,69465,74⟩,⟨69466,70315,75⟩,
   ⟨70316,70365,76⟩,⟨70366,70545,85⟩]

def parseUint32 (value : CString) : Option Nat :=
  match value with
  | [] => none
  | '0'::c::digits =>
    if c = 'x' ∨ c = 'X' then
      if digits = [] then none else accumulate 16 uint32Max 0 digits
    else accumulate 10 uint32Max 0 value
  | _ => accumulate 10 uint32Max 0 value

/-- The magnitude loop of `parse_int32`, after the sign. -/
def parseMagnitude (limit : Nat) (value : CString) : Option Nat :=
  match value with
  | [] => none
  | '0'::c::digits =>
    if c = 'x' ∨ c = 'X' then
      if digits = [] then none else accumulate 16 limit 0 digits
    else accumulate 10 limit 0 value
  | _ => accumulate 10 limit 0 value

def parseInt32 (value : CString) : Option Int :=
  match value with
  | '-'::digits => (parseMagnitude (int32Max+1) digits).map fun n => -(n : Int)
  | _ => (parseMagnitude int32Max value).map fun n => (n : Int)

def unquoteNumericToken (value : CString) : Option CString :=
  let value := trimAscii value
  match value with
  | [] => none
  | '"'::_ =>
    if value.length < 3 ∨ value.getLast? ≠ some '"' then none
    else
      let inner := value.tail.dropLast
      if '"' ∈ inner ∨ inner.head?.any isBlank ∨ inner.getLast?.any isBlank then none
      else some inner
  | _ => if '"' ∈ value then none else some value

def l850glL850EarfcnToBand (earfcn : Nat) : Option Nat :=
  (earfcnRanges.find? fun r => r.first ≤ earfcn && earfcn ≤ r.last).map (·.band)

def l850glL850BandIsSupported (band : Nat) (supportedBands : List CString) : Bool :=
  supportedBands.contains ("eutran-".toList++decimal band)

def lteFieldCount : Nat := 14

/-- The fourteen numeric fields of a `+XMCI:` record, the twelfth one signed. -/
def parseCellFields (fields : List CString) : Option (List Nat × Int) := do
  let tokens ← fields.mapM unquoteNumericToken
  let unsigned ← (tokens.eraseIdx 11).mapM parseUint32
  let rssnr ← parseInt32 (tokens.getD 11 [])
  return (unsigned,rssnr)

/-- Range and sentinel checks of `parse_cell_line`; the list is indexed without field 11. -/
def decodeCell (v : List Nat) (rssnr : Int) : Except CellParseResult L850Cell :=
  let type := v.getD 0 0
  let pci := v.getD 5 0
  let earfcn := v.getD 6 0
  let rsrp := v.getD 9 0
  let rsrq := v.getD 10 0
  let ta := v.getD 11 0
  let last := v.getD 12 0
  if type ≠ 4 ∧ type ≠ 5 then .error .unsupportedType
  else if pci = uint32Max ∨ earfcn = uint32Max ∨ rsrp = 255 ∨ rsrq = 255 then .error .sentinel
  else if pci > 503 then .error .range
  else match l850glL850EarfcnToBand earfcn with
    | none => .error .range
    | some band =>
      if v.getD 1 0 > 999 ∨ v.getD 2 0 > 999 ∨ v.getD 3 0 > 65535 ∨
          (v.getD 4 0 > 0x0fffffff ∧ v.getD 4 0 ≠ uint32Max) ∨
          (v.getD 7 0 > 262143 ∧ v.getD 7 0 ≠ uint32Max) ∨
          (v.getD 8 0 > 254 ∧ v.getD 8 0 ≠ uint32Max) ∨
          rsrp > 97 ∨ rsrq > 34 ∨ (rssnr < -255 ∨ rssnr > 255) ∨
          (ta > 1282 ∧ ta ≠ int32Max) ∨ last > 15 then .error .range
      else .ok ⟨type,type == 4,earfcn,pci,band,(rsrp : Int)-141,(rsrq : Int)*5-195⟩

def parseCellLine (line : CString) : Except CellParseResult L850Cell :=
  if ¬ "+XMCI:".toList.isPrefixOf line then .error .malformed
  else
    let fields := ((trimAscii (line.drop 6)).splitOn ',').map trimAscii
    if fields.length ≠ lteFieldCount ∨ [] ∈ fields then .error .malformed
    else match parseCellFields fields with
      | none => .error .malformed
      | some (v,rssnr) => decodeCell v rssnr

/-- The line loop of the scan parser; `cells` holds the accepted records in order. -/
def cellParseLoop : List CString → (okSeen servingSeen : Bool) → List L850Cell →
    Except CellParseResult (List L850Cell)
  | [], _, _, cells => .ok cells
  | line::rest, okSeen, servingSeen, cells =>
    let current := trimAscii line
    if current = [] then cellParseLoop rest okSeen servingSeen cells
    else if current = "OK".toList then
      if okSeen then .error .malformed else cellParseLoop rest true servingSeen cells
    else if okSeen ∨ cells.length ≥ l850glL850CellMaxResults then
      .error (if cells.length ≥ l850glL850CellMaxResults then .tooMany else .malformed)
    else match parseCellLine current with
      | .error result => .error result
      | .ok cell =>
        if cell.serving ∧ servingSeen then .error .malformed
        else cellParseLoop rest okSeen (servingSeen || cell.serving) (cells++[cell])

def l850glL850CellParse (response : CString) : Except CellParseResult (List L850Cell) :=
  if response = [] then .error .empty
  else if response.length > l850glL850CellMaxResponse then .error .oversized
  else if '\x00' ∈ response then .error .malformed
  else do
    let cells ← cellParseLoop (lines response) false false []
    if cells = [] then .error .empty else .ok cells

inductive NvmField
  | frequency | rat | pci | bandInfo | interFrequency
  deriving DecidableEq,Repr

def nvmKeys : List (CString × NvmField) :=
  [("frequency".toList,.frequency),("rat".toList,.rat),("psc_or_pci".toList,.pci),
   ("band_info".toList,.bandInfo),("inter_freq_lock_support".toList,.interFrequency)]

abbrev NvmValues := List (NvmField × Nat)

def nvmParseLine (line : CString) (values : NvmValues) : Except CellParseResult NvmValues :=
  match line.splitOn '=' with
  | [key,value] =>
    match nvmKeys.lookup (trimAscii key),parseUint32 (trimAscii value) with
    | some field,some number =>
      if (values.lookup field).isSome then .error .malformed else .ok ((field,number)::values)
    | _,_ => .error .malformed
  | _ => .error .malformed

def nvmParseLoop : List CString → NvmValues → Except CellParseResult NvmValues
  | [], values => .ok values
  | line::rest, values =>
    let line := trimAscii line
    if line = [] then nvmParseLoop rest values
    else match nvmParseLine line values with
      | .error result => .error result
      | .ok values => nvmParseLoop rest values

/-- The checks of `l850gl_l850_nvm_parse` after all five keys have been read. -/
def nvmDecode (frequency rat pci bandInfo interFrequency : Nat) :
    Except CellParseResult LockState :=
  if pci > l850glL850PciWildcard ∨ interFrequency > 1 then .error .range
  else if interFrequency = 0 then
    if frequency ≠ l850glL850ClearFrequency ∨ pci ≠ l850glL850PciWildcard ∨
        (rat ≠ 3 ∧ rat ≠ 255) ∨ (bandInfo ≠ 0 ∧ bandInfo ≠ 255) then .error .malformed
    else .ok ⟨false,false,l850glL850ClearFrequency,l850glL850PciWildcard,0⟩
  else
    let rejected : CellParseResult :=
      if frequency = l850glL850ClearFrequency ∨ pci = uint32Max then .sentinel else .range
    if rat ≠ 3 then .error rejected
    else match l850glL850EarfcnToBand frequency with
      | none => .error rejected
      | some band =>
        if pci > 503 ∧ pci ≠ l850glL850PciWildcard then .error rejected
        else if bandInfo ≠ 0 ∧ bandInfo ≠ 255 ∧ bandInfo ≠ band then .error .range
        else .ok ⟨true,pci != l850glL850PciWildcard,frequency,pci,band⟩

def l850glL850NvmParse (response : CString) : Except CellParseResult LockState :=
  if response = [] then .error .empty
  else if response.length > l850glL850NvmMaxResponse then .error .oversized
  else if '\x00' ∈ response then .error .malformed
  else do
    let values ← nvmParseLoop (lines response) []
    if values.length ≠ 5 then .error (if values = [] then .empty else .malformed)
    else
      let value := fun field => (values.lookup field).getD 0
      nvmDecode (value .frequency) (value .rat) (value .pci) (value .bandInfo)
        (value .interFrequency)

def l850SetSuccess : CString :=
  "Frequency Lock Configuration Success CPS_MSG_TYPE_ASM_EM_CTRL_CNF".toList
def l850glL850ClearCommand : CString := "AT@SIC:FREQ_LOCK(0,3,255,0,65535,65535)".toList
def l850glL850ResetCommand : CString := "AT+CFUN=15".toList
def l850glL850ScanCommand : CString := "AT+XMCI=1".toList
def l850glL850NvmQueryCommand : CString := "AT@NVM:DYN_CPS.NAS_ASM.FREQ_LOCK_PARAMS.*??".toList

def l850glL850BuildSetCommand (earfcn : Nat) (hasPci : Bool) (pci commandSize : Nat) :
    Option CString :=
  match l850glL850EarfcnToBand earfcn with
  | none => none
  | some band =>
    if hasPci ∧ pci > 503 then none
    else
      let command := "AT@SIC:FREQ_LOCK(0,3,".toList++decimal band++",1,".toList++
        decimal earfcn++",".toList++
        decimal (if hasPci then pci else l850glL850PciWildcard)++")".toList
      if command.length ≥ commandSize then none else some command

def l850glL850SetResponseIsSuccess (response : CString) : Bool := response == l850SetSuccess

def l850glL850LockStateMatches (state : LockState) (clear : Bool) (earfcn : Nat) (hasPci : Bool)
    (pci : Nat) : Bool :=
  if clear then
    !state.enabled && state.earfcn == l850glL850ClearFrequency &&
      state.pci == l850glL850PciWildcard
  else state.enabled && state.earfcn == earfcn && state.hasPci == hasPci &&
    state.pci == (if hasPci then pci else l850glL850PciWildcard)

/-- The number of type 4 records in an accepted scan. -/
def servingCount (cells : List L850Cell) : Nat := cells.countP (·.serving)

theorem cellParseLoop_serving {rest : List CString} {okSeen servingSeen : Bool}
    {cells scan : List L850Cell} (hcells : servingCount cells = servingSeen.toNat)
    (h : cellParseLoop rest okSeen servingSeen cells = .ok scan) : servingCount scan ≤ 1 := by
  induction rest generalizing okSeen servingSeen cells with
  | nil =>
    simp only [cellParseLoop,Except.ok.injEq] at h
    subst h
    cases servingSeen <;> simp_all
  | cons line rest ih =>
    simp only [cellParseLoop] at h
    split at h
    · exact ih hcells h
    split at h
    · split at h
      · cases h
      · exact ih hcells h
    split at h
    · cases h
    split at h
    · cases h
    · rename_i cell _
      split at h
      · cases h
      · rename_i hn
        refine ih ?_ h
        cases hs : cell.serving <;> cases servingSeen <;>
          simp_all [servingCount,List.countP_append]

/-- An accepted scan names at most one serving cell. -/
theorem l850glL850CellParse_serving {response : CString} {scan : List L850Cell}
    (h : l850glL850CellParse response = .ok scan) : servingCount scan ≤ 1 := by
  unfold l850glL850CellParse at h
  split at h
  · cases h
  split at h
  · cases h
  split at h
  · cases h
  simp only [bind,Except.bind] at h
  split at h
  · cases h
  · rename_i cells hloop
    split at h
    · cases h
    · cases h
      exact cellParseLoop_serving rfl hloop

example : l850glL850BuildSetCommand 1850 true 12 l850glL850CommandMax =
    some "AT@SIC:FREQ_LOCK(0,3,3,1,1850,12)".toList := by decide

end Cell
end L850GL
