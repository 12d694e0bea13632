import L850GL.Ca
import L850GL.Cell.Bands
import L850GL.Cell.Numerals

/-! The lines of a carrier response: what a header and a record of either shape may hold. -/
namespace L850GL
namespace Ca

open Text TextFormat Cell

/-- A decimal numeral of at most 32 bits. -/
def DecimalField (field : CString) (n : Nat) : Prop :=
  field ≠ [] ∧ Digits decimalDigit 10 0 field n ∧ n ≤ uint32Max

/-- A decimal numeral with an optional minus sign, of at most 32 bits. -/
def SignedDecimalField (field : CString) (z : Int) : Prop :=
  (∃ n, field ≠ [] ∧ Digits decimalDigit 10 0 field n ∧ n ≤ int32Max ∧ z = Int.ofNat n) ∨
  ∃ digits n, field = '-'::digits ∧ digits ≠ [] ∧ Digits decimalDigit 10 0 digits n ∧
    n ≤ int32Max+1 ∧ z = -Int.ofNat n

/-- The values that both shapes of a record hold. -/
structure CaValues where
  band : Nat
  pci : Nat
  rsrp : Nat
  rsrq : Nat
  sinr : Int
  dlEarfcn : Nat
  ulEarfcn : Nat
  dlBandwidth : Nat
  ulBandwidth : Nat

/-- The slots of a response: the primary one, secondary ones in use, and unused ones. -/
inductive CaRecord
  | primary (mcc mnc tac cellId : Nat) (v : CaValues)
  | secondary (index : Nat) (v : CaValues)
  | inactive (index ulEarfcn : Nat)

def InDownlink (band dlEarfcn : Nat) : Prop :=
  ∃ range ∈ caBandRanges, range.band = band ∧ range.dlFirst ≤ dlEarfcn ∧ dlEarfcn ≤ range.dlLast

def InUplink (band ulEarfcn : Nat) : Prop :=
  ∃ range ∈ caBandRanges, range.band = band ∧ range.ulFirst ≤ ulEarfcn ∧ ulEarfcn ≤ range.ulLast

structure CaValues.InRange (v : CaValues) : Prop where
  downlink : InDownlink v.band v.dlEarfcn
  pci : v.pci ≤ 503
  rsrp : v.rsrp ≤ 97
  rsrq : v.rsrq ≤ 34
  dlBandwidth : v.dlBandwidth < 6

namespace CaRecord

def Valid : CaRecord → Prop
  | .primary mcc mnc tac cellId v =>
    v.InRange ∧ (-100 ≤ v.sinr ∧ v.sinr ≤ 100) ∧ InUplink v.band v.ulEarfcn ∧
      v.ulBandwidth < 6 ∧ (1 ≤ mcc ∧ mcc ≤ 999) ∧ mnc ≤ 999 ∧ tac ≤ 65534 ∧ cellId ≤ caCellIdMax
  | .secondary index v =>
    v.InRange ∧ (-100 ≤ v.sinr ∧ v.sinr ≤ 100 ∨ v.sinr = 127) ∧ v.ulEarfcn ≠ 65535 ∧
      v.ulBandwidth = 255 ∧ 2 ≤ index ∧ index ≤ l850glL850CaMaxSlots
  | .inactive index ulEarfcn =>
    2 ≤ index ∧ index ≤ l850glL850CaMaxSlots ∧ ulEarfcn ≤ caLteEarfcnMax

def index : CaRecord → Nat
  | .primary .. => 1
  | .secondary index _ => index
  | .inactive index _ => index

def active : CaRecord → Bool
  | .inactive .. => false
  | _ => true

def ulEarfcn : CaRecord → Nat
  | .primary _ _ _ _ v => v.ulEarfcn
  | .secondary _ v => v.ulEarfcn
  | .inactive _ ulEarfcn => ulEarfcn

/-- The unsigned values in the order of the fields. -/
def unsigned : CaRecord → List Nat
  | .primary mcc mnc tac cellId v =>
    [1,v.band,mcc,mnc,tac,cellId,v.pci,v.rsrp,v.rsrq,v.dlEarfcn,v.ulEarfcn,v.dlBandwidth,
      v.ulBandwidth]
  | .secondary index v =>
    [index,v.band,v.pci,v.rsrp,v.rsrq,v.dlEarfcn,v.ulEarfcn,v.dlBandwidth,v.ulBandwidth]
  | .inactive index ulEarfcn => [index,255,65535,255,255,65535,ulEarfcn,255,255]

def sinr : CaRecord → Int
  | .primary _ _ _ _ v => v.sinr
  | .secondary _ v => v.sinr
  | .inactive .. => 127

def signedIndex : CaRecord → Nat
  | .primary .. => 9
  | _ => 5

/-- The fields of a line write the values of a record. -/
def WrittenAs (r : CaRecord) (fields : List CString) : Prop :=
  List.Forall₂ DecimalField (fields.eraseIdx r.signedIndex) r.unsigned ∧
    ∃ field, fields[r.signedIndex]? = some field ∧ SignedDecimalField field r.sinr

end CaRecord

def tenthsMhz (code : Nat) : Nat := [14,30,50,100,150,200].getD code 0

/-- The values of a carrier, decoded onto what the record's shape says besides. -/
def CaValues.decode (v : CaValues) (carrier : CaCarrier) (uplinkActive : Bool)
    (ulTenthsMhz : Nat) : CaCarrier :=
  { carrier with
    band := v.band, pci := v.pci, rsrpDbm := (v.rsrp : Int)-141,
    rsrqTenthsDb := (v.rsrq : Int)*5-195, sinrAvailable := v.sinr != 127,
    sinrTenthsDb := if v.sinr != 127 then v.sinr*5 else 0, dlEarfcn := v.dlEarfcn,
    ulEarfcn := v.ulEarfcn, dlBandwidthTenthsMhz := tenthsMhz v.dlBandwidth,
    uplinkActive := uplinkActive, ulBandwidthTenthsMhz := ulTenthsMhz }

/-- The carrier that a record stands for. -/
def CaRecord.carrier : CaRecord → CaCarrier
  | .primary mcc mnc tac cellId v =>
    { v.decode .zero true (tenthsMhz v.ulBandwidth) with
      index := 1, primary := true, hasCellIdentity := true, mcc := mcc, mnc := mnc, tac := tac,
      cellId := cellId }
  | .secondary index v => { v.decode .zero false 0 with index := index }
  | .inactive index ulEarfcn => { CaCarrier.zero with index := index, ulEarfcn := ulEarfcn }

/-- A line that announces a number of slots. -/
def HeaderLine (line : CString) (declaredSlots : Nat) : Prop :=
  ∃ body field, line = caPrefix++body ∧ Fields isBlank ',' body [field] ∧
    DecimalField field declaredSlots ∧ 1 ≤ declaredSlots ∧ declaredSlots ≤ l850glL850CaMaxSlots

/-- A line that describes a slot. -/
def RecordLine (line : CString) (r : CaRecord) : Prop :=
  ∃ body fields, line = caPrefix++body ∧ Fields isBlank ',' body fields ∧
    r.WrittenAs fields ∧ r.Valid

theorem parseUint32Decimal_iff {field : CString} {n : Nat} :
    parseUint32Decimal field = some n ↔ DecimalField field n := by
  unfold parseUint32Decimal
  split
  · simp [DecimalField]
  · rename_i hne
    rw [accumulate_decimal_iff (by decide)]
    exact ⟨fun h => ⟨hne,h⟩,fun h => h.2⟩

theorem not_digits_minus {digits : CString} {n : Nat} :
    ¬Digits decimalDigit 10 0 ('-'::digits) n := by
  intro h
  obtain ⟨d,hd,-⟩ := digits_cons.mp h
  simp [show decimalDigit '-' = none by decide] at hd

theorem parseInt32Decimal_iff {field : CString} {z : Int} :
    parseInt32Decimal field = some z ↔ SignedDecimalField field z := by
  unfold parseInt32Decimal
  split
  · simp [SignedDecimalField]
  · simp [SignedDecimalField,not_digits_minus]
  · rename_i digits hdigits
    simp only [Option.map_eq_some_iff,accumulate_decimal_iff (show 15 ≤ int32Max+1 by decide)]
    constructor
    · rintro ⟨n,⟨h,hn⟩,rfl⟩
      exact Or.inr ⟨digits,n,rfl,hdigits,h,hn,rfl⟩
    · rintro (⟨n,-,h,-⟩ | ⟨_,n,hfield,-,h,hn,rfl⟩)
      · exact absurd h not_digits_minus
      · simp only [List.cons.injEq,true_and] at hfield
        subst hfield
        exact ⟨n,⟨h,hn⟩,rfl⟩
  · rename_i hne hminus hother
    simp only [Option.map_eq_some_iff,accumulate_decimal_iff (show 15 ≤ int32Max by decide)]
    constructor
    · rintro ⟨n,⟨h,hn⟩,rfl⟩
      exact Or.inl ⟨n,hne,h,hn,rfl⟩
    · rintro (⟨n,-,h,hn,rfl⟩ | ⟨digits,n,hfield,-⟩)
      · exact ⟨n,⟨h,hn⟩,rfl⟩
      · exact absurd hfield (hother digits)

theorem parseRecordFields_iff {k : Nat} {fields : List CString} {values : List Nat} {sinr : Int} :
    parseRecordFields k fields = some (values,sinr) ↔
      List.Forall₂ DecimalField (fields.eraseIdx k) values ∧
        ∃ field, fields[k]? = some field ∧ SignedDecimalField field sinr := by
  have hread : ∀ (fields : List CString) (values : List Nat),
      List.Forall₂ (fun a b => parseUint32Decimal a = some b) fields values ↔
        List.Forall₂ DecimalField fields values := by
    intro fields values
    have h : (fun a b => parseUint32Decimal a = some b) = DecimalField := by
      funext a b
      exact propext parseUint32Decimal_iff
    rw [h]
  simp only [parseRecordFields,Option.bind_eq_bind,Option.bind_eq_some_iff,Option.pure_def,
    Option.some.injEq,Prod.mk.injEq,mapM_eq_some_iff,hread]
  constructor
  · rintro ⟨_,hvalues,_,hsinr,rfl,rfl⟩
    refine ⟨hvalues,?_⟩
    cases hk : fields[k]? with
    | none => simp [List.getD_eq_getElem?_getD,hk,parseInt32Decimal] at hsinr
    | some field =>
      simp only [List.getD_eq_getElem?_getD,hk,Option.getD_some] at hsinr
      exact ⟨field,rfl,parseInt32Decimal_iff.mp hsinr⟩
  · rintro ⟨hvalues,field,hk,hsinr⟩
    refine ⟨values,hvalues,sinr,?_,rfl,rfl⟩
    simpa [List.getD_eq_getElem?_getD,hk] using parseInt32Decimal_iff.mpr hsinr

theorem caBandRanges_unique :
    ∀ a ∈ caBandRanges, ∀ b ∈ caBandRanges, a.band = b.band → a = b := by decide

theorem findBandRange_iff {band : Nat} {range : CaBandRange} :
    findBandRange band = some range ↔ range ∈ caBandRanges ∧ range.band = band := by
  constructor
  · intro h
    exact ⟨List.mem_of_find?_eq_some h,by simpa using List.find?_some h⟩
  · rintro ⟨hrange,hband⟩
    cases hfind : findBandRange band with
    | none =>
      have := List.find?_eq_none.mp hfind range hrange
      simp [hband] at this
    | some other =>
      have h₁ := List.mem_of_find?_eq_some hfind
      have h₂ : other.band = band := by simpa using List.find?_some hfind
      rw [caBandRanges_unique other h₁ range hrange (h₂.trans hband.symm)]

theorem bandDownlinkEarfcnIsValid_iff {band dlEarfcn : Nat} :
    bandDownlinkEarfcnIsValid band dlEarfcn = true ↔ InDownlink band dlEarfcn := by
  simp only [bandDownlinkEarfcnIsValid,Option.any_eq_true,findBandRange_iff,Bool.and_eq_true,
    decide_eq_true_eq,InDownlink]
  constructor
  · rintro ⟨range,⟨hrange,hband⟩,h⟩
    exact ⟨range,hrange,hband,h⟩
  · rintro ⟨range,hrange,hband,h⟩
    exact ⟨range,⟨hrange,hband⟩,h⟩

theorem bandUplinkEarfcnIsValid_iff {band ulEarfcn : Nat} :
    bandUplinkEarfcnIsValid band ulEarfcn = true ↔ InUplink band ulEarfcn := by
  simp only [bandUplinkEarfcnIsValid,Option.any_eq_true,findBandRange_iff,Bool.and_eq_true,
    decide_eq_true_eq,InUplink]
  constructor
  · rintro ⟨range,⟨hrange,hband⟩,h⟩
    exact ⟨range,hrange,hband,h⟩
  · rintro ⟨range,hrange,hband,h⟩
    exact ⟨range,⟨hrange,hband⟩,h⟩

theorem bandwidthCodeToTenthsMhz_iff {code tenths : Nat} :
    bandwidthCodeToTenthsMhz code = some tenths ↔ code < 6 ∧ tenths = tenthsMhz code := by
  constructor
  · intro h
    obtain ⟨hlt,-⟩ := List.getElem?_eq_some_iff.mp h
    have h₁ : [14,30,50,100,150,200][code]? = some tenths := h
    refine ⟨hlt,?_⟩
    simp [tenthsMhz,List.getD_eq_getElem?_getD,h₁]
  · rintro ⟨hlt,rfl⟩
    have h₁ : code < [14,30,50,100,150,200].length := hlt
    simp [bandwidthCodeToTenthsMhz,tenthsMhz,List.getD_eq_getElem?_getD,
      List.getElem?_eq_getElem h₁]

theorem inDownlink_bounds {band dlEarfcn : Nat} (h : InDownlink band dlEarfcn) :
    1 ≤ band ∧ band ≤ 85 ∧ dlEarfcn ≠ 65535 := by
  obtain ⟨range,hrange,rfl,hfirst,hlast⟩ := h
  have hall : ∀ range ∈ caBandRanges, 1 ≤ range.band ∧ range.band ≤ 85 ∧
      (range.dlLast < 65535 ∨ 65535 < range.dlFirst) := by decide
  have := hall range hrange
  omega

theorem inUplink_bounds {band ulEarfcn : Nat} (h : InUplink band ulEarfcn) :
    ulEarfcn ≠ 65535 ∧ ulEarfcn ≤ caLteEarfcnMax := by
  obtain ⟨range,hrange,rfl,hfirst,hlast⟩ := h
  have hall : ∀ range ∈ caBandRanges, (range.ulLast < 65535 ∨ 65535 < range.ulFirst) ∧
      range.ulLast ≤ caLteEarfcnMax := by decide
  have := hall range hrange
  omega

/-- The two band tables agree on the downlink. -/
theorem earfcnToBand_of_inDownlink {band dlEarfcn : Nat} (h : InDownlink band dlEarfcn) :
    l850glL850EarfcnToBand dlEarfcn = some band := by
  obtain ⟨range,hrange,rfl,hfirst,hlast⟩ := h
  have hall : ∀ range ∈ caBandRanges, ∃ r ∈ earfcnRanges, r.band = range.band ∧
      r.first ≤ range.dlFirst ∧ range.dlLast ≤ r.last := by decide
  obtain ⟨r,hr,hband,hfirst',hlast'⟩ := hall range hrange
  exact l850glL850EarfcnToBand_iff.mpr ⟨r,hr,by omega,by omega,hband⟩

theorem validateCommonCarrier_iff {v : CaValues} {carrier result : CaCarrier}
    {allowInactiveUplink allowUnavailableSinr : Bool} :
    validateCommonCarrier carrier v.band v.pci v.rsrp v.rsrq v.sinr v.dlEarfcn v.ulEarfcn
        v.dlBandwidth v.ulBandwidth allowInactiveUplink allowUnavailableSinr = .ok result ↔
      v.InRange ∧
      (-100 ≤ v.sinr ∧ v.sinr ≤ 100 ∨ v.sinr = 127 ∧ allowUnavailableSinr = true) ∧
      v.ulEarfcn ≠ 65535 ∧
      (v.ulBandwidth = 255 ∧ allowInactiveUplink = true ∧ result = v.decode carrier false 0 ∨
        InUplink v.band v.ulEarfcn ∧ v.ulBandwidth < 6 ∧
          result = v.decode carrier true (tenthsMhz v.ulBandwidth)) := by
  constructor
  · intro h
    unfold validateCommonCarrier at h
    split at h
    · cases h
    rename_i hsentinel
    split at h
    · cases h
    rename_i hrange
    simp only [not_or] at hsentinel hrange
    have hdown : InDownlink v.band v.dlEarfcn :=
      bandDownlinkEarfcnIsValid_iff.mp (by simpa using hrange.2.2.2.2.2.2)
    split at h
    · cases h
    rename_i dlTenths hdl
    obtain ⟨hdlcode,rfl⟩ := bandwidthCodeToTenthsMhz_iff.mp hdl
    have hin : v.InRange := ⟨hdown,by omega,by omega,by omega,hdlcode⟩
    have hsinr : -100 ≤ v.sinr ∧ v.sinr ≤ 100 ∨ v.sinr = 127 ∧ allowUnavailableSinr = true := by
      have h₁ := hsentinel.2.2.2.2.1
      have h₂ := hrange.2.2.2.2.2.1
      by_cases h127 : v.sinr = 127
      · right
        exact ⟨h127,by simpa [h127] using h₁⟩
      · omega
    refine ⟨hin,hsinr,by omega,?_⟩
    simp only at h
    split at h
    · rename_i hul
      split at h
      · rename_i hallow
        exact Or.inl ⟨hul,hallow,(Except.ok.inj h).symm⟩
      · cases h
    split at h
    · cases h
    rename_i hul
    split at h
    · cases h
    · rename_i ulTenths hulcode
      obtain ⟨hcode,rfl⟩ := bandwidthCodeToTenthsMhz_iff.mp hulcode
      have hup := bandUplinkEarfcnIsValid_iff.mp (by simpa using hul)
      exact Or.inr ⟨hup,hcode,(Except.ok.inj h).symm⟩
  · rintro ⟨⟨hdown,hpci,hrsrp,hrsrq,hcode⟩,hsinr,hul,hend⟩
    have hb := inDownlink_bounds hdown
    have hsentinel : ¬(v.band = 255 ∨ v.pci = 65535 ∨ v.rsrp = 255 ∨ v.rsrq = 255 ∨
        (v.sinr = 127 ∧ allowUnavailableSinr = false) ∨ v.sinr = 255 ∨ v.dlEarfcn = 65535 ∨
        v.ulEarfcn = 65535 ∨ v.dlBandwidth = 255) := by
      rcases hsinr with h | ⟨h,hallow⟩
      · omega
      · simp only [hallow,Bool.true_eq_false,and_false,false_or]
        omega
    have hrange : ¬(v.band = 0 ∨ v.band > 85 ∨ v.pci > 503 ∨ v.rsrp > 97 ∨ v.rsrq > 34 ∨
        (v.sinr ≠ 127 ∧ (v.sinr < -100 ∨ v.sinr > 100)) ∨
        bandDownlinkEarfcnIsValid v.band v.dlEarfcn = false) := by
      rw [bandDownlinkEarfcnIsValid_iff.mpr hdown]
      simp only [Bool.true_eq_false,or_false]
      omega
    unfold validateCommonCarrier
    rw [if_neg hsentinel,if_neg hrange,bandwidthCodeToTenthsMhz_iff.mpr ⟨hcode,rfl⟩]
    simp only
    rcases hend with ⟨hulcode,hallow,rfl⟩ | ⟨hup,hulcode,rfl⟩
    · rw [if_pos hulcode,if_pos hallow]
      rfl
    · have hup' : ¬bandUplinkEarfcnIsValid v.band v.ulEarfcn = false := by
        simp [bandUplinkEarfcnIsValid_iff.mpr hup]
      rw [if_neg (by omega),if_neg hup',bandwidthCodeToTenthsMhz_iff.mpr ⟨hulcode,rfl⟩]
      rfl

/-- The checks on the values of a primary record, each with the value it reads. -/
theorem parsePrimaryRecord_values {fields : List CString} {index mcc mnc tac cellId : Nat}
    {v : CaValues} (h : parseRecordFields 9 fields = some ([index,v.band,mcc,mnc,tac,cellId,v.pci,
      v.rsrp,v.rsrq,v.dlEarfcn,v.ulEarfcn,v.dlBandwidth,v.ulBandwidth],v.sinr)) :
    parsePrimaryRecord fields =
      if index ≠ 1 then .error .range
      else if mcc = 65535 ∨ tac = 65535 then .error .sentinel
      else if mcc = 0 ∨ mcc > 999 ∨ mnc > 999 ∨ tac > 65535 ∨ cellId > caCellIdMax then
        .error .range
      else match validateCommonCarrier .zero v.band v.pci v.rsrp v.rsrq v.sinr v.dlEarfcn
          v.ulEarfcn v.dlBandwidth v.ulBandwidth false false with
        | .error result => .error result
        | .ok carrier => .ok { carrier with
            index := 1, primary := true, hasCellIdentity := true, mcc := mcc, mnc := mnc,
            tac := tac, cellId := cellId } := by
  rw [parsePrimaryRecord,h]
  rfl

/-- The values that the fields of a primary line write. -/
theorem exists_primary_values {fields : List CString} {values : List Nat} {sinr : Int}
    (hlength : fields.length = caPrimaryFieldCount)
    (h : parseRecordFields 9 fields = some (values,sinr)) :
    ∃ index mcc mnc tac cellId, ∃ v : CaValues, v.sinr = sinr ∧
      values = [index,v.band,mcc,mnc,tac,cellId,v.pci,v.rsrp,v.rsrq,v.dlEarfcn,v.ulEarfcn,
        v.dlBandwidth,v.ulBandwidth] := by
  have hvalues := (parseRecordFields_iff.mp h).1.length_eq
  have h₁ : 9 < fields.length := by simp [hlength,caPrimaryFieldCount]
  rw [List.length_eraseIdx_of_lt h₁,hlength] at hvalues
  match values, hvalues with
  | [index,band,mcc,mnc,tac,cellId,pci,rsrp,rsrq,dl,ul,dlbw,ulbw], _ =>
    exact ⟨index,mcc,mnc,tac,cellId,⟨band,pci,rsrp,rsrq,sinr,dl,ul,dlbw,ulbw⟩,rfl,rfl⟩

theorem parsePrimaryRecord_iff {fields : List CString} {carrier : CaCarrier}
    (hlength : fields.length = caPrimaryFieldCount) :
    parsePrimaryRecord fields = .ok carrier ↔ ∃ mcc mnc tac cellId v,
      (CaRecord.primary mcc mnc tac cellId v).WrittenAs fields ∧
      (CaRecord.primary mcc mnc tac cellId v).Valid ∧
      carrier = (CaRecord.primary mcc mnc tac cellId v).carrier := by
  constructor
  · intro h
    cases hread : parseRecordFields 9 fields with
    | none => simp [parsePrimaryRecord,hread] at h
    | some read =>
      obtain ⟨values,sinr⟩ := read
      obtain ⟨index,mcc,mnc,tac,cellId,v,rfl,rfl⟩ := exists_primary_values hlength hread
      rw [parsePrimaryRecord_values hread] at h
      split at h
      · cases h
      rename_i hindex
      have hindex' : index = 1 := by omega
      subst hindex'
      split at h
      · cases h
      rename_i hsentinel
      split at h
      · cases h
      rename_i hrange
      split at h
      · cases h
      rename_i result hvalid
      obtain ⟨hin,hsinr,-,hend⟩ := validateCommonCarrier_iff.mp hvalid
      have hsinr' : -100 ≤ v.sinr ∧ v.sinr ≤ 100 := by simpa using hsinr
      have hend' : InUplink v.band v.ulEarfcn ∧ v.ulBandwidth < 6 ∧
          result = v.decode .zero true (tenthsMhz v.ulBandwidth) := by simpa using hend
      refine ⟨mcc,mnc,tac,cellId,v,parseRecordFields_iff.mp hread,?_,?_⟩
      · exact ⟨hin,hsinr',hend'.1,hend'.2.1,by omega,by omega,by omega,by omega⟩
      · rw [← Except.ok.inj h,hend'.2.2]
        rfl
  · rintro ⟨mcc,mnc,tac,cellId,v,hwritten,hvalid,rfl⟩
    obtain ⟨hin,hsinr,hup,hcode,hmcc,hmnc,htac,hcell⟩ := hvalid
    have hread : parseRecordFields 9 fields = some _ := parseRecordFields_iff.mpr hwritten
    have hcommon := (@validateCommonCarrier_iff v .zero
      (v.decode .zero true (tenthsMhz v.ulBandwidth)) false false).mpr
        ⟨hin,Or.inl hsinr,(inUplink_bounds hup).1,Or.inr ⟨hup,hcode,rfl⟩⟩
    rw [parsePrimaryRecord_values hread,if_neg (by omega),if_neg (by omega),if_neg (by omega),
      hcommon]
    rfl

/-- The checks on the values of a secondary record, each with the value it reads. -/
theorem parseSecondaryRecord_values {fields : List CString} {index : Nat} {v : CaValues}
    (h : parseRecordFields 5 fields = some ([index,v.band,v.pci,v.rsrp,v.rsrq,v.dlEarfcn,
      v.ulEarfcn,v.dlBandwidth,v.ulBandwidth],v.sinr)) :
    parseSecondaryRecord fields =
      if index < 2 ∨ index > l850glL850CaMaxSlots then .error .range
      else if v.band = 255 ∧ v.pci = 65535 ∧ v.rsrp = 255 ∧ v.rsrq = 255 ∧ v.sinr = 127 ∧
          v.dlEarfcn = 65535 ∧ v.dlBandwidth = 255 ∧ v.ulBandwidth = 255 then
        if v.ulEarfcn > caLteEarfcnMax then .error .sentinel
        else .ok (index,false,{ CaCarrier.zero with index := index, ulEarfcn := v.ulEarfcn })
      else match validateCommonCarrier .zero v.band v.pci v.rsrp v.rsrq v.sinr v.dlEarfcn
          v.ulEarfcn v.dlBandwidth v.ulBandwidth true true with
        | .error result => .error result
        | .ok carrier =>
          if carrier.uplinkActive then .error .range
          else .ok (index,true,{ carrier with index := index }) := by
  rw [parseSecondaryRecord,h]
  rfl

theorem exists_secondary_values {fields : List CString} {values : List Nat} {sinr : Int}
    (hlength : fields.length = caSecondaryFieldCount)
    (h : parseRecordFields 5 fields = some (values,sinr)) :
    ∃ index, ∃ v : CaValues, v.sinr = sinr ∧
      values = [index,v.band,v.pci,v.rsrp,v.rsrq,v.dlEarfcn,v.ulEarfcn,v.dlBandwidth,
        v.ulBandwidth] := by
  have hvalues := (parseRecordFields_iff.mp h).1.length_eq
  have h₁ : 5 < fields.length := by simp [hlength,caSecondaryFieldCount]
  rw [List.length_eraseIdx_of_lt h₁,hlength] at hvalues
  match values, hvalues with
  | [index,band,pci,rsrp,rsrq,dl,ul,dlbw,ulbw], _ =>
    exact ⟨index,⟨band,pci,rsrp,rsrq,sinr,dl,ul,dlbw,ulbw⟩,rfl,rfl⟩

theorem parseSecondaryRecord_iff {fields : List CString} {index : Nat} {active : Bool}
    {carrier : CaCarrier} (hlength : fields.length = caSecondaryFieldCount) :
    parseSecondaryRecord fields = .ok (index,active,carrier) ↔ ∃ r : CaRecord,
      r.signedIndex = 5 ∧ r.WrittenAs fields ∧ r.Valid ∧ index = r.index ∧ active = r.active ∧
      carrier = r.carrier := by
  constructor
  · intro h
    cases hread : parseRecordFields 5 fields with
    | none => simp [parseSecondaryRecord,hread] at h
    | some read =>
      obtain ⟨values,sinr⟩ := read
      obtain ⟨slot,v,rfl,rfl⟩ := exists_secondary_values hlength hread
      have hwritten := parseRecordFields_iff.mp hread
      rw [parseSecondaryRecord_values hread] at h
      split at h
      · cases h
      rename_i hslot
      split at h
      · rename_i hshape
        split at h
        · cases h
        rename_i hul
        simp only [Except.ok.injEq,Prod.mk.injEq] at h
        obtain ⟨rfl,rfl,rfl⟩ := h
        obtain ⟨h₁,h₂,h₃,h₄,h₅,h₆,h₇,h₈⟩ := hshape
        refine ⟨.inactive slot v.ulEarfcn,rfl,?_,⟨by omega,by omega,by omega⟩,rfl,rfl,rfl⟩
        rw [h₁,h₂,h₃,h₄,h₅,h₆,h₇,h₈] at hwritten
        exact hwritten
      split at h
      · cases h
      rename_i result hvalid
      obtain ⟨hin,hsinr,hul,hend⟩ := validateCommonCarrier_iff.mp hvalid
      split at h
      · cases h
      rename_i huplink
      simp only [Except.ok.injEq,Prod.mk.injEq] at h
      obtain ⟨rfl,rfl,rfl⟩ := h
      rcases hend with ⟨hcode,-,rfl⟩ | ⟨-,-,rfl⟩
      · refine ⟨.secondary slot v,rfl,hwritten,⟨hin,?_,hul,hcode,by omega,by omega⟩,rfl,rfl,rfl⟩
        simpa using hsinr
      · exact absurd rfl huplink
  · rintro ⟨r,hsigned,hwritten,hvalid,rfl,rfl,rfl⟩
    cases r with
    | primary mcc mnc tac cellId v => cases hsigned
    | secondary slot v =>
      obtain ⟨hin,hsinr,hul,hcode,hlow,hhigh⟩ := hvalid
      have hread : parseRecordFields 5 fields = some _ := parseRecordFields_iff.mpr hwritten
      have hcommon := (@validateCommonCarrier_iff v .zero (v.decode .zero false 0) true true).mpr
        ⟨hin,by simpa using hsinr,hul,Or.inl ⟨hcode,rfl,rfl⟩⟩
      have hb := inDownlink_bounds hin.downlink
      rw [parseSecondaryRecord_values hread,if_neg (by omega),if_neg (by omega),hcommon]
      rfl
    | inactive slot ulEarfcn =>
      obtain ⟨hlow,hhigh,hul⟩ := hvalid
      have hread : parseRecordFields 5 fields = some _ := parseRecordFields_iff.mpr hwritten
      have hshape := @parseSecondaryRecord_values fields slot
        ⟨255,65535,255,255,127,65535,ulEarfcn,255,255⟩ hread
      rw [hshape,if_neg (by omega),if_pos (by simp),if_neg (by simpa using hul)]
      rfl

end Ca
end L850GL
