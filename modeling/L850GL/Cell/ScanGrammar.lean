import L850GL.Cell.Bands
import L850GL.Cell.Numerals

/-! The cell scan parser accepts exactly the texts of its grammar. -/
namespace L850GL
namespace Cell

open Text TextFormat

/-- The values of a `+XMCI:` record. -/
structure CellRecord where
  type : Nat
  mcc : Nat
  mnc : Nat
  tac : Nat
  cellId : Nat
  pci : Nat
  earfcn : Nat
  ulEarfcn : Nat
  pathloss : Nat
  rsrp : Nat
  rsrq : Nat
  rssnr : Int
  timingAdvance : Nat
  cqi : Nat

def CellRecord.unsigned (r : CellRecord) : List Nat :=
  [r.type,r.mcc,r.mnc,r.tac,r.cellId,r.pci,r.earfcn,r.ulEarfcn,r.pathloss,r.rsrp,r.rsrq,
    r.timingAdvance,r.cqi]

/-- Fourteen fields write the values, the twelfth one the signed value. -/
def CellRecord.WrittenAs (r : CellRecord) (fields : List CString) : Prop :=
  List.Forall₂ UnsignedField (fields.eraseIdx 11) r.unsigned ∧
    ∃ field, fields[11]? = some field ∧ SignedField field r.rssnr

structure CellRecord.InRange (r : CellRecord) : Prop where
  type : r.type = 4 ∨ r.type = 5
  mcc : r.mcc ≤ 999
  mnc : r.mnc ≤ 999
  tac : r.tac ≤ 65535
  cellId : r.cellId ≤ 0x0fffffff ∨ r.cellId = uint32Max
  pci : r.pci ≤ 503
  ulEarfcn : r.ulEarfcn ≤ 262143 ∨ r.ulEarfcn = uint32Max
  pathloss : r.pathloss ≤ 254 ∨ r.pathloss = uint32Max
  rsrp : r.rsrp ≤ 97
  rsrq : r.rsrq ≤ 34
  rssnr : -255 ≤ r.rssnr ∧ r.rssnr ≤ 255
  timingAdvance : r.timingAdvance ≤ 1282 ∨ r.timingAdvance = int32Max
  cqi : r.cqi ≤ 15

def CellRecord.cell (r : CellRecord) (band : Nat) : L850Cell :=
  ⟨r.type,r.type == 4,r.earfcn,r.pci,band,(r.rsrp : Int)-141,(r.rsrq : Int)*5-195⟩

/-- A line that holds a record of a cell. -/
def RecordLine (line : CString) (cell : L850Cell) : Prop :=
  ∃ body fields r band, line = "+XMCI:".toList++body ∧ Fields isBlank ',' body fields ∧
    CellRecord.WrittenAs r fields ∧ CellRecord.InRange r ∧ InBand r.earfcn band ∧
    cell = r.cell band

/-- The texts of a scan: records one to a line, then at most one line `OK`. -/
def ScanText (response : CString) (cells : List L850Cell) : Prop :=
  ∃ records, (LaidOut isBlank '\n' '\r' response records ∨
      LaidOut isBlank '\n' '\r' response (records++["OK".toList])) ∧
    1 ≤ records.length ∧ records.length ≤ l850glL850CellMaxResults ∧
    List.Forall₂ RecordLine records cells ∧ servingCount cells ≤ 1

theorem parseCellFields_iff {fields : List CString} {v : List Nat} {rssnr : Int}
    (hfields : ∀ field ∈ fields, Tight isBlank field) :
    parseCellFields fields = some (v,rssnr) ↔
      List.Forall₂ UnsignedField (fields.eraseIdx 11) v ∧
        ∃ field, fields[11]? = some field ∧ SignedField field rssnr := by
  have hunsigned : ∀ (fields : List CString) (v : List Nat),
      (∀ field ∈ fields, Tight isBlank field) →
      ((∃ tokens, List.Forall₂ (fun a b => unquoteNumericToken a = some b) fields tokens ∧
        List.Forall₂ (fun a b => parseUint32 a = some b) tokens v) ↔
          List.Forall₂ UnsignedField fields v) := by
    intro fields v hfields
    rw [exists_forall₂_comp_iff]
    induction fields generalizing v with
    | nil => cases v <;> simp
    | cons field fields ih =>
      cases v with
      | nil => simp
      | cons n v =>
        simp only [List.forall₂_cons]
        rw [ih v (fun f hf => hfields f (by simp [hf])),
          unsignedField_iff (hfields field (by simp))]
  have herase : ∀ field ∈ fields.eraseIdx 11, Tight isBlank field := fun field hf =>
    hfields field (List.mem_of_mem_eraseIdx hf)
  simp only [parseCellFields,Option.bind_eq_bind,Option.bind_eq_some_iff,Option.pure_def,
    Option.some.injEq,Prod.mk.injEq,mapM_eq_some_iff]
  constructor
  · rintro ⟨tokens,htokens,_,hv,_,hr,rfl,rfl⟩
    have hk : tokens[11]? = some (tokens.getD 11 []) := by
      cases htok : tokens[11]? with
      | none =>
        simp [List.getD_eq_getElem?_getD,htok,parseInt32,parseMagnitude] at hr
      | some token => simp [List.getD_eq_getElem?_getD,htok]
    obtain ⟨h₁,field,hfield,htoken⟩ := exists_forall₂_eraseIdx_iff.mp ⟨tokens,htokens,rfl,hk⟩
    refine ⟨(hunsigned _ _ herase).mp ⟨_,h₁,hv⟩,field,hfield,?_⟩
    exact (signedField_iff (hfields field (List.mem_of_getElem? hfield))).mp ⟨_,htoken,hr⟩
  · rintro ⟨hv,field,hfield,hr⟩
    obtain ⟨inner,h₁,h₂⟩ := (hunsigned _ _ herase).mpr hv
    obtain ⟨token,htoken,hr⟩ :=
      (signedField_iff (hfields field (List.mem_of_getElem? hfield))).mpr hr
    obtain ⟨tokens,htokens,rfl,hk⟩ := exists_forall₂_eraseIdx_iff.mpr ⟨h₁,field,hfield,htoken⟩
    refine ⟨tokens,htokens,v,h₂,rssnr,?_,rfl,rfl⟩
    simpa [List.getD_eq_getElem?_getD,hk] using hr

/-- The checks on the values of a record, each with the value it reads. -/
theorem decodeCell_record (r : CellRecord) :
    decodeCell r.unsigned r.rssnr =
      if r.type ≠ 4 ∧ r.type ≠ 5 then .error .unsupportedType
      else if r.pci = uint32Max ∨ r.earfcn = uint32Max ∨ r.rsrp = 255 ∨ r.rsrq = 255 then
        .error .sentinel
      else if r.pci > 503 then .error .range
      else match l850glL850EarfcnToBand r.earfcn with
        | none => .error .range
        | some band =>
          if r.mcc > 999 ∨ r.mnc > 999 ∨ r.tac > 65535 ∨
              (r.cellId > 0x0fffffff ∧ r.cellId ≠ uint32Max) ∨
              (r.ulEarfcn > 262143 ∧ r.ulEarfcn ≠ uint32Max) ∨
              (r.pathloss > 254 ∧ r.pathloss ≠ uint32Max) ∨
              r.rsrp > 97 ∨ r.rsrq > 34 ∨ (r.rssnr < -255 ∨ r.rssnr > 255) ∨
              (r.timingAdvance > 1282 ∧ r.timingAdvance ≠ int32Max) ∨ r.cqi > 15 then
            .error .range
          else .ok (r.cell band) := rfl

theorem decodeCell_iff {r : CellRecord} {cell : L850Cell} :
    decodeCell r.unsigned r.rssnr = .ok cell ↔
      r.InRange ∧ ∃ band, InBand r.earfcn band ∧ cell = r.cell band := by
  rw [decodeCell_record]
  constructor
  · intro h
    split at h
    · cases h
    rename_i htype
    split at h
    · cases h
    split at h
    · cases h
    rename_i hpci
    cases hband : l850glL850EarfcnToBand r.earfcn with
    | none => simp [hband] at h
    | some band =>
      simp only [hband] at h
      split at h
      · cases h
      rename_i hrange
      simp only [Except.ok.injEq] at h
      refine ⟨?_,band,l850glL850EarfcnToBand_iff.mp hband,h.symm⟩
      constructor <;> omega
  · rintro ⟨hr,band,hband,rfl⟩
    obtain ⟨htype,hmcc,hmnc,htac,hcell,hpci,hul,hpath,hrsrp,hrsrq,hrssnr,hta,hcqi⟩ := hr
    have hearfcn := inBand_earfcn_le hband
    have hmax : uint32Max = 4294967295 := rfl
    rw [if_neg (by omega),if_neg (by omega),if_neg (by omega),
      l850glL850EarfcnToBand_iff.mpr hband]
    simp only
    rw [if_neg (by omega)]

theorem unsigned_length (r : CellRecord) : r.unsigned.length = 13 := rfl

theorem exists_unsigned {v : List Nat} (rssnr : Int) (h : v.length = 13) :
    ∃ r : CellRecord, r.unsigned = v ∧ r.rssnr = rssnr := by
  match v, h with
  | [a,b,c,d,e,f,g,i,j,k,l,m,n], _ => exact ⟨⟨a,b,c,d,e,f,g,i,j,k,l,rssnr,m,n⟩,rfl,rfl⟩

theorem unsignedField_nil (n : Nat) : ¬UnsignedField [] n := by
  rintro ⟨text,h,htext,-⟩
  rcases h with h | h
  · exact htext.chars.1 h.symm
  · simp at h

theorem signedField_nil (z : Int) : ¬SignedField [] z := by
  rintro ⟨text,h,htext⟩
  rcases h with h | h
  · exact htext.plain.1 h.symm
  · simp at h

theorem writtenAs_length {r : CellRecord} {fields : List CString} (h : r.WrittenAs fields) :
    fields.length = lteFieldCount := by
  obtain ⟨h₁,field,hfield,-⟩ := h
  have h₂ := h₁.length_eq
  have h₃ : 11 < fields.length := (List.getElem?_eq_some_iff.mp hfield).choose
  rw [List.length_eraseIdx_of_lt h₃,unsigned_length] at h₂
  simp only [lteFieldCount]
  omega

theorem nil_notMem_of_writtenAs {r : CellRecord} {fields : List CString}
    (h : r.WrittenAs fields) : [] ∉ fields := by
  obtain ⟨h₁,field,hfield,hsigned⟩ := h
  apply notMem_of_forall₂_eraseIdx h₁ unsignedField_nil
  rw [hfield]
  intro hnil
  exact signedField_nil _ (Option.some.inj hnil ▸ hsigned)

theorem fields_tight {blank : Char → Bool} {sep : Char} {text : CString} {fields : List CString}
    (h : Fields blank sep text fields) : ∀ field ∈ fields, Tight blank field := by
  obtain ⟨parts,-,hparts⟩ := h
  intro field hfield
  induction hparts with
  | nil => simp at hfield
  | cons hp _ ih =>
    rcases List.mem_cons.mp hfield with rfl | hfield
    · exact hp.1
    · exact ih hfield

theorem parseCellLine_iff {line : CString} {cell : L850Cell} :
    parseCellLine line = .ok cell ↔ RecordLine line cell := by
  unfold parseCellLine
  by_cases hprefix : "+XMCI:".toList.isPrefixOf line
  · obtain ⟨body,rfl⟩ := List.isPrefixOf_iff_prefix.mp hprefix
    have hdrop : ("+XMCI:".toList++body).drop 6 = body := List.drop_left' rfl
    have hfields : ((trimAscii body).splitOn ',').map trimAscii = fields isBlank ',' body :=
      fields_trim rfl body
    rw [if_neg (by simp),hdrop,hfields]
    simp only
    have hall : Fields isBlank ',' body (fields isBlank ',' body) := fields_eq_iff.mp rfl
    constructor
    · intro h
      split at h
      · cases h
      rename_i hlen
      cases hparse : parseCellFields (fields isBlank ',' body) with
      | none => simp [hparse] at h
      | some vr =>
        obtain ⟨v,rssnr⟩ := vr
        simp only [hparse] at h
        obtain ⟨h₁,h₂⟩ := (parseCellFields_iff (fields_tight hall)).mp hparse
        have hv : v.length = 13 := by
          rw [← h₁.length_eq,List.length_eraseIdx]
          simp only [lteFieldCount] at hlen
          split <;> omega
        obtain ⟨r,rfl,rfl⟩ := exists_unsigned rssnr hv
        obtain ⟨hr,band,hband,rfl⟩ := decodeCell_iff.mp h
        exact ⟨body,_,r,band,rfl,hall,⟨h₁,h₂⟩,hr,hband,rfl⟩
    · rintro ⟨body',cores,r,band,hbody,hcores,hwritten,hr,hband,rfl⟩
      have h₁ : body = body' := List.append_cancel_left hbody
      subst h₁
      have h₂ : fields isBlank ',' body = cores := fields_eq_iff.mpr hcores
      rw [h₂]
      have h₃ : ¬(cores.length ≠ lteFieldCount ∨ [] ∈ cores) := by
        simp [writtenAs_length hwritten,nil_notMem_of_writtenAs hwritten]
      rw [if_neg h₃,(parseCellFields_iff (fields_tight hcores)).mpr hwritten]
      exact decodeCell_iff.mpr ⟨hr,band,hband,rfl⟩
  · rw [if_pos (by simpa using hprefix)]
    constructor
    · intro h
      cases h
    · rintro ⟨body,-,-,-,rfl,-⟩
      exact absurd (List.isPrefixOf_iff_prefix.mpr (List.prefix_append _ _)) hprefix

theorem not_recordLine_ok (cell : L850Cell) : ¬RecordLine "OK".toList cell := by
  rintro ⟨body,-,-,-,h,-⟩
  simp at h

/-- What the lines after `read` accepted records may hold. -/
def Remaining (okSeen servingSeen : Bool) (read : Nat) (lines : List CString)
    (cells : List L850Cell) : Prop :=
  ∃ records, (lines = records ∨ okSeen = false ∧ lines = records++["OK".toList]) ∧
    (okSeen = true → records = []) ∧ List.Forall₂ RecordLine records cells ∧
    read+cells.length ≤ l850glL850CellMaxResults ∧ servingSeen.toNat+servingCount cells ≤ 1

theorem remaining_nil {okSeen servingSeen : Bool} {read : Nat} {cells : List L850Cell}
    (hread : read ≤ l850glL850CellMaxResults) :
    Remaining okSeen servingSeen read [] cells ↔ cells = [] := by
  constructor
  · rintro ⟨records,h,-,hcells,-,-⟩
    rcases h with rfl | ⟨-,h⟩
    · exact List.forall₂_nil_left_iff.mp hcells
    · simp at h
  · rintro rfl
    refine ⟨[],Or.inl rfl,fun _ => rfl,.nil,hread,?_⟩
    cases servingSeen <;> decide

theorem remaining_ok {okSeen servingSeen : Bool} {read : Nat} {lines : List CString}
    {cells : List L850Cell} :
    Remaining okSeen servingSeen read ("OK".toList::lines) cells ↔
      okSeen = false ∧ Remaining true servingSeen read lines cells := by
  constructor
  · rintro ⟨records,h,hok,hcells,hread,hserving⟩
    have hrecords : records = [] := by
      cases hcells with
      | nil => rfl
      | cons hline _ =>
        rcases h with h | ⟨-,h⟩
        · simp only [List.cons.injEq] at h
          exact absurd (h.1 ▸ hline) (not_recordLine_ok _)
        · simp only [List.cons_append,List.cons.injEq] at h
          exact absurd (h.1 ▸ hline) (not_recordLine_ok _)
    subst hrecords
    rcases h with h | ⟨hseen,h⟩
    · simp at h
    · simp only [List.nil_append,List.cons.injEq,true_and] at h
      exact ⟨hseen,[],Or.inl h,fun _ => rfl,hcells,hread,hserving⟩
  · rintro ⟨hseen,records,h,hok,hcells,hread,hserving⟩
    have hrecords := hok rfl
    subst hrecords
    rcases h with rfl | ⟨h,-⟩
    · exact ⟨[],Or.inr ⟨hseen,rfl⟩,fun _ => rfl,hcells,hread,hserving⟩
    · cases h

theorem servingCount_cons (cell : L850Cell) (cells : List L850Cell) :
    servingCount (cell::cells) = servingCount cells+cell.serving.toNat := by
  cases hs : cell.serving <;> simp [servingCount,hs]

theorem serving_step (seen serving : Bool) (n : Nat) :
    seen.toNat+(n+serving.toNat) ≤ 1 ↔
      ¬(serving = true ∧ seen = true) ∧ (seen || serving).toNat+n ≤ 1 := by
  cases seen <;> cases serving <;> simp
  all_goals omega

theorem remaining_record {okSeen servingSeen : Bool} {read : Nat} {line : CString}
    {lines : List CString} {cells : List L850Cell} (hline : line ≠ "OK".toList) :
    Remaining okSeen servingSeen read (line::lines) cells ↔
      okSeen = false ∧ read < l850glL850CellMaxResults ∧ ∃ cell rest, cells = cell::rest ∧
        RecordLine line cell ∧ ¬(cell.serving = true ∧ servingSeen = true) ∧
        Remaining false (servingSeen || cell.serving) (read+1) lines rest := by
  constructor
  · rintro ⟨records,h,hok,hcells,hread,hserving⟩
    cases hcells with
    | nil =>
      rcases h with h | ⟨-,h⟩
      · simp at h
      · simp only [List.nil_append,List.cons.injEq] at h
        exact absurd h.1 hline
    | @cons record cell records rest hrecord hrest =>
      have hseen : okSeen = false := by
        by_contra hseen
        have := hok (by simpa using hseen)
        simp at this
      have hfirst : record = line := by
        rcases h with h | ⟨-,h⟩
        · exact ((List.cons.injEq ..).mp h).1.symm
        · exact ((List.cons.injEq ..).mp h).1.symm
      subst hfirst
      simp only [List.length_cons] at hread
      rw [servingCount_cons] at hserving
      obtain ⟨hno,hcount⟩ := (serving_step _ _ _).mp hserving
      refine ⟨hseen,by omega,cell,rest,rfl,hrecord,hno,records,?_,by simp,hrest,by omega,hcount⟩
      rcases h with h | ⟨-,h⟩
      · exact Or.inl (by simpa using h)
      · exact Or.inr ⟨rfl,by simpa using h⟩
  · rintro ⟨hseen,hread,cell,rest,rfl,hrecord,hserving,records,h,-,hrest,hlength,hcount⟩
    refine ⟨line::records,?_,?_,.cons hrecord hrest,?_,?_⟩
    · rcases h with rfl | ⟨-,rfl⟩
      · exact Or.inl rfl
      · exact Or.inr ⟨hseen,rfl⟩
    · simp [hseen]
    · simp only [List.length_cons]
      omega
    · rw [servingCount_cons]
      exact (serving_step _ _ _).mpr ⟨hserving,hcount⟩

theorem cellParseLoop_iff {rest : List CString} {okSeen servingSeen : Bool}
    {cells scan : List L850Cell} (hcells : cells.length ≤ l850glL850CellMaxResults) :
    cellParseLoop rest okSeen servingSeen cells = .ok scan ↔
      ∃ more, scan = cells++more ∧
        Remaining okSeen servingSeen cells.length (trimmed rest) more := by
  induction rest generalizing okSeen servingSeen cells with
  | nil =>
    simp only [cellParseLoop,trimmed,List.map_nil,List.filter_nil,remaining_nil hcells,
      Except.ok.injEq]
    simp [eq_comm]
  | cons line rest ih =>
    rw [cellParseLoop,trimmed_cons]
    by_cases hblank : trimAscii line = []
    · rw [if_pos hblank,if_pos hblank,ih hcells]
    rw [if_neg hblank,if_neg hblank]
    by_cases hok : trimAscii line = "OK".toList
    · rw [if_pos hok,hok]
      simp only [remaining_ok]
      cases okSeen with
      | true => simp
      | false => simpa using ih hcells
    rw [if_neg hok]
    simp only [remaining_record hok]
    by_cases hstop : okSeen = true ∨ cells.length ≥ l850glL850CellMaxResults
    · rw [if_pos hstop]
      constructor
      · intro h
        cases h
      · rintro ⟨more,-,hseen,hread,-⟩
        rcases hstop with h | h
        · simp [hseen] at h
        · omega
    rw [if_neg hstop]
    simp only [not_or,Bool.not_eq_true,not_le] at hstop
    cases hparse : parseCellLine (trimAscii line) with
    | error result =>
      constructor
      · intro h
        cases h
      · rintro ⟨more,-,-,-,cell,-,-,hrecord,-⟩
        rw [parseCellLine_iff.mpr hrecord] at hparse
        cases hparse
    | ok cell =>
      have hrecord := parseCellLine_iff.mp hparse
      simp only
      by_cases hserving : cell.serving = true ∧ servingSeen = true
      · rw [if_pos hserving]
        constructor
        · intro h
          cases h
        · rintro ⟨more,-,-,-,cell',-,-,hrecord',hno,-⟩
          have := Except.ok.inj ((parseCellLine_iff.mpr hrecord').symm.trans hparse)
          exact absurd hserving (this ▸ hno)
      · rw [if_neg hserving,ih (by simp; omega)]
        constructor
        · rintro ⟨more,rfl,hmore⟩
          refine ⟨cell::more,by simp,hstop.1,hstop.2,cell,more,rfl,hrecord,hserving,?_⟩
          simpa [hstop.1] using hmore
        · rintro ⟨more,rfl,-,-,cell',rest',rfl,hrecord',-,hrest⟩
          have := Except.ok.inj ((parseCellLine_iff.mpr hrecord').symm.trans hparse)
          subst this
          exact ⟨rest',by simp,by simpa [hstop.1] using hrest⟩

/-- An accepted scan is a text of the grammar, and its cells are those the text writes. -/
theorem l850glL850CellParse_iff {response : CString} {cells : List L850Cell}
    (hlow : 1 ≤ response.length) (hhigh : response.length ≤ l850glL850CellMaxResponse)
    (hnul : '\x00' ∉ response) :
    l850glL850CellParse response = .ok cells ↔ ScanText response cells := by
  have hne : response ≠ [] := List.ne_nil_of_length_pos (by omega)
  have hlines := lines_trimmed response
  have hloop : ∀ scan, cellParseLoop (lines response) false false [] = .ok scan ↔
      Remaining false false 0 (contents response) scan := by
    intro scan
    rw [cellParseLoop_iff (by simp),hlines]
    simp
  have hparse : l850glL850CellParse response = .ok cells ↔
      cells ≠ [] ∧ Remaining false false 0 (contents response) cells := by
    rw [← hloop,l850glL850CellParse,if_neg hne,if_neg (by omega),if_neg hnul]
    cases cellParseLoop (lines response) false false [] with
    | error result => simp [bind,Except.bind]
    | ok scan =>
      simp only [bind,Except.bind,Except.ok.injEq]
      by_cases hscan : scan = []
      · rw [if_pos hscan]
        constructor
        · intro h
          cases h
        · rintro ⟨h,rfl⟩
          exact absurd hscan h
      · rw [if_neg hscan,Except.ok.injEq]
        constructor
        · rintro rfl
          exact ⟨hscan,rfl⟩
        · exact fun h => h.2
  rw [hparse]
  constructor
  · rintro ⟨hcells,records,h,-,hrecords,hlength,hserving⟩
    have h₁ := hrecords.length_eq
    have h₂ := List.length_pos_of_ne_nil hcells
    refine ⟨records,?_,by omega,by omega,hrecords,by simpa using hserving⟩
    rcases h with h | ⟨-,h⟩
    · exact Or.inl (contents_eq_iff.mp h)
    · exact Or.inr (contents_eq_iff.mp h)
  · rintro ⟨records,h,hlow,hhigh,hrecords,hserving⟩
    have h₁ := hrecords.length_eq
    refine ⟨List.ne_nil_of_length_pos (by omega),records,?_,by simp,hrecords,by omega,
      by simpa using hserving⟩
    rcases h with h | h
    · exact Or.inl (contents_eq_iff.mpr h)
    · exact Or.inr ⟨rfl,contents_eq_iff.mpr h⟩

/-- What is known of each cell of an accepted scan. -/
theorem l850glL850CellParse_cell {response : CString} {cells : List L850Cell} {cell : L850Cell}
    (h : l850glL850CellParse response = .ok cells) (hcell : cell ∈ cells) :
    (cell.type = 4 ∨ cell.type = 5) ∧ cell.serving = (cell.type == 4) ∧ cell.pci ≤ 503 ∧
      l850glL850EarfcnToBand cell.earfcn = some cell.band := by
  have hguards : response ≠ [] ∧ ¬response.length > l850glL850CellMaxResponse ∧
      '\x00' ∉ response := by
    unfold l850glL850CellParse at h
    split at h
    · cases h
    split at h
    · cases h
    split at h
    · cases h
    · exact ⟨‹_›,‹_›,‹_›⟩
  obtain ⟨hne,hlength,hnul⟩ := hguards
  have hpos := List.length_pos_of_ne_nil hne
  obtain ⟨records,-,-,-,hrecords,-⟩ :=
    (l850glL850CellParse_iff (by omega) (by omega) hnul).mp h
  obtain ⟨i,hi,hget⟩ := List.getElem_of_mem hcell
  have hrecord := hrecords.get (by rw [hrecords.length_eq]; exact hi) hi
  obtain ⟨body,fields,r,band,-,-,-,hr,hband,hcell⟩ := hrecord
  rw [List.get_eq_getElem,hget] at hcell
  subst hcell
  exact ⟨hr.type,rfl,hr.pci,l850glL850EarfcnToBand_iff.mpr hband⟩

/-- The caller's scan: an array of cells and the number of those in use. -/
structure CellScan where
  cells : List L850Cell
  length : Nat
  deriving DecidableEq

def L850Cell.zero : L850Cell := ⟨0,false,0,0,0,0,0⟩

def CellScan.zero : CellScan := ⟨List.replicate l850glL850CellMaxResults L850Cell.zero,0⟩

/-- A scan that holds some cells and is zero after them. -/
def CellScan.holding (cells : List L850Cell) : CellScan :=
  ⟨cells++List.replicate (l850glL850CellMaxResults-cells.length) L850Cell.zero,cells.length⟩

/-- The line loop as it fills the caller's scan; a record is written before the check on the
serving cell. -/
def cellScanLoop : List CString → (okSeen servingSeen : Bool) → CellScan →
    Option CellParseResult × CellScan
  | [], _, _, scan => (none,scan)
  | line::rest, okSeen, servingSeen, scan =>
    let current := trimAscii line
    if current = [] then cellScanLoop rest okSeen servingSeen scan
    else if current = "OK".toList then
      if okSeen then (some .malformed,scan) else cellScanLoop rest true servingSeen scan
    else if okSeen ∨ scan.length ≥ l850glL850CellMaxResults then
      (some (if scan.length ≥ l850glL850CellMaxResults then .tooMany else .malformed),scan)
    else match parseCellLine current with
      | .error result => (some result,scan)
      | .ok cell =>
        let written := { scan with cells := scan.cells.set scan.length cell }
        if cell.serving ∧ servingSeen then (some .malformed,written)
        else cellScanLoop rest okSeen (servingSeen || cell.serving)
          { written with length := scan.length+1 }

/-- `l850gl_l850_cell_parse` with its out-parameter; no result stands for `OK`. -/
def l850glL850CellParseInto (response : CString) (scan : CellScan) :
    Option CellParseResult × CellScan :=
  if response = [] then (some .empty,scan)
  else if response.length > l850glL850CellMaxResponse then (some .oversized,scan)
  else if '\x00' ∈ response then (some .malformed,.zero)
  else
    let (result,scan) := cellScanLoop (lines response) false false .zero
    let result := if result = none ∧ scan.length = 0 then some .empty else result
    if result = none then (none,scan) else (result,.zero)

theorem holding_set {cells : List L850Cell} (cell : L850Cell)
    (h : cells.length < l850glL850CellMaxResults) :
    (CellScan.holding cells).cells.set cells.length cell =
      (CellScan.holding (cells++[cell])).cells := by
  have h₁ : l850glL850CellMaxResults-cells.length =
      l850glL850CellMaxResults-(cells++[cell]).length+1 := by
    simp only [List.length_append,List.length_singleton]
    omega
  simp [CellScan.holding,h₁,List.replicate_succ]

/-- The loop on the caller's scan goes as the loop on a list does, and fills the scan with the
list's cells. -/
theorem cellScanLoop_eq {rest : List CString} {okSeen servingSeen : Bool}
    {cells : List L850Cell} (hcells : cells.length ≤ l850glL850CellMaxResults) :
    match cellParseLoop rest okSeen servingSeen cells with
    | .ok more => cellScanLoop rest okSeen servingSeen (.holding cells) = (none,.holding more)
    | .error result =>
      (cellScanLoop rest okSeen servingSeen (.holding cells)).1 = some result := by
  induction rest generalizing okSeen servingSeen cells with
  | nil => rfl
  | cons line rest ih =>
    rw [cellParseLoop,cellScanLoop]
    by_cases hblank : trimAscii line = []
    · rw [if_pos hblank,if_pos hblank]
      exact ih hcells
    rw [if_neg hblank,if_neg hblank]
    by_cases hok : trimAscii line = "OK".toList
    · rw [if_pos hok,if_pos hok]
      cases okSeen with
      | true => simp
      | false => exact ih hcells
    rw [if_neg hok,if_neg hok]
    have hlength : (CellScan.holding cells).length = cells.length := rfl
    by_cases hstop : okSeen = true ∨ cells.length ≥ l850glL850CellMaxResults
    · rw [if_pos hstop,hlength,if_pos hstop]
    rw [if_neg hstop,hlength,if_neg hstop]
    cases parseCellLine (trimAscii line) with
    | error result => rfl
    | ok cell =>
      simp only
      by_cases hserving : cell.serving = true ∧ servingSeen = true
      · rw [if_pos hserving,if_pos hserving]
      · rw [if_neg hserving,if_neg hserving,holding_set cell (by omega)]
        have h₁ : cells.length+1 = (cells++[cell]).length := by simp
        rw [h₁]
        exact ih (by simp; omega)

theorem l850glL850CellParseInto_eq {response : CString} (scan : CellScan)
    (hlow : 1 ≤ response.length) (hhigh : response.length ≤ l850glL850CellMaxResponse) :
    l850glL850CellParseInto response scan =
      match l850glL850CellParse response with
      | .ok cells => (none,.holding cells)
      | .error result => (some result,.zero) := by
  have hne : response ≠ [] := List.ne_nil_of_length_pos (by omega)
  have hsize : ¬response.length > l850glL850CellMaxResponse := by omega
  rw [l850glL850CellParseInto,l850glL850CellParse,if_neg hne,if_neg hne,if_neg hsize,
    if_neg hsize]
  by_cases hnul : '\x00' ∈ response
  · rw [if_pos hnul,if_pos hnul]
  rw [if_neg hnul,if_neg hnul]
  have hstart : CellScan.zero = .holding [] := rfl
  have hloop := @cellScanLoop_eq (lines response) false false [] (by simp)
  rw [hstart]
  cases hcells : cellParseLoop (lines response) false false [] with
  | error result =>
    rw [hcells] at hloop
    simp only at hloop
    simp [bind,Except.bind,hloop]
  | ok more =>
    rw [hcells] at hloop
    simp only at hloop
    have hlength : (CellScan.holding more).length = more.length := rfl
    by_cases hmore : more = []
    · subst hmore
      simp [bind,Except.bind,hloop,hlength]
    · simp [bind,Except.bind,hloop,hmore,hlength]

/-- The scan parser accepts exactly the texts of its grammar: it hands out the cells that the
text writes, and a zero scan for any other text. -/
theorem l850glL850CellParseInto_grammar (response : CString) (scan : CellScan)
    (hlow : 1 ≤ response.length) (hhigh : response.length ≤ l850glL850CellMaxResponse)
    (hnul : '\x00' ∉ response) :
    ((l850glL850CellParseInto response scan).1 = none ↔ ∃ cells, ScanText response cells) ∧
    (∀ cells, ScanText response cells →
      (l850glL850CellParseInto response scan).2 = .holding cells) ∧
    ((l850glL850CellParseInto response scan).1 ≠ none →
      (l850glL850CellParseInto response scan).2 = .zero) := by
  have hparse := fun cells => @l850glL850CellParse_iff response cells hlow hhigh hnul
  rw [l850glL850CellParseInto_eq scan hlow hhigh]
  cases hresult : l850glL850CellParse response with
  | error result =>
    have hno : ∀ cells, ¬ScanText response cells := by
      intro cells hcells
      have := (hparse cells).mpr hcells
      simp [hresult] at this
    refine ⟨⟨by simp,?_⟩,fun cells hcells => absurd hcells (hno cells),fun _ => rfl⟩
    rintro ⟨cells,hcells⟩
    exact absurd hcells (hno cells)
  | ok cells =>
    have hcells := (hparse cells).mp hresult
    refine ⟨⟨fun _ => ⟨cells,hcells⟩,fun _ => rfl⟩,?_,by simp⟩
    intro other hother
    have := (hparse other).mpr hother
    rw [hresult] at this
    rw [Except.ok.inj this]

def scanSample : CString :=
  "\r\n+XMCI: 4,510,10,\"0x2A\",\"0x01\",0x0,1850,4294967295,100,50,20,-12,4,10\r\nOK\r\n".toList

theorem l850glL850CellParseInto_grammar_sample :
    (∃ cells, ScanText scanSample cells) ∧
    ∀ cells, ScanText scanSample cells →
      (l850glL850CellParseInto scanSample .zero).2 = .holding cells := by
  have h := l850glL850CellParseInto_grammar scanSample .zero (by decide) (by decide) (by decide)
  exact ⟨h.1.mp (by decide +kernel),h.2.1⟩

end Cell
end L850GL
