import L850GL.Ca.Records
import Mathlib.Data.List.Perm.Basic

/-! The carrier parser accepts exactly the texts of its grammar, and lists the carriers in use
in the order of their slots. -/
namespace L850GL
namespace Ca

open Text TextFormat Cell

theorem splitFieldsLoop_eq {capacity : Nat} {parts fields : List CString}
    (hne : [] ∉ parts.map trimAscii) (hlength : fields.length+parts.length ≤ capacity) :
    splitFieldsLoop capacity parts fields =
      (fields.length+parts.length,fields++parts.map trimAscii) := by
  induction parts generalizing fields with
  | nil => simp [splitFieldsLoop]
  | cons part parts ih =>
    simp only [List.map_cons,List.mem_cons,not_or] at hne
    simp only [List.length_cons] at hlength
    have hpart : ¬trimAscii part = [] := fun h => hne.1 h.symm
    rw [splitFieldsLoop,if_neg (by omega)]
    simp only
    rw [if_neg hpart,ih hne.2 (by simp; omega)]
    simp
    omega

theorem splitFieldsLoop_bad {capacity : Nat} {parts fields : List CString}
    (hbad : [] ∈ parts.map trimAscii ∨ capacity < fields.length+parts.length)
    (hfields : fields.length ≤ capacity) :
    (splitFieldsLoop capacity parts fields).1 = 0 ∨
      (splitFieldsLoop capacity parts fields).1 = capacity+1 := by
  induction parts generalizing fields with
  | nil =>
    simp only [List.map_nil,List.not_mem_nil,false_or,List.length_nil] at hbad
    omega
  | cons part parts ih =>
    rw [splitFieldsLoop]
    by_cases hfull : fields.length ≥ capacity
    · rw [if_pos hfull]
      exact Or.inr rfl
    rw [if_neg hfull]
    simp only
    by_cases hpart : trimAscii part = []
    · rw [if_pos hpart]
      exact Or.inl rfl
    rw [if_neg hpart]
    apply ih
    · rcases hbad with h | h
      · simp only [List.map_cons,List.mem_cons] at h
        rcases h with h | h
        · exact absurd h.symm hpart
        · exact Or.inl h
      · right
        simp only [List.length_cons,List.length_append,List.length_nil] at h ⊢
        omega
    · simp
      omega

/-- The fields of a line, when there are some, none is empty, and they fit. -/
theorem splitFields_iff {body : CString} {capacity count : Nat} {fs : List CString}
    (hcount : 1 ≤ count) (hcapacity : count ≤ capacity) :
    splitFields (trimAscii body) capacity = (count,fs) ↔
      Fields isBlank ',' body fs ∧ [] ∉ fs ∧ fs.length = count := by
  have hfields : ((trimAscii body).splitOn ',').map trimAscii = fields isBlank ',' body :=
    fields_trim rfl body
  have hlength : ((trimAscii body).splitOn ',').length = (fields isBlank ',' body).length := by
    rw [← hfields,List.length_map]
  rw [← fields_eq_iff,splitFields]
  by_cases hgood : [] ∉ fields isBlank ',' body ∧ (fields isBlank ',' body).length ≤ capacity
  · rw [splitFieldsLoop_eq (hfields ▸ hgood.1) (by simpa [hlength] using hgood.2),hfields,hlength]
    simp only [List.length_nil,Nat.zero_add,List.nil_append,Prod.mk.injEq]
    constructor
    · rintro ⟨h₁,rfl⟩
      exact ⟨rfl,hgood.1,h₁⟩
    · rintro ⟨rfl,-,h₁⟩
      exact ⟨h₁,rfl⟩
  · have hwrong : [] ∈ fields isBlank ',' body ∨ capacity < (fields isBlank ',' body).length := by
      by_cases hnil : [] ∈ fields isBlank ',' body
      · exact Or.inl hnil
      · right
        by_contra hle
        exact hgood ⟨hnil,by omega⟩
    have hbad := @splitFieldsLoop_bad capacity ((trimAscii body).splitOn ',') []
      (by simpa only [hfields,hlength,List.length_nil,Nat.zero_add] using hwrong) (by simp)
    constructor
    · intro h
      rw [h] at hbad
      simp only at hbad
      omega
    · rintro ⟨rfl,hne,rfl⟩
      exact absurd ⟨hne,hcapacity⟩ hgood

theorem decimalField_nil (n : Nat) : ¬DecimalField [] n := fun h => h.1 rfl

theorem signedDecimalField_nil (z : Int) : ¬SignedDecimalField [] z := by
  rintro (⟨n,hne,-⟩ | ⟨digits,n,h,-⟩)
  · exact hne rfl
  · cases h

theorem nil_notMem_of_writtenAs {r : CaRecord} {fs : List CString} (h : r.WrittenAs fs) :
    [] ∉ fs := by
  obtain ⟨h₁,field,hfield,hsigned⟩ := h
  apply notMem_of_forall₂_eraseIdx h₁ decimalField_nil
  rw [hfield]
  intro hnil
  exact signedDecimalField_nil _ (Option.some.inj hnil ▸ hsigned)

theorem writtenAs_length {r : CaRecord} {fs : List CString} (h : r.WrittenAs fs) :
    fs.length = r.unsigned.length+1 := by
  obtain ⟨h₁,field,hfield,-⟩ := h
  have h₂ := h₁.length_eq
  have h₃ : r.signedIndex < fs.length := (List.getElem?_eq_some_iff.mp hfield).choose
  rw [List.length_eraseIdx_of_lt h₃] at h₂
  omega

theorem parseRecord_iff {fs : List CString} {index : Nat} {active : Bool} {carrier : CaCarrier} :
    parseRecord fs.length fs = .ok (index,active,carrier) ↔ ∃ r : CaRecord,
      r.WrittenAs fs ∧ r.Valid ∧ index = r.index ∧ active = r.active ∧ carrier = r.carrier := by
  unfold parseRecord
  by_cases hprimary : fs.length = caPrimaryFieldCount
  · rw [if_pos hprimary]
    constructor
    · intro h
      cases hparse : parsePrimaryRecord fs with
      | error result => simp [hparse] at h
      | ok parsed =>
        obtain ⟨mcc,mnc,tac,cellId,v,hwritten,hvalid,rfl⟩ :=
          (parsePrimaryRecord_iff hprimary).mp hparse
        simp only [hparse,Except.ok.injEq,Prod.mk.injEq] at h
        obtain ⟨rfl,rfl,rfl⟩ := h
        exact ⟨_,hwritten,hvalid,rfl,rfl,rfl⟩
    · rintro ⟨r,hwritten,hvalid,rfl,rfl,rfl⟩
      have hlength := writtenAs_length hwritten
      cases r with
      | primary mcc mnc tac cellId v =>
        rw [(parsePrimaryRecord_iff hprimary).mpr ⟨mcc,mnc,tac,cellId,v,hwritten,hvalid,rfl⟩]
        rfl
      | secondary slot v =>
        rw [hprimary] at hlength
        cases hlength
      | inactive slot ulEarfcn =>
        rw [hprimary] at hlength
        cases hlength
  rw [if_neg hprimary]
  by_cases hsecondary : fs.length = caSecondaryFieldCount
  · rw [if_pos hsecondary,parseSecondaryRecord_iff hsecondary]
    constructor
    · rintro ⟨r,-,h⟩
      exact ⟨r,h⟩
    · rintro ⟨r,hwritten,h⟩
      refine ⟨r,?_,hwritten,h⟩
      cases r with
      | primary mcc mnc tac cellId v =>
        have hlength := writtenAs_length hwritten
        rw [hsecondary] at hlength
        cases hlength
      | secondary slot v => rfl
      | inactive slot ulEarfcn => rfl
  · rw [if_neg hsecondary]
    constructor
    · intro h
      cases h
    · rintro ⟨r,hwritten,-⟩
      have hlength := writtenAs_length hwritten
      cases r with
      | primary mcc mnc tac cellId v => exact absurd hlength hprimary
      | secondary slot v => exact absurd hlength hsecondary
      | inactive slot ulEarfcn => exact absurd hlength hsecondary

def slotOf (r : CaRecord) : CaSlot := ⟨true,r.active,r.carrier⟩

/-- The slots after some records have been read. -/
def slotsOf (records : List CaRecord) : List CaSlot :=
  (List.range l850glL850CaMaxSlots).map fun i =>
    ((records.find? (·.index == i+1)).map slotOf).getD .zero

theorem slotsOf_length (records : List CaRecord) :
    (slotsOf records).length = l850glL850CaMaxSlots := by simp [slotsOf]

theorem slotsOf_getD {records : List CaRecord} {i : Nat} (hi : i < l850glL850CaMaxSlots) :
    (slotsOf records).getD i .zero =
      ((records.find? (·.index == i+1)).map slotOf).getD .zero := by
  simp [slotsOf,List.getD_eq_getElem?_getD,hi]

theorem slotsOf_seen {records : List CaRecord} {i : Nat} (hi : i < l850glL850CaMaxSlots) :
    ((slotsOf records).getD i .zero).seen = true ↔ ∃ r ∈ records, r.index = i+1 := by
  rw [slotsOf_getD hi]
  cases hfind : records.find? (·.index == i+1) with
  | none =>
    constructor
    · intro h
      cases h
    · rintro ⟨r,hr,hindex⟩
      have := List.find?_eq_none.mp hfind r hr
      simp [hindex] at this
  | some r =>
    have hindex : r.index = i+1 := by simpa using List.find?_some hfind
    exact ⟨fun _ => ⟨r,List.mem_of_find?_eq_some hfind,hindex⟩,fun _ => rfl⟩

theorem slotsOf_append {records : List CaRecord} {r : CaRecord} (hlow : 1 ≤ r.index)
    (hnew : ∀ s ∈ records, s.index ≠ r.index) :
    (slotsOf records).set (r.index-1) (slotOf r) = slotsOf (records++[r]) := by
  apply List.ext_getElem
  · simp [slotsOf_length]
  intro i h₁ h₂
  simp only [slotsOf,List.getElem_set,List.getElem_map,List.getElem_range,List.find?_append]
  by_cases hi : r.index-1 = i
  · have hindex : r.index = i+1 := by omega
    have hfind : records.find? (·.index == i+1) = none := by
      apply List.find?_eq_none.mpr
      intro s hs
      simpa [← hindex] using hnew s hs
    simp [hfind,hindex]
  · have hindex : r.index ≠ i+1 := by omega
    simp [hi,hindex]

/-- What the loop has read after a header and some records. -/
def scanOf (declaredSlots : Nat) (records : List CaRecord) : CaScan :=
  ⟨declaredSlots,records.length,true,slotsOf records⟩

theorem valid_index {r : CaRecord} (h : r.Valid) :
    1 ≤ r.index ∧ r.index ≤ l850glL850CaMaxSlots := by
  cases r with
  | primary mcc mnc tac cellId v => exact ⟨Nat.le_refl 1,show 1 ≤ 8 by decide⟩
  | secondary index v =>
    obtain ⟨-,-,-,-,hlow,hhigh⟩ := h
    exact ⟨by simp only [CaRecord.index]; omega,hhigh⟩
  | inactive index ulEarfcn => exact ⟨by have := h.1; simp only [CaRecord.index]; omega,h.2.1⟩

/-- A line with the prefix, by its number of fields. -/
theorem parseCaLine_fields {body : CString} {count : Nat} {fs : List CString} (scan : CaScan)
    (h : splitFields (trimAscii body) (caPrimaryFieldCount+1) = (count,fs)) :
    parseCaLine (caPrefix++body) scan =
      if count = 1 then
        if scan.headerSeen ∨ scan.recordCount ≠ 0 then .error .malformed
        else match parseUint32Decimal (fs.getD 0 []) with
          | none => .error .malformed
          | some declaredSlots =>
            if declaredSlots = 0 then .error .range
            else if declaredSlots > l850glL850CaMaxSlots then .error .tooMany
            else .ok { scan with declaredSlots := declaredSlots, headerSeen := true }
      else if scan.headerSeen = false then .error .malformed
      else if scan.recordCount ≥ scan.declaredSlots then .error .countMismatch
      else match parseRecord count fs with
        | .error result => .error result
        | .ok (slotIndex,active,carrier) =>
          if slotIndex > scan.declaredSlots then .error .countMismatch
          else if (scan.slots.getD (slotIndex-1) .zero).seen then .error .duplicate
          else .ok { scan with
            slots := scan.slots.set (slotIndex-1) ⟨true,active,carrier⟩,
            recordCount := scan.recordCount+1 } := by
  have hprefix : ¬¬caPrefix.isPrefixOf (caPrefix++body) = true := by simp
  have hdrop : (caPrefix++body).drop caPrefix.length = body := List.drop_left
  rw [parseCaLine,if_neg hprefix,hdrop]
  simp only [h]
  all_goals rfl

theorem parseCaLine_prefix {line : CString} {scan next : CaScan}
    (h : parseCaLine line scan = .ok next) : ∃ body, line = caPrefix++body := by
  unfold parseCaLine at h
  split at h
  · cases h
  · rename_i hprefix
    obtain ⟨body,rfl⟩ := List.isPrefixOf_iff_prefix.mp (not_not.mp hprefix)
    exact ⟨body,rfl⟩

theorem slotsOf_nil : slotsOf [] = List.replicate l850glL850CaMaxSlots CaSlot.zero := by decide

theorem parseCaLine_header_iff {line : CString} {next : CaScan} :
    parseCaLine line .start = .ok next ↔ ∃ n, HeaderLine line n ∧ next = scanOf n [] := by
  constructor
  · intro h
    obtain ⟨body,rfl⟩ := parseCaLine_prefix h
    cases hsplit : splitFields (trimAscii body) (caPrimaryFieldCount+1) with
    | mk count fs =>
      rw [parseCaLine_fields _ hsplit] at h
      split at h
      · rename_i hone
        subst hone
        obtain ⟨hfs,-,hlength⟩ := (splitFields_iff (by decide) (by decide)).mp hsplit
        obtain ⟨field,rfl⟩ := List.length_eq_one_iff.mp hlength
        rw [if_neg (by decide)] at h
        split at h
        · cases h
        rename_i n hn
        split at h
        · cases h
        split at h
        · cases h
        have hfield := parseUint32Decimal_iff.mp hn
        refine ⟨n,⟨body,field,rfl,hfs,hfield,by omega,by omega⟩,?_⟩
        rw [← Except.ok.inj h,scanOf,slotsOf_nil]
        rfl
      · rw [if_pos (show CaScan.start.headerSeen = false from rfl)] at h
        cases h
  · rintro ⟨n,⟨body,field,rfl,hfs,hfield,hlow,hhigh⟩,rfl⟩
    have hne : [] ∉ [field] := by
      simp only [List.mem_singleton]
      exact fun h => hfield.1 h.symm
    have hsplit := (@splitFields_iff body (caPrimaryFieldCount+1) 1 [field] (by decide)
      (by decide)).mpr ⟨hfs,hne,rfl⟩
    rw [parseCaLine_fields _ hsplit,if_pos rfl,if_neg (by decide)]
    have hn : parseUint32Decimal ([field].getD 0 []) = some n := parseUint32Decimal_iff.mpr hfield
    rw [hn]
    simp only
    rw [if_neg (by omega),if_neg (by omega),scanOf,slotsOf_nil]
    rfl

/-- A line after the header describes a slot that is announced and not yet described. -/
theorem parseCaLine_record_iff {line : CString} {declaredSlots : Nat} {records : List CaRecord}
    {next : CaScan} :
    parseCaLine line (scanOf declaredSlots records) = .ok next ↔
      ∃ r, RecordLine line r ∧ records.length < declaredSlots ∧ r.index ≤ declaredSlots ∧
        (∀ s ∈ records, s.index ≠ r.index) ∧ next = scanOf declaredSlots (records++[r]) := by
  have hfree : ∀ r : CaRecord, r.Valid →
      (((scanOf declaredSlots records).slots.getD (r.index-1) .zero).seen = true ↔
        ∃ s ∈ records, s.index = r.index) := by
    intro r hr
    have hindex := valid_index hr
    have h₁ : r.index-1+1 = r.index := by omega
    have h₂ := @slotsOf_seen records (r.index-1) (by omega)
    rw [h₁] at h₂
    exact h₂
  have hset : ∀ r : CaRecord, r.Valid → (∀ s ∈ records, s.index ≠ r.index) →
      (scanOf declaredSlots (records++[r])) = { scanOf declaredSlots records with
        slots := (scanOf declaredSlots records).slots.set (r.index-1) ⟨true,r.active,r.carrier⟩,
        recordCount := (scanOf declaredSlots records).recordCount+1 } := by
    intro r hr hnew
    have h₁ := slotsOf_append (valid_index hr).1 hnew
    simp only [slotOf] at h₁
    simp [scanOf,h₁]
  constructor
  · intro h
    obtain ⟨body,rfl⟩ := parseCaLine_prefix h
    cases hsplit : splitFields (trimAscii body) (caPrimaryFieldCount+1) with
    | mk count fs =>
      rw [parseCaLine_fields _ hsplit] at h
      split at h
      · cases h
      rename_i hone
      rw [if_neg (by simp [scanOf])] at h
      split at h
      · cases h
      rename_i hcount
      cases hparse : parseRecord count fs with
      | error result => simp [hparse] at h
      | ok read =>
        obtain ⟨index,active,carrier⟩ := read
        rw [hparse] at h
        simp only at h
        have hrange : 1 ≤ count ∧ count ≤ caPrimaryFieldCount+1 := by
          unfold parseRecord at hparse
          split at hparse
          · rename_i hc
            simp [hc,caPrimaryFieldCount]
          split at hparse
          · rename_i hc
            simp [hc,caPrimaryFieldCount,caSecondaryFieldCount]
          · cases hparse
        obtain ⟨hfs,-,hlength⟩ := (splitFields_iff hrange.1 hrange.2).mp hsplit
        rw [← hlength] at hparse
        obtain ⟨r,hwritten,hvalid,rfl,rfl,rfl⟩ := parseRecord_iff.mp hparse
        split at h
        · cases h
        rename_i hindex
        split at h
        · cases h
        rename_i hseen
        have hnew : ∀ s ∈ records, s.index ≠ r.index := fun s hs heq =>
          hseen ((hfree r hvalid).mpr ⟨s,hs,heq⟩)
        have hcount' : ¬records.length ≥ declaredSlots := hcount
        have hindex' : ¬r.index > declaredSlots := hindex
        refine ⟨r,⟨body,fs,rfl,hfs,hwritten,hvalid⟩,by omega,by omega,hnew,?_⟩
        rw [hset r hvalid hnew]
        exact (Except.ok.inj h).symm
  · rintro ⟨r,⟨body,fs,rfl,hfs,hwritten,hvalid⟩,hcount,hindex,hnew,rfl⟩
    have hlength : fs.length = caPrimaryFieldCount ∨ fs.length = caSecondaryFieldCount := by
      have := writtenAs_length hwritten
      cases r with
      | primary mcc mnc tac cellId v => exact Or.inl this
      | secondary slot v => exact Or.inr this
      | inactive slot ulEarfcn => exact Or.inr this
    have h14 : caPrimaryFieldCount = 14 := rfl
    have h10 : caSecondaryFieldCount = 10 := rfl
    have hsplit := (@splitFields_iff body (caPrimaryFieldCount+1) fs.length fs (by omega)
      (by omega)).mpr ⟨hfs,nil_notMem_of_writtenAs hwritten,rfl⟩
    have hparse := parseRecord_iff.mpr ⟨r,hwritten,hvalid,rfl,rfl,rfl⟩
    have hseen : ¬((scanOf declaredSlots records).slots.getD (r.index-1) .zero).seen = true := by
      rw [hfree r hvalid]
      rintro ⟨s,hs,heq⟩
      exact hnew s hs heq
    have hcount' : ¬(scanOf declaredSlots records).recordCount ≥
        (scanOf declaredSlots records).declaredSlots := by
      simp only [scanOf]
      omega
    have hindex' : ¬r.index > (scanOf declaredSlots records).declaredSlots := by
      simp only [scanOf]
      omega
    rw [parseCaLine_fields _ hsplit,if_neg (by omega),if_neg (by simp [scanOf]),if_neg hcount',
      hparse]
    simp only
    rw [if_neg hindex',if_neg hseen,hset r hvalid hnew]

/-- Records that describe distinct announced slots. -/
structure Described (declaredSlots : Nat) (records : List CaRecord) : Prop where
  distinct : (records.map (·.index)).Nodup
  announced : ∀ r ∈ records, r.index ≤ declaredSlots
  count : records.length ≤ declaredSlots

theorem described_append {declaredSlots : Nat} {records : List CaRecord} {r : CaRecord}
    (h : Described declaredSlots records) (hcount : records.length < declaredSlots)
    (hindex : r.index ≤ declaredSlots) (hnew : ∀ s ∈ records, s.index ≠ r.index) :
    Described declaredSlots (records++[r]) := by
  refine ⟨?_,?_,by simp; omega⟩
  · rw [List.map_append,List.map_singleton]
    apply List.nodup_append.mpr
    refine ⟨h.distinct,by simp,?_⟩
    intro index hmem other hother
    obtain ⟨s,hs,rfl⟩ := List.mem_map.mp hmem
    rw [List.mem_singleton.mp hother]
    exact hnew s hs
  · intro s hs
    rcases List.mem_append.mp hs with hs | hs
    · exact h.announced s hs
    · rw [List.mem_singleton.mp hs]
      exact hindex

theorem described_prefix {declaredSlots : Nat} {records more : List CaRecord}
    (h : Described declaredSlots (records++more)) : Described declaredSlots records := by
  have hlength := h.count
  rw [List.length_append] at hlength
  refine ⟨?_,fun r hr => h.announced r (List.mem_append_left more hr),by omega⟩
  have hnodup := h.distinct
  rw [List.map_append] at hnodup
  exact (List.nodup_append.mp hnodup).1

/-- After the header the line loop reads one record from each line. -/
theorem caParseLoop_iff {rest : List CString} {declaredSlots : Nat} {records : List CaRecord}
    {scan : CaScan} (hdeclared : declaredSlots ≤ l850glL850CaMaxSlots)
    (hrecords : Described declaredSlots records) :
    caParseLoop rest (scanOf declaredSlots records) = .ok scan ↔ ∃ more,
      List.Forall₂ RecordLine (trimmed rest) more ∧ Described declaredSlots (records++more) ∧
        scan = scanOf declaredSlots (records++more) := by
  induction rest generalizing records with
  | nil =>
    simp only [caParseLoop,trimmed,List.map_nil,List.filter_nil,Except.ok.injEq,
      List.forall₂_nil_left_iff]
    constructor
    · rintro rfl
      exact ⟨[],rfl,by simpa using hrecords,by simp⟩
    · rintro ⟨more,rfl,-,rfl⟩
      simp
  | cons line rest ih =>
    rw [caParseLoop,trimmed_cons]
    by_cases hblank : trimAscii line = []
    · rw [if_pos hblank,if_pos hblank]
      exact ih hrecords
    rw [if_neg hblank,if_neg hblank]
    constructor
    · intro h
      cases hparse : parseCaLine (trimAscii line) (scanOf declaredSlots records) with
      | error result => simp [hparse] at h
      | ok next =>
        obtain ⟨r,hr,hcount,hindex,hnew,rfl⟩ := parseCaLine_record_iff.mp hparse
        simp only [hparse] at h
        obtain ⟨more,hmore,hall,rfl⟩ :=
          (ih (described_append hrecords hcount hindex hnew)).mp h
        exact ⟨r::more,.cons hr hmore,by simpa using hall,by simp⟩
    · rintro ⟨more,hmore,hall,rfl⟩
      cases hmore with
      | @cons _ r _ more hr hmore =>
        have happend : records++r::more = records++[r]++more := by simp
        rw [happend] at hall
        have hone := described_prefix hall
        have hcount := hone.count
        simp only [List.length_append,List.length_singleton] at hcount
        have hnew : ∀ s ∈ records, s.index ≠ r.index := by
          intro s hs heq
          have hnodup := hone.distinct
          rw [List.map_append,List.map_singleton] at hnodup
          have hmem : s.index ∈ records.map (·.index) := List.mem_map.mpr ⟨s,hs,rfl⟩
          exact (List.nodup_append.mp hnodup).2.2 _ hmem _ (List.mem_singleton.mpr rfl) heq
        have hindex := hone.announced r (by simp)
        rw [parseCaLine_record_iff.mpr ⟨r,hr,by omega,hindex,hnew,rfl⟩]
        simp only
        exact (ih hone).mpr ⟨more,hmore,hall,by rw [happend]⟩

end Ca
end L850GL
