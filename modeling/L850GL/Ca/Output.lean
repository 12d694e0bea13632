import L850GL.Ca.Grammar
import Mathlib.Data.List.Nodup
import Mathlib.Data.List.Perm.Subperm

/-! The checks across the records of a carrier response, and what the parser hands out. -/
namespace L850GL
namespace Ca

open Text TextFormat Cell

/-- What tells two carriers apart. -/
def CaRecord.key (r : CaRecord) : Nat × Nat × Nat :=
  (r.carrier.band,r.carrier.pci,r.carrier.dlEarfcn)

def Distinct (r s : CaRecord) : Prop := r.active = true → s.active = true → r.key ≠ s.key

/-- The texts of a response: a header with the number of slots, and a record for each slot. -/
def CaText (response : CString) (records : List CaRecord) : Prop :=
  ∃ header lines, LaidOut isBlank '\n' '\r' response (header::lines) ∧
    HeaderLine header records.length ∧ List.Forall₂ RecordLine lines records ∧
    (records.map (·.index)).Perm (List.range' 1 records.length) ∧
    (∀ r ∈ records, ∀ p ∈ records, p.index = 1 → r.ulEarfcn = p.ulEarfcn) ∧
    records.Pairwise Distinct

/-- A result that holds some carriers and is zero after them. -/
def CaInfo.holding (carriers : List CaCarrier) (declaredSlots : Nat) : CaInfo :=
  ⟨carriers++List.replicate (l850glL850CaMaxSlots-carriers.length) CaCarrier.zero,
    carriers.length,declaredSlots⟩

/-- The carriers of the slots in use. -/
def carriersOf (records : List CaRecord) : List CaCarrier :=
  (records.filter (·.active)).map (·.carrier)

theorem carriersOf_length_le (records : List CaRecord) :
    (carriersOf records).length ≤ records.length := by
  rw [carriersOf,List.length_map]
  exact List.length_filter_le _ records

theorem holding_set {carriers : List CaCarrier} (carrier : CaCarrier) (declaredSlots : Nat)
    (h : carriers.length < l850glL850CaMaxSlots) :
    (CaInfo.holding carriers declaredSlots).carriers.set carriers.length carrier =
      (CaInfo.holding (carriers++[carrier]) declaredSlots).carriers := by
  have h₁ : l850glL850CaMaxSlots-carriers.length =
      l850glL850CaMaxSlots-(carriers++[carrier]).length+1 := by
    simp only [List.length_append,List.length_singleton]
    omega
  simp [CaInfo.holding,h₁,List.replicate_succ]

theorem carriersAreDuplicate_iff {r s : CaRecord} :
    carriersAreDuplicate r.carrier s.carrier = true ↔ r.key = s.key := by
  simp [carriersAreDuplicate,CaRecord.key,and_assoc]

theorem distinct_symm {r s : CaRecord} (h : Distinct r s) : Distinct s r :=
  fun hs hr heq => h hr hs heq.symm

theorem duplicate_iff {before : List CaRecord} {r : CaRecord} (hr : r.active = true) :
    ((before.map slotOf).any fun other =>
        other.active && carriersAreDuplicate (slotOf r).carrier other.carrier) = true ↔
      ¬∀ s ∈ before, Distinct s r := by
  simp only [List.any_map,List.any_eq_true,Function.comp,slotOf,Bool.and_eq_true,
    carriersAreDuplicate_iff]
  constructor
  · rintro ⟨s,hs,hactive,hkey⟩ hall
    exact hall s hs hactive hr hkey.symm
  · intro h
    by_contra hno
    apply h
    intro s hs hactive _ hkey
    exact hno ⟨s,hs,hactive,hkey.symm⟩

/-- The output loop hands out the carriers in use, unless two of them are the same. -/
theorem caEmitLoop_spec {before rest : List CaRecord}
    (hfit : (before++rest).length ≤ l850glL850CaMaxSlots) (hbefore : before.Pairwise Distinct) :
    ((before++rest).Pairwise Distinct →
      caEmitLoop (before.map slotOf) (rest.map slotOf) (.holding (carriersOf before) 0) =
        (none,.holding (carriersOf (before++rest)) 0)) ∧
    (¬(before++rest).Pairwise Distinct →
      (caEmitLoop (before.map slotOf) (rest.map slotOf)
        (.holding (carriersOf before) 0)).1 ≠ none) := by
  induction rest generalizing before with
  | nil =>
    rw [List.append_nil]
    exact ⟨fun _ => rfl,fun h => absurd hbefore h⟩
  | cons r rest ih =>
    have happend : before++r::rest = before++[r]++rest := by simp
    have hmap : before.map slotOf++[slotOf r] = (before++[r]).map slotOf := by simp
    have hpair : (before++[r]).Pairwise Distinct ↔ ∀ s ∈ before, Distinct s r := by
      simp [List.pairwise_append,hbefore]
    rw [List.map_cons,caEmitLoop,if_neg (show ¬(slotOf r).seen = false by simp [slotOf]),hmap,
      happend]
    rw [happend] at hfit
    cases hactive : r.active with
    | false =>
      have hcarriers : carriersOf (before++[r]) = carriersOf before := by
        simp [carriersOf,hactive]
      rw [if_pos (show (slotOf r).active = false from hactive)]
      have hnext : (before++[r]).Pairwise Distinct :=
        hpair.mpr fun s hs hs' hr => by simp [hactive] at hr
      have h := ih hfit hnext
      rw [hcarriers] at h
      exact h
    | true =>
      rw [if_neg (show ¬(slotOf r).active = false by simp [slotOf,hactive])]
      by_cases hdup : ∀ s ∈ before, Distinct s r
      · have hnext : (before++[r]).Pairwise Distinct := hpair.mpr hdup
        have hcarriers : carriersOf (before++[r]) = carriersOf before++[r.carrier] := by
          simp [carriersOf,hactive]
        have hlength : (carriersOf before).length < l850glL850CaMaxSlots := by
          have := carriersOf_length_le before
          simp only [List.length_append,List.length_singleton] at hfit
          omega
        have hnone : ¬((before.map slotOf).any fun other => other.active &&
            carriersAreDuplicate (slotOf r).carrier other.carrier) = true := by
          rw [duplicate_iff hactive]
          exact not_not.mpr hdup
        have hinfo : { CaInfo.holding (carriersOf before) 0 with
            carriers := (CaInfo.holding (carriersOf before) 0).carriers.set
              (CaInfo.holding (carriersOf before) 0).length (slotOf r).carrier,
            length := (CaInfo.holding (carriersOf before) 0).length+1 } =
              CaInfo.holding (carriersOf (before++[r])) 0 := by
          have h₁ := holding_set r.carrier 0 hlength
          rw [hcarriers]
          simp only [CaInfo.holding,slotOf] at h₁ ⊢
          simp [h₁]
        rw [if_neg hnone,hinfo]
        exact ih hfit hnext
      · rw [if_pos ((duplicate_iff hactive).mpr hdup)]
        have hno : ¬(before++[r]++rest).Pairwise Distinct := by
          intro h
          exact hdup (hpair.mp (List.pairwise_append.mp h).1)
        exact ⟨fun h => absurd h hno,fun _ => by simp⟩

theorem primary_of_index {r : CaRecord} (h : r.Valid) (hindex : r.index = 1) :
    ∃ mcc mnc tac cellId v, r = .primary mcc mnc tac cellId v := by
  cases r with
  | primary mcc mnc tac cellId v => exact ⟨mcc,mnc,tac,cellId,v,rfl⟩
  | secondary index v =>
    have := h.2.2.2.2.1
    simp only [CaRecord.index] at hindex
    omega
  | inactive index ulEarfcn =>
    have := h.1
    simp only [CaRecord.index] at hindex
    omega

theorem carrier_of_index {r : CaRecord} (h : r.index ≠ 1) : r.carrier.uplinkActive = false := by
  cases r with
  | primary mcc mnc tac cellId v => exact absurd rfl h
  | secondary index v => rfl
  | inactive index ulEarfcn => rfl

theorem carrier_ulEarfcn (r : CaRecord) : r.carrier.ulEarfcn = r.ulEarfcn := by
  cases r <;> rfl

theorem carrier_index (r : CaRecord) : r.carrier.index = r.index := by
  cases r <;> rfl

/-- Records for all announced slots are a permutation of the slots' indexes. -/
theorem described_perm {declaredSlots : Nat} {records : List CaRecord}
    (h : Described declaredSlots records) (hvalid : ∀ r ∈ records, r.Valid)
    (hlength : records.length = declaredSlots) :
    (records.map (·.index)).Perm (List.range' 1 declaredSlots) := by
  apply (h.distinct.subperm _).perm_of_length_le
  · simp [hlength]
  · intro index hindex
    obtain ⟨r,hr,rfl⟩ := List.mem_map.mp hindex
    have h₁ := (valid_index (hvalid r hr)).1
    have h₂ := h.announced r hr
    exact List.mem_range'_1.mpr ⟨h₁,by omega⟩

theorem described_of_perm {declaredSlots : Nat} {records : List CaRecord}
    (h : (records.map (·.index)).Perm (List.range' 1 declaredSlots)) :
    Described declaredSlots records ∧ records.length = declaredSlots := by
  have hlength : records.length = declaredSlots := by simpa using h.length_eq
  refine ⟨⟨h.nodup_iff.mpr List.nodup_range',?_,by omega⟩,hlength⟩
  intro r hr
  have hmem := h.mem_iff.mp (List.mem_map_of_mem hr)
  have := List.mem_range'_1.mp hmem
  omega

/-- The records in the order of their slots. -/
theorem exists_sorted {declaredSlots : Nat} {records : List CaRecord}
    (h : (records.map (·.index)).Perm (List.range' 1 declaredSlots)) :
    ∃ sorted : List CaRecord, sorted.Perm records ∧
      sorted.map (·.index) = List.range' 1 declaredSlots := by
  have hforall : List.Forall₂ (fun i (r : CaRecord) => i = r.index)
      (records.map (·.index)) records := by
    rw [List.forall₂_map_left_iff]
    exact List.forall₂_same.mpr fun r _ => rfl
  obtain ⟨sorted,hsorted,hperm⟩ := List.perm_comp_forall₂ h.symm hforall
  refine ⟨sorted,hperm,?_⟩
  have heq : ∀ {l : List Nat} {rs : List CaRecord},
      List.Forall₂ (fun i (r : CaRecord) => i = r.index) l rs → rs.map (·.index) = l := by
    intro l rs h
    induction h with
    | nil => rfl
    | cons hi _ ih => rw [List.map_cons,ih,hi]
  exact heq hsorted

/-- The announced slots hold the records in order. -/
theorem slotsOf_take {declaredSlots : Nat} {records sorted : List CaRecord}
    (hdeclared : declaredSlots ≤ l850glL850CaMaxSlots) (hperm : sorted.Perm records)
    (hsorted : sorted.map (·.index) = List.range' 1 declaredSlots) :
    (slotsOf records).take declaredSlots = sorted.map slotOf := by
  have hlength : sorted.length = declaredSlots := by
    simpa using congrArg List.length hsorted
  have hnodup : (records.map (·.index)).Nodup := by
    rw [← (hperm.map _).nodup_iff,hsorted]
    exact List.nodup_range'
  apply List.ext_getElem
  · simp [slotsOf_length,hlength,hdeclared]
  intro i h₁ h₂
  have hi : i < sorted.length := by simpa using h₂
  have hindex : sorted[i].index = i+1 := by
    have h : (sorted.map (·.index))[i]? = (List.range' 1 declaredSlots)[i]? := by rw [hsorted]
    rw [List.getElem?_map,List.getElem?_eq_getElem hi,
      List.getElem?_range' (by omega)] at h
    simp only [Option.map_some,Option.some.injEq] at h
    omega
  have hfind : records.find? (·.index == i+1) = some sorted[i] := by
    have hmem : sorted[i] ∈ records := hperm.mem_iff.mp (List.getElem_mem hi)
    cases hf : records.find? (·.index == i+1) with
    | none =>
      have := List.find?_eq_none.mp hf _ hmem
      simp [hindex] at this
    | some r =>
      have hr : r.index = i+1 := by simpa using List.find?_some hf
      have := List.inj_on_of_nodup_map hnodup (List.mem_of_find?_eq_some hf) hmem
        (hr.trans hindex.symm)
      rw [this]
  simp [slotsOf,hfind]

theorem uplink_mismatch_iff {p : CaRecord} {rest : List CaRecord}
    (hrest : ∀ r ∈ rest, r.index ≠ 1) :
    ((rest.map slotOf).any fun slot => slot.carrier.uplinkActive == false &&
        slot.carrier.ulEarfcn != (slotOf p).carrier.ulEarfcn) = true ↔
      ¬∀ r ∈ rest, r.ulEarfcn = p.ulEarfcn := by
  simp only [List.any_map,List.any_eq_true,Function.comp,slotOf,carrier_ulEarfcn]
  constructor
  · rintro ⟨r,hr,h⟩ hall
    simp [hall r hr] at h
  · intro h
    by_contra hno
    apply h
    intro r hr
    by_contra hne
    exact hno ⟨r,hr,by simp [carrier_of_index (hrest r hr),hne]⟩

/-- The checks across records, on records that describe every announced slot in order. -/
theorem caFinish_sorted {declaredSlots : Nat} {records : List CaRecord} {p : CaRecord}
    {rest : List CaRecord} (hdeclared : declaredSlots ≤ l850glL850CaMaxSlots)
    (hvalid : ∀ r ∈ records, r.Valid) (hlength : records.length = declaredSlots)
    (hperm : (p::rest).Perm records)
    (hsorted : (p::rest).map (·.index) = List.range' 1 declaredSlots) :
    ((∀ r ∈ rest, r.ulEarfcn = p.ulEarfcn) → (p::rest).Pairwise Distinct →
      caFinish (scanOf declaredSlots records) =
        (none,.holding (carriersOf (p::rest)) declaredSlots)) ∧
    (¬((∀ r ∈ rest, r.ulEarfcn = p.ulEarfcn) ∧ (p::rest).Pairwise Distinct) →
      (caFinish (scanOf declaredSlots records)).1 ≠ none) := by
  have hslots := slotsOf_take hdeclared hperm hsorted
  have hcount : (p::rest).length = declaredSlots := by
    simpa using congrArg List.length hsorted
  have hpos : 0 < declaredSlots := by
    rw [← hcount]
    simp
  have hfirst : (slotsOf records).getD 0 .zero = slotOf p := by
    have h : ((slotsOf records).take declaredSlots)[0]? = some (slotOf p) := by
      rw [hslots]
      rfl
    rw [List.getElem?_take_of_lt hpos] at h
    rw [List.getD_eq_getElem?_getD,h]
    rfl
  have hindexes : p.index = 1 ∧ ∀ r ∈ rest, r.index ≠ 1 := by
    have hnodup : ((p::rest).map (·.index)).Nodup := by
      rw [hsorted]
      exact List.nodup_range'
    cases declaredSlots with
    | zero => omega
    | succ n =>
      rw [List.range'_succ,List.map_cons,List.cons.injEq] at hsorted
      refine ⟨hsorted.1,?_⟩
      intro r hr heq
      rw [List.map_cons,List.nodup_cons] at hnodup
      exact hnodup.1 (List.mem_map.mpr ⟨r,hr,heq.trans hsorted.1.symm⟩)
  obtain ⟨mcc,mnc,tac,cellId,v,hp⟩ :=
    primary_of_index (hvalid p (hperm.mem_iff.mp (by simp))) hindexes.1
  have hactive : p.active = true := by rw [hp]; rfl
  have hstart : ¬((slotOf p).seen = false ∨ (slotOf p).active = false) := by
    simp [slotOf,hactive]
  have hemit := @caEmitLoop_spec [] (p::rest) (by rw [List.nil_append]; omega) List.Pairwise.nil
  have hzero : CaInfo.holding (carriersOf []) 0 = CaInfo.zero := by decide
  rw [List.nil_append,hzero,List.map_nil] at hemit
  have hfinish : caFinish (scanOf declaredSlots records) =
      if ((rest.map slotOf).any fun slot => slot.carrier.uplinkActive == false &&
          slot.carrier.ulEarfcn != (slotOf p).carrier.ulEarfcn) = true then (some .range,.zero)
      else
        let emitted := caEmitLoop [] ((p::rest).map slotOf) .zero
        if emitted.1 = none then (none,{ emitted.2 with declaredSlots := declaredSlots })
        else emitted := by
    have hseen : ¬(scanOf declaredSlots records).headerSeen = false := by simp [scanOf]
    have hrecords : ¬(scanOf declaredSlots records).recordCount ≠
        (scanOf declaredSlots records).declaredSlots := by simp [scanOf,hlength]
    rw [caFinish,if_neg hseen]
    simp only [scanOf] at hrecords ⊢
    simp only [hfirst,hslots]
    rw [if_neg hstart,if_neg hrecords]
    rfl
  rw [hfinish]
  constructor
  · intro hul hpair
    have hno := (uplink_mismatch_iff (p := p) hindexes.2).not.mpr (not_not.mpr hul)
    rw [if_neg hno,hemit.1 hpair]
    simp [CaInfo.holding]
  · intro hbad
    by_cases hul : ∀ r ∈ rest, r.ulEarfcn = p.ulEarfcn
    · have hno := (uplink_mismatch_iff (p := p) hindexes.2).not.mpr (not_not.mpr hul)
      have hpair : ¬(p::rest).Pairwise Distinct := fun h => hbad ⟨hul,h⟩
      have h := hemit.2 hpair
      rw [if_neg hno]
      simp only
      rw [if_neg h]
      exact h
    · rw [if_pos ((uplink_mismatch_iff hindexes.2).mpr hul)]
      simp

theorem caParseLoop_start_iff {rest : List CString} {scan : CaScan} :
    caParseLoop rest .start = .ok scan ↔
      (trimmed rest = [] ∧ scan = .start) ∨
      ∃ header lines n records, trimmed rest = header::lines ∧ HeaderLine header n ∧
        List.Forall₂ RecordLine lines records ∧ Described n records ∧ scan = scanOf n records := by
  induction rest with
  | nil =>
    simp only [caParseLoop,trimmed,List.map_nil,List.filter_nil,Except.ok.injEq]
    constructor
    · rintro rfl
      exact Or.inl ⟨trivial,rfl⟩
    · rintro (⟨-,rfl⟩ | ⟨_,_,_,_,h,-⟩)
      · rfl
      · cases h
  | cons line rest ih =>
    rw [caParseLoop,trimmed_cons]
    by_cases hblank : trimAscii line = []
    · rw [if_pos hblank,if_pos hblank]
      exact ih
    rw [if_neg hblank,if_neg hblank]
    have hempty : ∀ n, Described n [] := fun n =>
      ⟨List.nodup_nil,fun r hr => absurd hr (List.not_mem_nil),Nat.zero_le n⟩
    constructor
    · intro h
      cases hparse : parseCaLine (trimAscii line) .start with
      | error result => simp [hparse] at h
      | ok next =>
        obtain ⟨n,hheader,rfl⟩ := parseCaLine_header_iff.mp hparse
        obtain ⟨-,-,-,-,-,-,hn⟩ := id hheader
        simp only [hparse] at h
        obtain ⟨records,hrecords,hall,hscan⟩ := (caParseLoop_iff hn (hempty n)).mp h
        exact Or.inr ⟨_,_,n,records,rfl,hheader,hrecords,hall,hscan⟩
    · rintro (⟨h,-⟩ | ⟨header,lines,n,records,h,hheader,hrecords,hall,rfl⟩)
      · cases h
      · simp only [List.cons.injEq] at h
        obtain ⟨rfl,rfl⟩ := h
        obtain ⟨-,-,-,-,-,-,hn⟩ := id hheader
        rw [parseCaLine_header_iff.mpr ⟨n,hheader,rfl⟩]
        exact (caParseLoop_iff hn (hempty n)).mpr ⟨records,hrecords,hall,rfl⟩

theorem valid_of_lines {lines : List CString} {records : List CaRecord}
    (h : List.Forall₂ RecordLine lines records) : ∀ r ∈ records, r.Valid := by
  induction h with
  | nil => simp
  | cons hline _ ih =>
    intro r hr
    rcases List.mem_cons.mp hr with rfl | hr
    · exact hline.choose_spec.choose_spec.2.2.2
    · exact ih r hr

/-- The result lists the carriers in use in the order of their slots, the primary one first. -/
def Lists (info : CaInfo) (records : List CaRecord) : Prop :=
  ∃ carriers, info = .holding carriers records.length ∧ carriers.Perm (carriersOf records) ∧
    carriers.Pairwise (fun a b => a.index < b.index) ∧
    (∃ first rest, carriers = first::rest ∧ first.primary = true ∧ first.index = 1) ∧
    ∀ carrier ∈ carriers, l850glL850EarfcnToBand carrier.dlEarfcn = some carrier.band

theorem earfcnToBand_carrier {r : CaRecord} (h : r.Valid) (hactive : r.active = true) :
    l850glL850EarfcnToBand r.carrier.dlEarfcn = some r.carrier.band := by
  cases r with
  | primary mcc mnc tac cellId v => exact earfcnToBand_of_inDownlink h.1.downlink
  | secondary index v => exact earfcnToBand_of_inDownlink h.1.downlink
  | inactive index ulEarfcn => cases hactive

theorem lists_sorted {declaredSlots : Nat} {records : List CaRecord} {p : CaRecord}
    {rest : List CaRecord} (hvalid : ∀ r ∈ records, r.Valid)
    (hlength : records.length = declaredSlots) (hperm : (p::rest).Perm records)
    (hsorted : (p::rest).map (·.index) = List.range' 1 declaredSlots) (hp : p.index = 1) :
    Lists (.holding (carriersOf (p::rest)) declaredSlots) records := by
  have hordered : (p::rest).Pairwise fun r s => r.index < s.index := by
    have h := @List.pairwise_lt_range' 1 declaredSlots 1 (by decide)
    rw [← hsorted,List.pairwise_map] at h
    exact h
  have hpvalid := hvalid p (hperm.mem_iff.mp (by simp))
  obtain ⟨mcc,mnc,tac,cellId,v,rfl⟩ := primary_of_index hpvalid hp
  refine ⟨carriersOf _,by rw [hlength],(hperm.filter _).map _,?_,?_,?_⟩
  · rw [carriersOf,List.pairwise_map]
    apply List.Pairwise.imp _ (hordered.filter _)
    intro r s h
    rw [carrier_index,carrier_index]
    exact h
  · exact ⟨_,carriersOf rest,rfl,rfl,rfl⟩
  · intro carrier hcarrier
    obtain ⟨r,hr,rfl⟩ := List.mem_map.mp hcarrier
    obtain ⟨hmem,hactive⟩ := List.mem_filter.mp hr
    exact earfcnToBand_carrier (hvalid r (hperm.mem_iff.mp hmem)) hactive

theorem pairwise_sorted {records : List CaRecord} {sorted : List CaRecord}
    (hperm : sorted.Perm records) : sorted.Pairwise Distinct ↔ records.Pairwise Distinct :=
  hperm.pairwise_iff fun h => distinct_symm h

theorem caFinish_count {declaredSlots : Nat} {records : List CaRecord}
    (h : records.length ≠ declaredSlots) :
    (caFinish (scanOf declaredSlots records)).1 ≠ none := by
  have hseen : ¬(scanOf declaredSlots records).headerSeen = false := by simp [scanOf]
  have hcount : (scanOf declaredSlots records).recordCount ≠
      (scanOf declaredSlots records).declaredSlots := by simpa [scanOf] using h
  rw [caFinish,if_neg hseen]
  simp only
  rw [if_pos hcount]
  split
  · simp
  · simp

/-- The records in order, the one of slot 1 first. -/
theorem exists_sorted_cons {declaredSlots : Nat} {records : List CaRecord}
    (hpos : 1 ≤ declaredSlots)
    (h : (records.map (·.index)).Perm (List.range' 1 declaredSlots)) :
    ∃ p rest, (p::rest).Perm records ∧
      (p::rest).map (·.index) = List.range' 1 declaredSlots ∧ p.index = 1 := by
  obtain ⟨sorted,hperm,hsorted⟩ := exists_sorted h
  cases sorted with
  | nil =>
    have := congrArg List.length hsorted
    simp at this
    omega
  | cons p rest =>
    refine ⟨p,rest,hperm,hsorted,?_⟩
    cases declaredSlots with
    | zero => omega
    | succ n =>
      rw [List.range'_succ,List.map_cons,List.cons.injEq] at hsorted
      exact hsorted.1

/-- The uplinks agree with the one of slot 1, said of the records or of the others in order. -/
theorem uplink_sorted {records : List CaRecord} {p : CaRecord} {rest : List CaRecord}
    (hperm : (p::rest).Perm records) (hnodup : (records.map (·.index)).Nodup) (hp : p.index = 1) :
    (∀ r ∈ records, ∀ q ∈ records, q.index = 1 → r.ulEarfcn = q.ulEarfcn) ↔
      ∀ r ∈ rest, r.ulEarfcn = p.ulEarfcn := by
  have hpmem : p ∈ records := hperm.mem_iff.mp (by simp)
  constructor
  · intro h r hr
    exact h r (hperm.mem_iff.mp (by simp [hr])) p hpmem hp
  · intro h r hr q hq hindex
    have hqp : q = p := List.inj_on_of_nodup_map hnodup hq hpmem (hindex.trans hp.symm)
    subst hqp
    rcases List.mem_cons.mp (hperm.mem_iff.mpr hr) with rfl | hr
    · rfl
    · exact h r hr

/-- A text of the grammar is read, and its carriers are listed. -/
theorem caFinish_of_text {response : CString} {records : List CaRecord}
    (h : CaText response records) : ∃ scan info,
      caParseLoop (lines response) .start = .ok scan ∧ caFinish scan = (none,info) ∧
        Lists info records := by
  obtain ⟨header,rest,hlaid,hheader,hrecords,hindexes,huplink,hdistinct⟩ := h
  obtain ⟨-,-,-,-,-,hpos,hdeclared⟩ := id hheader
  have hcontents : trimmed (lines response) = header::rest :=
    (lines_trimmed response).trans (contents_eq_iff.mpr hlaid)
  have hall := (described_of_perm hindexes).1
  have hvalid := valid_of_lines hrecords
  have hloop := caParseLoop_start_iff.mpr
    (Or.inr ⟨header,rest,_,records,hcontents,hheader,hrecords,hall,rfl⟩)
  obtain ⟨p,others,hperm,hsorted,hp⟩ := exists_sorted_cons hpos hindexes
  have hul := (uplink_sorted hperm hall.distinct hp).mp huplink
  have hfinish := (caFinish_sorted hdeclared hvalid rfl hperm hsorted).1 hul
    ((pairwise_sorted hperm).mpr hdistinct)
  exact ⟨_,_,hloop,hfinish,lists_sorted hvalid rfl hperm hsorted hp⟩

/-- What is read without an error is a text of the grammar. -/
theorem text_of_caFinish {response : CString} {scan : CaScan}
    (hloop : caParseLoop (lines response) .start = .ok scan) (h : (caFinish scan).1 = none) :
    ∃ records, CaText response records := by
  rcases caParseLoop_start_iff.mp hloop with
    ⟨-,rfl⟩ | ⟨header,rest,n,records,hcontents,hheader,hrecords,hall,rfl⟩
  · cases h
  obtain ⟨-,-,-,-,-,hpos,hdeclared⟩ := id hheader
  have hvalid := valid_of_lines hrecords
  have hlength : records.length = n := by
    by_contra hne
    exact caFinish_count hne h
  have hindexes := described_perm hall hvalid hlength
  obtain ⟨p,others,hperm,hsorted,hp⟩ := exists_sorted_cons hpos hindexes
  have hgood : (∀ r ∈ others, r.ulEarfcn = p.ulEarfcn) ∧ (p::others).Pairwise Distinct := by
    by_contra hbad
    exact (caFinish_sorted hdeclared hvalid hlength hperm hsorted).2 hbad h
  subst hlength
  exact ⟨records,header,rest,contents_eq_iff.mp hcontents,hheader,hrecords,hindexes,
    (uplink_sorted hperm hall.distinct hp).mpr hgood.1,(pairwise_sorted hperm).mp hgood.2⟩

theorem l850glL850CaParse_eq {response : CString} (hne : response ≠ [])
    (hsize : response.length ≤ l850glL850CaMaxResponse) (hnul : '\x00' ∉ response) :
    l850glL850CaParse response =
      match caParseLoop (lines response) .start with
      | .error result => (some result,.zero)
      | .ok scan =>
        if (caFinish scan).1 = none then (none,(caFinish scan).2)
        else ((caFinish scan).1,.zero) := by
  have hsize' : ¬response.length > l850glL850CaMaxResponse := by omega
  rw [l850glL850CaParse,if_neg hne,if_neg hsize',if_neg hnul]
  cases caParseLoop (lines response) .start with
  | error result => simp
  | ok scan => rfl

theorem zero_of_refused (read : Option CaParseResult × CaInfo)
    (h : (if read.1 = none then (none,read.2) else (read.1,CaInfo.zero)).1 ≠ none) :
    (if read.1 = none then (none,read.2) else (read.1,CaInfo.zero)).2 = .zero := by
  by_cases hread : read.1 = none
  · rw [if_pos hread] at h
    exact absurd rfl h
  · rw [if_neg hread]

theorem l850glL850CaParse_refused {response : CString}
    (h : (l850glL850CaParse response).1 ≠ none) : (l850glL850CaParse response).2 = .zero := by
  by_cases hne : response = []
  · rw [l850glL850CaParse,if_pos hne]
  by_cases hsize : response.length > l850glL850CaMaxResponse
  · rw [l850glL850CaParse,if_neg hne,if_pos hsize]
  · rw [l850glL850CaParse,if_neg hne,if_neg hsize] at h ⊢
    exact zero_of_refused _ h

/-- The carrier parser accepts exactly the texts of its grammar; it lists the carriers that the
text describes, and hands out a zero result for any other text. -/
theorem l850glL850CaParse_grammar (response : CString) :
    ((l850glL850CaParse response).1 = none ↔
      response ≠ [] ∧ response.length ≤ l850glL850CaMaxResponse ∧ '\x00' ∉ response ∧
        ∃ records, CaText response records) ∧
    (∀ records, (l850glL850CaParse response).1 = none → CaText response records →
      Lists (l850glL850CaParse response).2 records) ∧
    ((l850glL850CaParse response).1 ≠ none → (l850glL850CaParse response).2 = .zero) := by
  have hbounds : (l850glL850CaParse response).1 = none → response ≠ [] ∧
      response.length ≤ l850glL850CaMaxResponse ∧ '\x00' ∉ response := by
    intro h
    by_cases hne : response = []
    · simp [l850glL850CaParse,hne] at h
    by_cases hsize : response.length > l850glL850CaMaxResponse
    · rw [l850glL850CaParse,if_neg hne,if_pos hsize] at h
      cases h
    by_cases hnul : '\x00' ∈ response
    · rw [l850glL850CaParse,if_neg hne,if_neg hsize,if_pos hnul] at h
      cases h
    · exact ⟨hne,by omega,hnul⟩
  refine ⟨⟨?_,?_⟩,?_,l850glL850CaParse_refused⟩
  · intro h
    obtain ⟨hne,hsize,hnul⟩ := hbounds h
    rw [l850glL850CaParse_eq hne hsize hnul] at h
    cases hloop : caParseLoop (lines response) .start with
    | error result => simp [hloop] at h
    | ok scan =>
      rw [hloop] at h
      simp only at h
      split at h
      · rename_i hnone
        exact ⟨hne,hsize,hnul,text_of_caFinish hloop hnone⟩
      · rename_i hsome
        exact absurd h hsome
  · rintro ⟨hne,hsize,hnul,records,htext⟩
    obtain ⟨scan,info,hloop,hfinish,-⟩ := caFinish_of_text htext
    rw [l850glL850CaParse_eq hne hsize hnul,hloop]
    simp [hfinish]
  · intro records h htext
    obtain ⟨hne,hsize,hnul⟩ := hbounds h
    obtain ⟨scan,info,hloop,hfinish,hlists⟩ := caFinish_of_text htext
    rw [l850glL850CaParse_eq hne hsize hnul,hloop]
    simpa [hfinish] using hlists

/-- What is known of a carrier that the parser lists. -/
structure Reported (carrier : CaCarrier) : Prop where
  index : 1 ≤ carrier.index ∧ carrier.index ≤ l850glL850CaMaxSlots
  downlink : InDownlink carrier.band carrier.dlEarfcn
  pci : carrier.pci ≤ 503
  dlBandwidth : carrier.dlBandwidthTenthsMhz ∈ [14,30,50,100,150,200]
  primary : carrier.primary = (carrier.index == 1)
  uplink : carrier.uplinkActive = carrier.primary
  ulBandwidth : carrier.primary = true → carrier.ulBandwidthTenthsMhz ∈ [14,30,50,100,150,200]

def carrierKey (carrier : CaCarrier) : Nat × Nat × Nat :=
  (carrier.band,carrier.pci,carrier.dlEarfcn)

theorem tenthsMhz_mem {code : Nat} (h : code < 6) : tenthsMhz code ∈ [14,30,50,100,150,200] := by
  have hlength : code < [14,30,50,100,150,200].length := h
  rw [tenthsMhz,List.getD_eq_getElem?_getD,List.getElem?_eq_getElem hlength,Option.getD_some]
  exact List.getElem_mem hlength

theorem reported_carrier {r : CaRecord} (h : r.Valid) (hactive : r.active = true) :
    Reported r.carrier := by
  cases r with
  | primary mcc mnc tac cellId v =>
    obtain ⟨hv,-,-,hul,-⟩ := h
    have hslots : 1 ≤ l850glL850CaMaxSlots := by decide
    exact ⟨⟨Nat.le_refl 1,hslots⟩,hv.downlink,hv.pci,tenthsMhz_mem hv.dlBandwidth,rfl,rfl,
      fun _ => tenthsMhz_mem hul⟩
  | secondary index v =>
    obtain ⟨hv,-,-,-,hlow,hhigh⟩ := h
    have hne : (index == 1) = false := beq_eq_false_iff_ne.mpr (by omega)
    exact ⟨⟨Nat.le_of_succ_le hlow,hhigh⟩,hv.downlink,hv.pci,tenthsMhz_mem hv.dlBandwidth,hne.symm,
      rfl,fun hprimary => by cases hprimary⟩
  | inactive index ulEarfcn => cases hactive

/-- The carriers of an accepted response: the primary one first, the others in the order of their
slots, no two of them the same. -/
theorem l850glL850CaParse_carriers {response : CString} {info : CaInfo}
    (h : l850glL850CaParse response = (none,info)) :
    ∃ first rest,info.carriers.take info.length = first::rest ∧ first.index = 1 ∧
      (first::rest).length ≤ l850glL850CaMaxSlots ∧
      (first::rest).Pairwise (fun a b => a.index < b.index) ∧
      (first::rest).Pairwise (fun a b => carrierKey a ≠ carrierKey b) ∧
      ∀ carrier ∈ first::rest,Reported carrier := by
  have haccepted : (l850glL850CaParse response).1 = none := by rw [h]
  obtain ⟨hiff,hlists,-⟩ := l850glL850CaParse_grammar response
  obtain ⟨-,-,-,records,htext⟩ := hiff.mp haccepted
  obtain ⟨carriers,hinfo,hperm,hordered,⟨first,rest,hfirst,-,hindex⟩,-⟩ :=
    hlists records haccepted htext
  rw [h] at hinfo
  dsimp only at hinfo
  obtain ⟨header,lines,-,hheader,hrecords,-,-,hdistinct⟩ := htext
  obtain ⟨body,field,-,-,-,-,hslots⟩ := hheader
  have htake : info.carriers.take info.length = carriers := by
    rw [hinfo]
    exact List.take_left
  have hvalid := valid_of_lines hrecords
  have hreported : ∀ carrier ∈ carriers,Reported carrier := by
    intro carrier hcarrier
    obtain ⟨r,hr,rfl⟩ := List.mem_map.mp (hperm.mem_iff.mp hcarrier)
    obtain ⟨hmem,hactive⟩ := List.mem_filter.mp hr
    exact reported_carrier (hvalid r hmem) hactive
  have hkeys : (carriersOf records).Pairwise fun a b => carrierKey a ≠ carrierKey b := by
    rw [carriersOf,List.pairwise_map]
    refine (hdistinct.filter _).imp_of_mem fun {r s} hr hs hne => ?_
    exact hne (List.mem_filter.mp hr).2 (List.mem_filter.mp hs).2
  have hkeys' := (hperm.pairwise_iff fun {a b} hab => hab.symm).mpr hkeys
  have hlength : carriers.length ≤ l850glL850CaMaxSlots := by
    rw [hperm.length_eq]
    exact (carriersOf_length_le records).trans hslots
  subst hfirst
  exact ⟨first,rest,htake,hindex,hlength,hordered,hkeys',hreported⟩

/-- A primary carrier in band 5 and a secondary one in band 3. -/
def sampleCarriers : CString :=
  "+GTCAINFO: 2\n+GTCAINFO: 1,5,1,1,1,1,303,57,13,4,2450,20450,3,3".toList++
    "\n+GTCAINFO: 2,3,381,47,3,8,1325,20450,5,255".toList

example : (l850glL850CaParse sampleCarriers).1 = none := by decide +kernel

end Ca
end L850GL
