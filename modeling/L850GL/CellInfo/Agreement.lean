import L850GL.Cell.ScanGrammar
import L850GL.CellInfo
import L850GL.Lib.Loop

/-! The cached serving cell and the standard scan read the same cells out of one list. -/
namespace L850GL
namespace CellInfo

open Cell

/-- What both scans promise of a cell that they hand on. -/
structure IsCell (modem : Modem) (cell : L850StandardCell) : Prop where
  type : cell.type = if cell.serving then 4 else 5
  band : l850glL850EarfcnToBand cell.earfcn = some cell.band
  supported : modem.lteBandIsSupported cell.band = true
  pci : cell.pci ≤ 503
  rsrp : cell.hasRsrp = true → ∃ value,cell.rsrp = .finite value
  rsrq : cell.hasRsrq = true → ∃ value,cell.rsrq = .finite value

def isLte : MmCellInfo → Bool
  | .lte _ => true
  | _ => false

def lteEntries (items : List MmCellInfo) : Nat := items.countP isLte

/-- The serving cell that the first loop has found. -/
def ServingScan.cell (scan : ServingScan) : L850StandardCell :=
  ⟨4,true,scan.earfcn,scan.pci,scan.band,scan.rsrp,scan.rsrq,scan.hasRsrp,scan.hasRsrq⟩

def servingCells (cells : List L850StandardCell) : List L850StandardCell :=
  cells.filter (·.serving)

variable {modem : Modem} {scan : ServingScan} {state : Normalization}
  {items passed : List MmCellInfo} {cells : List L850StandardCell}

theorem parseStandardLtePci_le {value : Option CString} {pci : Nat}
    (h : parseStandardLtePci value = some pci) : pci ≤ 503 := by
  unfold parseStandardLtePci at h
  split at h
  · cases h
  split at h
  · cases h
  split at h
  · cases h
  split at h
  · cases h
  · rename_i hle
    cases h
    exact Nat.le_of_not_lt hle

theorem finite_of_isfinite {reading : Reading} (hne : (reading != .unavailable) = true)
    (h : reading.isfinite = true) : ∃ value,reading = .finite value := by
  cases reading with
  | unavailable => simp at hne
  | finite value => exact ⟨value,rfl⟩
  | notFinite => cases h

/-- A cell as both loops read it, nothing where both stop. -/
def readCell (modem : Modem) (cell : MmCellInfoLte) : Option L850StandardCell :=
  (if cell.earfcn = uint32Max then none else l850glL850EarfcnToBand cell.earfcn).bind fun band =>
  (if modem.lteBandIsSupported band then parseStandardLtePci cell.physicalCi else none).bind
    fun pci =>
      if (cell.rsrp != .unavailable && !cell.rsrp.isfinite) ||
          (cell.rsrq != .unavailable && !cell.rsrq.isfinite) then none
      else some ⟨if cell.serving then 4 else 5,cell.serving,cell.earfcn,pci,band,cell.rsrp,
        cell.rsrq,cell.rsrp != .unavailable,cell.rsrq != .unavailable⟩

theorem readCell_isCell {cell : MmCellInfoLte} {output : L850StandardCell}
    (h : readCell modem cell = some output) :
    IsCell modem output ∧ output.serving = cell.serving := by
  simp only [readCell,Option.bind_eq_some_iff] at h
  obtain ⟨band,hband,pci,hpci,hread⟩ := h
  split at hband
  · cases hband
  split at hpci
  · rename_i hsupported
    split at hread
    · cases hread
    rename_i hfinite
    simp only [Bool.or_eq_true,Bool.and_eq_true,Bool.not_eq_true',not_or,not_and,
      Bool.not_eq_false] at hfinite
    cases hread
    refine ⟨⟨rfl,hband,hsupported,parseStandardLtePci_le hpci,fun h => ?_,fun h => ?_⟩,rfl⟩
    · exact finite_of_isfinite h (hfinite.1 h)
    · exact finite_of_isfinite h (hfinite.2 h)
  · cases hpci

theorem servingScanStep_lte (cell : MmCellInfoLte) :
    servingScanStep modem scan (.lte cell) = (readCell modem cell).bind fun output =>
      if !output.serving then some scan
      else if scan.servingCount+1 ≠ 1 then none
      else some ⟨scan.servingCount+1,output.earfcn,output.pci,output.band,output.rsrp,output.rsrq,
        output.hasRsrp,output.hasRsrq⟩ := by
  simp only [servingScanStep,readCell]
  by_cases hmax : cell.earfcn = uint32Max
  · simp [hmax]
  rw [if_neg hmax,if_neg hmax]
  cases l850glL850EarfcnToBand cell.earfcn with
  | none => rfl
  | some band =>
    cases hsupported : modem.lteBandIsSupported band with
    | false => simp [hsupported]
    | true =>
      cases parseStandardLtePci cell.physicalCi with
      | none => simp [hsupported]
      | some pci =>
        simp only [Bool.not_true,Bool.false_eq_true,if_false,if_true,hsupported,Option.bind_some]
        split
        · rfl
        · rfl

theorem normalizeStep_lte (cell : MmCellInfoLte) :
    normalizeStep modem state (.lte cell) =
      if l850glL850CellMaxResults ≤ state.normalized.length then none
      else (readCell modem cell).bind fun output =>
        if output.serving && state.servingSeen then none
        else some ⟨state.servingSeen || output.serving,state.normalized++[output]⟩ := by
  simp only [normalizeStep,readCell,l850BandIsSupported,l850ParseStandardPci]
  by_cases hfull : l850glL850CellMaxResults ≤ state.normalized.length
  · rw [if_pos hfull,if_pos hfull]
  rw [if_neg hfull,if_neg hfull]
  by_cases hmax : cell.earfcn = uint32Max
  · simp [hmax]
  rw [if_neg hmax,if_neg hmax]
  cases l850glL850EarfcnToBand cell.earfcn with
  | none => rfl
  | some band =>
    cases hsupported : modem.lteBandIsSupported band with
    | false => simp [hsupported]
    | true =>
      cases parseStandardLtePci cell.physicalCi with
      | none => simp [hsupported]
      | some pci =>
        cases cell.rsrp != .unavailable && !cell.rsrp.isfinite with
        | true => simp [hsupported]
        | false =>
          cases cell.rsrq != .unavailable && !cell.rsrq.isfinite with
          | true => simp [hsupported]
          | false => simp [hsupported]

/-- The two loops after the same items. -/
structure Agree (modem : Modem) (passed : List MmCellInfo) (scan : ServingScan)
    (state : Normalization) : Prop where
  length : state.normalized.length = lteEntries passed
  seen : state.servingSeen = (scan.servingCount == 1)
  atMostOne : scan.servingCount ≤ 1
  serving : servingCells state.normalized = if scan.servingCount = 1 then [scan.cell] else []
  cells : ∀ cell ∈ state.normalized,IsCell modem cell

theorem agree_start : Agree modem [] servingScanStart ⟨false,[]⟩ := by
  constructor
  · rfl
  · rfl
  · decide
  · rfl
  · intro cell hcell
    cases hcell

theorem lteEntries_append (passed : List MmCellInfo) (item : MmCellInfo) :
    lteEntries (passed++[item]) = lteEntries passed+if isLte item then 1 else 0 := by
  simp [lteEntries,List.countP_append,List.countP_cons]

/-- Unless the second loop is full, the two stop together or go on together. -/
theorem agree_step (item : MmCellInfo) (h : Agree modem passed scan state)
    (hroom : isLte item = true → lteEntries passed < l850glL850CellMaxResults) :
    (servingScanStep modem scan item = none ∧ normalizeStep modem state item = none) ∨
      ∃ scan' state',servingScanStep modem scan item = some scan' ∧
        normalizeStep modem state item = some state' ∧
          Agree modem (passed++[item]) scan' state' := by
  cases item with
  | notCellInfo => exact .inl ⟨rfl,rfl⟩
  | notLte => exact .inl ⟨rfl,rfl⟩
  | other =>
    refine .inr ⟨scan,state,rfl,rfl,?_,h.seen,h.atMostOne,h.serving,h.cells⟩
    rw [h.length,lteEntries_append]
    rfl
  | lte cell =>
    have hfull : ¬ l850glL850CellMaxResults ≤ state.normalized.length := by
      rw [h.length]
      exact Nat.not_le_of_lt (hroom rfl)
    rw [servingScanStep_lte,normalizeStep_lte,if_neg hfull]
    cases hread : readCell modem cell with
    | none => exact .inl ⟨rfl,rfl⟩
    | some output =>
      obtain ⟨hcell,-⟩ := readCell_isCell hread
      have hlength : (state.normalized++[output]).length = lteEntries (passed++[.lte cell]) := by
        rw [List.length_append,h.length,lteEntries_append]
        rfl
      have hcells : ∀ other ∈ state.normalized++[output],IsCell modem other := by
        intro other hother
        rcases List.mem_append.mp hother with hother | hother
        · exact h.cells other hother
        · exact List.mem_singleton.mp hother ▸ hcell
      have hserving := h.serving
      simp only [Option.bind_some]
      cases hs : output.serving with
      | false =>
        refine .inr ⟨scan,⟨state.servingSeen,state.normalized++[output]⟩,rfl,by simp,hlength,h.seen,
          h.atMostOne,?_,hcells⟩
        rw [← hserving]
        simp [servingCells,hs]
      | true =>
        by_cases hcount : scan.servingCount = 0
        · -- the first serving cell
          have hseen : state.servingSeen = false := by simp [h.seen,hcount]
          refine .inr ⟨⟨scan.servingCount+1,output.earfcn,output.pci,output.band,output.rsrp,
            output.rsrq,output.hasRsrp,output.hasRsrq⟩,⟨true,state.normalized++[output]⟩,
            by simp [hcount],by simp [hseen],hlength,by simp [hcount],by simp [hcount],?_,hcells⟩
          rw [if_neg (by omega)] at hserving
          have htype := hcell.type
          rw [hs,if_pos rfl] at htype
          have hsame : output = ⟨4,true,output.earfcn,output.pci,output.band,output.rsrp,
              output.rsrq,output.hasRsrp,output.hasRsrq⟩ := by
            rw [← htype,← hs]
          simp only [servingCells,List.filter_append] at hserving ⊢
          rw [hserving,if_pos (by simp [hcount]),List.filter_singleton,hs,List.nil_append]
          exact congrArg (fun cell => [cell]) hsame
        · have hone : scan.servingCount = 1 := by
            have hle := h.atMostOne
            omega
          left
          simp [h.seen,hone]

theorem agree (modem : Modem) (hcount : lteEntries items ≤ l850glL850CellMaxResults) :
    (items.foldlM (servingScanStep modem) servingScanStart = none ∧
      items.foldlM (normalizeStep modem) ⟨false,[]⟩ = none) ∨
    ∃ scan state,items.foldlM (servingScanStep modem) servingScanStart = some scan ∧
      items.foldlM (normalizeStep modem) ⟨false,[]⟩ = some state ∧
        Agree modem items scan state := by
  refine Loop.foldlM_related (Agree modem) ?_ agree_start
  intro passed item rest scan state hitems h
  refine agree_step item h fun hlte => ?_
  have htotal : lteEntries items = lteEntries passed+(lteEntries rest+1) := by
    simp [hitems,lteEntries,List.countP_append,hlte]
  omega

/-- A standard scan that succeeds fits the result and holds cells only. -/
theorem l850NormalizeStandardCells_isCell
    (h : l850NormalizeStandardCells modem items = some cells) :
    cells.length ≤ l850glL850CellMaxResults ∧ ∀ cell ∈ cells,IsCell modem cell := by
  obtain ⟨final,hfold,rfl⟩ := Option.map_eq_some_iff.mp h
  -- the induction carries the two facts through the loop
  have hrun : ∀ (items : List MmCellInfo) (state : Normalization),
      state.normalized.length ≤ l850glL850CellMaxResults →
      (∀ cell ∈ state.normalized,IsCell modem cell) →
      items.foldlM (normalizeStep modem) state = some final →
      final.normalized.length ≤ l850glL850CellMaxResults ∧
        ∀ cell ∈ final.normalized,IsCell modem cell := by
    intro items
    induction items with
    | nil =>
      intro state hlength hcells hstate
      obtain rfl := Option.some.inj hstate
      exact ⟨hlength,hcells⟩
    | cons item items ih =>
      intro state hlength hcells hstate
      rw [List.foldlM_cons] at hstate
      obtain ⟨next,hnext,hrest⟩ := Option.bind_eq_some_iff.mp hstate
      cases item with
      | notCellInfo => cases hnext
      | notLte => cases hnext
      | other =>
        cases hnext
        exact ih state hlength hcells hrest
      | lte cell =>
        rw [normalizeStep_lte] at hnext
        split at hnext
        · cases hnext
        rename_i hroom
        obtain ⟨output,hread,houtput⟩ := Option.bind_eq_some_iff.mp hnext
        split at houtput
        · cases houtput
        cases houtput
        refine ih _ ?_ ?_ hrest
        · rw [List.length_append,List.length_singleton]
          omega
        · intro other hother
          rcases List.mem_append.mp hother with hother | hother
          · exact hcells other hother
          · exact List.mem_singleton.mp hother ▸ (readCell_isCell hread).1
  exact hrun items ⟨false,[]⟩ (Nat.zero_le _) (by simp) hfold

/-- So does the vendor's scan. -/
theorem l850NormalizeVendorCells_isCell {response : CString} {scan : List L850Cell}
    (hscan : l850glL850CellParse response = .ok scan)
    (h : l850NormalizeVendorCells modem scan = some cells) :
    cells.length ≤ l850glL850CellMaxResults ∧ ∀ cell ∈ cells,IsCell modem cell := by
  unfold l850NormalizeVendorCells at h
  split at h
  · cases h
  rename_i hlength
  split at h
  · rename_i hsupported
    cases h
    refine ⟨by rw [List.length_map]; omega,fun cell hcell => ?_⟩
    obtain ⟨input,hinput,rfl⟩ := List.mem_map.mp hcell
    obtain ⟨htype,hserving,hpci,hband⟩ := l850glL850CellParse_cell hscan hinput
    refine ⟨?_,hband,List.all_eq_true.mp hsupported input hinput,hpci,
      fun _ => ⟨_,rfl⟩,fun _ => ⟨_,rfl⟩⟩
    simp only [vendorCell,hserving]
    rcases htype with htype | htype
    · simp [htype]
    · simp [htype]
  · cases h

/-- A cell that the scans hand on is taken into the cache. -/
theorem servingCellCacheStore_isCell (hlive : modem.live = true) {cell : L850StandardCell}
    (h : IsCell modem cell) (now : Int) (cache : ServingCellCache) (reason : String) :
    servingCellCacheStore modem now cache cell.earfcn cell.pci cell.band cell.rsrp cell.hasRsrp
      cell.rsrq cell.hasRsrq reason =
      (true,⟨true,modem.generation,cell.earfcn,cell.pci,cell.band,cell.rsrp,cell.rsrq,cell.hasRsrp,
        cell.hasRsrq,now,reason⟩) := by
  have hrsrp : (cell.hasRsrp && !cell.rsrp.isfinite) = false := by
    cases hhas : cell.hasRsrp with
    | false => rfl
    | true =>
      obtain ⟨value,hvalue⟩ := h.rsrp hhas
      rw [hvalue]
      rfl
  have hrsrq : (cell.hasRsrq && !cell.rsrq.isfinite) = false := by
    cases hhas : cell.hasRsrq with
    | false => rfl
    | true =>
      obtain ⟨value,hvalue⟩ := h.rsrq hhas
      rw [hvalue]
      rfl
  have hpci : ¬ 503 < cell.pci := Nat.not_lt_of_le h.pci
  simp [servingCellCacheStore,hlive,hpci,h.band,h.supported,hrsrp,hrsrq]

/-- The fields of a record whose serving cell is of whole readings. -/
def ServingCellCache.ofRecord (cell : ServingCell) : ServingCellCache :=
  ⟨true,cell.generation,cell.earfcn,cell.pci,cell.band,.finite cell.rsrpDbm,
    .finite (cell.rsrqTenthsDb/10),true,true,cell.updatedAt,cell.reason⟩

/-- The cached cell of the vendor's scan is that of the mutation's own check. -/
theorem servingCellCacheStore_vendorCell (modem : Modem) (now : Int) (cache : ServingCellCache)
    (input : L850Cell) (reason : String) :
    servingCellCacheStore modem now cache input.earfcn input.pci input.band
      (vendorCell input).rsrp (vendorCell input).hasRsrp (vendorCell input).rsrq
      (vendorCell input).hasRsrq reason =
      ((modem.servingCellCacheStore now input reason).bind (·.servingCell)).elim (false,cache)
        fun cell => (true,.ofRecord cell) := by
  have hrsrp : (vendorCell input).rsrp.isfinite = true := rfl
  have hrsrq : (vendorCell input).rsrq.isfinite = true := rfl
  simp only [servingCellCacheStore,Modem.servingCellCacheStore,hrsrp,hrsrq,Bool.not_true,
    Bool.and_false,Bool.or_false]
  by_cases h : (!modem.live || decide (503 < input.pci) ||
      l850glL850EarfcnToBand input.earfcn != some input.band ||
      !modem.lteBandIsSupported input.band) = true
  · rw [if_pos h,if_pos h]
    rfl
  · rw [if_neg h,if_neg h]
    rfl

/-- The cache is written exactly when the scan succeeds with one serving cell, with that cell. -/
theorem servingCellCacheStoreStandard_normalize (modem : Modem) (hlive : modem.live = true)
    (now : Int) (cache : ServingCellCache) (items : List MmCellInfo)
    (hcount : lteEntries items ≤ l850glL850CellMaxResults) :
    ((servingCellCacheStoreStandard modem now cache items).1 = true ↔
      ∃ cells cell,l850NormalizeStandardCells modem items = some cells ∧
        servingCells cells = [cell]) ∧
    (∀ cells cell,l850NormalizeStandardCells modem items = some cells →
      servingCells cells = [cell] →
      (servingCellCacheStoreStandard modem now cache items).2 =
        ⟨true,modem.generation,cell.earfcn,cell.pci,cell.band,cell.rsrp,cell.rsrq,cell.hasRsrp,
          cell.hasRsrq,now,"standard-cell-info"⟩) ∧
    ((servingCellCacheStoreStandard modem now cache items).1 = false →
      (servingCellCacheStoreStandard modem now cache items).2 = cache) := by
  rcases agree modem hcount with ⟨hscan,hstate⟩ | ⟨scan,state,hscan,hstate,h⟩
  · have hstore : servingCellCacheStoreStandard modem now cache items = (false,cache) := by
      rw [servingCellCacheStoreStandard,hscan]
    have hnone : l850NormalizeStandardCells modem items = none := by
      rw [l850NormalizeStandardCells,hstate]
      rfl
    rw [hstore,hnone]
    simp
  have hsome : l850NormalizeStandardCells modem items = some state.normalized := by
    rw [l850NormalizeStandardCells,hstate]
    rfl
  have hserving := h.serving
  by_cases hone : scan.servingCount = 1
  · rw [if_pos hone] at hserving
    have hmem : scan.cell ∈ servingCells state.normalized := by simp [hserving]
    have hcell := h.cells scan.cell (List.mem_filter.mp hmem).1
    have hstore := servingCellCacheStore_isCell hlive hcell now cache "standard-cell-info"
    have hstandard : servingCellCacheStoreStandard modem now cache items =
        (true,⟨true,modem.generation,scan.earfcn,scan.pci,scan.band,scan.rsrp,scan.rsrq,
          scan.hasRsrp,scan.hasRsrq,now,"standard-cell-info"⟩) := by
      rw [servingCellCacheStoreStandard,hscan]
      dsimp only
      rw [if_pos hone]
      exact hstore
    rw [hstandard,hsome]
    refine ⟨⟨fun _ => ⟨_,_,rfl,hserving⟩,fun _ => rfl⟩,?_,fun h => by cases h⟩
    intro cells cell hcells hthe
    obtain rfl := Option.some.inj hcells
    rw [hserving] at hthe
    obtain rfl := List.singleton_inj.mp hthe
    rfl
  · rw [if_neg hone] at hserving
    have hstandard : servingCellCacheStoreStandard modem now cache items = (false,cache) := by
      rw [servingCellCacheStoreStandard,hscan]
      dsimp only
      rw [if_neg hone]
    rw [hstandard,hsome]
    have hnone : ∀ cells cell,some state.normalized = some cells →
        servingCells cells ≠ [cell] := by
      intro cells cell hcells heq
      obtain rfl := Option.some.inj hcells
      rw [hserving] at heq
      cases heq
    refine ⟨⟨fun htrue => (by cases htrue),?_⟩,?_,fun _ => rfl⟩
    · rintro ⟨cells,cell,hcells,heq⟩
      exact absurd heq (hnone cells cell hcells)
    · intro cells cell hcells heq
      exact absurd heq (hnone cells cell hcells)

/-- A serving cell without RSRQ and another one. -/
def sampleItems : List MmCellInfo :=
  [.other,.lte ⟨1850,some "1A".toList,true,.finite (-95),.unavailable⟩,
    .lte ⟨1300,some "1f7".toList,false,.unavailable,.unavailable⟩]

def sampleCache : ServingCellCache :=
  ⟨false,0,0,0,0,.unavailable,.unavailable,false,false,0,""⟩

theorem servingCellCacheStoreStandard_normalize_sample :
    (servingCellCacheStoreStandard (sampleModem true 10 1) 5 sampleCache sampleItems).1 = true := by
  have h := servingCellCacheStoreStandard_normalize (sampleModem true 10 1) rfl 5 sampleCache
    sampleItems (by decide)
  exact h.1.mpr ⟨[⟨4,true,1850,26,3,.finite (-95),.unavailable,true,false⟩,
    ⟨5,false,1300,503,3,.unavailable,.unavailable,false,false⟩],
    ⟨4,true,1850,26,3,.finite (-95),.unavailable,true,false⟩,by decide,by decide⟩

end CellInfo
end L850GL
