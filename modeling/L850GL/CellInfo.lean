import L850GL.Modem

/-! The cells of `GetCellInfo`: what the cached serving cell takes from them and what a standard
scan makes of them (`ubus_glib.c`). -/
namespace L850GL
namespace CellInfo

open Cell Text

/-- A reading of a cell: the marker `-G_MAXDOUBLE`, another finite number, or no finite number. -/
inductive Reading
  | unavailable
  | finite (value : Rat)
  | notFinite
  deriving DecidableEq,Repr

/-- `isfinite`; the marker is a finite number. -/
def Reading.isfinite : Reading → Bool
  | .unavailable | .finite _ => true
  | .notFinite => false

structure MmCellInfoLte where
  earfcn : Nat
  physicalCi : Option CString
  serving : Bool
  rsrp : Reading
  rsrq : Reading
  deriving DecidableEq,Repr

/-- An item of the list: no cell, a cell of another type, a cell that says LTE but is none, or an
LTE cell. -/
inductive MmCellInfo
  | notCellInfo
  | other
  | notLte
  | lte (cell : MmCellInfoLte)
  deriving DecidableEq,Repr

structure L850StandardCell where
  type : Nat
  serving : Bool
  earfcn : Nat
  pci : Nat
  band : Nat
  rsrp : Reading
  rsrq : Reading
  hasRsrp : Bool
  hasRsrq : Bool
  deriving DecidableEq,Repr

/-- The fields `serving_cell_*` of a modem record. -/
structure ServingCellCache where
  valid : Bool
  generation : Nat
  earfcn : Nat
  pci : Nat
  band : Nat
  rsrp : Reading
  rsrq : Reading
  hasRsrp : Bool
  hasRsrq : Bool
  updatedAt : Int
  reason : String
  deriving DecidableEq,Repr

def parseStandardLtePci : Option CString → Option Nat
  | none => none
  | some value =>
    if value.length = 0 ∨ 8 < value.length then none
    else match accumulate 16 uint32Max 0 value with
      | none => none
      | some parsed => if 503 < parsed then none else some parsed

def servingCellCacheStore (modem : Modem) (now : Int) (cache : ServingCellCache)
    (earfcn pci band : Nat) (rsrp : Reading) (hasRsrp : Bool) (rsrq : Reading) (hasRsrq : Bool)
    (reason : String) : Bool × ServingCellCache :=
  if !modem.live || 503 < pci || l850glL850EarfcnToBand earfcn != some band ||
      !modem.lteBandIsSupported band || (hasRsrp && !rsrp.isfinite) ||
      (hasRsrq && !rsrq.isfinite) then (false,cache)
  else (true,⟨true,modem.generation,earfcn,pci,band,rsrp,rsrq,hasRsrp,hasRsrq,now,reason⟩)

/-- The variables of the loop of `serving_cell_cache_store_standard`. -/
structure ServingScan where
  servingCount : Nat
  earfcn : Nat
  pci : Nat
  band : Nat
  rsrp : Reading
  rsrq : Reading
  hasRsrp : Bool
  hasRsrq : Bool
  deriving DecidableEq,Repr

def servingScanStart : ServingScan := ⟨0,0,0,0,.finite 0,.finite 0,false,false⟩

/-- The body of that loop, nothing where the function returns. -/
def servingScanStep (modem : Modem) (scan : ServingScan) : MmCellInfo → Option ServingScan
  | .notCellInfo => none
  | .other => some scan
  | .notLte => none
  | .lte cell =>
    if cell.earfcn = uint32Max then none
    else match l850glL850EarfcnToBand cell.earfcn with
      | none => none
      | some band =>
        if !modem.lteBandIsSupported band then none
        else match parseStandardLtePci cell.physicalCi with
          | none => none
          | some pci =>
            if (cell.rsrp != .unavailable && !cell.rsrp.isfinite) ||
                (cell.rsrq != .unavailable && !cell.rsrq.isfinite) then none
            else if !cell.serving then some scan
            else if scan.servingCount+1 ≠ 1 then none
            else some ⟨scan.servingCount+1,cell.earfcn,pci,band,cell.rsrp,cell.rsrq,
              cell.rsrp != .unavailable,cell.rsrq != .unavailable⟩

def servingCellCacheStoreStandard (modem : Modem) (now : Int) (cache : ServingCellCache)
    (items : List MmCellInfo) : Bool × ServingCellCache :=
  match items.foldlM (servingScanStep modem) servingScanStart with
  | none => (false,cache)
  | some scan =>
    if scan.servingCount = 1 then
      servingCellCacheStore modem now cache scan.earfcn scan.pci scan.band scan.rsrp scan.hasRsrp
        scan.rsrq scan.hasRsrq "standard-cell-info"
    else (false,cache)

def l850BandIsSupported (modem : Modem) (band : Nat) : Bool := modem.lteBandIsSupported band

def l850ParseStandardPci (value : Option CString) : Option Nat := parseStandardLtePci value

/-- The variables of the loop of `l850_normalize_standard_cells`. -/
structure Normalization where
  servingSeen : Bool
  normalized : List L850StandardCell
  deriving DecidableEq,Repr

/-- The body of that loop, nothing where the function returns. -/
def normalizeStep (modem : Modem) (state : Normalization) : MmCellInfo → Option Normalization
  | .notCellInfo => none
  | .other => some state
  | .notLte => none
  | .lte cell =>
    if l850glL850CellMaxResults ≤ state.normalized.length then none
    else if cell.earfcn = uint32Max then none
    else match l850glL850EarfcnToBand cell.earfcn with
      | none => none
      | some band =>
        if !l850BandIsSupported modem band then none
        else if cell.serving && state.servingSeen then none
        else match l850ParseStandardPci cell.physicalCi with
          | none => none
          | some pci =>
            if cell.rsrp != .unavailable && !cell.rsrp.isfinite then none
            else if cell.rsrq != .unavailable && !cell.rsrq.isfinite then none
            else some ⟨state.servingSeen || cell.serving,state.normalized++
              [⟨if cell.serving then 4 else 5,cell.serving,cell.earfcn,pci,band,cell.rsrp,
                cell.rsrq,cell.rsrp != .unavailable,cell.rsrq != .unavailable⟩]⟩

def l850NormalizeStandardCells (modem : Modem) (items : List MmCellInfo) :
    Option (List L850StandardCell) :=
  (items.foldlM (normalizeStep modem) ⟨false,[]⟩).map (·.normalized)

/-- What `l850_normalize_vendor_cells` writes for a decoded record. -/
def vendorCell (input : L850Cell) : L850StandardCell :=
  ⟨input.type,input.serving,input.earfcn,input.pci,input.band,.finite input.rsrpDbm,
    .finite ((input.rsrqTenthsDb : Rat)/10),true,true⟩

def l850NormalizeVendorCells (modem : Modem) (scan : List L850Cell) :
    Option (List L850StandardCell) :=
  if l850glL850CellMaxResults < scan.length then none
  else if scan.all fun input => l850BandIsSupported modem input.band then
    some (scan.map vendorCell)
  else none

end CellInfo
end L850GL
