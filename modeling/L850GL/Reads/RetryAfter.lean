import L850GL.Reads

/-! The retry hints of the cell scan and of the carrier query in the 64-bit arithmetic of the
source. -/
namespace L850GL
namespace Reads

open Cell Mutation

/-- The value of an expression of type `int64_t`, nothing when it overflows. -/
def int64Value (value : Int) : Option Int :=
  if Int64.minValue.toInt ≤ value ∧ value ≤ Int64.maxValue.toInt then some value else none

/-- The conversion to `uint32_t`, nothing when it changes the value. -/
def uint32Value (value : Int) : Option Nat :=
  if 0 ≤ value ∧ value ≤ uint32Max then some value.toNat else none

/-- The common body of the two hints, nothing when an operation overflows. -/
def checkedRetryAfterMs (intervalSeconds : Nat) (now last : Int64) : Option Nat :=
  (int64Value (intervalSeconds*Bridge.usec)).bind fun interval =>
    if now < 0 ∨ last ≤ 0 then some 0
    else if now < last then uint32Value (intervalSeconds*1000)
    else (int64Value (now.toInt-last.toInt)).bind fun elapsed =>
      if elapsed ≥ interval then some 0
      else (int64Value (interval-elapsed)).bind fun remaining =>
        (int64Value (remaining+999)).bind fun rounded =>
          let remaining := rounded.tdiv 1000
          if remaining > uint32Max then some uint32Max else uint32Value remaining

def checkedScanRetryAfterMs : Int64 → Int64 → Option Nat :=
  checkedRetryAfterMs l850glL850CellScanCooldownSeconds

def checkedCaRetryAfterMs : Int64 → Int64 → Option Nat :=
  checkedRetryAfterMs l850glL850CaQueryCooldownSeconds

variable {now last : Int64} {value : Int}

theorem int64Value_eq_some (h : -(2^63) ≤ value) (h' : value < 2^63) :
    int64Value value = some value := by
  have hmin : Int64.minValue.toInt = -(2^63) := by decide
  have hmax : Int64.maxValue.toInt = 2^63-1 := by decide
  rw [int64Value,if_pos]
  omega

theorem uint32Value_eq_some (h : 0 ≤ value) (h' : value ≤ uint32Max) :
    uint32Value value = some value.toNat := if_pos ⟨h,h'⟩

/-- With an interval of five seconds no operation overflows, whatever the times are. -/
theorem checkedRetryAfterMs_eq (now last : Int64) :
    checkedRetryAfterMs 5 now last = some (retryAfterMs 5 now.toInt last.toInt) := by
  have husec : Bridge.usec = 1000000 := rfl
  have hmax : uint32Max = 4294967295 := rfl
  have hnow : now < 0 ↔ now.toInt < 0 := Int64.lt_iff_toInt_lt
  have hlast : last ≤ 0 ↔ last.toInt ≤ 0 := Int64.le_iff_toInt_le
  have horder : now < last ↔ now.toInt < last.toInt := Int64.lt_iff_toInt_lt
  have hupper := now.toInt_lt
  unfold checkedRetryAfterMs retryAfterMs
  simp only [hnow,hlast,horder,husec]
  rw [int64Value_eq_some (by decide) (by decide)]
  dsimp only [Option.bind_some]
  by_cases hearly : now.toInt < 0 ∨ last.toInt ≤ 0
  · rw [if_pos hearly,if_pos hearly]
  rw [if_neg hearly,if_neg hearly]
  by_cases hbefore : now.toInt < last.toInt
  · rw [if_pos hbefore,if_pos hbefore,uint32Value_eq_some (by omega) (by omega)]
    rfl
  rw [if_neg hbefore,if_neg hbefore,int64Value_eq_some (by omega) (by omega)]
  dsimp only [Option.bind_some]
  by_cases hover : now.toInt-last.toInt ≥ ((5 : Nat) : Int)*1000000
  · rw [if_pos hover,if_pos hover]
  rw [if_neg hover,if_neg hover,int64Value_eq_some (by omega) (by omega)]
  dsimp only [Option.bind_some]
  rw [int64Value_eq_some (by omega) (by omega)]
  dsimp only [Option.bind_some]
  -- what is left of the interval is positive, where the division of C rounds down
  have hrounded : (0 : Int) ≤ ((5 : Nat) : Int)*1000000-(now.toInt-last.toInt)+999 := by omega
  rw [Int.tdiv_eq_ediv_of_nonneg hrounded,if_neg (by omega),
    uint32Value_eq_some (by omega) (by omega),Nat.min_eq_left (by omega)]

/-- The hint is the time that is left of the interval, in milliseconds and rounded up. -/
theorem retryAfterMs_eq (now : Int) {last : Int} (hlast : 0 < last) (horder : last ≤ now) :
    (retryAfterMs 5 now last : Int) =
      if 5*Bridge.usec ≤ now-last then 0 else (5*Bridge.usec-(now-last)+999)/1000 := by
  have husec : Bridge.usec = 1000000 := rfl
  have hmax : uint32Max = 4294967295 := rfl
  rw [retryAfterMs,if_neg (by omega),if_neg (by omega),husec]
  by_cases hover : (5 : Int)*1000000 ≤ now-last
  · rw [if_pos (by exact hover),if_pos hover]
    rfl
  · rw [if_neg (by exact hover),if_neg hover,Nat.min_eq_left (by omega),
      Int.toNat_of_nonneg (by omega)]
    rfl

/-- A hint that is computed without an overflow: it is zero once the interval is over, and a
client that waits as long as it says is not refused again, nor would it be served any sooner. -/
structure TightHint (hint : Int64 → Int64 → Option Nat) (now last : Int64) (h : Nat) : Prop where
  computed : hint now last = some h
  elapsed : h = 0 ↔ 5*Bridge.usec ≤ now.toInt-last.toInt
  range : h ≠ 0 → 1 ≤ h ∧ h ≤ 5000
  after : h ≠ 0 → ∀ later : Int64,later.toInt = now.toInt+(h : Int)*1000 → hint later last = some 0
  before : h ≠ 0 → ∀ earlier : Int64,earlier.toInt = now.toInt+((h : Int)-1)*1000 →
    ∃ h',hint earlier last = some h' ∧ h' ≠ 0

theorem checkedRetryAfterMs_tight (hlast : 0 < last.toInt) (horder : last.toInt ≤ now.toInt) :
    TightHint (checkedRetryAfterMs 5) now last (retryAfterMs 5 now.toInt last.toInt) := by
  have husec : Bridge.usec = 1000000 := rfl
  have hhint := retryAfterMs_eq now.toInt hlast horder
  refine ⟨checkedRetryAfterMs_eq now last,?_,?_,fun hwaits later hlater => ?_,
    fun hwaits earlier hearlier => ?_⟩
  · constructor
    · intro hzero
      rw [hzero] at hhint
      split at hhint
      · assumption
      · omega
    · intro hover
      rw [if_pos hover] at hhint
      omega
  · intro hwaits
    split at hhint <;> omega
  · rw [checkedRetryAfterMs_eq,Option.some.injEq]
    have hlaterHint := retryAfterMs_eq later.toInt hlast (by omega)
    split at hhint
    · omega
    · rw [if_pos (by omega)] at hlaterHint
      omega
  · refine ⟨_,checkedRetryAfterMs_eq earlier last,?_⟩
    have hearlierHint := retryAfterMs_eq earlier.toInt hlast (by omega)
    split at hhint
    · omega
    · rw [if_neg (by omega)] at hearlierHint
      omega

/-- The hints of the scan and of the carrier query. -/
theorem retryHints_tight (now last : Int64) (hlast : 0 < last.toInt)
    (horder : last.toInt ≤ now.toInt) :
    (∃ h,TightHint checkedScanRetryAfterMs now last h) ∧
      ∃ h,TightHint checkedCaRetryAfterMs now last h :=
  ⟨⟨_,checkedRetryAfterMs_tight hlast horder⟩,⟨_,checkedRetryAfterMs_tight hlast horder⟩⟩

/-- The last microsecond of the interval at the end of the time. -/
theorem retryHints_tight_sample :
    (∃ h,TightHint checkedScanRetryAfterMs 9223372036854775807 9223372036849775808 h) ∧
      ∃ h,TightHint checkedCaRetryAfterMs 9223372036854775807 9223372036849775808 h :=
  retryHints_tight 9223372036854775807 9223372036849775808 (by decide) (by decide)

end Reads
end L850GL
