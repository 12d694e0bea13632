import L850GL.Ca.Records
import L850GL.Cell.Numerals

/-! The token parsers of `l850_cell.c`, `l850_ca.c` and `l850_voltage.c` on the words of the
source, where an operation may wrap. -/
namespace L850GL
namespace MachineNumerals

open Text TextFormat Cell Ca

def digitWord (base : UInt32) (character : Char) : Option UInt32 :=
  if '0' ≤ character ∧ character ≤ '9' then some (character.val - '0'.val)
  else if base = 16 ∧ 'a' ≤ character ∧ character ≤ 'f' then some (character.val - 'a'.val+10)
  else if base = 16 ∧ 'A' ≤ character ∧ character ≤ 'F' then some (character.val - 'A'.val+10)
  else none

/-- A digit loop: its accumulator, the guard before an accumulation, and the accumulation. -/
structure DigitLoop (W : Type) where
  base : UInt32
  exceeds : W → UInt32 → Bool
  advance : W → UInt32 → W

def DigitLoop.run {W : Type} (loop : DigitLoop W) : W → CString → Option W
  | result, [] => some result
  | result, character::rest =>
    (digitWord loop.base character).bind fun digit =>
      if loop.exceeds result digit then none else loop.run (loop.advance result digit) rest

/-- The loop of both `parse_uint32`: a 64-bit accumulator behind a guard of 32 bits. -/
def uint32Loop (base : UInt32) : DigitLoop UInt64 where
  base := base
  exceeds result digit := decide (result > ((4294967295-digit)/base).toUInt64)
  advance result digit := result*base.toUInt64+digit.toUInt64

def int32Loop (base : UInt32) (limit : UInt64) : DigitLoop UInt64 where
  base := base
  exceeds result digit := decide (result > (limit-digit.toUInt64)/base.toUInt64)
  advance result digit := result*base.toUInt64+digit.toUInt64

/-- The loop of the voltage module, all in 32 bits. -/
def voltageLoop : DigitLoop UInt32 where
  base := 10
  exceeds result digit := decide (result > (4294967295-digit)/10)
  advance result digit := result*10+digit

def runBases (loop : UInt32 → DigitLoop UInt64) (value : CString) : Option UInt64 :=
  match value with
  | [] => none
  | '0'::x::digits =>
    if x = 'x' ∨ x = 'X' then if digits = [] then none else (loop 16).run 0 digits
    else (loop 10).run 0 value
  | _ => (loop 10).run 0 value

def runDecimal {W : Type} (loop : DigitLoop W) (zero : W) (value : CString) : Option W :=
  if value = [] then none else loop.run zero value

def storeInt32 (negative : Bool) (result : UInt64) : Int32 :=
  if negative && result == 2147483647+1 then Int32.minValue
  else if negative then -result.toUInt32.toInt32
  else result.toUInt32.toInt32

def int32Limit (negative : Bool) : UInt64 := if negative then 2147483647+1 else 2147483647

/-- The sign of `parse_int32`, with a reader of magnitudes up to a limit. -/
def parseSigned (magnitude : UInt64 → CString → Option UInt64) (value : CString) : Option Int32 :=
  match value with
  | '-'::digits => (magnitude (int32Limit true) digits).map (storeInt32 true)
  | _ => (magnitude (int32Limit false) value).map (storeInt32 false)

/-- `parse_uint32` of `l850_cell.c`. -/
def cellParseUint32 (value : CString) : Option UInt32 :=
  (runBases uint32Loop value).map UInt64.toUInt32

def cellParseInt32 (value : CString) : Option Int32 :=
  parseSigned (fun limit => runBases fun base => int32Loop base limit) value

/-- `parse_uint32_decimal` of `l850_ca.c`. -/
def caParseUint32Decimal (value : CString) : Option UInt32 :=
  (runDecimal (uint32Loop 10) 0 value).map UInt64.toUInt32

def caParseInt32Decimal (value : CString) : Option Int32 :=
  parseSigned (fun limit => runDecimal (int32Loop 10 limit) 0) value

/-- `parse_uint32_decimal` of `l850_voltage.c`. -/
def voltageParseUint32Decimal (value : CString) : Option UInt32 := runDecimal voltageLoop 0 value

/-- Neither the guard of a loop nor its accumulation wraps, on any accumulator. -/
structure DigitLoop.Exact {W : Type} (loop : DigitLoop W) (toNat : W → Nat) (limit : Nat) :
    Prop where
  guard : ∀ result digit,digit < loop.base → digit.toNat ≤ limit ∧
    (loop.exceeds result digit = true ↔ (limit-digit.toNat)/loop.base.toNat < toNat result)
  accumulates : ∀ result digit,digit < loop.base → loop.exceeds result digit = false →
    toNat (loop.advance result digit) = toNat result*loop.base.toNat+digit.toNat

variable {W : Type} {loop : DigitLoop W} {toNat : W → Nat} {limit : Nat} {value : CString}

theorem toNat_lt_sixteen {base digit : UInt32} (hbase : base = 10 ∨ base = 16)
    (hdigit : digit < base) : digit.toNat < 16 ∧ digit.toNat < base.toNat ∧ base.toNat ≤ 16 := by
  rw [UInt32.lt_iff_toNat_lt] at hdigit
  have hle : base.toNat ≤ 16 := by
    rcases hbase with rfl | rfl
    · decide
    · decide
  omega

theorem toNat_guard {digit : UInt32} (hdigit : digit.toNat < 16) :
    (4294967295-digit : UInt32).toNat = uint32Max-digit.toNat := by
  have hmax : (4294967295 : UInt32).toNat = uint32Max := rfl
  have hvalue : uint32Max = 4294967295 := rfl
  rw [UInt32.toNat_sub_of_le,hmax]
  rw [UInt32.le_iff_toNat_le,hmax]
  omega

theorem accumulation_le {base limit result digit : Nat} (hbase : 0 < base) (hdigit : digit ≤ limit)
    (h : result ≤ (limit-digit)/base) : result*base+digit ≤ limit := by
  rw [Nat.le_div_iff_mul_le hbase] at h
  omega

theorem voltageLoop_exact : voltageLoop.Exact UInt32.toNat uint32Max := by
  have hmax : uint32Max = 4294967295 := rfl
  have hten : (10 : UInt32).toNat = 10 := rfl
  have hguard : ∀ result digit : UInt32,digit < 10 → (voltageLoop.exceeds result digit = true ↔
      (uint32Max-digit.toNat)/10 < result.toNat) := by
    intro result digit hdigit
    have hsmall := (toNat_lt_sixteen (.inl rfl) hdigit).1
    simp only [voltageLoop,decide_eq_true_eq,gt_iff_lt]
    rw [UInt32.lt_iff_toNat_lt,UInt32.toNat_div,toNat_guard hsmall,hten]
  refine ⟨fun result digit hdigit => ⟨?_,hguard result digit hdigit⟩,
    fun result digit hdigit hgo => ?_⟩
  · have hsmall := (toNat_lt_sixteen (.inl rfl) hdigit).1
    omega
  · have hsmall := (toNat_lt_sixteen (.inl rfl) hdigit).1
    have hpassed : ¬(uint32Max-digit.toNat)/10 < result.toNat := by
      rw [← hguard result digit hdigit,hgo]
      decide
    have hle := accumulation_le (by decide) (by omega) (Nat.le_of_not_lt hpassed)
    simp only [voltageLoop,UInt32.toNat_add,UInt32.toNat_mul,hten]
    rw [Nat.mod_eq_of_lt (a:=result.toNat*10) (by omega),Nat.mod_eq_of_lt (by omega)]

theorem toNat_accumulate {base digit : UInt32} {result : UInt64}
    (hle : result.toNat*base.toNat+digit.toNat < 2^64) :
    (result*base.toUInt64+digit.toUInt64).toNat = result.toNat*base.toNat+digit.toNat := by
  rw [UInt64.toNat_add,UInt64.toNat_mul,UInt32.toNat_toUInt64,UInt32.toNat_toUInt64,
    Nat.mod_eq_of_lt (a:=result.toNat*base.toNat) (by omega),Nat.mod_eq_of_lt hle]

theorem uint32Loop_exact {base : UInt32} (hbase : base = 10 ∨ base = 16) :
    (uint32Loop base).Exact UInt64.toNat uint32Max := by
  have hmax : uint32Max = 4294967295 := rfl
  have hguard : ∀ result digit,digit < base → ((uint32Loop base).exceeds result digit = true ↔
      (uint32Max-digit.toNat)/base.toNat < result.toNat) := by
    intro result digit hdigit
    have hsmall := (toNat_lt_sixteen hbase hdigit).1
    simp only [uint32Loop,decide_eq_true_eq,gt_iff_lt]
    rw [UInt64.lt_iff_toNat_lt,UInt32.toNat_toUInt64,UInt32.toNat_div,toNat_guard hsmall]
  refine ⟨fun result digit hdigit => ⟨?_,hguard result digit hdigit⟩,
    fun result digit hdigit hgo => toNat_accumulate ?_⟩
  · have hsmall := (toNat_lt_sixteen hbase hdigit).1
    omega
  · obtain ⟨hsmall,hlt,-⟩ := toNat_lt_sixteen hbase hdigit
    have hpassed : ¬(uint32Max-digit.toNat)/base.toNat < result.toNat := by
      rw [← hguard result digit hdigit,hgo]
      decide
    have hle := accumulation_le (Nat.zero_lt_of_lt hlt) (by omega) (Nat.le_of_not_lt hpassed)
    omega

theorem int32Loop_exact {base : UInt32} (hbase : base = 10 ∨ base = 16) (negative : Bool) :
    (int32Loop base (int32Limit negative)).Exact UInt64.toNat (int32Limit negative).toNat := by
  have hlimit : 15 ≤ (int32Limit negative).toNat ∧ (int32Limit negative).toNat ≤ uint32Max := by
    cases negative with
    | false => decide
    | true => decide
  have hmax : uint32Max = 4294967295 := rfl
  have hguard : ∀ result digit,digit < base →
      ((int32Loop base (int32Limit negative)).exceeds result digit = true ↔
        ((int32Limit negative).toNat-digit.toNat)/base.toNat < result.toNat) := by
    intro result digit hdigit
    have hsmall := (toNat_lt_sixteen hbase hdigit).1
    simp only [int32Loop,decide_eq_true_eq,gt_iff_lt]
    rw [UInt64.lt_iff_toNat_lt,UInt64.toNat_div,UInt32.toNat_toUInt64,UInt64.toNat_sub_of_le,
      UInt32.toNat_toUInt64]
    rw [UInt64.le_iff_toNat_le,UInt32.toNat_toUInt64]
    omega
  refine ⟨fun result digit hdigit => ⟨?_,hguard result digit hdigit⟩,
    fun result digit hdigit hgo => toNat_accumulate ?_⟩
  · have hsmall := (toNat_lt_sixteen hbase hdigit).1
    omega
  · obtain ⟨hsmall,hlt,-⟩ := toNat_lt_sixteen hbase hdigit
    have hpassed : ¬((int32Limit negative).toNat-digit.toNat)/base.toNat < result.toNat := by
      rw [← hguard result digit hdigit,hgo]
      decide
    have hle := accumulation_le (Nat.zero_lt_of_lt hlt) (by omega) (Nat.le_of_not_lt hpassed)
    omega

theorem digitWord_toNat {base : UInt32} (hbase : base = 10 ∨ base = 16) (character : Char) :
    (digitWord base character).map UInt32.toNat = baseDigit base.toNat character := by
  have hsub : ∀ low : Char,low ≤ character →
      (character.val-low.val).toNat = character.toNat-low.toNat :=
    fun low hlow => UInt32.toNat_sub_of_le _ _ hlow
  have hletter : ∀ low high : Char,high.toNat = low.toNat+5 → low ≤ character ∧ character ≤ high →
      (character.val-low.val+10).toNat = character.toNat-low.toNat+10 := by
    intro low high hhigh hc
    have hle : character.toNat ≤ high.toNat := hc.2
    have hten : (10 : UInt32).toNat = 10 := rfl
    rw [UInt32.toNat_add,hsub low hc.1,hten]
    omega
  rcases hbase with rfl | rfl
  · simp only [digitWord,show ¬(10 : UInt32) = 16 by decide,false_and,if_false]
    show _ = decimalDigit character
    unfold decimalDigit
    split
    · rename_i hc
      exact congrArg some (hsub '0' hc.1)
    · rfl
  · simp only [digitWord,true_and]
    show _ = hexDigit character
    unfold hexDigit
    split
    · rename_i hc
      exact congrArg some (hsub '0' hc.1)
    split
    · rename_i hc
      rw [Option.map_some,hletter 'a' 'f' rfl hc]
    split
    · rename_i hc
      rw [Option.map_some,hletter 'A' 'F' rfl hc]
    · rfl

theorem digitWord_lt {base digit : UInt32} {character : Char} (hbase : base = 10 ∨ base = 16)
    (h : digitWord base character = some digit) : digit < base := by
  rw [UInt32.lt_iff_toNat_lt]
  have hdigit : baseDigit base.toNat character = some digit.toNat := by
    rw [← digitWord_toNat hbase,h]
    rfl
  rcases hbase with rfl | rfl
  · exact decimalDigit_lt hdigit
  · exact hexDigit_lt hdigit

/-- A loop that does not wrap computes what the loop on numbers computes. -/
theorem DigitLoop.Exact.run_toNat (h : loop.Exact toNat limit)
    (hbase : loop.base = 10 ∨ loop.base = 16) (result : W) (value : CString) :
    (loop.run result value).map toNat =
      accumulate loop.base.toNat limit (toNat result) value := by
  induction value generalizing result with
  | nil => rfl
  | cons character rest ih =>
    simp only [DigitLoop.run,accumulate,← digitWord_toNat hbase]
    cases hdigit : digitWord loop.base character with
    | none => rfl
    | some digit =>
      have hlt := digitWord_lt hbase hdigit
      obtain ⟨-,hguard⟩ := h.guard result digit hlt
      simp only [Option.bind_some,Option.map_some,Option.bind_eq_bind]
      by_cases hexceeds : loop.exceeds result digit = true
      · rw [if_pos hexceeds,if_pos (hguard.mp hexceeds)]
        rfl
      · rw [if_neg hexceeds,if_neg (fun hover => hexceeds (hguard.mpr hover)),ih,
          h.accumulates result digit hlt (by simpa using hexceeds)]

/-- An integer as a numeral of a grammar, with a minus sign when it is negative. -/
inductive IntegerNumeral (numeral : CString → Nat → Prop) : CString → Int → Prop
  | positive {value : CString} {n : Nat} (h : numeral value n) : IntegerNumeral numeral value n
  | negative {value : CString} {n : Nat} (h : numeral value n) :
      IntegerNumeral numeral ('-'::value) (-n)

def DecimalNumeral (value : CString) (n : Nat) : Prop :=
  value ≠ [] ∧ Digits decimalDigit 10 0 value n

theorem runBases_decimal {loop : UInt32 → DigitLoop UInt64} {value : CString} (hnil : value ≠ [])
    (hzero : ¬ ∃ x digits,value = '0'::x::digits) :
    runBases loop value = (loop 10).run 0 value := by
  unfold runBases
  split
  · exact absurd rfl hnil
  · exact absurd ⟨_,_,rfl⟩ hzero
  · rfl

theorem parseMagnitude_decimal {value : CString} (hnil : value ≠ [])
    (hzero : ¬ ∃ x digits,value = '0'::x::digits) :
    parseMagnitude limit value = accumulate 10 limit 0 value := by
  unfold parseMagnitude
  split
  · exact absurd rfl hnil
  · exact absurd ⟨_,_,rfl⟩ hzero
  · rfl

theorem runBases_toNat {loop : UInt32 → DigitLoop UInt64}
    (hloop : ∀ base,base = 10 ∨ base = 16 → (loop base).base = base)
    (hexact : ∀ base,base = 10 ∨ base = 16 → (loop base).Exact UInt64.toNat limit)
    (value : CString) :
    (runBases loop value).map UInt64.toNat = parseMagnitude limit value := by
  have hrun : ∀ base,base = 10 ∨ base = 16 → ∀ digits,((loop base).run 0 digits).map UInt64.toNat =
      accumulate base.toNat limit 0 digits := by
    intro base hbase digits
    have h := (hexact base hbase).run_toNat (by rwa [hloop base hbase]) 0 digits
    rwa [hloop base hbase] at h
  by_cases hnil : value = []
  · rw [hnil]
    rfl
  by_cases hzero : ∃ x digits,value = '0'::x::digits
  · obtain ⟨x,digits,rfl⟩ := hzero
    rw [runBases,parseMagnitude]
    by_cases hx : x = 'x' ∨ x = 'X'
    · rw [if_pos hx,if_pos hx]
      by_cases hdigits : digits = []
      · rw [if_pos hdigits,if_pos hdigits]
        rfl
      · rw [if_neg hdigits,if_neg hdigits]
        exact hrun 16 (.inr rfl) _
    · rw [if_neg hx,if_neg hx]
      exact hrun 10 (.inl rfl) _
  · rw [runBases_decimal hnil hzero,parseMagnitude_decimal hnil hzero]
    exact hrun 10 (.inl rfl) _

theorem runDecimal_toNat {zero : W} (h : loop.Exact toNat limit) (hbase : loop.base = 10)
    (hzero : toNat zero = 0) (value : CString) :
    (runDecimal loop zero value).map toNat =
      if value = [] then none else accumulate 10 limit 0 value := by
  unfold runDecimal
  split
  · rfl
  · rw [h.run_toNat (.inl hbase),hbase,hzero]
    rfl

theorem map_toUInt32_toNat {result : Option UInt64} {read : Option Nat}
    (hread : result.map UInt64.toNat = read) (hle : ∀ n,read = some n → n ≤ uint32Max) :
    (result.map UInt64.toUInt32).map UInt32.toNat = read := by
  have hmax : uint32Max = 4294967295 := rfl
  cases result with
  | none => exact hread
  | some result =>
    have hbound := hle result.toNat (hread.symm.trans (by rfl))
    rw [← hread]
    simp only [Option.map_some,Option.some.injEq,UInt64.toNat_toUInt32]
    exact Nat.mod_eq_of_lt (by omega)

theorem toInt32_toUInt32 (result : UInt64) :
    result.toUInt32.toInt32 = Int32.ofNat result.toNat := by
  rw [← Int32.toBitVec_inj]
  exact (BitVec.eq_of_toNat_eq (by simp))

/-- The conversion to `int32_t` and the negation keep the value; only the minimum has no positive
counterpart. -/
theorem storeInt32_toInt {negative : Bool} {result : UInt64}
    (h : result.toNat ≤ (int32Limit negative).toNat) :
    (storeInt32 negative result).toInt =
      if negative then -(result.toNat : Int) else result.toNat := by
  have hlimit : (2147483647+1 : UInt64).toNat = 2147483648 := rfl
  unfold storeInt32
  cases negative with
  | false =>
    have hbound : result.toNat ≤ 2147483647 := h
    simp only [Bool.false_and,Bool.false_eq_true,if_false,toInt32_toUInt32]
    exact Int32.toInt_ofNat_of_lt (by omega)
  | true =>
    have hbound : result.toNat ≤ 2147483648 := h
    by_cases hmin : result = 2147483647+1
    · subst hmin
      rfl
    · simp only [Bool.true_and,beq_iff_eq,hmin,if_false,if_true,toInt32_toUInt32]
      rw [← Int32.ofInt_eq_ofNat,← Int32.ofInt_neg]
      exact Int32.toInt_ofInt_of_le (by omega) (by omega)

theorem parseSigned_iff {magnitude : UInt64 → CString → Option UInt64}
    {numeral : CString → Nat → Prop}
    (hmagnitude : ∀ negative value n,(magnitude (int32Limit negative) value).map UInt64.toNat =
      some n ↔ numeral value n ∧ n ≤ (int32Limit negative).toNat)
    (hminus : ∀ value n,¬numeral ('-'::value) n) (value : CString) (z : Int) :
    (parseSigned magnitude value).map Int32.toInt = some z ↔
      IntegerNumeral numeral value z ∧ -(2^31) ≤ z ∧ z ≤ 2^31-1 := by
  have hstored : ∀ (negative : Bool) (value : CString),
      ((magnitude (int32Limit negative) value).map (storeInt32 negative)).map Int32.toInt =
          some z ↔
        ∃ n,numeral value n ∧ n ≤ (int32Limit negative).toNat ∧
          z = if negative then -(n : Int) else n := by
    intro negative value
    have hread := hmagnitude negative value
    cases hresult : magnitude (int32Limit negative) value with
    | none =>
      rw [hresult] at hread
      simp only [Option.map_none,reduceCtorEq,false_iff,not_exists]
      rintro n ⟨hn,hle,-⟩
      exact absurd ((hread n).mpr ⟨hn,hle⟩) (by simp)
    | some result =>
      rw [hresult] at hread
      simp only [Option.map_some,Option.some.injEq] at hread ⊢
      obtain ⟨hnumeral,hle⟩ := (hread _).mp rfl
      rw [storeInt32_toInt hle]
      constructor
      · rintro rfl
        exact ⟨_,hnumeral,hle,rfl⟩
      · rintro ⟨n,hn,hle',rfl⟩
        rw [(hread n).mpr ⟨hn,hle'⟩]
  have hpositive : (int32Limit false).toNat = 2147483647 := rfl
  have hnegative : (int32Limit true).toNat = 2147483648 := rfl
  unfold parseSigned
  split
  · rename_i digits
    rw [hstored true]
    constructor
    · rintro ⟨n,hn,hle,rfl⟩
      rw [if_pos rfl]
      exact ⟨.negative hn,by omega,by omega⟩
    · rintro ⟨h,hle,-⟩
      cases h with
      | positive h => exact absurd h (hminus _ _)
      | @negative _ n h => exact ⟨n,h,by omega,rfl⟩
  · rename_i hplain
    rw [hstored false]
    constructor
    · rintro ⟨n,hn,hle,rfl⟩
      rw [if_neg Bool.false_ne_true]
      exact ⟨.positive hn,by omega,by omega⟩
    · rintro ⟨h,-,hle⟩
      cases h with
      | @positive _ n h => exact ⟨n,h,by omega,rfl⟩
      | negative h => exact absurd rfl (hplain _)

theorem runDecimal_iff {zero : W} {n : Nat} (h : loop.Exact toNat limit) (hbase : loop.base = 10)
    (hzero : toNat zero = 0) (hlimit : 15 ≤ limit) :
    (runDecimal loop zero value).map toNat = some n ↔ DecimalNumeral value n ∧ n ≤ limit := by
  rw [runDecimal_toNat h hbase hzero]
  by_cases hvalue : value = []
  · simp [hvalue,DecimalNumeral]
  · rw [if_neg hvalue,accumulate_decimal_iff hlimit]
    simp [DecimalNumeral,hvalue]

theorem cellParseUint32_toNat (value : CString) :
    (cellParseUint32 value).map UInt32.toNat = Cell.parseUint32 value :=
  map_toUInt32_toNat (runBases_toNat (fun _ _ => rfl) (fun _ hbase => uint32Loop_exact hbase) value)
    fun _ hn => (parseUint32_iff.mp hn).2

theorem caParseUint32Decimal_toNat (value : CString) :
    (caParseUint32Decimal value).map UInt32.toNat = Ca.parseUint32Decimal value := by
  refine map_toUInt32_toNat ?_ fun _ hn => (parseUint32Decimal_iff.mp hn).2.2
  rw [runDecimal_toNat (uint32Loop_exact (.inl rfl)) rfl rfl]
  cases value with
  | nil => rfl
  | cons character rest => rfl

/-- Every parser accepts the numerals of its grammar within 32 bits, and stores their value. -/
structure Exact (value : CString) : Prop where
  cellUint32 : ∀ n,(cellParseUint32 value).map UInt32.toNat = some n ↔
    Numeral value n ∧ n ≤ uint32Max
  cellInt32 : ∀ z,(cellParseInt32 value).map Int32.toInt = some z ↔
    IntegerNumeral Numeral value z ∧ -(2^31) ≤ z ∧ z ≤ 2^31-1
  caUint32 : ∀ n,(caParseUint32Decimal value).map UInt32.toNat = some n ↔
    DecimalNumeral value n ∧ n ≤ uint32Max
  caInt32 : ∀ z,(caParseInt32Decimal value).map Int32.toInt = some z ↔
    IntegerNumeral DecimalNumeral value z ∧ -(2^31) ≤ z ∧ z ≤ 2^31-1
  voltage : ∀ n,(voltageParseUint32Decimal value).map UInt32.toNat = some n ↔
    DecimalNumeral value n ∧ n ≤ uint32Max

/-- No guard, accumulation or conversion of the parsers wraps. -/
structure Unwrapped : Prop where
  uint32 : ∀ base,base = 10 ∨ base = 16 → (uint32Loop base).Exact UInt64.toNat uint32Max
  int32 : ∀ base negative,base = 10 ∨ base = 16 →
    (int32Loop base (int32Limit negative)).Exact UInt64.toNat (int32Limit negative).toNat
  voltage : voltageLoop.Exact UInt32.toNat uint32Max
  stored : ∀ negative result,result.toNat ≤ (int32Limit negative).toNat →
    (storeInt32 negative result).toInt = if negative then -(result.toNat : Int) else result.toNat

theorem tokenParsers_exact : Unwrapped ∧ ∀ value,Exact value := by
  refine ⟨⟨fun base hbase => uint32Loop_exact hbase,
    fun base negative hbase => int32Loop_exact hbase negative,voltageLoop_exact,
    fun negative result h => storeInt32_toInt h⟩,fun value => ⟨fun n => ?_,?_,fun n => ?_,?_,?_⟩⟩
  · rw [cellParseUint32_toNat]
    exact parseUint32_iff
  · refine parseSigned_iff (fun negative value n => ?_) (fun value n h => ?_) value
    · have hlimit : 15 ≤ (int32Limit negative).toNat := by
        cases negative <;> decide
      rw [runBases_toNat (fun _ _ => rfl) (fun base hbase => int32Loop_exact hbase negative)]
      exact parseMagnitude_iff hlimit
    · exact (h.chars.2 '-' (by simp)).2.2.1 rfl
  · rw [caParseUint32Decimal_toNat,parseUint32Decimal_iff,DecimalField,DecimalNumeral,and_assoc]
  · refine parseSigned_iff (fun negative value n => ?_) (fun value n h => ?_) value
    · have hlimit : 15 ≤ (int32Limit negative).toNat := by
        cases negative <;> decide
      exact runDecimal_iff (int32Loop_exact (.inl rfl) negative) rfl rfl hlimit
    · exact not_digits_minus h.2
  · exact fun n => runDecimal_iff voltageLoop_exact rfl rfl (by decide)

end MachineNumerals
end L850GL
