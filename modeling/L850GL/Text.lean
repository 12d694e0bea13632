import Mathlib.Algebra.Order.Ring.Int
import Mathlib.Data.List.DropRight
import Mathlib.Data.List.Basic

/-! C strings of the bridge as lists of characters, one character for each byte. -/
namespace L850GL

abbrev CString := List Char

instance : LawfulBEq CString := inferInstance

namespace Text

def isBlank (c : Char) : Bool := c == ' ' || c == '\t'

def trimAscii (value : CString) : CString := (value.dropWhile isBlank).rdropWhile isBlank

/-- Cuts a text at every `'\n'` and drops the one `'\r'` that may end a line. -/
def stripCarriageReturn (line : CString) : CString :=
  if line.getLast? = some '\r' then line.dropLast else line

def lines (text : CString) : List CString := (text.splitOn '\n').map stripCarriageReturn

def decimalDigit (c : Char) : Option Nat :=
  if '0' ≤ c ∧ c ≤ '9' then some (c.toNat - '0'.toNat) else none

def hexDigit (c : Char) : Option Nat :=
  if '0' ≤ c ∧ c ≤ '9' then some (c.toNat - '0'.toNat)
  else if 'a' ≤ c ∧ c ≤ 'f' then some (c.toNat - 'a'.toNat + 10)
  else if 'A' ≤ c ∧ c ≤ 'F' then some (c.toNat - 'A'.toNat + 10)
  else none

def baseDigit (base : Nat) (c : Char) : Option Nat :=
  if base = 16 then hexDigit c else decimalDigit c

/-- The digit loop shared by the token parsers: it stops at the first character that is no
digit and before the accumulator passes `limit`. -/
def accumulate (base limit : Nat) : Nat → CString → Option Nat
  | result, [] => some result
  | result, c::cs => do
    let digit ← baseDigit base c
    if result > (limit-digit)/base then none
    else accumulate base limit (result*base+digit) cs

/-- `snprintf` with `%u`. -/
def decimal (n : Nat) : CString := Nat.toDigits 10 n

end Text
end L850GL
