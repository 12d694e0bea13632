import L850GL.MachineNumerals

/-! The supply voltage that the modem reports to `AT+CBC`, read as `l850_voltage.c` does. -/
namespace L850GL
namespace Voltage

open MachineNumerals Text

def voltagePrefix : CString := "+CBC:".toList
def voltageStatusMax : Nat := 3
def l850glL850VoltageMaxResponse : Nat := 128
def l850glL850VoltageMinMv : Nat := 2500
def l850glL850VoltageMaxMv : Nat := 5000

inductive L850VoltageParseResult
  | empty | oversized | malformed | range
  deriving DecidableEq,Repr

structure L850Voltage where
  status : Nat
  millivolts : Nat
  deriving DecidableEq,Repr

/-- The line loop with the record found so far; a second record ends it. -/
def recordLoop : Option CString → List CString → Except L850VoltageParseResult (Option CString)
  | record, [] => .ok record
  | record, line::rest =>
    let trimmed := trimAscii line
    if trimmed = [] then recordLoop record rest
    else if record.isSome then .error .malformed
    else recordLoop (some trimmed) rest

/-- What follows the line loop. -/
def parseRecord (record : CString) : Except L850VoltageParseResult L850Voltage :=
  if !voltagePrefix.isPrefixOf record then .error .malformed
  else match (trimAscii (record.drop voltagePrefix.length)).splitOn ',' with
    | [body,separator] =>
      match voltageParseUint32Decimal (trimAscii body),
          voltageParseUint32Decimal (trimAscii separator) with
      | some status,some millivolts =>
        if status.toNat > voltageStatusMax ∨ millivolts.toNat < l850glL850VoltageMinMv ∨
            millivolts.toNat > l850glL850VoltageMaxMv then .error .range
        else .ok ⟨status.toNat,millivolts.toNat⟩
      | _,_ => .error .malformed
    | _ => .error .malformed

def l850glL850VoltageParse (response : CString) : Except L850VoltageParseResult L850Voltage :=
  if response = [] then .error .empty
  else if response.length > l850glL850VoltageMaxResponse then .error .oversized
  else if '\x00' ∈ response then .error .malformed
  else match recordLoop none (lines response) with
    | .error result => .error result
    | .ok none => .error .empty
    | .ok (some record) => parseRecord record

/-- A supply voltage that the modem can have. -/
structure L850Voltage.InRange (voltage : L850Voltage) : Prop where
  status : voltage.status ≤ voltageStatusMax
  lower : l850glL850VoltageMinMv ≤ voltage.millivolts
  upper : voltage.millivolts ≤ l850glL850VoltageMaxMv

variable {response record : CString} {voltage : L850Voltage}

theorem parseRecord_inRange (h : parseRecord record = .ok voltage) : voltage.InRange := by
  unfold parseRecord at h
  split at h
  · cases h
  split at h
  · rename_i body separator _
    split at h
    · rename_i status millivolts _ _
      split at h
      · cases h
      · rename_i hrange
        cases h
        simp only [not_or,Nat.not_lt,gt_iff_lt] at hrange
        exact ⟨hrange.1,hrange.2.1,hrange.2.2⟩
    · cases h
  · cases h

/-- Whatever the modem answers, a voltage that is taken from it is in range. -/
theorem l850glL850VoltageParse_inRange (h : l850glL850VoltageParse response = .ok voltage) :
    voltage.InRange := by
  unfold l850glL850VoltageParse at h
  split at h
  · cases h
  split at h
  · cases h
  split at h
  · cases h
  split at h
  · cases h
  · cases h
  · exact parseRecord_inRange h

example : l850glL850VoltageParse "\r\n+CBC: 0,3801\r\n\r\n".toList = .ok ⟨0,3801⟩ := by rfl

end Voltage
end L850GL
