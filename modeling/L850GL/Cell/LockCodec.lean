import L850GL.Cell.Bands
import L850GL.Cell.Numerals
import L850GL.Lib.AssocList
import Mathlib.Data.List.Perm.Subperm

/-! The lock state of the modem as text: which lock each text of the five keys stands for, and
the command that sets a lock. -/
namespace L850GL
namespace Cell

open Text TextFormat

/-- A lock that can be asked for: an EARFCN of the band table and at most one PCI. -/
structure LockRequest where
  earfcn : Nat
  pci : Option Nat
  inBand : ∃ band, InBand earfcn band
  pciRange : ∀ p ∈ pci, p ≤ 503

/-- The values of the five keys. -/
structure NvmRecord where
  frequency : Nat
  rat : Nat
  pci : Nat
  bandInfo : Nat
  interFrequency : Nat

def NvmRecord.entries (v : NvmRecord) : NvmValues :=
  [(.frequency,v.frequency),(.rat,v.rat),(.pci,v.pci),(.bandInfo,v.bandInfo),
    (.interFrequency,v.interFrequency)]

/-- A line with one key and its value. -/
def NvmLine (line : CString) (entry : NvmField × Nat) : Prop :=
  ∃ key value, Fields isBlank '=' line [key,value] ∧ (key,entry.1) ∈ nvmKeys ∧
    Numeral value entry.2 ∧ entry.2 ≤ uint32Max

/-- The five keys in any order, one to a line. -/
def NvmText (response : CString) (v : NvmRecord) : Prop :=
  ∃ lines entries, LaidOut isBlank '\n' '\r' response lines ∧
    List.Forall₂ NvmLine lines entries ∧ entries.Perm v.entries

structure NvmRecord.Locks (v : NvmRecord) (r : LockRequest) : Prop where
  frequency : v.frequency = r.earfcn
  rat : v.rat = 3
  pci : v.pci = r.pci.getD l850glL850PciWildcard
  bandInfo : v.bandInfo = 0 ∨ v.bandInfo = 255 ∨ InBand r.earfcn v.bandInfo
  interFrequency : v.interFrequency = 1

structure NvmRecord.Clears (v : NvmRecord) : Prop where
  frequency : v.frequency = l850glL850ClearFrequency
  rat : v.rat = 3 ∨ v.rat = 255
  pci : v.pci = l850glL850PciWildcard
  bandInfo : v.bandInfo = 0 ∨ v.bandInfo = 255
  interFrequency : v.interFrequency = 0

def EncodesLock (response : CString) (r : LockRequest) : Prop :=
  ∃ v, NvmText response v ∧ NvmRecord.Locks v r

def EncodesClear (response : CString) : Prop := ∃ v, NvmText response v ∧ NvmRecord.Clears v

/-- `l850gl_l850_lock_state_matches` for a request; without a PCI the caller's PCI argument is
not read, and `spare` stands for it. -/
def requestMatches (state : LockState) (r : LockRequest) (spare : Nat) : Bool :=
  l850glL850LockStateMatches state false r.earfcn r.pci.isSome (r.pci.getD spare)

def clearMatches (state : LockState) (earfcn : Nat) (hasPci : Bool) (pci : Nat) : Bool :=
  l850glL850LockStateMatches state true earfcn hasPci pci

/-- The command for a request. -/
def LockRequest.command (r : LockRequest) (spare commandSize : Nat) : Option CString :=
  l850glL850BuildSetCommand r.earfcn r.pci.isSome (r.pci.getD spare) commandSize

def LockState.zero : LockState := ⟨false,false,0,0,0⟩

def nvmDecodeInto (frequency rat pci bandInfo interFrequency : Nat) (state : LockState) :
    Option CellParseResult × LockState :=
  if pci > l850glL850PciWildcard ∨ interFrequency > 1 then (some .range,state)
  else if interFrequency = 0 then
    if frequency ≠ l850glL850ClearFrequency ∨ pci ≠ l850glL850PciWildcard ∨
        (rat ≠ 3 ∧ rat ≠ 255) ∨ (bandInfo ≠ 0 ∧ bandInfo ≠ 255) then (some .malformed,state)
    else (none,{ state with
      enabled := false, earfcn := l850glL850ClearFrequency, pci := l850glL850PciWildcard })
  else
    let rejected : CellParseResult :=
      if frequency = l850glL850ClearFrequency ∨ pci = uint32Max then .sentinel else .range
    if rat ≠ 3 then (some rejected,state)
    else match l850glL850EarfcnToBand frequency with
      | none => (some rejected,state)
      | some band =>
        -- the band is written before the last two checks
        let state := { state with band := band }
        if pci > 503 ∧ pci ≠ l850glL850PciWildcard then (some rejected,state)
        else if bandInfo ≠ 0 ∧ bandInfo ≠ 255 ∧ bandInfo ≠ band then (some .range,state)
        else (none,{ state with
          enabled := true, earfcn := frequency, pci := pci,
          hasPci := pci != l850glL850PciWildcard })

def nvmReadInto (response : CString) (state : LockState) : Option CellParseResult × LockState :=
  if '\x00' ∈ response then (some .malformed,state)
  else match nvmParseLoop (lines response) [] with
    | .error result => (some result,state)
    | .ok values =>
      if values.length ≠ 5 then (some (if values = [] then .empty else .malformed),state)
      else
        let value := fun field => (values.lookup field).getD 0
        nvmDecodeInto (value .frequency) (value .rat) (value .pci) (value .bandInfo)
          (value .interFrequency) state

/-- `l850gl_l850_nvm_parse` with its out-parameter; no result stands for `OK`. -/
def l850glL850NvmParseInto (response : CString) (state : LockState) :
    Option CellParseResult × LockState :=
  if response = [] then (some .empty,state)
  else if response.length > l850glL850NvmMaxResponse then (some .oversized,state)
  else
    let (result,state) := nvmReadInto response .zero
    if result = none then (none,state) else (result,.zero)

theorem nvmDecodeInto_eq (frequency rat pci bandInfo interFrequency : Nat) :
    match nvmDecode frequency rat pci bandInfo interFrequency with
    | .ok state => nvmDecodeInto frequency rat pci bandInfo interFrequency .zero = (none,state)
    | .error result =>
      (nvmDecodeInto frequency rat pci bandInfo interFrequency .zero).1 = some result := by
  rw [nvmDecode,nvmDecodeInto]
  by_cases hrange : pci > l850glL850PciWildcard ∨ interFrequency > 1
  · rw [if_pos hrange,if_pos hrange]
  rw [if_neg hrange,if_neg hrange]
  by_cases hflag : interFrequency = 0
  · rw [if_pos hflag,if_pos hflag]
    by_cases hclear : frequency ≠ l850glL850ClearFrequency ∨ pci ≠ l850glL850PciWildcard ∨
        (rat ≠ 3 ∧ rat ≠ 255) ∨ (bandInfo ≠ 0 ∧ bandInfo ≠ 255)
    · rw [if_pos hclear,if_pos hclear]
    · rw [if_neg hclear,if_neg hclear]
      rfl
  rw [if_neg hflag,if_neg hflag]
  by_cases hrat : rat ≠ 3
  · rw [if_pos hrat,if_pos hrat]
  rw [if_neg hrat,if_neg hrat]
  cases l850glL850EarfcnToBand frequency with
  | none => rfl
  | some band =>
    simp only
    by_cases hpci : pci > 503 ∧ pci ≠ l850glL850PciWildcard
    · rw [if_pos hpci,if_pos hpci]
    rw [if_neg hpci,if_neg hpci]
    by_cases hband : bandInfo ≠ 0 ∧ bandInfo ≠ 255 ∧ bandInfo ≠ band
    · rw [if_pos hband,if_pos hband]
    · rw [if_neg hband,if_neg hband]

theorem l850glL850NvmParseInto_eq {response : CString} (state : LockState) (hne : response ≠ [])
    (hsize : response.length ≤ l850glL850NvmMaxResponse) :
    l850glL850NvmParseInto response state =
      match l850glL850NvmParse response with
      | .ok parsed => (none,parsed)
      | .error result => (some result,.zero) := by
  have hsize' : ¬response.length > l850glL850NvmMaxResponse := by omega
  rw [l850glL850NvmParseInto,l850glL850NvmParse,if_neg hne,if_neg hne,if_neg hsize',
    if_neg hsize',nvmReadInto]
  by_cases hnul : '\x00' ∈ response
  · rw [if_pos hnul,if_pos hnul]
    rfl
  rw [if_neg hnul,if_neg hnul]
  cases nvmParseLoop (lines response) [] with
  | error result => simp [bind,Except.bind]
  | ok values =>
    simp only [bind,Except.bind]
    by_cases hlength : values.length ≠ 5
    · rw [if_pos hlength,if_pos hlength]
      simp
    · rw [if_neg hlength,if_neg hlength]
      have h := nvmDecodeInto_eq ((values.lookup .frequency).getD 0)
        ((values.lookup .rat).getD 0) ((values.lookup .pci).getD 0)
        ((values.lookup .bandInfo).getD 0) ((values.lookup .interFrequency).getD 0)
      split at h
      · simp [h]
      · simp [h]

theorem nvmKeys_lookup {key : CString} {field : NvmField} :
    nvmKeys.lookup key = some field ↔ (key,field) ∈ nvmKeys :=
  AssocList.lookup_eq_some (by decide)

theorem nvmParseLine_iff {line : CString} {values final : NvmValues} :
    nvmParseLine line values = .ok final ↔
      ∃ entry, NvmLine line entry ∧ entry.1 ∉ AssocList.Keys values ∧ final = entry::values := by
  have hfields : ∀ key value, Fields isBlank '=' line [key,value] ↔
      ∃ k v, line.splitOn '=' = [k,v] ∧ trimAscii k = key ∧ trimAscii v = value := by
    intro key value
    rw [← fields_eq_iff,fields]
    constructor
    · intro h
      rcases hparts : line.splitOn '=' with _ | ⟨k,_ | ⟨v,_ | ⟨_,_⟩⟩⟩
      · simp [hparts] at h
      · simp [hparts] at h
      · simp only [hparts,List.map_cons,List.map_nil,List.cons.injEq,and_true] at h
        exact ⟨k,v,rfl,h⟩
      · simp [hparts] at h
    · rintro ⟨k,v,hparts,rfl,rfl⟩
      simp [hparts,trimAscii_eq]
  have hline : ∀ field n, NvmLine line (field,n) ↔ ∃ k v, line.splitOn '=' = [k,v] ∧
      nvmKeys.lookup (trimAscii k) = some field ∧ parseUint32 (trimAscii v) = some n := by
    intro field n
    simp only [NvmLine,hfields,nvmKeys_lookup,parseUint32_iff]
    constructor
    · rintro ⟨_,_,⟨k,v,hparts,rfl,rfl⟩,hkey,hn⟩
      exact ⟨k,v,hparts,hkey,hn⟩
    · rintro ⟨k,v,hparts,hkey,hn⟩
      exact ⟨_,_,⟨k,v,hparts,rfl,rfl⟩,hkey,hn⟩
  unfold nvmParseLine
  constructor
  · intro h
    split at h
    · rename_i key value hparts
      split at h
      · rename_i field number hkey hvalue
        split at h
        · cases h
        rename_i hseen
        simp only [Except.ok.injEq] at h
        refine ⟨(field,number),(hline _ _).mpr ⟨key,value,hparts,hkey,hvalue⟩,?_,h.symm⟩
        exact AssocList.lookup_eq_none.mp (Option.not_isSome_iff_eq_none.mp hseen)
      · cases h
    · cases h
  · rintro ⟨⟨field,number⟩,hentry,hseen,rfl⟩
    obtain ⟨key,value,hparts,hkey,hvalue⟩ := (hline _ _).mp hentry
    simp only [hparts,hkey,hvalue]
    have := AssocList.lookup_eq_none.mpr hseen
    simp [this]

/-- The line loop reads one entry from each line, and no key twice. -/
theorem nvmParseLoop_iff {rest : List CString} {values final : NvmValues}
    (hvalues : (AssocList.Keys values).Nodup) :
    nvmParseLoop rest values = .ok final ↔
      ∃ entries, List.Forall₂ NvmLine (trimmed rest) entries ∧
        final = entries.reverse++values ∧ (AssocList.Keys final).Nodup := by
  induction rest generalizing values with
  | nil =>
    simp only [nvmParseLoop,trimmed,List.map_nil,List.filter_nil,Except.ok.injEq]
    constructor
    · rintro rfl
      exact ⟨[],.nil,rfl,hvalues⟩
    · rintro ⟨entries,hentries,rfl,-⟩
      cases hentries
      rfl
  | cons line rest ih =>
    rw [nvmParseLoop,trimmed_cons]
    by_cases hblank : trimAscii line = []
    · rw [if_pos hblank,if_pos hblank]
      exact ih hvalues
    rw [if_neg hblank,if_neg hblank]
    cases hparse : nvmParseLine (trimAscii line) values with
    | error result =>
      constructor
      · intro h
        cases h
      · rintro ⟨entries,hentries,rfl,hnodup⟩
        cases hentries with
        | cons hline hentries =>
          have hnot : nvmParseLine (trimAscii line) values = .ok (_::values) :=
            nvmParseLine_iff.mpr ⟨_,hline,?_,rfl⟩
          · rw [hnot] at hparse
            cases hparse
          · simp only [List.reverse_cons,List.append_assoc,List.singleton_append,
              AssocList.Keys,List.map_append,List.map_cons] at hnodup
            exact (List.nodup_cons.mp (List.nodup_append.mp hnodup).2.1).1
    | ok next =>
      obtain ⟨entry,hline,hnew,rfl⟩ := nvmParseLine_iff.mp hparse
      have hnext : (AssocList.Keys (entry::values)).Nodup := List.nodup_cons.mpr ⟨hnew,hvalues⟩
      simp only
      rw [ih hnext]
      constructor
      · rintro ⟨entries,hentries,rfl,hnodup⟩
        exact ⟨entry::entries,.cons hline hentries,by simp,hnodup⟩
      · rintro ⟨entries,hentries,rfl,hnodup⟩
        cases hentries with
        | @cons _ other _ entries hother hentries =>
          have hkey : nvmParseLine (trimAscii line) values = .ok (other::values) :=
            nvmParseLine_iff.mpr ⟨other,hother,?_,rfl⟩
          · rw [hparse] at hkey
            have := Except.ok.inj hkey
            simp only [List.cons.injEq,and_true] at this
            subst this
            exact ⟨entries,hentries,by simp,hnodup⟩
          · simp only [List.reverse_cons,List.append_assoc,List.singleton_append,
              AssocList.Keys,List.map_append,List.map_cons] at hnodup
            exact (List.nodup_cons.mp (List.nodup_append.mp hnodup).2.1).1

theorem entries_keys (v : NvmRecord) :
    AssocList.Keys v.entries = [.frequency,.rat,.pci,.bandInfo,.interFrequency] := rfl

/-- Five entries without a repeated key hold a value for each of the five keys. -/
theorem exists_entries {values : NvmValues} (hnodup : (AssocList.Keys values).Nodup)
    (hlength : values.length = 5) : ∃ v : NvmRecord, values.Perm v.entries := by
  have hkeys : (AssocList.Keys values).Perm
      [.frequency,.rat,.pci,.bandInfo,.interFrequency] := by
    apply (List.subperm_of_subset hnodup _).perm_of_length_le
    · simp [AssocList.Keys,hlength]
    · intro field _
      cases field <;> simp
  have hvalue : ∀ field, ∃ n, (field,n) ∈ values := by
    intro field
    have hmem : field ∈ AssocList.Keys values := by
      apply hkeys.mem_iff.mpr
      cases field <;> simp
    obtain ⟨⟨_,n⟩,hentry,rfl⟩ := List.mem_map.mp hmem
    exact ⟨n,hentry⟩
  choose value hvalue using hvalue
  have hentry : ∀ entry ∈ values, entry.2 = value entry.1 := fun entry h =>
    AssocList.eq_of_mem hnodup h (hvalue entry.1)
  refine ⟨⟨value .frequency,value .rat,value .pci,value .bandInfo,value .interFrequency⟩,?_⟩
  apply (List.perm_ext_iff_of_nodup (List.Nodup.of_map _ hnodup) (by simp [NvmRecord.entries])).mpr
  rintro ⟨field,n⟩
  constructor
  · intro h
    have h₁ : n = value field := hentry _ h
    subst h₁
    cases field <;> simp [NvmRecord.entries]
  · intro h
    have h₁ : n = value field := by
      simp only [NvmRecord.entries,List.mem_cons,Prod.mk.injEq,List.not_mem_nil,or_false] at h
      rcases h with ⟨rfl,h⟩ | ⟨rfl,h⟩ | ⟨rfl,h⟩ | ⟨rfl,h⟩ | ⟨rfl,h⟩ <;> exact h
    rw [h₁]
    exact hvalue field

theorem lookup_entries {values : NvmValues} {v : NvmRecord} (h : values.Perm v.entries)
    {field : NvmField} {n : Nat} (hn : (field,n) ∈ v.entries) :
    (values.lookup field).getD 0 = n := by
  have hnodup : (AssocList.Keys values).Nodup := by
    have h₁ : (AssocList.Keys values).Perm (AssocList.Keys v.entries) := h.map Prod.fst
    rw [h₁.nodup_iff,entries_keys]
    decide
  rw [(AssocList.lookup_eq_some hnodup).mpr (h.mem_iff.mpr hn)]
  rfl

theorem nvmDecode_entries {values : NvmValues} {v : NvmRecord} (h : values.Perm v.entries) :
    nvmDecode ((values.lookup .frequency).getD 0) ((values.lookup .rat).getD 0)
        ((values.lookup .pci).getD 0) ((values.lookup .bandInfo).getD 0)
        ((values.lookup .interFrequency).getD 0) =
      nvmDecode v.frequency v.rat v.pci v.bandInfo v.interFrequency := by
  have h₁ := @lookup_entries values v h .frequency v.frequency (by simp [NvmRecord.entries])
  have h₂ := @lookup_entries values v h .rat v.rat (by simp [NvmRecord.entries])
  have h₃ := @lookup_entries values v h .pci v.pci (by simp [NvmRecord.entries])
  have h₄ := @lookup_entries values v h .bandInfo v.bandInfo (by simp [NvmRecord.entries])
  have h₅ := @lookup_entries values v h .interFrequency v.interFrequency
    (by simp [NvmRecord.entries])
  rw [h₁,h₂,h₃,h₄,h₅]

/-- No text of the five keys holds a NUL. -/
theorem nul_notMem_of_nvmText {response : CString} {v : NvmRecord} (h : NvmText response v) :
    '\x00' ∉ response := by
  obtain ⟨lines,entries,hlaid,hentries,-⟩ := h
  intro hnul
  rcases mem_of_laidOut hlaid hnul with h | h | h | ⟨line,hline,hnul⟩
  · exact absurd h (by decide)
  · exact absurd h (by decide)
  · exact absurd h (by decide)
  obtain ⟨entry,-,key,value,hfields,hkey,hvalue,-⟩ := exists_of_forall₂ hentries hline
  rcases mem_of_fields hfields hnul with h | h | ⟨core,hcore,hnul⟩
  · exact absurd h (by decide)
  · exact absurd h (by decide)
  have hkeys : ∀ key ∈ AssocList.Keys nvmKeys, '\x00' ∉ key := by decide
  simp only [List.mem_cons,List.not_mem_nil,or_false] at hcore
  rcases hcore with rfl | rfl
  · exact hkeys _ (List.mem_map_of_mem hkey) hnul
  · exact (hvalue.chars.2 _ hnul).2.2.2 rfl

theorem ne_nil_of_nvmText {response : CString} {v : NvmRecord} (h : NvmText response v) :
    response ≠ [] := by
  rintro rfl
  obtain ⟨lines,entries,hlaid,hentries,hperm⟩ := h
  have hlines : lines = [] := (contents_eq_iff.mpr hlaid).symm.trans (by decide)
  subst hlines
  cases hentries
  have := hperm.length_eq
  simp [NvmRecord.entries] at this

/-- The parser reads the texts of the five keys, and judges their values. -/
theorem l850glL850NvmParse_iff {response : CString} {state : LockState}
    (hsize : response.length ≤ l850glL850NvmMaxResponse) :
    l850glL850NvmParse response = .ok state ↔ ∃ v, NvmText response v ∧
      nvmDecode v.frequency v.rat v.pci v.bandInfo v.interFrequency = .ok state := by
  have hsize' : ¬response.length > l850glL850NvmMaxResponse := by omega
  have hloop : ∀ final, nvmParseLoop (lines response) [] = .ok final ↔
      ∃ entries, List.Forall₂ NvmLine (contents response) entries ∧
        final = entries.reverse ∧ (AssocList.Keys final).Nodup := by
    intro final
    rw [nvmParseLoop_iff (by simp [AssocList.Keys]),lines_trimmed]
    simp
  constructor
  · intro h
    rw [l850glL850NvmParse] at h
    split at h
    · cases h
    split at h
    · cases h
    cases hparse : nvmParseLoop (lines response) [] with
    | error result =>
      rw [hparse] at h
      cases h
    | ok values =>
      obtain ⟨entries,hentries,rfl,hnodup⟩ := (hloop values).mp hparse
      rw [hparse] at h
      simp only [bind,Except.bind] at h
      split at h
      · cases h
      rename_i hlength
      obtain ⟨v,hv⟩ := exists_entries hnodup (by simpa using hlength)
      rw [nvmDecode_entries hv] at h
      have hperm : entries.Perm v.entries := (List.reverse_perm entries).symm.trans hv
      exact ⟨v,⟨contents response,entries,contents_eq_iff.mp rfl,hentries,hperm⟩,h⟩
  · rintro ⟨v,htext,hdecode⟩
    rw [l850glL850NvmParse,if_neg (ne_nil_of_nvmText htext),if_neg hsize',
      if_neg (nul_notMem_of_nvmText htext)]
    obtain ⟨lines',entries,hlaid,hentries,hperm⟩ := htext
    have hperm' : entries.reverse.Perm v.entries := (List.reverse_perm entries).trans hperm
    have hkeys : (AssocList.Keys entries.reverse).Perm (AssocList.Keys v.entries) :=
      hperm'.map Prod.fst
    have hnodup : (AssocList.Keys entries.reverse).Nodup := by
      rw [hkeys.nodup_iff,entries_keys]
      decide
    have hcontents : contents response = lines' := contents_eq_iff.mpr hlaid
    have hparse := (hloop entries.reverse).mpr ⟨entries,hcontents ▸ hentries,rfl,hnodup⟩
    have hlength : entries.reverse.length = 5 := hperm'.length_eq
    rw [hparse]
    simp only [bind,Except.bind]
    rw [if_neg (by simp [hlength]),nvmDecode_entries hperm']
    exact hdecode

def LockState.cleared : LockState := ⟨false,false,l850glL850ClearFrequency,l850glL850PciWildcard,0⟩

/-- The lock state of a request, with the band of its EARFCN. -/
def LockRequest.state (r : LockRequest) (band : Nat) : LockState :=
  ⟨true,r.pci.isSome,r.earfcn,r.pci.getD l850glL850PciWildcard,band⟩

theorem nvmDecode_clears {v : NvmRecord} (h : v.Clears) :
    nvmDecode v.frequency v.rat v.pci v.bandInfo v.interFrequency = .ok .cleared := by
  obtain ⟨hfrequency,hrat,hpci,hband,hflag⟩ := h
  rw [nvmDecode,hpci,hflag,if_neg (by decide),if_pos rfl,if_neg (by omega)]
  rfl

theorem nvmDecode_locks {v : NvmRecord} {r : LockRequest} {band : Nat} (h : v.Locks r)
    (hband : InBand r.earfcn band) :
    nvmDecode v.frequency v.rat v.pci v.bandInfo v.interFrequency = .ok (r.state band) := by
  obtain ⟨hfrequency,hrat,hpci,hinfo,hflag⟩ := h
  have hrange := r.pciRange
  have hinfo' : ¬(v.bandInfo ≠ 0 ∧ v.bandInfo ≠ 255 ∧ v.bandInfo ≠ band) := by
    rintro ⟨h₁,h₂,h₃⟩
    rcases hinfo with h | h | h
    · exact h₁ h
    · exact h₂ h
    · exact h₃ (inBand_unique h hband)
  rw [nvmDecode,hflag,hrat,hfrequency,l850glL850EarfcnToBand_iff.mpr hband]
  cases hp : r.pci with
  | none =>
    have hwild : v.pci = l850glL850PciWildcard := by simpa [hp] using hpci
    rw [hwild,if_neg (by decide),if_neg (by decide),if_neg (by decide)]
    simp only
    rw [if_neg (by decide),if_neg hinfo']
    simp [LockRequest.state,hp]
  | some p =>
    have hexact : v.pci = p := by simpa [hp] using hpci
    have hle : p ≤ 503 := hrange p (by simp [hp])
    have hwild : l850glL850PciWildcard = 65535 := rfl
    rw [hexact,if_neg (by omega),if_neg (by decide),if_neg (by decide)]
    simp only
    rw [if_neg (by omega),if_neg hinfo']
    have hne : p ≠ l850glL850PciWildcard := by omega
    simp [LockRequest.state,hp,hne]

/-- The parser judges values to be a lock or the cleared state, and nothing else. -/
theorem nvmDecode_iff {v : NvmRecord} {state : LockState} :
    nvmDecode v.frequency v.rat v.pci v.bandInfo v.interFrequency = .ok state ↔
      (v.Clears ∧ state = .cleared) ∨
      ∃ r band, v.Locks r ∧ InBand r.earfcn band ∧ state = r.state band := by
  constructor
  · intro h
    have hdecode := h
    rw [nvmDecode] at h
    split at h
    · cases h
    rename_i hrange
    split at h
    · rename_i hflag
      split at h
      · cases h
      rename_i hclear
      left
      have hclears : v.Clears := by constructor <;> omega
      rw [nvmDecode_clears hclears] at hdecode
      exact ⟨hclears,(Except.ok.inj hdecode).symm⟩
    simp only at h
    split at h
    · cases h
    rename_i hflag hrat
    split at h
    · cases h
    rename_i band hband
    split at h
    · cases h
    rename_i hpci
    split at h
    · cases h
    rename_i hinfo
    right
    have hin := l850glL850EarfcnToBand_iff.mp hband
    have hpci' : v.pci ≤ 503 ∨ v.pci = l850glL850PciWildcard := by omega
    have hwild : l850glL850PciWildcard = 65535 := rfl
    have hinfo' : v.bandInfo = 0 ∨ v.bandInfo = 255 ∨ InBand v.frequency v.bandInfo := by
      by_cases h₁ : v.bandInfo = band
      · exact Or.inr (Or.inr (h₁ ▸ hin))
      · omega
    obtain ⟨r,hfrequency,hr⟩ : ∃ r : LockRequest, r.earfcn = v.frequency ∧
        v.pci = r.pci.getD l850glL850PciWildcard := by
      rcases hpci' with hle | heq
      · exact ⟨⟨v.frequency,some v.pci,⟨band,hin⟩,by simpa using hle⟩,rfl,rfl⟩
      · exact ⟨⟨v.frequency,none,⟨band,hin⟩,by simp⟩,rfl,heq⟩
    have hlocks : v.Locks r := ⟨hfrequency.symm,by omega,hr,hfrequency ▸ hinfo',by omega⟩
    have hin' : InBand r.earfcn band := hfrequency ▸ hin
    rw [nvmDecode_locks hlocks hin'] at hdecode
    exact ⟨r,band,hlocks,hin',(Except.ok.inj hdecode).symm⟩
  · rintro (⟨h,rfl⟩ | ⟨r,band,h,hband,rfl⟩)
    · exact nvmDecode_clears h
    · exact nvmDecode_locks h hband

/-- An accepted response is the cleared state or a lock. -/
theorem l850glL850NvmParse_state {response : CString} {state : LockState}
    (h : l850glL850NvmParse response = .ok state) :
    state = .cleared ∨ ∃ (r : LockRequest) (band : Nat),InBand r.earfcn band ∧
      state = r.state band := by
  have hsize : response.length ≤ l850glL850NvmMaxResponse := by
    unfold l850glL850NvmParse at h
    split at h
    · cases h
    split at h
    · cases h
    · omega
  obtain ⟨v,-,hdecode⟩ := (l850glL850NvmParse_iff hsize).mp h
  rcases nvmDecode_iff.mp hdecode with ⟨-,hcleared⟩ | ⟨r,band,-,hband,hlock⟩
  · exact .inl hcleared
  · exact .inr ⟨r,band,hband,hlock⟩

theorem request_eq {r other : LockRequest} (hearfcn : r.earfcn = other.earfcn)
    (hpci : r.pci = other.pci) : r = other := by
  cases r
  cases other
  simp_all

/-- The state of a request matches that request alone. -/
theorem requestMatches_iff {r other : LockRequest} {band spare : Nat} :
    requestMatches (r.state band) other spare = true ↔ other = r := by
  constructor
  · intro h
    simp only [requestMatches,l850glL850LockStateMatches,LockRequest.state,Bool.false_eq_true,
      if_false,Bool.and_eq_true,Bool.true_and,beq_iff_eq] at h
    obtain ⟨⟨hearfcn,hsome⟩,hpci⟩ := h
    apply request_eq hearfcn.symm
    cases hr : r.pci <;> cases ho : other.pci <;> simp_all
  · rintro rfl
    cases hp : other.pci <;>
      simp [requestMatches,l850glL850LockStateMatches,LockRequest.state,hp]

theorem clearMatches_request (r : LockRequest) (band earfcn pci : Nat) (hasPci : Bool) :
    clearMatches (r.state band) earfcn hasPci pci = false := by
  simp [clearMatches,l850glL850LockStateMatches,LockRequest.state]

theorem clearMatches_cleared (earfcn pci : Nat) (hasPci : Bool) :
    clearMatches .cleared earfcn hasPci pci = true := by
  simp [clearMatches,l850glL850LockStateMatches,LockState.cleared]

theorem requestMatches_cleared (r : LockRequest) (spare : Nat) :
    requestMatches .cleared r spare = false := by
  simp [requestMatches,l850glL850LockStateMatches,LockState.cleared]

/-- What comes before a separator and what comes after it are read off the text. -/
theorem append_separator_inj {sep : Char} {a b x y : CString} (ha : sep ∉ a) (hb : sep ∉ b)
    (h : a++sep::x = b++sep::y) : a = b ∧ x = y := by
  have h₁ := congrArg (List.splitOn sep) h
  rw [List.splitOn_append_cons_self_of_not_mem ha,
    List.splitOn_append_cons_self_of_not_mem hb] at h₁
  have h₂ : a = b := (List.cons.inj h₁).1
  subst h₂
  exact ⟨rfl,by simpa using h⟩

theorem decimal_inj {n m : Nat} (h : decimal n = decimal m) : n = m := by
  have h₁ := @Nat.ofDigitChars_ten_toDigits n
  have h₂ := @Nat.ofDigitChars_ten_toDigits m
  simp only [decimal] at h
  rw [← h₁,← h₂,h]

theorem notMem_decimal {c : Char} (n : Nat) (hc : c.isDigit = false) : c ∉ decimal n := by
  intro h
  have := Nat.isDigit_of_mem_toDigits (by decide) (by decide) h
  simp [hc] at this

theorem length_decimal_le {n k : Nat} (hk : 0 < k) (h : n < 10^k) : (decimal n).length ≤ k :=
  (Nat.length_toDigits_le_iff (by decide) hk).mpr h

/-- The text of a command that sets a lock. -/
def setCommand (band earfcn pci : Nat) : CString :=
  "AT@SIC:FREQ_LOCK(0,3,".toList++decimal band++",1,".toList++decimal earfcn++",".toList++
    decimal pci++")".toList

theorem setCommand_eq (band earfcn pci : Nat) :
    setCommand band earfcn pci =
      "AT@SIC:FREQ_LOCK(0,3,".toList++(decimal band++ ','::('1':: ','::(decimal earfcn++
        ','::(decimal pci++ ')'::[])))) := by
  have h₁ : ",1,".toList = [',','1',','] := by decide
  have h₂ : ",".toList = [','] := by decide
  have h₃ : ")".toList = [')'] := by decide
  unfold setCommand
  rw [h₁,h₂,h₃]
  simp only [List.append_assoc,List.cons_append,List.nil_append]

theorem setCommand_length {band earfcn pci : Nat} (h : InBand earfcn band) (hpci : pci ≤ 65535) :
    (setCommand band earfcn pci).length < l850glL850CommandMax := by
  have hband := inBand_band_le h
  have hearfcn := inBand_earfcn_le h
  have h₁ : (decimal band).length ≤ 2 := length_decimal_le (by decide) (by omega)
  have h₂ : (decimal earfcn).length ≤ 5 := length_decimal_le (by decide) (by omega)
  have h₃ : (decimal pci).length ≤ 5 := length_decimal_le (by decide) (by omega)
  have h₄ : ("AT@SIC:FREQ_LOCK(0,3,".toList).length = 21 := by decide
  have h₅ : l850glL850CommandMax = 96 := rfl
  rw [setCommand_eq]
  simp only [List.length_append,List.length_cons,List.length_nil,h₄]
  omega

theorem buildSetCommand_eq {earfcn band pci : Nat} {hasPci : Bool} (h : InBand earfcn band)
    (hpci : hasPci = true → pci ≤ 503) :
    l850glL850BuildSetCommand earfcn hasPci pci l850glL850CommandMax =
      some (setCommand band earfcn (if hasPci then pci else l850glL850PciWildcard)) := by
  have hno : ¬(hasPci = true ∧ pci > 503) := by
    rintro ⟨h₁,h₂⟩
    have := hpci h₁
    omega
  have hle : (if hasPci then pci else l850glL850PciWildcard) ≤ 65535 := by
    split
    · rename_i h₁
      have := hpci h₁
      omega
    · exact Nat.le_refl 65535
  have hlength := setCommand_length h hle
  unfold l850glL850BuildSetCommand
  rw [l850glL850EarfcnToBand_iff.mpr h]
  simp only
  rw [if_neg hno]
  exact if_neg (by
    change ¬(setCommand band earfcn _).length ≥ l850glL850CommandMax
    omega)

theorem command_eq {r : LockRequest} {band : Nat} (spare : Nat) (h : InBand r.earfcn band) :
    r.command spare l850glL850CommandMax =
      some (setCommand band r.earfcn (r.pci.getD l850glL850PciWildcard)) := by
  have hrange := r.pciRange
  cases hp : r.pci with
  | none =>
    have h₁ := @buildSetCommand_eq r.earfcn band spare false h (by simp)
    simpa [LockRequest.command,hp] using h₁
  | some p =>
    have h₁ := @buildSetCommand_eq r.earfcn band p true h (fun _ => hrange p (by simp [hp]))
    simpa [LockRequest.command,hp] using h₁

theorem setCommand_inj {band earfcn pci band' earfcn' pci' : Nat}
    (h : setCommand band earfcn pci = setCommand band' earfcn' pci') :
    band = band' ∧ earfcn = earfcn' ∧ pci = pci' := by
  have hcomma := fun n => @notMem_decimal ',' n rfl
  have hclose := fun n => @notMem_decimal ')' n rfl
  rw [setCommand_eq,setCommand_eq] at h
  have h₁ := List.append_cancel_left h
  obtain ⟨hband,h₂⟩ := append_separator_inj (hcomma _) (hcomma _) h₁
  simp only [List.cons.injEq,true_and] at h₂
  obtain ⟨hearfcn,h₃⟩ := append_separator_inj (hcomma _) (hcomma _) h₂
  obtain ⟨hpci,-⟩ := append_separator_inj (hclose _) (hclose _) h₃
  exact ⟨decimal_inj hband,decimal_inj hearfcn,decimal_inj hpci⟩

theorem setCommand_ne_clear {band earfcn pci : Nat} (hband : band ≤ 85) :
    setCommand band earfcn pci ≠ l850glL850ClearCommand := by
  intro h
  have h₁ : l850glL850ClearCommand =
      "AT@SIC:FREQ_LOCK(0,3,".toList++(decimal 255++ ','::"0,65535,65535)".toList) := by decide
  rw [h₁,setCommand_eq] at h
  have h₂ := List.append_cancel_left h
  obtain ⟨h₃,-⟩ := append_separator_inj (notMem_decimal _ rfl) (notMem_decimal _ rfl) h₂
  have := decimal_inj h₃
  omega

theorem l850glL850NvmParseInto_lock {response : CString} {r : LockRequest} (state : LockState)
    (hsize : response.length ≤ l850glL850NvmMaxResponse) (h : EncodesLock response r) :
    ∃ band, InBand r.earfcn band ∧
      l850glL850NvmParseInto response state = (none,r.state band) := by
  obtain ⟨v,htext,hlocks⟩ := h
  obtain ⟨band,hband⟩ := r.inBand
  have hparse := (l850glL850NvmParse_iff hsize).mpr ⟨v,htext,nvmDecode_locks hlocks hband⟩
  refine ⟨band,hband,?_⟩
  rw [l850glL850NvmParseInto_eq state (ne_nil_of_nvmText htext) hsize,hparse]

theorem l850glL850NvmParseInto_clear {response : CString} (state : LockState)
    (hsize : response.length ≤ l850glL850NvmMaxResponse) (h : EncodesClear response) :
    l850glL850NvmParseInto response state = (none,.cleared) := by
  obtain ⟨v,htext,hclears⟩ := h
  have hparse := (l850glL850NvmParse_iff hsize).mpr ⟨v,htext,nvmDecode_clears hclears⟩
  rw [l850glL850NvmParseInto_eq state (ne_nil_of_nvmText htext) hsize,hparse]

theorem l850glL850NvmParseInto_other {response : CString} (state : LockState)
    (hlock : ∀ r, ¬EncodesLock response r) (hclear : ¬EncodesClear response) :
    (l850glL850NvmParseInto response state).1 ≠ none ∧
      (response ≠ [] → response.length ≤ l850glL850NvmMaxResponse →
        (l850glL850NvmParseInto response state).2 = .zero) := by
  by_cases hne : response = []
  · simp [l850glL850NvmParseInto,hne]
  by_cases hsize : response.length ≤ l850glL850NvmMaxResponse
  · rw [l850glL850NvmParseInto_eq state hne hsize]
    cases hparse : l850glL850NvmParse response with
    | error result => simp
    | ok parsed =>
      obtain ⟨v,htext,hdecode⟩ := (l850glL850NvmParse_iff hsize).mp hparse
      rcases nvmDecode_iff.mp hdecode with ⟨h,-⟩ | ⟨r,band,h,-,-⟩
      · exact absurd ⟨v,htext,h⟩ hclear
      · exact absurd ⟨v,htext,h⟩ (hlock r)
  · have hsize' : response.length > l850glL850NvmMaxResponse := by omega
    rw [l850glL850NvmParseInto,if_neg hne,if_pos hsize']
    exact ⟨by simp,fun _ h => absurd h hsize⟩

/-- A text within the size bound is read as the lock or the cleared state it encodes, that
state matches this request alone, and every other text is refused; a request and its command
determine each other. -/
theorem nvmLock_codec (state : LockState) :
    (∀ r response, response.length ≤ l850glL850NvmMaxResponse → EncodesLock response r →
      ∃ parsed, l850glL850NvmParseInto response state = (none,parsed) ∧
        (∀ other spare, requestMatches parsed other spare = true ↔ other = r) ∧
        ∀ earfcn hasPci pci, clearMatches parsed earfcn hasPci pci = false) ∧
    (∀ response, response.length ≤ l850glL850NvmMaxResponse → EncodesClear response →
      ∃ parsed, l850glL850NvmParseInto response state = (none,parsed) ∧
        (∀ earfcn hasPci pci, clearMatches parsed earfcn hasPci pci = true) ∧
        ∀ r spare, requestMatches parsed r spare = false) ∧
    (∀ response, (∀ r, ¬EncodesLock response r) → ¬EncodesClear response →
      (l850glL850NvmParseInto response state).1 ≠ none ∧
        (response ≠ [] → response.length ≤ l850glL850NvmMaxResponse →
          (l850glL850NvmParseInto response state).2 = .zero)) ∧
    (∀ r spare, ∃ command, LockRequest.command r spare l850glL850CommandMax = some command ∧
      command ≠ l850glL850ClearCommand) ∧
    ∀ r other spare spare', LockRequest.command r spare l850glL850CommandMax =
      LockRequest.command other spare' l850glL850CommandMax → r = other := by
  refine ⟨?_,?_,?_,?_,?_⟩
  · intro r response hsize hlock
    obtain ⟨band,-,hparse⟩ := l850glL850NvmParseInto_lock state hsize hlock
    refine ⟨r.state band,hparse,fun other spare => requestMatches_iff,?_⟩
    exact fun earfcn hasPci pci => clearMatches_request r band earfcn pci hasPci
  · intro response hsize hclear
    refine ⟨.cleared,l850glL850NvmParseInto_clear state hsize hclear,?_,requestMatches_cleared⟩
    exact fun earfcn hasPci pci => clearMatches_cleared earfcn pci hasPci
  · exact fun response hlock hclear => l850glL850NvmParseInto_other state hlock hclear
  · intro r spare
    obtain ⟨band,hband⟩ := r.inBand
    have hle := (inBand_band_le hband).2
    exact ⟨_,command_eq spare hband,setCommand_ne_clear hle⟩
  · intro r other spare spare' h
    obtain ⟨band,hband⟩ := r.inBand
    obtain ⟨band',hband'⟩ := other.inBand
    rw [command_eq spare hband,command_eq spare' hband'] at h
    obtain ⟨-,hearfcn,hpci⟩ := setCommand_inj (Option.some.inj h)
    apply request_eq hearfcn
    have hrange := r.pciRange
    have hrange' := other.pciRange
    have hwild : l850glL850PciWildcard = 65535 := rfl
    cases hp : r.pci <;> cases hp' : other.pci <;> simp_all
    omega

def blankLinesSample : CString :=
  List.replicate 512 '\n'++
    "frequency=1850\nrat=3\npsc_or_pci=12\nband_info=0\ninter_freq_lock_support=1".toList

/-- A text of a lock that is longer than the size bound is refused. -/
theorem oversized_lock_rejected :
    ¬∀ r response state, EncodesLock response r →
      (l850glL850NvmParseInto response state).1 = none := by
  intro h
  let values : NvmValues :=
    [(.interFrequency,1),(.bandInfo,0),(.pci,12),(.rat,3),(.frequency,1850)]
  have hloop : nvmParseLoop (lines blankLinesSample) [] = .ok values := by
    have hread : (nvmParseLoop (lines blankLinesSample) []).toOption = some values := by
      decide +kernel
    cases hparse : nvmParseLoop (lines blankLinesSample) [] with
    | error result => simp [hparse,Except.toOption] at hread
    | ok read => simpa [hparse,Except.toOption] using hread
  obtain ⟨entries,hentries,hvalues,-⟩ := (nvmParseLoop_iff (by simp [AssocList.Keys])).mp hloop
  rw [lines_trimmed,List.append_nil] at *
  have hentries' : entries = values.reverse := by rw [hvalues,List.reverse_reverse]
  let r : LockRequest := ⟨1850,some 12,⟨3,by decide⟩,by decide⟩
  have hencodes : EncodesLock blankLinesSample r := by
    refine ⟨⟨1850,3,12,0,1⟩,⟨_,entries,contents_eq_iff.mp rfl,hentries,?_⟩,?_⟩
    · subst hentries'
      decide
    · constructor <;> decide
  have := h r blankLinesSample .zero hencodes
  revert this
  decide +kernel

end Cell
end L850GL
