import L850GL.Text
import L850GL.Lib.Uci

/-! The section lookup of `network_binding.c`.  A missing option is `none`, the null pointer of
the source. -/
namespace L850GL
namespace Network

open Uci

abbrev NetworkSection := Uci.Section CString
abbrev NetworkPackage := Uci.Package CString

def l850glNetworkSectionMax : Nat := 64
def l850glNetworkModeMax : Nat := 15
def l850glNetworkDeviceMax : Nat := 4096
def l850glNetworkConfdirMax : Nat := 4096

def boundedLength (value : Option CString) (maximum : Nat) : Option Nat :=
  match value with
  | none => none
  | some value => if value.length ≤ maximum then some value.length else none

def boundedEqual (left right : Option CString) (maximum : Nat) : Bool :=
  (boundedLength left maximum).isSome && (boundedLength right maximum).isSome && left == right

def isSectionCharacter (value : Char) : Bool :=
  ('a' ≤ value && value ≤ 'z') || ('A' ≤ value && value ≤ 'Z') ||
    ('0' ≤ value && value ≤ '9') || value == '_'

def sectionNameIsSafe (name : CString) : Bool :=
  match boundedLength (some name) l850glNetworkSectionMax with
  | none => false
  | some length => length != 0 && name.all isSectionCharacter

/-- Bit of a two-character mode token, zero for any other pair. -/
def modeTokenBit (first second : Char) : UInt8 :=
  if second != 'g' then 0
  else if first == '2' then 1
  else if first == '3' then 2
  else if first == '4' then 4
  else if first == '5' then 8
  else 0

/-- The token loop of `allowedmode_is_safe`; `modes` collects the tokens seen. -/
def allowedmodeTokens (modes : UInt8) : CString → Bool
  | [] => true
  | [_] => false
  | first::second::rest =>
    let mode := modeTokenBit first second
    if mode == 0 || modes &&& mode != 0 then false
    else match rest with
      | [] => true
      | separator::rest => separator == '|' && allowedmodeTokens (modes ||| mode) rest

def allowedmodeIsSafe (value : CString) : Bool :=
  match boundedLength (some value) l850glNetworkModeMax with
  | none => false
  | some length =>
    if length == 0 || value == "any".toList then true else allowedmodeTokens 0 value

def preferredmodeIsSafe (value : CString) : Bool :=
  match boundedLength (some value) l850glNetworkModeMax with
  | none => false
  | some length =>
    length == 0 || value == "none".toList ||
      match value with
      | [first,second] => modeTokenBit first second != 0
      | _ => false

def l850glNetworkModesAreValid (allowedmode preferredmode : CString) : Bool :=
  if (boundedLength (some allowedmode) l850glNetworkModeMax).isNone ||
      (boundedLength (some preferredmode) l850glNetworkModeMax).isNone then false
  else
    let combined := allowedmode == "3g|4g".toList
    if !combined && allowedmode != "3g".toList && allowedmode != "4g".toList then false
    else if preferredmode == "none".toList then true
    else if !combined then false
    else preferredmode == "3g".toList || preferredmode == "4g".toList

/-- `struct L850GLNetworkBinding`; a mode with its `has_` member false is `none`. -/
structure NetworkBinding where
  sec : CString
  allowedmode : Option CString
  preferredmode : Option CString
  disableModem : Bool
  disableModemConfigured : Bool
  deriving DecidableEq,Repr

def bindingClear : NetworkBinding := ⟨[],none,none,true,false⟩

def copyModes (binding : NetworkBinding) (allowedmode preferredmode : Option CString) :
    NetworkBinding :=
  {binding with
    allowedmode := (allowedmode.filter allowedmodeIsSafe).or binding.allowedmode
    preferredmode := (preferredmode.filter preferredmodeIsSafe).or binding.preferredmode}

structure BindingScan where
  matched : Nat
  unsafeMatch : Bool
  candidate : NetworkBinding
  deriving DecidableEq,Repr

/-- An interface section of the protocol `modemmanager` for exactly this device. -/
def boundTo (device : CString) (sec : NetworkSection) : Bool :=
  boundedEqual (some sec.type) (some "interface".toList) "interface".length &&
    boundedEqual (sec.lookupOptionString "proto".toList) (some "modemmanager".toList)
      "modemmanager".length &&
    boundedEqual (sec.lookupOptionString "device".toList) (some device) l850glNetworkDeviceMax

def safelyNamed (sec : NetworkSection) : Bool := !sec.anonymous && sectionNameIsSafe sec.name

/-- The binding that describes a section. -/
def bindingOf (sec : NetworkSection) : NetworkBinding :=
  let disableModem := sec.lookupOptionString "disable_modem".toList
  {copyModes {bindingClear with sec := sec.name} (sec.lookupOptionString "allowedmode".toList)
      (sec.lookupOptionString "preferredmode".toList) with
    disableModemConfigured := disableModem.isSome
    disableModem := disableModem != some "0".toList}

def scanConsider (device : CString) (scan : BindingScan) (sec : NetworkSection) : BindingScan :=
  if !boundTo device sec then scan
  else
    let matched := if scan.matched < 2 then scan.matched+1 else scan.matched
    if !safelyNamed sec then {scan with matched := matched,unsafeMatch := true}
    else if matched != 1 then {scan with matched := matched}
    else {scan with matched := matched,candidate := bindingOf sec}

def bindingScan (device : CString) (package : NetworkPackage) : BindingScan :=
  package.foldl (scanConsider device) ⟨0,false,bindingClear⟩

inductive NetworkBindingResult
  | error | none | unique | ambiguous
  deriving DecidableEq,Repr

def scanFinish (scan : BindingScan) : NetworkBindingResult × NetworkBinding :=
  if scan.matched == 0 then (.none,bindingClear)
  else if scan.matched != 1 || scan.unsafeMatch then (.ambiguous,bindingClear)
  else (.unique,scan.candidate)

def lookupArgumentsAreValid (device : CString) : Bool :=
  match boundedLength (some device) l850glNetworkDeviceMax with
  | none => false
  | some length => length != 0

/-- The loop of `find_exact_section` over the sections and their places; `matched` is the
unsigned counter of the source. -/
def findExactStep (device sectionName : CString) (found : UInt32 × Option Nat)
    (entry : NetworkSection × Nat) : UInt32 × Option Nat :=
  if !boundTo device entry.1 then found
  else if entry.1.anonymous || !sectionNameIsSafe entry.1.name ||
      !boundedEqual (some entry.1.name) (some sectionName) l850glNetworkSectionMax then
    (found.1+1,found.2)
  else (found.1+1,some entry.2)

def findExactSection (package : NetworkPackage) (device sectionName : CString) : Option Nat :=
  let found := package.zipIdx.foldl (findExactStep device sectionName) (0,none)
  if found.1 == 1 then found.2 else none

theorem boundedEqual_some {left right : CString} {maximum : Nat} :
    boundedEqual (some left) (some right) maximum = true ↔
      left = right ∧ right.length ≤ maximum := by
  constructor
  · intro h
    simp only [boundedEqual,boundedLength,Bool.and_eq_true,beq_iff_eq,Option.some.injEq] at h
    obtain ⟨⟨-,hr⟩,rfl⟩ := h
    exact ⟨rfl,by_contra fun hl => by simp [hl] at hr⟩
  · rintro ⟨rfl,hl⟩
    simp [boundedEqual,boundedLength,hl]

theorem sectionNameIsSafe_length {name : CString} (h : sectionNameIsSafe name = true) :
    name.length ≤ l850glNetworkSectionMax := by
  by_contra hl
  simp [sectionNameIsSafe,boundedLength,hl] at h

theorem l850glNetworkModesAreValid_length {allowedmode preferredmode : CString}
    (h : l850glNetworkModesAreValid allowedmode preferredmode = true) :
    allowedmode.length ≤ l850glNetworkModeMax ∧ preferredmode.length ≤ l850glNetworkModeMax := by
  constructor
  · by_contra hl
    simp [l850glNetworkModesAreValid,boundedLength,hl] at h
  · by_contra hl
    simp [l850glNetworkModesAreValid,boundedLength,hl] at h

/-- The arguments of `scan_consider`, which a test gives in a
`struct L850GLNetworkBindingTestSection`. -/
structure TestSection where
  name : Option CString
  type : Option CString
  anonymous : Bool
  proto : Option CString
  device : Option CString
  allowedmode : Option CString
  preferredmode : Option CString
  disableModem : Option CString
  deriving DecidableEq,Repr

namespace TestSection

def boundTo (device : CString) (sec : TestSection) : Bool :=
  boundedEqual sec.type (some "interface".toList) "interface".length &&
    boundedEqual sec.proto (some "modemmanager".toList) "modemmanager".length &&
    boundedEqual sec.device (some device) l850glNetworkDeviceMax

def safelyNamed (sec : TestSection) : Bool := !sec.anonymous && sec.name.any sectionNameIsSafe

def bindingOf (sec : TestSection) : NetworkBinding :=
  {copyModes {bindingClear with sec := sec.name.getD []} sec.allowedmode sec.preferredmode with
    disableModemConfigured := sec.disableModem.isSome
    disableModem := sec.disableModem != some "0".toList}

/-- `scan_consider` over its own arguments. -/
def scanConsider (device : CString) (scan : BindingScan) (sec : TestSection) : BindingScan :=
  if !sec.boundTo device then scan
  else
    let matched := if scan.matched < 2 then scan.matched+1 else scan.matched
    if !sec.safelyNamed then {scan with matched := matched,unsafeMatch := true}
    else if matched != 1 then {scan with matched := matched}
    else {scan with matched := matched,candidate := sec.bindingOf}

/-- Only the bound sections matter to the scan. -/
theorem foldl_scanConsider_filter (device : CString) (sections : List TestSection)
    (scan : BindingScan) :
    sections.foldl (scanConsider device) scan =
      (sections.filter (boundTo device)).foldl (scanConsider device) scan := by
  rw [List.foldl_filter]
  refine List.foldl_ext _ _ _ fun scan sec _ => ?_
  by_cases h : boundTo device sec = true
  · simp [h]
  · simp [scanConsider,h]

theorem scanConsider_matched {device : CString} {sec : TestSection} (scan : BindingScan)
    (h : sec.boundTo device = true) :
    (scanConsider device scan sec).matched =
      if scan.matched < 2 then scan.matched+1 else scan.matched := by
  simp only [scanConsider,h,Bool.not_true,Bool.false_eq_true,if_false,
    apply_ite BindingScan.matched,ite_self]

/-- Two matches stay two. -/
theorem foldl_scanConsider_matched {device : CString} (sections : List TestSection)
    {scan : BindingScan} (hb : ∀ sec ∈ sections, sec.boundTo device = true)
    (h : scan.matched = 2) : (sections.foldl (scanConsider device) scan).matched = 2 := by
  induction sections generalizing scan with
  | nil => exact h
  | cons sec sections ih =>
    have h₁ := scanConsider_matched scan (hb sec (by simp))
    exact ih (fun s hs => hb s (by simp [hs])) (by rw [h₁,h]; rfl)

/-- What the scan answers, read off the bound sections. -/
theorem scanFinish_foldl (device : CString) (sections : List TestSection)
    (candidate : NetworkBinding) :
    scanFinish (sections.foldl (scanConsider device) ⟨0,false,candidate⟩) =
      match sections.filter (boundTo device) with
      | [] => (.none,bindingClear)
      | [sec] => if sec.safelyNamed then (.unique,sec.bindingOf) else (.ambiguous,bindingClear)
      | _::_::_ => (.ambiguous,bindingClear) := by
  rw [foldl_scanConsider_filter]
  have hb : ∀ sec ∈ sections.filter (boundTo device), boundTo device sec = true := by
    intro sec hsec
    exact (List.mem_filter.mp hsec).2
  generalize sections.filter (boundTo device) = bound at hb
  match bound with
  | [] => rfl
  | [sec] =>
    have h₁ := hb sec (by simp)
    by_cases h₂ : sec.safelyNamed = true
    · simp [scanConsider,h₁,h₂,scanFinish]
    · simp [scanConsider,h₁,h₂,scanFinish]
  | s₁::s₂::rest =>
    have h₁ := scanConsider_matched ⟨0,false,candidate⟩ (hb s₁ (by simp))
    have h₂ := scanConsider_matched (scanConsider device ⟨0,false,candidate⟩ s₁) (hb s₂ (by simp))
    rw [h₁] at h₂
    have h₃ := foldl_scanConsider_matched rest (fun s hs => hb s (by simp [hs])) h₂
    simp only [List.foldl_cons,scanFinish,h₃]
    rfl

end TestSection

/-- What the lookups of the source pass to `scan_consider` for a section. -/
def sectionFields (sec : NetworkSection) : TestSection where
  name := some sec.name
  type := some sec.type
  anonymous := sec.anonymous
  proto := sec.lookupOptionString "proto".toList
  device := sec.lookupOptionString "device".toList
  allowedmode := sec.lookupOptionString "allowedmode".toList
  preferredmode := sec.lookupOptionString "preferredmode".toList
  disableModem := sec.lookupOptionString "disable_modem".toList

/-- What the scan answers, read off the bound sections. -/
theorem scanFinish_bindingScan (device : CString) (package : NetworkPackage) :
    scanFinish (bindingScan device package) =
      match package.filter (boundTo device) with
      | [] => (.none,bindingClear)
      | [sec] => if safelyNamed sec then (.unique,bindingOf sec) else (.ambiguous,bindingClear)
      | _::_::_ => (.ambiguous,bindingClear) := by
  have hfields := TestSection.scanFinish_foldl device (package.map sectionFields) bindingClear
  rw [List.foldl_map,List.filter_map] at hfields
  have hbound : TestSection.boundTo device ∘ sectionFields = boundTo device := rfl
  rw [hbound] at hfields
  refine hfields.trans ?_
  generalize package.filter (boundTo device) = bound
  match bound with
  | [] => rfl
  | [sec] => rfl
  | _::_::_ => rfl

theorem scanFinish_unique {device : CString} {package : NetworkPackage}
    {binding : NetworkBinding} :
    scanFinish (bindingScan device package) = (.unique,binding) ↔
      ∃ sec, package.filter (boundTo device) = [sec] ∧ safelyNamed sec = true ∧
        binding = bindingOf sec := by
  rw [scanFinish_bindingScan]
  generalize package.filter (boundTo device) = bound
  match bound with
  | [] => simp
  | [sec] =>
    by_cases h : safelyNamed sec = true
    · simp [h,eq_comm (a:=binding)]
    · simp [h]
  | _::_::_ => simp

/-- The place of the only bound section. -/
theorem zipIdx_filter_boundTo {device : CString} {package : NetworkPackage}
    {sec : NetworkSection} (h : package.filter (boundTo device) = [sec]) :
    ∃ i, package.zipIdx.filter (fun entry => boundTo device entry.1) = [(sec,i)] ∧
      package[i]? = some sec := by
  have h₁ : (package.zipIdx.filter fun entry => boundTo device entry.1).map Prod.fst = [sec] := by
    have h₀ := List.filter_map (f:=Prod.fst) (p:=boundTo device) (l:=package.zipIdx)
    rw [List.zipIdx_map_fst,h] at h₀
    exact h₀.symm
  obtain ⟨⟨s,i⟩,h₂,rfl⟩ := List.map_eq_singleton_iff.mp h₁
  refine ⟨i,h₂,?_⟩
  have h₃ : (s,i) ∈ package.zipIdx := by
    have h₄ : (s,i) ∈ package.zipIdx.filter fun entry => boundTo device entry.1 := by simp [h₂]
    exact (List.mem_filter.mp h₄).1
  simpa using List.mem_zipIdx_iff_getElem?.mp h₃

/-- The second lookup finds the section that the scan described. -/
theorem findExactSection_of_filter {device : CString} {package : NetworkPackage}
    {sec : NetworkSection} (h : package.filter (boundTo device) = [sec])
    (hsafe : safelyNamed sec = true) :
    ∃ i, findExactSection package device sec.name = some i ∧ package[i]? = some sec := by
  obtain ⟨i,h₁,h₂⟩ := zipIdx_filter_boundTo h
  refine ⟨i,?_,h₂⟩
  have hb : boundTo device sec = true := by
    have h₃ : sec ∈ package.filter (boundTo device) := by simp [h]
    exact (List.mem_filter.mp h₃).2
  have h₄ : package.zipIdx.foldl (findExactStep device sec.name) (0,none) =
      [(sec,i)].foldl (findExactStep device sec.name) (0,none) := by
    rw [← h₁,List.foldl_filter]
    refine List.foldl_ext _ _ _ fun found entry _ => ?_
    by_cases he : boundTo device entry.1 = true
    · simp [he]
    · simp [findExactStep,he]
  simp only [safelyNamed,Bool.and_eq_true,Bool.not_eq_true'] at hsafe
  have h₅ : boundedEqual (some sec.name) (some sec.name) l850glNetworkSectionMax = true :=
    boundedEqual_some.mpr ⟨rfl,sectionNameIsSafe_length hsafe.2⟩
  simp [findExactSection,h₄,findExactStep,hb,hsafe.1,hsafe.2,h₅]

/-- No other place holds a bound section. -/
theorem boundTo_place_unique {device : CString} {package : NetworkPackage}
    {sec other : NetworkSection} {i j : Nat} (h : package.filter (boundTo device) = [sec])
    (hi : package[i]? = some sec) (hj : package[j]? = some other)
    (hb : boundTo device other = true) : j = i := by
  obtain ⟨k,h₁,-⟩ := zipIdx_filter_boundTo h
  have hsec : boundTo device sec = true := by
    have h₃ : sec ∈ package.filter (boundTo device) := by simp [h]
    exact (List.mem_filter.mp h₃).2
  have h₂ : ∀ {s : NetworkSection} {n : Nat}, package[n]? = some s → boundTo device s = true →
      n = k := by
    intro s n hn hs
    have h₄ : (s,n) ∈ package.zipIdx.filter fun entry => boundTo device entry.1 :=
      List.mem_filter.mpr ⟨List.mem_zipIdx_iff_getElem?.mpr (by simpa using hn),hs⟩
    rw [h₁] at h₄
    simp only [List.mem_singleton,Prod.mk.injEq] at h₄
    exact h₄.2
  rw [h₂ hj hb,h₂ hi hsec]

end Network
end L850GL
