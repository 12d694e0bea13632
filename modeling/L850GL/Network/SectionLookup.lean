import L850GL.Network.Binding

/-! The lookup of the one section bound to a device, over every list of sections. -/
namespace L850GL
namespace Network

/-- `struct BindingScan scan = { 0 }`. -/
def bindingScanZero : BindingScan := ⟨0,false,⟨[],none,none,false,false⟩⟩

def l850glNetworkBindingLookupTestSections (sections : List TestSection) (device : CString) :
    NetworkBindingResult × NetworkBinding :=
  if !lookupArgumentsAreValid device then (.error,bindingClear)
  else
    let (result,binding) :=
      scanFinish (sections.foldl (TestSection.scanConsider device) bindingScanZero)
    (result,if result != .unique then bindingClear else binding)

/-- A section of the device: type, protocol and device as they must be. -/
def Matches (device : CString) (sec : TestSection) : Prop :=
  sec.type = some "interface".toList ∧ sec.proto = some "modemmanager".toList ∧
    sec.device = some device

instance (device : CString) : DecidablePred (Matches device) := fun sec =>
  inferInstanceAs (Decidable (sec.type = some "interface".toList ∧
    sec.proto = some "modemmanager".toList ∧ sec.device = some device))

def SafeName (name : CString) : Prop :=
  name ≠ [] ∧ name.length ≤ l850glNetworkSectionMax ∧ ∀ c ∈ name,isSectionCharacter c = true

def NamedSafely (sec : TestSection) : Prop :=
  sec.anonymous = false ∧ ∃ name,sec.name = some name ∧ SafeName name

/-- The binding says of a section all that it can hold. -/
structure Describes (binding : NetworkBinding) (sec : TestSection) : Prop where
  name : sec.name = some binding.sec
  allowedmode : binding.allowedmode = sec.allowedmode.filter allowedmodeIsSafe
  preferredmode : binding.preferredmode = sec.preferredmode.filter preferredmodeIsSafe
  configured : binding.disableModemConfigured = sec.disableModem.isSome
  kept : binding.disableModem = false ↔ sec.disableModem = some "0".toList

theorem boundedEqual_iff (left : Option CString) (right : CString) {maximum : Nat}
    (h : right.length ≤ maximum) :
    boundedEqual left (some right) maximum = true ↔ left = some right := by
  cases left with
  | none => simp [boundedEqual,boundedLength]
  | some left =>
    rw [boundedEqual_some,Option.some.injEq]
    exact ⟨And.left,fun heq => ⟨heq,h⟩⟩

theorem sectionNameIsSafe_iff {name : CString} : sectionNameIsSafe name = true ↔ SafeName name := by
  by_cases hl : name.length ≤ l850glNetworkSectionMax
  · simp [sectionNameIsSafe,boundedLength,hl,SafeName]
  · simp [sectionNameIsSafe,boundedLength,hl,SafeName]

theorem safelyNamed_iff {sec : TestSection} : sec.safelyNamed = true ↔ NamedSafely sec := by
  simp only [TestSection.safelyNamed,Bool.and_eq_true,Bool.not_eq_true',NamedSafely,
    Option.any_eq_true,sectionNameIsSafe_iff]

theorem boundTo_iff {device : CString} (hdevice : device.length ≤ l850glNetworkDeviceMax)
    {sec : TestSection} : sec.boundTo device = true ↔ Matches device sec := by
  have htype := boundedEqual_iff sec.type "interface".toList
    (show "interface".toList.length ≤ "interface".length by decide)
  have hproto := boundedEqual_iff sec.proto "modemmanager".toList
    (show "modemmanager".toList.length ≤ "modemmanager".length by decide)
  simp only [TestSection.boundTo,Bool.and_eq_true,boundedEqual_iff _ _ hdevice,htype,hproto,Matches,
    and_assoc]

theorem bindingOf_describes {sec : TestSection} (h : NamedSafely sec) :
    Describes sec.bindingOf sec := by
  obtain ⟨-,name,hname,-⟩ := h
  constructor
  · simp [TestSection.bindingOf,copyModes,hname]
  · simp [TestSection.bindingOf,copyModes,bindingClear]
  · simp [TestSection.bindingOf,copyModes,bindingClear]
  · rfl
  · simp [TestSection.bindingOf]

/-- What the lookup answers, read off the sections of the device. -/
theorem l850glNetworkBindingLookupTestSections_eq {device : CString} (hne : device ≠ [])
    (hdevice : device.length ≤ l850glNetworkDeviceMax) (sections : List TestSection) :
    l850glNetworkBindingLookupTestSections sections device =
      match sections.filter (Matches device) with
      | [] => (.none,bindingClear)
      | [sec] => if sec.safelyNamed then (.unique,sec.bindingOf) else (.ambiguous,bindingClear)
      | _::_::_ => (.ambiguous,bindingClear) := by
  have hvalid : lookupArgumentsAreValid device = true := by
    simp [lookupArgumentsAreValid,boundedLength,hdevice,hne]
  have hfilter : sections.filter (TestSection.boundTo device) =
      sections.filter (Matches device) := by
    refine List.filter_congr fun sec _ => ?_
    rw [Bool.eq_iff_iff,boundTo_iff hdevice,decide_eq_true_iff]
  have hscan := TestSection.scanFinish_foldl device sections bindingScanZero.candidate
  rw [hfilter] at hscan
  have hzero : scanFinish (sections.foldl (TestSection.scanConsider device) bindingScanZero) = _ :=
    hscan
  simp only [l850glNetworkBindingLookupTestSections,hvalid,Bool.not_true,Bool.false_eq_true,
    if_false,hzero]
  generalize sections.filter (Matches device) = bound
  cases bound with
  | nil => rfl
  | cons sec bound =>
    cases bound with
    | nil =>
      by_cases hs : sec.safelyNamed = true
      · simp [hs]
      · simp [hs]
    | cons other bound => rfl

/-- The lookup of the source does the same with the sections that it has loaded. -/
theorem l850glNetworkBindingLookupTestSections_sectionFields {device : CString} (hne : device ≠ [])
    (hdevice : device.length ≤ l850glNetworkDeviceMax) (package : NetworkPackage) :
    l850glNetworkBindingLookupTestSections (package.map sectionFields) device =
      scanFinish (bindingScan device package) := by
  have hfilter : (package.map sectionFields).filter (Matches device) =
      (package.filter (boundTo device)).map sectionFields := by
    rw [List.filter_map]
    refine congrArg _ (List.filter_congr fun sec _ => ?_)
    rw [Bool.eq_iff_iff,Function.comp_apply,decide_eq_true_iff,← boundTo_iff hdevice]
    rfl
  rw [l850glNetworkBindingLookupTestSections_eq hne hdevice,scanFinish_bindingScan,hfilter]
  generalize package.filter (boundTo device) = bound
  match bound with
  | [] => rfl
  | [sec] => rfl
  | _::_::_ => rfl

/-- The order of the sections does not matter. -/
theorem l850glNetworkBindingLookupTestSections_perm {device : CString} (hne : device ≠ [])
    (hdevice : device.length ≤ l850glNetworkDeviceMax) {sections sections' : List TestSection}
    (h : sections.Perm sections') :
    l850glNetworkBindingLookupTestSections sections device =
      l850glNetworkBindingLookupTestSections sections' device := by
  have hperm := h.filter (fun sec => decide (Matches device sec))
  rw [l850glNetworkBindingLookupTestSections_eq hne hdevice,
    l850glNetworkBindingLookupTestSections_eq hne hdevice]
  generalize sections.filter (Matches device) = bound at hperm
  generalize sections'.filter (Matches device) = bound' at hperm
  match bound with
  | [] => rw [List.nil_perm.mp hperm]
  | [sec] => rw [List.singleton_perm.mp hperm]
  | _::_::_ =>
    have hlength := hperm.length_eq
    match bound' with
    | [] => simp at hlength
    | [_] => simp at hlength
    | _::_::_ => rfl

/-- The lookup is unique exactly for one safely named section of the device, whose binding it
then gives, and depends on no order. -/
theorem l850glNetworkBindingLookup_exact (sections : List TestSection) (device : CString)
    (hne : device ≠ []) (hdevice : device.length ≤ l850glNetworkDeviceMax) :
    let lookup := l850glNetworkBindingLookupTestSections sections device
    let isUnique := ∃ sec,sections.filter (Matches device) = [sec] ∧ NamedSafely sec
    let isNone := ∀ sec ∈ sections,¬ Matches device sec
    (lookup.1 = .unique ↔ isUnique) ∧ (lookup.1 = .none ↔ isNone) ∧
      (lookup.1 = .ambiguous ↔ ¬ isUnique ∧ ¬ isNone) ∧
      (lookup.1 = .unique → ∃ sec ∈ sections,Matches device sec ∧ Describes lookup.2 sec) ∧
      (lookup.1 ≠ .unique → lookup.2 = bindingClear) ∧
      ∀ sections',sections.Perm sections' →
        l850glNetworkBindingLookupTestSections sections' device = lookup := by
  intro lookup isUnique isNone
  have hlookup : lookup = _ := l850glNetworkBindingLookupTestSections_eq hne hdevice sections
  have hnone : isNone ↔ sections.filter (Matches device) = [] := by
    simp [isNone,List.filter_eq_nil_iff]
  have hmem : ∀ sec,sections.filter (Matches device) = [sec] →
      sec ∈ sections ∧ Matches device sec := by
    intro sec hsec
    have h₁ : sec ∈ sections.filter (Matches device) := by simp [hsec]
    simpa using List.mem_filter.mp h₁
  have hperm : ∀ sections',sections.Perm sections' →
      l850glNetworkBindingLookupTestSections sections' device = lookup := fun sections' h =>
    (l850glNetworkBindingLookupTestSections_perm hne hdevice h).symm
  match hbound : sections.filter (Matches device) with
  | [] =>
    have hl : lookup = (.none,bindingClear) := by rw [hlookup,hbound]
    have hu : ¬ isUnique := by simp [isUnique,hbound]
    have hn : isNone := hnone.mpr hbound
    refine ⟨?_,?_,?_,?_,?_,hperm⟩ <;> simp [hl,hu,hn]
  | [sec] =>
    have hn : ¬ isNone := by simp [hnone,hbound]
    by_cases hs : NamedSafely sec
    · have hl : lookup = (.unique,sec.bindingOf) := by
        rw [hlookup,hbound]
        simp [safelyNamed_iff.mpr hs]
      have hu : isUnique := ⟨sec,hbound,hs⟩
      obtain ⟨hsec,hmatches⟩ := hmem sec hbound
      refine ⟨?_,?_,?_,fun _ => ⟨sec,hsec,hmatches,?_⟩,?_,hperm⟩
      · simp [hl,hu]
      · simp [hl,hn]
      · simp [hl,hu]
      · rw [hl]
        exact bindingOf_describes hs
      · simp [hl]
    · have hl : lookup = (.ambiguous,bindingClear) := by
        rw [hlookup,hbound]
        simp [mt safelyNamed_iff.mp hs]
      have hu : ¬ isUnique := by
        rintro ⟨sec',hsec',hs'⟩
        rw [hbound] at hsec'
        exact hs (List.singleton_injective hsec' ▸ hs')
      refine ⟨?_,?_,?_,?_,?_,hperm⟩ <;> simp [hl,hu,hn]
  | s₁::s₂::rest =>
    have hl : lookup = (.ambiguous,bindingClear) := by rw [hlookup,hbound]
    have hu : ¬ isUnique := by simp [isUnique,hbound]
    have hn : ¬ isNone := by simp [hnone,hbound]
    refine ⟨?_,?_,?_,?_,?_,hperm⟩ <;> simp [hl,hu,hn]

def sampleDevice : CString := "/sys/x".toList

def sampleLan : TestSection :=
  ⟨some "lan".toList,some "interface".toList,false,some "static".toList,none,none,none,none⟩

def sampleWwan : TestSection :=
  ⟨some "wwan".toList,some "interface".toList,false,some "modemmanager".toList,some sampleDevice,
    none,some "4g".toList,none⟩

/-- The section of another modem, under a name that is not safe. -/
def sampleOther : TestSection :=
  ⟨some "wan-5".toList,some "interface".toList,false,some "modemmanager".toList,
    some "/sys/y".toList,none,none,none⟩

/-- One section of three is that of the device, in either order. -/
theorem l850glNetworkBindingLookup_exact_sample :
    let lookup :=
      l850glNetworkBindingLookupTestSections [sampleLan,sampleWwan,sampleOther] sampleDevice
    lookup.1 = .unique ∧ Describes lookup.2 sampleWwan ∧
      l850glNetworkBindingLookupTestSections [sampleOther,sampleLan,sampleWwan] sampleDevice =
        lookup := by
  intro lookup
  obtain ⟨hunique,-,-,hdescribes,-,horder⟩ := l850glNetworkBindingLookup_exact
    [sampleLan,sampleWwan,sampleOther] sampleDevice (by decide) (by decide)
  have hfilter : [sampleLan,sampleWwan,sampleOther].filter (Matches sampleDevice) =
      [sampleWwan] := by decide
  have hlookup := hunique.mpr ⟨sampleWwan,hfilter,safelyNamed_iff.mp (by decide)⟩
  obtain ⟨sec,hm,hmatches,hsec⟩ := hdescribes hlookup
  have hsame : sec ∈ [sampleLan,sampleWwan,sampleOther].filter (Matches sampleDevice) :=
    List.mem_filter.mpr ⟨hm,by simpa using hmatches⟩
  rw [hfilter,List.mem_singleton] at hsame
  subst hsame
  exact ⟨hlookup,hsec,horder _ (by decide)⟩

end Network
end L850GL
