import L850GL.Network.Binding
import Mathlib.Logic.Function.Basic

/-! The configuration write of `network_binding.c` and its frame.  The disk keeps a store for
each package; which libuci calls fail is part of the input. -/
namespace L850GL
namespace Network

open Uci

abbrev NetworkStore (δ : Type) := Uci.Store CString δ

abbrev Disk (δ : Type) := CString → NetworkStore δ

/-- The libuci calls that fail; a failing commit may leave any store behind. -/
structure UciFaults (δ : Type) where
  allocContext : Bool
  setConfdir : Bool
  setConf2dir : Bool
  load : Bool
  setAllowedmode : Bool
  setPreferredmode : Bool
  commit : Option (NetworkStore δ)
  deriving DecidableEq,Repr

inductive NetworkModeUpdateResult
  | error | none | ok | ambiguous | invalid | verifyFailed
  deriving DecidableEq,Repr

structure ModeUpdate (δ : Type) where
  result : NetworkModeUpdateResult
  binding : NetworkBinding
  disk : Disk δ

def confdirIsValid (confdir : Option CString) : Bool :=
  match confdir with
  | none => true
  | some dir =>
    (boundedLength (some dir) l850glNetworkConfdirMax).any (· != 0) &&
      dir.head? == some '/' && dir.getLast? != some '/'

def packageName (confdir : Option CString) : CString :=
  match confdir with
  | none => "network".toList
  | some dir => dir++"/network".toList

def setAllowedmode (allowedmode : CString) (package : NetworkPackage) (i : Nat) :
    NetworkPackage :=
  package.modify i fun sec => sec.setOption "allowedmode".toList allowedmode

def setPreferredmode (preferredmode : CString) (package : NetworkPackage) (i : Nat) :
    NetworkPackage :=
  package.modify i fun sec => sec.setOption "preferredmode".toList preferredmode

def modesReadBack (package : NetworkPackage) (device sectionName allowedmode preferredmode :
    CString) : Bool :=
  match (findExactSection package device sectionName).bind (package[·]?) with
  | none => false
  | some sec =>
    boundedEqual (sec.lookupOptionString "allowedmode".toList) (some allowedmode)
        l850glNetworkModeMax &&
      boundedEqual (sec.lookupOptionString "preferredmode".toList) (some preferredmode)
        l850glNetworkModeMax

section

variable {δ : Type} (overlay : NetworkPackage → δ → NetworkPackage)

/-- The part after a unique lookup.  Edits of the loaded package are lost unless they are
committed, so a failing `uci_set` leaves the disk as it was. -/
def modesWrite (name device allowedmode preferredmode : CString) (faults : UciFaults δ)
    (disk : Disk δ) (package : NetworkPackage) (binding : NetworkBinding) : ModeUpdate δ :=
  match findExactSection package device binding.sec with
  | none => ⟨.ambiguous,bindingClear,disk⟩
  | some i =>
    if faults.setAllowedmode then ⟨.error,bindingClear,disk⟩
    else if faults.setPreferredmode then ⟨.error,bindingClear,disk⟩
    else
      let package := setPreferredmode preferredmode (setAllowedmode allowedmode package i) i
      match faults.commit with
      | some left => ⟨.verifyFailed,bindingClear,Function.update disk name left⟩
      | none =>
        let disk := Function.update disk name (.commit package)
        if !modesReadBack package device binding.sec allowedmode preferredmode then
          ⟨.verifyFailed,bindingClear,disk⟩
        else ⟨.ok,copyModes binding (some allowedmode) (some preferredmode),disk⟩

def l850glNetworkModesUpdateAt (confdir : Option CString)
    (device allowedmode preferredmode : CString) (faults : UciFaults δ) (disk : Disk δ) :
    ModeUpdate δ :=
  if !lookupArgumentsAreValid device || !l850glNetworkModesAreValid allowedmode preferredmode then
    ⟨.invalid,bindingClear,disk⟩
  else if !confdirIsValid confdir then ⟨.invalid,bindingClear,disk⟩
  else if faults.allocContext then ⟨.error,bindingClear,disk⟩
  else if confdir.isSome && (faults.setConfdir || faults.setConf2dir) then
    ⟨.error,bindingClear,disk⟩
  else if faults.load then ⟨.error,bindingClear,disk⟩
  else
    let package := (disk (packageName confdir)).load overlay
    match scanFinish (bindingScan device package) with
    | (.none,_) => ⟨.none,bindingClear,disk⟩
    | (.ambiguous,_) => ⟨.ambiguous,bindingClear,disk⟩
    | (.error,_) => ⟨.error,bindingClear,disk⟩
    | (.unique,binding) =>
      modesWrite (packageName confdir) device allowedmode preferredmode faults disk package binding

def l850glNetworkModesUpdate (device allowedmode preferredmode : CString) (faults : UciFaults δ)
    (disk : Disk δ) : ModeUpdate δ :=
  l850glNetworkModesUpdateAt overlay none device allowedmode preferredmode faults disk

end

def isNotMode (option : CString) : Bool :=
  option != "allowedmode".toList && option != "preferredmode".toList

/-- The sections without the two mode options of the sections bound to the device. -/
def eraseModes (device : CString) (sec : NetworkSection) : NetworkSection :=
  if boundTo device sec then sec.keep isNotMode else sec

/-- The one section bound to the device is at place `i`. -/
def IsBoundAt (device : CString) (package : NetworkPackage) (i : Nat) (sec : NetworkSection) :
    Prop :=
  package[i]? = some sec ∧ boundTo device sec = true ∧
    ∀ j other, package[j]? = some other → boundTo device other = true → j = i

/-- `after` differs from `before` only in the two modes of the one bound section, which read
back as requested. -/
structure OnlyModesChanged (device allowedmode preferredmode : CString)
    (before after : NetworkPackage) : Prop where
  others : after.map (eraseModes device) = before.map (eraseModes device)
  requested : ∃ i sec, IsBoundAt device after i sec ∧
    sec.lookupOptionString "allowedmode".toList = some allowedmode ∧
    sec.lookupOptionString "preferredmode".toList = some preferredmode

/-- A section that the scan reports as unique is the one the second lookup selects. -/
def LookupsAgree (device : CString) : Prop :=
  ∀ package binding, scanFinish (bindingScan device package) = (.unique,binding) →
    ∃ i sec, IsBoundAt device package i sec ∧ binding = bindingOf sec ∧
      findExactSection package device binding.sec = some i

theorem boundTo_setOption {device option : CString} (sec : NetworkSection) (value : CString)
    (hp : option ≠ "proto".toList) (hd : option ≠ "device".toList) :
    boundTo device (sec.setOption option value) = boundTo device sec := by
  have h₁ := Section.lookupOptionString_setOption_other sec value (Ne.symm hp)
  have h₂ := Section.lookupOptionString_setOption_other sec value (Ne.symm hd)
  simp only [boundTo,h₁,h₂]
  rfl

theorem eraseModes_setOption {device option : CString} (sec : NetworkSection) (value : CString)
    (hp : option ≠ "proto".toList) (hd : option ≠ "device".toList)
    (hm : isNotMode option = false) (hb : boundTo device sec = true) :
    eraseModes device (sec.setOption option value) = eraseModes device sec := by
  simp only [eraseModes,boundTo_setOption sec value hp hd,hb,if_true,
    Section.keep_setOption sec value hm]

theorem isBoundAt_of_filter {device : CString} {package : NetworkPackage} {sec : NetworkSection}
    {i : Nat} (h : package.filter (boundTo device) = [sec]) (hi : package[i]? = some sec) :
    IsBoundAt device package i sec := by
  have hb : sec ∈ package.filter (boundTo device) := by simp [h]
  exact ⟨hi,(List.mem_filter.mp hb).2,fun j other hj ho => boundTo_place_unique h hi hj ho⟩

theorem lookupsAgree (device : CString) : LookupsAgree device := by
  intro package binding h
  obtain ⟨sec,h₁,h₂,rfl⟩ := scanFinish_unique.mp h
  obtain ⟨i,h₃,h₄⟩ := findExactSection_of_filter h₁ h₂
  exact ⟨i,sec,isBoundAt_of_filter h₁ h₄,rfl,h₃⟩

/-- Setting one mode of the only bound section keeps it the only one and changes nothing else. -/
theorem filter_setMode (option : CString) {device : CString} {package : NetworkPackage}
    {sec : NetworkSection} {i : Nat} (value : CString) (hp : option ≠ "proto".toList)
    (hd : option ≠ "device".toList) (hm : isNotMode option = false)
    (h : package.filter (boundTo device) = [sec]) (hi : package[i]? = some sec) :
    let written := package.modify i fun s => s.setOption option value
    written.filter (boundTo device) = [sec.setOption option value] ∧
      written[i]? = some (sec.setOption option value) ∧
      written.map (eraseModes device) = package.map (eraseModes device) := by
  have hb : boundTo device sec = true := (isBoundAt_of_filter h hi).2.1
  refine ⟨filter_modify h hi ?_,?_,map_modify hi ?_⟩
  · rw [boundTo_setOption sec value hp hd,hb]
  · simp [hi]
  · exact eraseModes_setOption sec value hp hd hm hb

/-- The package that a commit writes. -/
theorem modesSet_spec {device allowedmode preferredmode : CString} {package : NetworkPackage}
    {sec : NetworkSection} {i : Nat} (h : package.filter (boundTo device) = [sec])
    (hi : package[i]? = some sec) (hsafe : safelyNamed sec = true)
    (hvalid : l850glNetworkModesAreValid allowedmode preferredmode = true) :
    let written := setPreferredmode preferredmode (setAllowedmode allowedmode package i) i
    OnlyModesChanged device allowedmode preferredmode package written ∧
      modesReadBack written device sec.name allowedmode preferredmode = true := by
  obtain ⟨h₁,h₂,h₃⟩ := filter_setMode "allowedmode".toList allowedmode
    (by decide) (by decide) (by decide) h hi
  obtain ⟨h₄,h₅,h₆⟩ := filter_setMode "preferredmode".toList preferredmode
    (by decide) (by decide) (by decide) h₁ h₂
  have hallowed : ((sec.setOption "allowedmode".toList allowedmode).setOption
      "preferredmode".toList preferredmode).lookupOptionString "allowedmode".toList =
        some allowedmode := by
    rw [Section.lookupOptionString_setOption_other _ _ (by decide)]
    exact Section.lookupOptionString_setOption _ _ _
  have hpreferred : ((sec.setOption "allowedmode".toList allowedmode).setOption
      "preferredmode".toList preferredmode).lookupOptionString "preferredmode".toList =
        some preferredmode := Section.lookupOptionString_setOption _ _ _
  refine ⟨⟨h₆.trans h₃,i,_,isBoundAt_of_filter h₄ h₅,hallowed,hpreferred⟩,?_⟩
  obtain ⟨j,hj,hsec⟩ := findExactSection_of_filter h₄ hsafe
  obtain ⟨hl,hr⟩ := l850glNetworkModesAreValid_length hvalid
  have hfind : (findExactSection (setPreferredmode preferredmode
      (setAllowedmode allowedmode package i) i) device sec.name) = some j := hj
  have hget : (setPreferredmode preferredmode (setAllowedmode allowedmode package i) i)[j]? =
      some ((sec.setOption "allowedmode".toList allowedmode).setOption "preferredmode".toList
        preferredmode) := hsec
  simp only [modesReadBack,hfind,Option.bind_some,hget,hallowed,hpreferred,Bool.and_eq_true]
  exact ⟨boundedEqual_some.mpr ⟨rfl,hl⟩,boundedEqual_some.mpr ⟨rfl,hr⟩⟩

section

variable {δ : Type} (overlay : NetworkPackage → δ → NetworkPackage) (confdir : Option CString)
  (device allowedmode preferredmode : CString) (faults : UciFaults δ) (disk : Disk δ)

/-- The requests that reach a successful commit: valid arguments, no failing call, and one
bound section, safely named, in the package as it is loaded. -/
structure UpdateGoesThrough : Prop where
  deviceIsValid : lookupArgumentsAreValid device = true
  modesAreValid : l850glNetworkModesAreValid allowedmode preferredmode = true
  confdirIsValid : confdirIsValid confdir = true
  allocContext : faults.allocContext = false
  directories : (confdir.isSome && (faults.setConfdir || faults.setConf2dir)) = false
  load : faults.load = false
  setAllowedmode : faults.setAllowedmode = false
  setPreferredmode : faults.setPreferredmode = false
  commit : faults.commit = none
  bound : ∃ sec, ((disk (packageName confdir)).load overlay).filter (boundTo device) = [sec] ∧
    safelyNamed sec = true

/-- The saved changes touch at most the two modes of the bound section. -/
def SavedChangesHarmless : Prop :=
  ((disk (packageName confdir)).load overlay).map (eraseModes device) =
    (disk (packageName confdir)).committed.map (eraseModes device)

/-- The frame of an update of the package `name`. -/
structure ConfigurationFrame (name : CString) (update : ModeUpdate δ) : Prop where
  untouched : update.result ≠ .ok → update.result ≠ .verifyFailed → update.disk = disk
  written : update.result = .ok →
    OnlyModesChanged device allowedmode preferredmode (disk name).committed
      (update.disk name).committed
  lookups : LookupsAgree device

variable {overlay confdir device allowedmode preferredmode faults disk}

/-- A request that goes through commits the loaded package with the two modes set. -/
theorem UpdateGoesThrough.result (h : UpdateGoesThrough overlay confdir device allowedmode
    preferredmode faults disk) :
    let update := l850glNetworkModesUpdateAt overlay confdir device allowedmode preferredmode
      faults disk
    update.result = .ok ∧ OnlyModesChanged device allowedmode preferredmode
      ((disk (packageName confdir)).load overlay)
      (update.disk (packageName confdir)).committed := by
  obtain ⟨sec,h₁,h₂⟩ := h.bound
  obtain ⟨i,h₃,h₄⟩ := findExactSection_of_filter h₁ h₂
  obtain ⟨h₅,h₆⟩ := modesSet_spec h₁ h₄ h₂ h.modesAreValid
  have h₇ := scanFinish_unique.mpr ⟨sec,h₁,h₂,rfl⟩
  have h₈ : (bindingOf sec).sec = sec.name := rfl
  simp only [l850glNetworkModesUpdateAt,h.deviceIsValid,h.modesAreValid,h.confdirIsValid,
    h.allocContext,h.directories,h.load,h₇,modesWrite,h₈,h₃,h.setAllowedmode,
    h.setPreferredmode,h.commit,h₆]
  simpa [Uci.Store.commit] using h₅

/-- Any other request reports something else than success, and the disk changes only where
the commit failed. -/
theorem l850glNetworkModesUpdateAt_refused (h : ¬UpdateGoesThrough overlay confdir device
    allowedmode preferredmode faults disk) :
    let update := l850glNetworkModesUpdateAt overlay confdir device allowedmode preferredmode
      faults disk
    update.result ≠ .ok ∧ (update.result = .verifyFailed ∨ update.disk = disk) := by
  unfold l850glNetworkModesUpdateAt
  split
  · simp
  rename_i harguments
  split
  · simp
  rename_i hconfdir
  split
  · simp
  rename_i hcontext
  split
  · simp
  rename_i hdirectories
  split
  · simp
  rename_i hload
  dsimp only
  split
  · simp
  · simp
  · simp
  rename_i binding hscan
  unfold modesWrite
  split
  · simp
  split
  · simp
  rename_i hallowed
  split
  · simp
  rename_i hpreferred
  dsimp only
  split
  · simp
  rename_i hcommit
  split
  · simp
  -- every guard has been passed, so the request goes through
  obtain ⟨sec,h₁,h₂,-⟩ := scanFinish_unique.mp hscan
  simp only [Bool.or_eq_true,Bool.not_eq_true',not_or,Bool.not_eq_false] at harguments hconfdir
  simp only [Bool.not_eq_true] at hcontext hdirectories hload hallowed hpreferred
  exact absurd ⟨harguments.1,harguments.2,hconfdir,hcontext,hdirectories,hload,hallowed,
    hpreferred,hcommit,sec,h₁,h₂⟩ h

/-- The update keeps its frame exactly when it does not go through or the saved changes of
others touch nothing but the two modes. -/
theorem l850glNetworkModesUpdateAt_frame :
    ConfigurationFrame device allowedmode preferredmode disk (packageName confdir)
        (l850glNetworkModesUpdateAt overlay confdir device allowedmode preferredmode faults
          disk) ↔
      (UpdateGoesThrough overlay confdir device allowedmode preferredmode faults disk →
        SavedChangesHarmless overlay confdir device disk) := by
  constructor
  · intro h hgo
    obtain ⟨h₁,h₂⟩ := hgo.result
    exact h₂.others.symm.trans (h.written h₁).others
  · intro h
    by_cases hgo : UpdateGoesThrough overlay confdir device allowedmode preferredmode faults disk
    · obtain ⟨h₁,h₂⟩ := hgo.result
      exact ⟨fun h₃ => absurd h₁ h₃,fun _ => ⟨h₂.others.trans (h hgo),h₂.requested⟩,
        lookupsAgree device⟩
    · obtain ⟨h₁,h₂⟩ := l850glNetworkModesUpdateAt_refused hgo
      exact ⟨fun _ h₃ => h₂.resolve_left h₃,fun h₃ => absurd h₃ h₁,lookupsAgree device⟩

end

/-- A router with the modem's interface and a `lan` interface. -/
def routerCommitted : NetworkPackage :=
  [⟨"lan".toList,"interface".toList,false,
    [("proto".toList,.string "static".toList),("ipaddr".toList,.string "192.168.1.1".toList)]⟩,
   ⟨"wwan".toList,"interface".toList,false,
    [("proto".toList,.string "modemmanager".toList),
     ("device".toList,.string "/sys/devices/usb1".toList)]⟩]

/-- Another user saved a new `lan` address and has not committed it. -/
def routerDisk : Disk (SavedSet CString) := fun _ =>
  ⟨routerCommitted,[⟨"lan".toList,"ipaddr".toList,"10.0.0.1".toList⟩]⟩

def noFaults : UciFaults (SavedSet CString) := ⟨false,false,false,false,false,false,none⟩

/-- A request for LTE commits the other user's address as well. -/
theorem l850glNetworkModesUpdate_commits_saved :
    ¬ConfigurationFrame "/sys/devices/usb1".toList "4g".toList "none".toList routerDisk
      "network".toList (l850glNetworkModesUpdate SavedSet.overlay "/sys/devices/usb1".toList
        "4g".toList "none".toList noFaults routerDisk) := by
  intro h
  have h₁ := (h.written (by decide)).others
  revert h₁
  decide

end Network
end L850GL
