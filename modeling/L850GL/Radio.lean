import L850GL.Text

/-! Band names, cellular families and band selections of `radio_policy.c`. -/
namespace L850GL
namespace Radio

def l850glRadioBandNameMax : Nat := 48

inductive RadioFamily
  | none | family2g | family3g | family4g | family5g
  deriving DecidableEq,Repr

def isNameCharacter (value : Char) : Bool :=
  ('a' ≤ value && value ≤ 'z') || ('0' ≤ value && value ≤ '9')

def l850glRadioBandNameIsCanonical (name : CString) : Bool :=
  match name with
  | [] => false
  | first::rest =>
    name.length ≤ l850glRadioBandNameMax && isNameCharacter first &&
      rest.all (fun value => isNameCharacter value || value == '-') &&
      name.getLast? != some '-'

def gsmBands : List CString :=
  ["egsm","dcs","pcs","g850","g450","g480","g750","g380","g410","g710","g810"].map (·.toList)

def l850glRadioBandFamily (name : CString) : RadioFamily :=
  if ¬ l850glRadioBandNameIsCanonical name ∨ name = "any".toList then .none
  else if name ∈ gsmBands then .family2g
  else if "utran-".toList.isPrefixOf name then .family3g
  else if "eutran-".toList.isPrefixOf name then .family4g
  else if "ngran-".toList.isPrefixOf name then .family5g
  else .none

def l850glRadioRequestBandsMax : Nat := 64

/-- The bit of a family in a mask. -/
def RadioFamily.mask : RadioFamily → Nat
  | .none => 0
  | .family2g => 1
  | .family3g => 2
  | .family4g => 4
  | .family5g => 8

inductive RadioPolicyResult
  | invalidArgument | unsupportedBand | modesUnknown | familyMismatch
  deriving DecidableEq,Repr

structure RadioBand where
  name : CString
  value : Nat
  family : Nat
  deriving DecidableEq

def findSupported (supported : List RadioBand) (name : CString) : Option RadioBand :=
  supported.find? (·.name == name)

/-- The loop that adds the bands of the other allowed families to a selection. -/
def expandLoop (allowedFamilies : Nat) : List RadioBand → List CString →
    Except RadioPolicyResult (List CString)
  | [], effective => .ok effective
  | band::rest, effective =>
    if band.family = RadioFamily.mask .family4g ∨ band.family = 0 ∨
        band.family &&& allowedFamilies = 0 then expandLoop allowedFamilies rest effective
    else if effective.length ≥ l850glRadioRequestBandsMax then .error .invalidArgument
    else expandLoop allowedFamilies rest (effective++[band.name])

def l850glRadioExpandLteSelection (requested : List CString) (supported : List RadioBand)
    (allowedFamilies : Nat) : Except RadioPolicyResult (List CString) :=
  if requested = [] ∨ requested.length > l850glRadioRequestBandsMax ∨ supported = [] then
    .error .invalidArgument
  else if requested = ["any".toList] then .ok requested
  else if allowedFamilies &&& RadioFamily.mask .family4g = 0 then .error .familyMismatch
  else if requested.any fun name => l850glRadioBandFamily name != .family4g then
    .error .invalidArgument
  else expandLoop allowedFamilies supported requested

/-- The loop over the requested names: the names before, the families and the values so far. -/
def resolveLoop (supported : List RadioBand) (allowedFamilies : Nat) :
    List CString → List CString → Nat → List Nat → Except RadioPolicyResult (Nat × List Nat)
  | [], _, families, resolved => .ok (families,resolved)
  | name::rest, previous, families, resolved =>
    if ¬l850glRadioBandNameIsCanonical name ∨ name = "any".toList then .error .invalidArgument
    else if name ∈ previous then .error .invalidArgument
    else match findSupported supported name with
      | none => .error .unsupportedBand
      | some band =>
        if band.family = 0 ∨ band.family &&& allowedFamilies = 0 then .error .familyMismatch
        else resolveLoop supported allowedFamilies rest (previous++[name])
          (families ||| band.family) (resolved++[band.value])

def l850glRadioResolveBands (requested : List CString) (supported : List RadioBand)
    (currentModesKnown : Bool) (allowedFamilies anyValue : Nat) :
    Except RadioPolicyResult (List Nat) :=
  if requested = [] ∨ requested.length > l850glRadioRequestBandsMax then .error .invalidArgument
  else if currentModesKnown = false ∨ allowedFamilies = 0 then .error .modesUnknown
  else if supported = [] then .error .unsupportedBand
  else if requested = ["any".toList] then .ok [anyValue]
  else match resolveLoop supported allowedFamilies requested [] 0 [] with
    | .error result => .error result
    | .ok (families,resolved) =>
      if families ≠ allowedFamilies then .error .familyMismatch else .ok resolved

/-- The two steps of `method_set_bands`, with the modes known. -/
def selectBands (requested : List CString) (supported : List RadioBand)
    (allowedFamilies anyValue : Nat) : Except RadioPolicyResult (List Nat) := do
  let effective ← l850glRadioExpandLteSelection requested supported allowedFamilies
  l850glRadioResolveBands effective supported true allowedFamilies anyValue

end Radio
end L850GL
