import L850GL.Radio
import Mathlib.Data.List.Forall2
import Mathlib.Data.List.Nodup
import Mathlib.Data.Nat.Bitwise

/-! A selection of LTE bands keeps every band of the other allowed families: when it is accepted,
and what it resolves to. -/
namespace L850GL
namespace Radio

def Allows (allowedFamilies : Nat) (family : RadioFamily) : Prop :=
  family.mask &&& allowedFamilies ≠ 0

instance (allowedFamilies : Nat) (family : RadioFamily) :
    Decidable (Allows allowedFamilies family) := by
  unfold Allows
  infer_instance

/-- The bands a modem advertises: some, by distinct canonical names, each of the family that its
name says. -/
structure Advertised (supported : List RadioBand) : Prop where
  some : supported ≠ []
  distinct : (supported.map (·.name)).Nodup
  canonical : ∀ band ∈ supported, l850glRadioBandNameIsCanonical band.name = true
  family : ∀ band ∈ supported, band.family = (l850glRadioBandFamily band.name).mask

def familyOf (band : RadioBand) : RadioFamily := l850glRadioBandFamily band.name

/-- The bands of the other allowed families. -/
def otherBands (supported : List RadioBand) (allowedFamilies : Nat) : List RadioBand :=
  supported.filter fun band => familyOf band ≠ .family4g ∧ Allows allowedFamilies (familyOf band)

/-- The bands of a request, by their names. -/
def BandsOf (supported : List RadioBand) (requested : List CString) (bands : List RadioBand) :
    Prop :=
  bands.map (·.name) = requested ∧ ∀ band ∈ bands, band ∈ supported

/-- A request that names LTE bands to select. -/
structure Selectable (requested : List CString) (supported : List RadioBand)
    (allowedFamilies : Nat) : Prop where
  lteAllowed : Allows allowedFamilies .family4g
  distinct : requested.Nodup
  lte : ∀ name ∈ requested, ∃ band ∈ supported, band.name = name ∧ familyOf band = .family4g
  bounded : requested.length+(otherBands supported allowedFamilies).length ≤
    l850glRadioRequestBandsMax
  covered : ∀ family, Allows allowedFamilies family → ∃ band ∈ supported, familyOf band = family

theorem mask_injective : Function.Injective RadioFamily.mask := by
  intro a b h
  cases a <;> cases b <;> first | rfl | cases h

theorem allows_none (allowedFamilies : Nat) : ¬Allows allowedFamilies .none := by
  simp [Allows,RadioFamily.mask]

theorem testBit_mask {family : RadioFamily} {i : Nat} (h : family.mask.testBit i = true) :
    family.mask = 2^i := by
  have hlt : i < 4 := by
    by_contra hge
    have h₁ : family.mask < 2^i := by
      have h₂ : 2^4 ≤ 2^i := Nat.pow_le_pow_right (by decide) (by omega)
      have h₃ : family.mask < 2^4 := by cases family <;> decide
      omega
    rw [Nat.testBit_lt_two_pow h₁] at h
    cases h
  have hall : ∀ i < 4, family.mask.testBit i = true → family.mask = 2^i := by
    cases family <;> decide
  exact hall i hlt h

theorem allows_of_testBit {allowedFamilies i : Nat} {family : RadioFamily}
    (hmask : family.mask = 2^i) :
    Allows allowedFamilies family ↔ allowedFamilies.testBit i = true := by
  rw [Allows,hmask,Nat.and_comm,Nat.and_two_pow]
  cases allowedFamilies.testBit i <;> simp

theorem exists_family {i : Nat} (h : i < 4) : ∃ family : RadioFamily, family.mask = 2^i := by
  match i, h with
  | 0, _ => exact ⟨.family2g,rfl⟩
  | 1, _ => exact ⟨.family3g,rfl⟩
  | 2, _ => exact ⟨.family4g,rfl⟩
  | 3, _ => exact ⟨.family5g,rfl⟩

/-- The families of some bands together. -/
def familiesOf (families : Nat) (bands : List RadioBand) : Nat :=
  bands.foldl (fun families band => families ||| band.family) families

theorem testBit_familiesOf {families i : Nat} {bands : List RadioBand} :
    (familiesOf families bands).testBit i = true ↔
      families.testBit i = true ∨ ∃ band ∈ bands, band.family.testBit i = true := by
  induction bands generalizing families with
  | nil => simp [familiesOf]
  | cons band bands ih =>
    have hstep : familiesOf families (band::bands) = familiesOf (families ||| band.family) bands :=
      rfl
    rw [hstep,ih,Nat.testBit_or,Bool.or_eq_true]
    simp only [List.mem_cons,exists_eq_or_imp,or_assoc]

/-- Bands of allowed families make up the allowed mask exactly when each allowed family has a
band among them. -/
theorem familiesOf_eq_iff {allowedFamilies : Nat} {bands : List RadioBand}
    (hallowed : allowedFamilies < 16)
    (hbands : ∀ band ∈ bands, band.family = (familyOf band).mask ∧
      Allows allowedFamilies (familyOf band)) :
    familiesOf 0 bands = allowedFamilies ↔
      ∀ family, Allows allowedFamilies family → ∃ band ∈ bands, familyOf band = family := by
  constructor
  · intro h family hfamily
    have hne : family.mask ≠ 0 := by
      intro h0
      simp [Allows,h0] at hfamily
    obtain ⟨i,hi⟩ := Nat.exists_testBit_of_ne_zero hne
    have hmask := testBit_mask hi
    have hbit := (allows_of_testBit hmask).mp hfamily
    rw [← h,testBit_familiesOf] at hbit
    rcases hbit with hbit | ⟨band,hband,hbit⟩
    · simp at hbit
    · rw [(hbands band hband).1] at hbit
      exact ⟨band,hband,mask_injective ((testBit_mask hbit).trans hmask.symm)⟩
  · intro h
    apply Nat.eq_of_testBit_eq
    intro i
    apply Bool.eq_iff_iff.mpr
    rw [testBit_familiesOf]
    constructor
    · rintro (hbit | ⟨band,hband,hbit⟩)
      · simp at hbit
      · rw [(hbands band hband).1] at hbit
        exact (allows_of_testBit (testBit_mask hbit)).mp (hbands band hband).2
    · intro hbit
      have hi : i < 4 := by
        by_contra hge
        have h₁ : 2^4 ≤ 2^i := Nat.pow_le_pow_right (by decide) (by omega)
        rw [Nat.testBit_lt_two_pow (by omega)] at hbit
        cases hbit
      obtain ⟨family,hmask⟩ := exists_family hi
      obtain ⟨band,hband,hfamily⟩ := h family ((allows_of_testBit hmask).mpr hbit)
      refine Or.inr ⟨band,hband,?_⟩
      rw [(hbands band hband).1,hfamily,hmask]
      exact Nat.testBit_two_pow_self

theorem family_any : l850glRadioBandFamily "any".toList = .none := by decide

theorem ne_any_of_family {name : CString} (h : l850glRadioBandFamily name ≠ .none) :
    l850glRadioBandNameIsCanonical name = true ∧ name ≠ "any".toList := by
  constructor
  · by_contra hcanonical
    simp [l850glRadioBandFamily,hcanonical] at h
  · rintro rfl
    exact h family_any

/-- The first loop adds the bands of the other families, or refuses when they do not fit. -/
theorem expandLoop_eq {allowedFamilies : Nat} {rest : List RadioBand} {effective : List CString}
    (hfamily : ∀ band ∈ rest, band.family = (familyOf band).mask)
    (hfit : effective.length ≤ l850glRadioRequestBandsMax) :
    expandLoop allowedFamilies rest effective =
      if effective.length+(otherBands rest allowedFamilies).length ≤ l850glRadioRequestBandsMax
      then .ok (effective++(otherBands rest allowedFamilies).map (·.name))
      else .error .invalidArgument := by
  induction rest generalizing effective with
  | nil => simp [expandLoop,otherBands,hfit]
  | cons band rest ih =>
    have hband := hfamily band (by simp)
    have hrest : ∀ b ∈ rest, b.family = (familyOf b).mask := fun b hb => hfamily b (by simp [hb])
    have hskip : (band.family = RadioFamily.mask .family4g ∨ band.family = 0 ∨
        band.family &&& allowedFamilies = 0) ↔
          ¬(familyOf band ≠ .family4g ∧ Allows allowedFamilies (familyOf band)) := by
      rw [hband,mask_injective.eq_iff,Allows]
      constructor
      · rintro (h | h | h) ⟨h₁,h₂⟩
        · exact h₁ h
        · rw [h] at h₂
          simp at h₂
        · exact h₂ h
      · intro h
        by_contra hno
        simp only [not_or] at hno
        exact h ⟨hno.1,hno.2.2⟩
    rw [expandLoop]
    by_cases hother : familyOf band ≠ .family4g ∧ Allows allowedFamilies (familyOf band)
    · have hothers : otherBands (band::rest) allowedFamilies =
          band::otherBands rest allowedFamilies := by
        simp [otherBands,hother]
      rw [if_neg (by rw [hskip]; exact not_not.mpr hother),hothers]
      by_cases hfull : effective.length ≥ l850glRadioRequestBandsMax
      · rw [if_pos hfull,if_neg (by simp; omega)]
      · rw [if_neg hfull,ih hrest (by simp; omega)]
        simp only [List.length_append,List.length_cons,List.length_nil,List.map_cons,
          List.append_assoc,List.singleton_append]
        congr 1
        simp only [eq_iff_iff]
        omega
    · have hothers : otherBands (band::rest) allowedFamilies =
          otherBands rest allowedFamilies := by
        simp only [otherBands]
        rw [List.filter_cons_of_neg (by simpa using hother)]
      rw [if_pos (hskip.mpr hother),hothers]
      exact ih hrest hfit

theorem findSupported_iff {supported : List RadioBand} {name : CString} {band : RadioBand}
    (h : (supported.map (·.name)).Nodup) :
    findSupported supported name = some band ↔ band ∈ supported ∧ band.name = name := by
  constructor
  · intro hfind
    exact ⟨List.mem_of_find?_eq_some hfind,by simpa using List.find?_some hfind⟩
  · rintro ⟨hband,hname⟩
    cases hfind : findSupported supported name with
    | none =>
      have := List.find?_eq_none.mp hfind band hband
      simp [hname] at this
    | some other =>
      have h₁ := List.mem_of_find?_eq_some hfind
      have h₂ : other.name = name := by simpa using List.find?_some hfind
      rw [List.inj_on_of_nodup_map h h₁ hband (h₂.trans hname.symm)]

/-- The second loop resolves names that are new, advertised and of an allowed family. -/
theorem resolveLoop_iff {supported : List RadioBand} {allowedFamilies families : Nat}
    {rest previous : List CString} {resolved values : List Nat} {total : Nat}
    (hadvertised : Advertised supported) (hprevious : previous.Nodup) :
    resolveLoop supported allowedFamilies rest previous families resolved = .ok (total,values) ↔
      ∃ bands, BandsOf supported rest bands ∧ (previous++rest).Nodup ∧
        (∀ band ∈ bands, Allows allowedFamilies (familyOf band)) ∧
        total = familiesOf families bands ∧ values = resolved++bands.map (·.value) := by
  induction rest generalizing previous families resolved with
  | nil =>
    simp only [resolveLoop,Except.ok.injEq,Prod.mk.injEq,BandsOf]
    constructor
    · rintro ⟨rfl,rfl⟩
      exact ⟨[],by simp,by simpa using hprevious,by simp,rfl,by simp⟩
    · rintro ⟨bands,⟨hnames,-⟩,-,-,rfl,rfl⟩
      have hbands : bands = [] := List.map_eq_nil_iff.mp hnames
      subst hbands
      exact ⟨rfl,by simp⟩
  | cons name rest ih =>
    have happend : previous++name::rest = previous++[name]++rest := by simp
    have hnext : name ∉ previous → (previous++[name]).Nodup := by
      intro hnew
      apply List.nodup_append.mpr
      refine ⟨hprevious,by simp,?_⟩
      rintro a ha b hb rfl
      exact hnew (List.mem_singleton.mp hb ▸ ha)
    have hallowed : ∀ band ∈ supported, (band.family = 0 ∨ band.family &&& allowedFamilies = 0) ↔
        ¬Allows allowedFamilies (familyOf band) := by
      intro band hband
      rw [hadvertised.family band hband,Allows]
      constructor
      · rintro (h | h) hne
        · exact hne (by simp [familyOf,h])
        · exact hne h
      · intro h
        exact Or.inr (not_not.mp h)
    rw [resolveLoop]
    constructor
    · intro h
      split at h
      · cases h
      split at h
      · cases h
      rename_i hnew
      split at h
      · cases h
      rename_i band hfind
      obtain ⟨hband,hname⟩ := (findSupported_iff hadvertised.distinct).mp hfind
      split at h
      · cases h
      rename_i hfamily
      obtain ⟨bands,⟨hnames,hmem⟩,hnodup,hallows,rfl,rfl⟩ := (ih (hnext hnew)).mp h
      have hband' : Allows allowedFamilies (familyOf band) :=
        not_not.mp ((hallowed band hband).not.mp hfamily)
      refine ⟨band::bands,⟨by simp [hname,hnames],?_⟩,by rw [happend]; exact hnodup,?_,rfl,by simp⟩
      · simpa [hband] using hmem
      · simpa [hband'] using hallows
    · rintro ⟨bands,⟨hnames,hmem⟩,hnodup,hallows,rfl,rfl⟩
      cases bands with
      | nil => simp at hnames
      | cons band bands =>
        simp only [List.map_cons,List.cons.injEq] at hnames
        have hband : band ∈ supported := hmem band (by simp)
        have hfamily : Allows allowedFamilies (familyOf band) := hallows band (by simp)
        have hne : familyOf band ≠ .none := by
          intro hnone
          rw [hnone] at hfamily
          exact allows_none allowedFamilies hfamily
        obtain ⟨hcanonical,hany⟩ := ne_any_of_family hne
        rw [happend] at hnodup
        have hnew : name ∉ previous := by
          intro hin
          have h₁ := (List.nodup_append.mp hnodup).1
          exact (List.nodup_append.mp h₁).2.2 _ hin _ (List.mem_singleton.mpr rfl) rfl
        have hfind : findSupported supported name = some band :=
          (findSupported_iff hadvertised.distinct).mpr ⟨hband,hnames.1⟩
        rw [← hnames.1] at hnew hfind ⊢
        have hgood : ¬(¬l850glRadioBandNameIsCanonical band.name = true ∨
            band.name = "any".toList) := by
          rintro (h | h)
          · exact h hcanonical
          · exact hany h
        rw [if_neg hgood,if_neg hnew,hfind]
        simp only
        rw [if_neg ((hallowed band hband).not.mpr (not_not.mpr hfamily))]
        rw [hnames.1] at hnew ⊢
        apply (ih (hnext hnew)).mpr
        refine ⟨bands,⟨hnames.2,fun b hb => hmem b (by simp [hb])⟩,hnodup,?_,rfl,by simp⟩
        exact fun b hb => hallows b (by simp [hb])

theorem bandsOf_unique {supported : List RadioBand} {names : List CString}
    {bands more : List RadioBand} (hadvertised : Advertised supported)
    (h : BandsOf supported names bands) (hmore : BandsOf supported names more) : bands = more := by
  obtain ⟨rfl,hbands⟩ := h
  obtain ⟨hnames,hmem⟩ := hmore
  induction bands generalizing more with
  | nil => exact (List.map_eq_nil_iff.mp hnames).symm
  | cons band bands ih =>
    cases more with
    | nil => simp at hnames
    | cons other more =>
      simp only [List.map_cons,List.cons.injEq] at hnames
      have h₁ := List.inj_on_of_nodup_map hadvertised.distinct (hmem other (by simp))
        (hbands band (by simp)) hnames.1
      subst h₁
      rw [ih (fun b hb => hbands b (by simp [hb])) hnames.2 fun b hb => hmem b (by simp [hb])]

/-- The names of a request whose every name is an advertised LTE band. -/
theorem exists_bandsOf {supported : List RadioBand} {names : List CString}
    (h : ∀ name ∈ names, ∃ band ∈ supported, band.name = name ∧ familyOf band = .family4g) :
    ∃ bands, BandsOf supported names bands ∧ ∀ band ∈ bands, familyOf band = .family4g := by
  induction names with
  | nil => exact ⟨[],⟨rfl,by simp⟩,by simp⟩
  | cons name names ih =>
    obtain ⟨band,hband,hname,hfamily⟩ := h name (by simp)
    obtain ⟨bands,⟨hnames,hmem⟩,hfamilies⟩ := ih fun n hn => h n (by simp [hn])
    refine ⟨band::bands,⟨by simp [hname,hnames],?_⟩,?_⟩
    · simpa [hband] using hmem
    · simpa [hfamily] using hfamilies

theorem mem_otherBands {supported : List RadioBand} {allowedFamilies : Nat} {band : RadioBand} :
    band ∈ otherBands supported allowedFamilies ↔
      band ∈ supported ∧ familyOf band ≠ .family4g ∧ Allows allowedFamilies (familyOf band) := by
  simp [otherBands]

/-- LTE bands and the bands of other families have distinct names. -/
theorem selected_nodup {supported lte : List RadioBand} {requested : List CString}
    {allowedFamilies : Nat} (hadvertised : Advertised supported) (hrequested : requested.Nodup)
    (hlte : BandsOf supported requested lte) (hfamily : ∀ band ∈ lte, familyOf band = .family4g) :
    ((lte++otherBands supported allowedFamilies).map (·.name)).Nodup := by
  rw [List.map_append]
  apply List.nodup_append.mpr
  refine ⟨hlte.1 ▸ hrequested,?_,?_⟩
  · exact hadvertised.distinct.sublist (List.filter_sublist.map _)
  · intro name hname other hother heq
    obtain ⟨band,hband,rfl⟩ := List.mem_map.mp hname
    obtain ⟨band',hband',rfl⟩ := List.mem_map.mp hother
    have h₁ := (mem_otherBands.mp hband').2.1
    apply h₁
    have h₂ : familyOf band' = familyOf band := by simp only [familyOf,heq]
    rw [h₂,hfamily band hband]

theorem selectBands_any {supported : List RadioBand} {allowedFamilies : Nat} (anyValue : Nat)
    (hadvertised : Advertised supported) (hallowed : 0 < allowedFamilies) :
    selectBands ["any".toList] supported allowedFamilies anyValue = .ok [anyValue] := by
  have h₁ : ¬(["any".toList] = [] ∨ ["any".toList].length > l850glRadioRequestBandsMax ∨
      supported = []) := by simp [hadvertised.some,l850glRadioRequestBandsMax]
  have h₂ : ¬(["any".toList] = [] ∨ ["any".toList].length > l850glRadioRequestBandsMax) := by
    decide
  have h₃ : ¬(true = false ∨ allowedFamilies = 0) := by
    simp
    omega
  simp only [selectBands,bind,Except.bind]
  rw [l850glRadioExpandLteSelection,if_neg h₁,if_pos rfl]
  simp only
  rw [l850glRadioResolveBands,if_neg h₂,if_neg h₃,if_neg hadvertised.some,if_pos rfl]

/-- The first step on a request that names bands. -/
theorem expand_iff {requested effective : List CString} {supported : List RadioBand}
    {allowedFamilies : Nat} (hadvertised : Advertised supported) (hne : requested ≠ [])
    (hlength : requested.length ≤ l850glRadioRequestBandsMax)
    (hany : requested ≠ ["any".toList]) :
    l850glRadioExpandLteSelection requested supported allowedFamilies = .ok effective ↔
      Allows allowedFamilies .family4g ∧
      (∀ name ∈ requested, l850glRadioBandFamily name = .family4g) ∧
      requested.length+(otherBands supported allowedFamilies).length ≤
        l850glRadioRequestBandsMax ∧
      effective = requested++(otherBands supported allowedFamilies).map (·.name) := by
  have h₁ : ¬(requested = [] ∨ requested.length > l850glRadioRequestBandsMax ∨
      supported = []) := by
    simp only [hne,hadvertised.some,false_or,or_false]
    omega
  have hloop := @expandLoop_eq allowedFamilies supported requested hadvertised.family hlength
  rw [l850glRadioExpandLteSelection,if_neg h₁,if_neg hany]
  by_cases hlte : allowedFamilies &&& RadioFamily.mask .family4g = 0
  · rw [if_pos hlte]
    constructor
    · intro h
      cases h
    · rintro ⟨h,-⟩
      rw [Allows,Nat.and_comm] at h
      exact absurd hlte h
  have hallows : Allows allowedFamilies .family4g := by
    rw [Allows,Nat.and_comm]
    exact hlte
  rw [if_neg hlte]
  by_cases hnames : ∀ name ∈ requested, l850glRadioBandFamily name = .family4g
  · have hno : ¬(requested.any fun name => l850glRadioBandFamily name != .family4g) = true := by
      simpa using hnames
    rw [if_neg hno,hloop]
    by_cases hfit : requested.length+(otherBands supported allowedFamilies).length ≤
        l850glRadioRequestBandsMax
    · rw [if_pos hfit,Except.ok.injEq]
      constructor
      · rintro rfl
        exact ⟨hallows,hnames,hfit,rfl⟩
      · exact fun h => h.2.2.2.symm
    · rw [if_neg hfit]
      constructor
      · intro h
        cases h
      · exact fun h => absurd h.2.2.1 hfit
  · have hyes : (requested.any fun name => l850glRadioBandFamily name != .family4g) = true := by
      simpa using hnames
    rw [if_pos hyes]
    constructor
    · intro h
      cases h
    · exact fun h => absurd h.2.1 hnames

/-- The second step on names that are not the automatic choice. -/
theorem resolve_iff {effective : List CString} {supported : List RadioBand}
    {allowedFamilies : Nat} {values : List Nat} (anyValue : Nat)
    (hadvertised : Advertised supported) (hallowed : 0 < allowedFamilies) (hne : effective ≠ [])
    (hlength : effective.length ≤ l850glRadioRequestBandsMax)
    (hany : effective ≠ ["any".toList]) :
    l850glRadioResolveBands effective supported true allowedFamilies anyValue = .ok values ↔
      ∃ bands, BandsOf supported effective bands ∧ effective.Nodup ∧
        (∀ band ∈ bands, Allows allowedFamilies (familyOf band)) ∧
        familiesOf 0 bands = allowedFamilies ∧ values = bands.map (·.value) := by
  have h₁ : ¬(effective = [] ∨ effective.length > l850glRadioRequestBandsMax) := by
    simp only [hne,false_or]
    omega
  have h₂ : ¬(true = false ∨ allowedFamilies = 0) := by
    simp
    omega
  rw [l850glRadioResolveBands,if_neg h₁,if_neg h₂,if_neg hadvertised.some,if_neg hany]
  constructor
  · intro h
    split at h
    · cases h
    rename_i families resolved hloop
    split at h
    · cases h
    rename_i hfamilies
    simp only [Except.ok.injEq] at h
    subst h
    obtain ⟨bands,hbands,hnodup,hallows,htotal,rfl⟩ :=
      (resolveLoop_iff hadvertised List.nodup_nil).mp hloop
    exact ⟨bands,hbands,by simpa using hnodup,hallows,htotal ▸ not_not.mp hfamilies,by simp⟩
  · rintro ⟨bands,hbands,hnodup,hallows,htotal,rfl⟩
    have hloop := (@resolveLoop_iff supported allowedFamilies 0 effective [] []
      (bands.map (·.value)) allowedFamilies hadvertised List.nodup_nil).mpr
        ⟨bands,hbands,by simpa using hnodup,hallows,htotal.symm,by simp⟩
    rw [hloop]
    simp

theorem bandsOf_append {supported lte others : List RadioBand} {names : List CString}
    (hlte : BandsOf supported names lte) (hothers : ∀ band ∈ others, band ∈ supported) :
    BandsOf supported (names++others.map (·.name)) (lte++others) := by
  refine ⟨by rw [List.map_append,hlte.1],?_⟩
  intro band hband
  rcases List.mem_append.mp hband with h | h
  · exact hlte.2 band h
  · exact hothers band h

/-- A request of named bands is accepted exactly when it is selectable, and resolves to its
bands and those of the other allowed families. -/
theorem selectBands_names {requested : List CString} {supported : List RadioBand}
    {allowedFamilies : Nat} {values : List Nat} (anyValue : Nat)
    (hadvertised : Advertised supported) (hallowed : 0 < allowedFamilies ∧ allowedFamilies < 16)
    (hne : requested ≠ []) (hlength : requested.length ≤ l850glRadioRequestBandsMax)
    (hany : requested ≠ ["any".toList]) :
    selectBands requested supported allowedFamilies anyValue = .ok values ↔
      Selectable requested supported allowedFamilies ∧ ∃ lte, BandsOf supported requested lte ∧
        values = (lte++otherBands supported allowedFamilies).map (·.value) := by
  have hothers : ∀ band ∈ otherBands supported allowedFamilies, band ∈ supported :=
    fun band h => (mem_otherBands.mp h).1
  have hmask : ∀ bands : List RadioBand, (∀ band ∈ bands, band ∈ supported) →
      (∀ band ∈ bands, Allows allowedFamilies (familyOf band)) →
      (familiesOf 0 bands = allowedFamilies ↔ ∀ family, Allows allowedFamilies family →
        ∃ band ∈ bands, familyOf band = family) := fun bands hmem hallows =>
    familiesOf_eq_iff hallowed.2 fun band h =>
      ⟨hadvertised.family band (hmem band h),hallows band h⟩
  have hnotAny : (∀ name ∈ requested, l850glRadioBandFamily name = .family4g) →
      requested++(otherBands supported allowedFamilies).map (·.name) ≠ ["any".toList] := by
    intro hfamily heq
    cases requested with
    | nil => exact hne rfl
    | cons name rest =>
      simp only [List.cons_append,List.cons.injEq] at heq
      have h₁ := hfamily name (by simp)
      rw [heq.1,family_any] at h₁
      cases h₁
  constructor
  · intro h
    simp only [selectBands,bind,Except.bind] at h
    split at h
    · cases h
    rename_i effective hexpand
    obtain ⟨hlte,hfamily,hfit,rfl⟩ := (expand_iff hadvertised hne hlength hany).mp hexpand
    obtain ⟨bands,hbands,hnodup,hallows,htotal,rfl⟩ :=
      (resolve_iff anyValue hadvertised hallowed.1 (by simp [hne]) (by simpa using hfit)
        (hnotAny hfamily)).mp h
    obtain ⟨lte,others,rfl,hlteNames,hotherNames⟩ := List.map_eq_append_iff.mp hbands.1
    have hlteBands : BandsOf supported requested lte :=
      ⟨hlteNames,fun band hb => hbands.2 band (by simp [hb])⟩
    have heq : others = otherBands supported allowedFamilies :=
      bandsOf_unique hadvertised ⟨hotherNames,fun band hb => hbands.2 band (by simp [hb])⟩
        ⟨rfl,hothers⟩
    subst heq
    have hcovered := (hmask _ hbands.2 hallows).mp htotal
    refine ⟨⟨hlte,(List.nodup_append.mp hnodup).1,?_,hfit,?_⟩,lte,hlteBands,rfl⟩
    · intro name hname
      rw [← hlteNames] at hname
      obtain ⟨band,hband,rfl⟩ := List.mem_map.mp hname
      exact ⟨band,hlteBands.2 band hband,rfl,hfamily _ (hlteNames ▸ List.mem_map_of_mem hband)⟩
    · intro family hfam
      obtain ⟨band,hband,hb⟩ := hcovered family hfam
      exact ⟨band,hbands.2 band hband,hb⟩
  · rintro ⟨hselectable,lte,hlteBands,rfl⟩
    obtain ⟨lte',hlte',hfamilies⟩ := exists_bandsOf hselectable.lte
    have heq := bandsOf_unique hadvertised hlteBands hlte'
    subst heq
    have hfamily : ∀ name ∈ requested, l850glRadioBandFamily name = .family4g := by
      intro name hname
      rw [← hlteBands.1] at hname
      obtain ⟨band,hband,rfl⟩ := List.mem_map.mp hname
      exact hfamilies band hband
    have hall := bandsOf_append hlteBands hothers
    have hallows : ∀ band ∈ lte++otherBands supported allowedFamilies,
        Allows allowedFamilies (familyOf band) := by
      intro band hband
      rcases List.mem_append.mp hband with h | h
      · rw [hfamilies band h]
        exact hselectable.lteAllowed
      · exact (mem_otherBands.mp h).2.2
    have hcovered : ∀ family, Allows allowedFamilies family →
        ∃ band ∈ lte++otherBands supported allowedFamilies, familyOf band = family := by
      intro family hfam
      by_cases h4 : family = .family4g
      · cases lte with
        | nil => exact absurd hlteBands.1.symm hne
        | cons band rest =>
          exact ⟨band,by simp,(hfamilies band (by simp)).trans h4.symm⟩
      · obtain ⟨band,hband,hb⟩ := hselectable.covered family hfam
        refine ⟨band,List.mem_append_right _ (mem_otherBands.mpr ⟨hband,?_,?_⟩),hb⟩
        · rw [hb]
          exact h4
        · rw [hb]
          exact hfam
    have hnames := @selected_nodup supported lte requested allowedFamilies hadvertised
      hselectable.distinct hlteBands hfamilies
    rw [hall.1] at hnames
    have hexpand := (expand_iff hadvertised hne hlength hany).mpr
      ⟨hselectable.lteAllowed,hfamily,hselectable.bounded,rfl⟩
    simp only [selectBands,bind,Except.bind,hexpand]
    apply (resolve_iff anyValue hadvertised hallowed.1 (by simp [hne])
      (by simpa using hselectable.bounded) (hnotAny hfamily)).mpr
    exact ⟨_,hall,hnames,hallows,(hmask _ hall.2 hallows).mpr hcovered,rfl⟩

/-- A selection is accepted exactly when it is the automatic choice or selectable. The automatic
choice resolves to its own value. A selectable request resolves to the values of its bands and
of every band of the other allowed families: none of these is lost, none occurs twice and no
band of another family is added. -/
theorem selectBands_keeps_families {requested : List CString} {supported : List RadioBand}
    {allowedFamilies : Nat} (anyValue : Nat) (hadvertised : Advertised supported)
    (hallowed : 0 < allowedFamilies ∧ allowedFamilies < 16) (hsome : 1 ≤ requested.length)
    (hlength : requested.length ≤ l850glRadioRequestBandsMax) :
    ((∃ values, selectBands requested supported allowedFamilies anyValue = .ok values) ↔
      requested = ["any".toList] ∨ Selectable requested supported allowedFamilies) ∧
    (requested = ["any".toList] →
      selectBands requested supported allowedFamilies anyValue = .ok [anyValue]) ∧
    (Selectable requested supported allowedFamilies → ∃ lte,
      BandsOf supported requested lte ∧
      selectBands requested supported allowedFamilies anyValue =
        .ok ((lte++otherBands supported allowedFamilies).map (·.value)) ∧
      ((lte++otherBands supported allowedFamilies).map (·.name)).Nodup ∧
      ((supported.map (·.value)).Nodup →
        ((lte++otherBands supported allowedFamilies).map (·.value)).Nodup) ∧
      (∀ band ∈ supported, familyOf band ≠ .family4g → Allows allowedFamilies (familyOf band) →
        band ∈ lte++otherBands supported allowedFamilies) ∧
      ∀ band ∈ lte++otherBands supported allowedFamilies,
        band ∈ supported ∧ Allows allowedFamilies (familyOf band)) := by
  have hne : requested ≠ [] := List.ne_nil_of_length_pos (by omega)
  have hnotAny : Selectable requested supported allowedFamilies → requested ≠ ["any".toList] := by
    rintro hselectable rfl
    obtain ⟨band,-,hname,hfamily⟩ := hselectable.lte _ (List.mem_singleton.mpr rfl)
    rw [familyOf,hname,family_any] at hfamily
    cases hfamily
  have hselect : ∀ values, requested ≠ ["any".toList] →
      (selectBands requested supported allowedFamilies anyValue = .ok values ↔
        Selectable requested supported allowedFamilies ∧ ∃ lte, BandsOf supported requested lte ∧
          values = (lte++otherBands supported allowedFamilies).map (·.value)) :=
    fun values hany => selectBands_names anyValue hadvertised hallowed hne hlength hany
  have hauto : requested = ["any".toList] →
      selectBands requested supported allowedFamilies anyValue = .ok [anyValue] := by
    rintro rfl
    exact selectBands_any anyValue hadvertised hallowed.1
  refine ⟨⟨?_,?_⟩,hauto,?_⟩
  · rintro ⟨values,h⟩
    by_cases hany : requested = ["any".toList]
    · exact Or.inl hany
    · exact Or.inr ((hselect values hany).mp h).1
  · rintro (hany | hselectable)
    · exact ⟨_,hauto hany⟩
    · obtain ⟨lte,hlte,-⟩ := exists_bandsOf hselectable.lte
      exact ⟨_,(hselect _ (hnotAny hselectable)).mpr ⟨hselectable,lte,hlte,rfl⟩⟩
  · intro hselectable
    obtain ⟨lte,hlte,hfamilies⟩ := exists_bandsOf hselectable.lte
    have hnames := @selected_nodup supported lte requested allowedFamilies hadvertised
      hselectable.distinct hlte hfamilies
    have hall := bandsOf_append hlte fun band h =>
      (@mem_otherBands supported allowedFamilies band |>.mp h).1
    refine ⟨lte,hlte,(hselect _ (hnotAny hselectable)).mpr ⟨hselectable,lte,hlte,rfl⟩,hnames,
      ?_,?_,?_⟩
    · intro hvalues
      apply List.Nodup.map_on _ (List.Nodup.of_map _ hnames)
      intro band hband other hother heq
      exact List.inj_on_of_nodup_map hvalues (hall.2 band hband) (hall.2 other hother) heq
    · intro band hband h4 hallows
      exact List.mem_append_right _ (mem_otherBands.mpr ⟨hband,h4,hallows⟩)
    · intro band hband
      rcases List.mem_append.mp hband with h | h
      · refine ⟨hlte.2 band h,?_⟩
        rw [hfamilies band h]
        exact hselectable.lteAllowed
      · exact ⟨(mem_otherBands.mp h).1,(mem_otherBands.mp h).2.2⟩

/-- A 3G band and two LTE bands, with 3G and 4G allowed. -/
def bandsSample : List RadioBand :=
  [⟨"utran-1".toList,5,2⟩,⟨"eutran-1".toList,31,4⟩,⟨"eutran-3".toList,33,4⟩]

theorem bandsSample_advertised : Advertised bandsSample := by
  constructor <;> decide

theorem selectBands_keeps_families_sample :
    Advertised bandsSample ∧ selectBands ["eutran-3".toList] bandsSample 6 256 = .ok [33,5] ∧
    (Selectable ["eutran-3".toList] bandsSample 6 → ∃ lte,
      BandsOf bandsSample ["eutran-3".toList] lte ∧
      selectBands ["eutran-3".toList] bandsSample 6 256 =
        .ok ((lte++otherBands bandsSample 6).map (·.value)) ∧
      ((lte++otherBands bandsSample 6).map (·.name)).Nodup ∧
      ((bandsSample.map (·.value)).Nodup →
        ((lte++otherBands bandsSample 6).map (·.value)).Nodup) ∧
      (∀ band ∈ bandsSample, familyOf band ≠ .family4g → Allows 6 (familyOf band) →
        band ∈ lte++otherBands bandsSample 6) ∧
      ∀ band ∈ lte++otherBands bandsSample 6, band ∈ bandsSample ∧ Allows 6 (familyOf band)) :=
  ⟨bandsSample_advertised,by rfl,
    (selectBands_keeps_families 256 bandsSample_advertised (by decide) (by decide)
      (by decide)).2.2⟩

end Radio
end L850GL
