import Mathlib.Algebra.Order.Ring.Int
import Mathlib.Data.List.Basic
import Mathlib.Order.Compare
import Mathlib.Tactic.Common

/-! Points in time written as `YYYY-MM-DDThh:mm:ss` and an offset from UTC.  Among texts with one
offset the order of characters is the order of time. -/
namespace L850GL
namespace Iso8601

def digit (c : Char) : Option Nat := if '0' ≤ c ∧ c ≤ '9' then some (c.toNat-48) else none

/-- The value of the next `n` digits, and what follows them. -/
def digits : (n value : Nat) → List Char → Option (Nat × List Char)
  | 0, value, text => some (value,text)
  | n+1, value, c::text => (digit c).bind fun d => digits n (10*value+d) text
  | _+1, _, [] => none

inductive Field
  | digits (n : Nat)
  | char (c : Char)
  deriving DecidableEq,Repr

/-- The numbers of a text in a format, and what follows them. -/
def read : List Field → List Char → Option (List Nat × List Char)
  | [], text => some ([],text)
  | .digits n::format, text =>
    (digits n 0 text).bind fun r => (read format r.2).map fun s => (r.1::s.1,s.2)
  | .char c::format, c'::text => if c' = c then read format text else none
  | .char _::_, [] => none

/-- The sum of a function below a number. -/
def before (f : Nat → Nat) : Nat → Nat
  | 0 => 0
  | n+1 => before f n+f n

def isLeap (year : Nat) : Bool := year%4 == 0 && (year%100 != 0 || year%400 == 0)

def daysInYear (year : Nat) : Nat := if isLeap year then 366 else 365

/-- The days of a month; month 0 has none. -/
def daysInMonth (year month : Nat) : Nat :=
  if month = 0 then 0
  else if month = 2 then if isLeap year then 29 else 28
  else if month = 4 ∨ month = 6 ∨ month = 9 ∨ month = 11 then 30 else 31

/-- A date and a time of day that exist. -/
structure DateTime where
  year : Nat
  month : Nat
  day : Nat
  hour : Nat
  minute : Nat
  second : Nat
  month_bound : 1 ≤ month ∧ month ≤ 12
  day_bound : 1 ≤ day ∧ day ≤ daysInMonth year month
  hour_lt : hour < 24
  minute_lt : minute < 60
  second_lt : second < 60

namespace DateTime

def dayOfYear (t : DateTime) : Nat := before (daysInMonth t.year) t.month+(t.day-1)

/-- The days since the first day of year 0. -/
def dayNumber (t : DateTime) : Nat := before daysInYear t.year+t.dayOfYear

def seconds (t : DateTime) : Nat := ((t.dayNumber*24+t.hour)*60+t.minute)*60+t.second

def ofFields : List Nat → Option DateTime
  | [year,month,day,hour,minute,second] =>
    if h : (1 ≤ month ∧ month ≤ 12) ∧ (1 ≤ day ∧ day ≤ daysInMonth year month) ∧
        hour < 24 ∧ minute < 60 ∧ second < 60 then
      some ⟨year,month,day,hour,minute,second,h.1,h.2.1,h.2.2.1,h.2.2.2.1,h.2.2.2.2⟩
    else none
  | _ => none

end DateTime

def dateTimeFormat : List Field :=
  [.digits 4,.char '-',.digits 2,.char '-',.digits 2,.char 'T',
   .digits 2,.char ':',.digits 2,.char ':',.digits 2]

/-- The seconds of an offset of hours and minutes, nothing when the text goes on. -/
def offsetSeconds : List Nat × List Char → Option Nat
  | ([hours],[]) => if hours < 24 then some (hours*3600) else none
  | ([hours,minutes],[]) =>
    if hours < 24 ∧ minutes < 60 then some (hours*3600+minutes*60) else none
  | _ => none

/-- The offset of `hh`, `hhmm` or `hh:mm`. -/
def offsetOf (text : List Char) : Option Nat :=
  (read [.digits 2] text).bind offsetSeconds <|>
    (read [.digits 2,.digits 2] text).bind offsetSeconds <|>
      (read [.digits 2,.char ':',.digits 2] text).bind offsetSeconds

/-- The seconds that a zone is ahead of UTC. -/
def zone : List Char → Option Int
  | ['Z'] => some 0
  | '+'::text => (offsetOf text).map Int.ofNat
  | '-'::text => (offsetOf text).map fun seconds => -Int.ofNat seconds
  | _ => none

/-- The second that a text names, counted in UTC. -/
def parse (text : List Char) : Option Int :=
  (read dateTimeFormat text).bind fun r => (DateTime.ofFields r.1).bind fun t =>
    (zone r.2).map fun offset => t.seconds-offset

example : parse "2026-01-01T10:00:00+02:00".toList =
    parse "2026-01-01T08:00:00Z".toList := by decide +kernel

/-- The characters of a text as numbers. -/
def codes (text : List Char) : List Nat := text.map Char.toNat

section

variable {x x' v v' : Nat} {o : Ordering} {f : Nat → Nat} {n k : Nat}

/-- Numbers at one distance compare alike. -/
theorem compare_shift {a a' : Nat} (h : a+x' = a'+x) : compare a a' = compare x x' := by
  rcases Nat.lt_trichotomy x x' with hx | hx | hx
  · rw [Nat.compare_eq_lt.mpr hx,Nat.compare_eq_lt.mpr (by omega)]
  · rw [Nat.compare_eq_eq.mpr hx,Nat.compare_eq_eq.mpr (by omega)]
  · rw [Nat.compare_eq_gt.mpr hx,Nat.compare_eq_gt.mpr (by omega)]

/-- An order by a first part and then the rest is the order of values that grow with both. -/
theorem compare_then (hlt : x < x' → v < v') (hgt : x' < x → v' < v)
    (heq : x = x' → o = compare v v') : (compare x x').then o = compare v v' := by
  rcases Nat.lt_trichotomy x x' with h | h | h
  · rw [Nat.compare_eq_lt.mpr h,Nat.compare_eq_lt.mpr (hlt h)]
    rfl
  · rw [Nat.compare_eq_eq.mpr h]
    exact heq h
  · rw [Nat.compare_eq_gt.mpr h,Nat.compare_eq_gt.mpr (hgt h)]
    rfl

/-- Comparing the digits of a mixed radix. -/
theorem compare_radix {d d' : Nat} (hd : d < n) (hd' : d' < n) :
    (compare x x').then (compare d d') = compare (x*n+d) (x'*n+d') := by
  have hstep : ∀ {a b p q : Nat}, a < b → p < n → a*n+p < b*n+q := by
    intro a b p q hab hp
    have h₁ : (a+1)*n ≤ b*n := Nat.mul_le_mul_right n hab
    rw [Nat.add_mul,Nat.one_mul] at h₁
    omega
  refine compare_then (fun h => hstep h hd) (fun h => hstep h hd') fun h => ?_
  subst h
  exact (compare_shift (by omega)).symm

theorem before_lt (h : n < k) : before f n+f n ≤ before f k := by
  induction k with
  | zero => omega
  | succ k ih =>
    have hstep : before f (k+1) = before f k+f k := rfl
    by_cases hk : n = k
    · subst hk
      omega
    · have := ih (by omega)
      omega

end

theorem codes_cons (c : Char) (text : List Char) : codes (c::text) = c.toNat::codes text := rfl

theorem compare_codes_cons (c c' : Char) (text text' : List Char) :
    compare (codes (c::text)) (codes (c'::text')) =
      (compare c.toNat c'.toNat).then (compare (codes text) (codes text')) := by
  rw [codes_cons,codes_cons]
  exact List.compareLex_cons_cons

theorem digit_some {c : Char} {d : Nat} (h : digit c = some d) : c.toNat = 48+d ∧ d < 10 := by
  unfold digit at h
  split_ifs at h with hc
  have h₁ : 48 ≤ c.toNat := hc.1
  have h₂ : c.toNat ≤ 57 := hc.2
  have h₃ : c.toNat-48 = d := Option.some.inj h
  omega

theorem compare_digit {c c' : Char} {d d' : Nat} (h : digit c = some d) (h' : digit c' = some d') :
    compare c.toNat c'.toNat = compare d d' := by
  rw [(digit_some h).1,(digit_some h').1]
  exact compare_shift (by omega)

/-- Reading digits keeps the order. -/
theorem digits_compare {n value value' : Nat} {text text' : List Char} {r r' : Nat × List Char}
    (h : digits n value text = some r) (h' : digits n value' text' = some r') :
    (compare value value').then (compare (codes text) (codes text')) =
      (compare r.1 r'.1).then (compare (codes r.2) (codes r'.2)) := by
  induction n generalizing value value' text text' with
  | zero =>
    cases h
    cases h'
    rfl
  | succ n ih =>
    cases text with
    | nil => cases h
    | cons c text =>
      cases text' with
      | nil => cases h'
      | cons c' text' =>
        obtain ⟨d,hd,h⟩ := Option.bind_eq_some_iff.mp h
        obtain ⟨d',hd',h'⟩ := Option.bind_eq_some_iff.mp h'
        have hradix : (compare value value').then (compare d d') =
            compare (value*10+d) (value'*10+d') :=
          compare_radix (digit_some hd).2 (digit_some hd').2
        rw [compare_codes_cons,compare_digit hd hd',← Ordering.then_assoc,hradix,← ih h h',
          Nat.mul_comm value,Nat.mul_comm value']

/-- Reading a format keeps the order. -/
theorem read_compare {format : List Field} {text text' : List Char} {r r' : List Nat × List Char}
    (h : read format text = some r) (h' : read format text' = some r') :
    compare (codes text) (codes text') =
      (compare r.1 r'.1).then (compare (codes r.2) (codes r'.2)) := by
  induction format generalizing text text' r r' with
  | nil =>
    cases h
    cases h'
    rfl
  | cons field format ih =>
    cases field with
    | digits n =>
      obtain ⟨p,hp,h⟩ := Option.bind_eq_some_iff.mp h
      obtain ⟨p',hp',h'⟩ := Option.bind_eq_some_iff.mp h'
      obtain ⟨s,hs,rfl⟩ := Option.map_eq_some_iff.mp h
      obtain ⟨s',hs',rfl⟩ := Option.map_eq_some_iff.mp h'
      have hdigits := digits_compare hp hp'
      rw [Nat.compare_eq_eq.mpr rfl] at hdigits
      have hcons : compare (p.1::s.1) (p'.1::s'.1) = (compare p.1 p'.1).then (compare s.1 s'.1) :=
        List.compareLex_cons_cons
      rw [hcons,Ordering.then_assoc,← ih hs hs',← hdigits]
      rfl
    | char c =>
      cases text with
      | nil => cases h
      | cons a text =>
        cases text' with
        | nil => cases h'
        | cons a' text' =>
          simp only [read] at h h'
          split_ifs at h with ha
          split_ifs at h' with ha'
          rw [compare_codes_cons,ha,ha',Nat.compare_eq_eq.mpr rfl]
          exact ih h h'

namespace DateTime

variable {t t' : DateTime}

theorem dayOfYear_lt (t : DateTime) : t.dayOfYear < daysInYear t.year := by
  have hyear : before (daysInMonth t.year) 13 = daysInYear t.year := by
    unfold daysInYear
    cases hleap : isLeap t.year <;> simp [before,daysInMonth,hleap]
  have hmonth : before (daysInMonth t.year) t.month+daysInMonth t.year t.month ≤
      before (daysInMonth t.year) 13 := before_lt (by have := t.month_bound; omega)
  have hday := t.day_bound
  unfold dayOfYear
  omega

theorem dayNumber_compare :
    (compare t.year t'.year).then ((compare t.month t'.month).then (compare t.day t'.day)) =
      compare t.dayNumber t'.dayNumber := by
  have hyear : ∀ {a b : DateTime}, a.year < b.year → a.dayNumber < b.dayNumber := by
    intro a b h
    have h₁ : before daysInYear a.year+daysInYear a.year ≤ before daysInYear b.year := before_lt h
    have h₂ := a.dayOfYear_lt
    unfold dayNumber
    omega
  have hmonth : ∀ {a b : DateTime}, a.year = b.year → a.month < b.month →
      a.dayNumber < b.dayNumber := by
    intro a b hy h
    have h₁ : before (daysInMonth a.year) a.month+daysInMonth a.year a.month ≤
        before (daysInMonth a.year) b.month := before_lt h
    have h₂ := a.day_bound
    unfold dayNumber dayOfYear
    rw [← hy]
    omega
  refine compare_then hyear hyear fun hy => ?_
  refine compare_then (hmonth hy) (hmonth hy.symm) fun hm => ?_
  have h₁ := t.day_bound.1
  have h₂ := t'.day_bound.1
  refine (compare_shift ?_).symm
  unfold dayNumber dayOfYear
  rw [hy,hm]
  omega

theorem ofFields_some {fields : List Nat} (h : ofFields fields = some t) :
    fields = [t.year,t.month,t.day,t.hour,t.minute,t.second] := by
  unfold ofFields at h
  split at h
  · split_ifs at h
    cases h
    rfl
  · cases h

theorem ofFields_compare {fields fields' : List Nat} (h : ofFields fields = some t)
    (h' : ofFields fields' = some t') : compare fields fields' = compare t.seconds t'.seconds := by
  have hlist : ∀ {a b : Nat} {l l' : List Nat},
      compare (a::l) (b::l') = (compare a b).then (compare l l') := List.compareLex_cons_cons
  rw [ofFields_some h,ofFields_some h']
  have hnil : compare ([] : List Nat) [] = .eq := rfl
  have hparts : compare [t.year,t.month,t.day,t.hour,t.minute,t.second]
      [t'.year,t'.month,t'.day,t'.hour,t'.minute,t'.second] =
      ((((compare t.year t'.year).then ((compare t.month t'.month).then
        (compare t.day t'.day))).then (compare t.hour t'.hour)).then
          (compare t.minute t'.minute)).then (compare t.second t'.second) := by
    simp only [hlist,Ordering.then_assoc,hnil,Ordering.then_eq]
  rw [hparts,dayNumber_compare,compare_radix t.hour_lt t'.hour_lt,
    compare_radix t.minute_lt t'.minute_lt,compare_radix t.second_lt t'.second_lt]
  rfl

end DateTime

/-- A printable character of ASCII. -/
def Plain (c : Char) : Prop := 0x20 ≤ c.toNat ∧ c.toNat < 0x7F

def Field.length : Field → Nat
  | .digits n => n
  | .char _ => 1

/-- What was read of a text. -/
def Consumes (n : Nat) (text rest : List Char) : Prop :=
  ∃ used, text = used++rest ∧ used.length = n ∧ ∀ c ∈ used, Plain c

theorem Consumes.nil (text : List Char) : Consumes 0 text text := ⟨[],rfl,rfl,by simp⟩

theorem Consumes.cons {n : Nat} {c : Char} {text rest : List Char} (hc : Plain c)
    (h : Consumes n text rest) : Consumes (n+1) (c::text) rest := by
  obtain ⟨used,rfl,rfl,hu⟩ := h
  exact ⟨c::used,rfl,rfl,by simpa using ⟨hc,hu⟩⟩

theorem Consumes.append {n m : Nat} {text mid rest : List Char} (h : Consumes n text mid)
    (h' : Consumes m mid rest) : Consumes (n+m) text rest := by
  obtain ⟨used,rfl,rfl,hu⟩ := h
  obtain ⟨used',rfl,rfl,hu'⟩ := h'
  refine ⟨used++used',by rw [List.append_assoc],List.length_append,fun c hc => ?_⟩
  exact (List.mem_append.mp hc).elim (hu c) (hu' c)

theorem digits_consumes {n value : Nat} {text : List Char} {r : Nat × List Char}
    (h : digits n value text = some r) : Consumes n text r.2 := by
  induction n generalizing value text with
  | zero =>
    cases h
    exact .nil text
  | succ n ih =>
    cases text with
    | nil => cases h
    | cons c text =>
      obtain ⟨d,hd,h⟩ := Option.bind_eq_some_iff.mp h
      have hc := digit_some hd
      exact (ih h).cons ⟨by omega,by omega⟩

theorem read_consumes {format : List Field} {text : List Char} {r : List Nat × List Char}
    (hf : ∀ c, .char c ∈ format → Plain c) (h : read format text = some r) :
    Consumes (format.map Field.length).sum text r.2 := by
  induction format generalizing text r with
  | nil =>
    cases h
    exact .nil text
  | cons field format ih =>
    have hf' : ∀ c, .char c ∈ format → Plain c := fun c hc => hf c (List.mem_cons_of_mem _ hc)
    rw [List.map_cons,List.sum_cons]
    cases field with
    | digits n =>
      obtain ⟨p,hp,h⟩ := Option.bind_eq_some_iff.mp h
      obtain ⟨s,hs,rfl⟩ := Option.map_eq_some_iff.mp h
      have hrest := ih hf' hs
      exact (digits_consumes hp).append hrest
    | char c =>
      cases text with
      | nil => cases h
      | cons a text =>
        simp only [read] at h
        split_ifs at h with ha
        subst ha
        rw [Field.length,Nat.add_comm]
        exact (ih hf' h).cons (hf _ List.mem_cons_self)

theorem dateTime_consumes {text : List Char} {r : List Nat × List Char}
    (h : read dateTimeFormat text = some r) : Consumes 19 text r.2 := by
  refine read_consumes (fun c hc => ?_) h
  simp only [dateTimeFormat,List.mem_cons,List.not_mem_nil,or_false,Field.char.injEq,
    reduceCtorEq,false_or] at hc
  rcases hc with rfl | rfl | rfl | rfl | rfl <;> exact ⟨by decide,by decide⟩

theorem offsetSeconds_rest {r : List Nat × List Char} {seconds : Nat}
    (h : offsetSeconds r = some seconds) : r.2 = [] := by
  unfold offsetSeconds at h
  split at h
  · rfl
  · rfl
  · cases h

theorem offsetOf_consumes {text : List Char} {seconds : Nat} (h : offsetOf text = some seconds) :
    ∃ n ≤ 5, Consumes n text [] := by
  have hread : ∀ {format : List Field}, (∀ c, .char c ∈ format → c = ':') →
      (read format text).bind offsetSeconds = some seconds →
      Consumes (format.map Field.length).sum text [] := by
    intro format hf h
    obtain ⟨r,hr,h⟩ := Option.bind_eq_some_iff.mp h
    rw [← offsetSeconds_rest h]
    refine read_consumes (fun c hc => ?_) hr
    rw [hf c hc]
    exact ⟨by decide,by decide⟩
  simp only [offsetOf,Option.orElse_eq_orElse,Option.orElse_eq_or,Option.or_eq_some_iff] at h
  rcases h with h | ⟨-,h | ⟨-,h⟩⟩
  · exact ⟨2,by omega,hread (by simp) h⟩
  · exact ⟨4,by omega,hread (by simp) h⟩
  · exact ⟨5,by omega,hread (by simp) h⟩

theorem zone_consumes {text : List Char} {offset : Int} (h : zone text = some offset) :
    ∃ n ≤ 6, Consumes n text [] := by
  unfold zone at h
  split at h
  · exact ⟨1,by omega,(Consumes.nil []).cons ⟨by decide,by decide⟩⟩
  · obtain ⟨seconds,hs,-⟩ := Option.map_eq_some_iff.mp h
    obtain ⟨n,hn,hc⟩ := offsetOf_consumes hs
    exact ⟨n+1,by omega,hc.cons ⟨by decide,by decide⟩⟩
  · obtain ⟨seconds,hs,-⟩ := Option.map_eq_some_iff.mp h
    obtain ⟨n,hn,hc⟩ := offsetOf_consumes hs
    exact ⟨n+1,by omega,hc.cons ⟨by decide,by decide⟩⟩
  · cases h

/-- A text that names a time is short and printable. -/
theorem parse_plain {text : List Char} {time : Int} (h : parse text = some time) :
    text.length ≤ 25 ∧ ∀ c ∈ text, Plain c := by
  obtain ⟨r,hr,h⟩ := Option.bind_eq_some_iff.mp h
  obtain ⟨t,-,h⟩ := Option.bind_eq_some_iff.mp h
  obtain ⟨offset,ho,-⟩ := Option.map_eq_some_iff.mp h
  obtain ⟨n,hn,hc⟩ := zone_consumes ho
  obtain ⟨used,hu,hlen,hplain⟩ := (dateTime_consumes hr).append hc
  rw [List.append_nil] at hu
  subst hu
  exact ⟨by omega,hplain⟩

/-- The zone of a text, as it is written. -/
def suffix (text : List Char) : List Char := text.drop 19

/-- Among texts with one zone the order of characters is the order of time. -/
theorem compare_of_suffix_eq {text text' : List Char} {time time' : Int}
    (h : parse text = some time) (h' : parse text' = some time')
    (hzone : suffix text = suffix text') :
    compare (codes text) (codes text') = compare time time' := by
  obtain ⟨r,hr,h⟩ := Option.bind_eq_some_iff.mp h
  obtain ⟨r',hr',h'⟩ := Option.bind_eq_some_iff.mp h'
  obtain ⟨t,ht,h⟩ := Option.bind_eq_some_iff.mp h
  obtain ⟨t',ht',h'⟩ := Option.bind_eq_some_iff.mp h'
  obtain ⟨offset,ho,rfl⟩ := Option.map_eq_some_iff.mp h
  obtain ⟨offset',ho',rfl⟩ := Option.map_eq_some_iff.mp h'
  have hdrop : ∀ {text : List Char} {r : List Nat × List Char},
      read dateTimeFormat text = some r → suffix text = r.2 := by
    intro text r hr
    obtain ⟨used,rfl,hlen,-⟩ := dateTime_consumes hr
    exact List.drop_left' hlen
  have hrest : r.2 = r'.2 := (hdrop hr).symm.trans (hzone.trans (hdrop hr'))
  have hoffset : offset = offset' := by
    rw [hrest,ho'] at ho
    exact (Option.some.inj ho).symm
  have hcodes : compare (codes r.2) (codes r'.2) = .eq := by
    rw [hrest]
    exact Std.ReflCmp.compare_self
  rw [read_compare hr hr',DateTime.ofFields_compare ht ht',hcodes,Ordering.then_eq,hoffset]
  rcases Nat.lt_trichotomy t.seconds t'.seconds with hs | hs | hs
  · have htime : (t.seconds : Int)-offset' < t'.seconds-offset' := by omega
    rw [Nat.compare_eq_lt.mpr hs,Int.compare_eq_lt.mpr htime]
  · rw [Nat.compare_eq_eq.mpr hs,hs]
    exact Std.ReflCmp.compare_self.symm
  · have htime : (t'.seconds : Int)-offset' < t.seconds-offset' := by omega
    rw [Nat.compare_eq_gt.mpr hs,Int.compare_eq_gt.mpr htime]

end Iso8601
end L850GL
