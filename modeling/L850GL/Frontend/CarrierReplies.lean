import L850GL.Ca.Output
import L850GL.Frontend.Carrier
import L850GL.Frontend.Replies
import L850GL.Frontend.ReplyNames
import Mathlib.Data.List.Dedup

/-! The carrier replies of the bridge under the checks of the page: every success is accepted, and
an error counts as transient exactly when the bridge marked it as retryable. -/
namespace L850GL
namespace Frontend

open Gateway JsValue Widgets Ca Cell Errors Mutation Reads

/-- The summary of a modem in the list of the page. -/
structure IsSummary (gateway : Gateway) (summary : JsValue) (modemId : CString)
    (generation : Nat) : Prop where
  isObject : isObject summary = true
  modemId : summary.get "modem_id" = gateway.ofBlob (.string modemId)
  generation : summary.get "generation" = gateway.ofBlob (.u32 generation)

def entryOf (gateway : Gateway) (carrier : CaCarrier) : JsValue :=
  gateway.renderReply (l850AddCaCarrier carrier)

variable {gateway : Gateway} {carrier : CaCarrier} {carriers : List CaCarrier} {bridge : Bridge}
  {ref : ModemRef} {summary : JsValue}

/-- A success reply of a modem passes the checks that every page makes first. -/
theorem successReply_identity {modem : Modem} {rest : Reply} {result : JsValue} {time : Nat}
    (hclock : (time : Int) ≤ maxSafeInteger) (htransport : rest.lookup "transport_error" = none)
    (hsummary : IsSummary gateway summary modem.modemId modem.generation)
    (hresult : result = gateway.renderReply (successHead time modem++rest)) :
    responseError result = none ∧ identityMatches result summary = true := by
  have hobject : isObject result = true := by
    rw [hresult]
    rfl
  have hid : result.get "modem_id" = .string (gateway.text modem.modemId) := by
    rw [hresult,@renderReply_get_some _ _ "modem_id" (.string modem.modemId) rfl,render_string]
  have hgeneration : result.get "generation" = .number (signed 32 modem.generation) := by
    rw [hresult,@renderReply_get_some _ _ "generation" (.u32 modem.generation) rfl,render_u32]
  refine ⟨(successReply_allowed hclock htransport hresult).1,?_⟩
  rw [identityMatches,hobject,hsummary.isObject,hsummary.modemId,hsummary.generation,hid,
    hgeneration,gateway.string,gateway.u32]
  simp [strictEquals]

theorem isBandwidth_tenths {tenths : Nat} (h : tenths ∈ [14,30,50,100,150,200]) :
    isBandwidth (gateway.render (.double ((tenths : Rat)/10))) = true := by
  obtain ⟨shown,hprinted,hshown⟩ := gateway.double ((tenths : Rat)/10)
  have hsame : shown = (tenths : Rat)/10 := by
    refine hprinted.eq_of_decimals (m:=(tenths : Int)*10^5) ?_
    push_cast
    ring
  have hvalue : gateway.render (.double ((tenths : Rat)/10)) = .ofRat ((tenths : Rat)/10) :=
    hsame ▸ hshown
  rw [hvalue]
  simp only [List.mem_cons,List.not_mem_nil,or_false] at h
  rcases h with rfl | rfl | rfl | rfl | rfl | rfl
  · decide +kernel
  · decide +kernel
  · decide +kernel
  · decide +kernel
  · decide +kernel
  · decide +kernel

theorem lteBandMatchesEarfcn_inDownlink {band dlEarfcn : Nat} (h : InDownlink band dlEarfcn) :
    lteBandMatchesEarfcn (.number band) (.number dlEarfcn) = true := by
  obtain ⟨range,hrange,rfl,hlow,hhigh⟩ := h
  -- the two tables of bands are the same
  have htable : ((range.band : Int),(range.dlFirst : Int),(range.dlLast : Int)) ∈
      lteDownlinkRanges := by
    have hall : ∀ range ∈ caBandRanges,((range.band : Int),(range.dlFirst : Int),
        (range.dlLast : Int)) ∈ lteDownlinkRanges := by decide
    exact hall range hrange
  rw [lteBandMatchesEarfcn,List.any_eq_true]
  refine ⟨_,htable,?_⟩
  simp only [isNumber,within,Bool.and_eq_true,beq_self_eq_true,decide_eq_true_eq,true_and]
  omega

/-- The numbers of a carrier that the parser lists are small. -/
theorem reported_small (h : Reported carrier) : carrier.index ≤ 8 ∧ 1 ≤ carrier.band ∧
    carrier.band ≤ 85 ∧ carrier.dlEarfcn ≤ 70545 := by
  have hinBand := l850glL850EarfcnToBand_iff.mp (earfcnToBand_of_inDownlink h.downlink)
  obtain ⟨hlow,hhigh⟩ := inBand_band_le hinBand
  exact ⟨h.index.2,hlow,hhigh,inBand_earfcn_le hinBand⟩

theorem entryOf_index (h : Reported carrier) : (entryOf gateway carrier).get "index" =
    .number carrier.index := by
  have hsmall := reported_small h
  rw [entryOf,@renderReply_get_some _ _ "index" (.u32 carrier.index) rfl,
    render_u32_of_lt (by omega)]

theorem entryOf_band (h : Reported carrier) : (entryOf gateway carrier).get "band" =
    .number carrier.band := by
  have hsmall := reported_small h
  rw [entryOf,@renderReply_get_some _ _ "band" (.u32 carrier.band) rfl,render_u32_of_lt (by omega)]

theorem entryOf_earfcn (h : Reported carrier) : (entryOf gateway carrier).get "earfcn" =
    .number carrier.dlEarfcn := by
  have hsmall := reported_small h
  rw [entryOf,@renderReply_get_some _ _ "earfcn" (.u32 carrier.dlEarfcn) rfl,
    render_u32_of_lt (by omega)]

theorem entryOf_pci (h : Reported carrier) : (entryOf gateway carrier).get "pci" =
    .number carrier.pci := by
  have hpci := h.pci
  rw [entryOf,@renderReply_get_some _ _ "pci" (.u32 carrier.pci) rfl,render_u32_of_lt (by omega)]

/-- Every carrier that the parser lists passes the page's check for its role. -/
theorem entryOf_valid (gateway : Gateway) (h : Reported carrier) :
    carrierIsValid (entryOf gateway carrier) (!carrier.primary) = true := by
  have hindexLow := h.index.1
  obtain ⟨hindexHigh,hbandLow,hbandHigh,hearfcn⟩ := reported_small h
  have hpci := h.pci
  have hmax : maxSafeInteger = 9007199254740991 := rfl
  have hunsigned : ∀ n : Nat,n ≤ 70545 → isUnsigned (.number n) = true :=
    fun n hn => isUnsigned_le (by omega)
  have hwithin : ∀ (n : Nat) (low high : Int),low ≤ n → (n : Int) ≤ high →
      (JsValue.number n).within low high = true := by
    intro n low high hlow hhigh
    simp only [within,Bool.and_eq_true,decide_eq_true_eq]
    exact ⟨hlow,hhigh⟩
  have hobject : isObject (entryOf gateway carrier) = true := rfl
  have hdl : isBandwidth ((entryOf gateway carrier).get "dl_bandwidth_mhz") = true := by
    rw [entryOf,@renderReply_get_some _ _ "dl_bandwidth_mhz"
      (.double ((carrier.dlBandwidthTenthsMhz : Rat)/10)) rfl]
    exact isBandwidth_tenths h.dlBandwidth
  have hhas : (entryOf gateway carrier).hasOwnProperty "ul_bandwidth_mhz" = true := rfl
  have hul : (if !carrier.primary then
      strictEquals .null ((entryOf gateway carrier).get "ul_bandwidth_mhz")
      else isBandwidth ((entryOf gateway carrier).get "ul_bandwidth_mhz")) = true := by
    rw [entryOf,@renderReply_get_some _ _ "ul_bandwidth_mhz" _ rfl,h.uplink]
    cases hprimary : carrier.primary with
    | false =>
      simp only [Bool.not_false,if_true,Bool.false_eq_true,if_false]
      rw [render_unspec]
      rfl
    | true => exact isBandwidth_tenths (h.ulBandwidth hprimary)
  rw [carrierIsValid,hobject,entryOf_index h,entryOf_band h,entryOf_earfcn h,entryOf_pci h,
    hunsigned carrier.index (by omega),hwithin carrier.index 1 8 (by omega) (by omega),
    hunsigned carrier.band (by omega),hwithin carrier.band 1 85 (by omega) (by omega),
    hunsigned carrier.dlEarfcn (by omega),hwithin carrier.dlEarfcn 0 262143 (by omega) (by omega),
    lteBandMatchesEarfcn_inDownlink h.downlink,hunsigned carrier.pci (by omega),
    hwithin carrier.pci 0 503 (by omega) (by omega),hdl,hhas,hul]
  rfl

/-- The page's tuple of a carrier. -/
def tupleOf (carrier : CaCarrier) : Int × Int × Int :=
  (carrier.band,carrier.dlEarfcn,carrier.pci)

theorem carriersAreDistinct_entries {indexes : List Int} {tuples : List (Int × Int × Int)}
    (hindexes : ∀ carrier ∈ carriers,(carrier.index : Int) ∉ indexes)
    (htuples : ∀ carrier ∈ carriers,tupleOf carrier ∉ tuples)
    (hindex : carriers.Pairwise fun a b => a.index < b.index)
    (htuple : carriers.Pairwise fun a b => carrierKey a ≠ carrierKey b)
    (hreported : ∀ carrier ∈ carriers,Reported carrier) :
    carriersAreDistinct indexes tuples (carriers.map (entryOf gateway)) = true := by
  induction carriers generalizing indexes tuples with
  | nil => rfl
  | cons carrier carriers ih =>
    obtain ⟨hindex₁,hindex₂⟩ := List.pairwise_cons.mp hindex
    obtain ⟨htuple₁,htuple₂⟩ := List.pairwise_cons.mp htuple
    have hnew : indexes.contains (carrier.index : Int) = false := by
      have hno := hindexes carrier List.mem_cons_self
      simpa using hno
    have hnew' : tuples.contains (tupleOf carrier) = false := by
      have hno := htuples carrier List.mem_cons_self
      simpa using hno
    have hread : ((entryOf gateway carrier).get "index").integer = carrier.index ∧
        (((entryOf gateway carrier).get "band").integer,
          ((entryOf gateway carrier).get "earfcn").integer,
          ((entryOf gateway carrier).get "pci").integer) = tupleOf carrier := by
      have h := hreported carrier List.mem_cons_self
      rw [entryOf_index h,entryOf_band h,entryOf_earfcn h,entryOf_pci h]
      exact ⟨rfl,rfl⟩
    rw [List.map_cons,carriersAreDistinct,hread.1,hread.2,hnew,hnew']
    refine ih (fun other hother => ?_) (fun other hother => ?_) hindex₂ htuple₂
      fun other hother => hreported other (List.mem_cons_of_mem _ hother)
    · rw [List.mem_cons,not_or]
      have hlt := hindex₁ other hother
      exact ⟨by omega,hindexes other (List.mem_cons_of_mem _ hother)⟩
    · rw [List.mem_cons,not_or]
      refine ⟨fun heq => htuple₁ other hother ?_,htuples other (List.mem_cons_of_mem _ hother)⟩
      simp only [tupleOf,Prod.mk.injEq,Int.ofNat_inj] at heq
      simp only [carrierKey,Prod.mk.injEq]
      exact ⟨heq.1.symm,heq.2.2.symm,heq.2.1.symm⟩

theorem bandsAreDistinct_numbers {bands : List Nat} {seen : List Int} (hnodup : bands.Nodup)
    (hseen : ∀ band ∈ bands,(band : Int) ∉ seen) :
    bandsAreDistinct seen (bands.map fun band : Nat => .number band) = true := by
  induction bands generalizing seen with
  | nil => rfl
  | cons band bands ih =>
    obtain ⟨hband,hbands⟩ := List.nodup_cons.mp hnodup
    have hnew : seen.contains (band : Int) = false := by
      have hno := hseen band List.mem_cons_self
      simpa using hno
    rw [List.map_cons,bandsAreDistinct,integer,hnew]
    refine ih hbands fun other hother => ?_
    rw [List.mem_cons,not_or]
    refine ⟨fun heq => hband ?_,hseen other (List.mem_cons_of_mem _ hother)⟩
    exact Int.ofNat_inj.mp heq ▸ hother

/-- The bands of a reply are those of its carriers, each once. -/
theorem uniqueBands_spec (carriers : List CaCarrier) : (uniqueBands carriers).Nodup ∧
    ∀ band,band ∈ uniqueBands carriers ↔ band ∈ carriers.map (·.band) := by
  -- the induction is on the carriers that are still to come
  have hfold : ∀ (carriers : List CaCarrier) (bands : List Nat),bands.Nodup →
      (carriers.foldl (fun bands carrier =>
        if bands.contains carrier.band then bands else bands++[carrier.band]) bands).Nodup ∧
      ∀ band,band ∈ carriers.foldl (fun bands carrier =>
        if bands.contains carrier.band then bands else bands++[carrier.band]) bands ↔
          band ∈ bands ∨ band ∈ carriers.map (·.band) := by
    intro carriers
    induction carriers with
    | nil =>
      intro bands hbands
      exact ⟨hbands,by simp⟩
    | cons carrier carriers ih =>
      intro bands hbands
      rw [List.foldl_cons]
      by_cases hold : bands.contains carrier.band = true
      · rw [if_pos hold]
        obtain ⟨hnodup,hmem⟩ := ih bands hbands
        have hin : carrier.band ∈ bands := by simpa using hold
        refine ⟨hnodup,fun band => ?_⟩
        rw [hmem,List.map_cons,List.mem_cons]
        constructor
        · rintro (h | h)
          · exact .inl h
          · exact .inr (.inr h)
        · rintro (h | rfl | h)
          · exact .inl h
          · exact .inl hin
          · exact .inr h
      · rw [if_neg hold]
        have hnot : carrier.band ∉ bands := by simpa using hold
        have hnext : (bands++[carrier.band]).Nodup := by
          rw [List.nodup_append]
          refine ⟨hbands,by simp,?_⟩
          rintro band hband other hother rfl
          exact hnot (List.mem_singleton.mp hother ▸ hband)
        obtain ⟨hnodup,hmem⟩ := ih _ hnext
        refine ⟨hnodup,fun band => ?_⟩
        rw [hmem,List.mem_append,List.mem_singleton,List.map_cons,List.mem_cons,or_assoc]
  obtain ⟨hnodup,hmem⟩ := hfold carriers [] List.nodup_nil
  exact ⟨hnodup,fun band => (hmem band).trans (by simp)⟩

/-- The bands that the page expects are the bands that it is told. -/
theorem expectedBands_spec (gateway : Gateway) (carriers : List CaCarrier)
    (hreported : ∀ carrier ∈ carriers,Reported carrier) :
    let expected := ((carriers.map (entryOf gateway)).map fun carrier =>
      (carrier.get "band").integer).dedup
    let reported := ((uniqueBands carriers).map fun band : Nat => JsValue.number band).map integer
    expected.length = reported.length ∧ ∀ band ∈ expected,band ∈ reported := by
  obtain ⟨hnodup,hmem⟩ := uniqueBands_spec carriers
  have hread : (carriers.map (entryOf gateway)).map (fun carrier => (carrier.get "band").integer) =
      (carriers.map (·.band)).map Int.ofNat := by
    rw [List.map_map,List.map_map]
    refine List.map_congr_left fun carrier hcarrier => ?_
    rw [Function.comp_apply,entryOf_band (hreported carrier hcarrier)]
    rfl
  have htold : ((uniqueBands carriers).map fun band : Nat => JsValue.number band).map integer =
      (uniqueBands carriers).map Int.ofNat := by
    rw [List.map_map]
    rfl
  intro expected reported
  have hexpected : expected = ((carriers.map (·.band)).map Int.ofNat).dedup :=
    congrArg List.dedup hread
  have hreported : reported = (uniqueBands carriers).map Int.ofNat := htold
  have hreportedNodup : reported.Nodup := by
    rw [hreported]
    exact hnodup.map fun _ _ heq => Int.ofNat_inj.mp heq
  have hsame : ∀ band,band ∈ expected ↔ band ∈ reported := by
    intro band
    rw [hexpected,hreported,List.mem_dedup,List.mem_map,List.mem_map]
    simp only [hmem]
  have hperm : expected.Perm reported := by
    rw [List.perm_ext_iff_of_nodup (by rw [hexpected]; exact List.nodup_dedup _) hreportedNodup]
    exact hsame
  exact ⟨hperm.length_eq,fun band hband => (hsame band).mp hband⟩

/-- The page accepts the reply for every response that the parser accepts. -/
theorem carrierSuccessBody_valid {response : CString} {info : CaInfo}
    (hparse : l850glL850CaParse response = (none,info))
    (hclock : (bridge.time : Int) ≤ maxSafeInteger)
    (hsummary : IsSummary gateway summary (bridge.modems ref).modemId
      (bridge.modems ref).generation) :
    let carriers := info.carriers.take info.length
    ∃ primary,(carriers.filter (·.primary)).getLast? = some primary ∧
      carrierInfoError (gateway.ofReply (carrierSuccessBody bridge ref primary carriers)) summary =
        none := by
  obtain ⟨first,rest,htake,hfirst,hlength,hindex,hkeys,hreported⟩ :=
    l850glL850CaParse_carriers hparse
  intro carriers
  have hcarriers : carriers = first::rest := htake
  have hslots : l850glL850CaMaxSlots = 8 := rfl
  rw [List.length_cons,hslots] at hlength
  have hprimary : first.primary = true := by
    rw [(hreported first List.mem_cons_self).primary,hfirst]
    rfl
  have hsecondary : ∀ carrier ∈ rest,carrier.primary = false ∧ 1 < carrier.index := by
    intro carrier hcarrier
    have hlt := (List.pairwise_cons.mp hindex).1 carrier hcarrier
    rw [hfirst] at hlt
    rw [(hreported carrier (List.mem_cons_of_mem _ hcarrier)).primary]
    exact ⟨beq_eq_false_iff_ne.mpr (by omega),hlt⟩
  have hprimaries : carriers.filter (·.primary) = [first] := by
    rw [hcarriers,List.filter_cons_of_pos hprimary,
      List.filter_eq_nil_iff.mpr fun carrier hcarrier => by simp [(hsecondary carrier hcarrier).1]]
  have hothers : carriers.filter (fun carrier => !carrier.primary) = rest := by
    rw [hcarriers,List.filter_cons_of_neg (by simp [hprimary]),
      List.filter_eq_self.mpr fun carrier hcarrier => by simp [(hsecondary carrier hcarrier).1]]
  refine ⟨first,by rw [hprimaries]; rfl,?_⟩
  obtain ⟨result,hresult⟩ : ∃ result,result = gateway.renderReply (successHead bridge.time
      (bridge.modems ref)++[("state",.text "available"),("source",.text "modemmanager"),
        ("method",.text "l850-gtcainfo"),("active_bands",.array ((uniqueBands carriers).map .u32)),
        ("primary",.table (l850AddCaCarrier first)),
        ("secondary",.array ((carriers.filter fun carrier => !carrier.primary).map
          fun carrier => .table (l850AddCaCarrier carrier))),
        ("active_carriers",.u32 carriers.length)]) := ⟨_,rfl⟩
  have hbody : gateway.ofReply (carrierSuccessBody bridge ref first carriers) = result :=
    (ofReply_eq (carrierSuccessBody_distinct bridge ref first carriers)).trans hresult.symm
  rw [hbody]
  obtain ⟨hnodup,hmem⟩ := uniqueBands_spec carriers
  have hreported' : ∀ carrier ∈ carriers,Reported carrier := hcarriers ▸ hreported
  have hsmallBand : ∀ band ∈ uniqueBands carriers,1 ≤ band ∧ band ≤ 85 := by
    intro band hband
    obtain ⟨carrier,hcarrier,rfl⟩ := List.mem_map.mp ((hmem band).mp hband)
    obtain ⟨-,hlow,hhigh,-⟩ := reported_small (hreported' carrier hcarrier)
    exact ⟨hlow,hhigh⟩
  have hstate : result.get "state" = .string "available".toList := by
    rw [hresult,lookup_rest (.text "available") (by decide) rfl,
      render_text (by decide : IsLiteral "available" 64)]
  have hsource : result.get "source" = .string "modemmanager".toList := by
    rw [hresult,lookup_rest (.text "modemmanager") (by decide) rfl,
      render_text (by decide : IsLiteral "modemmanager" 64)]
  have hmethod : result.get "method" = .string "l850-gtcainfo".toList := by
    rw [hresult,lookup_rest (.text "l850-gtcainfo") (by decide) rfl,
      render_text (by decide : IsLiteral "l850-gtcainfo" 64)]
  have hbands : result.get "active_bands" =
      .array ((uniqueBands carriers).map fun band : Nat => .number band) := by
    rw [hresult,lookup_rest (.array ((uniqueBands carriers).map .u32)) (by decide) rfl,render_array,
      List.map_map]
    refine congrArg JsValue.array (List.map_congr_left fun band hband => ?_)
    have hle := (hsmallBand band hband).2
    rw [Function.comp_apply,render_u32_of_lt (by omega)]
  have hfirstEntry : result.get "primary" = entryOf gateway first := by
    rw [hresult,lookup_rest (.table (l850AddCaCarrier first)) (by decide) rfl,render_table,entryOf]
  have hrestEntries : result.get "secondary" = .array (rest.map (entryOf gateway)) := by
    rw [hresult,lookup_rest (.array ((carriers.filter fun carrier => !carrier.primary).map
      fun carrier => .table (l850AddCaCarrier carrier))) (by decide) rfl,render_array,List.map_map,
      hothers]
    exact congrArg JsValue.array (List.map_congr_left fun carrier _ => by
      rw [Function.comp_apply,render_table,entryOf])
  have hactive : result.get "active_carriers" = .number (rest.length+1) := by
    have hcount : carriers.length = rest.length+1 := by rw [hcarriers,List.length_cons]
    rw [hresult,lookup_rest (.u32 carriers.length) (by decide) rfl,render_u32_of_lt (by omega),
      hcount]
    rfl
  obtain ⟨herror,hidentity⟩ := successReply_identity hclock (by rfl) hsummary hresult
  obtain ⟨hexpected,hincluded⟩ := expectedBands_spec gateway carriers hreported'
  have hbandsLength : (uniqueBands carriers).length ≤ 8 := by
    have hsubset : uniqueBands carriers ⊆ carriers.map (·.band) :=
      fun band hband => (hmem band).mp hband
    have hle := (hnodup.subperm hsubset).length_le
    have hlist : carriers.length = rest.length+1 := by rw [hcarriers,List.length_cons]
    rw [List.length_map,hlist] at hle
    omega
  have hbandsPos : 1 ≤ (uniqueBands carriers).length := by
    have hin : first.band ∈ uniqueBands carriers := by
      rw [hmem,hcarriers]
      simp
    exact List.length_pos_of_mem hin
  have hbandsValid : ((uniqueBands carriers).map fun band : Nat => JsValue.number band).all
      (fun band => isUnsigned band && band.within 1 85) = true := by
    rw [List.all_eq_true]
    intro value hvalue
    obtain ⟨band,hband,rfl⟩ := List.mem_map.mp hvalue
    obtain ⟨hlow,hhigh⟩ := hsmallBand band hband
    have hmax : maxSafeInteger = 9007199254740991 := rfl
    have hunsigned : isUnsigned (.number band) = true := isUnsigned_le (by omega)
    simp only [hunsigned,within,Bool.true_and,Bool.and_eq_true,decide_eq_true_eq]
    omega
  have hfirstValid : carrierIsValid (entryOf gateway first) false = true := by
    have hvalid := entryOf_valid gateway (hreported first List.mem_cons_self)
    rwa [hprimary] at hvalid
  have hrestValid : (rest.map (entryOf gateway)).all
      (fun carrier => carrierIsValid carrier true) = true := by
    rw [List.all_eq_true]
    intro value hvalue
    obtain ⟨carrier,hcarrier,rfl⟩ := List.mem_map.mp hvalue
    have hvalid := entryOf_valid gateway (hreported carrier (List.mem_cons_of_mem _ hcarrier))
    rwa [(hsecondary carrier hcarrier).1] at hvalid
  have hrestIndexes : (rest.map (entryOf gateway)).all
      (fun carrier => (carrier.get "index").isSafeIntegerWith (1 < ·)) = true := by
    rw [List.all_eq_true]
    intro value hvalue
    obtain ⟨carrier,hcarrier,rfl⟩ := List.mem_map.mp hvalue
    have hlt := (hsecondary carrier hcarrier).2
    obtain ⟨-,hhigh⟩ := (hreported carrier (List.mem_cons_of_mem _ hcarrier)).index
    rw [entryOf_index (hreported carrier (List.mem_cons_of_mem _ hcarrier))]
    refine isSafeInteger_le hhigh (by decide) ?_
    rw [decide_eq_true_eq]
    omega
  have hcount : isUnsigned (.number ((rest.length : Int)+1)) = true := by
    have hmax : maxSafeInteger = 9007199254740991 := rfl
    simp only [isUnsigned,isSafeIntegerWith,Bool.and_eq_true,decide_eq_true_eq]
    omega
  have hcountRange : (JsValue.number ((rest.length : Int)+1)).within 1 8 = true := by
    simp only [within,Bool.and_eq_true,decide_eq_true_eq]
    omega
  have hone : ((entryOf gateway first).get "index").isNumber 1 = true := by
    rw [entryOf_index (hreported first List.mem_cons_self),hfirst]
    rfl
  have hfields : carrierFieldsAreValid result summary = true := by
    rw [carrierFieldsAreValid,hidentity,hstate,hbands,hfirstEntry,hrestEntries,hactive,hsource,
      hmethod,hone,hfirstValid]
    simp only [JsValue.isArray,items,hbandsValid,hrestValid,hrestIndexes,hcount,
      hcountRange,isText,isNumber,List.length_map,beq_self_eq_true,Bool.true_and,Bool.and_true,
      Bool.and_eq_true,decide_eq_true_eq]
    omega
  have hall : entryOf gateway first::rest.map (entryOf gateway) =
      carriers.map (entryOf gateway) := by
    rw [hcarriers,List.map_cons]
  have hdistinct : carriersAreDistinct [] [] (carriers.map (entryOf gateway)) = true := by
    rw [hcarriers]
    exact carriersAreDistinct_entries (by simp) (by simp) hindex hkeys hreported
  have hbandsDistinct := bandsAreDistinct_numbers hnodup
    (fun band _ => (by simp : (band : Int) ∉ ([] : List Int)))
  have hnone : (((carriers.map (entryOf gateway)).map fun carrier =>
      (carrier.get "band").integer).dedup.any fun band =>
        !(((uniqueBands carriers).map fun band : Nat => JsValue.number band).map
          integer).contains band) = false := by
    rw [List.any_eq_false]
    intro band hband
    simpa using hincluded band hband
  rw [carrierInfoError,herror,hfields,hbands,hfirstEntry,hrestEntries]
  simp only [items,hall,hdistinct,hbandsDistinct,hnone,hexpected,truthy,bne_self_eq_false,
    Bool.not_true,Bool.or_self,Bool.false_eq_true,if_false]

end Frontend
end L850GL
