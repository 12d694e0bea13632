import L850GL.UbusRequest
import Mathlib.Data.List.Nodup
import Mathlib.Tactic.Common

/-! What the strict parser accepts, for any functions of libubox that keep to one attribute. -/
namespace L850GL
namespace UbusRequest

def IsAttribute (b : Blobmsg) (attr : Bytes) : Prop :=
  b.checkAttrLen attr = true ∧ b.padLen attr = attr.length

/-- What libubox documents: an attribute that passes has its header, is found again when what
follows it is cut off, and is read the same whatever follows it. -/
structure LawfulBlobmsg (b : Blobmsg) : Prop where
  header : ∀ bytes,b.checkAttrLen bytes = true → sizeofBlobAttr ≤ b.padLen bytes
  cut : ∀ bytes,b.checkAttrLen bytes = true → b.padLen bytes ≤ bytes.length →
    IsAttribute b (bytes.take (b.padLen bytes))
  extend : ∀ attr rest,IsAttribute b attr → b.checkAttrLen (attr++rest) = true ∧
    b.padLen (attr++rest) = attr.length ∧ b.name (attr++rest) = b.name attr ∧
    b.type (attr++rest) = b.type attr ∧ b.data (attr++rest) = b.data attr

/-- A policy of 1 to 63 distinct names, none of them that of the session. -/
structure LawfulPolicy (policy : List BlobmsgPolicy) : Prop where
  nonempty : policy ≠ []
  short : policy.length ≤ requestPolicyMax
  named : ∀ field ∈ policy,field.name ≠ none
  nodup : (policy.map (·.name)).Nodup
  session : some rpcSessionName ∉ policy.map (·.name)

/-- One NUL, at the end. -/
def IsText (value text : Bytes) : Prop := value = text++[0] ∧ 0 ∉ text

/-- The session, or a field of the policy. -/
def Fits (b : Blobmsg) (policy : List BlobmsgPolicy) (attr : Bytes) : Prop :=
  (b.name attr = rpcSessionName ∧ b.type attr = blobmsgTypeString ∧
    ∃ digits,IsText (b.data attr) digits ∧ digits.length = rpcSessionHexLength ∧
      ∀ digit ∈ digits,asciiIsHex digit = true) ∨
  b.name attr ≠ rpcSessionName ∧ ∃ field ∈ policy,field.name = some (b.name attr) ∧
    b.type attr = field.type ∧
    (field.type = blobmsgTypeString → ∃ text,IsText (b.data attr) text)

/-- Every attribute fits, none comes twice, and none that is required is missing. -/
structure Admissible (b : Blobmsg) (policy : List BlobmsgPolicy) (required : BitVec 64)
    (attrs : List Bytes) : Prop where
  wellFormed : ∀ attr ∈ attrs,IsAttribute b attr
  fits : ∀ attr ∈ attrs,Fits b policy attr
  once : (attrs.map b.name).Nodup
  required : ∀ i,required.getLsbD i = true → ∃ field,policy[i]? = some field ∧
    ∃ attr ∈ attrs,field.name = some (b.name attr)

def slotOf (b : Blobmsg) (attrs : List Bytes) (field : BlobmsgPolicy) : Option Bytes :=
  attrs.find? fun attr => field.name == some (b.name attr)

variable {b : Blobmsg} {policy : List BlobmsgPolicy} {required : BitVec 64} {attr rest : Bytes}
  {attrs passed : List Bytes} {slots slots' : Slots}

theorem IsAttribute.length (hb : LawfulBlobmsg b) (h : IsAttribute b attr) :
    sizeofBlobAttr ≤ attr.length := h.2 ▸ hb.header attr h.1

theorem blobAttrIsValid_append (hb : LawfulBlobmsg b) (h : IsAttribute b attr) (rest : Bytes) :
    l850glUbusBlobAttrIsValid b (attr++rest) = true := by
  have hlength := h.length hb
  have hlong : ¬ (attr++rest).length < sizeofBlobAttr := by
    rw [List.length_append]
    omega
  simp only [l850glUbusBlobAttrIsValid,hlong,if_false,(hb.extend attr rest h).1]

theorem admitAttribute_append (policy : List BlobmsgPolicy) (slots : Slots) (hb : LawfulBlobmsg b)
    (h : IsAttribute b attr) (rest : Bytes) :
    admitAttribute b policy slots (attr++rest) = admitAttribute b policy slots attr := by
  obtain ⟨-,hpad,hname,htype,hdata⟩ := hb.extend attr rest h
  have hvalid := blobAttrIsValid_append hb h rest
  have hvalid' := blobAttrIsValid_append hb h []
  rw [List.append_nil] at hvalid'
  have hcanonical : l850glUbusBlobStringIsCanonical b (attr++rest) =
      l850glUbusBlobStringIsCanonical b attr := by
    simp only [l850glUbusBlobStringIsCanonical,hvalid,hvalid',htype,hdata]
  have hsession : l850glUbusRpcSessionIsValid b (attr++rest) =
      l850glUbusRpcSessionIsValid b attr := by
    simp only [l850glUbusRpcSessionIsValid,hvalid,hvalid',hname,htype,hdata,hcanonical]
  have htake : (attr++rest).take attr.length = attr.take (b.padLen attr) := by
    rw [h.2,List.take_left,List.take_length]
  simp only [admitAttribute,hname,htype,hsession,hcanonical,hpad,htake]

theorem isText_iff {value : Bytes} :
    (0 < value.length ∧ value[value.length-1]? = some 0 ∧
      (value.take (value.length-1)).contains 0 = false) ↔ ∃ text,IsText value text := by
  constructor
  · rintro ⟨hpos,hlast,hnone⟩
    refine ⟨value.take (value.length-1),?_,by simpa using hnone⟩
    obtain ⟨hlt,hget⟩ := List.getElem?_eq_some_iff.mp hlast
    conv_lhs => rw [← List.take_append_drop (value.length-1) value]
    rw [List.drop_eq_getElem_cons hlt,hget,List.drop_of_length_le (by omega)]
  · rintro ⟨text,rfl,hnone⟩
    simp [hnone]

theorem blobStringIsCanonical_iff (hb : LawfulBlobmsg b) (h : IsAttribute b attr) :
    l850glUbusBlobStringIsCanonical b attr = true ↔
      b.type attr = blobmsgTypeString ∧ ∃ text,IsText (b.data attr) text := by
  have hvalid := blobAttrIsValid_append hb h []
  rw [List.append_nil] at hvalid
  rw [← isText_iff]
  by_cases htype : b.type attr = blobmsgTypeString
  · simp [l850glUbusBlobStringIsCanonical,hvalid,htype,and_assoc]
  · simp [l850glUbusBlobStringIsCanonical,hvalid,htype]

theorem strlen_isText {value text : Bytes} (h : IsText value text) :
    strlen value = text.length := by
  obtain ⟨rfl,hnone⟩ := h
  have hall : ∀ c ∈ text,(c != 0) = true := by
    intro c hc
    simp only [bne_iff_ne]
    rintro rfl
    exact hnone hc
  rw [strlen,List.takeWhile_append_of_pos hall]
  simp

theorem rpcSessionIsValid_iff (hb : LawfulBlobmsg b) (h : IsAttribute b attr)
    (hname : b.name attr = rpcSessionName) : l850glUbusRpcSessionIsValid b attr = true ↔
      b.type attr = blobmsgTypeString ∧ ∃ digits,IsText (b.data attr) digits ∧
        digits.length = rpcSessionHexLength ∧ ∀ digit ∈ digits,asciiIsHex digit = true := by
  have hvalid := blobAttrIsValid_append hb h []
  rw [List.append_nil] at hvalid
  have hcanonical := blobStringIsCanonical_iff hb h
  constructor
  · intro hsession
    unfold l850glUbusRpcSessionIsValid at hsession
    split at hsession
    · cases hsession
    rename_i hok
    dsimp only at hsession
    split at hsession
    · cases hsession
    rename_i hlength
    simp only [Bool.or_eq_true,Bool.not_eq_true',not_or,Bool.not_eq_false,bne_iff_ne,ne_eq,
      not_not] at hok hlength
    obtain ⟨htype,text,htext⟩ := hcanonical.mp hok.2
    rw [strlen_isText htext] at hlength
    refine ⟨htype,text,htext,hlength,?_⟩
    rw [htext.1,← hlength,List.take_left] at hsession
    exact List.all_eq_true.mp hsession
  · rintro ⟨htype,digits,htext,hlength,hdigits⟩
    have hcanonical' := hcanonical.mpr ⟨htype,digits,htext⟩
    have hstrlen := strlen_isText htext
    simp only [l850glUbusRpcSessionIsValid,hvalid,hname,htype,hcanonical',hstrlen,hlength,
      Bool.not_true,bne_self_eq_false,Bool.or_self,Bool.false_eq_true,if_false]
    rw [htext.1,← hlength,List.take_left]
    exact List.all_eq_true.mpr hdigits

/-- What the loop knows of the attributes that it has passed. -/
structure Tracks (b : Blobmsg) (policy : List BlobmsgPolicy) (passed : List Bytes)
    (slots : Slots) : Prop where
  session : slots.sessionSeen = true ↔ ∃ attr ∈ passed,b.name attr = rpcSessionName
  seen : ∀ i,slots.seen.getLsbD i = true ↔ ∃ field,policy[i]? = some field ∧
    ∃ attr ∈ passed,field.name = some (b.name attr)
  parsed : slots.parsed = policy.map (slotOf b passed)

theorem tracks_nil (b : Blobmsg) (policy : List BlobmsgPolicy) :
    Tracks b policy [] ⟨0,false,List.replicate policy.length none⟩ := by
  constructor
  · simp
  · simp
  · have hnone : slotOf b [] = fun _ => none := rfl
    rw [hnone,List.map_const']

theorem findIdx_name (hp : LawfulPolicy policy) {i : Nat} {field : BlobmsgPolicy} {name : CString}
    (hfield : policy[i]? = some field) (hname : field.name = some name) :
    policy.findIdx (fun field => field.name == some name) = i := by
  obtain ⟨hi,hget⟩ := List.getElem?_eq_some_iff.mp hfield
  rw [List.findIdx_eq hi]
  refine ⟨by simp [hget,hname],fun j hj => ?_⟩
  have hne : policy[j].name ≠ policy[i].name := by
    intro heq
    have hmap : (policy.map (·.name))[j]? = (policy.map (·.name))[i]? := by
      simp [List.getElem?_eq_getElem (Nat.lt_trans hj hi),List.getElem?_eq_getElem hi,heq]
    have hjlt : j < (policy.map (·.name)).length := by
      rw [List.length_map]
      omega
    have hji := (List.getElem?_inj hjlt hp.nodup).mp hmap
    omega
  rw [hget,hname] at hne
  simpa using hne

theorem slotOf_append (passed : List Bytes) (attr : Bytes) (field : BlobmsgPolicy) :
    slotOf b (passed++[attr]) field =
      (slotOf b passed field).or
        (if field.name == some (b.name attr) then some attr else none) := by
  rw [slotOf,List.find?_append,slotOf]
  congr 1
  by_cases h : (field.name == some (b.name attr)) = true
  · simp [h]
  · simp [h]

theorem slotOf_append_of_ne {field : BlobmsgPolicy} (h : field.name ≠ some (b.name attr)) :
    slotOf b (passed++[attr]) field = slotOf b passed field := by
  simp [slotOf_append,h]

theorem admitAttribute_session (hb : LawfulBlobmsg b) (hp : LawfulPolicy policy)
    (h : IsAttribute b attr) (ht : Tracks b policy passed slots)
    (hname : b.name attr = rpcSessionName) :
    match admitAttribute b policy slots attr with
    | none => ¬ (Fits b policy attr ∧ b.name attr ∉ passed.map b.name)
    | some slots' => (Fits b policy attr ∧ b.name attr ∉ passed.map b.name) ∧
        Tracks b policy (passed++[attr]) slots' := by
  have hvalid := rpcSessionIsValid_iff hb h hname
  have hseen : slots.sessionSeen = true ↔ b.name attr ∈ passed.map b.name := by
    rw [ht.session,List.mem_map,hname]
  have hfits : Fits b policy attr ↔ l850glUbusRpcSessionIsValid b attr = true := by
    rw [hvalid]
    constructor
    · rintro (⟨-,hsession⟩ | ⟨hne,-⟩)
      · exact hsession
      · exact absurd hname hne
    · intro hsession
      exact .inl ⟨hname,hsession⟩
  unfold admitAttribute
  rw [if_pos hname]
  by_cases hok : slots.sessionSeen || !l850glUbusRpcSessionIsValid b attr
  · rw [if_pos hok]
    dsimp only
    rw [hfits,← hseen]
    simp only [Bool.or_eq_true,Bool.not_eq_true'] at hok
    rintro ⟨hvalid,hnew⟩
    rcases hok with hok | hok
    · exact hnew hok
    · simp [hvalid] at hok
  · rw [if_neg hok]
    dsimp only
    simp only [Bool.or_eq_true,Bool.not_eq_true',not_or,Bool.not_eq_true,Bool.not_eq_false] at hok
    rw [hfits,← hseen]
    refine ⟨⟨hok.2,by simp [hok.1]⟩,?_,fun i => ?_,?_⟩
    · simp [hname]
    · rw [ht.seen]
      refine exists_congr fun field => and_congr_right fun hfield => ?_
      have hne : field.name ≠ some (b.name attr) := by
        intro heq
        rw [hname] at heq
        exact hp.session (heq ▸ List.mem_map_of_mem (List.mem_of_getElem? hfield))
      simp [hne]
    · rw [ht.parsed]
      refine List.map_congr_left fun field hfield => (slotOf_append_of_ne ?_).symm
      intro heq
      rw [hname] at heq
      exact hp.session (heq ▸ List.mem_map_of_mem hfield)

theorem and_twoPow_bne (seen : BitVec 64) {index : Nat} (h : index < 64) :
    (seen &&& BitVec.twoPow 64 index != 0) = seen.getLsbD index := by
  rw [BitVec.and_twoPow]
  cases hbit : seen.getLsbD index with
  | false => simp
  | true =>
    have hne : BitVec.twoPow 64 index ≠ 0 := by
      intro heq
      have hget := congrArg (BitVec.getLsbD · index) heq
      simp [h] at hget
    simpa using hne

/-- A field of the policy is admitted once, with its type. -/
theorem admitAttribute_field (hb : LawfulBlobmsg b) (hp : LawfulPolicy policy)
    (h : IsAttribute b attr) (ht : Tracks b policy passed slots)
    (hname : b.name attr ≠ rpcSessionName) :
    match admitAttribute b policy slots attr with
    | none => ¬ (Fits b policy attr ∧ b.name attr ∉ passed.map b.name)
    | some slots' => (Fits b policy attr ∧ b.name attr ∉ passed.map b.name) ∧
        Tracks b policy (passed++[attr]) slots' := by
  have hcanonical := blobStringIsCanonical_iff hb h
  unfold admitAttribute
  rw [if_neg hname]
  dsimp only
  cases hfield : policy[policy.findIdx fun field => field.name == some (b.name attr)]? with
  | none =>
    dsimp only
    rintro ⟨hfits,-⟩
    rcases hfits with ⟨heq,-⟩ | ⟨-,field,hmem,heq,-⟩
    · exact hname heq
    · have hlt := List.findIdx_lt_length_of_exists
        (p:=fun field : BlobmsgPolicy => field.name == some (b.name attr))
          ⟨field,hmem,by simp [heq]⟩
      rw [List.getElem?_eq_none_iff] at hfield
      omega
  | some field =>
    obtain ⟨hi,hget⟩ := List.getElem?_eq_some_iff.mp hfield
    have hnamed : field.name = some (b.name attr) := by
      have hfound := List.findIdx_getElem (w:=hi)
      rw [hget] at hfound
      simpa using hfound
    have hmem : field ∈ policy := List.mem_of_getElem? hfield
    -- the place of the field is that of no other one
    have hplace : ∀ i other,policy[i]? = some other → other.name = some (b.name attr) →
        i = policy.findIdx fun field => field.name == some (b.name attr) :=
      fun i other hother heq => (findIdx_name hp hother heq).symm
    generalize policy.findIdx (fun field => field.name == some (b.name attr)) = index
      at hfield hi hget hplace
    have hshort : index < 64 := by
      have hle := hp.short
      simp only [requestPolicyMax] at hle
      omega
    have hseen : slots.seen &&& BitVec.twoPow 64 index != 0 ↔ b.name attr ∈ passed.map b.name := by
      have hbit := ht.seen index
      rw [and_twoPow_bne _ hshort,hbit]
      simp only [hfield,Option.some.injEq,exists_eq_left',hnamed,List.mem_map]
      simp only [eq_comm]
    have hfits : Fits b policy attr ↔ b.type attr = field.type ∧
        (field.type = blobmsgTypeString → l850glUbusBlobStringIsCanonical b attr = true) := by
      constructor
      · rintro (⟨heq,-⟩ | ⟨-,other,hother,heq,htype,htext⟩)
        · exact absurd heq hname
        · obtain ⟨j,hj,hgetj⟩ := List.getElem_of_mem hother
          have hsame : other = field := by
            have hjindex := hplace j other (by rw [List.getElem?_eq_getElem hj,hgetj]) heq
            subst hjindex
            rw [← hget,← hgetj]
          subst hsame
          exact ⟨htype,fun hstring => hcanonical.mpr ⟨htype.trans hstring,htext hstring⟩⟩
      · rintro ⟨htype,htext⟩
        exact .inr ⟨hname,field,hmem,hnamed,htype,fun hstring => (hcanonical.mp (htext hstring)).2⟩
    dsimp only
    by_cases hrefused : slots.seen &&& BitVec.twoPow 64 index != 0 || b.type attr != field.type
    · rw [if_pos hrefused]
      dsimp only
      rw [hfits,← hseen]
      simp only [Bool.or_eq_true,bne_iff_ne] at hrefused
      rintro ⟨⟨htype,-⟩,hnew⟩
      rcases hrefused with hold | htype'
      · exact hnew (by simpa using hold)
      · exact htype' htype
    rw [if_neg hrefused]
    simp only [Bool.or_eq_true,not_or,bne_iff_ne,ne_eq,not_not] at hrefused
    by_cases htext : field.type == blobmsgTypeString && !l850glUbusBlobStringIsCanonical b attr
    · rw [if_pos htext]
      dsimp only
      rw [hfits]
      simp only [Bool.and_eq_true,beq_iff_eq,Bool.not_eq_true'] at htext
      rintro ⟨⟨-,hstring⟩,-⟩
      simp [hstring htext.1] at htext
    rw [if_neg htext]
    simp only [Bool.and_eq_true,beq_iff_eq,Bool.not_eq_true',not_and,Bool.not_eq_false] at htext
    have hnew : b.name attr ∉ passed.map b.name := by
      rw [← hseen]
      simpa using hrefused.1
    dsimp only
    refine ⟨⟨hfits.mpr ⟨hrefused.2,htext⟩,hnew⟩,?_,fun i => ?_,?_⟩
    · rw [ht.session]
      simp [hname]
    · rw [BitVec.getLsbD_or,Bool.or_eq_true,ht.seen,BitVec.getLsbD_twoPow]
      constructor
      · rintro (⟨other,hother,attr',hattr',heq⟩ | hbit)
        · exact ⟨other,hother,attr',by simp [hattr'],heq⟩
        · simp only [Bool.and_eq_true,decide_eq_true_eq] at hbit
          exact ⟨field,hbit.2 ▸ hfield,attr,by simp,hnamed⟩
      · rintro ⟨other,hother,attr',hattr',heq⟩
        rcases List.mem_append.mp hattr' with hattr' | hattr'
        · exact .inl ⟨other,hother,attr',hattr',heq⟩
        · rw [List.mem_singleton.mp hattr'] at heq
          right
          simp [hplace i other hother heq,hshort]
    · refine List.ext_getElem? fun i => ?_
      rw [List.getElem?_set,ht.parsed,List.length_map,List.getElem?_map,List.getElem?_map]
      by_cases hi' : index = i
      · subst hi'
        have hold : slotOf b passed field = none := by
          rw [slotOf,List.find?_eq_none]
          intro attr' hattr' heq
          have hsame : b.name attr = b.name attr' := by
            rw [beq_iff_eq,hnamed] at heq
            exact Option.some.inj heq
          exact hnew (hsame ▸ List.mem_map_of_mem hattr')
        have hnew' : slotOf b (passed++[attr]) field = some attr := by
          simp [slotOf_append,hold,hnamed]
        rw [if_pos rfl,if_pos hi,hfield,Option.map_some,hnew',h.2,List.take_length]
      · rw [if_neg hi']
        cases hother : policy[i]? with
        | none => rfl
        | some other =>
          have hne : other.name ≠ some (b.name attr) := fun heq =>
            hi' (hplace i other hother heq).symm
          simp [slotOf_append_of_ne hne]

theorem admitAttribute_step (hb : LawfulBlobmsg b) (hp : LawfulPolicy policy)
    (h : IsAttribute b attr) (ht : Tracks b policy passed slots) :
    match admitAttribute b policy slots attr with
    | none => ¬ (Fits b policy attr ∧ b.name attr ∉ passed.map b.name)
    | some slots' => (Fits b policy attr ∧ b.name attr ∉ passed.map b.name) ∧
        Tracks b policy (passed++[attr]) slots' := by
  by_cases hname : b.name attr = rpcSessionName
  · exact admitAttribute_session hb hp h ht hname
  · exact admitAttribute_field hb hp h ht hname

/-- The attributes are admitted one after the other exactly when each fits and none is repeated. -/
theorem admitAttributes (hb : LawfulBlobmsg b) (hp : LawfulPolicy policy)
    (hattrs : ∀ attr ∈ attrs,IsAttribute b attr) (ht : Tracks b policy passed slots)
    (honce : (passed.map b.name).Nodup) :
    match attrs.foldlM (admitAttribute b policy) slots with
    | none => ¬ ((∀ attr ∈ attrs,Fits b policy attr) ∧ ((passed++attrs).map b.name).Nodup)
    | some slots' => ((∀ attr ∈ attrs,Fits b policy attr) ∧
        ((passed++attrs).map b.name).Nodup) ∧ Tracks b policy (passed++attrs) slots' := by
  induction attrs generalizing passed slots with
  | nil =>
    rw [List.append_nil]
    exact ⟨⟨by simp,honce⟩,ht⟩
  | cons attr attrs ih =>
    have hstep := admitAttribute_step hb hp (hattrs attr List.mem_cons_self) ht
    have hsplit : passed++attr::attrs = (passed++[attr])++attrs := by simp
    rw [List.foldlM_cons]
    cases hone : admitAttribute b policy slots attr with
    | none =>
      rw [hone] at hstep
      dsimp only at hstep
      rintro ⟨hfits,hnodup⟩
      refine hstep ⟨hfits attr List.mem_cons_self,fun hmem => ?_⟩
      rw [List.map_append,List.map_cons] at hnodup
      exact (List.nodup_append.mp hnodup).2.2 _ hmem _ List.mem_cons_self rfl
    | some slots' =>
      rw [hone] at hstep
      obtain ⟨⟨hfit,hnew⟩,ht'⟩ := hstep
      have honce' : ((passed++[attr]).map b.name).Nodup := by
        rw [List.map_append,List.nodup_append]
        refine ⟨honce,by simp,?_⟩
        rintro x hx y hy rfl
        simp only [List.map_cons,List.map_nil,List.mem_singleton] at hy
        exact hnew (hy ▸ hx)
      have hrest := ih (fun a ha => hattrs a (List.mem_cons_of_mem _ ha)) ht' honce'
      rw [hsplit]
      simp only [List.mem_cons,forall_eq_or_imp,hfit,true_and]
      exact hrest

structure Inside (message : Bytes) (walk : Walk) : Prop where
  rest : walk.offset+walk.remaining = message.length
  visited : ∀ place ∈ walk.visited,place.1+place.2 = message.length ∧ 0 < place.2

variable {message : Bytes} {walk walk' : Walk} {fuel : Nat} {ok : Bool}

theorem Inside.view (h : Inside message walk) :
    (message.drop walk.offset).take walk.remaining = message.drop walk.offset := by
  refine List.take_of_length_le ?_
  have hrest := h.rest
  rw [List.length_drop]
  omega

theorem Inside.visit (h : Inside message walk) (hpos : walk.remaining ≠ 0) :
    Inside message {walk with visited := walk.visited++[(walk.offset,walk.remaining)]} := by
  refine ⟨h.rest,fun place hplace => ?_⟩
  rcases List.mem_append.mp hplace with hplace | hplace
  · exact h.visited place hplace
  · rw [List.mem_singleton.mp hplace]
    exact ⟨h.rest,Nat.pos_of_ne_zero hpos⟩

theorem Inside.next (h : Inside message walk) {padded : Nat} (hle : ¬ walk.remaining < padded)
    (slots : Slots) : Inside message {walk with
      remaining := walk.remaining-padded
      offset := walk.offset+padded
      slots := slots} := by
  refine ⟨?_,h.visited⟩
  have hrest := h.rest
  dsimp only
  omega

/-- The loop never steps beyond the message. -/
theorem parseLoop_inside (h : Inside message walk)
    (hrun : parseLoop b message policy required fuel walk = some (ok,walk')) :
    Inside message walk' := by
  induction fuel generalizing walk with
  | zero => cases hrun
  | succ fuel ih =>
    unfold parseLoop at hrun
    split at hrun
    · cases hrun
      exact h
    rename_i hpos
    dsimp only at hrun
    split at hrun
    · cases hrun
      exact h.visit hpos
    split at hrun
    · cases hrun
      exact h.visit hpos
    split at hrun
    · cases hrun
      exact h.visit hpos
    · rename_i slots _ hle
      exact ih ((h.visit hpos).next hle slots) hrun

/-- Each step takes at least the header of an attribute, so that the loop ends. -/
theorem parseLoop_ends (hb : LawfulBlobmsg b) (message : Bytes) (policy : List BlobmsgPolicy)
    (required : BitVec 64) (walk : Walk) (hfuel : walk.remaining < fuel) :
    ∃ result,parseLoop b message policy required fuel walk = some result := by
  induction fuel generalizing walk with
  | zero => omega
  | succ fuel ih =>
    unfold parseLoop
    split
    · exact ⟨_,rfl⟩
    dsimp only
    split
    · exact ⟨_,rfl⟩
    rename_i hpos hvalid
    split
    · exact ⟨_,rfl⟩
    split
    · exact ⟨_,rfl⟩
    · refine ih _ ?_
      simp only [Bool.not_eq_true',Bool.not_eq_false,l850glUbusBlobAttrIsValid] at hvalid
      split at hvalid
      · cases hvalid
      have hheader := hb.header _ hvalid
      simp only [sizeofBlobAttr] at hheader
      dsimp only
      omega

theorem parseLoop_mono {result : Bool × Walk}
    (hrun : parseLoop b message policy required fuel walk = some result) :
    parseLoop b message policy required (fuel+1) walk = some result := by
  induction fuel generalizing walk with
  | zero => cases hrun
  | succ fuel ih =>
    unfold parseLoop at hrun ⊢
    split at hrun
    · rename_i hzero
      rw [if_pos hzero]
      exact hrun
    rename_i hpos
    rw [if_neg hpos]
    dsimp only at hrun ⊢
    split at hrun
    · rename_i hvalid
      rw [if_pos hvalid]
      exact hrun
    rename_i hvalid
    rw [if_neg hvalid]
    split at hrun
    · exact hrun
    split at hrun
    · rename_i hlong
      rw [if_pos hlong]
      exact hrun
    · rename_i hlong
      rw [if_neg hlong]
      exact ih hrun

/-- A message that is parsed is a sequence of attributes. -/
theorem parseLoop_sound (hb : LawfulBlobmsg b) (h : Inside message walk)
    (hrun : parseLoop b message policy required fuel walk = some (true,walk')) :
    ∃ attrs : List Bytes,message.drop walk.offset = attrs.flatten ∧
      ∀ attr ∈ attrs,IsAttribute b attr := by
  induction fuel generalizing walk with
  | zero => cases hrun
  | succ fuel ih =>
    unfold parseLoop at hrun
    split at hrun
    · rename_i hzero
      refine ⟨[],?_,by simp⟩
      have hrest := h.rest
      exact List.drop_of_length_le (by omega)
    rename_i hpos
    dsimp only at hrun
    rw [h.view] at hrun
    split at hrun
    · cases hrun
    rename_i hvalid
    split at hrun
    · cases hrun
    split at hrun
    · cases hrun
    rename_i slots _ hle
    simp only [Bool.not_eq_true',Bool.not_eq_false,l850glUbusBlobAttrIsValid] at hvalid
    split at hvalid
    · cases hvalid
    have hlength : b.padLen (message.drop walk.offset) ≤ (message.drop walk.offset).length := by
      have hrest := h.rest
      rw [List.length_drop]
      omega
    obtain ⟨attrs,hflatten,hattrs⟩ := ih ((h.visit hpos).next hle slots) hrun
    refine ⟨(message.drop walk.offset).take (b.padLen (message.drop walk.offset))::attrs,?_,?_⟩
    · rw [List.flatten_cons,← hflatten,← List.drop_drop,List.take_append_drop]
    · intro attr hattr
      rcases List.mem_cons.mp hattr with rfl | hattr
      · exact hb.cut _ hvalid hlength
      · exact hattrs attr hattr

theorem parseLoop_flatten (policy : List BlobmsgPolicy) (required : BitVec 64)
    (hb : LawfulBlobmsg b) (hattrs : ∀ attr ∈ attrs,IsAttribute b attr)
    (h : Inside message walk) (hmessage : message.drop walk.offset = attrs.flatten)
    (hfuel : walk.remaining < fuel) :
    ∃ walk',(∀ slots,attrs.foldlM (admitAttribute b policy) walk.slots = some slots →
        walk'.slots = slots) ∧
      parseLoop b message policy required fuel walk =
        some (((attrs.foldlM (admitAttribute b policy) walk.slots).any fun slots =>
          slots.seen &&& required == required),walk') := by
  induction attrs generalizing walk fuel with
  | nil =>
    cases fuel with
    | zero => omega
    | succ fuel =>
      have hzero : walk.remaining = 0 := by
        have hrest := h.rest
        have hlength := congrArg List.length hmessage
        simp only [List.length_drop,List.flatten_nil,List.length_nil] at hlength
        omega
      refine ⟨walk,fun slots hslots => Option.some.inj hslots,?_⟩
      rw [parseLoop,if_pos hzero]
      rfl
  | cons attr attrs ih =>
    cases fuel with
    | zero => omega
    | succ fuel =>
      have hattr := hattrs attr List.mem_cons_self
      have hheader := hattr.length hb
      simp only [sizeofBlobAttr] at hheader
      have hrest := h.rest
      have hlength : attr.length ≤ walk.remaining := by
        have hlength := congrArg List.length hmessage
        simp only [List.length_drop,List.flatten_cons,List.length_append] at hlength
        omega
      have hpos : walk.remaining ≠ 0 := by omega
      have hvalid := blobAttrIsValid_append hb hattr attrs.flatten
      have hone := admitAttribute_append policy walk.slots hb hattr attrs.flatten
      have hpad := (hb.extend attr attrs.flatten hattr).2.1
      have hle : ¬ walk.remaining < attr.length := by omega
      rw [parseLoop,if_neg hpos]
      dsimp only
      rw [h.view,hmessage,List.flatten_cons,hvalid,hone,hpad,List.foldlM_cons]
      cases hslots : admitAttribute b policy walk.slots attr with
      | none => exact ⟨_,by simp,rfl⟩
      | some slots =>
        have hnext := (h.visit hpos).next hle slots
        have hdrop : message.drop (walk.offset+attr.length) = attrs.flatten := by
          rw [← List.drop_drop,hmessage,List.flatten_cons,List.drop_left]
        have hfuel' : walk.remaining-attr.length < fuel := by omega
        obtain ⟨walk',hslots',hrun⟩ := ih (fun a ha => hattrs a (List.mem_cons_of_mem _ ha)) hnext
          hdrop hfuel'
        refine ⟨walk',hslots',?_⟩
        simp only [Bool.not_true,Bool.false_eq_true,if_false,hle]
        exact hrun

theorem and_eq_right_iff {seen required : BitVec 64} :
    (seen &&& required == required) = true ↔
      ∀ i,required.getLsbD i = true → seen.getLsbD i = true := by
  rw [beq_iff_eq]
  constructor
  · intro h i hi
    rw [← h,BitVec.getLsbD_and,Bool.and_eq_true] at hi
    exact hi.1
  · intro h
    refine BitVec.eq_of_getLsbD_eq fun i _ => ?_
    rw [BitVec.getLsbD_and]
    cases hi : required.getLsbD i with
    | false => simp
    | true => simp [h i hi]

theorem slotOf_eq_some_iff (honce : (attrs.map b.name).Nodup) {field : BlobmsgPolicy} :
    slotOf b attrs field = some attr ↔ attr ∈ attrs ∧ field.name = some (b.name attr) := by
  constructor
  · intro h
    exact ⟨List.mem_of_find?_eq_some h,by simpa using List.find?_some h⟩
  · rintro ⟨hmem,hname⟩
    cases hfound : slotOf b attrs field with
    | none =>
      have hnone := List.find?_eq_none.mp hfound attr hmem
      simp [hname] at hnone
    | some other =>
      have hother : field.name = some (b.name other) := by simpa using List.find?_some hfound
      have hsame : b.name other = b.name attr := Option.some.inj (hother.symm.trans hname)
      rw [List.inj_on_of_nodup_map honce (List.mem_of_find?_eq_some hfound) hmem hsame]

theorem slotOf_perm {attrs' : List Bytes} (honce : (attrs.map b.name).Nodup)
    (h : attrs.Perm attrs') : slotOf b attrs' = slotOf b attrs := by
  funext field
  refine Option.ext fun attr => ?_
  rw [slotOf_eq_some_iff honce,slotOf_eq_some_iff ((h.map b.name).nodup_iff.mp honce),h.mem_iff]

theorem Admissible.perm {attrs' : List Bytes} (h : Admissible b policy required attrs)
    (hperm : attrs.Perm attrs') : Admissible b policy required attrs' := by
  constructor
  · intro attr hattr
    exact h.wellFormed attr (hperm.mem_iff.mpr hattr)
  · intro attr hattr
    exact h.fits attr (hperm.mem_iff.mpr hattr)
  · exact (hperm.map b.name).nodup_iff.mp h.once
  · intro i hi
    obtain ⟨field,hfield,attr,hattr,hname⟩ := h.required i hi
    exact ⟨field,hfield,attr,hperm.mem_iff.mp hattr,hname⟩

theorem LawfulPolicy.length (hp : LawfulPolicy policy) :
    ¬ (policy.length = 0 ∨ requestPolicyMax < policy.length) := by
  have hpos := List.length_pos_iff.mpr hp.nonempty
  have hshort := hp.short
  omega

/-- Over a sequence of attributes the parser accepts exactly the admissible ones. -/
theorem l850glUbusParseExact_flatten (hb : LawfulBlobmsg b) (hp : LawfulPolicy policy)
    (required : BitVec 64) (hattrs : ∀ attr ∈ attrs,IsAttribute b attr)
    (hfuel : attrs.flatten.length < fuel) :
    ∃ ok walk,l850glUbusParseExact b attrs.flatten policy required fuel = some (ok,walk) ∧
      (ok = true ↔ Admissible b policy required attrs) ∧
      (ok = true → walk.slots.parsed = policy.map (slotOf b attrs)) := by
  have hinside : Inside attrs.flatten
      ⟨0,attrs.flatten.length,⟨0,false,List.replicate policy.length none⟩,[]⟩ :=
    ⟨Nat.zero_add _,by simp⟩
  obtain ⟨walk,hslots,hrun⟩ := parseLoop_flatten policy required hb hattrs hinside
    (List.drop_zero) hfuel
  have hfold := admitAttributes hb hp hattrs (tracks_nil b policy) (by simp)
  have hparse : l850glUbusParseExact b attrs.flatten policy required fuel = some
      ((attrs.foldlM (admitAttribute b policy) ⟨0,false,List.replicate policy.length none⟩).any
        fun slots => slots.seen &&& required == required,walk) := by
    rw [l850glUbusParseExact,if_neg hp.length]
    exact hrun
  refine ⟨_,walk,hparse,?_⟩
  dsimp only at hslots
  cases hadmitted : attrs.foldlM (admitAttribute b policy)
      ⟨0,false,List.replicate policy.length none⟩ with
  | none =>
    rw [hadmitted] at hfold
    simp only [Option.any_none,Bool.false_eq_true,false_iff,false_imp_iff,and_true]
    intro hadmissible
    exact hfold ⟨hadmissible.fits,hadmissible.once⟩
  | some slots =>
    rw [hadmitted] at hfold
    obtain ⟨⟨hfits,honce⟩,htracks⟩ := hfold
    rw [Option.any_some,and_eq_right_iff]
    refine ⟨⟨fun hrequired => ?_,fun hadmissible i hi => ?_⟩,fun _ => ?_⟩
    · exact ⟨hattrs,hfits,honce,fun i hi => (htracks.seen i).mp (hrequired i hi)⟩
    · exact (htracks.seen i).mpr (hadmissible.required i hi)
    · rw [hslots slots hadmitted]
      exact htracks.parsed

theorem l850glUbusParseExact_mono (hp : LawfulPolicy policy) {result : Bool × Walk}
    (hrun : l850glUbusParseExact b message policy required fuel = some result) {more : Nat}
    (hmore : fuel ≤ more) : l850glUbusParseExact b message policy required more = some result := by
  rw [l850glUbusParseExact,if_neg hp.length] at hrun ⊢
  induction hmore with
  | refl => exact hrun
  | step _ ih => exact parseLoop_mono ih

/-- The parser always ends within the message, accepts exactly the sequences of admissible
attributes, gives each field its attribute, and depends on no order. -/
theorem l850glUbusParseExact_exact (b : Blobmsg) (hb : LawfulBlobmsg b)
    (policy : List BlobmsgPolicy) (hp : LawfulPolicy policy) (required : BitVec 64)
    (message : Bytes) :
    ∃ ok walk,(∀ fuel,message.length < fuel →
        l850glUbusParseExact b message policy required fuel = some (ok,walk)) ∧
      (ok = true ↔ ∃ attrs : List Bytes,message = attrs.flatten ∧
        Admissible b policy required attrs) ∧
      (∀ attrs : List Bytes,message = attrs.flatten → (∀ attr ∈ attrs,IsAttribute b attr) →
        (ok = true → walk.slots.parsed = policy.map (slotOf b attrs)) ∧
        ∀ attrs',attrs.Perm attrs' → ∀ fuel,message.length < fuel →
          ∃ walk',l850glUbusParseExact b attrs'.flatten policy required fuel = some (ok,walk') ∧
            (ok = true → walk'.slots.parsed = walk.slots.parsed)) ∧
      ∀ place ∈ walk.visited,place.1+place.2 = message.length ∧ 0 < place.2 := by
  have hinside : Inside message
      ⟨0,message.length,⟨0,false,List.replicate policy.length none⟩,[]⟩ :=
    ⟨Nat.zero_add _,by simp⟩
  obtain ⟨⟨ok,walk⟩,hloop⟩ := parseLoop_ends hb message policy required
    ⟨0,message.length,⟨0,false,List.replicate policy.length none⟩,[]⟩ (Nat.lt_succ_self _)
  have hrun : l850glUbusParseExact b message policy required (message.length+1) =
      some (ok,walk) := by
    rw [l850glUbusParseExact,if_neg hp.length]
    exact hloop
  have hall : ∀ fuel,message.length < fuel →
      l850glUbusParseExact b message policy required fuel = some (ok,walk) :=
    fun fuel hfuel => l850glUbusParseExact_mono hp hrun hfuel
  -- what a reading of the message as attributes says of the result
  have hread : ∀ attrs : List Bytes,message = attrs.flatten →
      (∀ attr ∈ attrs,IsAttribute b attr) → (ok = true ↔ Admissible b policy required attrs) ∧
        (ok = true → walk.slots.parsed = policy.map (slotOf b attrs)) := by
    rintro attrs rfl hattrs
    obtain ⟨ok',walk',hrun',hok,hparsed⟩ :=
      l850glUbusParseExact_flatten hb hp required hattrs (Nat.lt_succ_self _)
    obtain ⟨rfl,rfl⟩ := Prod.mk.inj (Option.some.inj (hrun.symm.trans hrun'))
    exact ⟨hok,hparsed⟩
  refine ⟨ok,walk,hall,⟨?_,?_⟩,?_,(parseLoop_inside hinside hloop).visited⟩
  · rintro rfl
    obtain ⟨attrs,hflatten,hattrs⟩ := parseLoop_sound hb hinside hloop
    rw [List.drop_zero] at hflatten
    exact ⟨attrs,hflatten,(hread attrs hflatten hattrs).1.mp rfl⟩
  · rintro ⟨attrs,hflatten,hadmissible⟩
    exact (hread attrs hflatten hadmissible.wellFormed).1.mpr hadmissible
  · intro attrs hflatten hattrs
    obtain ⟨hok,hparsed⟩ := hread attrs hflatten hattrs
    refine ⟨hparsed,fun attrs' hperm fuel hfuel => ?_⟩
    have hattrs' : ∀ attr ∈ attrs',IsAttribute b attr :=
      fun attr hattr => hattrs attr (hperm.mem_iff.mpr hattr)
    have hfuel' : attrs'.flatten.length < fuel := by
      rw [← hperm.flatten.length_eq,← hflatten]
      exact hfuel
    obtain ⟨ok',walk',hrun',hok',hparsed'⟩ :=
      l850glUbusParseExact_flatten hb hp required hattrs' hfuel'
    have hsame : ok' = ok := by
      rw [Bool.eq_iff_iff,hok,hok']
      exact ⟨fun h => h.perm hperm.symm,fun h => h.perm hperm⟩
    subst hsame
    refine ⟨walk',hrun',fun htrue => ?_⟩
    rw [hparsed' htrue,hparsed htrue,slotOf_perm (hok.mp htrue).once hperm]

end UbusRequest
end L850GL
