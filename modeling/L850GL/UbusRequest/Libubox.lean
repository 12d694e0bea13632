import L850GL.UbusRequest.Exact

/-! The wire format of libubox: a big-endian word of type and length, a big-endian length of the
name, the name with its NUL, and the data, with both parts padded to four bytes. -/
namespace L850GL
namespace UbusRequest
namespace Libubox

def blobmsgTypeLast : Nat := 8

def bigEndian (bytes : Bytes) : Nat := bytes.foldl (fun value byte => value*256+byte.toNat) 0

def padding (length : Nat) : Nat := (length+3)/4*4

def idLen (bytes : Bytes) : Nat := bigEndian (bytes.take sizeofBlobAttr)

def blobRawLen (bytes : Bytes) : Nat := idLen bytes % 2^24

def blobId (bytes : Bytes) : Nat := idLen bytes / 2^24 % 2^7

/-- The attribute itself, without padding. -/
def view (bytes : Bytes) : Bytes := bytes.take (blobRawLen bytes)

def namelen (attr : Bytes) : Nat := bigEndian ((attr.drop sizeofBlobAttr).take 2)

def hdrlen (attr : Bytes) : Nat := padding (2+namelen attr+1)

def blobmsgName (attr : Bytes) : Bytes := (attr.drop (sizeofBlobAttr+2)).take (namelen attr)

def blobmsgData (attr : Bytes) : Bytes := attr.drop (sizeofBlobAttr+hdrlen attr)

def blobCheckType (id : Nat) (data : Bytes) : Bool :=
  match id with
  | 3 => data.getLast? == some 0
  | 4 | 8 => data.length == 8
  | 5 => data.length == 4
  | 6 => data.length == 2
  | 7 => data.length == 1
  | _ => true

def checkView (id : Nat) (attr : Bytes) : Bool :=
  sizeofBlobAttr+hdrlen attr ≤ attr.length && namelen attr != 0 &&
    attr[sizeofBlobAttr+2+namelen attr]? == some 0 && id ≤ blobmsgTypeLast &&
    blobCheckType id (blobmsgData attr)

/-- The functions of libubox over this format. -/
def libubox : Blobmsg where
  checkAttrLen bytes :=
    sizeofBlobAttr ≤ blobRawLen bytes && blobRawLen bytes ≤ bytes.length &&
      checkView (blobId bytes) (view bytes)
  name bytes := ((blobmsgName (view bytes)).takeWhile (· != 0)).map fun c => Char.ofNat c.toNat
  type bytes := blobId bytes
  data bytes := blobmsgData (view bytes)
  padLen bytes := padding (blobRawLen bytes)

theorem le_padding (length : Nat) : length ≤ padding length := by
  unfold padding
  omega

/-- The first word decides on the length. -/
theorem idLen_append {bytes : Bytes} (h : sizeofBlobAttr ≤ bytes.length) (rest : Bytes) :
    idLen (bytes++rest) = idLen bytes := by
  rw [idLen,List.take_append_of_le_length h,idLen]

theorem idLen_take (bytes : Bytes) {n : Nat} (h : sizeofBlobAttr ≤ n) :
    idLen (bytes.take n) = idLen bytes := by
  rw [idLen,List.take_take,Nat.min_eq_left h,idLen]

theorem view_append {bytes : Bytes} (h : sizeofBlobAttr ≤ bytes.length)
    (hlength : blobRawLen bytes ≤ bytes.length) (rest : Bytes) :
    view (bytes++rest) = view bytes := by
  have hraw : blobRawLen (bytes++rest) = blobRawLen bytes := by
    rw [blobRawLen,idLen_append h,blobRawLen]
  rw [view,hraw,List.take_append_of_le_length hlength,view]

theorem view_take {bytes : Bytes} {n : Nat} (h : sizeofBlobAttr ≤ n)
    (hlength : blobRawLen bytes ≤ n) : view (bytes.take n) = view bytes := by
  have hraw : blobRawLen (bytes.take n) = blobRawLen bytes := by
    rw [blobRawLen,idLen_take bytes h,blobRawLen]
  rw [view,hraw,List.take_take,Nat.min_eq_left hlength,view]

theorem checkAttrLen_iff {bytes : Bytes} : libubox.checkAttrLen bytes = true ↔
    sizeofBlobAttr ≤ blobRawLen bytes ∧ blobRawLen bytes ≤ bytes.length ∧
      checkView (blobId bytes) (view bytes) = true := by
  simp only [libubox,Bool.and_eq_true,decide_eq_true_eq,and_assoc]

theorem libubox_lawful : LawfulBlobmsg libubox := by
  constructor
  · intro bytes h
    obtain ⟨hheader,-⟩ := checkAttrLen_iff.mp h
    exact hheader.trans (le_padding _)
  · intro bytes h hpad
    obtain ⟨hheader,hlength,hview⟩ := checkAttrLen_iff.mp h
    have hpadded : libubox.padLen bytes = padding (blobRawLen bytes) := rfl
    have hraw := le_padding (blobRawLen bytes)
    rw [hpadded] at hpad ⊢
    have hword := hheader.trans hraw
    have hid := idLen_take bytes hword
    constructor
    · rw [checkAttrLen_iff,view_take hword hraw,blobRawLen,blobId,hid,List.length_take]
      exact ⟨hheader,Nat.le_min.mpr ⟨hraw,hlength⟩,hview⟩
    · have hsame : blobRawLen (bytes.take (padding (blobRawLen bytes))) = blobRawLen bytes := by
        rw [blobRawLen,hid,blobRawLen]
      have hpadded' : libubox.padLen (bytes.take (padding (blobRawLen bytes))) =
          padding (blobRawLen (bytes.take (padding (blobRawLen bytes)))) := rfl
      rw [hpadded',hsame,List.length_take,Nat.min_eq_left hpad]
  · rintro attr rest ⟨h,hpad⟩
    obtain ⟨hheader,hlength,hview⟩ := checkAttrLen_iff.mp h
    have hword := hheader.trans hlength
    have hid := idLen_append hword rest
    have hsame := view_append hword hlength rest
    refine ⟨?_,?_,?_,?_,?_⟩
    · rw [checkAttrLen_iff,hsame,blobRawLen,blobId,hid,List.length_append]
      exact ⟨hheader,hlength.trans (Nat.le_add_right _ _),hview⟩
    · rw [← hpad]
      simp only [libubox,blobRawLen,hid]
    · simp only [libubox,hsame]
    · simp only [libubox,blobId,hid]
    · simp only [libubox,hsame]

def modemPolicy : List BlobmsgPolicy :=
  [⟨some "modem_id".toList,blobmsgTypeString⟩,⟨some "limit".toList,5⟩]

/-- `modem_id` with the text `wwan`. -/
def modemAttr : Bytes :=
  [0x83,0,0,0x15,0,8,0x6d,0x6f,0x64,0x65,0x6d,0x5f,0x69,0x64,0,0,0x77,0x77,0x61,0x6e,0,0,0,0]

/-- `limit` with the number 50. -/
def limitAttr : Bytes := [0x85,0,0,0x10,0,5,0x6c,0x69,0x6d,0x69,0x74,0,0,0,0,50]

/-- `ubus_rpc_session` with 32 zeros. -/
def sessionAttr : Bytes :=
  [0x83,0,0,0x39,0,16,0x75,0x62,0x75,0x73,0x5f,0x72,0x70,0x63,0x5f,0x73,0x65,0x73,0x73,0x69,0x6f,
    0x6e,0,0]++List.replicate 32 0x30++[0,0,0,0]

theorem modemPolicy_lawful : LawfulPolicy modemPolicy := by
  constructor
  · decide
  · decide
  · decide
  · decide
  · decide

/-- A session and two fields, in two orders. -/
theorem l850glUbusParseExact_exact_modem : ∃ walk walk',
    l850glUbusParseExact libubox [modemAttr,limitAttr,sessionAttr].flatten modemPolicy 1 101 =
      some (true,walk) ∧
    l850glUbusParseExact libubox [sessionAttr,limitAttr,modemAttr].flatten modemPolicy 1 101 =
      some (true,walk') ∧
    walk.slots.parsed = [some modemAttr,some limitAttr] ∧
    walk'.slots.parsed = walk.slots.parsed := by
  obtain ⟨ok,walk,hrun,-,hattrs,-⟩ := l850glUbusParseExact_exact libubox libubox_lawful modemPolicy
    modemPolicy_lawful 1 [modemAttr,limitAttr,sessionAttr].flatten
  have htrue : (l850glUbusParseExact libubox [modemAttr,limitAttr,sessionAttr].flatten modemPolicy 1
      101).map Prod.fst = some true := by decide +kernel
  rw [hrun 101 (by decide)] at htrue
  obtain rfl : ok = true := Option.some.inj htrue
  have hformed : ∀ attr ∈ [modemAttr,limitAttr,sessionAttr],IsAttribute libubox attr := by
    unfold IsAttribute
    decide +kernel
  obtain ⟨hparsed,horder⟩ := hattrs _ rfl hformed
  obtain ⟨walk',hrun',hsame⟩ := horder [sessionAttr,limitAttr,modemAttr] (by decide) 101 (by decide)
  exact ⟨walk,walk',hrun 101 (by decide),hrun',(hparsed rfl).trans (by decide +kernel),hsame rfl⟩

end Libubox
end UbusRequest
end L850GL
