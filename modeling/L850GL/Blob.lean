import L850GL.Text

/-! Values of a ubus reply, as `blobmsg` writes them. -/
namespace L850GL

/-- `unspec` is a field without a value. -/
inductive Blob
  | unspec
  | u8 (value : Bool)
  | u32 (value : Nat)
  | u64 (value : Nat)
  | double (value : Rat)
  | string (value : CString)
  | table (fields : List (String × Blob))
  | array (items : List Blob)

abbrev Reply := List (String × Blob)

namespace Blob

def text (value : String) : Blob := .string value.toList

/-- No table in the blob names a field twice. -/
inductive Distinct : Blob → Prop
  | unspec : Distinct .unspec
  | u8 (value : Bool) : Distinct (.u8 value)
  | u32 (value : Nat) : Distinct (.u32 value)
  | u64 (value : Nat) : Distinct (.u64 value)
  | double (value : Rat) : Distinct (.double value)
  | string (value : CString) : Distinct (.string value)
  | table {fields : Reply} (names : (fields.map Prod.fst).Nodup)
      (values : ∀ field ∈ fields,Distinct field.2) : Distinct (.table fields)
  | array {items : List Blob} (h : ∀ item ∈ items,Distinct item) : Distinct (.array items)

attribute [simp] Distinct.unspec Distinct.u8 Distinct.u32 Distinct.u64 Distinct.double
  Distinct.string

@[simp] theorem distinct_text (value : String) : Distinct (.text value) := .string value.toList

theorem distinct_table {fields : Reply} : Distinct (.table fields) ↔
    (fields.map Prod.fst).Nodup ∧ ∀ field ∈ fields,Distinct field.2 := by
  constructor
  · rintro ⟨⟩
    exact ⟨by assumption,by assumption⟩
  · exact fun h => .table h.1 h.2

@[simp] theorem distinct_array_map {α : Type} {items : List α} {f : α → Blob} :
    Distinct (.array (items.map f)) ↔ ∀ item ∈ items,Distinct (f item) := by
  constructor
  · rintro ⟨⟩ item hitem
    rename_i h
    exact h _ (List.mem_map_of_mem hitem)
  · exact fun h => .array (List.forall_mem_map.mpr h)

end Blob

def l850glMmApiSchema : Nat := 4

/-- Opens a reply; `generatedAt` is the wall clock read by `time`. -/
def addCommon (generatedAt : Nat) (ok : Bool) : Reply :=
  [("schema",.u32 l850glMmApiSchema),("generated_at",.u64 generatedAt),("ok",.u8 ok)]

/-- The error table every failure reply carries. -/
def errorTable (code message : String) (retryable : Bool) : String × Blob :=
  ("error",.table [("code",.text code),("message",.text message),("retryable",.u8 retryable)])

@[simp] theorem errorTable_name (code message : String) (retryable : Bool) :
    (errorTable code message retryable).1 = "error" := rfl

@[simp] theorem errorTable_distinct (code message : String) (retryable : Bool) :
    (errorTable code message retryable).2.Distinct := by
  simp [errorTable,Blob.distinct_table]

end L850GL
