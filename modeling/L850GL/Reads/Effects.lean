import L850GL.Reads.System

/-! What one event does to the reads: a request starts one or is refused, and a callback ends its
operation or goes on to the vendor command of a scan. -/
namespace L850GL
namespace Reads

open Cell CellInfo Ca Errors Mutation World

/-- The kind of operation that a callback belongs to. -/
def ReadCallback.kind : ReadCallback → ReadKind
  | .statusReady => .status
  | .scanReady | .vendorScanReady => .scan
  | .carrierReady => .carrier

variable {w w' : World} {ref other : OperationRef} {op : ReadOperation} {kind : ReadKind}
  {body : Reply} {source : Nat} {mutations : List CString}

/-- What is left of a block when its operation is freed. -/
def Slot.freed (slot : Slot) (op : ReadOperation) : Slot :=
  {slot with
    memory := none
    timer := slot.timer && !op.timeoutSource
    handler := slot.handler && !op.parentCancelHandler}

/-- The reply of an operation, on the connection that is up when it ends. -/
def answers (w : World) (ref : OperationRef) (op : ReadOperation) (body : Reply) :
    List Observation :=
  if op.deferred && w.ubus.connected && w.ubus.contextInitialized && !w.ubus.stopping then
    [.answered ref w.ubus.connection body]
  else []

/-- An operation that ends with a reply. -/
structure Ends (kind : ReadKind) (w w' : World) (ref : OperationRef) (op : ReadOperation)
    (body : Reply) : Prop where
  slots : w'.slots = Function.update w.slots ref ((w.slots ref).freed op)
  next : w'.next = w.next
  operations : w'.operations =
    Function.update w.operations kind ((w.operations kind).filter (· != ref))
  ubus : w'.ubus = w.ubus
  bridge : w'.bridge = w.bridge
  lastScan : w'.records.lastScanCompletedAt =
    (stampCompletion kind w.bridge.now op.modem w.records).lastScanCompletedAt
  lastQuery : w'.records.lastCarrierQueryCompletedAt =
    (stampCompletion kind w.bridge.now op.modem w.records).lastCarrierQueryCompletedAt
  trace : w'.trace = .released ref::(answers w ref op body++
    .completed ref kind op.modem w.bridge.now body::w.trace)

theorem updateSlot_memory (live : World) (ref : OperationRef) (op : ReadOperation) :
    ((live.updateSlot ref fun slot => {slot with memory := some op}).slots ref).memory =
      some op := by
  rw [updateSlot_self]

theorem readOperationFree_some {live : World} (hmemory : (live.slots ref).memory = some op) :
    readOperationFree kind live ref = {live with
      slots := Function.update live.slots ref ((live.slots ref).freed op)
      operations := Function.update live.operations kind
        ((live.operations kind).filter (· != ref))
      trace := .released ref::live.trace} := by
  rw [readOperationFree,withOperation_some _ _ _ hmemory]
  rfl

theorem readCompleteBuffer_ends (hmemory : (w.slots ref).memory = some op) :
    Ends kind w (readCompleteBuffer kind w ref body) ref op body := by
  rw [readCompleteBuffer,withOperation_some _ _ _ hmemory]
  dsimp only
  -- the world once the request is answered, or left alone
  obtain ⟨told,htold⟩ : ∃ told : World,told = {w with
      records := stampCompletion kind w.bridge.now op.modem w.records
      trace := answers w ref op body++.completed ref kind op.modem w.bridge.now body::w.trace} :=
    ⟨_,rfl⟩
  have hanswered : (if (op.deferred && w.ubus.connected && w.ubus.contextInitialized &&
      !w.ubus.stopping) = true then
        ({w with records := stampCompletion kind w.bridge.now op.modem w.records}.observe
          (.completed ref kind op.modem w.bridge.now body)).observe
            (.answered ref w.ubus.connection body)
      else {w with records := stampCompletion kind w.bridge.now op.modem w.records}.observe
        (.completed ref kind op.modem w.bridge.now body)) = told := by
    rw [htold,answers]
    split
    · rfl
    · rfl
  simp only [World.observe] at hanswered ⊢
  rw [hanswered,readOperationFree_some (updateSlot_memory told ref {op with deferred := false}),
    htold]
  refine ⟨?_,rfl,rfl,rfl,rfl,rfl,rfl,rfl⟩
  simp only [World.updateSlot,Function.update_self,Function.update_idem]
  rfl

theorem readCompleteError_ends {code : String} {retryable : Bool}
    (hmemory : (w.slots ref).memory = some op) :
    Ends kind w (readCompleteError kind w ref code retryable) ref op
      (readErrorBody w.bridge op.modem code retryable) := by
  rw [readCompleteError,withOperation_some _ _ _ hmemory]
  exact readCompleteBuffer_ends hmemory

/-- The lock state is answered in one call. -/
theorem l850StatusReady_ends {result : CommandResult} (hmemory : (w.slots ref).memory = some op) :
    ∃ body,Ends .status w (l850StatusReady w mutations ref source result) ref op body := by
  have hunsupported : ∀ reason,∃ body,
      Ends .status w (l850StatusCompleteUnsupportedProtocol w mutations ref reason) ref op
        body := by
    intro reason
    rw [l850StatusCompleteUnsupportedProtocol,withOperation_some _ _ _ hmemory]
    exact ⟨_,readCompleteBuffer_ends hmemory⟩
  rw [l850StatusReady,withOperation_some _ _ _ hmemory]
  dsimp only
  split
  · exact ⟨_,readCompleteError_ends hmemory⟩
  · split
    · exact ⟨_,readCompleteError_ends hmemory⟩
    · split
      · split
        · exact hunsupported _
        · exact ⟨_,readCompleteBuffer_ends hmemory⟩
      · split
        · exact hunsupported _
        · exact ⟨_,readCompleteError_ends hmemory⟩

/-- Storing the serving cell changes nothing that an operation goes by. -/
theorem scanStoreServing_spec (w : World) (op : ReadOperation) (cells : List L850StandardCell) :
    (scanStoreServing w op cells).slots = w.slots ∧
      (scanStoreServing w op cells).next = w.next ∧
      (scanStoreServing w op cells).operations = w.operations ∧
      (scanStoreServing w op cells).ubus = w.ubus ∧
      (scanStoreServing w op cells).bridge = w.bridge ∧
      (scanStoreServing w op cells).trace = w.trace ∧
      (scanStoreServing w op cells).records.lastScanCompletedAt =
        w.records.lastScanCompletedAt ∧
      (scanStoreServing w op cells).records.lastCarrierQueryCompletedAt =
        w.records.lastCarrierQueryCompletedAt := by
  unfold scanStoreServing
  split
  · exact ⟨rfl,rfl,rfl,rfl,rfl,rfl,rfl,rfl⟩
  · exact ⟨rfl,rfl,rfl,rfl,rfl,rfl,rfl,rfl⟩

theorem l850ScanCompleteSuccess_ends {cells : List L850StandardCell}
    (hmemory : (w.slots ref).memory = some op) :
    ∃ body,Ends .scan w (l850ScanCompleteSuccess w ref cells) ref op body := by
  rw [l850ScanCompleteSuccess,withOperation_some _ _ _ hmemory]
  obtain ⟨hslots,hnext,hoperations,hubus,hbridge,htrace,hscan,hquery⟩ :=
    scanStoreServing_spec w op cells
  obtain ⟨stored,hstored⟩ : ∃ stored,stored = scanStoreServing w op cells := ⟨_,rfl⟩
  rw [← hstored] at hslots hnext hoperations hubus hbridge htrace hscan hquery ⊢
  obtain ⟨body,hbody⟩ : ∃ body,body = scanSuccessBody w.bridge op.modem op.vendorFallback cells :=
    ⟨_,rfl⟩
  rw [← hbody]
  have h : Ends .scan stored (l850ScanCompleteBuffer stored ref body) ref op body :=
    readCompleteBuffer_ends (hslots ▸ hmemory)
  refine ⟨body,?_,h.next.trans hnext,?_,h.ubus.trans hubus,h.bridge.trans hbridge,?_,?_,?_⟩
  · rw [h.slots,hslots]
  · rw [h.operations,hoperations]
  · rw [h.lastScan,stampCompletion,stampCompletion,hscan,hbridge]
  · rw [h.lastQuery,stampCompletion,stampCompletion,hquery]
  · rw [h.trace,htrace,hbridge,answers,answers,hubus]

theorem l850VendorScanReady_ends {result : CommandResult}
    (hmemory : (w.slots ref).memory = some op) :
    ∃ body,Ends .scan w (l850VendorScanReady w ref source result) ref op body := by
  rw [l850VendorScanReady,withOperation_some _ _ _ hmemory]
  dsimp only
  split
  · exact ⟨_,readCompleteError_ends hmemory⟩
  · split
    · split
      · exact ⟨_,readCompleteError_ends hmemory⟩
      · split
        · exact ⟨_,readCompleteError_ends hmemory⟩
        · exact l850ScanCompleteSuccess_ends hmemory
    · exact ⟨_,readCompleteError_ends hmemory⟩

/-- A scan whose standard call is not supported goes on with the vendor command. -/
def fallBack (w : World) (ref : OperationRef) (op : ReadOperation) : World :=
  w.updateSlot ref fun slot => {slot with
    memory := some {op with vendorFallback := true}
    call := some (.vendorScanReady,(w.bridge.modems op.modem).modem)}

theorem l850ScanReady_effect {result : CellInfoResult}
    (hmemory : (w.slots ref).memory = some op) :
    (∃ body,Ends .scan w (l850ScanReady w ref source result) ref op body) ∨
      l850ScanReady w ref source result = fallBack w ref op := by
  rw [l850ScanReady,withOperation_some _ _ _ hmemory]
  dsimp only
  split
  · exact .inl ⟨_,readCompleteError_ends hmemory⟩
  · split
    · split
      · exact .inr rfl
      · exact .inl ⟨_,readCompleteError_ends hmemory⟩
    · split
      · exact .inl ⟨_,readCompleteError_ends hmemory⟩
      · exact .inl (l850ScanCompleteSuccess_ends hmemory)

theorem l850CarrierReady_ends {result : CommandResult} (hmemory : (w.slots ref).memory = some op) :
    ∃ body,Ends .carrier w (l850CarrierReady w ref source result) ref op body := by
  have hsuccess : ∀ carriers,∃ body,
      Ends .carrier w (l850CarrierCompleteSuccess w ref carriers) ref op body := by
    intro carriers
    rw [l850CarrierCompleteSuccess,withOperation_some _ _ _ hmemory]
    split
    · exact ⟨_,readCompleteError_ends hmemory⟩
    · exact ⟨_,readCompleteBuffer_ends hmemory⟩
  rw [l850CarrierReady,withOperation_some _ _ _ hmemory]
  dsimp only
  split
  · exact ⟨_,readCompleteError_ends hmemory⟩
  · split
    · exact ⟨_,readCompleteError_ends hmemory⟩
    · split
      · split
        · exact ⟨_,readCompleteError_ends hmemory⟩
        · split
          · exact ⟨_,readCompleteError_ends hmemory⟩
          · exact hsuccess _
      · exact ⟨_,readCompleteError_ends hmemory⟩

/-- A callback ends its operation, or falls back to the vendor command of a scan. -/
theorem readReady_effect {callback : ReadCallback} {result : ReadResult}
    (hmemory : (w.slots ref).memory = some op) :
    (∃ body,Ends callback.kind w (readReady w mutations ref callback source result) ref op body) ∨
      callback.kind = .scan ∧
        readReady w mutations ref callback source result = fallBack w ref op := by
  cases callback with
  | statusReady => exact .inl (l850StatusReady_ends hmemory)
  | scanReady =>
    have h : (∃ body,Ends .scan w (l850ScanReady w ref source ⟨result.items,result.error⟩) ref op
        body) ∨ l850ScanReady w ref source ⟨result.items,result.error⟩ = fallBack w ref op :=
      l850ScanReady_effect hmemory
    rcases h with h | h
    · exact .inl h
    · exact .inr ⟨rfl,h⟩
  | vendorScanReady => exact .inl (l850VendorScanReady_ends hmemory)
  | carrierReady => exact .inl (l850CarrierReady_ends hmemory)

/-- What a request comes to: an error, or an operation of its kind. -/
inductive Serves (kind : ReadKind) (w w' : World) : Prop
  | refused (body : Reply) (h : w' = w.observe (.refused body))
  | started (callback : ReadCallback) (modem : ModemRef) (hkind : callback.kind = kind)
      (hscan : kind = .scan → l850glL850ScanRetryAfterMs w.bridge.now
        (w.records.lastScanCompletedAt modem) = 0)
      (hcarrier : kind = .carrier → l850glL850CaRetryAfterMs w.bridge.now
        (w.records.lastCarrierQueryCompletedAt modem) = 0)
      (h : w' = readOperationNew kind callback w modem)

theorem requestedRead_serves {request : Option ReadRequest} {serve : ModemRef → World}
    (h : ∀ modem,Serves kind w (serve modem)) :
    Serves kind w (requestedRead w mutations request serve) := by
  unfold requestedRead
  split
  · exact .refused _ rfl
  · split
    · exact .refused _ rfl
    · exact h _

theorem methodCellLockStatus_serves (w : World) (mutations : List CString)
    (request : Option ReadRequest) :
    Serves .status w (methodCellLockStatus w mutations request) := by
  refine requestedRead_serves fun modem => ?_
  split
  · exact .refused _ rfl
  · exact .started .statusReady modem rfl (fun hkind => by cases hkind)
      (fun hkind => by cases hkind)
      rfl

theorem methodCellScan_serves (w : World) (mutations : List CString)
    (request : Option ReadRequest) : Serves .scan w (methodCellScan w mutations request) := by
  refine requestedRead_serves fun modem => ?_
  dsimp only
  split
  · exact .refused _ rfl
  · split
    · exact .refused _ rfl
    · split
      · exact .refused _ rfl
      · split
        · exact .refused _ rfl
        · rename_i hrate
          exact .started .scanReady modem rfl (fun _ => Nat.eq_zero_of_not_pos hrate)
            (fun hkind => by cases hkind) rfl

theorem methodGetCarrierInfo_serves (w : World) (mutations : List CString)
    (request : Option ReadRequest) :
    Serves .carrier w (methodGetCarrierInfo w mutations request) := by
  refine requestedRead_serves fun modem => ?_
  dsimp only
  split
  · exact .refused _ rfl
  · split
    · exact .refused _ rfl
    · split
      · exact .refused _ rfl
      · rename_i hrate
        exact .started .carrierReady modem rfl (fun hkind => by cases hkind)
          (fun _ => Nat.eq_zero_of_not_pos hrate) rfl

end Reads
end L850GL
