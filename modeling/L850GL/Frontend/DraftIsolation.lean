import L850GL.Frontend.SmsDrafts
import L850GL.Lib.Transition
import Mathlib.Data.List.Perm.Basic

/-! The SMS page while messages are being sent: a client token belongs to one message, and a send
that succeeds clears the draft that was sent and no other, unless Escape closes the conversation of
a modem that is sending. -/
namespace L850GL
namespace Frontend
namespace SmsPage

open Identity JsValue Sms Widgets

/-- A call of `api.sendSms`, and the state that its result goes to. -/
structure Sending extends SmsRequest where
  state : Nat
  deriving DecidableEq,Repr

/-- The states that `stateFor` has made, `next` of them, and those that `deviceStates` still holds;
`sent` are all calls of `api.sendSms`, and `drawn` counts the random values used. -/
structure Page where
  states : Nat → DeviceState
  next : Nat
  deviceStates : List (CString × Nat)
  inFlight : List Sending
  sent : List Sending
  drawn : Nat

def Page.set (p : Page) (ref : Nat) (state : DeviceState) : Page :=
  {p with states := Function.update p.states ref state}

def Page.stateFor (p : Page) (modemId : CString) : Page :=
  match p.deviceStates.lookup modemId with
  | some _ => p
  | none => {p with next := p.next+1,deviceStates := p.deviceStates++[(modemId,p.next)]}

def Page.pruneDeviceStates (p : Page) (modemIds : List CString) : Page :=
  {p with deviceStates := p.deviceStates.filter fun entry => entry.1 ∈ modemIds}

/-- What handlers change that select messages, show another folder or load more pages. -/
structure View where
  folder : Folder
  loadedFolder : Folder
  pageCount : Nat
  selectionMode : Bool
  selectedSmsIds : List CString

def setView (state : DeviceState) (view : View) : DeviceState :=
  {state with
    folder := view.folder
    loadedFolder := view.loadedFolder
    pageCount := view.pageCount
    selectionMode := view.selectionMode
    selectedSmsIds := view.selectedSmsIds}

/-- What happens on the page.  An event of a state may come from what was drawn for it before it was
pruned; `written`, `composed` and `back` come from elements that are drawn disabled while the state
is busy. -/
inductive Event
  | refreshed (modemIds : List CString)
  | drawn (modemIds : List CString)
  | viewed (ref : Nat) (view : View)
  | deleting (ref : Nat) (smsIds : List CString) (preparing : Bool)
  | written (ref : Nat) (field : DraftField) (value : JsString)
  | composed (ref : Nat)
  | activated (ref : Nat) (message : JsString)
  | back (ref : Nat)
  | escapeCard (ref : Nat)
  | escape
  | submitted (ref : Nat) (entry : Entry)
  | answered (index : Nat) (result : JsValue)
  | failed (index : Nat)

/-- The state that Escape acts on outside of a card. -/
def Page.escaped (p : Page) : Option Nat :=
  (p.deviceStates.find? fun entry =>
    (p.states entry.2).selectionMode || isConversation (p.states entry.2)).map (·.2)

variable (random : Nat → Option (Vector UInt8 16))

def Page.submit (p : Page) (ref : Nat) (entry : Entry) : Page :=
  match handleSend (random p.drawn) (p.states ref) entry with
  | (state,none) => {p.set ref state with drawn := p.drawn+1}
  | (state,some request) =>
    {p.set ref state with
      drawn := p.drawn+1
      inFlight := p.inFlight++[⟨request,ref⟩]
      sent := ⟨request,ref⟩::p.sent}

/-- The end of a call. -/
def Page.finish (p : Page) (index : Nat) (done : Sending → DeviceState → DeviceState) :
    Option Page :=
  p.inFlight[index]?.map fun sending =>
    {p.set sending.state (done sending (p.states sending.state)) with
      inFlight := p.inFlight.eraseIdx index}

/-- A handler of a state that exists. -/
def Page.on (p : Page) (ref : Nat) (handler : DeviceState → DeviceState) : Option Page :=
  if ref < p.next then some (p.set ref (handler (p.states ref))) else none

/-- A handler that is not drawn while the state is busy. -/
def Page.onIdle (p : Page) (ref : Nat) (handler : DeviceState → DeviceState) : Option Page :=
  if isMutationBusy (p.states ref) then none else p.on ref handler

def Page.step (p : Page) : Event → Option Page
  | .refreshed modemIds => some (modemIds.foldl Page.stateFor (p.pruneDeviceStates modemIds))
  | .drawn modemIds => some (modemIds.foldl Page.stateFor p)
  | .viewed ref view => p.on ref fun state => setView state view
  | .deleting ref smsIds preparing => p.on ref fun state =>
    {state with deleting := smsIds,preparingDeleteAll := preparing}
  | .written ref field value => p.onIdle ref fun state => updateDraft state field value
  | .composed ref => p.onIdle ref fun state => {state with composeOpen := !state.composeOpen}
  | .activated ref message => p.on ref fun state => activateCard state message
  | .back ref => p.onIdle ref closeConversation
  | .escapeCard ref => p.on ref SmsPage.escape
  | .escape => match p.escaped with
    | none => some p
    | some ref => p.on ref SmsPage.escape
  | .submitted ref entry => if ref < p.next then some (p.submit random ref entry) else none
  | .answered index result => p.finish index fun sending state =>
    sendAnswered state sending.context result
  | .failed index => p.finish index fun _ state => sendFailed state

def Page.Start (p : Page) : Prop :=
  p = ⟨fun _ => DeviceState.new,0,[],[],[],0⟩

def smsPage : System Page Event := ⟨Page.Start,fun p event => p.step random event⟩

/-- Escape would close a conversation whose message is being sent. -/
def interrupts (state : DeviceState) : Bool :=
  state.sending && !state.selectionMode && isConversation state

def Page.Interrupts (p : Page) : Event → Prop
  | .escapeCard ref => interrupts (p.states ref) = true
  | .escape => ∃ ref, p.escaped = some ref ∧ interrupts (p.states ref) = true
  | _ => False

/-- Where a draft is kept. -/
inductive Slot
  | current
  | returned
  | saved (partner : JsString)
  deriving DecidableEq,Repr

/-- The drafts of a state.  What was saved of the conversation that is open is not one of them: it
is written anew when the conversation closes. -/
def draftAt (state : DeviceState) : Slot → Option Draft
  | .current => some state.toDraft
  | .returned => state.conversationReturnDraft
  | .saved partner =>
    if partnerOf state = some partner then none else state.conversationDrafts.lookup partner

/-- Everything kept that looks like a draft. -/
def copies (state : DeviceState) : List Draft :=
  state.toDraft::(state.conversationReturnDraft.toList++state.conversationDrafts.map (·.2))

/-- A draft that carries no token, or the token of another one with all it was made for. -/
def Draft.TokenFrom (draft draft' : Draft) : Prop :=
  draft'.clientToken = none ∨ draft'.clientToken = draft.clientToken ∧
    draft'.tokenRecipient = draft.tokenRecipient ∧ draft'.tokenText = draft.tokenText ∧
    draft'.tokenContext = draft.tokenContext

theorem Draft.TokenFrom.refl (draft : Draft) : draft.TokenFrom draft := .inr ⟨rfl,rfl,rfl,rfl⟩

theorem Draft.TokenFrom.trans {a b c : Draft} (h : a.TokenFrom b) (h' : b.TokenFrom c) :
    a.TokenFrom c := by
  rcases h' with h' | ⟨h₁,h₂,h₃,h₄⟩
  · exact .inl h'
  rcases h with h | ⟨g₁,g₂,g₃,g₄⟩
  · exact .inl (h₁.trans h)
  · exact .inr ⟨h₁.trans g₁,h₂.trans g₂,h₃.trans g₃,h₄.trans g₄⟩

theorem Draft.tokenFrom_clear (draft : Draft) : draft.TokenFrom draft.clearRetryToken := .inl rfl

theorem Draft.tokenFrom_lock (draft : Draft) (recipient : JsString) :
    draft.TokenFrom (draft.lockRecipient recipient) := by
  unfold Draft.lockRecipient
  split
  · exact .refl draft
  · simp only
    split
    · exact .inl rfl
    · exact .refl draft

theorem Draft.tokenFrom_write (draft : Draft) (field : DraftField) (value : JsString) :
    draft.TokenFrom (draft.write field value) := by
  cases field <;> exact .refl draft

/-- A handler moves drafts between the places for them and edits them; it makes no token. -/
structure Rearranges (state state' : DeviceState) : Prop where
  slots : ∃ source : Slot → Slot, Function.Injective source ∧
    ∀ slot draft', draftAt state' slot = some draft' → draft'.clientToken = none ∨
      ∃ draft, draftAt state (source slot) = some draft ∧ draft.TokenFrom draft'
  copies : ∀ draft' ∈ copies state', draft'.clientToken = none ∨
    ∃ draft ∈ copies state, draft.TokenFrom draft'

/-- Only the current draft is edited. -/
theorem rearranges_of_current {state state' : DeviceState}
    (hd : state.toDraft.TokenFrom state'.toDraft)
    (hr : state'.conversationReturnDraft = state.conversationReturnDraft)
    (hs : state'.conversationDrafts = state.conversationDrafts)
    (hn : state'.conversationNumber = state.conversationNumber) : Rearranges state state' := by
  refine ⟨⟨id,Function.injective_id,fun slot draft' h => ?_⟩,fun draft' hm => ?_⟩
  · cases slot with
    | current =>
      cases h
      exact .inr ⟨_,rfl,hd⟩
    | returned => exact .inr ⟨draft',by rw [← h]; exact hr.symm,.refl _⟩
    | saved partner =>
      have hpartner : partnerOf state' = partnerOf state := by rw [partnerOf,partnerOf,hn]
      simp only [draftAt,hpartner,hs] at h
      exact .inr ⟨draft',h,.refl _⟩
  · simp only [copies,hr,hs,List.mem_cons] at hm
    rcases hm with rfl | hm
    · exact .inr ⟨_,List.mem_cons_self,hd⟩
    · exact .inr ⟨draft',List.mem_cons_of_mem _ hm,.refl _⟩

theorem rearranges_refl (state : DeviceState) : Rearranges state state :=
  rearranges_of_current (.refl _) rfl rfl rfl

theorem updateDraft_rearranges (state : DeviceState) (field : DraftField) (value : JsString) :
    Rearranges state (updateDraft state field value) := by
  have hw := state.toDraft.tokenFrom_write field value
  refine rearranges_of_current ?_ rfl rfl rfl
  simp only [updateDraft]
  split
  · exact hw.trans (Draft.tokenFrom_clear _)
  · exact hw

/-- Where the drafts come from when the conversation with a partner is opened. -/
def openSource (partner : JsString) : Slot → Slot
  | .current => .saved partner
  | .returned => .current
  | .saved other => if other = partner then .returned else .saved other

/-- Where they come from when it is closed. -/
def closeSource (partner : JsString) : Slot → Slot
  | .current => .returned
  | .returned => .saved partner
  | .saved other => if other = partner then .current else .saved other

def swapSource : Slot → Slot
  | .current => .returned
  | .returned => .current
  | .saved other => .saved other

theorem closeSource_openSource (partner : JsString) (slot : Slot) :
    closeSource partner (openSource partner slot) = slot := by
  cases slot with
  | current => simp [openSource,closeSource]
  | returned => rfl
  | saved other =>
    by_cases h : other = partner
    · simp [openSource,closeSource,h]
    · simp [openSource,closeSource,h]

theorem openSource_closeSource (partner : JsString) (slot : Slot) :
    openSource partner (closeSource partner slot) = slot := by
  cases slot with
  | current => rfl
  | returned => simp [openSource,closeSource]
  | saved other =>
    by_cases h : other = partner
    · simp [openSource,closeSource,h]
    · simp [openSource,closeSource,h]

theorem swapSource_swapSource (slot : Slot) : swapSource (swapSource slot) = slot := by
  cases slot <;> rfl

theorem openConversation_rearranges {state : DeviceState} (hc : partnerOf state = none)
    (number : JsString) : Rearranges state (openConversation state number) := by
  by_cases hbusy : (decide (number = []) || state.selectionMode || isMutationBusy state) = true
  · simp only [openConversation,hbusy,if_true]
    exact rearranges_refl state
  have hne : number ≠ [] := by
    rintro rfl
    exact hbusy (by simp)
  have hopen : openConversation state number = {state with
      selectionMode := false,selectedSmsIds := []
      toDraft := ((state.conversationDrafts.lookup number).getD
        (newConversationDraft number)).lockRecipient (((some number).filter isRecipient).getD [])
      conversationReturnDraft := some state.toDraft
      conversationReturnPageCount := state.pageCount
      conversationNumber := some number
      conversationReturnFolder := some state.folder
      loadedFolder := .all
      pageCount := 1} := by
    simp only [openConversation,hbusy,if_false,Bool.false_eq_true]
    rfl
  have hdraft : ∀ draft', draft' = ((state.conversationDrafts.lookup number).getD
      (newConversationDraft number)).lockRecipient (((some number).filter isRecipient).getD []) →
      draft'.clientToken = none ∨ ∃ draft, state.conversationDrafts.lookup number = some draft ∧
        draft.TokenFrom draft' := by
    rintro draft' rfl
    cases hl : state.conversationDrafts.lookup number with
    | none =>
      refine .inl ?_
      rcases Draft.tokenFrom_lock (newConversationDraft number)
        (((some number).filter isRecipient).getD []) with h | h
      · exact h
      · exact h.1
    | some draft => exact .inr ⟨draft,rfl,Draft.tokenFrom_lock _ _⟩
  have hpartner : partnerOf (openConversation state number) = some number := by
    rw [hopen]
    simp [partnerOf,hne]
  refine ⟨⟨openSource number,fun a b hab => ?_,fun slot draft' h => ?_⟩,fun draft' hm => ?_⟩
  · have h₁ := congrArg (closeSource number) hab
    rwa [closeSource_openSource,closeSource_openSource] at h₁
  · cases slot with
    | current =>
      rw [draftAt,hopen,Option.some.injEq] at h
      refine (hdraft draft' h.symm).imp id fun ⟨draft,hl,ht⟩ => ⟨draft,?_,ht⟩
      simp only [openSource,draftAt,hc,hl]
      rfl
    | returned =>
      rw [draftAt,hopen,Option.some.injEq] at h
      exact .inr ⟨state.toDraft,rfl,h ▸ .refl _⟩
    | saved other =>
      rw [draftAt,hpartner] at h
      split at h
      · cases h
      · rename_i hother
        have hno : other ≠ number := fun he => hother (he ▸ rfl)
        rw [hopen] at h
        refine .inr ⟨draft',?_,.refl _⟩
        simp only [openSource,hno,if_false,draftAt,hc]
        exact h
  · rw [hopen] at hm
    simp only [copies,Option.toList_some,List.singleton_append,List.mem_cons] at hm
    rcases hm with rfl | rfl | hm
    · refine (hdraft _ rfl).imp id fun ⟨draft,hl,ht⟩ => ⟨draft,?_,ht⟩
      have hd : draft ∈ state.conversationDrafts.map (·.2) :=
        List.mem_map.mpr ⟨_,AssocList.mem_of_lookup hl,rfl⟩
      exact List.mem_cons_of_mem _ (List.mem_append_right _ hd)
    · exact .inr ⟨_,List.mem_cons_self,.refl _⟩
    · exact .inr ⟨draft',List.mem_cons_of_mem _ (List.mem_append_right _ hm),.refl _⟩

theorem activateCard_rearranges (state : DeviceState) (number : JsString) :
    Rearranges state (activateCard state number) := by
  unfold activateCard isConversation
  cases hc : partnerOf state with
  | none => exact openConversation_rearranges hc number
  | some partner => exact rearranges_refl state

theorem closeConversation_draft (state : DeviceState) :
    (closeConversation state).toDraft = state.conversationReturnDraft.getD Draft.empty := rfl

theorem closeConversation_rearranges (state : DeviceState) :
    Rearranges state (closeConversation state) := by
  have hreturned : (closeConversation state).conversationReturnDraft = none := rfl
  have hpartner : partnerOf (closeConversation state) = none := rfl
  have hdrafts : (closeConversation state).conversationDrafts = saveConversation state := rfl
  have hcurrent : ∀ draft', (closeConversation state).toDraft = draft' →
      draft'.clientToken = none ∨ state.conversationReturnDraft = some draft' := by
    rintro draft' rfl
    rw [closeConversation_draft]
    cases hr : state.conversationReturnDraft with
    | none => exact .inl rfl
    | some draft => exact .inr rfl
  cases hp : partnerOf state with
  | none =>
    have hsave : saveConversation state = state.conversationDrafts := by simp [saveConversation,hp]
    refine ⟨⟨swapSource,fun a b hab => ?_,fun slot draft' h => ?_⟩,fun draft' hm => ?_⟩
    · have h₁ := congrArg swapSource hab
      rwa [swapSource_swapSource,swapSource_swapSource] at h₁
    · cases slot with
      | current =>
        rw [draftAt,Option.some.injEq] at h
        exact (hcurrent draft' h).imp id fun hr => ⟨draft',hr,.refl _⟩
      | returned => cases h
      | saved other =>
        simp only [draftAt,hpartner,hdrafts,hsave,reduceCtorEq,if_false] at h
        refine .inr ⟨draft',?_,.refl _⟩
        simp only [swapSource,draftAt,hp,reduceCtorEq,if_false,h]
    · simp only [copies,hreturned,hdrafts,hsave,Option.toList_none,List.nil_append,
        List.mem_cons] at hm
      rcases hm with rfl | hm
      · refine (hcurrent _ rfl).imp id fun hr => ⟨_,?_,.refl _⟩
        simp [copies,hr]
      · exact .inr ⟨draft',List.mem_cons_of_mem _ (List.mem_append_right _ hm),.refl _⟩
  | some partner =>
    have hsave : saveConversation state =
        AssocList.put state.conversationDrafts partner state.toDraft := by
      simp [saveConversation,hp,captureDraft]
    refine ⟨⟨closeSource partner,fun a b hab => ?_,fun slot draft' h => ?_⟩,fun draft' hm => ?_⟩
    · have h₁ := congrArg (openSource partner) hab
      rwa [openSource_closeSource,openSource_closeSource] at h₁
    · cases slot with
      | current =>
        rw [draftAt,Option.some.injEq] at h
        exact (hcurrent draft' h).imp id fun hr => ⟨draft',hr,.refl _⟩
      | returned => cases h
      | saved other =>
        simp only [draftAt,hpartner,hdrafts,hsave,reduceCtorEq,if_false] at h
        by_cases ho : other = partner
        · subst ho
          rw [AssocList.lookup_put_self,Option.some.injEq] at h
          exact .inr ⟨state.toDraft,by simp [closeSource,draftAt],h ▸ .refl _⟩
        · rw [AssocList.lookup_put_of_ne _ ho] at h
          have hno : ¬some partner = some other := fun he => ho (Option.some.inj he).symm
          refine .inr ⟨draft',?_,.refl _⟩
          simp only [closeSource,ho,if_false,draftAt,hp,hno,h]
    · simp only [copies,hreturned,hdrafts,hsave,Option.toList_none,List.nil_append,
        List.mem_cons] at hm
      rcases hm with rfl | hm
      · refine (hcurrent _ rfl).imp id fun hr => ⟨_,?_,.refl _⟩
        simp [copies,hr]
      · obtain ⟨entry,he,rfl⟩ := List.mem_map.mp hm
        rcases AssocList.mem_put.mp he with ⟨he,-⟩ | rfl
        · refine .inr ⟨entry.2,?_,.refl _⟩
          exact List.mem_cons_of_mem _ (List.mem_append_right _ (List.mem_map.mpr ⟨_,he,rfl⟩))
        · exact .inr ⟨_,List.mem_cons_self,.refl _⟩

theorem escape_rearranges (state : DeviceState) : Rearranges state (escape state) := by
  unfold escape
  split
  · exact rearranges_of_current (.refl _) rfl rfl rfl
  split
  · exact closeConversation_rearranges state
  · exact rearranges_refl state

theorem sendAnswered_rearranges (state : DeviceState) (context : Context) (result : JsValue) :
    Rearranges state (sendAnswered state context result) := by
  unfold sendAnswered
  split
  · exact rearranges_of_current (.refl _) rfl rfl rfl
  · exact rearranges_of_current (.inl rfl) rfl rfl rfl

theorem sendFailed_rearranges (state : DeviceState) : Rearranges state (sendFailed state) :=
  rearranges_of_current (.refl _) rfl rfl rfl

variable {random : Nat → Option (Vector UInt8 16)} {p p' : Page} {event : Event} {ref : Nat}
  {state state' : DeviceState}

/-- What a draft says of its token is what was sent with it. -/
def Draft.Bound (sent : List Sending) (draft : Draft) : Prop :=
  ∀ token, draft.clientToken = some token → ∃ sending ∈ sent, sending.clientToken = token ∧
    draft.tokenRecipient = some sending.recipient ∧ draft.tokenText = some sending.text ∧
    draft.tokenContext = some sending.context

theorem Draft.Bound.tokenFrom {sent : List Sending} {draft draft' : Draft} (h : draft.Bound sent)
    (ht : draft.TokenFrom draft') : draft'.Bound sent := by
  intro token htoken
  rcases ht with ht | ⟨h₁,h₂,h₃,h₄⟩
  · rw [ht] at htoken
    cases htoken
  · rw [h₁] at htoken
    rw [h₂,h₃,h₄]
    exact h token htoken

theorem Draft.Bound.cons {sent : List Sending} {draft : Draft} (h : draft.Bound sent)
    (sending : Sending) : draft.Bound (sending::sent) := by
  intro token htoken
  obtain ⟨other,hm,h₁⟩ := h token htoken
  exact ⟨other,List.mem_cons_of_mem _ hm,h₁⟩

/-- The tokens of the page. -/
structure Tokens (random : Nat → Option (Vector UInt8 16)) (p : Page) : Prop where
  minted : ∀ sending ∈ p.sent, ∃ index < p.drawn,
    generateClientToken (random index) = some sending.clientToken
  single : ∀ sending ∈ p.sent, ∀ other ∈ p.sent, sending.clientToken = other.clientToken →
    sending.toSmsRequest = other.toSmsRequest
  bound : ∀ ref, ∀ draft ∈ copies (p.states ref), draft.Bound p.sent
  fresh : ∀ ref, p.next ≤ ref → p.states ref = DeviceState.new
  apart : ∀ ref slot draft ref' slot' draft' token, draftAt (p.states ref) slot = some draft →
    draftAt (p.states ref') slot' = some draft' → draft.clientToken = some token →
    draft'.clientToken = some token → ref = ref' ∧ slot = slot'

/-- No two random values make one token. -/
def NeverRepeatsToken (random : Nat → Option (Vector UInt8 16)) : Prop :=
  ∀ i j token, generateClientToken (random i) = some token →
    generateClientToken (random j) = some token → i = j

theorem set_states (p : Page) (ref : Nat) (state : DeviceState) (other : Nat) :
    (p.set ref state).states other = if other = ref then state else p.states other :=
  Function.update_apply p.states ref state other

/-- A handler that makes no token keeps the tokens of the page. -/
theorem Tokens.set (h : Tokens random p) (href : ref < p.next)
    (hr : Rearranges (p.states ref) state) : Tokens random (p.set ref state) := by
  obtain ⟨source,hinj,hslots⟩ := hr.slots
  have hback : ∀ r slot draft token, draftAt ((p.set ref state).states r) slot = some draft →
      draft.clientToken = some token → ∃ draft₀,
        draftAt (p.states r) (if r = ref then source slot else slot) = some draft₀ ∧
        draft₀.clientToken = some token := by
    intro r slot draft token hd ht
    rw [set_states] at hd
    split at hd
    · rename_i hr
      subst hr
      rcases hslots slot draft hd with hn | ⟨draft₀,hd₀,htf⟩
      · rw [hn] at ht
        cases ht
      · rcases htf with hn | ⟨htf,-⟩
        · rw [hn] at ht
          cases ht
        · exact ⟨draft₀,by rw [if_pos rfl]; exact hd₀,htf ▸ ht⟩
    · rename_i hne
      exact ⟨draft,by rw [if_neg hne]; exact hd,ht⟩
  refine ⟨h.minted,h.single,fun r draft hm => ?_,fun r hle => ?_,?_⟩
  · rw [set_states] at hm
    split at hm
    · rcases hr.copies draft hm with hn | ⟨draft₀,hm₀,ht⟩
      · intro token htoken
        rw [hn] at htoken
        cases htoken
      · exact (h.bound ref draft₀ hm₀).tokenFrom ht
    · exact h.bound r draft hm
  · have hne : r ≠ ref := by
      rintro rfl
      exact absurd href (Nat.not_lt.mpr hle)
    rw [set_states,if_neg hne]
    exact h.fresh r hle
  · intro r slot draft r' slot' draft' token hd hd' ht ht'
    obtain ⟨draft₀,hd₀,ht₀⟩ := hback r slot draft token hd ht
    obtain ⟨draft₁,hd₁,ht₁⟩ := hback r' slot' draft' token hd' ht'
    obtain ⟨rfl,hslot⟩ := h.apart _ _ _ _ _ _ token hd₀ hd₁ ht₀ ht₁
    refine ⟨rfl,?_⟩
    split at hslot
    · exact hinj hslot
    · exact hslot

theorem Tokens.on {handler : DeviceState → DeviceState} (h : Tokens random p)
    (hr : Rearranges (p.states ref) (handler (p.states ref))) (hs : p.on ref handler = some p') :
    Tokens random p' := by
  unfold Page.on at hs
  split at hs
  · rename_i href
    cases hs
    exact h.set href hr
  · cases hs

theorem Tokens.onIdle {handler : DeviceState → DeviceState} (h : Tokens random p)
    (hr : Rearranges (p.states ref) (handler (p.states ref)))
    (hs : p.onIdle ref handler = some p') : Tokens random p' := by
  unfold Page.onIdle at hs
  split at hs
  · cases hs
  · exact h.on hr hs

theorem Tokens.stateFor (h : Tokens random p) (modemId : CString) :
    Tokens random (p.stateFor modemId) := by
  unfold Page.stateFor
  split
  · exact h
  · exact ⟨h.minted,h.single,h.bound,fun r hle => h.fresh r (Nat.le_of_succ_le hle),h.apart⟩

theorem Tokens.stateForAll (h : Tokens random p) (modemIds : List CString) :
    Tokens random (modemIds.foldl Page.stateFor p) := by
  induction modemIds generalizing p with
  | nil => exact h
  | cons modemId modemIds ih => exact ih (h.stateFor modemId)

/-- What a request says of the state it is sent from. -/
structure Sent (value : Option (Vector UInt8 16)) (state state' : DeviceState)
    (request : SmsRequest) : Prop where
  idle : isMutationBusy state = false
  rest : state' = {state with toDraft := state'.toDraft,sending := true}
  token : state'.clientToken = some request.clientToken ∧
    state'.tokenRecipient = some request.recipient ∧ state'.tokenText = some request.text ∧
    state'.tokenContext = some request.context
  draft : state'.recipient = request.recipient ∧ state'.text = request.text
  origin : state.toDraft.TokenFrom state'.toDraft ∨
    generateClientToken value = some request.clientToken

theorem tokenFor_spec {value : Option (Vector UInt8 16)} {draft draft' : Draft} {context : Context}
    {recipient text : JsString} {token : CString}
    (hcontext : (draft.clientToken.isSome && draft.tokenContext != some context) = false)
    (h : draft.tokenFor value context recipient text = some (token,draft')) :
    draft'.clientToken = some token ∧ draft'.tokenRecipient = some recipient ∧
      draft'.tokenText = some text ∧ draft'.tokenContext = some context ∧
      draft'.text = draft.text ∧
      (draft.TokenFrom draft' ∨ generateClientToken value = some token) := by
  unfold Draft.tokenFor at h
  split at h
  · rename_i token' hkept
    obtain ⟨ht,hmatch⟩ := Option.filter_eq_some_iff.mp hkept
    cases h
    simp only [decide_eq_true_eq] at hmatch
    rw [ht] at hcontext
    simp only [Option.isSome_some,Bool.true_and,bne_eq_false_iff_eq] at hcontext
    exact ⟨ht,hmatch.1,hmatch.2,hcontext,rfl,.inl (.refl _)⟩
  · obtain ⟨token',hmade,he⟩ := Option.map_eq_some_iff.mp h
    cases he
    exact ⟨rfl,rfl,rfl,rfl,rfl,.inr hmade⟩

/-- `handleSend` sends what the draft then says, or edits no more than the draft. -/
theorem handleSend_cases (value : Option (Vector UInt8 16)) (state : DeviceState) (entry : Entry) :
    ((handleSend value state entry).2 = none ∧
        Rearranges state (handleSend value state entry).1 ∧
        (handleSend value state entry).1.sending = state.sending ∧
        (isMutationBusy state = true → (handleSend value state entry).1 = state)) ∨
      ∃ request, (handleSend value state entry).2 = some request ∧
        Sent value state (handleSend value state entry).1 request := by
  by_cases hbusy : isMutationBusy state = true
  · have hsame : handleSend value state entry = (state,none) := by
      simp only [handleSend,hbusy,if_true]
    rw [hsame]
    exact .inl ⟨rfl,rearranges_refl state,rfl,fun _ => rfl⟩
  have hidle : isMutationBusy state = false := by simpa using hbusy
  have hlocked : state.toDraft.TokenFrom (lockedDraft state) ∧
      (lockedDraft state).text = state.text := by
    unfold lockedDraft
    split
    · exact ⟨.refl _,rfl⟩
    · refine ⟨Draft.tokenFrom_lock _ _,?_⟩
      unfold Draft.lockRecipient
      split
      · rfl
      · simp only
        split <;> rfl
  simp only [handleSend,hidle,Bool.false_eq_true,if_false]
  generalize lockedDraft state = draft at hlocked
  obtain ⟨htoken,htext⟩ := hlocked
  have hstay : Rearranges state {state with toDraft := draft} :=
    rearranges_of_current htoken rfl rfl rfl
  split
  · exact .inl ⟨rfl,hstay,rfl,fun h => absurd h (by decide)⟩
  split
  · exact .inl ⟨rfl,hstay,rfl,fun h => absurd h (by decide)⟩
  rename_i context hcontext
  split
  · exact .inl ⟨rfl,rearranges_of_current (.inl rfl) rfl rfl rfl,rfl,fun h => absurd h (by decide)⟩
  rename_i hsame
  split
  · exact .inl ⟨rfl,hstay,rfl,fun h => absurd h (by decide)⟩
  · rename_i token draft' hfor
    obtain ⟨h₁,h₂,h₃,h₄,h₅,h₆⟩ := tokenFor_spec (by simpa using hsame) hfor
    refine .inr ⟨_,rfl,hidle,rfl,⟨h₁,h₂,h₃,h₄⟩,⟨rfl,h₅.trans htext⟩,h₆.imp (fun h => ?_) id⟩
    exact htoken.trans h

theorem Tokens.submit (hrandom : NeverRepeatsToken random) (h : Tokens random p)
    (href : ref < p.next) (entry : Entry) : Tokens random (p.submit random ref entry) := by
  rcases handleSend_cases (random p.drawn) (p.states ref) entry with
    ⟨hnone,hr,-,-⟩ | ⟨request,hsome,hs⟩
  · have h₁ := h.set href hr
    have hp : p.submit random ref entry =
        {p.set ref (handleSend (random p.drawn) (p.states ref) entry).1 with
          drawn := p.drawn+1} := by
      unfold Page.submit
      split
      · rename_i he
        rw [he]
      · rename_i he
        rw [he] at hnone
        cases hnone
    rw [hp]
    refine ⟨fun sending hm => ?_,h₁.single,h₁.bound,h₁.fresh,h₁.apart⟩
    obtain ⟨index,hlt,hg⟩ := h₁.minted sending hm
    exact ⟨index,Nat.lt_succ_of_lt hlt,hg⟩
  · generalize hstate : (handleSend (random p.drawn) (p.states ref) entry).1 = state' at hs
    have hp : p.submit random ref entry =
        {p.set ref state' with
          drawn := p.drawn+1
          inFlight := p.inFlight++[⟨request,ref⟩]
          sent := ⟨request,ref⟩::p.sent} := by
      unfold Page.submit
      split
      · rename_i he
        rw [he] at hsome
        cases hsome
      · rename_i state'' request' he
        rw [he] at hsome hstate
        cases hsome
        cases hstate
        rfl
    have hcopies : ∀ draft ∈ copies state',
        draft = state'.toDraft ∨ draft ∈ copies (p.states ref) := by
      intro draft hm
      rw [hs.rest] at hm
      simp only [copies,List.mem_cons] at hm ⊢
      exact hm.imp id .inr
    have hslots : ∀ slot, slot ≠ .current → draftAt state' slot = draftAt (p.states ref) slot := by
      intro slot hne
      rw [hs.rest]
      cases slot with
      | current => exact absurd rfl hne
      | returned => rfl
      | saved other => rfl
    obtain ⟨ht₁,ht₂,ht₃,ht₄⟩ := hs.token
    have hcurrent : state'.toDraft.Bound (⟨request,ref⟩::p.sent) := by
      intro token htoken
      rw [ht₁] at htoken
      cases htoken
      exact ⟨_,List.mem_cons_self,rfl,ht₂,ht₃,ht₄⟩
    -- the token is that of the draft, or no draft and no request has it yet
    have hknown : (∃ other ∈ p.sent, other.toSmsRequest = request) ∧
          (p.states ref).clientToken = some request.clientToken ∨
        generateClientToken (random p.drawn) = some request.clientToken := by
      rcases hs.origin with ho | ho
      · rcases ho with ho | ⟨ho₁,ho₂,ho₃,ho₄⟩
        · rw [ht₁] at ho
          cases ho
        · have htoken : (p.states ref).clientToken = some request.clientToken := ho₁ ▸ ht₁
          obtain ⟨other,hm,hb₁,hb₂,hb₃,hb₄⟩ :=
            h.bound ref _ List.mem_cons_self request.clientToken htoken
          have he₂ := Option.some.inj (hb₂.symm.trans (ho₂.symm.trans ht₂))
          have he₃ := Option.some.inj (hb₃.symm.trans (ho₃.symm.trans ht₃))
          have he₄ := Option.some.inj (hb₄.symm.trans (ho₄.symm.trans ht₄))
          refine .inl ⟨⟨other,hm,?_⟩,htoken⟩
          rcases other with ⟨⟨_,_,_,_⟩,_⟩
          rcases request with ⟨_,_,_,_⟩
          simp only at he₂ he₃ he₄ hb₁
          rw [he₂,he₃,he₄,hb₁]
      · exact .inr ho
    have hnew : generateClientToken (random p.drawn) = some request.clientToken →
        ∀ other ∈ p.sent, other.clientToken ≠ request.clientToken := by
      intro hg other hm he
      obtain ⟨index,hlt,hi⟩ := h.minted other hm
      have := hrandom index p.drawn request.clientToken (he ▸ hi) hg
      omega
    have hfree : generateClientToken (random p.drawn) = some request.clientToken →
        ∀ r, ∀ draft ∈ copies (p.states r), draft.clientToken ≠ some request.clientToken := by
      intro hg r draft hm he
      obtain ⟨other,ho,hb,-⟩ := h.bound r draft hm _ he
      exact hnew hg other ho hb
    have hmem : ∀ {state : DeviceState} {slot : Slot} {draft : Draft},
        draftAt state slot = some draft → draft ∈ copies state := by
      intro state slot draft hd
      cases slot with
      | current =>
        cases hd
        exact List.mem_cons_self
      | returned =>
        have hr : state.conversationReturnDraft = some draft := hd
        simp [copies,hr]
      | saved other =>
        rw [draftAt] at hd
        split at hd
        · cases hd
        · refine List.mem_cons_of_mem _ (List.mem_append_right _ ?_)
          exact List.mem_map.mpr ⟨_,AssocList.mem_of_lookup hd,rfl⟩
    -- where a draft with a token was before
    have hback : ∀ r slot draft token, draftAt ((p.set ref state').states r) slot = some draft →
        draft.clientToken = some token →
        (r = ref ∧ slot = .current ∧ token = request.clientToken) ∨
          draftAt (p.states r) slot = some draft := by
      intro r slot draft token hd ht
      rw [set_states] at hd
      split at hd
      · rename_i hr
        subst hr
        by_cases hslot : slot = .current
        · subst hslot
          cases hd
          rw [ht₁] at ht
          exact .inl ⟨rfl,rfl,(Option.some.inj ht).symm⟩
        · exact .inr (hslots slot hslot ▸ hd)
      · exact .inr hd
    rw [hp]
    refine ⟨fun sending hm => ?_,fun sending hm other ho he => ?_,fun r draft hm => ?_,
      fun r hle => ?_,?_⟩
    · rcases List.mem_cons.mp hm with rfl | hm
      · rcases hknown with ⟨⟨other,ho,he⟩,-⟩ | hg
        · obtain ⟨index,hlt,hg⟩ := h.minted other ho
          exact ⟨index,Nat.lt_succ_of_lt hlt,he ▸ hg⟩
        · exact ⟨p.drawn,Nat.lt_succ_self _,hg⟩
      · obtain ⟨index,hlt,hg⟩ := h.minted sending hm
        exact ⟨index,Nat.lt_succ_of_lt hlt,hg⟩
    · have hone : ∀ sending ∈ p.sent, sending.clientToken = request.clientToken →
          sending.toSmsRequest = request := by
        intro sending hm he
        rcases hknown with ⟨⟨other,ho,heq⟩,-⟩ | hg
        · exact (h.single sending hm other ho (by rw [he,← heq])).trans heq
        · exact absurd he (hnew hg sending hm)
      rcases List.mem_cons.mp hm with rfl | hm
      · rcases List.mem_cons.mp ho with rfl | ho
        · rfl
        · exact (hone other ho he.symm).symm
      · rcases List.mem_cons.mp ho with rfl | ho
        · exact hone sending hm he
        · exact h.single sending hm other ho he
    · have hold : ∀ r, ∀ draft ∈ copies (p.states r), draft.Bound (⟨request,ref⟩::p.sent) :=
        fun r draft hm => (h.bound r draft hm).cons _
      have hm' : draft ∈ copies ((p.set ref state').states r) := hm
      rw [set_states] at hm'
      split at hm'
      · rcases hcopies draft hm' with rfl | hm'
        · exact hcurrent
        · exact hold ref draft hm'
      · exact hold r draft hm'
    · have hne : r ≠ ref := by
        rintro rfl
        exact absurd href (Nat.not_lt.mpr hle)
      have hset : (p.set ref state').states r = p.states r := by rw [set_states,if_neg hne]
      exact hset.trans (h.fresh r hle)
    · intro r slot draft r' slot' draft' token hd hd' ht ht'
      -- a draft elsewhere cannot have the token of the request
      have hclash : ∀ r slot draft, draftAt (p.states r) slot = some draft →
          draft.clientToken = some request.clientToken → r = ref ∧ slot = .current := by
        intro r slot draft hd ht
        rcases hknown with ⟨-,htoken⟩ | hg
        · exact h.apart r slot draft ref .current _ _ hd rfl ht htoken
        · exact absurd ht (hfree hg r draft (hmem hd))
      rcases hback r slot draft token hd ht with ⟨rfl,rfl,rfl⟩ | hb
      · rcases hback r' slot' draft' _ hd' ht' with ⟨rfl,rfl,-⟩ | hb'
        · exact ⟨rfl,rfl⟩
        · obtain ⟨rfl,rfl⟩ := hclash r' slot' draft' hb' ht'
          exact ⟨rfl,rfl⟩
      · rcases hback r' slot' draft' token hd' ht' with ⟨rfl,rfl,rfl⟩ | hb'
        · exact hclash r slot draft hb ht
        · exact h.apart r slot draft r' slot' draft' token hb hb' ht ht'

/-- The sends that have not ended: at most one of a state, which is marked as sending. -/
structure Flight (p : Page) : Prop where
  bound : ∀ sending ∈ p.inFlight, sending.state < p.next
  busy : ∀ sending ∈ p.inFlight, (p.states sending.state).sending = true
  single : (p.inFlight.map Sending.state).Nodup

/-- Each state that sends still holds the draft that it sends. -/
def Carried (p : Page) : Prop :=
  ∀ sending ∈ p.inFlight, (p.states sending.state).clientToken = some sending.clientToken ∧
    (p.states sending.state).recipient = sending.recipient ∧
    (p.states sending.state).text = sending.text

theorem Flight.set (h : Flight p) (hs : state.sending = (p.states ref).sending) :
    Flight (p.set ref state) := by
  refine ⟨h.bound,fun sending hm => ?_,h.single⟩
  rw [set_states]
  split
  · rename_i hr
    rw [hs,← hr]
    exact h.busy sending hm
  · exact h.busy sending hm

theorem Carried.set (h : Carried p) (hf : Flight p)
    (hd : (p.states ref).sending = true → state.toDraft = (p.states ref).toDraft) :
    Carried (p.set ref state) := by
  intro sending hm
  rw [set_states]
  split
  · rename_i hr
    have h₁ := hd (hr ▸ hf.busy sending hm)
    rw [h₁,← hr]
    exact h sending hm
  · exact h sending hm

theorem Flight.finish_ne {index : Nat} {sending other : Sending} (h : Flight p)
    (hs : p.inFlight[index]? = some sending) (ho : other ∈ p.inFlight.eraseIdx index) :
    other.state ≠ sending.state := by
  obtain ⟨hlt,rfl⟩ := List.getElem?_eq_some_iff.mp hs
  have hperm := (List.getElem_cons_eraseIdx_perm hlt).map Sending.state
  have hnodup := hperm.nodup_iff.mpr h.single
  intro he
  exact (List.nodup_cons.mp hnodup).1 (he ▸ List.mem_map.mpr ⟨other,ho,rfl⟩)

theorem Flight.finish {index : Nat} {sending : Sending} (h : Flight p)
    (hs : p.inFlight[index]? = some sending) (state : DeviceState) :
    Flight {p.set sending.state state with inFlight := p.inFlight.eraseIdx index} := by
  have hsub := List.eraseIdx_sublist p.inFlight index
  refine ⟨fun other ho => h.bound other (hsub.subset ho),fun other ho => ?_,
    h.single.sublist (hsub.map _)⟩
  have hset : (p.set sending.state state).states other.state = p.states other.state := by
    rw [set_states,if_neg (h.finish_ne hs ho)]
  exact (congrArg DeviceState.sending hset).trans (h.busy other (hsub.subset ho))

theorem Carried.finish {index : Nat} {sending : Sending} (h : Carried p) (hf : Flight p)
    (hs : p.inFlight[index]? = some sending) (state : DeviceState) :
    Carried {p.set sending.state state with inFlight := p.inFlight.eraseIdx index} := by
  intro other ho
  have hset : (p.set sending.state state).states other.state = p.states other.state := by
    rw [set_states,if_neg (hf.finish_ne hs ho)]
  have h₁ := h other ((List.eraseIdx_sublist p.inFlight index).subset ho)
  simp only [hset]
  exact h₁

theorem activateCard_sending (state : DeviceState) (message : JsString) :
    (activateCard state message).sending = state.sending ∧
      (state.sending = true → (activateCard state message).toDraft = state.toDraft) := by
  unfold activateCard
  split
  · exact ⟨rfl,fun _ => rfl⟩
  · unfold openConversation
    split
    · exact ⟨rfl,fun _ => rfl⟩
    · rename_i hbusy
      refine ⟨rfl,fun hs => absurd ?_ hbusy⟩
      simp [isMutationBusy,hs]

theorem escape_sending (state : DeviceState) :
    (escape state).sending = state.sending ∧
      (interrupts state = false → state.sending = true →
        (escape state).toDraft = state.toDraft) := by
  unfold escape
  split
  · exact ⟨rfl,fun _ _ => rfl⟩
  rename_i hmode
  split
  · rename_i hc
    refine ⟨rfl,fun hi hs => ?_⟩
    simp [interrupts,hs,hmode,hc] at hi
  · exact ⟨rfl,fun _ _ => rfl⟩

/-- The states that handlers act on, the drafts of states that send apart. -/
inductive Handled (p : Page) (ref : Nat) (state : DeviceState) : Prop
  | mk (hlt : ref < p.next) (hr : Rearranges (p.states ref) state)
      (hs : state.sending = (p.states ref).sending)

/-- An event other than the start and the end of a send is the work of a handler, or of `stateFor`
on what `deviceStates` still holds. -/
theorem step_handled (hs : p.step random event = some p') :
    (∃ (modemIds : List CString) (deviceStates : List (CString × Nat)),
      p' = modemIds.foldl Page.stateFor {p with deviceStates := deviceStates}) ∨
    (∃ ref state, p' = p.set ref state ∧ Handled p ref state ∧
      (¬p.Interrupts event → (p.states ref).sending = true →
        state.toDraft = (p.states ref).toDraft)) ∨
    (∃ ref entry, ref < p.next ∧ p' = p.submit random ref entry) ∨
    ∃ index sending done, p.inFlight[index]? = some sending ∧
      Rearranges (p.states sending.state) done ∧
      p' = {p.set sending.state done with inFlight := p.inFlight.eraseIdx index} := by
  have hon : ∀ {ref : Nat} {handler : DeviceState → DeviceState}, p.on ref handler = some p' →
      Rearranges (p.states ref) (handler (p.states ref)) →
      (handler (p.states ref)).sending = (p.states ref).sending →
      (¬p.Interrupts event → (p.states ref).sending = true →
        (handler (p.states ref)).toDraft = (p.states ref).toDraft) →
      ∃ ref state, p' = p.set ref state ∧ Handled p ref state ∧
        (¬p.Interrupts event → (p.states ref).sending = true →
          state.toDraft = (p.states ref).toDraft) := by
    intro ref handler h hr hk hd
    unfold Page.on at h
    split at h
    · rename_i hlt
      cases h
      exact ⟨ref,_,rfl,⟨hlt,hr,hk⟩,hd⟩
    · cases h
  have hidle : ∀ {ref : Nat} {handler : DeviceState → DeviceState}, p.onIdle ref handler = some p' →
      Rearranges (p.states ref) (handler (p.states ref)) →
      (handler (p.states ref)).sending = (p.states ref).sending →
      ∃ ref state, p' = p.set ref state ∧ Handled p ref state ∧
        (¬p.Interrupts event → (p.states ref).sending = true →
          state.toDraft = (p.states ref).toDraft) := by
    intro ref handler h hr hk
    unfold Page.onIdle at h
    split at h
    · cases h
    · rename_i hbusy
      refine hon h hr hk fun _ hsend => absurd ?_ hbusy
      simp [isMutationBusy,hsend]
  have hfinish : ∀ {index : Nat} {done : Sending → DeviceState → DeviceState},
      p.finish index done = some p' →
      (∀ sending, Rearranges (p.states sending.state) (done sending (p.states sending.state))) →
      ∃ index sending done, p.inFlight[index]? = some sending ∧
        Rearranges (p.states sending.state) done ∧
        p' = {p.set sending.state done with inFlight := p.inFlight.eraseIdx index} := by
    intro index done h hr
    obtain ⟨sending,hi,rfl⟩ := Option.map_eq_some_iff.mp h
    exact ⟨index,sending,_,hi,hr sending,rfl⟩
  cases event with
  | refreshed modemIds =>
    cases hs
    exact .inl ⟨modemIds,_,rfl⟩
  | drawn modemIds =>
    cases hs
    exact .inl ⟨modemIds,p.deviceStates,rfl⟩
  | viewed ref view =>
    simp only [Page.step] at hs
    exact .inr (.inl (hon hs (rearranges_of_current (.refl _) rfl rfl rfl) rfl fun _ _ => rfl))
  | deleting ref smsIds preparing =>
    simp only [Page.step] at hs
    exact .inr (.inl (hon hs (rearranges_of_current (.refl _) rfl rfl rfl) rfl fun _ _ => rfl))
  | written ref field value =>
    simp only [Page.step] at hs
    exact .inr (.inl (hidle hs (updateDraft_rearranges _ field value) rfl))
  | composed ref =>
    simp only [Page.step] at hs
    exact .inr (.inl (hidle hs (rearranges_of_current (.refl _) rfl rfl rfl) rfl))
  | activated ref message =>
    simp only [Page.step] at hs
    have h₁ := activateCard_sending (p.states ref) message
    exact .inr (.inl (hon hs (activateCard_rearranges _ message) h₁.1 fun _ => h₁.2))
  | back ref =>
    simp only [Page.step] at hs
    exact .inr (.inl (hidle hs (closeConversation_rearranges _) rfl))
  | escapeCard ref =>
    simp only [Page.step] at hs
    have h₁ := escape_sending (p.states ref)
    refine .inr (.inl (hon hs (escape_rearranges _) h₁.1 fun hi => h₁.2 ?_))
    simpa [Page.Interrupts] using hi
  | escape =>
    simp only [Page.step] at hs
    split at hs
    · cases hs
      exact .inl ⟨[],p.deviceStates,rfl⟩
    · rename_i ref href
      have h₁ := escape_sending (p.states ref)
      refine .inr (.inl (hon hs (escape_rearranges _) h₁.1 fun hi => h₁.2 ?_))
      simpa [Page.Interrupts,href] using hi
  | submitted ref entry =>
    simp only [Page.step] at hs
    split at hs
    · rename_i hlt
      cases hs
      exact .inr (.inr (.inl ⟨ref,entry,hlt,rfl⟩))
    · cases hs
  | answered index result =>
    simp only [Page.step] at hs
    exact .inr (.inr (.inr (hfinish hs fun sending => sendAnswered_rearranges _ _ _)))
  | failed index =>
    simp only [Page.step] at hs
    exact .inr (.inr (.inr (hfinish hs fun sending => sendFailed_rearranges _)))

theorem stateForAll_kept (modemIds : List CString) (p : Page) :
    (modemIds.foldl Page.stateFor p).states = p.states ∧
      (modemIds.foldl Page.stateFor p).inFlight = p.inFlight ∧
      p.next ≤ (modemIds.foldl Page.stateFor p).next := by
  induction modemIds generalizing p with
  | nil => exact ⟨rfl,rfl,Nat.le_refl _⟩
  | cons modemId modemIds ih =>
    obtain ⟨h₁,h₂,h₃⟩ := ih (p.stateFor modemId)
    have hkept : (p.stateFor modemId).states = p.states ∧
        (p.stateFor modemId).inFlight = p.inFlight ∧ p.next ≤ (p.stateFor modemId).next := by
      unfold Page.stateFor
      split
      · exact ⟨rfl,rfl,Nat.le_refl _⟩
      · exact ⟨rfl,rfl,Nat.le_succ _⟩
    exact ⟨h₁.trans hkept.1,h₂.trans hkept.2.1,Nat.le_trans hkept.2.2 h₃⟩

theorem submit_flight (random : Nat → Option (Vector UInt8 16)) (h : Flight p)
    (href : ref < p.next) (entry : Entry) :
    Flight (p.submit random ref entry) ∧ (Carried p → Carried (p.submit random ref entry)) := by
  unfold Page.submit
  rcases handleSend_cases (random p.drawn) (p.states ref) entry with
    ⟨hnone,-,hsending,hbusy⟩ | ⟨request,hsome,hs⟩
  · split
    · rename_i state he
      rw [he] at hsending hbusy
      have hf : Flight (p.set ref state) := h.set hsending
      refine ⟨⟨hf.bound,hf.busy,hf.single⟩,fun hc => hc.set h fun hsend => ?_⟩
      have hsame : state = p.states ref := hbusy (by simp [isMutationBusy,hsend])
      rw [hsame]
    · rename_i he
      rw [he] at hnone
      cases hnone
  · split
    · rename_i he
      rw [he] at hsome
      cases hsome
    · rename_i state request' he
      rw [he] at hsome hs
      cases hsome
      have hidle : (p.states ref).sending = false := by
        have h₁ := hs.idle
        simp only [isMutationBusy,Bool.or_eq_false_iff] at h₁
        exact h₁.1.1
      have hother : ∀ sending ∈ p.inFlight, sending.state ≠ ref := by
        rintro sending hm rfl
        rw [h.busy sending hm] at hidle
        cases hidle
      have hset : ∀ sending ∈ p.inFlight,
          (p.set ref state).states sending.state = p.states sending.state := fun sending hm => by
        rw [set_states,if_neg (hother sending hm)]
      have hself : (p.set ref state).states ref = state := by rw [set_states,if_pos rfl]
      refine ⟨⟨fun sending hm => ?_,fun sending hm => ?_,?_⟩,fun hc sending hm => ?_⟩
      · rcases List.mem_append.mp hm with hm | hm
        · exact h.bound sending hm
        · rw [List.mem_singleton.mp hm]
          exact href
      · rcases List.mem_append.mp hm with hm | hm
        · exact (congrArg DeviceState.sending (hset sending hm)).trans (h.busy sending hm)
        · rw [List.mem_singleton.mp hm]
          have hrest : state = {p.states ref with toDraft := state.toDraft,sending := true} :=
            hs.rest
          exact (congrArg DeviceState.sending hself).trans (congrArg DeviceState.sending hrest)
      · rw [List.map_append,List.nodup_append]
        refine ⟨h.single,List.nodup_singleton _,fun a ha b hb => ?_⟩
        obtain ⟨sending,hm,rfl⟩ := List.mem_map.mp ha
        rw [List.mem_singleton.mp hb]
        exact hother sending hm
      · rcases List.mem_append.mp hm with hm | hm
        · have h₁ := hc sending hm
          simp only [hset sending hm]
          exact h₁
        · rw [List.mem_singleton.mp hm]
          simp only [hself]
          exact ⟨hs.token.1,hs.draft⟩

/-- What holds of the page in every run. -/
structure PageInv (random : Nat → Option (Vector UInt8 16)) (p : Page) : Prop where
  tokens : Tokens random p
  flight : Flight p

theorem Page.Start.inv (h : p.Start) : PageInv random p := by
  subst h
  have hnone : ∀ slot draft, draftAt DeviceState.new slot = some draft → draft = Draft.empty := by
    intro slot draft h
    cases slot with
    | current => exact (Option.some.inj h).symm
    | returned => cases h
    | saved other => cases h
  refine ⟨⟨by simp,by simp,fun r draft hm => ?_,fun _ _ => rfl,?_⟩,⟨by simp,by simp,by simp⟩⟩
  · simp only [copies,DeviceState.new,Option.toList_none,List.map_nil,List.append_nil,
      List.mem_singleton] at hm
    subst hm
    intro token htoken
    cases htoken
  · intro r slot draft r' slot' draft' token hd hd' ht ht'
    rw [hnone slot draft hd] at ht
    cases ht

theorem PageInv.step (hrandom : NeverRepeatsToken random) (h : PageInv random p)
    (hs : p.step random event = some p') :
    PageInv random p' ∧ (¬p.Interrupts event → Carried p → Carried p') := by
  obtain ⟨modemIds,deviceStates,rfl⟩ | ⟨ref,state,rfl,⟨hlt,hr,hk⟩,hd⟩ |
    ⟨ref,entry,hlt,rfl⟩ | ⟨index,sending,done,hi,hr,rfl⟩ := step_handled hs
  · obtain ⟨hstates,hflight,hnext⟩ :=
      stateForAll_kept modemIds {p with deviceStates := deviceStates}
    have ht : Tokens random {p with deviceStates := deviceStates} :=
      ⟨h.tokens.minted,h.tokens.single,h.tokens.bound,h.tokens.fresh,h.tokens.apart⟩
    refine ⟨⟨ht.stateForAll modemIds,⟨?_,?_,?_⟩⟩,fun _ hc => ?_⟩
    · rw [hflight]
      exact fun sending hm => Nat.lt_of_lt_of_le (h.flight.bound sending hm) hnext
    · rw [hflight,hstates]
      exact h.flight.busy
    · rw [hflight]
      exact h.flight.single
    · unfold Carried
      rw [hflight,hstates]
      exact hc
  · exact ⟨⟨h.tokens.set hlt hr,h.flight.set hk⟩,fun hi hc => hc.set h.flight (hd hi)⟩
  · obtain ⟨hf,hc⟩ := submit_flight random h.flight hlt entry
    exact ⟨⟨h.tokens.submit hrandom hlt entry,hf⟩,fun _ => hc⟩
  · have hlt := h.flight.bound sending (List.mem_of_getElem? hi)
    have ht := h.tokens.set hlt hr
    exact ⟨⟨⟨ht.minted,ht.single,ht.bound,ht.fresh,ht.apart⟩,h.flight.finish hi done⟩,
      fun _ hc => hc.finish h.flight hi done⟩

theorem reachable_pageInv (hrandom : NeverRepeatsToken random)
    (h : (smsPage random).Reachable p) : PageInv random p :=
  h.invariant (fun _ => Page.Start.inv) fun _ _ _ hp hs => (hp.step hrandom hs).1

/-- The runs in which Escape never closes the conversation of a modem that is sending. -/
abbrev Uninterrupted (random : Nat → Option (Vector UInt8 16)) (p : Page) : Prop :=
  (smsPage random).ReachableUnder (fun p event => ¬p.Interrupts event) p

theorem Uninterrupted.carried (hrandom : NeverRepeatsToken random) (h : Uninterrupted random p) :
    Carried p := by
  have h₁ : PageInv random p ∧ Carried p := by
    refine System.ReachableUnder.invariant (P:=fun p => PageInv random p ∧ Carried p) ?_ ?_ h
    · rintro p hp
      refine ⟨Page.Start.inv hp,fun sending hm => ?_⟩
      rw [hp] at hm
      cases hm
    · intro p event p' hp hg hs
      obtain ⟨hinv,hc⟩ := hp.1.step hrandom hs
      exact ⟨hinv,hc hg hp.2⟩
  exact h₁.2

/-- The draft of the page in a place. -/
def Page.draft (p : Page) (ref : Nat) (slot : Slot) : Option Draft := draftAt (p.states ref) slot

theorem finish_draft {index : Nat} {sending : Sending} {done : DeviceState}
    (hs : ∀ slot, slot ≠ .current → draftAt done slot = draftAt (p.states sending.state) slot)
    (ref : Nat) (slot : Slot) (hne : (ref,slot) ≠ (sending.state,.current)) :
    Page.draft {p.set sending.state done with inFlight := p.inFlight.eraseIdx index} ref slot =
      p.draft ref slot := by
  have hset := set_states p sending.state done ref
  simp only [Page.draft,hset]
  split
  · rename_i hr
    subst hr
    exact hs slot fun he => hne (he ▸ rfl)
  · rfl

/-- Retry tokens and drafts are kept apart: in every run a client token is sent with one message of
one epoch only, and in a run that Escape does not interrupt a send that succeeds clears the draft
that was sent and its token, and leaves every other draft as it is; a send that fails leaves them
all. -/
theorem smsDrafts_isolated (hrandom : NeverRepeatsToken random) :
    (∀ p, (smsPage random).Reachable p → ∀ sending ∈ p.sent, ∀ other ∈ p.sent,
      sending.clientToken = other.clientToken → sending.toSmsRequest = other.toSmsRequest) ∧
    ∀ p, Uninterrupted random p → ∀ index sending, p.inFlight[index]? = some sending →
      (∀ result p', p.step random (.answered index result) = some p' →
        (truthy (sendError sending.context result) = true →
          ∀ ref slot, p'.draft ref slot = p.draft ref slot) ∧
        (truthy (sendError sending.context result) = false →
          (∃ draft, p.draft sending.state .current = some draft ∧
            draft.clientToken = some sending.clientToken ∧ draft.recipient = sending.recipient ∧
            draft.text = sending.text) ∧
          (∃ draft, p'.draft sending.state .current = some draft ∧ draft.clientToken = none ∧
            draft.text = []) ∧
          ∀ ref slot draft, (ref,slot) ≠ (sending.state,.current) →
            p.draft ref slot = some draft →
              p'.draft ref slot = some draft ∧ draft.clientToken ≠ some sending.clientToken)) ∧
      ∀ p', p.step random (.failed index) = some p' →
        ∀ ref slot, p'.draft ref slot = p.draft ref slot := by
  refine ⟨fun p h => (reachable_pageInv hrandom h).tokens.single,fun p h index sending hi =>
    ⟨fun result p' hs => ?_,fun p' hs ref slot => ?_⟩⟩
  · have hinv := reachable_pageInv hrandom (h.mono fun _ _ _ => trivial)
    have hcarried := h.carried hrandom sending (List.mem_of_getElem? hi)
    simp only [Page.step,Page.finish,hi,Option.map_some,Option.some.injEq] at hs
    subst hs
    refine ⟨fun hfailed ref slot => ?_,fun hdone => ⟨⟨_,rfl,hcarried⟩,?_,?_⟩⟩
    · have hsame : draftAt (sendAnswered (p.states sending.state) sending.context result) =
          draftAt (p.states sending.state) := by
        funext slot
        simp only [sendAnswered,hfailed,if_true]
        cases slot <;> rfl
      by_cases hne : (ref,slot) = (sending.state,.current)
      · cases hne
        have hset := set_states p sending.state
          (sendAnswered (p.states sending.state) sending.context result) sending.state
        simp only [Page.draft,hset,if_true,hsame]
      · exact finish_draft (fun slot _ => congrFun hsame slot) ref slot hne
    · have hset := (set_states p sending.state
        (sendAnswered (p.states sending.state) sending.context result) sending.state).trans
          (if_pos rfl)
      refine ⟨_,congrArg (fun state : DeviceState => some state.toDraft) hset,?_,?_⟩
      · simp only [sendAnswered,hdone,Bool.false_eq_true,if_false]
        rfl
      · simp only [sendAnswered,hdone,Bool.false_eq_true,if_false]
    · intro ref slot draft hne hd
      refine ⟨?_,fun he => ?_⟩
      · refine (finish_draft (fun slot hslot => ?_) ref slot hne).trans hd
        simp only [sendAnswered,hdone,Bool.false_eq_true,if_false]
        cases slot with
        | current => exact absurd rfl hslot
        | returned => rfl
        | saved other => rfl
      · obtain ⟨rfl,rfl⟩ := hinv.tokens.apart ref slot draft sending.state .current _ _ hd rfl he
          hcarried.1
        exact hne rfl
  · simp only [Page.step,Page.finish,hi,Option.map_some,Option.some.injEq] at hs
    subst hs
    have hset := set_states p sending.state (sendFailed (p.states sending.state)) ref
    simp only [Page.draft,hset]
    split
    · rename_i hr
      subst hr
      cases slot <;> rfl
    · rfl

def sampleModemId : CString := "l850gl-00112233445566778899aabbccddeeff".toList

def sampleEntry : Entry where
  summary := .object [("modem_id",.string sampleModemId),("generation",.number 1)]
  messages := .object
    [("schema",.number 4),("ok",.boolean true),("generated_at",.number 0),
     ("modem_id",.string sampleModemId),("generation",.number 1),
     ("messaging_generation",.number 1),("revision",.number 2),
     ("cache_state",.string "ready".toList),("cache_truncated",.boolean false),
     ("dedupe_capacity",.number 64),("dedupe_window_seconds",.number 300),
     ("folder",.string "all".toList),("limit",.number 100),("messages",.array []),
     ("has_more",.boolean false),("next_cursor",.string [])]
  messagesError := none

/-- The result of a send that succeeded. -/
def sampleConfirmed : JsValue := .object
  [("schema",.number 4),("ok",.boolean true),("generated_at",.number 0),
   ("modem_id",.string sampleModemId),("generation",.number 1),("messaging_generation",.number 1),
   ("sms_id",.string "sms-01010101010101010101010101010101".toList),
   ("state",.string "sent".toList),("deduplicated",.boolean false)]

def sampleTokens (index : Nat) : Option (Vector UInt8 16) :=
  if index = 0 then some (Vector.replicate 16 1) else none

theorem sampleTokens_neverRepeats : NeverRepeatsToken sampleTokens := by
  have h₁ : ∀ i token, generateClientToken (sampleTokens i) = some token → i = 0 := by
    intro i token h
    by_contra hi
    simp [generateClientToken,sampleTokens,hi,tokenGenerateWith] at h
  intro i j token hi hj
  rw [h₁ i token hi,h₁ j token hj]

def samplePage : Page := ⟨fun _ => DeviceState.new,0,[],[],[],0⟩

/-- A message is put aside in the composer, and another one is sent from a conversation. -/
def sampleSend : List Event :=
  [.refreshed [sampleModemId],.written 0 .recipient (utf16 "+628".toList),
   .written 0 .text (utf16 "later".toList),.activated 0 (utf16 "123".toList),
   .written 0 .text (utf16 "hi".toList),.submitted 0 sampleEntry]

def sampleComposed : Draft := {Draft.empty with
  recipient := utf16 "+628".toList
  text := utf16 "later".toList}

theorem sampleSend_answered : ((smsPage sampleTokens).run samplePage sampleSend).map (fun p =>
    (p.inFlight.map (·.text),(p.step sampleTokens (.answered 0 sampleConfirmed)).isSome,
      p.draft 0 .returned,p.inFlight.map fun sending =>
        truthy (sendError sending.context sampleConfirmed))) =
    some ([utf16 "hi".toList],true,some sampleComposed,[false]) := by
  decide +kernel

/-- The rules at a run that sends one message, which is confirmed, and keeps another one. -/
theorem smsDrafts_isolated_sample : ∃ p p' draft,
    (smsPage sampleTokens).run samplePage sampleSend = some p ∧
    p.step sampleTokens (.answered 0 sampleConfirmed) = some p' ∧
    p.draft 0 .current = some draft ∧ draft.clientToken.isSome = true ∧
    (∃ draft', p'.draft 0 .current = some draft' ∧ draft'.clientToken = none) ∧
    p.draft 0 .returned = some sampleComposed ∧ p'.draft 0 .returned = some sampleComposed ∧
    ∀ sending ∈ p.sent, ∀ other ∈ p.sent, sending.clientToken = other.clientToken →
      sending.toSmsRequest = other.toSmsRequest := by
  obtain ⟨p,hp,hall⟩ := Option.map_eq_some_iff.mp sampleSend_answered
  simp only [Prod.mk.injEq] at hall
  obtain ⟨-,hstep,hkept,hdone⟩ := hall
  have h : Uninterrupted sampleTokens p := by
    refine System.ReachableUnder.of_run (.start rfl) (fun p event he => ?_) hp
    simp only [sampleSend,List.mem_cons,List.not_mem_nil,or_false] at he
    rcases he with rfl | rfl | rfl | rfl | rfl | rfl <;> exact id
  obtain ⟨p',hp'⟩ := Option.isSome_iff_exists.mp hstep
  obtain ⟨sending,hone,hd⟩ := List.map_eq_singleton_iff.mp hdone
  have hrules := smsDrafts_isolated sampleTokens_neverRepeats
  obtain ⟨⟨draft,hdraft,htoken,-⟩,⟨draft',hdraft',hnone,-⟩,hothers⟩ :=
    ((hrules.2 p h 0 sending (by rw [hone]; rfl)).1 sampleConfirmed p' hp').2 hd
  have hstate : sending.state = 0 := by
    have hbound := (reachable_pageInv sampleTokens_neverRepeats
      (h.mono fun _ _ _ => trivial)).flight.bound sending (by rw [hone]; exact List.mem_cons_self)
    have hnext : p.next = 1 := by
      have h₁ : ((smsPage sampleTokens).run samplePage sampleSend).map Page.next = some 1 := by
        decide +kernel
      rw [hp] at h₁
      exact Option.some.inj h₁
    omega
  rw [hstate] at hdraft hdraft'
  have hsaved := (hothers 0 .returned sampleComposed (by simp) hkept).1
  exact ⟨p,p',draft,hp,hp',hdraft,by rw [htoken]; rfl,⟨draft',hdraft',hnone⟩,hkept,hsaved,
    hrules.1 p (h.mono fun _ _ _ => trivial)⟩

/-- Escape is pressed before the result arrives. -/
def sampleEscape : List Event := sampleSend++[.escape]

theorem sampleEscape_answered : ((smsPage sampleTokens).run samplePage sampleEscape).bind (fun p =>
    (p.step sampleTokens (.answered 0 sampleConfirmed)).map fun p' =>
      (p.draft 0 .current,p'.draft 0 .current,
        p.inFlight.map fun sending => (truthy (sendError sending.context sampleConfirmed),
          (p'.draft 0 (.saved (utf16 "123".toList))).bind (·.clientToken) ==
            some sending.clientToken))) =
    some (some sampleComposed,some Draft.empty,[(false,true)]) := by
  decide +kernel

/-- The message in the composer, which was not sent, is lost, and the one that was sent is kept with
its token. -/
theorem escape_clears_composer : ∃ p p' sending, (smsPage sampleTokens).Reachable p ∧
    p.inFlight = [sending] ∧ p.step sampleTokens (.answered 0 sampleConfirmed) = some p' ∧
    truthy (sendError sending.context sampleConfirmed) = false ∧
    p.draft 0 .current = some sampleComposed ∧
    sampleComposed.clientToken ≠ some sending.clientToken ∧
    p'.draft 0 .current = some Draft.empty ∧
    (p'.draft 0 (.saved (utf16 "123".toList))).bind (·.clientToken) = some sending.clientToken := by
  obtain ⟨p,hp,hrest⟩ := Option.bind_eq_some_iff.mp sampleEscape_answered
  obtain ⟨p',hp',hall⟩ := Option.map_eq_some_iff.mp hrest
  simp only [Prod.mk.injEq] at hall
  obtain ⟨hbefore,hafter,hsent⟩ := hall
  obtain ⟨sending,hone,hd⟩ := List.map_eq_singleton_iff.mp hsent
  simp only [Prod.mk.injEq,beq_iff_eq] at hd
  exact ⟨p,p',sending,System.reachable_run (.start rfl) hp,hone,hp',hd.1,hbefore,
    by simp [sampleComposed,Draft.empty],hafter,hd.2⟩

end SmsPage
end Frontend
end L850GL
