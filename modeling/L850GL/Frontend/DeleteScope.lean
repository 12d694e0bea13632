import L850GL.Frontend.DeleteAll
import L850GL.Frontend.DraftIsolation

/-! The SMS page while it loads a folder that is to be deleted: what the dialog offers is the folder
that was selected when loading began, which is the view on the screen unless that was changed
meanwhile. -/
namespace L850GL
namespace Frontend
namespace SmsPage

open Identity JsValue Mutation SafeText Sms Widgets

/-- A load that `prepareDeleteAll` has begun: the state it was begun for, and what it captured. -/
structure Loading where
  state : Nat
  modemId : CString
  summary : JsValue
  folder : Folder

structure DeletePage where
  page : Page
  loadings : List Loading

def folderChanged (state : DeviceState) (folder : Folder) : DeviceState :=
  {clearSelection state with folder := folder,loadedFolder := folder,pageCount := 1}

/-- The events of the page with those that `prepareDeleteAll` is made of. -/
inductive DeleteEvent
  | page (event : Event)
  | folderChanged (ref : Nat) (folder : Folder)
  | prepareDeleteAll (ref : Nat) (entry : Entry)
  | loaded (index : Nat) (turn : Turn)

def Page.keepsFolder (p : Page) : Event → Bool
  | .viewed ref view => view.folder == (p.states ref).folder
  | .deleting ref _ preparing => preparing == (p.states ref).preparingDeleteAll
  | _ => true

def deleteAllEnded (state : DeviceState) : Turn → Option DeviceState
  | .next _ => none
  | .done loaded => some (deleteAllLoaded state loaded).1
  | .thrown => some (deleteAllThrown state).1

variable (tokens : Nat → Option (Vector UInt8 16))

def DeletePage.step (p : DeletePage) : DeleteEvent → Option DeletePage
  | .page event =>
    if p.page.keepsFolder event then
      (p.page.step tokens event).map fun page => {p with page := page}
    else none
  | .folderChanged ref folder =>
    (p.page.on ref fun state => SmsPage.folderChanged state folder).map fun page =>
      {p with page := page}
  | .prepareDeleteAll ref entry =>
    if ref < p.page.next then
      match SmsPage.prepareDeleteAll (p.page.states ref) entry with
      | none => some p
      | some state =>
        let summary := object entry.summary
        some ⟨p.page.set ref state,p.loadings++
          [⟨ref,textOf (summary.get "modem_id"),summary,activeFolder (p.page.states ref)⟩]⟩
    else none
  | .loaded index turn => do
    let loading ← p.loadings[index]?
    let state ← deleteAllEnded (p.page.states loading.state) turn
    return ⟨p.page.set loading.state state,p.loadings.eraseIdx index⟩

def DeletePage.Start (p : DeletePage) : Prop := p.page.Start ∧ p.loadings = []

def deletePage : System DeletePage DeleteEvent :=
  ⟨DeletePage.Start,fun p event => p.step tokens event⟩

/-- The confirmation dialog that the end of a load opens, with the ids it offers. -/
def DeletePage.Dialog (p : DeletePage) (index : Nat) (turn : Turn) (loading : Loading)
    (ids : List CString) : Prop :=
  p.loadings[index]? = some loading ∧ offered (p.page.states loading.state) turn = some ids

def Page.shown (p : Page) (modemId : CString) : Option DeviceState :=
  (p.deviceStates.lookup modemId).map p.states

def idsIn (gateway : Gateway) (w : World) (ref : ModemRef) (folder : Folder)
    (state : DeviceState) : List CString :=
  (messagesForView (entriesOf gateway w.properties (folderView w ref folder)) state).filterMap
    smsIdOf

def viewIds (gateway : Gateway) (w : World) (ref : ModemRef) (state : DeviceState) :
    List CString :=
  idsIn gateway w ref (activeFolder state) state

/-- The dialog offers the view that the page shows of the modem. -/
def DeletePage.InScope (p : DeletePage) (gateway : Gateway) (loading : Loading) (w : World)
    (ref : ModemRef) (ids : List CString) : Prop :=
  ∃ state, p.page.shown loading.modemId = some state ∧ ids = viewIds gateway w ref state

/-- The view on the screen has the messages that were selected when loading began. -/
def DeletePage.SameMessages (p : DeletePage) (gateway : Gateway) (loading : Loading) (w : World)
    (ref : ModemRef) : Prop :=
  ∃ state, p.page.shown loading.modemId = some state ∧
    viewIds gateway w ref state = idsIn gateway w ref loading.folder (p.page.states loading.state)

/-- Closing the conversation would show another folder than the one being loaded. -/
def leavesFolder (state : DeviceState) : Bool :=
  state.preparingDeleteAll && !state.selectionMode && isConversation state &&
    state.conversationReturnFolder.getD .all != .all

/-- While a folder is being loaded no other one is selected, no Escape closes a conversation over
another one, and the page keeps the state of the modem. -/
def DeletePage.KeepsView (p : DeletePage) : DeleteEvent → Prop
  | .folderChanged ref folder =>
    (p.page.states ref).preparingDeleteAll = true → folder = (p.page.states ref).folder
  | .page (.escapeCard ref) => leavesFolder (p.page.states ref) = false
  | .page .escape =>
    ∀ ref, p.page.escaped = some ref → leavesFolder (p.page.states ref) = false
  | .page (.refreshed modemIds) => ∀ loading ∈ p.loadings, loading.modemId ∈ modemIds
  | .prepareDeleteAll ref entry =>
    p.page.deviceStates.lookup (textOf ((object entry.summary).get "modem_id")) = some ref
  | _ => True

variable {tokens} {p p' : DeletePage} {page page' : Page} {loading : Loading} {ids : List CString}
  {index ref : Nat} {turn : Turn} {state state' : DeviceState} {event : DeleteEvent}

def LeavesLoad (state state' : DeviceState) : Prop :=
  state.preparingDeleteAll = true →
    state'.preparingDeleteAll = true ∧ activeFolder state' = activeFolder state

theorem isMutationBusy_preparing (h : state.preparingDeleteAll = true) :
    isMutationBusy state = true := by
  simp [isMutationBusy,h]

theorem activeFolder_eq (hnumber : state'.conversationNumber = state.conversationNumber)
    (hfolder : state'.folder = state.folder) : activeFolder state' = activeFolder state := by
  rw [activeFolder,activeFolder,hnumber,hfolder]

theorem leavesLoad_activateCard (state : DeviceState) (number : JsString) :
    LeavesLoad state (activateCard state number) := by
  intro h
  have hbusy := isMutationBusy_preparing h
  have hsame : activateCard state number = state := by
    simp [activateCard,openConversation,hbusy]
  rw [hsame]
  exact ⟨h,rfl⟩

theorem leavesLoad_escape (h : leavesFolder state = false) : LeavesLoad state (escape state) := by
  intro hpreparing
  unfold escape
  split
  · exact ⟨hpreparing,rfl⟩
  rename_i hmode
  split
  · rename_i hconversation
    have hreturn : state.conversationReturnFolder.getD .all = .all := by
      simpa [leavesFolder,hpreparing,hmode,hconversation] using h
    refine ⟨hpreparing,?_⟩
    have hall : activeFolder state = .all := by
      rw [activeFolder,if_pos]
      simpa [isConversation,partnerOf,Option.isSome_filter] using hconversation
    rw [hall,← hreturn]
    rfl
  · exact ⟨hpreparing,rfl⟩

theorem leavesLoad_sendAnswered (state : DeviceState) (context : Context) (result : JsValue) :
    LeavesLoad state (sendAnswered state context result) := by
  intro h
  unfold sendAnswered
  split
  · exact ⟨h,rfl⟩
  · exact ⟨h,rfl⟩

theorem leavesLoad_handleSend (random : Option (Vector UInt8 16)) (state : DeviceState)
    (entry : Entry) : LeavesLoad state (handleSend random state entry).1 := by
  intro h
  rw [handleSend,if_pos (isMutationBusy_preparing h)]
  exact ⟨h,rfl⟩

/-- A step of the page that leaves all loads alone, and keeps the states of the modems that are
still there. -/
structure Page.LeavesLoads (page page' : Page) (gone : CString → Prop) : Prop where
  states : ∀ ref, LeavesLoad (page.states ref) (page'.states ref)
  deviceStates : ∀ modemId ref, ¬gone modemId → page.deviceStates.lookup modemId = some ref →
    page'.deviceStates.lookup modemId = some ref

variable {gone : CString → Prop} {handler : DeviceState → DeviceState}

theorem Page.leavesLoads_set (page : Page) (h : LeavesLoad (page.states ref) state) :
    page.LeavesLoads (page.set ref state) gone := by
  constructor
  · intro other
    by_cases ho : other = ref
    · subst ho
      simpa [Page.set] using h
    · intro hp
      simp [Page.set,ho,hp]
  · exact fun _ _ _ hlookup => hlookup

theorem Page.on_leavesLoads (hs : page.on ref handler = some page')
    (h : LeavesLoad (page.states ref) (handler (page.states ref))) :
    page.LeavesLoads page' gone := by
  simp only [Page.on,Option.ite_none_right_eq_some,Option.some.injEq] at hs
  obtain ⟨_,rfl⟩ := hs
  exact page.leavesLoads_set h

theorem Page.onIdle_leavesLoads (hs : page.onIdle ref handler = some page') :
    page.LeavesLoads page' gone := by
  simp only [Page.onIdle,Option.ite_none_left_eq_some] at hs
  obtain ⟨hidle,hs⟩ := hs
  apply Page.on_leavesLoads hs
  intro h
  exact absurd (isMutationBusy_preparing h) hidle

theorem Page.finish_leavesLoads {done : Sending → DeviceState → DeviceState}
    (hs : page.finish index done = some page')
    (h : ∀ sending state, LeavesLoad state (done sending state)) :
    page.LeavesLoads page' gone := by
  obtain ⟨sending,_,rfl⟩ := Option.map_eq_some_iff.mp hs
  have hset : page.LeavesLoads (page.set sending.state _) gone :=
    page.leavesLoads_set (h sending (page.states sending.state))
  exact ⟨hset.states,hset.deviceStates⟩

theorem Page.submit_leavesLoads (page : Page) (ref : Nat) (entry : Entry) :
    page.LeavesLoads (page.submit tokens ref entry) gone := by
  have hsend := leavesLoad_handleSend (tokens page.drawn) (page.states ref) entry
  have hset : page.LeavesLoads (page.set ref _) gone := page.leavesLoads_set hsend
  unfold Page.submit
  generalize handleSend (tokens page.drawn) (page.states ref) entry = sent at hset
  obtain ⟨state,request⟩ := sent
  cases request with
  | none => exact ⟨hset.states,hset.deviceStates⟩
  | some request => exact ⟨hset.states,hset.deviceStates⟩

theorem Page.foldl_stateFor (page : Page) (modemIds : List CString) :
    (modemIds.foldl Page.stateFor page).states = page.states ∧
      ∀ modemId ref, page.deviceStates.lookup modemId = some ref →
        (modemIds.foldl Page.stateFor page).deviceStates.lookup modemId = some ref := by
  induction modemIds generalizing page with
  | nil => exact ⟨rfl,fun _ _ h => h⟩
  | cons modemId modemIds ih =>
    obtain ⟨hstates,hlookup⟩ := ih (page.stateFor modemId)
    have hone : (page.stateFor modemId).states = page.states ∧
        ∀ other ref, page.deviceStates.lookup other = some ref →
          (page.stateFor modemId).deviceStates.lookup other = some ref := by
      unfold Page.stateFor
      split
      · exact ⟨rfl,fun _ _ h => h⟩
      · refine ⟨rfl,fun other ref h => ?_⟩
        simp [List.lookup_append,h]
    exact ⟨hstates.trans hone.1,fun other ref h => hlookup other ref (hone.2 other ref h)⟩

theorem lookup_filter_keys {entries : List (CString × Nat)} {modemIds : List CString}
    {modemId : CString} (hkept : modemId ∈ modemIds)
    (h : entries.lookup modemId = some ref) :
    (entries.filter fun entry => entry.1 ∈ modemIds).lookup modemId = some ref := by
  induction entries with
  | nil => simp at h
  | cons entry entries ih =>
    obtain ⟨key,value⟩ := entry
    by_cases hkey : modemId = key
    · subst hkey
      simpa [hkept] using h
    · have hrest : entries.lookup modemId = some ref := by
        simpa [List.lookup_cons,beq_eq_false_iff_ne.mpr hkey] using h
      by_cases hmem : key ∈ modemIds
      · simpa [hmem,List.lookup_cons,beq_eq_false_iff_ne.mpr hkey] using ih hrest
      · simpa [hmem] using ih hrest

theorem Page.refreshed_leavesLoads (page : Page) (modemIds : List CString) :
    page.LeavesLoads (modemIds.foldl Page.stateFor (page.pruneDeviceStates modemIds))
      (· ∉ modemIds) := by
  obtain ⟨hstates,hlookup⟩ := (page.pruneDeviceStates modemIds).foldl_stateFor modemIds
  constructor
  · intro ref hp
    rw [hstates]
    exact ⟨hp,rfl⟩
  · intro modemId ref hgone h
    exact hlookup modemId ref (lookup_filter_keys (not_not.mp hgone) h)

theorem Page.drawn_leavesLoads (page : Page) (modemIds : List CString) :
    page.LeavesLoads (modemIds.foldl Page.stateFor page) gone := by
  obtain ⟨hstates,hlookup⟩ := page.foldl_stateFor modemIds
  constructor
  · intro ref hp
    rw [hstates]
    exact ⟨hp,rfl⟩
  · exact fun modemId ref _ h => hlookup modemId ref h

def missing : Event → CString → Prop
  | .refreshed modemIds => (· ∉ modemIds)
  | _ => fun _ => False

theorem Page.step_leavesLoads {event : Event} (hs : page.step tokens event = some page')
    (hfolder : page.keepsFolder event = true)
    (hkeeps : (⟨page,[]⟩ : DeletePage).KeepsView (.page event)) :
    page.LeavesLoads page' (missing event) := by
  cases event with
  | refreshed modemIds =>
    obtain rfl := Option.some.inj hs
    exact page.refreshed_leavesLoads modemIds
  | drawn modemIds =>
    obtain rfl := Option.some.inj hs
    exact page.drawn_leavesLoads modemIds
  | viewed ref view =>
    simp only [Page.step] at hs
    apply Page.on_leavesLoads hs
    intro h
    have hsame : view.folder = (page.states ref).folder := by
      simpa [Page.keepsFolder] using hfolder
    exact ⟨h,activeFolder_eq rfl hsame⟩
  | deleting ref smsIds preparing =>
    simp only [Page.step] at hs
    apply Page.on_leavesLoads hs
    intro h
    have hsame : preparing = (page.states ref).preparingDeleteAll := by
      simpa [Page.keepsFolder] using hfolder
    exact ⟨hsame.trans h,rfl⟩
  | written ref field value => exact Page.onIdle_leavesLoads hs
  | composed ref => exact Page.onIdle_leavesLoads hs
  | activated ref message =>
    simp only [Page.step] at hs
    exact Page.on_leavesLoads hs (leavesLoad_activateCard _ message)
  | back ref => exact Page.onIdle_leavesLoads hs
  | escapeCard ref =>
    simp only [Page.step] at hs
    exact Page.on_leavesLoads hs (leavesLoad_escape hkeeps)
  | escape =>
    simp only [Page.step] at hs
    split at hs
    · obtain rfl := Option.some.inj hs
      exact page.drawn_leavesLoads []
    · rename_i ref href
      exact Page.on_leavesLoads hs (leavesLoad_escape (hkeeps ref href))
  | submitted ref entry =>
    simp only [Page.step,Option.ite_none_right_eq_some,Option.some.injEq] at hs
    obtain ⟨_,rfl⟩ := hs
    exact page.submit_leavesLoads ref entry
  | answered index result =>
    simp only [Page.step] at hs
    exact Page.finish_leavesLoads hs fun sending state =>
      leavesLoad_sendAnswered state sending.context result
  | failed index =>
    simp only [Page.step] at hs
    exact Page.finish_leavesLoads hs fun _ state h => ⟨h,rfl⟩

/-- A load whose folder is still the one on the screen. -/
structure Underway (page : Page) (loading : Loading) : Prop where
  shown : page.deviceStates.lookup loading.modemId = some loading.state
  preparing : (page.states loading.state).preparingDeleteAll = true
  folder : activeFolder (page.states loading.state) = loading.folder

structure DeleteInv (p : DeletePage) : Prop where
  underway : ∀ loading ∈ p.loadings, Underway p.page loading
  nodup : (p.loadings.map (·.state)).Nodup

theorem Underway.of_leavesLoads (h : Underway page loading) (hs : page.LeavesLoads page' gone)
    (hkept : ¬gone loading.modemId) : Underway page' loading := by
  obtain ⟨hpreparing,hfolder⟩ := hs.states loading.state h.preparing
  exact ⟨hs.deviceStates _ _ hkept h.shown,hpreparing,hfolder.trans h.folder⟩

theorem DeleteInv.of_leavesLoads (h : DeleteInv p) (hs : p.page.LeavesLoads page' gone)
    (hkept : ∀ loading ∈ p.loadings, ¬gone loading.modemId) :
    DeleteInv {p with page := page'} :=
  ⟨fun loading hm => (h.underway loading hm).of_leavesLoads hs (hkept loading hm),h.nodup⟩

/-- A load is begun only for a state that has none. -/
theorem DeleteInv.prepare (h : DeleteInv p) {entry : Entry}
    (hstart : prepareDeleteAll (p.page.states ref) entry = some state)
    (hshown : p.page.deviceStates.lookup (textOf ((object entry.summary).get "modem_id")) =
      some ref) :
    DeleteInv ⟨p.page.set ref state,p.loadings++
      [⟨ref,textOf ((object entry.summary).get "modem_id"),object entry.summary,
        activeFolder (p.page.states ref)⟩]⟩ := by
  simp only [prepareDeleteAll,Option.ite_none_left_eq_some,Option.some.injEq] at hstart
  obtain ⟨hidle,-,rfl⟩ := hstart
  have hother : ∀ loading ∈ p.loadings, loading.state ≠ ref := by
    intro loading hm heq
    have h₁ := (h.underway loading hm).preparing
    rw [heq] at h₁
    exact hidle (isMutationBusy_preparing h₁)
  constructor
  · intro loading hm
    rcases List.mem_append.mp hm with hm | hm
    · have hne := hother loading hm
      have hold := h.underway loading hm
      refine ⟨hold.shown,?_,?_⟩
      · simpa [Page.set,hne] using hold.preparing
      · simpa [Page.set,hne] using hold.folder
    · obtain rfl := List.mem_singleton.mp hm
      refine ⟨hshown,?_,?_⟩
      · simp [Page.set]
      · simp [Page.set,activeFolder]
  · rw [List.map_append,List.nodup_append]
    refine ⟨h.nodup,List.nodup_singleton _,fun other hm new hn => ?_⟩
    obtain ⟨loading,hl,rfl⟩ := List.mem_map.mp hm
    obtain rfl : new = ref := by simpa using hn
    exact hother loading hl

theorem DeleteInv.ended (h : DeleteInv p) (hl : p.loadings[index]? = some loading) :
    DeleteInv ⟨p.page.set loading.state state,p.loadings.eraseIdx index⟩ := by
  have hsub : (p.loadings.eraseIdx index).Sublist p.loadings := List.eraseIdx_sublist _ _
  have hother : ∀ other ∈ p.loadings.eraseIdx index, other.state ≠ loading.state := by
    intro other hm heq
    obtain ⟨i,hne,hi⟩ := List.mem_eraseIdx_iff_getElem?.mp hm
    obtain ⟨hlt,-⟩ := List.getElem?_eq_some_iff.mp hi
    have hsame : (p.loadings.map (·.state))[i]? = (p.loadings.map (·.state))[index]? := by
      simp [hi,hl,heq]
    exact hne ((List.getElem?_inj (by simpa using hlt) h.nodup).mp hsame)
  constructor
  · intro other hm
    have hne := hother other hm
    have hold := h.underway other (hsub.subset hm)
    refine ⟨hold.shown,?_,?_⟩
    · simpa [Page.set,hne] using hold.preparing
    · simpa [Page.set,hne] using hold.folder
  · exact h.nodup.sublist (hsub.map _)

theorem DeleteInv.step (h : DeleteInv p) (hkeeps : p.KeepsView event)
    (hs : p.step tokens event = some p') : DeleteInv p' := by
  cases event with
  | page event =>
    simp only [DeletePage.step,Option.ite_none_right_eq_some,Option.map_eq_some_iff] at hs
    obtain ⟨hfolder,page',hs,rfl⟩ := hs
    have hkeeps' : (⟨p.page,[]⟩ : DeletePage).KeepsView (.page event) := by
      cases event with
      | refreshed modemIds => simp [DeletePage.KeepsView]
      | _ => exact hkeeps
    apply h.of_leavesLoads (Page.step_leavesLoads hs hfolder hkeeps')
    intro loading hm
    cases event with
    | refreshed modemIds => exact not_not.mpr (hkeeps loading hm)
    | _ => exact id
  | folderChanged ref folder =>
    obtain ⟨page',hon,rfl⟩ := Option.map_eq_some_iff.mp hs
    have hone : p.page.LeavesLoads page' fun _ => False := by
      apply Page.on_leavesLoads hon
      intro hpreparing
      exact ⟨hpreparing,activeFolder_eq rfl (hkeeps hpreparing)⟩
    exact h.of_leavesLoads hone fun _ _ => id
  | prepareDeleteAll ref entry =>
    simp only [DeletePage.step,Option.ite_none_right_eq_some] at hs
    obtain ⟨-,hs⟩ := hs
    split at hs
    · obtain rfl := Option.some.inj hs
      exact h
    · rename_i state hstart
      obtain rfl := Option.some.inj hs
      exact h.prepare hstart hkeeps
  | loaded index turn =>
    simp only [DeletePage.step,Option.bind_eq_bind,Option.bind_eq_some_iff] at hs
    obtain ⟨loading,hl,state,-,hs⟩ := hs
    obtain rfl := Option.some.inj hs
    exact h.ended hl

theorem DeleteInv.of_reachable (h : (deletePage tokens).ReachableUnder DeletePage.KeepsView p) :
    DeleteInv p := by
  apply System.ReachableUnder.invariant _ _ h
  · rintro p ⟨-,hnone⟩
    constructor
    · simp [hnone]
    · simp [hnone]
  · exact fun _ _ _ hinv hkeeps hs => DeleteInv.step hinv hkeeps hs

/-- What a load captured is the view on the screen. -/
theorem Underway.sameMessages (h : Underway p.page loading) (gateway : Gateway) (w : World)
    (ref : ModemRef) : p.SameMessages gateway loading w ref := by
  refine ⟨p.page.states loading.state,?_,?_⟩
  · rw [Page.shown,h.shown]
    rfl
  · rw [viewIds,h.folder]

variable {sha256 : CString → Digest} {random : Nat → Option (Vector UInt8 16)} {w : World}

/-- Every dialog offers the folder captured, as it was at one revision.  It is in scope exactly when
the view on the screen has the same messages, and always so in a run that keeps the view. -/
theorem deleteAll_scope (gateway : Gateway) (hw : (smsSystem sha256 random).Reachable w)
    (hd : p.Dialog index turn loading ids)
    (hl : Loads gateway sha256 random loading.summary true maxSmsPages loading.folder w Pager.start
      turn) :
    ∃ loaded steps w₁ ref, turn = .done loaded ∧ (smsSystem sha256 random).Path w steps w₁ ∧
      OneInventory w₁ ref loading.folder loaded ∧
      (p.InScope gateway loading w₁ ref ids ↔ p.SameMessages gateway loading w₁ ref) ∧
      ((deletePage tokens).ReachableUnder DeletePage.KeepsView p →
        p.InScope gateway loading w₁ ref ids) := by
  obtain ⟨hloading,hoffered⟩ := hd
  obtain ⟨loaded,steps,w₁,ref,hturn,-,-,hpath,hone,hitems,hids⟩ :=
    hl.offered_inventory hw hoffered
  have hcaptured : ids = idsIn gateway w₁ ref loading.folder (p.page.states loading.state) := by
    rw [hids,hitems]
    rfl
  have hiff : p.InScope gateway loading w₁ ref ids ↔ p.SameMessages gateway loading w₁ ref := by
    rw [hcaptured]
    constructor
    · rintro ⟨state,hshown,hsame⟩
      exact ⟨state,hshown,hsame.symm⟩
    · rintro ⟨state,hshown,hsame⟩
      exact ⟨state,hshown,hsame.symm⟩
  refine ⟨loaded,steps,w₁,ref,hturn,hpath,hone,hiff,fun hp => ?_⟩
  have hunderway := (DeleteInv.of_reachable hp).underway loading (List.mem_of_getElem? hloading)
  exact hiff.mpr (hunderway.sameMessages gateway w₁ ref)

/-- What the dialog offers, the view on the screen and the folder captured, when the load is
answered by one page from a state. -/
def sampleOffer (w : World) (p : DeletePage) :
    Option (List CString × List CString × List CString) :=
  p.loadings[0]?.bind fun loading =>
    match listSmsReply (w.refresh (sampleBridge false))
        (pageRequest loading.summary loading.folder Pager.start) with
    | .error _ => none
    | .ok reply =>
      match Pager.start.turn loading.summary true maxSmsPages (sampleGateway.ofReply reply) with
      | .done loaded =>
        (offered (p.page.states loading.state) (.done loaded)).bind fun ids =>
          (p.page.shown loading.modemId).map fun state =>
            (ids,viewIds sampleGateway w 0 state,
              idsIn sampleGateway w 0 loading.folder (p.page.states loading.state))
      | _ => none

theorem sampleOffer_dialog {view captured : List CString}
    (h : sampleOffer w p = some (ids,view,captured)) :
    ∃ loading turn state, p.Dialog 0 turn loading ids ∧
      Loads sampleGateway sha256 random loading.summary true maxSmsPages loading.folder w
        Pager.start turn ∧
      p.page.shown loading.modemId = some state ∧ viewIds sampleGateway w 0 state = view ∧
      idsIn sampleGateway w 0 loading.folder (p.page.states loading.state) = captured := by
  obtain ⟨loading,hloading,h⟩ := Option.bind_eq_some_iff.mp h
  split at h
  · cases h
  rename_i reply hreply
  split at h
  · rename_i loaded hturn
    obtain ⟨ids,hoffered,h⟩ := Option.bind_eq_some_iff.mp h
    obtain ⟨state,hshown,h⟩ := Option.map_eq_some_iff.mp h
    simp only [Prod.mk.injEq] at h
    obtain ⟨rfl,hview,hcaptured⟩ := h
    exact ⟨loading,.done loaded,state,⟨hloading,hoffered⟩,
      .last (.nil w) (by simp) (.served hreply) hturn (by simp),hshown,hview,hcaptured⟩
  · cases h

def sampleDeletePage : DeletePage := ⟨samplePage,[]⟩

def sampleDeleteSystem : System DeletePage DeleteEvent := deletePage sampleTokens

def samplePrepare : List DeleteEvent :=
  [.page (.refreshed [sampleModemId]),.prepareDeleteAll 0 sampleEntry]

/-- While it is loading the page is refreshed, and Escape is pressed. -/
def sampleLoading : List DeleteEvent :=
  samplePrepare++[.page (.refreshed [sampleModemId]),.page (.escapeCard 0)]

theorem sampleLoading_offer : ((sampleIdSystem.run sampleStart sampleReported).bind fun w =>
    (sampleDeleteSystem.run sampleDeletePage sampleLoading).bind fun p => sampleOffer w p) =
    some ([sampleSmsId,sampleOtherId],[sampleSmsId,sampleOtherId],[sampleSmsId,sampleOtherId]) := by
  decide +kernel

theorem sampleLoading_keepsView {p : DeletePage}
    (hp : sampleDeleteSystem.run sampleDeletePage sampleLoading = some p) :
    sampleDeleteSystem.ReachableUnder DeletePage.KeepsView p := by
  have h₀ : sampleDeleteSystem.ReachableUnder DeletePage.KeepsView sampleDeletePage :=
    .start ⟨rfl,rfl⟩
  have hfirst : sampleDeletePage.KeepsView (.page (.refreshed [sampleModemId])) := by
    simp [DeletePage.KeepsView,sampleDeletePage]
  obtain ⟨p₁,hs₁,h₁,hrest⟩ := h₀.run_cons hfirst hp
  have hsecond : p₁.KeepsView (.prepareDeleteAll 0 sampleEntry) := by
    obtain rfl := Option.some.inj hs₁
    show List.lookup _ _ = some 0
    decide +kernel
  obtain ⟨p₂,hs₂,h₂,hrest⟩ := h₁.run_cons hsecond hrest
  have hthird : p₂.KeepsView (.page (.refreshed [sampleModemId])) := by
    intro loading hm
    have hloadings : p₂.loadings.map (·.modemId) = [sampleModemId] := by
      obtain rfl := Option.some.inj hs₁
      obtain rfl := Option.some.inj hs₂
      decide +kernel
    exact hloadings ▸ List.mem_map.mpr ⟨loading,hm,rfl⟩
  obtain ⟨p₃,hs₃,h₃,hrest⟩ := h₂.run_cons hthird hrest
  have hfourth : p₃.KeepsView (.page (.escapeCard 0)) := by
    obtain rfl := Option.some.inj hs₁
    obtain rfl := Option.some.inj hs₂
    obtain rfl := Option.some.inj hs₃
    show leavesFolder _ = false
    decide +kernel
  obtain ⟨p₄,hs₄,h₄,hrest⟩ := h₃.run_cons hfourth hrest
  exact Option.some.inj hrest ▸ h₄

theorem deleteAll_scope_sample : ∃ p w loading w₁ ref,
    sampleDeleteSystem.run sampleDeletePage sampleLoading = some p ∧
    sampleIdSystem.run sampleStart sampleReported = some w ∧
    p.InScope sampleGateway loading w₁ ref [sampleSmsId,sampleOtherId] := by
  obtain ⟨w,hw,hrest⟩ := Option.bind_eq_some_iff.mp sampleLoading_offer
  obtain ⟨p,hp,hoffer⟩ := Option.bind_eq_some_iff.mp hrest
  have hreachable : sampleIdSystem.Reachable w :=
    System.reachable_run (.start sampleStart_initial) hw
  obtain ⟨loading,turn,state,hd,hl,-⟩ := sampleOffer_dialog hoffer
  obtain ⟨-,-,w₁,ref,-,-,-,-,hscope⟩ := deleteAll_scope sampleGateway hreachable hd hl
  exact ⟨p,w,loading,w₁,ref,hp,hw,hscope (sampleLoading_keepsView hp)⟩

/-- Another folder is selected while the folder is loading. -/
theorem samplePrepare_folderChanged :
    ((sampleIdSystem.run sampleStart sampleReported).bind fun w =>
      (sampleDeleteSystem.run sampleDeletePage
        (samplePrepare++[.folderChanged 0 .draft])).bind fun p => sampleOffer w p) =
    some ([sampleSmsId,sampleOtherId],[],[sampleSmsId,sampleOtherId]) := by
  decide +kernel

/-- The dialog offers the messages of the folder that was left, where the view on the screen has
none. -/
theorem folderChanged_misleads : ∃ p w loading turn,
    sampleDeleteSystem.Reachable p ∧ sampleIdSystem.Reachable w ∧
    p.Dialog 0 turn loading [sampleSmsId,sampleOtherId] ∧
    Loads sampleGateway (fun _ => Vector.replicate 32 0) sampleRandom loading.summary true
      maxSmsPages loading.folder w Pager.start turn ∧
    idsIn sampleGateway w 0 loading.folder (p.page.states loading.state) =
      [sampleSmsId,sampleOtherId] ∧
    ¬p.InScope sampleGateway loading w 0 [sampleSmsId,sampleOtherId] := by
  obtain ⟨w,hw,hrest⟩ := Option.bind_eq_some_iff.mp samplePrepare_folderChanged
  obtain ⟨p,hp,hoffer⟩ := Option.bind_eq_some_iff.mp hrest
  have hstart : sampleDeleteSystem.Reachable sampleDeletePage := .start ⟨rfl,rfl⟩
  obtain ⟨loading,turn,state,hd,hl,hshown,hview,hcaptured⟩ := sampleOffer_dialog hoffer
  refine ⟨p,w,loading,turn,System.reachable_run hstart hp,
    System.reachable_run (.start sampleStart_initial) hw,hd,hl,hcaptured,?_⟩
  rintro ⟨other,hother,hsame⟩
  obtain rfl := Option.some.inj (hshown.symm.trans hother)
  rw [hview] at hsame
  simp at hsame

end SmsPage
end Frontend
end L850GL
