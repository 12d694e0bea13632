import L850GL.Registry.Identity

/-! The table holds a bounded number of records, each under an identifier of the bridge's own
form. -/
namespace L850GL
namespace Registry

open Identity Sms

/-- The table is within its capacity, and its records are validly named. -/
structure Listed (r : Registry) : Prop where
  bounded : r.modemsByPath.length ≤ maxAdmittedModems
  named : ∀ ref ∈ r.admittedRefs,l850glIdentityIsValid (r.modems ref).modemId = true

variable {r r' : Registry} {random : Nat → Option (Vector UInt8 16)} {ref : ModemRef}
  {path : CString}

theorem Listed.shrink (h : Listed r) (htable : r'.modemsByPath.Sublist r.modemsByPath)
    (hids : ∀ ref,(r'.modems ref).modemId = (r.modems ref).modemId) : Listed r' := by
  constructor
  · exact Nat.le_trans htable.length_le h.bounded
  · intro ref hm
    rw [hids]
    exact h.named ref ((htable.map Prod.snd).subset hm)

theorem drawModemId_valid {taken : CString → Bool} {tries drawn : Nat} {modemId : CString}
    (h : (drawModemId random taken tries drawn).1 = some modemId) :
    l850glIdentityIsValid modemId = true := by
  induction tries generalizing drawn with
  | zero => simp [drawModemId] at h
  | succ tries ih =>
    simp only [drawModemId] at h
    split at h
    · cases h
    · rename_i candidate hdrawn
      split at h
      · exact ih h
      · obtain rfl := Option.some.inj h
        exact tokenIsValid_generate hdrawn

theorem Listed.reconcileMessaging (h : Listed r) (ref : ModemRef) (forceEpoch : Bool)
    (messaging : Option Nat) : Listed (r.reconcileMessaging ref forceEpoch messaging) := by
  rw [Registry.reconcileMessaging]
  split
  · exact h
  · exact h.shrink (List.Sublist.refl _) fun _ => rfl

theorem Listed.removePath (h : Listed r) (path : CString) : Listed (r.removePath path) := by
  rw [Registry.removePath]
  split
  · exact h
  · exact h.shrink List.filter_sublist fun other => ((modemMarkRemoved_same r _).ids other).1

theorem Listed.clearModems (h : Listed r) : Listed r.clearModems :=
  h.shrink (List.nil_sublist _) fun ref =>
    ((foldl_modemMarkRemoved r.modemsByPath r).1.ids ref).1

/-- A record with a valid identifier takes a free place. -/
theorem Listed.insert (h : Listed r) (modem : Modem)
    (hvalid : l850glIdentityIsValid modem.modemId = true)
    (hroom : r.modemsByPath.length < maxAdmittedModems)
    (hmodems : r'.modems = Function.update r.modems r.next modem)
    (htable : r'.modemsByPath = AssocList.put r.modemsByPath path r.next) : Listed r' := by
  constructor
  · rw [htable]
    have hle := AssocList.length_put_le r.modemsByPath path r.next
    omega
  · intro ref hm
    rw [hmodems]
    by_cases hnew : ref = r.next
    · rw [hnew,Function.update_self]
      exact hvalid
    · rw [Function.update_of_ne hnew]
      rw [admittedRefs,htable] at hm
      obtain ⟨entry,hentry,rfl⟩ := List.mem_map.mp hm
      rcases AssocList.mem_put.mp hentry with hold | rfl
      · exact h.named _ (List.mem_map.mpr ⟨entry,hold.1,rfl⟩)
      · exact absurd rfl hnew

theorem Listed.reconcileObject (h : Listed r) (object : GDBusObject) :
    Listed (r.reconcileObject random object) := by
  rw [Registry.reconcileObject]
  split
  · exact h.removePath object.path
  split
  · exact h.reconcileMessaging _ _ _
  split
  · exact h
  rename_i hroom
  split
  · exact h
  split
  · rename_i hnone
    obtain ⟨-,rfl⟩ := Prod.mk.inj hnone
    exact ⟨h.bounded,h.named⟩
  · rename_i modemId drawn hnew
    obtain ⟨hid,rfl⟩ := Prod.mk.inj hnew
    refine Listed.reconcileMessaging (h.insert (newModem (r.modems r.next) _ modemId _)
      (drawModemId_valid hid) (Nat.lt_of_not_le hroom) rfl rfl) _ _ _

theorem Listed.reconcileAll (h : Listed r) (objects : List GDBusObject) :
    Listed (r.reconcileAll random objects) := by
  rw [Registry.reconcileAll]
  induction objects generalizing r with
  | nil => exact h
  | cons object objects ih => exact ih (h.reconcileObject object)

theorem Listed.step {event : Event} (h : Listed r) (hs : step random r event = some r') :
    Listed r' := by
  cases event with
  | reconcileObject object =>
    obtain rfl := Option.some.inj hs
    exact h.reconcileObject object
  | objectRemoved path =>
    obtain rfl := Option.some.inj hs
    exact h.removePath path
  | propertiesChanged object modemInterface simUpdated primarySlotUpdated =>
    obtain rfl := Option.some.inj hs
    have hobject : Listed (r.reconcileObject random object) := h.reconcileObject object
    simp only [propertiesChanged]
    split
    · exact hobject
    · split
      · exact hobject.reconcileMessaging _ _ _
      · exact hobject
  | reconcileAll objects =>
    obtain rfl := Option.some.inj hs
    exact h.reconcileAll objects
  | nameOwnerChanged owner objects =>
    obtain rfl := Option.some.inj hs
    split
    · exact h.reconcileAll objects
    · exact h.clearModems
  | clearManagerConnection =>
    obtain rfl := Option.some.inj hs
    exact h.clearModems
  | used modems messaging =>
    obtain rfl := Option.some.inj hs
    exact h.shrink (List.Sublist.refl _) fun _ => rfl

theorem Listed.of_initial (h : Initial r) : Listed r := by
  constructor
  · simp [h.modemsByPath]
  · simp [admittedRefs,h.modemsByPath]

end Registry
end L850GL
