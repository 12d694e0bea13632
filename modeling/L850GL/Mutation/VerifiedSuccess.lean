import L850GL.Mutation.WriteSafety

/-! A success is reported only after the whole verification, in its order, before the global
timeout. -/
namespace L850GL
namespace Mutation

open Cell

/-- Reset, adoption, registration, the matching read in its window and, for a set, the serving
cell lie behind every success, and the global timeout does not. -/
theorem l850Mutation_success_verified {s : State} (h : mutationSystem.Reachable s)
    {later past : List Observation} {serving : Option L850Cell}
    (htrace : s.trace = later++.succeeded serving::past) :
    Verified s.operation.lock past serving := by
  obtain ⟨object,hinv⟩ := reachable_inv h
  have hreasons := hinv.reasons
  rw [htrace] at hreasons
  exact hreasons.split

def succeeds : Observation → Bool
  | .succeeded _ => true
  | _ => false

theorem sampleRun_succeeds :
    (sampleRun sampleEvents).map (fun s => s.trace.any succeeds) = some true := by
  decide +kernel

theorem l850Mutation_success_verified_sample : ∃ s later past serving,
    sampleRun sampleEvents = some s ∧ s.trace = later++.succeeded serving::past ∧
      Verified s.operation.lock past serving := by
  obtain ⟨s,hs,hany⟩ := Option.map_eq_some_iff.mp sampleRun_succeeds
  obtain ⟨o,ho,hsucceeds⟩ := List.any_eq_true.mp hany
  obtain ⟨later,past,htrace⟩ := List.append_of_mem ho
  cases o with
  | succeeded serving =>
    exact ⟨s,later,past,serving,hs,htrace,
      l850Mutation_success_verified (sampleRun_reachable hs) htrace⟩
  | _ => cases hsucceeds

end Mutation
end L850GL
