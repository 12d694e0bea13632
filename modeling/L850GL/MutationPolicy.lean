import Mathlib.Tactic.Common

/-! NVM observation counting and the reset verdict of `l850_mutation_policy.c`. -/
namespace L850GL
namespace MutationPolicy

inductive NvmVerifyStage
  | preReset | postReset
  deriving DecidableEq,Repr

inductive NvmObservation
  | matched | mismatch | invalid
  deriving DecidableEq,Repr

inductive NvmDecision
  | retry | ready | failInvalid
  deriving DecidableEq,Repr

structure NvmVerifier where
  stage : NvmVerifyStage
  consecutiveMatches : Nat
  deriving DecidableEq,Repr

inductive ResetFinish
  | clean | uncertain | unclassifiedFailure | definiteFailure
  deriving DecidableEq,Repr

def requiredMatches : NvmVerifyStage → Nat
  | .preReset => 2
  | .postReset => 1

def l850glNvmVerifierInit (stage : NvmVerifyStage) : NvmVerifier := ⟨stage,0⟩

def l850glNvmVerifierObserve (verifier : NvmVerifier) (observation : NvmObservation) :
    NvmVerifier × NvmDecision :=
  let required := requiredMatches verifier.stage
  match observation with
  | .invalid => ({verifier with consecutiveMatches := 0},.failInvalid)
  | .mismatch => ({verifier with consecutiveMatches := 0},.retry)
  | .matched =>
    let seen := if verifier.consecutiveMatches < required then verifier.consecutiveMatches+1
      else verifier.consecutiveMatches
    ({verifier with consecutiveMatches := seen},if seen ≥ required then .ready else .retry)

def l850glResetFinishShouldReprobe : ResetFinish → Bool
  | .clean | .uncertain | .unclassifiedFailure => true
  | .definiteFailure => false

@[simp] theorem l850glNvmVerifierObserve_stage (v : NvmVerifier) (o : NvmObservation) :
    (l850glNvmVerifierObserve v o).1.stage = v.stage := by
  cases o <;> rfl

/-- Only a match can make the verifier ready. -/
theorem l850glNvmVerifierObserve_ready {v : NvmVerifier} {o : NvmObservation}
    (h : (l850glNvmVerifierObserve v o).2 = .ready) :
    o = .matched ∧ requiredMatches v.stage ≤ v.consecutiveMatches+1 := by
  cases o with
  | invalid => simp [l850glNvmVerifierObserve] at h
  | mismatch => simp [l850glNvmVerifierObserve] at h
  | matched =>
    refine ⟨rfl,?_⟩
    simp only [l850glNvmVerifierObserve] at h
    split at h <;> simp_all
    omega

/-- A retry has either forgotten the matches or counted one more below the bound. -/
theorem l850glNvmVerifierObserve_retry {v : NvmVerifier} {o : NvmObservation}
    (h : (l850glNvmVerifierObserve v o).2 = .retry) :
    (l850glNvmVerifierObserve v o).1.consecutiveMatches = 0 ∨ o = .matched ∧
      (l850glNvmVerifierObserve v o).1.consecutiveMatches = v.consecutiveMatches+1 ∧
      v.consecutiveMatches+1 < requiredMatches v.stage := by
  cases o with
  | invalid => simp [l850glNvmVerifierObserve] at h
  | mismatch => exact .inl rfl
  | matched =>
    right
    simp only [l850glNvmVerifierObserve] at h ⊢
    split at h <;> simp_all

end MutationPolicy
end L850GL
