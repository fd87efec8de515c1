import GeneralExecution.Objects.Models

namespace GeneralExecution

variable [Sha256]

def compatible (spec : ExecutionSpec) (mode : ExecutionMode) (runner : RunnerCapabilities) : Bool :=
  mode ∈ runner.modes ∧ spec.requiredCapabilities ⊆ runner.capabilities

-- The order of `(runner.runner_id, runner.digest)`.
def runnerLe (a b : RunnerCapabilities) : Bool :=
  a.runnerId < b.runnerId ∨ a.runnerId = b.runnerId ∧ a.digest ≤ b.digest

def planExecution (spec : ExecutionSpec) (registry : RunnerRegistry) (mode : ExecutionMode) :
    DispatchPlan :=
  match (registry.runners.filter (compatible spec mode)).mergeSort runnerLe with
  | [] => {
      specId                 := spec.specId
      specDigest             := spec.digest
      registryDigest         := registry.digest
      mode                   := mode
      runnerId               := none
      runnerCapabilityDigest := none
      deferralReason         := some .noCompatibleRunner
      bothOrNeither          := .rfl
      deferredOrAssigned     := by simp }
  | chosen :: _ => {
      specId                 := spec.specId
      specDigest             := spec.digest
      registryDigest         := registry.digest
      mode                   := mode
      runnerId               := some chosen.runnerId
      runnerCapabilityDigest := some chosen.digest
      deferralReason         := none
      bothOrNeither          := by simp
      deferredOrAssigned     := by simp }

def verifyPlan (spec : ExecutionSpec) (registry : RunnerRegistry) (plan : DispatchPlan) : Bool :=
  plan = planExecution spec registry plan.mode

def bindSession (spec : ExecutionSpec) (registry : RunnerRegistry) (plan : DispatchPlan)
    (attempt : Nat) : Py ExecutionSession := do
  Py.require (verifyPlan spec registry plan = true) .sessionError
    "dispatch plan does not reproduce from the supplied spec and registry"
  match plan.runnerId, plan.runnerCapabilityDigest with
  | some runnerId, some runnerCapabilityDigest =>
    let ⟨h⟩ ← Py.check (1 ≤ attempt) .valueError "attempt must be >= 1"
    return {
      specId                 := spec.specId
      specDigest             := spec.digest
      planId                 := plan.planId
      planDigest             := plan.digest
      runnerId               := runnerId
      runnerCapabilityDigest := runnerCapabilityDigest
      mode                   := plan.mode
      attempt                := attempt
      hasAttempt             := h
      resultIffSubmitted     := by simp }
  | _, _ => Py.raise .sessionError "cannot bind a deferred dispatch plan"

omit [Sha256] in
theorem ExecutionSession.no_result (s : ExecutionSession) (h : s.state ≠ .resultSubmitted) :
    s.resultDigest = none := by
  simpa using mt s.resultIffSubmitted.mp h

def startSession (session : ExecutionSession) : Py ExecutionSession :=
  if h : session.state = .bound then
    return { session with
      state              := .running
      resultIffSubmitted := by simp [session.no_result (by simp [h])] }
  else
    Py.raise .sessionError "only a bound session can start"

def revokeSession (session : ExecutionSession) : Py ExecutionSession :=
  if h : session.state = .bound ∨ session.state = .running then
    return { session with
      state              := .revoked
      resultIffSubmitted := by simp [session.no_result (by rcases h with h | h <;> simp [h])] }
  else
    Py.raise .sessionError "only a bound or running session can be revoked"

def submitResult (session : ExecutionSession) (result : ResultEnvelope) : Py ExecutionSession := do
  Py.require (session.state = .running) .sessionError "only a running session can submit a result"
  Py.require
    ((result.sessionId, result.specId, result.specDigest, result.runnerId, result.attempt) =
      (session.sessionId, session.specId, session.specDigest, session.runnerId, session.attempt))
    .sessionError "result is not bound to the exact active session"
  return { session with
    state              := .resultSubmitted
    resultDigest       := some result.digest
    resultIffSubmitted := by simp }

end GeneralExecution
