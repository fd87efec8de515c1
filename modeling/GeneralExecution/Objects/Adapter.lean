import GeneralExecution.Objects.Sessions
import GeneralExecution.Objects.Wire

namespace GeneralExecution

def referenceRunner : RunnerCapabilities where
  runnerId       := "reference-runner-1"
  provider       := "reference-provider"
  adapter        := "reference-adapter"
  adapterVersion := "1"
  capabilities   := ["reference.probe"]
  modes          := [.readOnly]
  maxParallelism := 1
  nonempty       := by decide
  unique         := by decide
  hasMode        := by decide
  hasSlot        := by decide

@[ext]
structure AdapterDispatchRequest where
  invocationId           : String
  sessionId              : String
  specId                 : String
  specDigest             : String
  planId                 : String
  planDigest             : String
  registryDigest         : String
  runnerId               : String
  runnerCapabilityDigest : String
  mode                   : String
  attempt                : Nat
  provider               : String
  adapter                : String
  adapterVersion         : String
  spec                   : ExecutionSpec
  schemaVersion          : String := "ge.adapter-dispatch.v1"
  inNamespace            : "gei-".toList <+: invocationId.toList
  hasAttempt             : 1 ≤ attempt

instance : DecidableEq AdapterDispatchRequest :=
  fun _ _ => decidable_of_iff _ AdapterDispatchRequest.ext_iff.symm

namespace AdapterDispatchRequest

def new (invocationId sessionId specId specDigest planId planDigest registryDigest runnerId
    runnerCapabilityDigest mode : String) (attempt : Nat) (provider adapter adapterVersion : String)
    (spec : ExecutionSpec) : Py AdapterDispatchRequest := do
  let ⟨h₁⟩ ← Py.check ("gei-".toList <+: invocationId.toList) .valueError
    "invocation_id must use the gei- namespace"
  let ⟨h₂⟩ ← Py.check (1 ≤ attempt) .valueError "attempt must be >= 1"
  return {
    invocationId, sessionId, specId, specDigest, planId, planDigest, registryDigest, runnerId,
    runnerCapabilityDigest, mode, attempt, provider, adapter, adapterVersion, spec,
    inNamespace := h₁, hasAttempt := h₂ }

theorem new_eq (r : AdapterDispatchRequest) (h : r.schemaVersion = "ge.adapter-dispatch.v1") :
    new r.invocationId r.sessionId r.specId r.specDigest r.planId r.planDigest r.registryDigest
      r.runnerId r.runnerCapabilityDigest r.mode r.attempt r.provider r.adapter r.adapterVersion
      r.spec = .ok r := by
  simp only [new, Py.check_of r.inNamespace, Py.check_of r.hasAttempt, Except.ok_bind]
  simp [AdapterDispatchRequest.ext_iff, h]

theorem invocationId_nonempty (r : AdapterDispatchRequest) : r.invocationId ≠ "" := by
  intro h
  simpa [h] using r.inNamespace

theorem invocationId_not_blank (r : AdapterDispatchRequest) : ¬Text.Blank r.invocationId := by
  have ⟨cs, h⟩ := r.inNamespace
  exact Text.not_blank_of_head h.symm (by decide)

instance : AsDict AdapterDispatchRequest where
  asdict r := [
    ("invocation_id", toPy r.invocationId),
    ("session_id", toPy r.sessionId),
    ("spec_id", toPy r.specId),
    ("spec_digest", toPy r.specDigest),
    ("plan_id", toPy r.planId),
    ("plan_digest", toPy r.planDigest),
    ("registry_digest", toPy r.registryDigest),
    ("runner_id", toPy r.runnerId),
    ("runner_capability_digest", toPy r.runnerCapabilityDigest),
    ("mode", toPy r.mode),
    ("attempt", toPy r.attempt),
    ("provider", toPy r.provider),
    ("adapter", toPy r.adapter),
    ("adapter_version", toPy r.adapterVersion),
    ("spec", toPy r.spec),
    ("schema_version", toPy r.schemaVersion)]

end AdapterDispatchRequest

def requestToDict (request : AdapterDispatchRequest) : PyDict := [
  ("schema_version", toPy request.schemaVersion),
  ("invocation_id", toPy request.invocationId),
  ("session_id", toPy request.sessionId),
  ("spec_id", toPy request.specId),
  ("spec_digest", toPy request.specDigest),
  ("plan_id", toPy request.planId),
  ("plan_digest", toPy request.planDigest),
  ("registry_digest", toPy request.registryDigest),
  ("runner_id", toPy request.runnerId),
  ("runner_capability_digest", toPy request.runnerCapabilityDigest),
  ("mode", toPy request.mode),
  ("attempt", toPy request.attempt),
  ("provider", toPy request.provider),
  ("adapter", toPy request.adapter),
  ("adapter_version", toPy request.adapterVersion),
  ("spec", .dict (specToDict request.spec))]

def requestFromDict (data : Json) : Py AdapterDispatchRequest := do
  Py.require (Field.hasSchema data "ge.adapter-dispatch.v1") .adapterError
    "unsupported adapter dispatch schema"
  AdapterDispatchRequest.new
    (← Field.get Read.string data "invocation_id")
    (← Field.get Read.string data "session_id")
    (← Field.get Read.string data "spec_id")
    (← Field.get Read.string data "spec_digest")
    (← Field.get Read.string data "plan_id")
    (← Field.get Read.string data "plan_digest")
    (← Field.get Read.string data "registry_digest")
    (← Field.get Read.string data "runner_id")
    (← Field.get Read.string data "runner_capability_digest")
    (← Field.get Read.string data "mode")
    (← Field.get (Read.nat "attempt must be >= 1") data "attempt")
    (← Field.get Read.string data "provider")
    (← Field.get Read.string data "adapter")
    (← Field.get Read.string data "adapter_version")
    (← Field.get specFromDict data "spec")

-- The schema versions that the wire form of a request is read with.
def AdapterDispatchRequest.Supported (r : AdapterDispatchRequest) : Prop :=
  r.schemaVersion = "ge.adapter-dispatch.v1" ∧ r.spec.schemaVersion = "ge.execution-spec.v1"

@[simp]
theorem requestFromDict_normalize {r r' : AdapterDispatchRequest} :
    requestFromDict (normalize (.dict (requestToDict r))) = .ok r' ↔ r.Supported ∧ r' = r := by
  have hd : distinctKeys (requestToDict r) = true := rfl
  simp only [requestFromDict, Py.require, Except.ensure, Field.get, Field.hasSchema,
    normalize_get? hd]
  by_cases h : r.schemaVersion = "ge.adapter-dispatch.v1"
  case pos =>
    simp [requestToDict, Json.lookup, AdapterDispatchRequest.Supported, h,
      and_assoc]
    intro _
    rw [AdapterDispatchRequest.new_eq r h, Except.ok.injEq, eq_comm]
  case neg => simp [requestToDict, Json.lookup, AdapterDispatchRequest.Supported, h]

section Requests

variable [Sha256]

def AdapterDispatchRequest.digest (r : AdapterDispatchRequest) : String :=
  sha256Digest (toPy r)

def verifyStaticBinding (spec : ExecutionSpec) (registry : RunnerRegistry) (plan : DispatchPlan)
    (session : ExecutionSession) (runner : RunnerCapabilities) : Py Unit := do
  Py.require (verifyPlan spec registry plan) .adapterError "dispatch plan does not reproduce"
  Py.require (runner ∈ registry.runners) .adapterError "runner is absent from registry"
  Py.require (session.state = .running) .adapterError "dispatch requires a running session"
  Py.require
    (session.specId = spec.specId ∧ session.specDigest = spec.digest ∧
      session.planId = plan.planId ∧ session.planDigest = plan.digest ∧
      plan.registryDigest = registry.digest ∧ session.runnerId = runner.runnerId ∧
      session.runnerCapabilityDigest = runner.digest ∧ session.mode = plan.mode)
    .adapterError "spec, registry, plan, runner, and session are not exactly bound"

-- `invocationId` is the name the caller gives, or the fresh one when it gives none.
def buildDispatchRequest (spec : ExecutionSpec) (registry : RunnerRegistry) (plan : DispatchPlan)
    (session : ExecutionSession) (runner : RunnerCapabilities) (invocationId : String) :
    Py AdapterDispatchRequest := do
  verifyStaticBinding spec registry plan session runner
  AdapterDispatchRequest.new
    invocationId
    session.sessionId
    spec.specId
    spec.digest
    plan.planId
    plan.digest
    registry.digest
    runner.runnerId
    runner.digest
    (PyLiteral.spelling session.mode)
    session.attempt
    runner.provider
    runner.adapter
    runner.adapterVersion
    spec

def verifyDispatchRequest (spec : ExecutionSpec) (registry : RunnerRegistry) (plan : DispatchPlan)
    (session : ExecutionSession) (runner : RunnerCapabilities) (request : AdapterDispatchRequest) :
    Bool :=
  match buildDispatchRequest spec registry plan session runner request.invocationId with
  | .ok expected => request = expected
  | .error _     => false

end Requests

end GeneralExecution
