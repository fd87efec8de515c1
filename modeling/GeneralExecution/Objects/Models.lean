import GeneralExecution.Objects.Errors

namespace GeneralExecution

inductive ExecutionMode
  | readOnly
  | boundedWrite
deriving DecidableEq

instance : PyLiteral ExecutionMode where
  spelling
    | .readOnly     => "read_only"
    | .boundedWrite => "bounded_write"
  values           := [.readOnly, .boundedWrite]
  parse_spelling a := by cases a <;> rfl

inductive ResultStatus
  | completed
  | failed
deriving DecidableEq

instance : PyLiteral ResultStatus where
  spelling
    | .completed => "completed"
    | .failed    => "failed"
  values           := [.completed, .failed]
  parse_spelling a := by cases a <;> rfl

@[ext]
structure ArtifactRef where
  name     : String
  uri      : String
  digest   : String
  nonempty : ∀ x ∈ [("artifact.name", name), ("artifact.uri", uri)], ¬Text.Blank x.2
  isSha256 : IsSha256 digest
deriving DecidableEq

namespace ArtifactRef

def new (name uri digest : String) : Py ArtifactRef := do
  let ⟨h₁⟩ ← checkNonempty [("artifact.name", name), ("artifact.uri", uri)]
  let ⟨h₂⟩ ← Py.check (IsSha256 digest) .valueError <| sha256Message
    "artifact.digest must be a sha256:<64-hex> digest"
    "artifact.digest must contain 64 hexadecimal characters" digest
  return { name, uri, digest, nonempty := h₁, isSha256 := h₂ }

@[simp]
theorem new_eq (a : ArtifactRef) : new a.name a.uri a.digest = .ok a := by
  simp [new, checkNonempty_of a.nonempty, Py.check_of a.isSha256]

instance : AsDict ArtifactRef where
  asdict a := [("name", toPy a.name), ("uri", toPy a.uri), ("digest", toPy a.digest)]

end ArtifactRef

@[ext]
structure ExecutionSpec where
  producer             : String
  producerRevision     : String
  taskKind             : String
  objective            : String
  sourceRevision       : String
  requiredCapabilities : List String
  allowedScopes        : List String
  forbiddenActions     : List String
  evidenceRequirements : List String
  inputs               : List ArtifactRef
  authorityRef         : Option ArtifactRef
  metadata             : List (String × String)
  schemaVersion        : String := "ge.execution-spec.v1"
  nonempty :
    ∀ x ∈ [("producer", producer), ("producer_revision", producerRevision), ("task_kind", taskKind),
      ("objective", objective), ("source_revision", sourceRevision)], ¬Text.Blank x.2
  unique :
    ∀ x ∈ [("required_capabilities", requiredCapabilities), ("allowed_scopes", allowedScopes),
      ("forbidden_actions", forbiddenActions), ("evidence_requirements", evidenceRequirements)],
      x.2.Nodup
  uniqueKeys : (metadata.map Prod.fst).Nodup
deriving DecidableEq

namespace ExecutionSpec

def new (producer producerRevision taskKind objective sourceRevision : String)
    (requiredCapabilities allowedScopes forbiddenActions evidenceRequirements : List String)
    (inputs : List ArtifactRef) (authorityRef : Option ArtifactRef)
    (metadata : List (String × String)) : Py ExecutionSpec := do
  let ⟨h₁⟩ ← checkNonempty
    [("producer", producer), ("producer_revision", producerRevision), ("task_kind", taskKind),
      ("objective", objective), ("source_revision", sourceRevision)]
  let ⟨h₂⟩ ← checkUnique
    [("required_capabilities", requiredCapabilities), ("allowed_scopes", allowedScopes),
      ("forbidden_actions", forbiddenActions), ("evidence_requirements", evidenceRequirements)]
  let ⟨h₃⟩ ← Py.check (metadata.map Prod.fst).Nodup .valueError "metadata keys must be unique"
  return {
    producer, producerRevision, taskKind, objective, sourceRevision, requiredCapabilities,
    allowedScopes, forbiddenActions, evidenceRequirements, inputs, authorityRef, metadata,
    nonempty := h₁, unique := h₂, uniqueKeys := h₃ }

theorem new_eq (s : ExecutionSpec) (h : s.schemaVersion = "ge.execution-spec.v1") :
    new s.producer s.producerRevision s.taskKind s.objective s.sourceRevision
      s.requiredCapabilities s.allowedScopes s.forbiddenActions s.evidenceRequirements s.inputs
      s.authorityRef s.metadata = .ok s := by
  simp [new, checkNonempty_of s.nonempty, checkUnique_of s.unique,
    Py.check_of s.uniqueKeys, ExecutionSpec.ext_iff, h]

instance : AsDict ExecutionSpec where
  asdict s := [
    ("producer", toPy s.producer),
    ("producer_revision", toPy s.producerRevision),
    ("task_kind", toPy s.taskKind),
    ("objective", toPy s.objective),
    ("source_revision", toPy s.sourceRevision),
    ("required_capabilities", toPy s.requiredCapabilities),
    ("allowed_scopes", toPy s.allowedScopes),
    ("forbidden_actions", toPy s.forbiddenActions),
    ("evidence_requirements", toPy s.evidenceRequirements),
    ("inputs", toPy s.inputs),
    ("authority_ref", toPy s.authorityRef),
    ("metadata", toPy s.metadata),
    ("schema_version", toPy s.schemaVersion)]

end ExecutionSpec

@[ext]
structure RunnerCapabilities where
  runnerId       : String
  provider       : String
  adapter        : String
  adapterVersion : String
  capabilities   : List String
  modes          : List ExecutionMode
  maxParallelism : Nat
  nonempty :
    ∀ x ∈ [("runner_id", runnerId), ("provider", provider), ("adapter", adapter),
      ("adapter_version", adapterVersion)], ¬Text.Blank x.2
  unique : capabilities.Nodup ∧ modes.Nodup
  hasMode : modes ≠ []
  hasSlot : 1 ≤ maxParallelism
deriving DecidableEq

theorem RunnerCapabilities.runnerId_not_blank (r : RunnerCapabilities) : ¬Text.Blank r.runnerId :=
  r.nonempty ("runner_id", r.runnerId) (by simp)

instance : AsDict RunnerCapabilities where
  asdict r := [
    ("runner_id", toPy r.runnerId),
    ("provider", toPy r.provider),
    ("adapter", toPy r.adapter),
    ("adapter_version", toPy r.adapterVersion),
    ("capabilities", toPy r.capabilities),
    ("modes", toPy r.modes),
    ("max_parallelism", toPy r.maxParallelism)]

@[ext]
structure RunnerRegistry where
  runners       : List RunnerCapabilities
  schemaVersion : String := "ge.runner-registry.v1"
  uniqueIds     : (runners.map RunnerCapabilities.runnerId).Nodup
deriving DecidableEq

inductive DeferralReason
  | noCompatibleRunner
deriving DecidableEq

instance : PyLiteral DeferralReason where
  spelling _       := "no_compatible_runner"
  values           := [.noCompatibleRunner]
  parse_spelling a := by cases a; rfl

@[ext]
structure DispatchPlan where
  specId                 : String
  specDigest             : String
  registryDigest         : String
  mode                   : ExecutionMode
  runnerId               : Option String
  runnerCapabilityDigest : Option String
  deferralReason         : Option DeferralReason
  schemaVersion          : String := "ge.dispatch-plan.v1"
  bothOrNeither          : runnerId.isNone ↔ runnerCapabilityDigest.isNone
  deferredOrAssigned     : runnerId.isNone ↔ deferralReason.isSome
deriving DecidableEq

instance : AsDict DispatchPlan where
  asdict p := [
    ("spec_id", toPy p.specId),
    ("spec_digest", toPy p.specDigest),
    ("registry_digest", toPy p.registryDigest),
    ("mode", toPy p.mode),
    ("runner_id", toPy p.runnerId),
    ("runner_capability_digest", toPy p.runnerCapabilityDigest),
    ("deferral_reason", toPy p.deferralReason),
    ("schema_version", toPy p.schemaVersion)]

inductive SessionState
  | bound
  | running
  | resultSubmitted
  | revoked
deriving DecidableEq

instance : PyLiteral SessionState where
  spelling
    | .bound           => "bound"
    | .running         => "running"
    | .resultSubmitted => "result_submitted"
    | .revoked         => "revoked"
  values           := [.bound, .running, .resultSubmitted, .revoked]
  parse_spelling a := by cases a <;> rfl

@[ext]
structure ExecutionSession where
  specId                 : String
  specDigest             : String
  planId                 : String
  planDigest             : String
  runnerId               : String
  runnerCapabilityDigest : String
  mode                   : ExecutionMode
  attempt                : Nat
  state                  : SessionState := .bound
  resultDigest           : Option String := none
  schemaVersion          : String := "ge.execution-session.v1"
  hasAttempt             : 1 ≤ attempt
  resultIffSubmitted     : resultDigest.isSome ↔ state = .resultSubmitted
deriving DecidableEq

instance : AsDict ExecutionSession where
  asdict s := [
    ("spec_id", toPy s.specId),
    ("spec_digest", toPy s.specDigest),
    ("plan_id", toPy s.planId),
    ("plan_digest", toPy s.planDigest),
    ("runner_id", toPy s.runnerId),
    ("runner_capability_digest", toPy s.runnerCapabilityDigest),
    ("mode", toPy s.mode),
    ("attempt", toPy s.attempt),
    ("state", toPy s.state),
    ("result_digest", toPy s.resultDigest),
    ("schema_version", toPy s.schemaVersion)]

@[ext]
structure ResultEnvelope where
  sessionId       : String
  specId          : String
  specDigest      : String
  runnerId        : String
  attempt         : Nat
  status          : ResultStatus
  outputArtifacts : List ArtifactRef
  evidence        : List ArtifactRef
  summary         : String
  schemaVersion   : String := "ge.result-envelope.v1"
  nonempty :
    ∀ x ∈ [("session_id", sessionId), ("spec_id", specId), ("spec_digest", specDigest),
      ("runner_id", runnerId)], ¬Text.Blank x.2
  hasAttempt : 1 ≤ attempt
deriving DecidableEq

namespace ResultEnvelope

def new (sessionId specId specDigest runnerId : String) (attempt : Nat) (status : String)
    (outputArtifacts evidence : List ArtifactRef) (summary : String) : Py ResultEnvelope := do
  let ⟨h₁⟩ ← checkNonempty
    [("session_id", sessionId), ("spec_id", specId), ("spec_digest", specDigest),
      ("runner_id", runnerId)]
  let ⟨h₂⟩ ← Py.check (1 ≤ attempt) .valueError "attempt must be >= 1"
  let status ← Py.literal "status must be completed or failed" status
  return {
    sessionId, specId, specDigest, runnerId, attempt, status, outputArtifacts, evidence, summary,
    nonempty := h₁, hasAttempt := h₂ }

theorem new_eq (r : ResultEnvelope) (h : r.schemaVersion = "ge.result-envelope.v1") :
    new r.sessionId r.specId r.specDigest r.runnerId r.attempt (PyLiteral.spelling r.status)
      r.outputArtifacts r.evidence r.summary = .ok r := by
  simp [new, checkNonempty_of r.nonempty, Py.check_of r.hasAttempt,
    ResultEnvelope.ext_iff, h]

instance : AsDict ResultEnvelope where
  asdict r := [
    ("session_id", toPy r.sessionId),
    ("spec_id", toPy r.specId),
    ("spec_digest", toPy r.specDigest),
    ("runner_id", toPy r.runnerId),
    ("attempt", toPy r.attempt),
    ("status", toPy r.status),
    ("output_artifacts", toPy r.outputArtifacts),
    ("evidence", toPy r.evidence),
    ("summary", toPy r.summary),
    ("schema_version", toPy r.schemaVersion)]

end ResultEnvelope

section Digests

variable [Sha256]

def ExecutionSpec.digest (s : ExecutionSpec) : String :=
  sha256Digest (toPy s)

def ExecutionSpec.specId (s : ExecutionSpec) : String :=
  stableId "ges" (toPy s)

def RunnerCapabilities.digest (r : RunnerCapabilities) : String :=
  sha256Digest (toPy r)

-- The order of the runners in the registry does not matter.
def RunnerRegistry.digest (r : RunnerRegistry) : String :=
  sha256Digest <| .dict [
    ("schema_version", toPy r.schemaVersion),
    ("runners", toPy <| r.runners.mergeSort fun a b => a.runnerId ≤ b.runnerId)]

def DispatchPlan.digest (p : DispatchPlan) : String :=
  sha256Digest (toPy p)

def DispatchPlan.planId (p : DispatchPlan) : String :=
  stableId "gep" (toPy p)

def ExecutionSession.digest (s : ExecutionSession) : String :=
  sha256Digest (toPy s)

-- The state of a session is not part of its identity.
def ExecutionSession.identity (s : ExecutionSession) : PyValue :=
  .dict [
    ("spec_digest", toPy s.specDigest),
    ("plan_digest", toPy s.planDigest),
    ("runner_id", toPy s.runnerId),
    ("runner_capability_digest", toPy s.runnerCapabilityDigest),
    ("mode", toPy s.mode),
    ("attempt", toPy s.attempt)]

def ExecutionSession.sessionId (s : ExecutionSession) : String :=
  stableId "gex" s.identity

def ResultEnvelope.digest (r : ResultEnvelope) : String :=
  sha256Digest (toPy r)

end Digests

end GeneralExecution
