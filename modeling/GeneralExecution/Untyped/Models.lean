import GeneralExecution.Objects.PhysicalWire
import GeneralExecution.Untyped.Canonical

-- The records of a physical outcome as their decoder builds them: with whatever strings and
-- integers the members of the payload convert to.

namespace GeneralExecution.Untyped

def textList (ts : List PyText) : Value :=
  .list (ts.map .str)

def optional (t : Option PyText) : Value :=
  (t.map .str).getD .none

def record (ms : List (String × Value)) : Value :=
  .dict (ms.map fun m => (PyText.ofString m.1, m.2))

theorem finite_record {ms : List (String × Value)} :
    (record ms).finite = true ↔ ∀ m ∈ ms, m.2.finite = true := by
  rw [record, Value.finite_dict, List.forall_mem_map]

theorem digestible_record {ms : List (String × Value)} :
    (record ms).Digestible ↔ ∀ m ∈ ms, m.2.Digestible := by
  rw [record, Value.digestible_dict, List.forall_mem_map]
  exact forall₂_congr fun m _ => and_iff_right (PyText.noSurrogate_ofString m.1)

@[simp]
theorem finite_str (t : PyText) : (Value.str t).finite = true :=
  rfl

@[simp]
theorem finite_int (n : Int) : (Value.int n).finite = true :=
  rfl

@[simp]
theorem finite_textList (ts : List PyText) : (textList ts).finite = true :=
  Value.finite_list.mpr <| List.forall_mem_map.mpr fun _ _ => rfl

@[simp]
theorem finite_optional (t : Option PyText) : (optional t).finite = true := by
  cases t
  all_goals rfl

-- `_nonempty`
def checkNonempty (xs : List (String × PyText)) : Py (PLift (∀ x ∈ xs, x.2.blank = false)) :=
  checkAll (·.blank = false) (fun name _ => name ++ " must be non-empty") xs

-- A digest is checked in two steps, each with its own message.
def sha256Message (short digits : String) (t : PyText) : String :=
  if PyText.ofString "sha256:" <+: t ∧ t.length = 71 then digits else short

structure ArtifactRef where
  name     : PyText
  uri      : PyText
  digest   : PyText
  nonempty : ∀ x ∈ [("artifact.name", name), ("artifact.uri", uri)], x.2.blank = false
  isSha256 : digest.isSha256 = true
deriving DecidableEq

namespace ArtifactRef

def new (name uri digest : PyText) : Py ArtifactRef := do
  let ⟨h₁⟩ ← checkNonempty [("artifact.name", name), ("artifact.uri", uri)]
  let ⟨h₂⟩ ← Py.check (digest.isSha256 = true) .valueError <| sha256Message
    "artifact.digest must be a sha256:<64-hex> digest"
    "artifact.digest must contain 64 hexadecimal characters" digest
  return { name, uri, digest, nonempty := h₁, isSha256 := h₂ }

-- `artifact_to_dict`
def toDict (a : ArtifactRef) : Value :=
  record [("name", .str a.name), ("uri", .str a.uri), ("digest", .str a.digest)]

@[simp]
theorem finite_toDict (a : ArtifactRef) : a.toDict.finite = true := by
  simp [toDict, finite_record]

end ArtifactRef

structure ExecutionSpec where
  producer             : PyText
  producerRevision     : PyText
  taskKind             : PyText
  objective            : PyText
  sourceRevision       : PyText
  requiredCapabilities : List PyText
  allowedScopes        : List PyText
  forbiddenActions     : List PyText
  evidenceRequirements : List PyText
  inputs               : List ArtifactRef
  authorityRef         : Option ArtifactRef
  metadata             : List (PyText × PyText)
  nonempty :
    ∀ x ∈ [("producer", producer), ("producer_revision", producerRevision), ("task_kind", taskKind),
      ("objective", objective), ("source_revision", sourceRevision)], x.2.blank = false
  unique :
    ∀ x ∈ [("required_capabilities", requiredCapabilities), ("allowed_scopes", allowedScopes),
      ("forbidden_actions", forbiddenActions), ("evidence_requirements", evidenceRequirements)],
      x.2.Nodup
  uniqueKeys : (metadata.map Prod.fst).Nodup
deriving DecidableEq

namespace ExecutionSpec

def new (producer producerRevision taskKind objective sourceRevision : PyText)
    (requiredCapabilities allowedScopes forbiddenActions evidenceRequirements : List PyText)
    (inputs : List ArtifactRef) (authorityRef : Option ArtifactRef)
    (metadata : List (PyText × PyText)) : Py ExecutionSpec := do
  let ⟨h₁⟩ ← checkNonempty
    [("producer", producer), ("producer_revision", producerRevision), ("task_kind", taskKind),
      ("objective", objective), ("source_revision", sourceRevision)]
  let ⟨h₂⟩ ← checkUnique
    [("required_capabilities", requiredCapabilities), ("allowed_scopes", allowedScopes),
      ("forbidden_actions", forbiddenActions), ("evidence_requirements", evidenceRequirements)]
  let ⟨h₃⟩ ← Py.check (metadata.map Prod.fst).Nodup .valueError "metadata keys must be unique"
  return {
    producer, producerRevision, taskKind, objective, sourceRevision, requiredCapabilities,
    allowedScopes, forbiddenActions, evidenceRequirements, inputs, authorityRef, metadata,
    nonempty := h₁, unique := h₂, uniqueKeys := h₃ }

-- `spec_to_dict`, which has the members of `asdict`. A dictionary is written by the order of its
-- names, so the digest of a record is that of its dictionary.
def toDict (s : ExecutionSpec) : Value := record [
  ("schema_version", .str (PyText.ofString "ge.execution-spec.v1")),
  ("producer", .str s.producer),
  ("producer_revision", .str s.producerRevision),
  ("task_kind", .str s.taskKind),
  ("objective", .str s.objective),
  ("source_revision", .str s.sourceRevision),
  ("required_capabilities", textList s.requiredCapabilities),
  ("allowed_scopes", textList s.allowedScopes),
  ("forbidden_actions", textList s.forbiddenActions),
  ("evidence_requirements", textList s.evidenceRequirements),
  ("inputs", .list (s.inputs.map ArtifactRef.toDict)),
  ("authority_ref", (s.authorityRef.map ArtifactRef.toDict).getD .none),
  ("metadata", .list (s.metadata.map fun m => .list [.str m.1, .str m.2]))]

@[simp]
theorem finite_toDict (s : ExecutionSpec) : s.toDict.finite = true := by
  have ha : ((s.authorityRef.map ArtifactRef.toDict).getD .none).finite = true := by
    cases s.authorityRef
    case none   => rfl
    case some a => exact a.finite_toDict
  have hi : (Value.list (s.inputs.map ArtifactRef.toDict)).finite = true :=
    Value.finite_list.mpr <| List.forall_mem_map.mpr fun a _ => a.finite_toDict
  have hm : (Value.list (s.metadata.map fun m => .list [.str m.1, .str m.2])).finite = true :=
    Value.finite_list.mpr <| List.forall_mem_map.mpr fun _ _ => rfl
  simp [toDict, finite_record, ha, hi, hm]

end ExecutionSpec

structure ResultEnvelope where
  sessionId       : PyText
  specId          : PyText
  specDigest      : PyText
  runnerId        : PyText
  attempt         : Int
  status          : PyText
  outputArtifacts : List ArtifactRef
  evidence        : List ArtifactRef
  summary         : PyText
  nonempty :
    ∀ x ∈ [("session_id", sessionId), ("spec_id", specId), ("spec_digest", specDigest),
      ("runner_id", runnerId)], x.2.blank = false
  attempt_pos : 1 ≤ attempt
  status_mem  : status ∈ ["completed", "failed"].map PyText.ofString
deriving DecidableEq

namespace ResultEnvelope

def new (sessionId specId specDigest runnerId : PyText) (attempt : Int) (status : PyText)
    (outputArtifacts evidence : List ArtifactRef) (summary : PyText) : Py ResultEnvelope := do
  let ⟨h₁⟩ ← checkNonempty
    [("session_id", sessionId), ("spec_id", specId), ("spec_digest", specDigest),
      ("runner_id", runnerId)]
  let ⟨h₂⟩ ← Py.check (1 ≤ attempt) .valueError "attempt must be >= 1"
  let ⟨h₃⟩ ← Py.check (status ∈ ["completed", "failed"].map PyText.ofString) .valueError
    "status must be completed or failed"
  return {
    sessionId, specId, specDigest, runnerId, attempt, status, outputArtifacts, evidence, summary,
    nonempty := h₁, attempt_pos := h₂, status_mem := h₃ }

-- `result_to_dict`
def toDict (r : ResultEnvelope) : Value := record [
  ("schema_version", .str (PyText.ofString "ge.result-envelope.v1")),
  ("session_id", .str r.sessionId),
  ("spec_id", .str r.specId),
  ("spec_digest", .str r.specDigest),
  ("runner_id", .str r.runnerId),
  ("attempt", .int r.attempt),
  ("status", .str r.status),
  ("output_artifacts", .list (r.outputArtifacts.map ArtifactRef.toDict)),
  ("evidence", .list (r.evidence.map ArtifactRef.toDict)),
  ("summary", .str r.summary)]

@[simp]
theorem finite_toDict (r : ResultEnvelope) : r.toDict.finite = true := by
  simp [toDict, finite_record, Value.finite_list]

end ResultEnvelope

-- `result_to_dict(result) if result is not None else None`
def resultToDict? (r : Option ResultEnvelope) : Value :=
  (r.map ResultEnvelope.toDict).getD .none

@[simp]
theorem finite_resultToDict? (r : Option ResultEnvelope) : (resultToDict? r).finite = true := by
  cases r
  case none   => rfl
  case some r => exact r.finite_toDict

structure AdapterDispatchRequest where
  invocationId           : PyText
  sessionId              : PyText
  specId                 : PyText
  specDigest             : PyText
  planId                 : PyText
  planDigest             : PyText
  registryDigest         : PyText
  runnerId               : PyText
  runnerCapabilityDigest : PyText
  mode                   : PyText
  attempt                : Int
  provider               : PyText
  adapter                : PyText
  adapterVersion         : PyText
  spec                   : ExecutionSpec
  hasNamespace : PyText.ofString "gei-" <+: invocationId
  attempt_pos  : 1 ≤ attempt
deriving DecidableEq

namespace AdapterDispatchRequest

def new (invocationId sessionId specId specDigest planId planDigest registryDigest runnerId
    runnerCapabilityDigest mode : PyText) (attempt : Int) (provider adapter adapterVersion : PyText)
    (spec : ExecutionSpec) : Py AdapterDispatchRequest := do
  let ⟨h₁⟩ ← Py.check (PyText.ofString "gei-" <+: invocationId) .valueError
    "invocation_id must use the gei- namespace"
  let ⟨h₂⟩ ← Py.check (1 ≤ attempt) .valueError "attempt must be >= 1"
  return {
    invocationId, sessionId, specId, specDigest, planId, planDigest, registryDigest, runnerId,
    runnerCapabilityDigest, mode, attempt, provider, adapter, adapterVersion, spec,
    hasNamespace := h₁, attempt_pos := h₂ }

-- `request_to_dict`
def toDict (r : AdapterDispatchRequest) : Value := record [
  ("schema_version", .str (PyText.ofString "ge.adapter-dispatch.v1")),
  ("invocation_id", .str r.invocationId),
  ("session_id", .str r.sessionId),
  ("spec_id", .str r.specId),
  ("spec_digest", .str r.specDigest),
  ("plan_id", .str r.planId),
  ("plan_digest", .str r.planDigest),
  ("registry_digest", .str r.registryDigest),
  ("runner_id", .str r.runnerId),
  ("runner_capability_digest", .str r.runnerCapabilityDigest),
  ("mode", .str r.mode),
  ("attempt", .int r.attempt),
  ("provider", .str r.provider),
  ("adapter", .str r.adapter),
  ("adapter_version", .str r.adapterVersion),
  ("spec", r.spec.toDict)]

@[simp]
theorem finite_toDict (r : AdapterDispatchRequest) : r.toDict.finite = true := by
  simp [toDict, finite_record]

end AdapterDispatchRequest

structure PhysicalAttemptAuthorization where
  request               : AdapterDispatchRequest
  physicalAttempt       : Int
  previousInvocationId  : Option PyText
  previousReceiptDigest : Option PyText
  attempt_pos : 1 ≤ physicalAttempt
  first       : physicalAttempt = 1 → previousInvocationId = none ∧ previousReceiptDigest = none
  retry       : physicalAttempt ≠ 1 → previousInvocationId ≠ none ∧ previousReceiptDigest ≠ none
  isSha256    : ∀ d ∈ previousReceiptDigest, d.isSha256 = true
deriving DecidableEq

namespace PhysicalAttemptAuthorization

def new (request : AdapterDispatchRequest) (physicalAttempt : Int)
    (previousInvocationId previousReceiptDigest : Option PyText) :
    Py PhysicalAttemptAuthorization := do
  let ⟨h₁⟩ ← Py.check (1 ≤ physicalAttempt) .valueError "physical_attempt must be >= 1"
  let ⟨h₂⟩ ← Py.check
    (physicalAttempt = 1 → previousInvocationId = none ∧ previousReceiptDigest = none)
    .valueError "first physical attempt cannot have a predecessor"
  let ⟨h₃⟩ ← Py.check
    (physicalAttempt ≠ 1 → previousInvocationId ≠ none ∧ previousReceiptDigest ≠ none)
    .valueError "retry physical attempt requires predecessor bindings"
  let ⟨h₄⟩ ← Py.check (∀ d ∈ previousReceiptDigest, d.isSha256 = true) .valueError <| sha256Message
    "previous_receipt_digest must be sha256:<64-hex>"
    "previous_receipt_digest must contain 64 hexadecimal characters"
    (previousReceiptDigest.getD [])
  return {
    request, physicalAttempt, previousInvocationId, previousReceiptDigest,
    attempt_pos := h₁, first := h₂, retry := h₃, isSha256 := h₄ }

-- `physical_authorization_to_dict`
def toDict (a : PhysicalAttemptAuthorization) : Value := record [
  ("schema_version", .str (PyText.ofString "ge.physical-authorization.v1")),
  ("request", a.request.toDict),
  ("physical_attempt", .int a.physicalAttempt),
  ("previous_invocation_id", optional a.previousInvocationId),
  ("previous_receipt_digest", optional a.previousReceiptDigest)]

@[simp]
theorem finite_toDict (a : PhysicalAttemptAuthorization) : a.toDict.finite = true := by
  simp [toDict, finite_record]

end PhysicalAttemptAuthorization

def validTransportStatuses : List PyText :=
  ["completed", "rejected", "timed_out", "cancelled", "transport_failed"].map PyText.ofString

def completed : PyText :=
  PyText.ofString "completed"

-- `not text or not text.strip()`, of what may be absent.
def blankOrNone (t : Option PyText) : Bool :=
  t.all PyText.blank

structure PhysicalObservation where
  authorizationId      : PyText
  invocationId         : PyText
  requestDigest        : PyText
  providerInvocationId : Option PyText
  transportStatus      : PyText
  result               : Option ResultEnvelope
  failureCode          : Option PyText
  detailDigest         : Option PyText
  responseDigest       : PyText
  status_mem : transportStatus ∈ validTransportStatuses
  success :
    transportStatus = completed →
      result ≠ none ∧ failureCode = none ∧ blankOrNone providerInvocationId = false
  failure : transportStatus ≠ completed → result = none ∧ blankOrNone failureCode = false
deriving DecidableEq

namespace PhysicalObservation

def new (authorizationId invocationId requestDigest : PyText) (providerInvocationId : Option PyText)
    (transportStatus : PyText) (result : Option ResultEnvelope)
    (failureCode detailDigest : Option PyText) (responseDigest : PyText) :
    Py PhysicalObservation := do
  let ⟨h₁⟩ ← Py.check (transportStatus ∈ validTransportStatuses) .valueError
    "unsupported transport_status"
  let ⟨h₂⟩ ← Py.check
    (transportStatus = completed →
      result ≠ none ∧ failureCode = none ∧ blankOrNone providerInvocationId = false) .valueError
    (if result = none then "completed observation requires a result"
      else if failureCode ≠ none then "completed observation cannot carry failure_code"
      else "completed observation requires provider_invocation_id")
  let ⟨h₃⟩ ← Py.check
    (transportStatus ≠ completed → result = none ∧ blankOrNone failureCode = false) .valueError
    (if result ≠ none then "failed transport observation cannot carry a result"
      else "failed transport observation requires failure_code")
  return {
    authorizationId, invocationId, requestDigest, providerInvocationId, transportStatus, result,
    failureCode, detailDigest, responseDigest, status_mem := h₁, success := h₂, failure := h₃ }

-- `physical_observation_to_dict`
def toDict (o : PhysicalObservation) : Value := record [
  ("schema_version", .str (PyText.ofString "ge.physical-observation.v1")),
  ("authorization_id", .str o.authorizationId),
  ("invocation_id", .str o.invocationId),
  ("request_digest", .str o.requestDigest),
  ("provider_invocation_id", optional o.providerInvocationId),
  ("transport_status", .str o.transportStatus),
  ("result", resultToDict? o.result),
  ("failure_code", optional o.failureCode),
  ("detail_digest", optional o.detailDigest),
  ("response_digest", .str o.responseDigest)]

@[simp]
theorem finite_toDict (o : PhysicalObservation) : o.toDict.finite = true := by
  simp [toDict, finite_record]

end PhysicalObservation

structure PhysicalReceipt where
  authorizationId       : PyText
  authorizationDigest   : PyText
  invocationId          : PyText
  requestDigest         : PyText
  physicalAttempt       : Int
  previousInvocationId  : Option PyText
  previousReceiptDigest : Option PyText
  sessionId             : PyText
  runnerId              : PyText
  provider              : PyText
  adapter               : PyText
  adapterVersion        : PyText
  providerInvocationId  : Option PyText
  transportStatus       : PyText
  responseDigest        : PyText
  observationDigest     : PyText
  resultDigest          : Option PyText
  failureCode           : Option PyText
  attempt_pos : 1 ≤ physicalAttempt
  status_mem  : transportStatus ∈ validTransportStatuses
  success     : transportStatus = completed → resultDigest ≠ none ∧ failureCode = none
  failure :
    transportStatus ≠ completed →
      resultDigest = none ∧ failureCode ≠ none ∧ failureCode ≠ some []
deriving DecidableEq

namespace PhysicalReceipt

def new (authorizationId authorizationDigest invocationId requestDigest : PyText)
    (physicalAttempt : Int) (previousInvocationId previousReceiptDigest : Option PyText)
    (sessionId runnerId provider adapter adapterVersion : PyText)
    (providerInvocationId : Option PyText)
    (transportStatus responseDigest observationDigest : PyText)
    (resultDigest failureCode : Option PyText) : Py PhysicalReceipt := do
  let ⟨h₁⟩ ← Py.check (1 ≤ physicalAttempt) .valueError "physical_attempt must be >= 1"
  let ⟨h₂⟩ ← Py.check (transportStatus ∈ validTransportStatuses) .valueError
    "unsupported transport_status"
  let ⟨h₃⟩ ← Py.check (transportStatus = completed → resultDigest ≠ none ∧ failureCode = none)
    .valueError "completed receipt requires result_digest and no failure_code"
  let ⟨h₄⟩ ← Py.check
    (transportStatus ≠ completed →
      resultDigest = none ∧ failureCode ≠ none ∧ failureCode ≠ some [])
    .valueError "failure receipt requires failure_code and no result_digest"
  return {
    authorizationId, authorizationDigest, invocationId, requestDigest, physicalAttempt,
    previousInvocationId, previousReceiptDigest, sessionId, runnerId, provider, adapter,
    adapterVersion, providerInvocationId, transportStatus, responseDigest, observationDigest,
    resultDigest, failureCode, attempt_pos := h₁, status_mem := h₂, success := h₃, failure := h₄ }

-- `physical_receipt_to_dict`
def toDict (r : PhysicalReceipt) : Value := record [
  ("schema_version", .str (PyText.ofString "ge.physical-receipt.v1")),
  ("authorization_id", .str r.authorizationId),
  ("authorization_digest", .str r.authorizationDigest),
  ("invocation_id", .str r.invocationId),
  ("request_digest", .str r.requestDigest),
  ("physical_attempt", .int r.physicalAttempt),
  ("previous_invocation_id", optional r.previousInvocationId),
  ("previous_receipt_digest", optional r.previousReceiptDigest),
  ("session_id", .str r.sessionId),
  ("runner_id", .str r.runnerId),
  ("provider", .str r.provider),
  ("adapter", .str r.adapter),
  ("adapter_version", .str r.adapterVersion),
  ("provider_invocation_id", optional r.providerInvocationId),
  ("transport_status", .str r.transportStatus),
  ("response_digest", .str r.responseDigest),
  ("observation_digest", .str r.observationDigest),
  ("result_digest", optional r.resultDigest),
  ("failure_code", optional r.failureCode)]

@[simp]
theorem finite_toDict (r : PhysicalReceipt) : r.toDict.finite = true := by
  simp [toDict, finite_record]

end PhysicalReceipt

structure PhysicalOutcomeBundle where
  authorization : PhysicalAttemptAuthorization
  observation   : PhysicalObservation
  receipt       : PhysicalReceipt
  result        : Option ResultEnvelope
deriving DecidableEq

-- `physical_outcome_to_dict`
def PhysicalOutcomeBundle.toDict (b : PhysicalOutcomeBundle) : Value := record [
  ("schema_version", .str (PyText.ofString physicalOutcomeWireSchema)),
  ("authorization", b.authorization.toDict),
  ("observation", b.observation.toDict),
  ("receipt", b.receipt.toDict),
  ("result", resultToDict? b.result)]

theorem PhysicalOutcomeBundle.finite_toDict (b : PhysicalOutcomeBundle) :
    b.toDict.finite = true := by
  simp [toDict, finite_record]

end GeneralExecution.Untyped
