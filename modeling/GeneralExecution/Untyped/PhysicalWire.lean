import GeneralExecution.Untyped.Models

namespace GeneralExecution.Untyped

variable [Builtins]

-- `str(data[k])`
def text (data : Value) (k : String) : Py PyText := do
  return (← data.index k).toStr

-- `str(data[k]) if data.get(k) is not None else None`
def text? (data : Value) (k : String) : Py (Option PyText) := do
  if (← data.get k .none).isNone then return none
  else return some (← text data k)

-- `int(data[k])`
def integer (data : Value) (k : String) : Py Int := do
  (← data.index k).toInt

-- `for item in data.get(k, [])`
def items (data : Value) (k : String) : Py (List Value) := do
  (← data.get k (.list [])).iter

-- `tuple(str(item) for item in data.get(k, []))`
def texts (data : Value) (k : String) : Py (List PyText) := do
  return (← items data k).map Value.toStr

def isText (v : Value) (s : String) : Bool :=
  v.eq (.str (PyText.ofString s))

def hasSchema (data : Value) (schema : String) : Bool :=
  data.isDict && isText ((data.member? "schema_version").getD .none) schema

-- A schema that `data` may leave out.
def hasSchema? (data : Value) (schema : String) : Py Bool := do
  return isText (← data.get "schema_version" (.str (PyText.ofString schema))) schema

def artifactFromDict (data : Value) : Py ArtifactRef := do
  ArtifactRef.new (← text data "name") (← text data "uri") (← text data "digest")

-- `tuple(artifact_from_dict(item) for item in data.get(k, []))`
def artifacts (data : Value) (k : String) : Py (List ArtifactRef) := do
  (← items data k).mapM artifactFromDict

def metadataFromDict (data : Value) : Py (List (PyText × PyText)) := do
  (← items data "metadata").mapM fun item => do
    let (key, value) ← item.unpackPair
    return (key.toStr, value.toStr)

-- `artifact_from_dict(value) if value else None`
def artifactFromDict? (value : Value) : Py (Option ArtifactRef) := do
  if value.truthy then return some (← artifactFromDict value)
  else return none

def specFromDict (data : Value) : Py ExecutionSpec := do
  Py.require ((← hasSchema? data "ge.execution-spec.v1") = true) .valueError
    "unsupported execution spec schema"
  let authority ← data.get "authority_ref" .none
  ExecutionSpec.new
    (← text data "producer")
    (← text data "producer_revision")
    (← text data "task_kind")
    (← text data "objective")
    (← text data "source_revision")
    (← texts data "required_capabilities")
    (← texts data "allowed_scopes")
    (← texts data "forbidden_actions")
    (← texts data "evidence_requirements")
    (← artifacts data "inputs")
    (← artifactFromDict? authority)
    (← metadataFromDict data)

def resultFromDict (data : Value) : Py ResultEnvelope := do
  Py.require ((← hasSchema? data "ge.result-envelope.v1") = true) .valueError
    "unsupported result envelope schema"
  ResultEnvelope.new
    (← text data "session_id")
    (← text data "spec_id")
    (← text data "spec_digest")
    (← text data "runner_id")
    (← integer data "attempt")
    (← text data "status")
    (← artifacts data "output_artifacts")
    (← artifacts data "evidence")
    (← data.get "summary" (.str [])).toStr

-- `result_from_dict(value) if value is not None else None`
def resultFromDict? (value : Value) : Py (Option ResultEnvelope) := do
  if value.isNone then return none
  else return some (← resultFromDict value)

def requestFromDict (data : Value) : Py AdapterDispatchRequest := do
  Py.require (isText (← data.get "schema_version" .none) "ge.adapter-dispatch.v1" = true)
    .adapterError "unsupported adapter dispatch schema"
  AdapterDispatchRequest.new
    (← text data "invocation_id")
    (← text data "session_id")
    (← text data "spec_id")
    (← text data "spec_digest")
    (← text data "plan_id")
    (← text data "plan_digest")
    (← text data "registry_digest")
    (← text data "runner_id")
    (← text data "runner_capability_digest")
    (← text data "mode")
    (← integer data "attempt")
    (← text data "provider")
    (← text data "adapter")
    (← text data "adapter_version")
    (← specFromDict (← data.index "spec"))

def physicalAuthorizationFromDict (data : Value) : Py PhysicalAttemptAuthorization := do
  Py.require (hasSchema data "ge.physical-authorization.v1" = true) .physicalOutcomeCodecError
    "unsupported physical authorization schema"
  .wrap [.keyError, .typeError, .valueError, .adapterError] .physicalOutcomeCodecError
    "invalid physical authorization payload" do
      PhysicalAttemptAuthorization.new
        (← requestFromDict (← data.index "request"))
        (← integer data "physical_attempt")
        (← text? data "previous_invocation_id")
        (← text? data "previous_receipt_digest")

def physicalObservationFromDict (data : Value) : Py PhysicalObservation := do
  Py.require (hasSchema data "ge.physical-observation.v1" = true) .physicalOutcomeCodecError
    "unsupported physical observation schema"
  .wrap [.keyError, .typeError, .valueError] .physicalOutcomeCodecError
    "invalid physical observation payload" do
      let result ← resultFromDict? (← data.get "result" .none)
      PhysicalObservation.new
        (← text data "authorization_id")
        (← text data "invocation_id")
        (← text data "request_digest")
        (← text? data "provider_invocation_id")
        (← text data "transport_status")
        result
        (← text? data "failure_code")
        (← text? data "detail_digest")
        (← text data "response_digest")

def physicalReceiptFromDict (data : Value) : Py PhysicalReceipt := do
  Py.require (hasSchema data "ge.physical-receipt.v1" = true) .physicalOutcomeCodecError
    "unsupported physical receipt schema"
  .wrap [.keyError, .typeError, .valueError] .physicalOutcomeCodecError
    "invalid physical receipt payload" do
      PhysicalReceipt.new
        (← text data "authorization_id")
        (← text data "authorization_digest")
        (← text data "invocation_id")
        (← text data "request_digest")
        (← integer data "physical_attempt")
        (← text? data "previous_invocation_id")
        (← text? data "previous_receipt_digest")
        (← text data "session_id")
        (← text data "runner_id")
        (← text data "provider")
        (← text data "adapter")
        (← text data "adapter_version")
        (← text? data "provider_invocation_id")
        (← text data "transport_status")
        (← text data "response_digest")
        (← text data "observation_digest")
        (← text? data "result_digest")
        (← text? data "failure_code")

section Verification

variable [Sha256]

def responseDigest (authorization : PhysicalAttemptAuthorization)
    (providerInvocationId : Option PyText) (transportStatus : PyText)
    (result : Option ResultEnvelope) (failureCode detailDigest : Option PyText) : Py PyText := do
  sha256Digest <| record [
    ("protocol", .str (PyText.ofString "ge.physical-outcome.v1")),
    ("authorization_id", .str (← stableId "gea" authorization.toDict)),
    ("authorization_digest", .str (← sha256Digest authorization.toDict)),
    ("invocation_id", .str authorization.request.invocationId),
    ("request_digest", .str (← sha256Digest authorization.request.toDict)),
    ("physical_attempt", .int authorization.physicalAttempt),
    ("provider_invocation_id", optional providerInvocationId),
    ("transport_status", .str transportStatus),
    ("result", resultToDict? result),
    ("failure_code", optional failureCode),
    ("detail_digest", optional detailDigest)]

def verifyResultBinding (request : AdapterDispatchRequest) (result : ResultEnvelope) : Bool :=
  result.sessionId = request.sessionId &&
    result.specId = request.specId &&
    result.specDigest = request.specDigest &&
    result.runnerId = request.runnerId &&
    result.attempt = request.attempt

-- The response has been computed from the digests that are compared here.
def verifyObservationAgainstAuthorization (authorization : PhysicalAttemptAuthorization)
    (observation : PhysicalObservation) : Py Bool := do
  let request := authorization.request
  let expected ← responseDigest authorization observation.providerInvocationId
    observation.transportStatus observation.result observation.failureCode observation.detailDigest
  let authorizationId ← stableId "gea" authorization.toDict
  let requestDigest ← sha256Digest request.toDict
  return observation.authorizationId = authorizationId &&
    observation.invocationId = request.invocationId &&
    observation.requestDigest = requestDigest &&
    observation.responseDigest = expected &&
    observation.result.all (verifyResultBinding request)

-- The digest of the observation is taken only when everything before it agrees.
def verifyReceipt (authorization : PhysicalAttemptAuthorization)
    (observation : PhysicalObservation) (receipt : PhysicalReceipt) : Py Bool := do
  let request := authorization.request
  let authorizationId ← stableId "gea" authorization.toDict
  let authorizationDigest ← sha256Digest authorization.toDict
  let requestDigest ← sha256Digest request.toDict
  if receipt.authorizationId = authorizationId ∧
      receipt.authorizationDigest = authorizationDigest ∧
      receipt.invocationId = request.invocationId ∧
      receipt.requestDigest = requestDigest ∧
      receipt.physicalAttempt = authorization.physicalAttempt ∧
      receipt.previousInvocationId = authorization.previousInvocationId ∧
      receipt.previousReceiptDigest = authorization.previousReceiptDigest ∧
      receipt.sessionId = request.sessionId ∧
      receipt.runnerId = request.runnerId ∧
      receipt.provider = request.provider ∧
      receipt.adapter = request.adapter ∧
      receipt.adapterVersion = request.adapterVersion ∧
      receipt.providerInvocationId = observation.providerInvocationId ∧
      receipt.transportStatus = observation.transportStatus ∧
      receipt.responseDigest = observation.responseDigest then
    return receipt.observationDigest = (← sha256Digest observation.toDict) &&
      receipt.failureCode = observation.failureCode
  else
    return false

-- `_verify_intrinsic_outcome`
def verifyIntrinsicOutcome (bundle : PhysicalOutcomeBundle) : Py Bool := do
  let observation := bundle.observation
  if observation.result = bundle.result then
    if ← verifyObservationAgainstAuthorization bundle.authorization observation then
      if ← verifyReceipt bundle.authorization observation bundle.receipt then
        if observation.transportStatus = completed then
          match bundle.result with
          | none        => return false
          | some result =>
            return bundle.receipt.resultDigest = some (← sha256Digest result.toDict) &&
              verifyResultBinding bundle.authorization.request result
        else
          return bundle.result.isNone && bundle.receipt.resultDigest.isNone &&
            decide (observation.transportStatus ∈ validTransportStatuses.erase completed)
      else return false
    else return false
  else return false

def outcomeParts (data : Value) : Py PhysicalOutcomeBundle := do
  let authorization ← physicalAuthorizationFromDict (← data.index "authorization")
  let observation ← physicalObservationFromDict (← data.index "observation")
  let receipt ← physicalReceiptFromDict (← data.index "receipt")
  let result ← resultFromDict? (← data.get "result" .none)
  return { authorization, observation, receipt, result }

def physicalOutcomeFromDict (data : Value) : Py PhysicalOutcomeBundle := do
  Py.require (hasSchema data physicalOutcomeWireSchema = true) .physicalOutcomeCodecError
    "unsupported physical outcome wire schema"
  let outcome ← wrapUnlessCodec "invalid physical outcome payload" (outcomeParts data)
  Py.require ((← verifyIntrinsicOutcome outcome) = true) .physicalOutcomeCodecError
    "physical outcome payload fails intrinsic verification"
  return outcome

def serializePhysicalOutcome (outcome : PhysicalOutcomeBundle) : Py PyText := do
  Py.require ((← verifyIntrinsicOutcome outcome) = true) .physicalOutcomeCodecError
    "physical outcome fails intrinsic verification"
  canonicalJson outcome.toDict

def deserializePhysicalOutcome (payload : PyText) : Py PhysicalOutcomeBundle := do
  let data ← loads .physicalOutcomeCodecError "physical outcome payload is not valid JSON" payload
  let outcome ← physicalOutcomeFromDict data
  Py.require ((← serializePhysicalOutcome outcome) = payload) .physicalOutcomeCodecError
    "physical outcome payload is not canonical"
  return outcome

end Verification

end GeneralExecution.Untyped
