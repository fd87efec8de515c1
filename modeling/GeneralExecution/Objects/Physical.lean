import GeneralExecution.Objects.Adapter

namespace GeneralExecution

inductive TransportStatus
  | completed
  | rejected
  | timedOut
  | cancelled
  | transportFailed
deriving DecidableEq

instance : PyLiteral TransportStatus where
  spelling
    | .completed       => "completed"
    | .rejected        => "rejected"
    | .timedOut        => "timed_out"
    | .cancelled       => "cancelled"
    | .transportFailed => "transport_failed"
  values           := [.completed, .rejected, .timedOut, .cancelled, .transportFailed]
  parse_spelling a := by cases a <;> rfl

-- Exactly the first physical attempt has no predecessor.
def ChainOk (physicalAttempt : Nat) (previousInvocationId previousReceiptDigest : Option String) :
    Prop :=
  if physicalAttempt = 1 then previousInvocationId = none ∧ previousReceiptDigest = none
  else previousInvocationId.isSome ∧ previousReceiptDigest.isSome

instance (physicalAttempt : Nat) (previousInvocationId previousReceiptDigest : Option String) :
    Decidable (ChainOk physicalAttempt previousInvocationId previousReceiptDigest) := by
  unfold ChainOk
  infer_instance

@[ext]
structure PhysicalAttemptAuthorization where
  request               : AdapterDispatchRequest
  physicalAttempt       : Nat
  previousInvocationId  : Option String
  previousReceiptDigest : Option String
  schemaVersion         : String := "ge.physical-authorization.v1"
  hasAttempt            : 1 ≤ physicalAttempt
  chain                 : ChainOk physicalAttempt previousInvocationId previousReceiptDigest
  isSha256              : ∀ d ∈ previousReceiptDigest, IsSha256 d

instance : DecidableEq PhysicalAttemptAuthorization :=
  fun _ _ => decidable_of_iff _ PhysicalAttemptAuthorization.ext_iff.symm

namespace PhysicalAttemptAuthorization

def new (request : AdapterDispatchRequest) (physicalAttempt : Nat)
    (previousInvocationId previousReceiptDigest : Option String) :
    Py PhysicalAttemptAuthorization := do
  let ⟨h₁⟩ ← Py.check (1 ≤ physicalAttempt) .valueError "physical_attempt must be >= 1"
  let ⟨h₂⟩ ← Py.check (ChainOk physicalAttempt previousInvocationId previousReceiptDigest)
    .valueError <|
      if physicalAttempt = 1 then "first physical attempt cannot have a predecessor"
      else "retry physical attempt requires predecessor bindings"
  let ⟨h₃⟩ ← Py.check (∀ d ∈ previousReceiptDigest, IsSha256 d) .valueError <| sha256Message
    "previous_receipt_digest must be sha256:<64-hex>"
    "previous_receipt_digest must contain 64 hexadecimal characters"
    (previousReceiptDigest.getD "")
  return {
    request, physicalAttempt, previousInvocationId, previousReceiptDigest,
    hasAttempt := h₁, chain := h₂, isSha256 := h₃ }

theorem new_eq (a : PhysicalAttemptAuthorization)
    (h : a.schemaVersion = "ge.physical-authorization.v1") :
    new a.request a.physicalAttempt a.previousInvocationId a.previousReceiptDigest = .ok a := by
  simp only [new, Py.check_of a.hasAttempt, Py.check_of a.chain, Py.check_of a.isSha256,
    Except.ok_bind]
  simp [PhysicalAttemptAuthorization.ext_iff, h]

instance : AsDict PhysicalAttemptAuthorization where
  asdict a := [
    ("request", toPy a.request),
    ("physical_attempt", toPy a.physicalAttempt),
    ("previous_invocation_id", toPy a.previousInvocationId),
    ("previous_receipt_digest", toPy a.previousReceiptDigest),
    ("schema_version", toPy a.schemaVersion)]

end PhysicalAttemptAuthorization

@[ext]
structure PhysicalObservation where
  authorizationId      : String
  invocationId         : String
  requestDigest        : String
  providerInvocationId : Option String
  transportStatus      : TransportStatus
  result               : Option ResultEnvelope
  failureCode          : Option String
  detailDigest         : Option String
  responseDigest       : String
  schemaVersion        : String := "ge.physical-observation.v1"
  completed :
    transportStatus = .completed →
      result.isSome ∧ failureCode = none ∧ Text.Present providerInvocationId
  failed : transportStatus ≠ .completed → result = none ∧ Text.Present failureCode
deriving DecidableEq

namespace PhysicalObservation

def new (authorizationId invocationId requestDigest : String)
    (providerInvocationId : Option String) (transportStatus : String)
    (result : Option ResultEnvelope) (failureCode detailDigest : Option String)
    (responseDigest : String) : Py PhysicalObservation := do
  let transportStatus ← Py.literal "unsupported transport_status" transportStatus
  let ⟨h₁⟩ ← Py.check
    (transportStatus = .completed →
      result.isSome ∧ failureCode = none ∧ Text.Present providerInvocationId) .valueError <|
      if result.isNone then "completed observation requires a result"
      else if failureCode.isSome then "completed observation cannot carry failure_code"
      else "completed observation requires provider_invocation_id"
  let ⟨h₂⟩ ← Py.check
    (transportStatus ≠ .completed → result = none ∧ Text.Present failureCode) .valueError <|
      if result.isSome then "failed transport observation cannot carry a result"
      else "failed transport observation requires failure_code"
  return {
    authorizationId, invocationId, requestDigest, providerInvocationId, transportStatus, result,
    failureCode, detailDigest, responseDigest, completed := h₁, failed := h₂ }

theorem new_eq (o : PhysicalObservation) (h : o.schemaVersion = "ge.physical-observation.v1") :
    new o.authorizationId o.invocationId o.requestDigest o.providerInvocationId
      (PyLiteral.spelling o.transportStatus) o.result o.failureCode o.detailDigest
      o.responseDigest = .ok o := by
  simp only [new, Py.literal_spelling, Py.check_of o.completed, Py.check_of o.failed,
    Except.ok_bind]
  simp [PhysicalObservation.ext_iff, h]

instance : AsDict PhysicalObservation where
  asdict o := [
    ("authorization_id", toPy o.authorizationId),
    ("invocation_id", toPy o.invocationId),
    ("request_digest", toPy o.requestDigest),
    ("provider_invocation_id", toPy o.providerInvocationId),
    ("transport_status", toPy o.transportStatus),
    ("result", toPy o.result),
    ("failure_code", toPy o.failureCode),
    ("detail_digest", toPy o.detailDigest),
    ("response_digest", toPy o.responseDigest),
    ("schema_version", toPy o.schemaVersion)]

end PhysicalObservation

@[ext]
structure PhysicalReceipt where
  authorizationId       : String
  authorizationDigest   : String
  invocationId          : String
  requestDigest         : String
  physicalAttempt       : Nat
  previousInvocationId  : Option String
  previousReceiptDigest : Option String
  sessionId             : String
  runnerId              : String
  provider              : String
  adapter               : String
  adapterVersion        : String
  providerInvocationId  : Option String
  transportStatus       : TransportStatus
  responseDigest        : String
  observationDigest     : String
  resultDigest          : Option String
  failureCode           : Option String
  schemaVersion         : String := "ge.physical-receipt.v1"
  hasAttempt            : 1 ≤ physicalAttempt
  completed             : transportStatus = .completed → resultDigest.isSome ∧ failureCode = none
  failed : transportStatus ≠ .completed → resultDigest = none ∧ Text.Truthy failureCode

instance : DecidableEq PhysicalReceipt :=
  fun _ _ => decidable_of_iff _ PhysicalReceipt.ext_iff.symm

namespace PhysicalReceipt

def new (authorizationId authorizationDigest invocationId requestDigest : String)
    (physicalAttempt : Nat) (previousInvocationId previousReceiptDigest : Option String)
    (sessionId runnerId provider adapter adapterVersion : String)
    (providerInvocationId : Option String) (transportStatus responseDigest observationDigest : String)
    (resultDigest failureCode : Option String) : Py PhysicalReceipt := do
  let ⟨h₁⟩ ← Py.check (1 ≤ physicalAttempt) .valueError "physical_attempt must be >= 1"
  let transportStatus ← Py.literal "unsupported transport_status" transportStatus
  let ⟨h₂⟩ ← Py.check
    (transportStatus = .completed → resultDigest.isSome ∧ failureCode = none) .valueError
    "completed receipt requires result_digest and no failure_code"
  let ⟨h₃⟩ ← Py.check
    (transportStatus ≠ .completed → resultDigest = none ∧ Text.Truthy failureCode) .valueError
    "failure receipt requires failure_code and no result_digest"
  return {
    authorizationId, authorizationDigest, invocationId, requestDigest, physicalAttempt,
    previousInvocationId, previousReceiptDigest, sessionId, runnerId, provider, adapter,
    adapterVersion, providerInvocationId, transportStatus, responseDigest, observationDigest,
    resultDigest, failureCode, hasAttempt := h₁, completed := h₂, failed := h₃ }

theorem new_eq (r : PhysicalReceipt) (h : r.schemaVersion = "ge.physical-receipt.v1") :
    new r.authorizationId r.authorizationDigest r.invocationId r.requestDigest r.physicalAttempt
      r.previousInvocationId r.previousReceiptDigest r.sessionId r.runnerId r.provider r.adapter
      r.adapterVersion r.providerInvocationId (PyLiteral.spelling r.transportStatus)
      r.responseDigest r.observationDigest r.resultDigest r.failureCode = .ok r := by
  simp only [new, Py.literal_spelling, Py.check_of r.hasAttempt, Py.check_of r.completed,
    Py.check_of r.failed, Except.ok_bind]
  simp [PhysicalReceipt.ext_iff, h]

instance : AsDict PhysicalReceipt where
  asdict r := [
    ("authorization_id", toPy r.authorizationId),
    ("authorization_digest", toPy r.authorizationDigest),
    ("invocation_id", toPy r.invocationId),
    ("request_digest", toPy r.requestDigest),
    ("physical_attempt", toPy r.physicalAttempt),
    ("previous_invocation_id", toPy r.previousInvocationId),
    ("previous_receipt_digest", toPy r.previousReceiptDigest),
    ("session_id", toPy r.sessionId),
    ("runner_id", toPy r.runnerId),
    ("provider", toPy r.provider),
    ("adapter", toPy r.adapter),
    ("adapter_version", toPy r.adapterVersion),
    ("provider_invocation_id", toPy r.providerInvocationId),
    ("transport_status", toPy r.transportStatus),
    ("response_digest", toPy r.responseDigest),
    ("observation_digest", toPy r.observationDigest),
    ("result_digest", toPy r.resultDigest),
    ("failure_code", toPy r.failureCode),
    ("schema_version", toPy r.schemaVersion)]

end PhysicalReceipt

@[ext]
structure PhysicalOutcomeBundle where
  authorization : PhysicalAttemptAuthorization
  observation   : PhysicalObservation
  receipt       : PhysicalReceipt
  result        : Option ResultEnvelope
  schemaVersion : String := "ge.physical-outcome.v1"
deriving DecidableEq

instance : AsDict PhysicalOutcomeBundle where
  asdict b := [
    ("authorization", toPy b.authorization),
    ("observation", toPy b.observation),
    ("receipt", toPy b.receipt),
    ("result", toPy b.result),
    ("schema_version", toPy b.schemaVersion)]

variable [Sha256]

def PhysicalAttemptAuthorization.digest (a : PhysicalAttemptAuthorization) : String :=
  sha256Digest (toPy a)

def PhysicalAttemptAuthorization.authorizationId (a : PhysicalAttemptAuthorization) : String :=
  stableId "gea" (toPy a)

def PhysicalObservation.digest (o : PhysicalObservation) : String :=
  sha256Digest (toPy o)

def PhysicalReceipt.digest (r : PhysicalReceipt) : String :=
  sha256Digest (toPy r)

def PhysicalOutcomeBundle.digest (b : PhysicalOutcomeBundle) : String :=
  sha256Digest (toPy b)

def responseDigest (authorization : PhysicalAttemptAuthorization)
    (providerInvocationId : Option String) (transportStatus : TransportStatus)
    (result : Option ResultEnvelope) (failureCode detailDigest : Option String) : String :=
  sha256Digest <| .dict [
    ("protocol", toPy "ge.physical-outcome.v1"),
    ("authorization_id", toPy authorization.authorizationId),
    ("authorization_digest", toPy authorization.digest),
    ("invocation_id", toPy authorization.request.invocationId),
    ("request_digest", toPy authorization.request.digest),
    ("physical_attempt", toPy authorization.physicalAttempt),
    ("provider_invocation_id", toPy providerInvocationId),
    ("transport_status", toPy transportStatus),
    ("result", resultToDict? result),
    ("failure_code", toPy failureCode),
    ("detail_digest", toPy detailDigest)]

def observeCompleted (authorization : PhysicalAttemptAuthorization) (result : ResultEnvelope)
    (providerInvocationId : String) (detailDigest : Option String) : Py PhysicalObservation :=
  PhysicalObservation.new
    authorization.authorizationId
    authorization.request.invocationId
    authorization.request.digest
    (some providerInvocationId)
    "completed"
    (some result)
    none
    detailDigest
    (responseDigest authorization (some providerInvocationId) .completed (some result) none
      detailDigest)

def observeFailure (authorization : PhysicalAttemptAuthorization)
    (transportStatus : TransportStatus) (failureCode : String)
    (providerInvocationId detailDigest : Option String) : Py PhysicalObservation := do
  Py.require (transportStatus ≠ .completed) .physicalAttemptError
    "failure observation requires a failure transport status"
  PhysicalObservation.new
    authorization.authorizationId
    authorization.request.invocationId
    authorization.request.digest
    providerInvocationId
    (PyLiteral.spelling transportStatus)
    none
    (some failureCode)
    detailDigest
    (responseDigest authorization providerInvocationId transportStatus none (some failureCode)
      detailDigest)

omit [Sha256] in
def verifyResultBinding (request : AdapterDispatchRequest) (result : ResultEnvelope) : Bool :=
  result.sessionId = request.sessionId ∧
  result.specId = request.specId ∧
  result.specDigest = request.specDigest ∧
  result.runnerId = request.runnerId ∧
  result.attempt = request.attempt

def verifyObservationAgainstAuthorization (authorization : PhysicalAttemptAuthorization)
    (observation : PhysicalObservation) : Bool :=
  observation.authorizationId = authorization.authorizationId ∧
  observation.invocationId = authorization.request.invocationId ∧
  observation.requestDigest = authorization.request.digest ∧
  observation.responseDigest = responseDigest authorization observation.providerInvocationId
    observation.transportStatus observation.result observation.failureCode
    observation.detailDigest ∧
  observation.result.all (verifyResultBinding authorization.request)

def verifyIntrinsicOutcome (bundle : PhysicalOutcomeBundle) : Bool :=
  let auth    := bundle.authorization
  let obs     := bundle.observation
  let receipt := bundle.receipt
  let request := auth.request
  obs.result = bundle.result ∧
  verifyObservationAgainstAuthorization auth obs ∧
  receipt.authorizationId = auth.authorizationId ∧
  receipt.authorizationDigest = auth.digest ∧
  receipt.invocationId = request.invocationId ∧
  receipt.requestDigest = request.digest ∧
  receipt.physicalAttempt = auth.physicalAttempt ∧
  receipt.previousInvocationId = auth.previousInvocationId ∧
  receipt.previousReceiptDigest = auth.previousReceiptDigest ∧
  receipt.sessionId = request.sessionId ∧
  receipt.runnerId = request.runnerId ∧
  receipt.provider = request.provider ∧
  receipt.adapter = request.adapter ∧
  receipt.adapterVersion = request.adapterVersion ∧
  receipt.providerInvocationId = obs.providerInvocationId ∧
  receipt.transportStatus = obs.transportStatus ∧
  receipt.responseDigest = obs.responseDigest ∧
  receipt.observationDigest = obs.digest ∧
  receipt.failureCode = obs.failureCode ∧
  if obs.transportStatus = .completed then
    bundle.result.any fun r => receipt.resultDigest = some r.digest ∧ verifyResultBinding request r
  else
    bundle.result = none ∧ receipt.resultDigest = none

def verifyPhysicalOutcome (spec : ExecutionSpec) (registry : RunnerRegistry) (plan : DispatchPlan)
    (session : ExecutionSession) (runner : RunnerCapabilities) (bundle : PhysicalOutcomeBundle) :
    Bool :=
  verifyDispatchRequest spec registry plan session runner bundle.authorization.request ∧
  verifyIntrinsicOutcome bundle

def authorizePhysicalAttempt (spec : ExecutionSpec) (registry : RunnerRegistry)
    (plan : DispatchPlan) (session : ExecutionSession) (runner : RunnerCapabilities)
    (invocationId : String) : Py PhysicalAttemptAuthorization := do
  let request ← buildDispatchRequest spec registry plan session runner invocationId
  PhysicalAttemptAuthorization.new request 1 none none

def authorizeRetry (spec : ExecutionSpec) (registry : RunnerRegistry) (plan : DispatchPlan)
    (session : ExecutionSession) (runner : RunnerCapabilities) (prior : PhysicalOutcomeBundle)
    (invocationId : String) : Py PhysicalAttemptAuthorization := do
  Py.require (verifyPhysicalOutcome spec registry plan session runner prior) .physicalAttemptError
    "prior physical outcome is not admissible"
  Py.require (prior.receipt.transportStatus ≠ .completed) .physicalAttemptError
    "cannot retry after a completed physical attempt"
  let request ← buildDispatchRequest spec registry plan session runner invocationId
  PhysicalAttemptAuthorization.new
    request
    (prior.authorization.physicalAttempt + 1)
    (some prior.authorization.request.invocationId)
    (some prior.receipt.digest)

-- The receipt of an observation that has passed its own constructor never fails its own.
def makeReceipt (authorization : PhysicalAttemptAuthorization) (observation : PhysicalObservation) :
    PhysicalReceipt where
  authorizationId       := authorization.authorizationId
  authorizationDigest   := authorization.digest
  invocationId          := authorization.request.invocationId
  requestDigest         := authorization.request.digest
  physicalAttempt       := authorization.physicalAttempt
  previousInvocationId  := authorization.previousInvocationId
  previousReceiptDigest := authorization.previousReceiptDigest
  sessionId             := authorization.request.sessionId
  runnerId              := authorization.request.runnerId
  provider              := authorization.request.provider
  adapter               := authorization.request.adapter
  adapterVersion        := authorization.request.adapterVersion
  providerInvocationId  := observation.providerInvocationId
  transportStatus       := observation.transportStatus
  responseDigest        := observation.responseDigest
  observationDigest     := observation.digest
  resultDigest          := observation.result.map ResultEnvelope.digest
  failureCode           := observation.failureCode
  hasAttempt            := authorization.hasAttempt
  completed h           := by simpa using ⟨(observation.completed h).left, (observation.completed h).right.left⟩
  failed h              := by simpa using ⟨(observation.failed h).left, (observation.failed h).right.truthy⟩

def admitPhysicalObservation (spec : ExecutionSpec) (registry : RunnerRegistry)
    (plan : DispatchPlan) (session : ExecutionSession) (runner : RunnerCapabilities)
    (authorization : PhysicalAttemptAuthorization) (observation : PhysicalObservation) :
    Py PhysicalOutcomeBundle := do
  Py.require (verifyDispatchRequest spec registry plan session runner authorization.request)
    .physicalAttemptError "physical authorization contains an inadmissible request"
  Py.require (verifyObservationAgainstAuthorization authorization observation)
    .physicalAttemptError "physical observation is not bound to the exact authorization"
  let bundle := {
    authorization
    observation
    receipt := makeReceipt authorization observation
    result  := observation.result }
  Py.require (verifyPhysicalOutcome spec registry plan session runner bundle)
    .physicalAttemptError "physical outcome verification failed"
  return bundle

-- What all attempts of a chain have in common.
abbrev ChainBase := String × String × String × String × Nat

omit [Sha256] in
def AdapterDispatchRequest.chainBase (request : AdapterDispatchRequest) : ChainBase :=
  (request.sessionId, request.specId, request.specDigest, request.runnerId, request.attempt)

-- `prior` is the outcome at the previous index.
def verifyRetryBindings (prior : Option PhysicalOutcomeBundle)
    (auth : PhysicalAttemptAuthorization) : Bool :=
  match prior with
  | none       => auth.previousInvocationId = none ∧ auth.previousReceiptDigest = none
  | some prior =>
    prior.receipt.transportStatus ≠ .completed ∧
    auth.previousInvocationId = some prior.authorization.request.invocationId ∧
    auth.previousReceiptDigest = some prior.receipt.digest

-- The body of the loop of `verify_retry_chain`.
def verifyRetryLink (base : ChainBase) (seen : List String) (prior : Option PhysicalOutcomeBundle)
    (index : Nat) (outcome : PhysicalOutcomeBundle) : Bool :=
  let auth    := outcome.authorization
  let request := auth.request
  verifyIntrinsicOutcome outcome ∧
  auth.physicalAttempt = index ∧
  request.chainBase = base ∧
  request.invocationId ∉ seen ∧
  verifyRetryBindings prior auth

def verifyRetryLinks (base : ChainBase) (seen : List String)
    (prior : Option PhysicalOutcomeBundle) (index : Nat) : List PhysicalOutcomeBundle → Bool
  | []                  => true
  | outcome :: outcomes =>
    verifyRetryLink base seen prior index outcome &&
    verifyRetryLinks base (seen ++ [outcome.authorization.request.invocationId]) (some outcome)
      (index + 1) outcomes

def verifyRetryChain : List PhysicalOutcomeBundle → Bool
  | []                => false
  | first :: outcomes =>
    verifyRetryLinks first.authorization.request.chainBase [] none 1 (first :: outcomes)

end GeneralExecution
