import GeneralExecution.Gates.DispatchGuard

namespace GeneralExecution

inductive SameRequestSemantics
  | sameOperation
  | duplicateRejected
  | mayDuplicate
deriving DecidableEq

instance : PyLiteral SameRequestSemantics where
  spelling
    | .sameOperation     => "same_operation"
    | .duplicateRejected => "duplicate_rejected"
    | .mayDuplicate      => "may_duplicate"
  values           := [.sameOperation, .duplicateRejected, .mayDuplicate]
  parse_spelling a := by cases a <;> rfl

inductive ReconciliationStatus
  | absent
  | accepted
  | terminal
  | unknown
deriving DecidableEq

instance : PyLiteral ReconciliationStatus where
  spelling
    | .absent   => "absent"
    | .accepted => "accepted"
    | .terminal => "terminal"
    | .unknown  => "unknown"
  values           := [.absent, .accepted, .terminal, .unknown]
  parse_spelling a := by cases a <;> rfl

inductive ReconciliationAction
  | resubmitSameInvocation
  | pollExisting
  | admitTerminalEvidence
  | hold
deriving DecidableEq

instance : PyLiteral ReconciliationAction where
  spelling
    | .resubmitSameInvocation => "resubmit_same_invocation"
    | .pollExisting           => "poll_existing"
    | .admitTerminalEvidence  => "admit_terminal_evidence"
    | .hold                   => "hold"
  values           := [.resubmitSameInvocation, .pollExisting, .admitTerminalEvidence, .hold]
  parse_spelling a := by cases a <;> rfl

@[ext]
structure ProviderReconciliationContract where
  provider                : String
  adapter                 : String
  adapterVersion          : String
  idempotencyKey          : String := "invocation_id"
  lookupByInvocation      : Bool := true
  requestDigestBound      : Bool := true
  sameKeySameRequest      : SameRequestSemantics := .sameOperation
  sameKeyDifferentRequest : String := "reject"
  terminalEvidenceLookup  : Bool := true
  schemaVersion           : String := "ge.provider-reconciliation-contract.v1"
  nonempty :
    ∀ x ∈ [("provider", provider), ("adapter", adapter), ("adapter_version", adapterVersion)],
      ¬Text.Blank x.2
  keyed   : idempotencyKey = "invocation_id"
  rejects : sameKeyDifferentRequest = "reject"
deriving DecidableEq

namespace ProviderReconciliationContract

instance : AsDict ProviderReconciliationContract where
  asdict c := [
    ("provider", toPy c.provider),
    ("adapter", toPy c.adapter),
    ("adapter_version", toPy c.adapterVersion),
    ("idempotency_key", toPy c.idempotencyKey),
    ("lookup_by_invocation", toPy c.lookupByInvocation),
    ("request_digest_bound", toPy c.requestDigestBound),
    ("same_key_same_request", toPy c.sameKeySameRequest),
    ("same_key_different_request", toPy c.sameKeyDifferentRequest),
    ("terminal_evidence_lookup", toPy c.terminalEvidenceLookup),
    ("schema_version", toPy c.schemaVersion)]

def reconciliationCapable (c : ProviderReconciliationContract) : Bool :=
  c.lookupByInvocation && c.requestDigestBound

def safeIdempotentResubmission (c : ProviderReconciliationContract) : Bool :=
  c.reconciliationCapable ∧ c.sameKeySameRequest ∈ [.sameOperation, .duplicateRejected] ∧
    c.sameKeyDifferentRequest = "reject"

end ProviderReconciliationContract

@[ext]
structure ProviderReconciliationQuery where
  intentId             : String
  dispatchStateDigest  : String
  dispatchPermitDigest : String
  authorizationId      : String
  authorizationDigest  : String
  invocationId         : String
  requestDigest        : String
  physicalAttempt      : Nat
  runnerId             : String
  provider             : String
  adapter              : String
  adapterVersion       : String
  contractDigest       : String
  schemaVersion        : String := "ge.provider-reconciliation-query.v1"
  hasAttempt           : 1 ≤ physicalAttempt
  nonempty :
    ∀ x ∈ [("intent_id", intentId), ("dispatch_state_digest", dispatchStateDigest),
      ("dispatch_permit_digest", dispatchPermitDigest), ("authorization_id", authorizationId),
      ("authorization_digest", authorizationDigest), ("invocation_id", invocationId),
      ("request_digest", requestDigest), ("runner_id", runnerId), ("provider", provider),
      ("adapter", adapter), ("adapter_version", adapterVersion),
      ("contract_digest", contractDigest)], ¬Text.Blank x.2

instance : DecidableEq ProviderReconciliationQuery :=
  fun _ _ => decidable_of_iff _ ProviderReconciliationQuery.ext_iff.symm

namespace ProviderReconciliationQuery

def new (intentId dispatchStateDigest dispatchPermitDigest authorizationId authorizationDigest
    invocationId requestDigest : String) (physicalAttempt : Nat)
    (runnerId provider adapter adapterVersion contractDigest : String) :
    Py ProviderReconciliationQuery := do
  let ⟨h₁⟩ ← Py.check (1 ≤ physicalAttempt) .valueError "physical_attempt must be >= 1"
  let ⟨h₂⟩ ← checkNonempty
    [("intent_id", intentId), ("dispatch_state_digest", dispatchStateDigest),
      ("dispatch_permit_digest", dispatchPermitDigest), ("authorization_id", authorizationId),
      ("authorization_digest", authorizationDigest), ("invocation_id", invocationId),
      ("request_digest", requestDigest), ("runner_id", runnerId), ("provider", provider),
      ("adapter", adapter), ("adapter_version", adapterVersion),
      ("contract_digest", contractDigest)]
  return {
    intentId, dispatchStateDigest, dispatchPermitDigest, authorizationId, authorizationDigest,
    invocationId, requestDigest, physicalAttempt, runnerId, provider, adapter, adapterVersion,
    contractDigest, hasAttempt := h₁, nonempty := h₂ }

instance : AsDict ProviderReconciliationQuery where
  asdict q := [
    ("intent_id", toPy q.intentId),
    ("dispatch_state_digest", toPy q.dispatchStateDigest),
    ("dispatch_permit_digest", toPy q.dispatchPermitDigest),
    ("authorization_id", toPy q.authorizationId),
    ("authorization_digest", toPy q.authorizationDigest),
    ("invocation_id", toPy q.invocationId),
    ("request_digest", toPy q.requestDigest),
    ("physical_attempt", toPy q.physicalAttempt),
    ("runner_id", toPy q.runnerId),
    ("provider", toPy q.provider),
    ("adapter", toPy q.adapter),
    ("adapter_version", toPy q.adapterVersion),
    ("contract_digest", toPy q.contractDigest),
    ("schema_version", toPy q.schemaVersion)]

end ProviderReconciliationQuery

-- What an observation of each status must and may claim.
def ReconciliationClaims (status : ReconciliationStatus)
    (providerInvocationId terminalEvidenceDigest : Option String) : Prop :=
  match status with
  | .absent   => providerInvocationId = none ∧ terminalEvidenceDigest = none
  | .accepted => Text.Truthy providerInvocationId ∧ terminalEvidenceDigest = none
  | .terminal => Text.Truthy providerInvocationId
  | .unknown  => terminalEvidenceDigest = none

instance (status : ReconciliationStatus)
    (providerInvocationId terminalEvidenceDigest : Option String) :
    Decidable (ReconciliationClaims status providerInvocationId terminalEvidenceDigest) := by
  unfold ReconciliationClaims
  cases status <;> infer_instance

@[ext]
structure ProviderReconciliationObservation where
  queryDigest            : String
  invocationId           : String
  requestDigest          : String
  provider               : String
  adapter                : String
  adapterVersion         : String
  status                 : ReconciliationStatus
  evidenceDigest         : String
  providerInvocationId   : Option String := none
  terminalEvidenceDigest : Option String := none
  schemaVersion          : String := "ge.provider-reconciliation-observation.v1"
  nonempty :
    ∀ x ∈ [("query_digest", queryDigest), ("invocation_id", invocationId),
      ("request_digest", requestDigest), ("provider", provider), ("adapter", adapter),
      ("adapter_version", adapterVersion), ("evidence_digest", evidenceDigest)], ¬Text.Blank x.2
  isSha256 : IsSha256 evidenceDigest ∧ ∀ d ∈ terminalEvidenceDigest, IsSha256 d
  claims   : ReconciliationClaims status providerInvocationId terminalEvidenceDigest
deriving DecidableEq

instance : AsDict ProviderReconciliationObservation where
  asdict o := [
    ("query_digest", toPy o.queryDigest),
    ("invocation_id", toPy o.invocationId),
    ("request_digest", toPy o.requestDigest),
    ("provider", toPy o.provider),
    ("adapter", toPy o.adapter),
    ("adapter_version", toPy o.adapterVersion),
    ("status", toPy o.status),
    ("evidence_digest", toPy o.evidenceDigest),
    ("provider_invocation_id", toPy o.providerInvocationId),
    ("terminal_evidence_digest", toPy o.terminalEvidenceDigest),
    ("schema_version", toPy o.schemaVersion)]

@[ext]
structure ProviderReconciliationEvidence where
  query          : ProviderReconciliationQuery
  observation    : ProviderReconciliationObservation
  contractDigest : String
  schemaVersion  : String := "ge.provider-reconciliation-evidence.v1"
deriving DecidableEq

instance : AsDict ProviderReconciliationEvidence where
  asdict e := [
    ("query", toPy e.query),
    ("observation", toPy e.observation),
    ("contract_digest", toPy e.contractDigest),
    ("schema_version", toPy e.schemaVersion)]

-- Only a decision to resubmit authorizes transport, and only with a live permit.
def DecisionAuthorizes (action : ReconciliationAction)
    (resubmitAuthorized requiresFreshLivePermit : Bool) (livePermitDigest : Option String) : Prop :=
  match action with
  | .resubmitSameInvocation =>
    resubmitAuthorized = true ∧ requiresFreshLivePermit = true ∧ Text.Truthy livePermitDigest
  | _ => resubmitAuthorized = false ∧ livePermitDigest = none

instance (action : ReconciliationAction) (resubmitAuthorized requiresFreshLivePermit : Bool)
    (livePermitDigest : Option String) :
    Decidable (DecisionAuthorizes action resubmitAuthorized requiresFreshLivePermit
      livePermitDigest) := by
  unfold DecisionAuthorizes
  cases action <;> infer_instance

@[ext]
structure ReconciliationDecision where
  intentId                : String
  dispatchStateDigest     : String
  invocationId            : String
  requestDigest           : String
  evidenceDigest          : String
  contractDigest          : String
  status                  : ReconciliationStatus
  action                  : ReconciliationAction
  resubmitAuthorized      : Bool
  requiresFreshLivePermit : Bool
  livePermitDigest        : Option String
  reason                  : String
  schemaVersion           : String := "ge.provider-reconciliation-decision.v1"
  nonempty :
    ∀ x ∈ [("intent_id", intentId), ("dispatch_state_digest", dispatchStateDigest),
      ("invocation_id", invocationId), ("request_digest", requestDigest),
      ("evidence_digest", evidenceDigest), ("contract_digest", contractDigest)], ¬Text.Blank x.2
  authorizes :
    DecisionAuthorizes action resubmitAuthorized requiresFreshLivePermit livePermitDigest
  hasReason  : ¬Text.Blank reason
deriving DecidableEq

namespace ReconciliationDecision

def new (intentId dispatchStateDigest invocationId requestDigest evidenceDigest
    contractDigest : String) (status : ReconciliationStatus) (action : ReconciliationAction)
    (resubmitAuthorized requiresFreshLivePermit : Bool) (livePermitDigest : Option String)
    (reason : String) : Py ReconciliationDecision := do
  let ⟨h₁⟩ ← checkNonempty
    [("intent_id", intentId), ("dispatch_state_digest", dispatchStateDigest),
      ("invocation_id", invocationId), ("request_digest", requestDigest),
      ("evidence_digest", evidenceDigest), ("contract_digest", contractDigest)]
  let ⟨h₂⟩ ← Py.check
    (DecisionAuthorizes action resubmitAuthorized requiresFreshLivePermit livePermitDigest)
    .valueError <|
      if action = .resubmitSameInvocation then
        "resubmit decision requires explicit authorization and fresh live permit"
      else "non-resubmit decision cannot authorize transport"
  let ⟨h₃⟩ ← Py.check (¬Text.Blank reason) .valueError
    "reconciliation decision reason must be non-empty"
  return {
    intentId, dispatchStateDigest, invocationId, requestDigest, evidenceDigest, contractDigest,
    status, action, resubmitAuthorized, requiresFreshLivePermit, livePermitDigest, reason,
    nonempty := h₁, authorizes := h₂, hasReason := h₃ }

instance : AsDict ReconciliationDecision where
  asdict d := [
    ("intent_id", toPy d.intentId),
    ("dispatch_state_digest", toPy d.dispatchStateDigest),
    ("invocation_id", toPy d.invocationId),
    ("request_digest", toPy d.requestDigest),
    ("evidence_digest", toPy d.evidenceDigest),
    ("contract_digest", toPy d.contractDigest),
    ("status", toPy d.status),
    ("action", toPy d.action),
    ("resubmit_authorized", toPy d.resubmitAuthorized),
    ("requires_fresh_live_permit", toPy d.requiresFreshLivePermit),
    ("live_permit_digest", toPy d.livePermitDigest),
    ("reason", toPy d.reason),
    ("schema_version", toPy d.schemaVersion)]

end ReconciliationDecision

variable [Sha256]

def ProviderReconciliationContract.digest (c : ProviderReconciliationContract) : String :=
  sha256Digest (toPy c)

def ProviderReconciliationQuery.digest (q : ProviderReconciliationQuery) : String :=
  sha256Digest (toPy q)

def ProviderReconciliationObservation.digest (o : ProviderReconciliationObservation) : String :=
  sha256Digest (toPy o)

def ProviderReconciliationEvidence.digest (e : ProviderReconciliationEvidence) : String :=
  sha256Digest (toPy e)

def ReconciliationDecision.digest (d : ReconciliationDecision) : String :=
  sha256Digest (toPy d)

def verifyAuthorizationBinding (state : DispatchIntentState)
    (authorization : PhysicalAttemptAuthorization) : Bool :=
  let intent  := state.intent
  let request := authorization.request
  authorization.authorizationId = intent.authorizationId ∧
  authorization.digest = intent.authorizationDigest ∧
  request.invocationId = intent.invocationId ∧
  request.digest = intent.requestDigest ∧
  request.runnerId = intent.runnerId ∧
  request.runnerCapabilityDigest = intent.runnerCapabilityDigest ∧
  request.sessionId = intent.sessionId ∧
  request.attempt = intent.logicalAttempt ∧
  authorization.physicalAttempt = intent.physicalAttempt

def createReconciliationQuery (state : DispatchIntentState) (permit : DispatchPermit)
    (authorization : PhysicalAttemptAuthorization) (contract : ProviderReconciliationContract) :
    Py ProviderReconciliationQuery := do
  Py.require (state.status = .submissionUnknown) .reconciliationError
    "reconciliation requires submission_unknown durable state"
  Py.require (verifyDispatchPermit state permit) .reconciliationError
    "durable dispatch permit does not reproduce"
  Py.require (verifyAuthorizationBinding state authorization) .reconciliationError
    "physical authorization does not reproduce dispatch intent"
  let request := authorization.request
  Py.require
    (contract.provider = request.provider ∧ contract.adapter = request.adapter ∧
      contract.adapterVersion = request.adapterVersion)
    .reconciliationError "provider reconciliation contract does not match physical authorization"
  Py.require contract.reconciliationCapable .reconciliationError
    "provider contract cannot reconcile by invocation identity"
  ProviderReconciliationQuery.new
    state.intent.intentId
    state.digest
    permit.digest
    authorization.authorizationId
    authorization.digest
    request.invocationId
    request.digest
    authorization.physicalAttempt
    request.runnerId
    request.provider
    request.adapter
    request.adapterVersion
    contract.digest

def admitReconciliationObservation (query : ProviderReconciliationQuery)
    (contract : ProviderReconciliationContract) (observation : ProviderReconciliationObservation) :
    Py ProviderReconciliationEvidence := do
  Py.require (query.contractDigest = contract.digest) .reconciliationError
    "reconciliation query contract binding mismatch"
  Py.require (observation.queryDigest = query.digest) .reconciliationError
    "provider reconciliation observation query binding mismatch"
  Py.require
    (observation.invocationId = query.invocationId ∧
      observation.requestDigest = query.requestDigest ∧
      observation.provider = query.provider ∧
      observation.adapter = query.adapter ∧
      observation.adapterVersion = query.adapterVersion)
    .reconciliationError "provider reconciliation observation identity mismatch"
  if observation.status = .terminal then
    Py.require (contract.terminalEvidenceLookup → observation.terminalEvidenceDigest.isSome)
      .reconciliationError "provider contract requires retrievable terminal evidence"
    Py.require (¬contract.terminalEvidenceLookup → observation.terminalEvidenceDigest.isNone)
      .reconciliationError "provider contract does not support terminal evidence lookup"
  return { query, observation, contractDigest := contract.digest }

-- `_decision`
def decision (state : DispatchIntentState) (evidence : ProviderReconciliationEvidence)
    (contract : ProviderReconciliationContract) (status : ReconciliationStatus)
    (action : ReconciliationAction) (resubmitAuthorized requiresFreshLivePermit : Bool)
    (livePermitDigest : Option String) (reason : String) : Py ReconciliationDecision :=
  ReconciliationDecision.new state.intent.intentId state.digest state.intent.invocationId
    state.intent.requestDigest evidence.digest contract.digest status action resubmitAuthorized
    requiresFreshLivePermit livePermitDigest reason

-- `live` is the live permit and the runner of its capacity store, when the caller gives them all.
def decideReconciliation (state : DispatchIntentState) (permit : DispatchPermit)
    (authorization : PhysicalAttemptAuthorization) (contract : ProviderReconciliationContract)
    (evidence : ProviderReconciliationEvidence)
    (live : Option (LiveDispatchPermit × RunnerCapabilities)) :
    StoreCall ReconciliationDecision := do
  let query ← (createReconciliationQuery state permit authorization contract : Py _)
  let expectedEvidence ←
    (admitReconciliationObservation query contract evidence.observation : Py _)
  Py.require (evidence = expectedEvidence) .reconciliationError
    "reconciliation evidence does not belong to current query and contract"
  match evidence.observation.status with
  | .absent =>
    if contract.safeIdempotentResubmission then
      let (livePermit, runner) ← (Py.ofOption .reconciliationError
        "safe resubmission requires a fresh live dispatch permit" live : Py _)
      let verified ← verifyLiveDispatchPermit state permit livePermit runner
      Py.require verified .reconciliationError "live dispatch permit is stale or invalid"
      decision state evidence contract .absent .resubmitSameInvocation true true
        (some livePermit.digest)
        "provider proved absence and same invocation is protected by strong idempotency"
    else
      decision state evidence contract .absent .hold false true none
        "provider absence is insufficient without strong idempotent resubmission semantics"
  | .accepted =>
    decision state evidence contract .accepted .pollExisting false false none
      "provider already recognizes the invocation; poll the existing operation"
  | .terminal =>
    if contract.terminalEvidenceLookup then
      decision state evidence contract .terminal .admitTerminalEvidence false false none
        "provider returned terminal evidence for admission"
    else
      decision state evidence contract .terminal .hold false false none
        "provider reports terminal state but contract cannot retrieve admissible terminal evidence"
  | .unknown =>
    decision state evidence contract .unknown .hold false false none
      "provider state remains unknown; preserve ambiguity and do not resubmit blindly"

end GeneralExecution
