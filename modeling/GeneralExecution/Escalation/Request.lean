import GeneralExecution.Routing.WorkSparse

namespace GeneralExecution

@[ext]
structure WorkInvocationAuthority where
  actor             : String
  authorityRef      : String
  authorityBoundary : String
  grantedScopes     : List String
  maxInvocations    : Nat
  authorityCreated  : Bool := false
  schemaVersion     : String := "ge.work-invocation-authority.v1"
  version           : schemaVersion = "ge.work-invocation-authority.v1"
  nonempty :
    ∀ x ∈ [("actor", actor), ("authority_ref", authorityRef),
      ("authority_boundary", authorityBoundary)], ¬Text.Blank x.2
  canonical   : CanonicalScopes grantedScopes
  required    : ["executor_activation", "work_invocation"] ⊆ grantedScopes
  positive    : 0 < maxInvocations
  noAuthority : authorityCreated = false

namespace WorkInvocationAuthority

def new (actor authorityRef authorityBoundary : String) (grantedScopes : List String)
    (maxInvocations : Nat) (authorityCreated : Bool) (schemaVersion : String) :
    Py WorkInvocationAuthority := do
  let ⟨h₁⟩ ← Py.check (schemaVersion = "ge.work-invocation-authority.v1") .workEscalationError
    "unsupported Work invocation authority schema"
  let ⟨h₂⟩ ← Guard.nonempty .workEscalationError
    [("actor", actor), ("authority_ref", authorityRef), ("authority_boundary", authorityBoundary)]
  let ⟨h₃⟩ ← Py.check (CanonicalScopes grantedScopes) .workEscalationError <|
    canonicalScopesMessage "granted_scopes" grantedScopes
  let ⟨h₄⟩ ← Py.check (["executor_activation", "work_invocation"] ⊆ grantedScopes)
    .workEscalationError
    "Work invocation authority requires executor_activation and work_invocation scopes"
  let ⟨h₅⟩ ← Py.check (0 < maxInvocations) .workEscalationError
    "max_invocations must be greater than zero"
  let ⟨h₆⟩ ← Py.check (authorityCreated = false) .workEscalationError
    "Work invocation authority artifact cannot create authority"
  return {
    actor, authorityRef, authorityBoundary, grantedScopes, maxInvocations, authorityCreated,
    schemaVersion, version := h₁, nonempty := h₂, canonical := h₃, required := h₄,
    positive := h₅, noAuthority := h₆ }

instance : AsDict WorkInvocationAuthority where
  asdict a := [
    ("actor", toPy a.actor),
    ("authority_ref", toPy a.authorityRef),
    ("authority_boundary", toPy a.authorityBoundary),
    ("granted_scopes", toPy a.grantedScopes),
    ("max_invocations", toPy a.maxInvocations),
    ("authority_created", toPy a.authorityCreated),
    ("schema_version", toPy a.schemaVersion)]

end WorkInvocationAuthority

@[ext]
structure WorkEscalationRequest where
  workId                 : String
  objective              : String
  repository             : String
  sourceRevision         : String
  authorityRef           : String
  envelopeDigest         : String
  workItemDigest         : String
  routingDecisionDigest  : String
  selectedExecutorDigest : String
  requiredCapabilities   : List String
  requestedActions       : List String
  maxWorkInvocations     : Nat
  authorityDigest        : String
  authorityCreated       : Bool := false
  executionTriggered     : Bool := false
  schemaVersion          : String := "ge.work-escalation-request.v1"
  version                : schemaVersion = "ge.work-escalation-request.v1"
  nonempty :
    ∀ x ∈ [("work_id", workId), ("objective", objective), ("repository", repository),
      ("source_revision", sourceRevision), ("authority_ref", authorityRef)], ¬Text.Blank x.2
  isSha256 :
    ∀ x ∈ [("envelope_digest", envelopeDigest), ("work_item_digest", workItemDigest),
      ("routing_decision_digest", routingDecisionDigest),
      ("selected_executor_digest", selectedExecutorDigest), ("authority_digest", authorityDigest)],
      Guard.StrippedSha256 x.2
  supplied    : requiredCapabilities ≠ [] ∧ requestedActions ≠ []
  unique      : requiredCapabilities.Nodup ∧ requestedActions.Nodup
  positive    : 0 < maxWorkInvocations
  noAuthority : authorityCreated = false
  noExecution : executionTriggered = false

instance : DecidableEq WorkEscalationRequest :=
  fun _ _ => decidable_of_iff _ WorkEscalationRequest.ext_iff.symm

namespace WorkEscalationRequest

def new (workId objective repository sourceRevision authorityRef envelopeDigest workItemDigest
      routingDecisionDigest selectedExecutorDigest : String)
    (requiredCapabilities requestedActions : List String) (maxWorkInvocations : Nat)
    (authorityDigest : String) (authorityCreated executionTriggered : Bool)
    (schemaVersion : String) : Py WorkEscalationRequest := do
  let ⟨h₁⟩ ← Py.check (schemaVersion = "ge.work-escalation-request.v1") .workEscalationError
    "unsupported Work escalation request schema"
  let ⟨h₂⟩ ← Guard.nonempty .workEscalationError
    [("work_id", workId), ("objective", objective), ("repository", repository),
      ("source_revision", sourceRevision), ("authority_ref", authorityRef)]
  let ⟨h₃⟩ ← Guard.strippedSha256 .workEscalationError
    [("envelope_digest", envelopeDigest), ("work_item_digest", workItemDigest),
      ("routing_decision_digest", routingDecisionDigest),
      ("selected_executor_digest", selectedExecutorDigest), ("authority_digest", authorityDigest)]
  let ⟨h₄⟩ ← Py.check (requiredCapabilities ≠ [] ∧ requestedActions ≠ []) .workEscalationError <|
    if requiredCapabilities ≠ [] then "requested_actions cannot be empty"
    else "required_capabilities cannot be empty"
  let ⟨h₅⟩ ← Py.check (requiredCapabilities.Nodup ∧ requestedActions.Nodup) .workEscalationError <|
    if requiredCapabilities.Nodup then "requested_actions must not contain duplicates"
    else "required_capabilities must not contain duplicates"
  let ⟨h₆⟩ ← Py.check (0 < maxWorkInvocations) .workEscalationError
    "max_work_invocations must be greater than zero"
  let ⟨h₇⟩ ← Py.check (authorityCreated = false) .workEscalationError
    "Work escalation request cannot create authority"
  let ⟨h₈⟩ ← Py.check (executionTriggered = false) .workEscalationError
    "Work escalation request cannot claim execution"
  return {
    workId, objective, repository, sourceRevision, authorityRef, envelopeDigest, workItemDigest,
    routingDecisionDigest, selectedExecutorDigest, requiredCapabilities, requestedActions,
    maxWorkInvocations, authorityDigest, authorityCreated, executionTriggered, schemaVersion,
    version := h₁, nonempty := h₂, isSha256 := h₃, supplied := h₄, unique := h₅,
    positive := h₆, noAuthority := h₇, noExecution := h₈ }

theorem new_eq (r : WorkEscalationRequest) :
    new r.workId r.objective r.repository r.sourceRevision r.authorityRef r.envelopeDigest
      r.workItemDigest r.routingDecisionDigest r.selectedExecutorDigest r.requiredCapabilities
      r.requestedActions r.maxWorkInvocations r.authorityDigest r.authorityCreated
      r.executionTriggered r.schemaVersion = .ok r := by
  simp only [new, Py.check_of r.version, Guard.nonempty_of r.nonempty,
    Guard.strippedSha256_of r.isSha256, Py.check_of r.supplied, Py.check_of r.unique,
    Py.check_of r.positive, Py.check_of r.noAuthority, Py.check_of r.noExecution, Except.ok_bind]
  rfl

instance : AsDict WorkEscalationRequest where
  asdict r := [
    ("work_id", toPy r.workId),
    ("objective", toPy r.objective),
    ("repository", toPy r.repository),
    ("source_revision", toPy r.sourceRevision),
    ("authority_ref", toPy r.authorityRef),
    ("envelope_digest", toPy r.envelopeDigest),
    ("work_item_digest", toPy r.workItemDigest),
    ("routing_decision_digest", toPy r.routingDecisionDigest),
    ("selected_executor_digest", toPy r.selectedExecutorDigest),
    ("required_capabilities", toPy r.requiredCapabilities),
    ("requested_actions", toPy r.requestedActions),
    ("max_work_invocations", toPy r.maxWorkInvocations),
    ("authority_digest", toPy r.authorityDigest),
    ("authority_created", toPy r.authorityCreated),
    ("execution_triggered", toPy r.executionTriggered),
    ("schema_version", toPy r.schemaVersion)]

end WorkEscalationRequest

variable [Sha256]

def WorkInvocationAuthority.digest (a : WorkInvocationAuthority) : String :=
  sha256Digest (toPy a)

def WorkEscalationRequest.requestId (r : WorkEscalationRequest) : String :=
  stableId "gewr" (toPy r)

def WorkEscalationRequest.digest (r : WorkEscalationRequest) : String :=
  sha256Digest (toPy r)

def prepareWorkEscalationRequest (envelope : UnattendedAuthorityEnvelope)
    (work : UnattendedWorkItem) (decision : WorkSparseControllerDecision)
    (authority : WorkInvocationAuthority) : Py WorkEscalationRequest := do
  Py.require (decision.disposition = .dispatch) .workEscalationError
    "Work escalation requires a DISPATCH routing decision"
  Py.require (decision.selectedExecutorId = some "work" ∧ decision.workRequired = true)
    .workEscalationError "routing decision did not select Work"
  Py.require (decision.executionTriggered = false ∧ decision.authorityCreated = false)
    .workEscalationError "routing decision cannot claim execution or create authority"
  Py.require (decision.workItemDigest = work.digest) .workEscalationError
    "routing decision work item digest mismatch"
  Py.require (decision.envelopeDigest = envelope.digest) .workEscalationError
    "routing decision envelope digest mismatch"
  Py.require (decision.authorityRef = envelope.authorityRef) .workEscalationError
    "routing decision authority mismatch"
  Py.require (work.authorityRef = envelope.authorityRef) .workEscalationError
    "work item authority mismatch"
  Py.require (authority.authorityRef = envelope.authorityRef) .workEscalationError
    "Work invocation authority reference mismatch"
  Py.require (0 < envelope.maxWorkInvocations) .workEscalationError
    "Work invocation budget is not authorized"
  let limit := min envelope.maxWorkInvocations authority.maxInvocations
  Py.require (0 < limit) .workEscalationError "Work invocation authority has no usable budget"
  let selectedExecutorDigest := decision.selectedExecutorDigest.getD ""
  Py.require (Guard.StrippedSha256 selectedExecutorDigest) .workEscalationError <|
    Guard.strippedSha256Message "selected_executor_digest" selectedExecutorDigest
  WorkEscalationRequest.new work.workId work.objective work.repository work.sourceRevision
    work.authorityRef envelope.digest work.digest decision.decisionDigest
    (Text.stripped selectedExecutorDigest) work.requiredCapabilities work.requestedActions limit
    authority.digest false false "ge.work-escalation-request.v1"

end GeneralExecution
