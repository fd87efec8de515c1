import GeneralExecution.Portfolio.Tick

namespace GeneralExecution

@[ext]
structure HumanAuthorityReceipt where
  eventId             : String
  portfolioId         : String
  expectedGeneration  : Nat
  expectedStateDigest : String
  policyDigest        : String
  ruleDigest          : String
  authorityBoundary   : String
  approvedActionRef   : String
  approvedAt          : String
  providerActor       : String
  authorityRef        : String
  schemaVersion       : String := "ge.human-authority-receipt.v1"
  nonempty :
    ∀ x ∈ [("event_id", eventId), ("portfolio_id", portfolioId),
      ("authority_boundary", authorityBoundary), ("approved_action_ref", approvedActionRef),
      ("approved_at", approvedAt), ("provider_actor", providerActor),
      ("authority_ref", authorityRef)], ¬Text.Blank x.2
  isSha256 :
    ∀ x ∈ [("expected_state_digest", expectedStateDigest), ("policy_digest", policyDigest),
      ("rule_digest", ruleDigest)], IsSha256 x.2

namespace HumanAuthorityReceipt

def new (eventId portfolioId : String) (expectedGeneration : Nat)
    (expectedStateDigest policyDigest ruleDigest authorityBoundary approvedActionRef approvedAt
      providerActor authorityRef : String) : Py HumanAuthorityReceipt := do
  let ⟨h₁⟩ ← Guard.nonempty .humanAuthorityError
    [("event_id", eventId), ("portfolio_id", portfolioId),
      ("authority_boundary", authorityBoundary), ("approved_action_ref", approvedActionRef),
      ("approved_at", approvedAt), ("provider_actor", providerActor),
      ("authority_ref", authorityRef)]
  let ⟨h₂⟩ ← Guard.sha256 .humanAuthorityError
    [("expected_state_digest", expectedStateDigest), ("policy_digest", policyDigest),
      ("rule_digest", ruleDigest)]
  return {
    eventId, portfolioId, expectedGeneration, expectedStateDigest, policyDigest, ruleDigest,
    authorityBoundary, approvedActionRef, approvedAt, providerActor, authorityRef, nonempty := h₁,
    isSha256 := h₂ }

instance : AsDict HumanAuthorityReceipt where
  asdict r := [
    ("event_id", toPy r.eventId),
    ("portfolio_id", toPy r.portfolioId),
    ("expected_generation", toPy r.expectedGeneration),
    ("expected_state_digest", toPy r.expectedStateDigest),
    ("policy_digest", toPy r.policyDigest),
    ("rule_digest", toPy r.ruleDigest),
    ("authority_boundary", toPy r.authorityBoundary),
    ("approved_action_ref", toPy r.approvedActionRef),
    ("approved_at", toPy r.approvedAt),
    ("provider_actor", toPy r.providerActor),
    ("authority_ref", toPy r.authorityRef),
    ("schema_version", toPy r.schemaVersion)]

end HumanAuthorityReceipt

-- What a human says about the action that waits at the gate.
structure HumanApproval where
  eventId           : String
  approvedActionRef : String
  approvedAt        : String
  providerActor     : String
  authorityRef      : String

variable [Sha256]

def HumanAuthorityReceipt.digest (r : HumanAuthorityReceipt) : String :=
  sha256Digest (toPy r)

-- What the recovered portfolio has to be for the approval; the rule and its boundary are returned.
def admitApproval (policy : TransitionPolicy) (observation : ResumeTickObservation)
    (approval : HumanApproval) (state : PortfolioState) (checkpoint : Option ExecutionCheckpoint) :
    Py (TransitionRule × String) := do
  Py.require (state.active.state = .humanGate) .humanAuthorityError
    "human authority can be consumed only from human_gate"
  let _ ← Py.ofOption .humanAuthorityError "human_gate has no durable authority-stop checkpoint"
    (checkpoint.filter ExecutionCheckpoint.authorityStop)
  Py.require
    (observation.expectedGeneration = state.generation ∧
      observation.expectedStateDigest = state.digest) .humanAuthorityError
    "human authority observation is stale"
  Py.require (observation.policyDigest = policy.digest) .humanAuthorityError
    "human authority policy digest mismatch"
  Py.require (approval.approvedActionRef = state.active.nextActionRef) .humanAuthorityError
    "approved action does not match the pending human gate"
  let rule ← (matchTransitionRule policy state.active.state observation.event).mapError
    fun e => ⟨.humanAuthorityError, e.message⟩
  Py.require (rule.authorityMode = .preauthorizedRequired) .humanAuthorityError
    "human authority bridge requires preauthorized_required transition"
  let boundary ← Py.ofOption .humanAuthorityError "authorized transition has no authority boundary"
    (rule.authorityBoundary.filter (· ≠ ""))
  Py.require (state.active.authorityBoundary = some boundary) .humanAuthorityError
    "authorized transition boundary does not match the pending human gate"
  return (rule, boundary)

def approvalReceipt (policy : TransitionPolicy) (approval : HumanApproval) (state : PortfolioState)
    (rule : TransitionRule) (boundary : String) : Py HumanAuthorityReceipt :=
  HumanAuthorityReceipt.new approval.eventId state.portfolioId state.generation state.digest
    policy.digest rule.digest boundary approval.approvedActionRef approval.approvedAt
    approval.providerActor approval.authorityRef

-- The observation with the grant that the receipt makes.
def authorizedObservation (policy : TransitionPolicy) (observation : ResumeTickObservation)
    (rule : TransitionRule) (boundary : String) (receipt : HumanAuthorityReceipt) :
    Py ResumeTickObservation := do
  let grant ← TransitionAuthorityGrant.new policy.digest rule.digest boundary receipt.authorityRef
    receipt.digest "ge.transition-authority-grant.v1"
  let refs := (observation.canonicalRefs ++ [receipt.authorityRef]).eraseDups
  ResumeTickObservation.new observation.portfolioId observation.expectedGeneration
    observation.expectedStateDigest observation.policyDigest observation.event observation.evidence
    observation.actionRef observation.observedAt observation.summary refs observation.uncertainties
    observation.wakeAdmission (some grant) observation.schemaVersion

-- The receipt and the observation that the approval makes of the recovered portfolio.
def authorityAdmission (policy : TransitionPolicy) (observation : ResumeTickObservation)
    (approval : HumanApproval) (state : PortfolioState) (checkpoint : Option ExecutionCheckpoint) :
    Py (HumanAuthorityReceipt × ResumeTickObservation) := do
  let (rule, boundary) ← admitApproval policy observation approval state checkpoint
  let receipt ← approvalReceipt policy approval state rule boundary
  let bound ← authorizedObservation policy observation rule boundary receipt
  return (receipt, bound)

def admitHumanAuthority (policy : TransitionPolicy) (observation : ResumeTickObservation)
    (approval : HumanApproval) : PortfolioCall (HumanAuthorityReceipt × ResumeTickObservation) := do
  Py.require (approval.providerActor = "Waterfound") .humanAuthorityError
    "human authority provider actor is not trusted"
  Py.require observation.authorityGrant.isNone .humanAuthorityError
    "authority input observation must not self-carry a grant"
  let (state, checkpoint, _) ← recoverPortfolioAfterRestart observation.portfolioId
  (authorityAdmission policy observation approval state checkpoint : Py _)

def consumeHumanAuthority (policy : TransitionPolicy) (observation : ResumeTickObservation)
    (approval : HumanApproval) (coreRequirement : CoreVerificationRequirement)
    (coreVerification : CoreVerificationReceipt) :
    PortfolioCall (HumanAuthorityReceipt × ResumeTickObservation × ResumeTickResult) := do
  let (receipt, bound) ← admitHumanAuthority policy observation approval
  let result ← resumeTick observation.portfolioId policy (some bound) coreRequirement
    (some coreVerification)
  return (receipt, bound, result)

end GeneralExecution
