import GeneralExecution.Portfolio.Persistence
import GeneralExecution.Portfolio.Transition

namespace GeneralExecution

-- `_commit_sha`
def IsCommitSha (s : String) : Prop :=
  s.length = 40 ∧ Text.isInt16 s.toList = true

instance : DecidablePred IsCommitSha :=
  fun _ => inferInstanceAs <| Decidable (_ ∧ _)

def checkCommitSha (xs : List (String × String)) : Py (PLift (∀ x ∈ xs, IsCommitSha x.2)) :=
  Guard.each .resumeTickError IsCommitSha
    (fun name value =>
      if value.length = 40 then name ++ " must be hexadecimal"
      else name ++ " must be a 40-character commit SHA") xs

@[ext]
structure CoreVerificationRequirement where
  requiredRevision    : String
  requiredSuiteRef    : String
  requiredVerifierRef : String
  minimumTestCount    : Nat
  schemaVersion       : String := "ge.core-verification-requirement.v1"
  version             : schemaVersion = "ge.core-verification-requirement.v1"
  isCommit            : ∀ x ∈ [("required_revision", requiredRevision)], IsCommitSha x.2
  nonempty :
    ∀ x ∈ [("required_suite_ref", requiredSuiteRef), ("required_verifier_ref", requiredVerifierRef)],
      ¬Text.Blank x.2
  hasTest : 1 ≤ minimumTestCount

namespace CoreVerificationRequirement

def new (requiredRevision requiredSuiteRef requiredVerifierRef : String) (minimumTestCount : Nat)
    (schemaVersion : String) : Py CoreVerificationRequirement := do
  let ⟨h₁⟩ ← Py.check (schemaVersion = "ge.core-verification-requirement.v1") .resumeTickError
    "unsupported core verification requirement schema"
  let ⟨h₂⟩ ← checkCommitSha [("required_revision", requiredRevision)]
  let ⟨h₃⟩ ← Guard.nonempty .resumeTickError
    [("required_suite_ref", requiredSuiteRef), ("required_verifier_ref", requiredVerifierRef)]
  let ⟨h₄⟩ ← Py.check (1 ≤ minimumTestCount) .resumeTickError "minimum_test_count must be >= 1"
  return {
    requiredRevision, requiredSuiteRef, requiredVerifierRef, minimumTestCount, schemaVersion,
    version := h₁, isCommit := h₂, nonempty := h₃, hasTest := h₄ }

instance : AsDict CoreVerificationRequirement where
  asdict r := [
    ("required_revision", toPy r.requiredRevision),
    ("required_suite_ref", toPy r.requiredSuiteRef),
    ("required_verifier_ref", toPy r.requiredVerifierRef),
    ("minimum_test_count", toPy r.minimumTestCount),
    ("schema_version", toPy r.schemaVersion)]

end CoreVerificationRequirement

@[ext]
structure CoreVerificationReceipt where
  targetRevision : String
  suiteRef       : String
  evidenceRef    : String
  evidenceDigest : String
  verifierRef    : String
  executedAt     : String
  passed         : Bool
  testCount      : Nat
  schemaVersion  : String := "ge.core-verification-receipt.v1"
  version        : schemaVersion = "ge.core-verification-receipt.v1"
  isCommit       : ∀ x ∈ [("target_revision", targetRevision)], IsCommitSha x.2
  nonempty :
    ∀ x ∈ [("suite_ref", suiteRef), ("evidence_ref", evidenceRef), ("verifier_ref", verifierRef),
      ("executed_at", executedAt)], ¬Text.Blank x.2
  isSha256 : ∀ x ∈ [("evidence_digest", evidenceDigest)], IsSha256 x.2
  hasTest  : 1 ≤ testCount
  pass     : passed = true

namespace CoreVerificationReceipt

def new (targetRevision suiteRef evidenceRef evidenceDigest verifierRef executedAt : String)
    (passed : Bool) (testCount : Nat) (schemaVersion : String) : Py CoreVerificationReceipt := do
  let ⟨h₁⟩ ← Py.check (schemaVersion = "ge.core-verification-receipt.v1") .resumeTickError
    "unsupported core verification receipt schema"
  let ⟨h₂⟩ ← checkCommitSha [("target_revision", targetRevision)]
  let ⟨h₃⟩ ← Guard.nonempty .resumeTickError
    [("suite_ref", suiteRef), ("evidence_ref", evidenceRef), ("verifier_ref", verifierRef),
      ("executed_at", executedAt)]
  let ⟨h₄⟩ ← Guard.sha256 .resumeTickError [("evidence_digest", evidenceDigest)]
  let ⟨h₅⟩ ← Py.check (1 ≤ testCount) .resumeTickError "test_count must be >= 1"
  let ⟨h₆⟩ ← Py.check (passed = true) .resumeTickError
    "core verification receipt must record PASS"
  return {
    targetRevision, suiteRef, evidenceRef, evidenceDigest, verifierRef, executedAt, passed,
    testCount, schemaVersion, version := h₁, isCommit := h₂, nonempty := h₃, isSha256 := h₄,
    hasTest := h₅, pass := h₆ }

instance : AsDict CoreVerificationReceipt where
  asdict r := [
    ("target_revision", toPy r.targetRevision),
    ("suite_ref", toPy r.suiteRef),
    ("evidence_ref", toPy r.evidenceRef),
    ("evidence_digest", toPy r.evidenceDigest),
    ("verifier_ref", toPy r.verifierRef),
    ("executed_at", toPy r.executedAt),
    ("passed", toPy r.passed),
    ("test_count", toPy r.testCount),
    ("schema_version", toPy r.schemaVersion)]

end CoreVerificationReceipt

@[ext]
structure ResumeTickObservation where
  portfolioId         : String
  expectedGeneration  : Nat
  expectedStateDigest : String
  policyDigest        : String
  event               : String
  evidence            : List CheckpointEvidence
  actionRef           : String
  observedAt          : String
  summary             : String
  canonicalRefs       : List String
  uncertainties       : List String
  wakeAdmission       : Option PassiveWakeAdmission
  authorityGrant      : Option TransitionAuthorityGrant
  schemaVersion       : String := "ge.resume-tick-observation.v1"
  version             : schemaVersion = "ge.resume-tick-observation.v1"
  nonempty :
    ∀ x ∈ [("portfolio_id", portfolioId), ("event", event), ("action_ref", actionRef),
      ("observed_at", observedAt), ("summary", summary)], ¬Text.Blank x.2
  isSha256 :
    ∀ x ∈ [("expected_state_digest", expectedStateDigest), ("policy_digest", policyDigest)],
      IsSha256 x.2
  evident  : evidence ≠ []
  distinct : (evidence.map CheckpointEvidence.identity).Nodup
  hasRefs  : canonicalRefs ≠ []
  refs     : Guard.UniqueNonempty canonicalRefs
  unique   : Guard.UniqueNonempty uncertainties

instance : DecidableEq ResumeTickObservation :=
  fun _ _ => decidable_of_iff _ ResumeTickObservation.ext_iff.symm

namespace ResumeTickObservation

def new (portfolioId : String) (expectedGeneration : Nat)
    (expectedStateDigest policyDigest event : String) (evidence : List CheckpointEvidence)
    (actionRef observedAt summary : String) (canonicalRefs uncertainties : List String)
    (wakeAdmission : Option PassiveWakeAdmission)
    (authorityGrant : Option TransitionAuthorityGrant) (schemaVersion : String) :
    Py ResumeTickObservation := do
  let ⟨h₁⟩ ← Py.check (schemaVersion = "ge.resume-tick-observation.v1") .resumeTickError
    "unsupported resume tick observation schema"
  let ⟨h₂⟩ ← Guard.nonempty .resumeTickError
    [("portfolio_id", portfolioId), ("event", event), ("action_ref", actionRef),
      ("observed_at", observedAt), ("summary", summary)]
  let ⟨h₃⟩ ← Guard.sha256 .resumeTickError
    [("expected_state_digest", expectedStateDigest), ("policy_digest", policyDigest)]
  let ⟨h₄⟩ ← Py.check (evidence ≠ []) .resumeTickError "tick observation requires admitted evidence"
  let ⟨h₅⟩ ← Py.check (evidence.map CheckpointEvidence.identity).Nodup .resumeTickError
    "tick observation evidence must be unique"
  let ⟨h₆⟩ ← Py.check (canonicalRefs ≠ []) .resumeTickError
    "tick observation requires canonical_refs"
  let ⟨h₇⟩ ← Py.check (Guard.UniqueNonempty canonicalRefs) .resumeTickError <|
    if ∀ value ∈ canonicalRefs, ¬Text.Blank value then "canonical_refs must be unique"
    else "canonical_refs must contain non-empty strings"
  let ⟨h₈⟩ ← Py.check (Guard.UniqueNonempty uncertainties) .resumeTickError <|
    if ∀ value ∈ uncertainties, ¬Text.Blank value then "uncertainties must be unique"
    else "uncertainties must contain non-empty strings"
  return {
    portfolioId, expectedGeneration, expectedStateDigest, policyDigest, event, evidence, actionRef,
    observedAt, summary, canonicalRefs, uncertainties, wakeAdmission, authorityGrant,
    schemaVersion, version := h₁, nonempty := h₂, isSha256 := h₃, evident := h₄, distinct := h₅,
    hasRefs := h₆, refs := h₇, unique := h₈ }

instance : AsDict ResumeTickObservation where
  asdict o := [
    ("portfolio_id", toPy o.portfolioId),
    ("expected_generation", toPy o.expectedGeneration),
    ("expected_state_digest", toPy o.expectedStateDigest),
    ("policy_digest", toPy o.policyDigest),
    ("event", toPy o.event),
    ("evidence", toPy o.evidence),
    ("action_ref", toPy o.actionRef),
    ("observed_at", toPy o.observedAt),
    ("summary", toPy o.summary),
    ("canonical_refs", toPy o.canonicalRefs),
    ("uncertainties", toPy o.uncertainties),
    ("wake_admission", toPy o.wakeAdmission),
    ("authority_grant", toPy o.authorityGrant),
    ("schema_version", toPy o.schemaVersion)]

end ResumeTickObservation

inductive TickDisposition
  | committed
  | alreadyApplied
  | externalInputRequired
  | verificationGateClosed
  | staleObservation
deriving DecidableEq

instance : PyLiteral TickDisposition where
  spelling
    | .committed              => "committed"
    | .alreadyApplied         => "already_applied"
    | .externalInputRequired  => "external_input_required"
    | .verificationGateClosed => "verification_gate_closed"
    | .staleObservation       => "stale_observation"
  values := [.committed, .alreadyApplied, .externalInputRequired, .verificationGateClosed,
    .staleObservation]
  parse_spelling a := by cases a <;> rfl

@[ext]
structure ResumeTickResult where
  portfolioId            : String
  disposition            : TickDisposition
  observationDigest      : Option String
  preGeneration          : Nat
  postGeneration         : Nat
  preStateDigest         : String
  postStateDigest        : String
  checkpointDigest       : Option String := none
  transitionResultDigest : Option String := none
  recoveryReportDigest   : Option String := none
  requestedWorkId        : Option String := none
  requestedActionRef     : Option String := none
  humanRequired          : Bool := false

namespace ResumeTickResult

-- What a result requests, and which disposition may request it.
def RequestOk (r : ResumeTickResult) : Prop :=
  if r.disposition = .externalInputRequired then
    r.observationDigest.isNone ∧ Text.Present r.requestedWorkId ∧ Text.Present r.requestedActionRef
  else
    r.requestedWorkId.isNone ∧ r.requestedActionRef.isNone ∧ r.humanRequired = false

-- What a result says of the generations before and after the tick.
def AdvanceOk (r : ResumeTickResult) : Prop :=
  if r.disposition = .committed then
    r.postGeneration = r.preGeneration + 1 ∧ r.postStateDigest ≠ r.preStateDigest ∧
      r.checkpointDigest.isSome ∧ r.transitionResultDigest.isSome ∧ r.recoveryReportDigest.isSome
  else
    r.postGeneration = r.preGeneration ∧ r.postStateDigest = r.preStateDigest

instance (r : ResumeTickResult) : Decidable r.RequestOk := by
  unfold RequestOk
  infer_instance

instance (r : ResumeTickResult) : Decidable r.AdvanceOk := by
  unfold AdvanceOk
  infer_instance

def requestMessage (r : ResumeTickResult) : String :=
  if r.disposition = .externalInputRequired then
    if r.observationDigest.isSome then "external_input_required cannot carry observation digest"
    else if ¬Text.Present r.requestedWorkId then "requested_work_id must be a non-empty string"
    else "requested_action_ref must be a non-empty string"
  else if r.requestedWorkId.isSome ∨ r.requestedActionRef.isSome then
    "only external_input_required can request work"
  else "human_required is valid only for external_input_required"

def advanceMessage (r : ResumeTickResult) : String :=
  if r.disposition = .committed then
    if r.postGeneration ≠ r.preGeneration + 1 then
      "committed tick must advance exactly one generation"
    else if r.postStateDigest = r.preStateDigest then "committed tick must change state digest"
    else "committed tick requires full durable evidence"
  else if r.postGeneration ≠ r.preGeneration then "non-committed tick cannot advance generation"
  else "non-committed tick cannot mutate state"

-- `__post_init__`
def checked (r : ResumeTickResult) : Py ResumeTickResult := do
  let _ ← Guard.nonempty .resumeTickError [("portfolio_id", r.portfolioId)]
  let _ ← Guard.optionalSha256 .resumeTickError [("observation_digest", r.observationDigest)]
  let _ ← Guard.sha256 .resumeTickError
    [("pre_state_digest", r.preStateDigest), ("post_state_digest", r.postStateDigest)]
  let _ ← Guard.optionalSha256 .resumeTickError
    [("checkpoint_digest", r.checkpointDigest),
      ("transition_result_digest", r.transitionResultDigest),
      ("recovery_report_digest", r.recoveryReportDigest)]
  Py.require r.RequestOk .resumeTickError r.requestMessage
  Py.require
    (r.disposition = .externalInputRequired ∨ r.disposition = .verificationGateClosed ∨
      r.observationDigest.isSome) .resumeTickError "tick disposition requires observation digest"
  Py.require r.AdvanceOk .resumeTickError r.advanceMessage
  return r

end ResumeTickResult

variable [Sha256]

def CoreVerificationRequirement.digest (r : CoreVerificationRequirement) : String :=
  sha256Digest (toPy r)

def CoreVerificationReceipt.digest (r : CoreVerificationReceipt) : String :=
  sha256Digest (toPy r)

def ResumeTickObservation.digest (o : ResumeTickObservation) : String :=
  sha256Digest (toPy o)

def ResumeTickObservation.checkpointRef (o : ResumeTickObservation) : String :=
  "tick-observation:" ++ o.digest

-- `_gate_open`
def gateOpen (receipt : CoreVerificationReceipt) (requirement : CoreVerificationRequirement) : Bool :=
  decide (receipt.passed = true ∧
    receipt.targetRevision = requirement.requiredRevision ∧
    receipt.suiteRef = requirement.requiredSuiteRef ∧
    receipt.verifierRef = requirement.requiredVerifierRef ∧
    requirement.minimumTestCount ≤ receipt.testCount)

-- `_already_applied`
def alreadyApplied (portfolioId observationRef : String) : PortfolioCall (Option String) := do
  match ← PortfolioHeadStore.latestCheckpoint portfolioId with
  | none            => return none
  | some checkpoint =>
    return if observationRef ∈ checkpoint.canonicalRefs then some checkpoint.digest else none

-- The references that a tick adds to those of its observation.
def tickRefs (observation : ResumeTickObservation) (coreRequirement : CoreVerificationRequirement)
    (coreVerification : CoreVerificationReceipt) : List String :=
  observation.canonicalRefs ++ [observation.checkpointRef,
    "core-requirement:" ++ coreRequirement.digest, "core-verification:" ++ coreVerification.digest]

def tickTransition (state : PortfolioState) (policy : TransitionPolicy)
    (observation : ResumeTickObservation) (coreRequirement : CoreVerificationRequirement)
    (coreVerification : CoreVerificationReceipt) : Py PortfolioTransitionResult :=
  applyActiveTransition state policy observation.event observation.evidence observation.actionRef
    observation.observedAt observation.summary
    (tickRefs observation coreRequirement coreVerification) observation.uncertainties none
    observation.wakeAdmission observation.authorityGrant

-- A result that leaves the portfolio in the given state.
def idleResult (portfolioId : String) (disposition : TickDisposition)
    (observationDigest : Option String) (state : PortfolioState)
    (recovery : PortfolioRecoveryReport) : ResumeTickResult where
  portfolioId          := portfolioId
  disposition          := disposition
  observationDigest    := observationDigest
  preGeneration        := state.generation
  postGeneration       := state.generation
  preStateDigest       := state.digest
  postStateDigest      := state.digest
  recoveryReportDigest := some recovery.digest

-- `except PortfolioPersistenceError as exc` of the commit: another client has been faster.
def recoverTick (portfolioId : String) (state : PortfolioState)
    (observation : ResumeTickObservation) : PortfolioCall ResumeTickResult := do
  let (recoveredState, recoveredCheckpoint, recoveredReport) ←
    recoverPortfolioAfterRestart portfolioId
  if recoveredState.digest ≠ state.digest then
    let idle := fun disposition =>
      idleResult portfolioId disposition (some observation.digest) recoveredState recoveredReport
    match recoveredCheckpoint with
    | some checkpoint =>
      if observation.checkpointRef ∈ checkpoint.canonicalRefs then
        ResumeTickResult.checked
          { idle .alreadyApplied with checkpointDigest := some checkpoint.digest }
      else ResumeTickResult.checked (idle .staleObservation)
    | none            => ResumeTickResult.checked (idle .staleObservation)
  else
    throw ⟨.resumeTickError, "durable tick commit failed without competing state"⟩

-- What follows a commit of the transition.
def confirmTick (portfolioId : String) (state : PortfolioState)
    (observation : ResumeTickObservation) (transition : PortfolioTransitionResult) :
    PortfolioCall ResumeTickResult := do
  let (postState, postCheckpoint, postRecovery) ← recoverPortfolioAfterRestart portfolioId
  let postCheckpoint ← (Py.ofOption .resumeTickError "committed tick did not recover a checkpoint"
    postCheckpoint : Py _)
  Py.require (postCheckpoint.digest = transition.checkpoint.digest) .resumeTickError
    "committed tick recovered a different checkpoint"
  Py.require (postState = transition.newState) .resumeTickError
    "committed tick recovered a different portfolio state"
  ResumeTickResult.checked {
    portfolioId            := portfolioId
    disposition            := .committed
    observationDigest      := some observation.digest
    preGeneration          := state.generation
    postGeneration         := postState.generation
    preStateDigest         := state.digest
    postStateDigest        := postState.digest
    checkpointDigest       := some postCheckpoint.digest
    transitionResultDigest := some transition.digest
    recoveryReportDigest   := some postRecovery.digest }

def commitTick (portfolioId : String) (state : PortfolioState)
    (observation : ResumeTickObservation) (transition : PortfolioTransitionResult) :
    PortfolioCall ResumeTickResult := do
  match ← (PortfolioHeadStore.commit portfolioId state.digest transition.newState
    transition.checkpoint).attempt with
  | .ok _    => confirmTick portfolioId state observation transition
  | .error e =>
    if e.cls.IsA .portfolioPersistenceError then recoverTick portfolioId state observation
    else throw e

-- The part of a tick that follows an open gate, an observation and a matching policy.
def applyTick (portfolioId : String) (policy : TransitionPolicy)
    (observation : ResumeTickObservation) (coreRequirement : CoreVerificationRequirement)
    (coreVerification : CoreVerificationReceipt) (state : PortfolioState)
    (recovery : PortfolioRecoveryReport) : PortfolioCall ResumeTickResult := do
  let idle := fun disposition =>
    idleResult portfolioId disposition (some observation.digest) state recovery
  match ← alreadyApplied portfolioId observation.checkpointRef with
  | some checkpointDigest =>
    ResumeTickResult.checked { idle .alreadyApplied with checkpointDigest := some checkpointDigest }
  | none =>
    if observation.expectedGeneration ≠ state.generation ∨
        observation.expectedStateDigest ≠ state.digest then
      ResumeTickResult.checked (idle .staleObservation)
    else
      let transition ←
        (tickTransition state policy observation coreRequirement coreVerification : Py _)
      commitTick portfolioId state observation transition

def resumeTick (portfolioId : String) (policy : TransitionPolicy)
    (observation : Option ResumeTickObservation) (coreRequirement : CoreVerificationRequirement)
    (coreVerification : Option CoreVerificationReceipt) : PortfolioCall ResumeTickResult := do
  let _ ← (Guard.nonempty .resumeTickError [("portfolio_id", portfolioId)] : Py _)
  Py.require (∀ o ∈ observation, o.portfolioId = portfolioId) .resumeTickError
    "tick observation portfolio identity mismatch"
  let (state, _, recovery) ← recoverPortfolioAfterRestart portfolioId
  match coreVerification.filter (gateOpen · coreRequirement), observation with
  | none, _ =>
    ResumeTickResult.checked <| idleResult portfolioId .verificationGateClosed
      (observation.map ResumeTickObservation.digest) state recovery
  | some _, none =>
    ResumeTickResult.checked
      { idleResult portfolioId .externalInputRequired none state recovery with
        requestedWorkId    := some state.active.workId
        requestedActionRef := some state.active.nextActionRef
        humanRequired      := state.active.state = .humanGate }
  | some coreVerification, some observation => do
    Py.require (observation.policyDigest = policy.digest) .resumeTickError
      "tick observation transition policy mismatch"
    applyTick portfolioId policy observation coreRequirement coreVerification state recovery

end GeneralExecution
