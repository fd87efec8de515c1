import GeneralExecution.Portfolio.Tick

namespace GeneralExecution

-- `_digest`
def checkTriggerDigests (xs : List (String × String)) : Py (PLift (∀ x ∈ xs, IsLowerSha256 x.2)) :=
  Guard.each .triggerAdmissionError IsLowerSha256 (fun _ _ => "invalid digest") xs

def checkProvenance (message : String) (xs : List (String × String)) :
    Py (PLift (∀ x ∈ xs, ¬Text.Blank x.2)) :=
  Guard.each .triggerAdmissionError (¬Text.Blank ·) (fun _ _ => message) xs

@[ext]
structure ExternalTriggerEvidence where
  source            : String
  eventId           : String
  eventKind         : String
  payloadDigest     : String
  observationDigest : String
  admissionRef      : String
  nonempty :
    ∀ x ∈ [("source", source), ("event_id", eventId), ("event_kind", eventKind),
      ("admission_ref", admissionRef)], ¬Text.Blank x.2
  isSha256 :
    ∀ x ∈ [("payload_digest", payloadDigest), ("observation_digest", observationDigest)],
      IsLowerSha256 x.2

instance : DecidableEq ExternalTriggerEvidence :=
  fun _ _ => decidable_of_iff _ ExternalTriggerEvidence.ext_iff.symm

namespace ExternalTriggerEvidence

def new (source eventId eventKind payloadDigest observationDigest admissionRef : String) :
    Py ExternalTriggerEvidence := do
  let ⟨h₁⟩ ← checkProvenance "missing trigger provenance"
    [("source", source), ("event_id", eventId), ("event_kind", eventKind),
      ("admission_ref", admissionRef)]
  let ⟨h₂⟩ ← checkTriggerDigests
    [("payload_digest", payloadDigest), ("observation_digest", observationDigest)]
  return {
    source, eventId, eventKind, payloadDigest, observationDigest, admissionRef, nonempty := h₁,
    isSha256 := h₂ }

instance : AsDict ExternalTriggerEvidence where
  asdict e := [
    ("source", toPy e.source),
    ("event_id", toPy e.eventId),
    ("event_kind", toPy e.eventKind),
    ("payload_digest", toPy e.payloadDigest),
    ("observation_digest", toPy e.observationDigest),
    ("admission_ref", toPy e.admissionRef)]

end ExternalTriggerEvidence

@[ext]
structure TriggerContract where
  source          : String
  eventKind       : String
  portfolioId     : String
  policyDigest    : String
  transitionEvent : String
  isSha256        : ∀ x ∈ [("policy_digest", policyDigest)], IsLowerSha256 x.2
  nonempty :
    ∀ x ∈ [("source", source), ("event_kind", eventKind), ("portfolio_id", portfolioId),
      ("transition_event", transitionEvent)], ¬Text.Blank x.2

instance : DecidableEq TriggerContract :=
  fun _ _ => decidable_of_iff _ TriggerContract.ext_iff.symm

def TriggerContract.new (source eventKind portfolioId policyDigest transitionEvent : String) :
    Py TriggerContract := do
  let ⟨h₁⟩ ← checkTriggerDigests [("policy_digest", policyDigest)]
  let ⟨h₂⟩ ← checkProvenance "incomplete trigger contract"
    [("source", source), ("event_kind", eventKind), ("portfolio_id", portfolioId),
      ("transition_event", transitionEvent)]
  return {
    source, eventKind, portfolioId, policyDigest, transitionEvent, isSha256 := h₁,
    nonempty := h₂ }

-- What the trigger reads of the report of the core rehearsal.
@[ext]
structure CoreRehearsalReport where
  candidateRevision             : String
  coreVerificationReceiptDigest : String
  allPassed                     : Bool

variable [Sha256]

def ExternalTriggerEvidence.digest (e : ExternalTriggerEvidence) : String :=
  sha256Digest (toPy e)

def ExternalTriggerEvidence.identity (e : ExternalTriggerEvidence) : String :=
  sha256Digest (toPy (e.source, e.eventId))

-- The checks before the store is opened.
def admitTrigger (contract : TriggerContract) (event : ExternalTriggerEvidence)
    (observation : ResumeTickObservation) (policy : TransitionPolicy)
    (authenticatedAdmissionDigest : String) (coreRequirement : CoreVerificationRequirement)
    (coreVerification : CoreVerificationReceipt) (coreReport : CoreRehearsalReport) : Py Unit := do
  let _ ← checkTriggerDigests [("authenticated_admission_digest", authenticatedAdmissionDigest)]
  Py.require (authenticatedAdmissionDigest = event.digest) .triggerAdmissionError
    "event was not independently admitted"
  Py.require (event.source = contract.source ∧ event.eventKind = contract.eventKind)
    .triggerAdmissionError "trigger source/kind mismatch"
  Py.require
    ((observation.portfolioId = contract.portfolioId ∧
        observation.policyDigest = contract.policyDigest ∧
        observation.event = contract.transitionEvent) ∧ policy.digest = contract.policyDigest)
    .triggerAdmissionError "trigger contract mismatch"
  Py.require (event.observationDigest = observation.digest) .triggerAdmissionError
    "observation substitution"
  Py.require
    (coreReport.allPassed = true ∧
      coreReport.coreVerificationReceiptDigest = coreVerification.digest ∧
      coreReport.candidateRevision = coreVerification.targetRevision) .triggerAdmissionError
    "CORE-1 gate closed"
  Py.require
    ((coreVerification.targetRevision = coreRequirement.requiredRevision ∧
        coreVerification.suiteRef = coreRequirement.requiredSuiteRef ∧
        coreVerification.verifierRef = coreRequirement.requiredVerifierRef) ∧
      coreRequirement.minimumTestCount ≤ coreVerification.testCount) .triggerAdmissionError
    "verification gate mismatch"
  Py.require observation.authorityGrant.isNone .triggerAdmissionError
    "trigger cannot carry authority grant"

-- `replace(observation, canonical_refs=...)`
def boundObservation (event : ExternalTriggerEvidence) (observation : ResumeTickObservation) :
    Py ResumeTickObservation :=
  ResumeTickObservation.new observation.portfolioId observation.expectedGeneration
    observation.expectedStateDigest observation.policyDigest observation.event observation.evidence
    observation.actionRef observation.observedAt observation.summary
    ((observation.canonicalRefs ++ [event.admissionRef, "trigger:" ++ event.digest]).dedup.mergeSort)
    observation.uncertainties observation.wakeAdmission observation.authorityGrant
    observation.schemaVersion

-- `INSERT OR IGNORE` of the row after the check of the one that is there.
def bindStatements (event : ExternalTriggerEvidence) (bound : ResumeTickObservation) :
    PortfolioTransaction Unit := do
  let stores ← get
  match stores.binding? event.identity with
  | some row =>
    Py.require (row.admissionDigest = event.digest ∧ row.observationDigest = bound.digest)
      .triggerAdmissionError "event identity reused with different evidence"
  | none     =>
    let bindings ← Py.ofOption .integrityError "UNIQUE constraint failed" <|
      stores.triggerBindings.insert? {
        identity          := event.identity
        admissionDigest   := event.digest
        observationDigest := bound.digest }
    set { stores with triggerBindings := bindings }

-- The payloads of a portfolio's checkpoints, `ORDER BY generation`.
def checkpointPayloads (portfolioId : String) (stores : Portfolios) : List String :=
  ((stores.checkpoints.rows.filter (·.portfolioId = portfolioId)).mergeSort
    fun a b => a.generation ≤ b.generation).map PortfolioCheckpointRow.checkpointJson

-- The first checkpoint that carries the reference. Those before it are decoded too.
def findApplied (observationRef : String) : List String → Py (Option ExecutionCheckpoint)
  | []                 => return none
  | encoded :: payload => do
    let checkpoint ← deserializeCheckpoint encoded
    if observationRef ∈ checkpoint.canonicalRefs then return some checkpoint
    else findApplied observationRef payload

-- The part of a delivery that opens the store.
def consumeBound (portfolioId : String) (event : ExternalTriggerEvidence)
    (bound : ResumeTickObservation) (policy : TransitionPolicy)
    (coreRequirement : CoreVerificationRequirement) (coreVerification : CoreVerificationReceipt) :
    PortfolioCall ResumeTickResult := do
  let (state, _, recovery) ← recoverPortfolioAfterRestart portfolioId
  .transaction (bindStatements event bound)
  let payloads ← Program.query (checkpointPayloads portfolioId)
  match ← (findApplied bound.checkpointRef payloads : Py _) with
  | some checkpoint =>
    ResumeTickResult.checked
      { idleResult portfolioId .alreadyApplied (some bound.digest) state recovery with
        checkpointDigest := some checkpoint.digest }
  | none => resumeTick portfolioId policy (some bound) coreRequirement (some coreVerification)

def consumeExternalTrigger (contract : TriggerContract) (event : ExternalTriggerEvidence)
    (observation : ResumeTickObservation) (policy : TransitionPolicy)
    (authenticatedAdmissionDigest : String) (coreRequirement : CoreVerificationRequirement)
    (coreVerification : CoreVerificationReceipt) (coreReport : CoreRehearsalReport) :
    PortfolioCall ResumeTickResult := do
  admitTrigger contract event observation policy authenticatedAdmissionDigest coreRequirement
    coreVerification coreReport
  let bound ← (boundObservation event observation : Py _)
  consumeBound contract.portfolioId event bound policy coreRequirement coreVerification

end GeneralExecution
