import GeneralExecution.Gates.Reconciliation

namespace GeneralExecution

inductive EnvironmentScope
  | sandbox
  | productionEquivalent
deriving DecidableEq

instance : PyLiteral EnvironmentScope where
  spelling
    | .sandbox              => "sandbox"
    | .productionEquivalent => "production_equivalent"
  values           := [.sandbox, .productionEquivalent]
  parse_spelling a := by cases a <;> rfl

inductive ConformanceCaseId
  | absenceSemantics
  | differentRequestRejection
  | lookupIdentityBinding
  | sameRequestSemantics
  | terminalEvidenceBinding
deriving DecidableEq

instance : PyLiteral ConformanceCaseId where
  spelling
    | .absenceSemantics          => "absence_semantics"
    | .differentRequestRejection => "different_request_rejection"
    | .lookupIdentityBinding     => "lookup_identity_binding"
    | .sameRequestSemantics      => "same_request_semantics"
    | .terminalEvidenceBinding   => "terminal_evidence_binding"
  values := [.absenceSemantics, .differentRequestRejection, .lookupIdentityBinding,
    .sameRequestSemantics, .terminalEvidenceBinding]
  parse_spelling a := by cases a <;> rfl

-- In the order of `sorted`.
def mandatoryCases : List ConformanceCaseId :=
  [.absenceSemantics, .differentRequestRejection, .lookupIdentityBinding, .sameRequestSemantics]

-- `REVISION.fullmatch(value)`
def IsRevision (s : String) : Prop :=
  (s.length = 40 ∨ s.length = 64) ∧ ∀ c ∈ s.toList, c ∈ Text.lowerHex

instance (s : String) : Decidable (IsRevision s) :=
  inferInstanceAs <| Decidable (_ ∧ _)

-- `_digest`
def checkLowerSha256 (xs : List (String × String)) : Py (PLift (∀ x ∈ xs, IsLowerSha256 x.2)) :=
  checkAll IsLowerSha256 (fun name _ => name ++ " must be sha256:<64-lowercase-hex>") xs

theorem checkLowerSha256_of {xs : List (String × String)} (h : ∀ x ∈ xs, IsLowerSha256 x.2) :
    checkLowerSha256 xs = .ok ⟨h⟩ :=
  checkAll_of h

-- `_revision`
def checkRevision (name value : String) : Py (PLift (IsRevision value)) :=
  Py.check (IsRevision value) .valueError (name ++ " must be an immutable 40- or 64-hex revision")

@[ext]
structure ProviderConformanceCaseResult where
  caseId         : ConformanceCaseId
  passed         : Bool
  evidenceDigest : String
  detail         : String := ""
  schemaVersion  : String := "ge.provider-conformance-case.v1"
  isSha256       : IsLowerSha256 evidenceDigest
deriving DecidableEq

instance : AsDict ProviderConformanceCaseResult where
  asdict r := [
    ("case_id", toPy r.caseId),
    ("passed", toPy r.passed),
    ("evidence_digest", toPy r.evidenceDigest),
    ("detail", toPy r.detail),
    ("schema_version", toPy r.schemaVersion)]

@[ext]
structure ProviderConformanceEvidence where
  contractDigest   : String
  adapterRevision  : String
  environmentScope : EnvironmentScope
  cases            : List ProviderConformanceCaseResult
  suiteVersion     : String := "ge.provider-reconciliation-conformance.v1"
  schemaVersion    : String := "ge.provider-conformance-evidence.v1"
  isSha256         : IsLowerSha256 contractDigest
  isRevision       : IsRevision adapterRevision
  suite            : suiteVersion = "ge.provider-reconciliation-conformance.v1"
  unique           : (cases.map ProviderConformanceCaseResult.caseId).Nodup
deriving DecidableEq

instance : AsDict ProviderConformanceEvidence where
  asdict e := [
    ("contract_digest", toPy e.contractDigest),
    ("adapter_revision", toPy e.adapterRevision),
    ("environment_scope", toPy e.environmentScope),
    ("cases", toPy e.cases),
    ("suite_version", toPy e.suiteVersion),
    ("schema_version", toPy e.schemaVersion)]

@[ext]
structure ProviderContractAttestation where
  contractDigest             : String
  adapterRevision            : String
  conformanceEvidenceDigest  : String
  environmentScope           : EnvironmentScope
  passedCases                : List ConformanceCaseId
  failedCases                : List ConformanceCaseId
  contractConformant         : Bool
  safeResubmissionCertified  : Bool
  terminalEvidenceCertified  : Bool
  authority                  : String := "NONE"
  suiteVersion               : String := "ge.provider-reconciliation-conformance.v1"
  schemaVersion              : String := "ge.provider-contract-attestation.v1"
  isSha256 :
    ∀ x ∈ [("contract_digest", contractDigest),
      ("conformance_evidence_digest", conformanceEvidenceDigest)], IsLowerSha256 x.2
  isRevision  : IsRevision adapterRevision
  noAuthority : authority = "NONE"
  suite       : suiteVersion = "ge.provider-reconciliation-conformance.v1"
  disjoint    : ∀ c ∈ passedCases, c ∉ failedCases
  unique      : passedCases.Nodup ∧ failedCases.Nodup
  conformant  : contractConformant = true → failedCases = []
  certified :
    safeResubmissionCertified = true →
      contractConformant = true ∧ environmentScope = .productionEquivalent
  terminal : terminalEvidenceCertified = true → environmentScope = .productionEquivalent
deriving DecidableEq

namespace ProviderContractAttestation

def new (contractDigest adapterRevision conformanceEvidenceDigest : String)
    (environmentScope : EnvironmentScope) (passedCases failedCases : List ConformanceCaseId)
    (contractConformant safeResubmissionCertified terminalEvidenceCertified : Bool) :
    Py ProviderContractAttestation := do
  let ⟨h₁⟩ ← checkLowerSha256
    [("contract_digest", contractDigest),
      ("conformance_evidence_digest", conformanceEvidenceDigest)]
  let ⟨h₂⟩ ← checkRevision "adapter_revision" adapterRevision
  let ⟨h₃⟩ ← Py.check (∀ c ∈ passedCases, c ∉ failedCases) .valueError
    "conformance case cannot be both passed and failed"
  let ⟨h₄⟩ ← Py.check (passedCases.Nodup ∧ failedCases.Nodup) .valueError
    "attestation conformance cases must be unique"
  let ⟨h₅⟩ ← Py.check (contractConformant = true → failedCases = []) .valueError
    "conformant attestation cannot contain failed required cases"
  let ⟨h₆⟩ ← Py.check
    (safeResubmissionCertified = true →
      contractConformant = true ∧ environmentScope = .productionEquivalent) .valueError
    "safe resubmission certification requires production-equivalent conformance"
  let ⟨h₇⟩ ← Py.check
    (terminalEvidenceCertified = true → environmentScope = .productionEquivalent) .valueError
    "terminal evidence certification requires production-equivalent conformance"
  return {
    contractDigest, adapterRevision, conformanceEvidenceDigest, environmentScope, passedCases,
    failedCases, contractConformant, safeResubmissionCertified, terminalEvidenceCertified,
    isSha256 := h₁, isRevision := h₂, noAuthority := rfl, suite := rfl, disjoint := h₃,
    unique := h₄, conformant := h₅, certified := h₆, terminal := h₇ }

instance : AsDict ProviderContractAttestation where
  asdict a := [
    ("contract_digest", toPy a.contractDigest),
    ("adapter_revision", toPy a.adapterRevision),
    ("conformance_evidence_digest", toPy a.conformanceEvidenceDigest),
    ("environment_scope", toPy a.environmentScope),
    ("passed_cases", toPy a.passedCases),
    ("failed_cases", toPy a.failedCases),
    ("contract_conformant", toPy a.contractConformant),
    ("safe_resubmission_certified", toPy a.safeResubmissionCertified),
    ("terminal_evidence_certified", toPy a.terminalEvidenceCertified),
    ("authority", toPy a.authority),
    ("suite_version", toPy a.suiteVersion),
    ("schema_version", toPy a.schemaVersion)]

end ProviderContractAttestation

@[ext]
structure AttestedResubmissionPermit where
  decisionDigest               : String
  reconciliationEvidenceDigest : String
  contractDigest               : String
  attestationDigest            : String
  conformanceEvidenceDigest    : String
  livePermitDigest             : String
  adapterRevision              : String
  invocationId                 : String
  requestDigest                : String
  authority                    : String := "IDEMPOTENT_RESUBMIT_ONLY"
  newPhysicalAttemptAuthorized : Bool := false
  schemaVersion                : String := "ge.attested-resubmission-permit.v1"
  isSha256 :
    ∀ x ∈ [("decision_digest", decisionDigest),
      ("reconciliation_evidence_digest", reconciliationEvidenceDigest),
      ("contract_digest", contractDigest), ("attestation_digest", attestationDigest),
      ("conformance_evidence_digest", conformanceEvidenceDigest),
      ("live_permit_digest", livePermitDigest), ("request_digest", requestDigest)],
      IsLowerSha256 x.2
  isRevision   : IsRevision adapterRevision
  nonempty     : ¬Text.Blank invocationId
  limited      : authority = "IDEMPOTENT_RESUBMIT_ONLY"
  noNewAttempt : newPhysicalAttemptAuthorized = false

instance : DecidableEq AttestedResubmissionPermit :=
  fun _ _ => decidable_of_iff _ AttestedResubmissionPermit.ext_iff.symm

def AttestedResubmissionPermit.new (decisionDigest reconciliationEvidenceDigest contractDigest
    attestationDigest conformanceEvidenceDigest livePermitDigest adapterRevision invocationId
    requestDigest : String) : Py AttestedResubmissionPermit := do
  let ⟨h₁⟩ ← checkLowerSha256
    [("decision_digest", decisionDigest),
      ("reconciliation_evidence_digest", reconciliationEvidenceDigest),
      ("contract_digest", contractDigest), ("attestation_digest", attestationDigest),
      ("conformance_evidence_digest", conformanceEvidenceDigest),
      ("live_permit_digest", livePermitDigest), ("request_digest", requestDigest)]
  let ⟨h₂⟩ ← checkRevision "adapter_revision" adapterRevision
  let ⟨h₃⟩ ← Py.check (¬Text.Blank invocationId) .valueError "invocation_id must be non-empty"
  return {
    decisionDigest, reconciliationEvidenceDigest, contractDigest, attestationDigest,
    conformanceEvidenceDigest, livePermitDigest, adapterRevision, invocationId, requestDigest,
    isSha256 := h₁, isRevision := h₂, nonempty := h₃, limited := rfl, noNewAttempt := rfl }

variable [Sha256]

def ProviderConformanceEvidence.digest (e : ProviderConformanceEvidence) : String :=
  sha256Digest (toPy e)

def ProviderContractAttestation.digest (a : ProviderContractAttestation) : String :=
  sha256Digest (toPy a)

-- `_case_map`
def findCase (evidence : ProviderConformanceEvidence) (id : ConformanceCaseId) :
    Option ProviderConformanceCaseResult :=
  evidence.cases.find? fun r => r.caseId = id

def requiredCases (contract : ProviderReconciliationContract) : List ConformanceCaseId :=
  mandatoryCases ++ if contract.terminalEvidenceLookup then [.terminalEvidenceBinding] else []

def casePassed (evidence : ProviderConformanceEvidence) (id : ConformanceCaseId) : Bool :=
  (findCase evidence id).any ProviderConformanceCaseResult.passed

def attestProviderContract (contract : ProviderReconciliationContract)
    (evidence : ProviderConformanceEvidence) : Py ProviderContractAttestation := do
  Py.require (evidence.contractDigest = contract.digest) .conformanceError
    "conformance evidence contract digest mismatch"
  let considered := requiredCases contract
  let missing    := considered.filter fun id => (findCase evidence id).isNone
  Py.require (missing = []) .conformanceError <|
    "missing required conformance cases: " ++ ",".intercalate (missing.map PyLiteral.spelling)
  let passed               := considered.filter fun id => casePassed evidence id
  let failed               := considered.filter fun id => ¬casePassed evidence id
  let contractConformant   := failed.isEmpty
  let productionEquivalent : Bool := evidence.environmentScope = .productionEquivalent
  ProviderContractAttestation.new
    contract.digest
    evidence.adapterRevision
    evidence.digest
    evidence.environmentScope
    passed
    failed
    contractConformant
    (contractConformant && productionEquivalent && contract.safeIdempotentResubmission)
    (contract.terminalEvidenceLookup && productionEquivalent &&
      casePassed evidence .terminalEvidenceBinding)

-- `except (ConformanceError, ValueError)`: every error of the calls is one.
def verifyProviderAttestation (contract : ProviderReconciliationContract)
    (evidence : ProviderConformanceEvidence) (attestation : ProviderContractAttestation)
    (adapterRevision : String) (requireSafeResubmission : Bool) : Bool :=
  match (do let _ ← checkRevision "adapter_revision" adapterRevision
            attestProviderContract contract evidence : Py _) with
  | .error _     => false
  | .ok expected =>
    evidence.adapterRevision = adapterRevision ∧ attestation = expected ∧
      (requireSafeResubmission → attestation.safeResubmissionCertified)

def authorizeAttestedResubmission (decision : ReconciliationDecision)
    (contract : ProviderReconciliationContract) (evidence : ProviderConformanceEvidence)
    (attestation : ProviderContractAttestation) (adapterRevision : String)
    (dispatchState : DispatchIntentState) (dispatchPermit : DispatchPermit)
    (livePermit : LiveDispatchPermit) (runner : RunnerCapabilities) :
    StoreCall AttestedResubmissionPermit := do
  Py.require
    (decision.action = .resubmitSameInvocation ∧ decision.resubmitAuthorized = true ∧
      decision.requiresFreshLivePermit = true)
    .conformanceError "reconciliation decision does not authorize same-invocation resubmission"
  Py.require (decision.contractDigest = contract.digest) .conformanceError
    "reconciliation decision contract binding mismatch"
  Py.require (decision.livePermitDigest = some livePermit.digest) .conformanceError
    "reconciliation decision live permit binding mismatch"
  Py.require
    (decision.invocationId = dispatchState.intent.invocationId ∧
      decision.requestDigest = dispatchState.intent.requestDigest)
    .conformanceError "reconciliation decision invocation binding mismatch"
  Py.require (verifyProviderAttestation contract evidence attestation adapterRevision true)
    .conformanceError
    "provider contract lacks production-equivalent safe-resubmission attestation"
  let verified ← verifyLiveDispatchPermit dispatchState dispatchPermit livePermit runner
  Py.require verified .conformanceError
    "live dispatch permit is stale or invalid at attested resubmission gate"
  AttestedResubmissionPermit.new
    decision.digest
    decision.evidenceDigest
    contract.digest
    attestation.digest
    evidence.digest
    livePermit.digest
    adapterRevision
    decision.invocationId
    decision.requestDigest

-- `except (ConformanceError, ValueError)`
def verifyAttestedResubmissionPermit (permit : AttestedResubmissionPermit)
    (decision : ReconciliationDecision) (contract : ProviderReconciliationContract)
    (evidence : ProviderConformanceEvidence) (attestation : ProviderContractAttestation)
    (adapterRevision : String) (dispatchState : DispatchIntentState)
    (dispatchPermit : DispatchPermit) (livePermit : LiveDispatchPermit)
    (runner : RunnerCapabilities) : StoreCall Bool := do
  match ← (authorizeAttestedResubmission decision contract evidence attestation adapterRevision
    dispatchState dispatchPermit livePermit runner).attempt with
  | .ok expected => return permit = expected
  | .error e     => if e.cls.IsA .valueError then return false else throw e

end GeneralExecution
