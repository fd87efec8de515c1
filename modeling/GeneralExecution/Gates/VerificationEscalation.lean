import GeneralExecution.Portfolio.Tick

namespace GeneralExecution

inductive VerificationOutcome
  | pass
  | reject
deriving DecidableEq

instance : PyLiteral VerificationOutcome where
  spelling
    | .pass   => "pass"
    | .reject => "reject"
  values           := [.pass, .reject]
  parse_spelling o := by cases o <;> rfl

inductive VerificationDisposition
  | verified
  | reworkRequired
deriving DecidableEq

instance : PyLiteral VerificationDisposition where
  spelling
    | .verified       => "verified"
    | .reworkRequired => "rework_required"
  values           := [.verified, .reworkRequired]
  parse_spelling d := by cases d <;> rfl

-- `"verified" if response.outcome == "pass" else "rework_required"`
def VerificationOutcome.disposition : VerificationOutcome → VerificationDisposition
  | .pass   => .verified
  | .reject => .reworkRequired

-- `_canonical_strings`: the texts in the order of `sorted`.
def CanonicalStrings (values : List String) : Prop :=
  values.Pairwise (· ≤ ·) ∧ values.Nodup ∧ ∀ value ∈ values, ¬Text.Blank value

instance : DecidablePred CanonicalStrings :=
  fun _ => inferInstanceAs <| Decidable (_ ∧ _ ∧ _)

def checkCanonicalStrings (xs : List (String × List String)) :
    Py (PLift (∀ x ∈ xs, CanonicalStrings x.2)) :=
  Guard.each .verificationEscalationError CanonicalStrings
    (fun name values =>
      if ¬values.Pairwise (· ≤ ·) then name ++ " must be canonical-sorted"
      else if ¬values.Nodup then name ++ " must be unique"
      else name ++ " must be a non-empty string") xs

theorem checkCanonicalStrings_of {xs : List (String × List String)}
    (h : ∀ x ∈ xs, CanonicalStrings x.2) : checkCanonicalStrings xs = .ok ⟨h⟩ :=
  Guard.each_of h

@[ext]
structure IndependentVerificationRequest where
  portfolioId                : String
  generation                 : Nat
  stateDigest                : String
  checkpointDigest           : String
  policyDigest               : String
  tickDigest                 : String
  workId                     : String
  sourceRevision             : String
  subjectDigest              : String
  evidenceDigest             : String
  executorId                 : String
  workerId                   : String
  verifierSystem             : String := "project_assurance"
  authorityCreated           : Bool := false
  selfVerificationAuthorized : Bool := false
  integrationAuthorized      : Bool := false
  repairAuthorized           : Bool := false
  schemaVersion              : String := "ge.independent-verification-request.v1"
  version                    : schemaVersion = "ge.independent-verification-request.v1"
  isSha256 :
    ∀ x ∈ [("state_digest", stateDigest), ("checkpoint_digest", checkpointDigest),
      ("policy_digest", policyDigest), ("tick_digest", tickDigest),
      ("subject_digest", subjectDigest), ("evidence_digest", evidenceDigest)], IsSha256 x.2
  nonempty :
    ∀ x ∈ [("portfolio_id", portfolioId), ("work_id", workId),
      ("source_revision", sourceRevision), ("executor_id", executorId),
      ("worker_id", workerId)], ¬Text.Blank x.2
  fixed : verifierSystem = "project_assurance"
  noAuthority :
    authorityCreated = false ∧ selfVerificationAuthorized = false ∧
      integrationAuthorized = false ∧ repairAuthorized = false

namespace IndependentVerificationRequest

def new (portfolioId : String) (generation : Nat) (stateDigest checkpointDigest policyDigest
    tickDigest workId sourceRevision subjectDigest evidenceDigest executorId workerId
    verifierSystem : String) (authorityCreated selfVerificationAuthorized integrationAuthorized
    repairAuthorized : Bool) (schemaVersion : String) : Py IndependentVerificationRequest := do
  let ⟨h₁⟩ ← Py.check (schemaVersion = "ge.independent-verification-request.v1")
    .verificationEscalationError "unsupported verification request schema"
  let ⟨h₂⟩ ← Guard.sha256 .verificationEscalationError
    [("state_digest", stateDigest), ("checkpoint_digest", checkpointDigest),
      ("policy_digest", policyDigest), ("tick_digest", tickDigest),
      ("subject_digest", subjectDigest), ("evidence_digest", evidenceDigest)]
  let ⟨h₃⟩ ← Guard.nonempty .verificationEscalationError
    [("portfolio_id", portfolioId), ("work_id", workId),
      ("source_revision", sourceRevision), ("executor_id", executorId), ("worker_id", workerId)]
  let ⟨h₄⟩ ← Py.check (verifierSystem = "project_assurance") .verificationEscalationError
    "verifier system is protocol-fixed"
  let ⟨h₅⟩ ← Py.check
    (authorityCreated = false ∧ selfVerificationAuthorized = false ∧
      integrationAuthorized = false ∧ repairAuthorized = false) .verificationEscalationError
    "verification request cannot create authority"
  return {
    portfolioId, generation, stateDigest, checkpointDigest, policyDigest, tickDigest, workId,
    sourceRevision, subjectDigest, evidenceDigest, executorId, workerId, verifierSystem,
    authorityCreated, selfVerificationAuthorized, integrationAuthorized, repairAuthorized,
    schemaVersion, version := h₁, isSha256 := h₂, nonempty := h₃, fixed := h₄,
    noAuthority := h₅ }

instance : AsDict IndependentVerificationRequest where
  asdict r := [
    ("portfolio_id", toPy r.portfolioId),
    ("generation", toPy r.generation),
    ("state_digest", toPy r.stateDigest),
    ("checkpoint_digest", toPy r.checkpointDigest),
    ("policy_digest", toPy r.policyDigest),
    ("tick_digest", toPy r.tickDigest),
    ("work_id", toPy r.workId),
    ("source_revision", toPy r.sourceRevision),
    ("subject_digest", toPy r.subjectDigest),
    ("evidence_digest", toPy r.evidenceDigest),
    ("executor_id", toPy r.executorId),
    ("worker_id", toPy r.workerId),
    ("verifier_system", toPy r.verifierSystem),
    ("authority_created", toPy r.authorityCreated),
    ("self_verification_authorized", toPy r.selfVerificationAuthorized),
    ("integration_authorized", toPy r.integrationAuthorized),
    ("repair_authorized", toPy r.repairAuthorized),
    ("schema_version", toPy r.schemaVersion)]

end IndependentVerificationRequest

@[ext]
structure IndependentVerificationResponse where
  requestDigest         : String
  verifierSystem        : String
  verifierId            : String
  subjectDigest         : String
  evidenceDigest        : String
  outcome               : VerificationOutcome
  findings              : List String := []
  redTeamRecommended    : Bool := false
  integrationAuthorized : Bool := false
  repairAuthorized      : Bool := false
  schemaVersion         : String := "ge.independent-verification-response.v1"
  version               : schemaVersion = "ge.independent-verification-response.v1"
  isSha256 :
    ∀ x ∈ [("request_digest", requestDigest), ("subject_digest", subjectDigest),
      ("evidence_digest", evidenceDigest)], IsSha256 x.2
  fixed       : verifierSystem = "project_assurance"
  nonempty    : ∀ x ∈ [("verifier_id", verifierId)], ¬Text.Blank x.2
  canonical   : ∀ x ∈ [("findings", findings)], CanonicalStrings x.2
  found       : outcome = .reject → findings ≠ []
  clean       : outcome = .pass → findings = [] ∧ redTeamRecommended = false
  noAuthority : integrationAuthorized = false ∧ repairAuthorized = false

namespace IndependentVerificationResponse

def new (requestDigest verifierSystem verifierId subjectDigest evidenceDigest outcome : String)
    (findings : List String) (redTeamRecommended integrationAuthorized repairAuthorized : Bool)
    (schemaVersion : String) : Py IndependentVerificationResponse := do
  let ⟨h₁⟩ ← Py.check (schemaVersion = "ge.independent-verification-response.v1")
    .verificationEscalationError "unsupported verification response schema"
  let ⟨h₂⟩ ← Guard.sha256 .verificationEscalationError
    [("request_digest", requestDigest), ("subject_digest", subjectDigest),
      ("evidence_digest", evidenceDigest)]
  let ⟨h₃⟩ ← Py.check (verifierSystem = "project_assurance") .verificationEscalationError
    "unexpected verifier system"
  let ⟨h₄⟩ ← Guard.nonempty .verificationEscalationError [("verifier_id", verifierId)]
  let outcome ← Py.ofOption .verificationEscalationError "unsupported verification outcome"
    (PyLiteral.parse? outcome)
  let ⟨h₅⟩ ← checkCanonicalStrings [("findings", findings)]
  let ⟨h₆⟩ ← Py.check (outcome = .reject → findings ≠ []) .verificationEscalationError
    "rejection requires findings"
  let ⟨h₇⟩ ← Py.check (outcome = .pass → findings = [] ∧ redTeamRecommended = false)
    .verificationEscalationError
    "passing verification cannot carry rejection findings or Red Team recommendation"
  let ⟨h₈⟩ ← Py.check (integrationAuthorized = false ∧ repairAuthorized = false)
    .verificationEscalationError
    "verification response cannot grant integration or repair authority"
  return {
    requestDigest, verifierSystem, verifierId, subjectDigest, evidenceDigest, outcome, findings,
    redTeamRecommended, integrationAuthorized, repairAuthorized, schemaVersion, version := h₁,
    isSha256 := h₂, fixed := h₃, nonempty := h₄, canonical := h₅, found := h₆, clean := h₇,
    noAuthority := h₈ }

instance : AsDict IndependentVerificationResponse where
  asdict r := [
    ("request_digest", toPy r.requestDigest),
    ("verifier_system", toPy r.verifierSystem),
    ("verifier_id", toPy r.verifierId),
    ("subject_digest", toPy r.subjectDigest),
    ("evidence_digest", toPy r.evidenceDigest),
    ("outcome", toPy r.outcome),
    ("findings", toPy r.findings),
    ("red_team_recommended", toPy r.redTeamRecommended),
    ("integration_authorized", toPy r.integrationAuthorized),
    ("repair_authorized", toPy r.repairAuthorized),
    ("schema_version", toPy r.schemaVersion)]

end IndependentVerificationResponse

@[ext]
structure VerificationAdmission where
  requestDigest         : String
  responseDigest        : String
  subjectDigest         : String
  verifierId            : String
  evidenceDigest        : String
  disposition           : VerificationDisposition
  selfVerified          : Bool := false
  integrationAuthorized : Bool := false
  repairAuthorized      : Bool := false
  schemaVersion         : String := "ge.verification-admission.v1"
  version               : schemaVersion = "ge.verification-admission.v1"
  isSha256 :
    ∀ x ∈ [("request_digest", requestDigest), ("response_digest", responseDigest),
      ("subject_digest", subjectDigest), ("evidence_digest", evidenceDigest)], IsSha256 x.2
  nonempty    : ∀ x ∈ [("verifier_id", verifierId)], ¬Text.Blank x.2
  noAuthority : selfVerified = false ∧ integrationAuthorized = false ∧ repairAuthorized = false

namespace VerificationAdmission

def new (requestDigest responseDigest subjectDigest verifierId evidenceDigest disposition : String)
    (selfVerified integrationAuthorized repairAuthorized : Bool) (schemaVersion : String) :
    Py VerificationAdmission := do
  let ⟨h₁⟩ ← Py.check (schemaVersion = "ge.verification-admission.v1")
    .verificationEscalationError "unsupported verification admission schema"
  let ⟨h₂⟩ ← Guard.sha256 .verificationEscalationError
    [("request_digest", requestDigest), ("response_digest", responseDigest),
      ("subject_digest", subjectDigest), ("evidence_digest", evidenceDigest)]
  let ⟨h₃⟩ ← Guard.nonempty .verificationEscalationError [("verifier_id", verifierId)]
  let disposition ← Py.ofOption .verificationEscalationError
    "unsupported verification disposition" (PyLiteral.parse? disposition)
  let ⟨h₄⟩ ← Py.check
    (selfVerified = false ∧ integrationAuthorized = false ∧ repairAuthorized = false)
    .verificationEscalationError "verification admission cannot create authority"
  return {
    requestDigest, responseDigest, subjectDigest, verifierId, evidenceDigest, disposition,
    selfVerified, integrationAuthorized, repairAuthorized, schemaVersion, version := h₁,
    isSha256 := h₂, nonempty := h₃, noAuthority := h₄ }

instance : AsDict VerificationAdmission where
  asdict a := [
    ("request_digest", toPy a.requestDigest),
    ("response_digest", toPy a.responseDigest),
    ("subject_digest", toPy a.subjectDigest),
    ("verifier_id", toPy a.verifierId),
    ("evidence_digest", toPy a.evidenceDigest),
    ("disposition", toPy a.disposition),
    ("self_verified", toPy a.selfVerified),
    ("integration_authorized", toPy a.integrationAuthorized),
    ("repair_authorized", toPy a.repairAuthorized),
    ("schema_version", toPy a.schemaVersion)]

end VerificationAdmission

@[ext]
structure RedTeamEscalationRequest where
  verificationRequestDigest   : String
  verificationResponseDigest  : String
  verificationAdmissionDigest : String
  portfolioId                 : String
  generation                  : Nat
  stateDigest                 : String
  subjectDigest               : String
  evidenceDigest              : String
  executorId                  : String
  workerId                    : String
  originatingVerifierId       : String
  requestedScopeRef           : String
  targetSystem                : String := "red_team"
  authorityCreated            : Bool := false
  repairAuthorized            : Bool := false
  integrationAuthorized       : Bool := false
  transportAuthorized         : Bool := false
  schemaVersion               : String := "ge.red-team-escalation-request.v1"
  version                     : schemaVersion = "ge.red-team-escalation-request.v1"
  fixed                       : targetSystem = "red_team"
  isSha256 :
    ∀ x ∈ [("verification_request_digest", verificationRequestDigest),
      ("verification_response_digest", verificationResponseDigest),
      ("verification_admission_digest", verificationAdmissionDigest),
      ("state_digest", stateDigest), ("subject_digest", subjectDigest),
      ("evidence_digest", evidenceDigest)], IsSha256 x.2
  nonempty :
    ∀ x ∈ [("portfolio_id", portfolioId), ("executor_id", executorId), ("worker_id", workerId),
      ("originating_verifier_id", originatingVerifierId),
      ("requested_scope_ref", requestedScopeRef)], ¬Text.Blank x.2
  noAuthority :
    authorityCreated = false ∧ repairAuthorized = false ∧ integrationAuthorized = false ∧
      transportAuthorized = false

def RedTeamEscalationRequest.new (verificationRequestDigest verificationResponseDigest
    verificationAdmissionDigest portfolioId : String) (generation : Nat) (stateDigest subjectDigest
    evidenceDigest executorId workerId originatingVerifierId requestedScopeRef : String) :
    Py RedTeamEscalationRequest := do
  let ⟨h₁⟩ ← Guard.sha256 .verificationEscalationError
    [("verification_request_digest", verificationRequestDigest),
      ("verification_response_digest", verificationResponseDigest),
      ("verification_admission_digest", verificationAdmissionDigest),
      ("state_digest", stateDigest), ("subject_digest", subjectDigest),
      ("evidence_digest", evidenceDigest)]
  let ⟨h₂⟩ ← Guard.nonempty .verificationEscalationError
    [("portfolio_id", portfolioId), ("executor_id", executorId), ("worker_id", workerId),
      ("originating_verifier_id", originatingVerifierId),
      ("requested_scope_ref", requestedScopeRef)]
  return {
    verificationRequestDigest, verificationResponseDigest, verificationAdmissionDigest,
    portfolioId, generation, stateDigest, subjectDigest, evidenceDigest, executorId, workerId,
    originatingVerifierId, requestedScopeRef, version := rfl, fixed := rfl, isSha256 := h₁,
    nonempty := h₂, noAuthority := ⟨rfl, rfl, rfl, rfl⟩ }

variable [Sha256]

def IndependentVerificationRequest.digest (r : IndependentVerificationRequest) : String :=
  sha256Digest (toPy r)

def IndependentVerificationResponse.digest (r : IndependentVerificationResponse) : String :=
  sha256Digest (toPy r)

def VerificationAdmission.digest (a : VerificationAdmission) : String :=
  sha256Digest (toPy a)

def admitIndependentVerification (request : IndependentVerificationRequest)
    (response : IndependentVerificationResponse) (authenticatedResponseDigest : String) :
    Py VerificationAdmission := do
  let _ ← Guard.sha256 .verificationEscalationError
    [("authenticated_response_digest", authenticatedResponseDigest)]
  Py.require (authenticatedResponseDigest = response.digest) .verificationEscalationError
    "verification response is not independently admitted"
  Py.require
    (response.requestDigest = request.digest ∧ response.subjectDigest = request.subjectDigest ∧
      response.verifierSystem = request.verifierSystem)
    .verificationEscalationError "verification response provenance mismatch"
  Py.require (response.verifierId ∉ [request.executorId, request.workerId])
    .verificationEscalationError "executor or worker cannot self-verify"
  VerificationAdmission.new request.digest response.digest response.subjectDigest
    response.verifierId response.evidenceDigest
    (PyLiteral.spelling response.outcome.disposition) false false false
    "ge.verification-admission.v1"

def buildVerificationObservation (request : IndependentVerificationRequest)
    (response : IndependentVerificationResponse) (admission : VerificationAdmission)
    (observedAt summary : String) : Py ResumeTickObservation := do
  let _ ← Guard.nonempty .verificationEscalationError
    [("observed_at", observedAt), ("summary", summary)]
  Py.require
    (admission.requestDigest = request.digest ∧ admission.responseDigest = response.digest ∧
      admission.subjectDigest = request.subjectDigest ∧
      admission.verifierId = response.verifierId ∧
      admission.evidenceDigest = response.evidenceDigest)
    .verificationEscalationError "verification admission binding mismatch"
  Py.require (admission.disposition = response.outcome.disposition)
    .verificationEscalationError "verification admission disposition mismatch"
  let passed := response.outcome = .pass
  let evidence ← CheckpointEvidence.new
    (if passed then "verifier_pass" else "verifier_reject")
    ("verification://" ++ response.verifierSystem ++ "/" ++ response.verifierId)
    response.evidenceDigest
    "ge.checkpoint-evidence.v1"
  ResumeTickObservation.new
    request.portfolioId
    request.generation
    request.stateDigest
    request.policyDigest
    (if passed then "verification_passed" else "verification_failed")
    [evidence]
    ("verification-admission:" ++ admission.digest)
    observedAt
    summary
    ["verification-request:" ++ request.digest, "verification-response:" ++ response.digest,
      "verification-admission:" ++ admission.digest]
    []
    none
    none
    "ge.resume-tick-observation.v1"

def prepareRedTeamEscalation (request : IndependentVerificationRequest)
    (response : IndependentVerificationResponse) (admission : VerificationAdmission)
    (requestedScopeRef : String) : Py RedTeamEscalationRequest := do
  let _ ← Guard.nonempty .verificationEscalationError [("requested_scope_ref", requestedScopeRef)]
  Py.require (response.outcome = .reject ∧ response.redTeamRecommended = true)
    .verificationEscalationError
    "Red Team escalation requires a rejected verification with explicit recommendation"
  Py.require
    (response.requestDigest = request.digest ∧ admission.requestDigest = request.digest ∧
      admission.responseDigest = response.digest ∧ admission.disposition = .reworkRequired ∧
      admission.verifierId = response.verifierId)
    .verificationEscalationError "Red Team escalation provenance mismatch"
  RedTeamEscalationRequest.new request.digest response.digest admission.digest request.portfolioId
    request.generation request.stateDigest request.subjectDigest response.evidenceDigest
    request.executorId request.workerId response.verifierId requestedScopeRef

end GeneralExecution
