import GeneralExecution.Gates.Conformance

namespace GeneralExecution

-- The constructors look at some statuses only: a status may be any text.
@[ext]
structure ConformanceSubmitResult where
  invocationId         : String
  requestDigest        : String
  status               : String
  providerInvocationId : Option String
  evidenceDigest       : String
  schemaVersion        : String := "ge.conformance-submit-result.v1"
  nonempty : ¬Text.Blank invocationId
  isSha256 :
    ∀ x ∈ [("request_digest", requestDigest), ("evidence_digest", evidenceDigest)],
      IsLowerSha256 x.2
  accepted : status = "accepted" → Text.Truthy providerInvocationId
  rejected :
    status ∈ ["duplicate_rejected", "different_request_rejected"] → providerInvocationId = none

instance : AsDict ConformanceSubmitResult where
  asdict r := [
    ("invocation_id", toPy r.invocationId),
    ("request_digest", toPy r.requestDigest),
    ("status", toPy r.status),
    ("provider_invocation_id", toPy r.providerInvocationId),
    ("evidence_digest", toPy r.evidenceDigest),
    ("schema_version", toPy r.schemaVersion)]

-- What a lookup result of each status must and may carry.
def LookupClaims (status : String) (providerInvocationId terminalEvidenceDigest : Option String) :
    Prop :=
  if status = "accepted" then
    Text.Truthy providerInvocationId ∧ terminalEvidenceDigest = none
  else if status = "terminal" then
    Text.Truthy providerInvocationId ∧ Text.Truthy terminalEvidenceDigest
  else terminalEvidenceDigest = none

@[ext]
structure ConformanceLookupResult where
  invocationId           : String
  requestDigest          : String
  status                 : String
  providerInvocationId   : Option String
  terminalEvidenceDigest : Option String
  evidenceDigest         : String
  schemaVersion          : String := "ge.conformance-lookup-result.v1"
  nonempty : ¬Text.Blank invocationId
  isSha256 :
    ∀ x ∈ [("request_digest", requestDigest), ("evidence_digest", evidenceDigest)],
      IsLowerSha256 x.2
  terminal : ∀ d ∈ terminalEvidenceDigest, IsLowerSha256 d
  claims   : LookupClaims status providerInvocationId terminalEvidenceDigest

instance : AsDict ConformanceLookupResult where
  asdict r := [
    ("invocation_id", toPy r.invocationId),
    ("request_digest", toPy r.requestDigest),
    ("status", toPy r.status),
    ("provider_invocation_id", toPy r.providerInvocationId),
    ("terminal_evidence_digest", toPy r.terminalEvidenceDigest),
    ("evidence_digest", toPy r.evidenceDigest),
    ("schema_version", toPy r.schemaVersion)]

-- `ProviderConformanceTarget`: an arbitrary implementation with a state of its own. Its identity is
-- the same throughout a run.
structure ProviderConformanceTarget (σ : Type) where
  provider         : String
  adapter          : String
  adapterVersion   : String
  adapterRevision  : String
  environmentScope : String
  reset            : σ → Py σ
  submit           : (invocationId requestDigest : String) → σ → Py (ConformanceSubmitResult × σ)
  lookup           : (invocationId requestDigest : String) → σ → Py (ConformanceLookupResult × σ)
  markTerminal     : (invocationId requestDigest terminalEvidenceDigest : String) → σ → Py σ

-- A call of the target and its answer.
structure Submission where
  invocationId  : String
  requestDigest : String
  result        : ConformanceSubmitResult

structure Lookup where
  invocationId  : String
  requestDigest : String
  result        : ConformanceLookupResult

-- A case with the calls that it has made, in their order.
inductive ConformanceCase
  | sameRequest (first second : Submission)
  | differentRequest (first second : Submission)
  | lookupIdentity (submitted : Submission) (correct wrong : Lookup)
  | absence (before : Lookup) (submitted : Submission) (after : Lookup)
  | terminal (submitted : Submission) (looked : Lookup) (terminalEvidenceDigest : String)

namespace ConformanceCase

def caseId : ConformanceCase → ConformanceCaseId
  | sameRequest ..      => .sameRequestSemantics
  | differentRequest .. => .differentRequestRejection
  | lookupIdentity ..   => .lookupIdentityBinding
  | absence ..          => .absenceSemantics
  | terminal ..         => .terminalEvidenceBinding

def passed (contract : ProviderReconciliationContract) : ConformanceCase → Bool
  | sameRequest first second =>
    let first  := first.result
    let second := second.result
    if first.status ≠ "accepted" ∨ ¬Text.Truthy first.providerInvocationId then false
    else match contract.sameKeySameRequest with
      | .sameOperation     =>
        second.status = "accepted" && second.providerInvocationId = first.providerInvocationId
      | .duplicateRejected => second.status = "duplicate_rejected"
      | .mayDuplicate      =>
        second.status = "accepted" && second.providerInvocationId.isSome &&
          second.providerInvocationId ≠ first.providerInvocationId
  | differentRequest first second =>
    first.result.status = "accepted" && contract.sameKeyDifferentRequest = "reject" &&
      second.result.status = "different_request_rejected"
  | lookupIdentity submitted correct wrong =>
    submitted.result.status = "accepted" && correct.result.status = "accepted" &&
      correct.result.providerInvocationId = submitted.result.providerInvocationId &&
      wrong.result.status = "identity_mismatch"
  | absence before submitted after =>
    before.result.status = "absent" && submitted.result.status = "accepted" &&
      after.result.status = "accepted" &&
      after.result.providerInvocationId = submitted.result.providerInvocationId
  | terminal submitted looked terminalEvidenceDigest =>
    submitted.result.status = "accepted" && looked.result.status = "terminal" &&
      looked.result.providerInvocationId = submitted.result.providerInvocationId &&
      looked.result.terminalEvidenceDigest = some terminalEvidenceDigest

def transcript (contract : ProviderReconciliationContract) : ConformanceCase → PyValue
  | sameRequest first second               => .dict [
      ("declared", toPy contract.sameKeySameRequest),
      ("first", toPy first.result),
      ("second", toPy second.result)]
  | differentRequest first second          => .dict [
      ("first", toPy first.result),
      ("different_request", toPy second.result)]
  | lookupIdentity submitted correct wrong => .dict [
      ("submit", toPy submitted.result),
      ("correct_lookup", toPy correct.result),
      ("wrong_request_lookup", toPy wrong.result)]
  | absence before submitted after         => .dict [
      ("before", toPy before.result),
      ("submit", toPy submitted.result),
      ("after", toPy after.result)]
  | terminal submitted looked _            => .dict [
      ("submit", toPy submitted.result),
      ("terminal_lookup", toPy looked.result)]

end ConformanceCase

section Cases

variable {σ : Type} (target : ProviderConformanceTarget σ) (invocationId requestDigest : String)

def submission (s : σ) : Py (Submission × σ) := do
  let (result, s) ← target.submit invocationId requestDigest s
  return ({ invocationId, requestDigest, result }, s)

def lookedUp (s : σ) : Py (Lookup × σ) := do
  let (result, s) ← target.lookup invocationId requestDigest s
  return ({ invocationId, requestDigest, result }, s)

def sameRequestCase (s : σ) : Py (ConformanceCase × σ) := do
  let s ← target.reset s
  let (first, s)  ← submission target invocationId requestDigest s
  let (second, s) ← submission target invocationId requestDigest s
  return (.sameRequest first second, s)

def differentRequestCase (differentRequestDigest : String) (s : σ) : Py (ConformanceCase × σ) := do
  let s ← target.reset s
  let (first, s)  ← submission target invocationId requestDigest s
  let (second, s) ← submission target invocationId differentRequestDigest s
  return (.differentRequest first second, s)

def lookupIdentityCase (differentRequestDigest : String) (s : σ) : Py (ConformanceCase × σ) := do
  let s ← target.reset s
  let (submitted, s) ← submission target invocationId requestDigest s
  let (correct, s)   ← lookedUp target invocationId requestDigest s
  let (wrong, s)     ← lookedUp target invocationId differentRequestDigest s
  return (.lookupIdentity submitted correct wrong, s)

def absenceCase (s : σ) : Py (ConformanceCase × σ) := do
  let s ← target.reset s
  let (before, s)    ← lookedUp target invocationId requestDigest s
  let (submitted, s) ← submission target invocationId requestDigest s
  let (after, s)     ← lookedUp target invocationId requestDigest s
  return (.absence before submitted after, s)

def terminalCase (terminalEvidenceDigest : String) (s : σ) : Py (ConformanceCase × σ) := do
  let s ← target.reset s
  let (submitted, s) ← submission target invocationId requestDigest s
  let s ← if submitted.result.status = "accepted" then
      target.markTerminal invocationId requestDigest terminalEvidenceDigest s
    else pure s
  let (looked, s)    ← lookedUp target invocationId requestDigest s
  return (.terminal submitted looked terminalEvidenceDigest, s)

-- `_identity`
def conformanceIdentity (contract : ProviderReconciliationContract) :
    Py EnvironmentScope := do
  Py.require
    (target.provider = contract.provider ∧ target.adapter = contract.adapter ∧
      target.adapterVersion = contract.adapterVersion)
    .conformanceHarnessError "conformance target identity does not match provider contract"
  let scope ← Py.ofOption .conformanceHarnessError
    "conformance target environment scope is unsupported" (PyLiteral.parse? target.environmentScope)
  Py.require (IsRevision target.adapterRevision) .conformanceHarnessError
    "adapter_revision must be immutable 40- or 64-lowercase-hex"
  return scope

-- `run_provider_conformance` up to its cases.
def conformanceCases (contract : ProviderReconciliationContract)
    (differentRequestDigest terminalEvidenceDigest : String) (s : σ) :
    Py (List ConformanceCase × σ) := do
  let _ ← conformanceIdentity target contract
  let _ ← checkNonempty [("invocation_id", invocationId)]
  let _ ← checkLowerSha256
    [("request_digest", requestDigest), ("different_request_digest", differentRequestDigest),
      ("terminal_evidence_digest", terminalEvidenceDigest)]
  Py.require (requestDigest ≠ differentRequestDigest) .conformanceHarnessError
    "conformance requests must have distinct digests"
  let (same, s)      ← sameRequestCase target invocationId requestDigest s
  let (different, s) ← differentRequestCase target invocationId requestDigest
    differentRequestDigest s
  let (lookup, s)    ← lookupIdentityCase target invocationId requestDigest
    differentRequestDigest s
  let (absence, s)   ← absenceCase target invocationId requestDigest s
  if contract.terminalEvidenceLookup then
    let (terminal, s) ← terminalCase target invocationId requestDigest terminalEvidenceDigest s
    return ([same, different, lookup, absence, terminal], s)
  else
    return ([same, different, lookup, absence], s)

end Cases

@[ext]
structure ProviderConformanceRun where
  harnessVersion            : String := "ge.provider-conformance-harness.v1"
  contractDigest            : String
  provider                  : String
  adapter                   : String
  adapterVersion            : String
  adapterRevision           : String
  environmentScope          : EnvironmentScope
  caseResults               : List ProviderConformanceCaseResult
  conformanceEvidenceDigest : String
  allRequiredCasesPassed    : Bool
  schemaVersion             : String := "ge.provider-conformance-run.v1"
  version                   : harnessVersion = "ge.provider-conformance-harness.v1"
  isSha256 :
    ∀ x ∈ [("contract_digest", contractDigest),
      ("conformance_evidence_digest", conformanceEvidenceDigest)], IsLowerSha256 x.2
  isRevision : IsRevision adapterRevision
  nonempty :
    ∀ x ∈ [("provider", provider), ("adapter", adapter), ("adapter_version", adapterVersion)],
      ¬Text.Blank x.2
  unique     : (caseResults.map ProviderConformanceCaseResult.caseId).Nodup
  reconciled : allRequiredCasesPassed = caseResults.all ProviderConformanceCaseResult.passed

def ProviderConformanceRun.new (contractDigest provider adapter adapterVersion adapterRevision :
    String) (environmentScope : EnvironmentScope) (caseResults : List ProviderConformanceCaseResult)
    (conformanceEvidenceDigest : String) (allRequiredCasesPassed : Bool) :
    Py ProviderConformanceRun := do
  let ⟨h₁⟩ ← checkLowerSha256
    [("contract_digest", contractDigest),
      ("conformance_evidence_digest", conformanceEvidenceDigest)]
  let ⟨h₂⟩ ← Py.check (IsRevision adapterRevision) .valueError
    "adapter_revision must be immutable 40- or 64-lowercase-hex"
  let ⟨h₃⟩ ← checkNonempty
    [("provider", provider), ("adapter", adapter), ("adapter_version", adapterVersion)]
  let ⟨h₄⟩ ← Py.check (caseResults.map ProviderConformanceCaseResult.caseId).Nodup .valueError
    "conformance run case IDs must be unique"
  let ⟨h₅⟩ ← Py.check
    (allRequiredCasesPassed = caseResults.all ProviderConformanceCaseResult.passed) .valueError
    "conformance run all-pass flag does not reconcile"
  return {
    contractDigest, provider, adapter, adapterVersion, adapterRevision, environmentScope,
    caseResults, conformanceEvidenceDigest, allRequiredCasesPassed, version := rfl,
    isSha256 := h₁, isRevision := h₂, nonempty := h₃, unique := h₄, reconciled := h₅ }

def ProviderConformanceEvidence.new (contractDigest adapterRevision : String)
    (environmentScope : EnvironmentScope) (cases : List ProviderConformanceCaseResult) :
    Py ProviderConformanceEvidence := do
  let ⟨h₁⟩ ← checkLowerSha256 [("contract_digest", contractDigest)]
  let ⟨h₂⟩ ← checkRevision "adapter_revision" adapterRevision
  let ⟨h₃⟩ ← Py.check (cases.map ProviderConformanceCaseResult.caseId).Nodup .valueError
    "provider conformance cases must be unique"
  return {
    contractDigest, adapterRevision, environmentScope, cases,
    isSha256 := h₁ ("contract_digest", contractDigest) List.mem_cons_self, isRevision := h₂,
    suite := rfl, unique := h₃ }

variable [Sha256]

-- `_case`
def ConformanceCase.result (contract : ProviderReconciliationContract) (c : ConformanceCase) :
    ProviderConformanceCaseResult where
  caseId         := c.caseId
  passed         := c.passed contract
  evidenceDigest := sha256Digest <| .dict [
    ("harness_version", toPy "ge.provider-conformance-harness.v1"),
    ("case_id", toPy c.caseId),
    ("transcript", c.transcript contract)]
  isSha256       := isLowerSha256_sha256Digest _

def runProviderConformance {σ : Type} (contract : ProviderReconciliationContract)
    (target : ProviderConformanceTarget σ) (invocationId requestDigest differentRequestDigest
    terminalEvidenceDigest : String) (s : σ) :
    Py ((ProviderConformanceEvidence × ProviderConformanceRun) × σ) := do
  let (cases, s) ← conformanceCases target invocationId requestDigest contract
    differentRequestDigest terminalEvidenceDigest s
  let scope ← conformanceIdentity target contract
  let evidence ← ProviderConformanceEvidence.new contract.digest target.adapterRevision scope
    (cases.map (ConformanceCase.result contract))
  let run ← ProviderConformanceRun.new contract.digest target.provider target.adapter
    target.adapterVersion target.adapterRevision scope evidence.cases evidence.digest
    (evidence.cases.all ProviderConformanceCaseResult.passed)
  return ((evidence, run), s)

end GeneralExecution
