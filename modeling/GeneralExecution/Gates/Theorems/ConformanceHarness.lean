import GeneralExecution.Gates.ConformanceHarness

namespace GeneralExecution

-- The answer is about the invocation and the request of its call.
def Submission.Addressed (x : Submission) : Prop :=
  x.result.invocationId = x.invocationId ∧ x.result.requestDigest = x.requestDigest

def Lookup.Addressed (x : Lookup) : Prop :=
  x.result.invocationId = x.invocationId ∧ x.result.requestDigest = x.requestDigest

namespace ConformanceCase

def Addressed : ConformanceCase → Prop
  | sameRequest first second               => first.Addressed ∧ second.Addressed
  | differentRequest first second          => first.Addressed ∧ second.Addressed
  | lookupIdentity submitted correct wrong =>
    submitted.Addressed ∧ correct.Addressed ∧ wrong.Addressed
  | absence before submitted after         =>
    before.Addressed ∧ submitted.Addressed ∧ after.Addressed
  | terminal submitted looked _            => submitted.Addressed ∧ looked.Addressed

-- The target has answered with the statuses and the provider operations of its contract. Nothing is
-- said of the invocation and the request that an answer is about.
def AsDeclared (contract : ProviderReconciliationContract) : ConformanceCase → Prop
  | sameRequest first second               =>
    first.result.status = "accepted" ∧
      match contract.sameKeySameRequest with
      | .sameOperation     => second.result.status = "accepted" ∧
        second.result.providerInvocationId = first.result.providerInvocationId
      | .duplicateRejected => second.result.status = "duplicate_rejected"
      | .mayDuplicate      => second.result.status = "accepted" ∧
        second.result.providerInvocationId ≠ first.result.providerInvocationId
  | differentRequest first second          =>
    first.result.status = "accepted" ∧ second.result.status = "different_request_rejected"
  | lookupIdentity submitted correct wrong =>
    submitted.result.status = "accepted" ∧ correct.result.status = "accepted" ∧
      correct.result.providerInvocationId = submitted.result.providerInvocationId ∧
      wrong.result.status = "identity_mismatch"
  | absence before submitted after         =>
    before.result.status = "absent" ∧ submitted.result.status = "accepted" ∧
      after.result.status = "accepted" ∧
      after.result.providerInvocationId = submitted.result.providerInvocationId
  | terminal submitted looked digest       =>
    submitted.result.status = "accepted" ∧ looked.result.status = "terminal" ∧
      looked.result.providerInvocationId = submitted.result.providerInvocationId ∧
      looked.result.terminalEvidenceDigest = some digest

variable {contract : ProviderReconciliationContract} {c : ConformanceCase}

theorem passed_iff : c.passed contract = true ↔ c.AsDeclared contract := by
  cases c
  case sameRequest first second =>
    simp only [passed, AsDeclared]
    by_cases hf : first.result.status = "accepted"
    case neg => simp [hf]
    case pos =>
      have ht := first.result.accepted hf
      rw [if_neg (by simp [hf, ht])]
      cases contract.sameKeySameRequest
      case sameOperation     => simp [hf]
      case duplicateRejected => simp [hf]
      case mayDuplicate      =>
        by_cases hs : second.result.status = "accepted"
        case neg => simp [hs]
        case pos =>
          have hi : second.result.providerInvocationId.isSome := by
            have h := second.result.accepted hs
            cases hp : second.result.providerInvocationId
            case none   => simp [Text.Truthy, hp] at h
            case some p => rfl
          simp [hf, hs, hi]
  case differentRequest =>
    simp [passed, AsDeclared, contract.rejects]
  all_goals simp [passed, AsDeclared, and_assoc]

end ConformanceCase

section Attest

variable {contract : ProviderReconciliationContract} {evidence : ProviderConformanceEvidence}

theorem findCase_of_mem {r : ProviderConformanceCaseResult} (h : r ∈ evidence.cases) :
    findCase evidence r.caseId = some r := by
  have hs : (findCase evidence r.caseId).isSome := by
    rw [findCase, List.find?_isSome]
    exact ⟨r, h, by simp⟩
  have ⟨r', hr'⟩ := Option.isSome_iff_exists.mp hs
  have hm : r' ∈ evidence.cases := List.mem_of_find?_eq_some hr'
  have hid : r'.caseId = r.caseId := by simpa using List.find?_some hr'
  rw [hr', List.inj_on_of_nodup_map evidence.unique hm h hid]

theorem casePassed_of_mem {r : ProviderConformanceCaseResult} (h : r ∈ evidence.cases) :
    casePassed evidence r.caseId = r.passed := by
  rw [casePassed, findCase_of_mem h]
  rfl

theorem ProviderContractAttestation.exists_new
    {contractDigest adapterRevision evidenceDigest : String} {scope : EnvironmentScope}
    {passed failed : List ConformanceCaseId} {conformant safe terminal : Bool}
    (hc : IsLowerSha256 contractDigest) (he : IsLowerSha256 evidenceDigest) (hr : IsRevision adapterRevision)
    (hd : ∀ c ∈ passed, c ∉ failed) (hu : passed.Nodup ∧ failed.Nodup)
    (hf : conformant = true → failed = [])
    (hs : safe = true → conformant = true ∧ scope = .productionEquivalent)
    (ht : terminal = true → scope = .productionEquivalent) :
    ∃ a, ProviderContractAttestation.new contractDigest adapterRevision evidenceDigest scope passed
      failed conformant safe terminal = .ok a ∧ a.contractConformant = conformant := by
  have hx : ∀ x ∈ [("contract_digest", contractDigest),
      ("conformance_evidence_digest", evidenceDigest)], IsLowerSha256 x.2 := by
    simp [hc, he]
  rw [ProviderContractAttestation.new, checkLowerSha256_of hx, checkRevision]
  simp only [Except.ok_bind, Py.check_of hr, Py.check_of hd, Py.check_of hu, Py.check_of hf,
    Py.check_of hs, Py.check_of ht]
  exact ⟨_, rfl, rfl⟩

variable [Sha256]

-- Evidence that has each required case once, and no other case.
theorem exists_attestProviderContract (hd : evidence.contractDigest = contract.digest)
    (hp : (evidence.cases.map ProviderConformanceCaseResult.caseId).Perm (requiredCases contract)) :
    ∃ a, attestProviderContract contract evidence = .ok a ∧
      a.contractConformant = evidence.cases.all ProviderConformanceCaseResult.passed := by
  have hmem {id} : id ∈ requiredCases contract ↔ ∃ r ∈ evidence.cases, r.caseId = id := by
    rw [← hp.mem_iff, List.mem_map]
  have hmissing :
      (requiredCases contract).filter (fun id => (findCase evidence id).isNone) = [] := by
    rw [List.filter_eq_nil_iff]
    intro id hid
    have ⟨r, hr, hrid⟩ := hmem.mp hid
    rw [← hrid, findCase_of_mem hr]
    simp
  have hfailed : ((requiredCases contract).filter fun id => ¬casePassed evidence id).isEmpty =
      evidence.cases.all ProviderConformanceCaseResult.passed := by
    rw [Bool.eq_iff_iff, List.isEmpty_iff, List.filter_eq_nil_iff, List.all_eq_true]
    constructor
    case mp =>
      intro h r hr
      simpa [casePassed_of_mem hr] using h _ (hmem.mpr ⟨r, hr, rfl⟩)
    case mpr =>
      intro h id hid
      have ⟨r, hr, hrid⟩ := hmem.mp hid
      simp [← hrid, casePassed_of_mem hr, h r hr]
  have hnodup : (requiredCases contract).Nodup := hp.nodup_iff.mp evidence.unique
  simp only [attestProviderContract, Py.require_of hd, Py.require_of hmissing, Except.ok_bind]
  rw [← hfailed]
  apply ProviderContractAttestation.exists_new
  case hc => exact isLowerSha256_sha256Digest _
  case he => exact isLowerSha256_sha256Digest _
  case hr => exact evidence.isRevision
  case hd =>
    intro id hid hid'
    simp only [List.mem_filter, decide_eq_true_eq] at hid hid'
    exact hid'.right hid.right
  case hu => exact ⟨hnodup.filter _, hnodup.filter _⟩
  case hf => exact List.isEmpty_iff.mp
  case hs =>
    intro h
    simp only [Bool.and_eq_true, decide_eq_true_eq] at h
    exact h.left
  case ht =>
    intro h
    simp only [Bool.and_eq_true, decide_eq_true_eq] at h
    exact h.left.right

end Attest

section Run

variable {σ : Type} {target : ProviderConformanceTarget σ} {invocationId requestDigest : String}
variable {contract : ProviderReconciliationContract} {differentRequestDigest : String}
variable {terminalEvidenceDigest : String} {c : ConformanceCase} {cases : List ConformanceCase}
variable {s s' : σ}

theorem sameRequestCase_caseId
    (h : sameRequestCase target invocationId requestDigest s = .ok (c, s')) :
    c.caseId = .sameRequestSemantics := by
  simp only [sameRequestCase, Except.bind_eq_ok, Except.pure_eq_ok, Prod.mk.injEq] at h
  obtain ⟨_, _, _, _, _, _, hc, _⟩ := h
  rw [← hc, ConformanceCase.caseId]

theorem differentRequestCase_caseId
    (h : differentRequestCase target invocationId requestDigest differentRequestDigest s =
      .ok (c, s')) : c.caseId = .differentRequestRejection := by
  simp only [differentRequestCase, Except.bind_eq_ok, Except.pure_eq_ok, Prod.mk.injEq] at h
  obtain ⟨_, _, _, _, _, _, hc, _⟩ := h
  rw [← hc, ConformanceCase.caseId]

theorem lookupIdentityCase_caseId
    (h : lookupIdentityCase target invocationId requestDigest differentRequestDigest s =
      .ok (c, s')) : c.caseId = .lookupIdentityBinding := by
  simp only [lookupIdentityCase, Except.bind_eq_ok, Except.pure_eq_ok, Prod.mk.injEq] at h
  obtain ⟨_, _, _, _, _, _, _, _, hc, _⟩ := h
  rw [← hc, ConformanceCase.caseId]

theorem absenceCase_caseId (h : absenceCase target invocationId requestDigest s = .ok (c, s')) :
    c.caseId = .absenceSemantics := by
  simp only [absenceCase, Except.bind_eq_ok, Except.pure_eq_ok, Prod.mk.injEq] at h
  obtain ⟨_, _, _, _, _, _, _, _, hc, _⟩ := h
  rw [← hc, ConformanceCase.caseId]

theorem terminalCase_caseId
    (h : terminalCase target invocationId requestDigest terminalEvidenceDigest s = .ok (c, s')) :
    c.caseId = .terminalEvidenceBinding := by
  simp only [terminalCase, Except.bind_eq_ok] at h
  obtain ⟨_, _, _, _, h⟩ := h
  split at h <;> simp only [Except.bind_eq_ok, Except.pure_eq_ok, pure_bind,
    Prod.mk.injEq] at h
  case isTrue =>
    obtain ⟨_, _, _, _, hc, _⟩ := h
    rw [← hc, ConformanceCase.caseId]
  case isFalse =>
    obtain ⟨_, _, hc, _⟩ := h
    rw [← hc, ConformanceCase.caseId]

-- What a run has asked before its first case, and the cases it makes.
theorem conformanceCases_eq_ok
    (h : conformanceCases target invocationId requestDigest contract differentRequestDigest
      terminalEvidenceDigest s = .ok (cases, s')) :
    (∃ scope, conformanceIdentity target contract = .ok scope) ∧
      (cases.map ConformanceCase.caseId).Perm (requiredCases contract) := by
  simp only [conformanceCases, Except.bind_eq_ok] at h
  obtain ⟨scope, hscope, _, _, _, _, _, _, ⟨same, _⟩, hsame, ⟨different, _⟩, hdifferent,
    ⟨lookup, _⟩, hlookup, ⟨absence, _⟩, habsence, h⟩ := h
  constructor
  case left  => exact ⟨scope, hscope⟩
  case right =>
    cases ht : contract.terminalEvidenceLookup
    case true =>
      simp only [ht, if_true, Except.bind_eq_ok, Except.pure_eq_ok, Prod.mk.injEq] at h
      obtain ⟨⟨terminal, _⟩, hterminal, hcases, _⟩ := h
      rw [← hcases]
      simp only [List.map_cons, List.map_nil, sameRequestCase_caseId hsame,
        differentRequestCase_caseId hdifferent, lookupIdentityCase_caseId hlookup,
        absenceCase_caseId habsence, terminalCase_caseId hterminal, requiredCases, ht, if_true]
      decide
    case false =>
      simp only [ht, Bool.false_eq_true, if_false, Except.pure_eq_ok, Prod.mk.injEq] at h
      rw [← h.left]
      simp only [List.map_cons, List.map_nil, sameRequestCase_caseId hsame,
        differentRequestCase_caseId hdifferent, lookupIdentityCase_caseId hlookup,
        absenceCase_caseId habsence, requiredCases, ht, Bool.false_eq_true, if_false]
      decide

theorem requiredCases_nodup (contract : ProviderReconciliationContract) :
    (requiredCases contract).Nodup := by
  rw [requiredCases]
  cases contract.terminalEvidenceLookup <;> decide

theorem caseIds_result [Sha256] (contract : ProviderReconciliationContract)
    (cases : List ConformanceCase) :
    (cases.map (ConformanceCase.result contract)).map ProviderConformanceCaseResult.caseId =
      cases.map ConformanceCase.caseId := by
  rw [List.map_map]
  rfl

theorem conformanceIdentity_eq_ok {scope : EnvironmentScope}
    (h : conformanceIdentity target contract = .ok scope) :
    (target.provider = contract.provider ∧ target.adapter = contract.adapter ∧
      target.adapterVersion = contract.adapterVersion) ∧ IsRevision target.adapterRevision := by
  simp only [conformanceIdentity, Except.bind_eq_ok, Py.require_eq_ok] at h
  obtain ⟨_, hid, _, _, _, hrevision, _⟩ := h
  exact ⟨hid, hrevision⟩

end Run

section Records

variable {contractDigest adapterRevision : String} (scope : EnvironmentScope)
variable {cases : List ProviderConformanceCaseResult}

theorem ProviderConformanceEvidence.exists_new (hd : IsLowerSha256 contractDigest)
    (hr : IsRevision adapterRevision)
    (hu : (cases.map ProviderConformanceCaseResult.caseId).Nodup) :
    ∃ evidence,
      ProviderConformanceEvidence.new contractDigest adapterRevision scope cases = .ok evidence ∧
      evidence.contractDigest = contractDigest ∧ evidence.cases = cases := by
  have hx : ∀ x ∈ [("contract_digest", contractDigest)], IsLowerSha256 x.2 := by simp [hd]
  rw [ProviderConformanceEvidence.new, checkLowerSha256_of hx, checkRevision]
  simp only [Except.ok_bind, Py.check_of hr, Py.check_of hu]
  exact ⟨_, rfl, rfl, rfl⟩

theorem ProviderConformanceRun.exists_new {provider adapter adapterVersion evidenceDigest : String}
    (hd : IsLowerSha256 contractDigest) (he : IsLowerSha256 evidenceDigest)
    (hr : IsRevision adapterRevision)
    (hn : ∀ x ∈ [("provider", provider), ("adapter", adapter), ("adapter_version", adapterVersion)],
      ¬Text.Blank x.2)
    (hu : (cases.map ProviderConformanceCaseResult.caseId).Nodup) :
    ∃ run,
      ProviderConformanceRun.new contractDigest provider adapter adapterVersion adapterRevision
        scope cases evidenceDigest (cases.all ProviderConformanceCaseResult.passed) = .ok run ∧
      run.allRequiredCasesPassed = cases.all ProviderConformanceCaseResult.passed := by
  have hx : ∀ x ∈ [("contract_digest", contractDigest),
      ("conformance_evidence_digest", evidenceDigest)], IsLowerSha256 x.2 := by
    simp [hd, he]
  rw [ProviderConformanceRun.new, checkLowerSha256_of hx]
  simp only [Except.ok_bind, Py.check_of hr, checkNonempty_of hn, Py.check_of hu]
  rw [Py.check_of rfl]
  exact ⟨_, rfl, rfl⟩

end Records

section Certificate

variable [Sha256] {σ : Type} {contract : ProviderReconciliationContract}
variable {target : ProviderConformanceTarget σ}
variable {invocationId requestDigest differentRequestDigest terminalEvidenceDigest : String}
variable {cases : List ConformanceCase} {s s' : σ}

-- After its cases a run cannot fail.
theorem exists_runProviderConformance
    (h : conformanceCases target invocationId requestDigest contract differentRequestDigest
      terminalEvidenceDigest s = .ok (cases, s')) :
    ∃ evidence run,
      runProviderConformance contract target invocationId requestDigest differentRequestDigest
        terminalEvidenceDigest s = .ok ((evidence, run), s') ∧
      evidence.contractDigest = contract.digest ∧
      evidence.cases = cases.map (ConformanceCase.result contract) ∧
      run.allRequiredCasesPassed =
        evidence.cases.all ProviderConformanceCaseResult.passed := by
  have ⟨⟨scope, hscope⟩, hp⟩ := conformanceCases_eq_ok h
  have ⟨⟨hprovider, hadapter, hversion⟩, hrevision⟩ := conformanceIdentity_eq_ok hscope
  have hdigest : IsLowerSha256 contract.digest := isLowerSha256_sha256Digest _
  have hnonempty : ∀ x ∈ [("provider", target.provider), ("adapter", target.adapter),
      ("adapter_version", target.adapterVersion)], ¬Text.Blank x.2 := by
    rw [hprovider, hadapter, hversion]
    exact contract.nonempty
  have hunique : ((cases.map (ConformanceCase.result contract)).map
      ProviderConformanceCaseResult.caseId).Nodup := by
    rw [caseIds_result contract cases, hp.nodup_iff]
    exact requiredCases_nodup contract
  have ⟨evidence, he, hed, hec⟩ :=
    ProviderConformanceEvidence.exists_new scope hdigest hrevision hunique
  have ⟨run, hr, hall⟩ :=
    ProviderConformanceRun.exists_new scope hdigest
      (isLowerSha256_sha256Digest (toPy evidence)) hrevision hnonempty evidence.unique
  have hrun : runProviderConformance contract target invocationId requestDigest
      differentRequestDigest terminalEvidenceDigest s = .ok ((evidence, run), s') := by
    simp only [runProviderConformance, h, hscope, he, Except.ok_bind]
    rw [show evidence.digest = sha256Digest (toPy evidence) from rfl, hr]
    rfl
  exact ⟨evidence, run, hrun, hed, hec, hall⟩

variable (contract target invocationId requestDigest differentRequestDigest)
variable (terminalEvidenceDigest s)

-- In a case that is recorded as passed, each answer is about the call it answers. The evidence is
-- attested as the run says.
def CertifiesIdentity : Prop :=
  ∀ evidence run s',
    runProviderConformance contract target invocationId requestDigest differentRequestDigest
      terminalEvidenceDigest s = .ok ((evidence, run), s') →
    (∃ cases,
      conformanceCases target invocationId requestDigest contract differentRequestDigest
        terminalEvidenceDigest s = .ok (cases, s') ∧
      evidence.cases = cases.map (ConformanceCase.result contract) ∧
      ∀ c ∈ cases, (c.result contract).passed = true → c.Addressed) ∧
    ∃ attestation,
      attestProviderContract contract evidence = .ok attestation ∧
      attestation.contractConformant = run.allRequiredCasesPassed

-- Where the target follows its contract in a case, it answers about the calls of that case.
def AnswersItsCalls : Prop :=
  ∀ cases s',
    conformanceCases target invocationId requestDigest contract differentRequestDigest
      terminalEvidenceDigest s = .ok (cases, s') →
    ∀ c ∈ cases, c.AsDeclared contract → c.Addressed

variable {contract target invocationId requestDigest differentRequestDigest}
variable {terminalEvidenceDigest s}

end Certificate

section Fixtures

@[reducible]
def untracedContract : ProviderReconciliationContract where
  provider               := "provider"
  adapter                := "adapter"
  adapterVersion         := "1"
  terminalEvidenceLookup := false
  nonempty               := by decide
  keyed                  := rfl
  rejects                := rfl

def repeatedDigest (c : Char) : String :=
  "sha256:" ++ .ofList (List.replicate 64 c)

theorem isLowerSha256_repeatedDigest {c : Char} (h : c ∈ Text.lowerHex) :
    IsLowerSha256 (repeatedDigest c) := by
  refine ⟨List.replicate 64 c, ?_, List.length_replicate, ?_⟩
  case refine_1 => simp [repeatedDigest]
  case refine_2 =>
    intro d hd
    rw [(List.mem_replicate.mp hd).right]
    exact h

theorem repeatedDigest_ne : repeatedDigest '1' ≠ repeatedDigest '2' := by
  simp [repeatedDigest]

def repeatedRevision (c : Char) : String :=
  .ofList (List.replicate 40 c)

theorem isRevision_repeatedRevision {c : Char} (h : c ∈ Text.lowerHex) :
    IsRevision (repeatedRevision c) := by
  constructor
  case left  => exact .inl (by simp [repeatedRevision])
  case right =>
    intro d hd
    rw [repeatedRevision, String.toList_ofList] at hd
    rw [(List.mem_replicate.mp hd).right]
    exact h

theorem isLowerSha256_foreign :
    ∀ x ∈ [("request_digest", repeatedDigest '9'), ("evidence_digest", repeatedDigest '9')],
      IsLowerSha256 x.2 := by
  have h : IsLowerSha256 (repeatedDigest '9') := isLowerSha256_repeatedDigest (by decide)
  simp [h]

-- Each of the answers is about the same invocation, whatever has been asked.
def foreignSubmit (status : String) (providerInvocationId : Option String)
    (ha : status = "accepted" → Text.Truthy providerInvocationId)
    (hr : status ∈ ["duplicate_rejected", "different_request_rejected"] →
      providerInvocationId = none) : ConformanceSubmitResult where
  invocationId         := "other-invocation"
  requestDigest        := repeatedDigest '9'
  status               := status
  providerInvocationId := providerInvocationId
  evidenceDigest       := repeatedDigest '9'
  nonempty             := by decide
  isSha256             := isLowerSha256_foreign
  accepted             := ha
  rejected             := hr

def foreignLookup (status : String) (providerInvocationId : Option String)
    (hc : LookupClaims status providerInvocationId none) : ConformanceLookupResult where
  invocationId           := "other-invocation"
  requestDigest          := repeatedDigest '9'
  status                 := status
  providerInvocationId   := providerInvocationId
  terminalEvidenceDigest := none
  evidenceDigest         := repeatedDigest '9'
  nonempty               := by decide
  isSha256               := isLowerSha256_foreign
  terminal               := by simp
  claims                 := hc

def foreignAccepted : ConformanceSubmitResult :=
  foreignSubmit "accepted" (some "operation") (by decide) (by decide)

-- A provider with one operation, which follows its contract in all but what it answers about. Its
-- state is the request of the operation.
def foreignTarget : ProviderConformanceTarget (Option String) where
  provider             := "provider"
  adapter              := "adapter"
  adapterVersion       := "1"
  adapterRevision      := repeatedRevision '0'
  environmentScope     := "production_equivalent"
  reset _              := .ok none
  submit _ digest
    | none       => .ok (foreignAccepted, some digest)
    | some known => .ok (
      if digest = known then foreignAccepted
      else foreignSubmit "different_request_rejected" none (by decide) (by decide), some known)
  lookup _ digest
    | none       => .ok (foreignLookup "absent" none (by simp [LookupClaims]), none)
    | some known => .ok (
      if digest = known then
        foreignLookup "accepted" (some "operation") (by simp [LookupClaims, Text.Truthy])
      else foreignLookup "identity_mismatch" none (by simp [LookupClaims]), some known)
  markTerminal _ _ _ s := .ok s

theorem foreignTarget_cases :
    ∃ cases s',
      conformanceCases foreignTarget "invocation-1" (repeatedDigest '1') untracedContract
        (repeatedDigest '2') (repeatedDigest '3') none = .ok (cases, s') ∧
      .sameRequest ⟨"invocation-1", repeatedDigest '1', foreignAccepted⟩
        ⟨"invocation-1", repeatedDigest '1', foreignAccepted⟩ ∈ cases := by
  have hid : conformanceIdentity foreignTarget untracedContract = .ok .productionEquivalent := by
    have hr : IsRevision foreignTarget.adapterRevision := isRevision_repeatedRevision (by decide)
    rw [conformanceIdentity, Py.require_of ⟨rfl, rfl, rfl⟩, Except.ok_bind, Py.require_of hr]
    rfl
  have hn : ∀ x ∈ [("invocation_id", "invocation-1")], ¬Text.Blank x.2 := by decide
  have hd : ∀ x ∈ [("request_digest", repeatedDigest '1'),
      ("different_request_digest", repeatedDigest '2'),
      ("terminal_evidence_digest", repeatedDigest '3')], IsLowerSha256 x.2 := by
    have h₁ : IsLowerSha256 (repeatedDigest '1') := isLowerSha256_repeatedDigest (by decide)
    have h₂ : IsLowerSha256 (repeatedDigest '2') := isLowerSha256_repeatedDigest (by decide)
    have h₃ : IsLowerSha256 (repeatedDigest '3') := isLowerSha256_repeatedDigest (by decide)
    simp [h₁, h₂, h₃]
  have hsame : sameRequestCase foreignTarget "invocation-1" (repeatedDigest '1') none =
      .ok (.sameRequest ⟨"invocation-1", repeatedDigest '1', foreignAccepted⟩
        ⟨"invocation-1", repeatedDigest '1', foreignAccepted⟩, some (repeatedDigest '1')) := by
    simp [sameRequestCase, submission, foreignTarget]
  simp only [conformanceCases, hid, checkNonempty_of hn, checkLowerSha256_of hd,
    Py.require_of repeatedDigest_ne, hsame, Except.ok_bind]
  exact ⟨_, _, rfl, List.mem_cons_self⟩

end Fixtures

end GeneralExecution
