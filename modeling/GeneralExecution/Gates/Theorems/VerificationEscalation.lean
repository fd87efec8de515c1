import GeneralExecution.Gates.VerificationEscalation

namespace GeneralExecution

theorem VerificationAdmission.new_eq (a : VerificationAdmission) :
    new a.requestDigest a.responseDigest a.subjectDigest a.verifierId a.evidenceDigest
      (PyLiteral.spelling a.disposition) a.selfVerified a.integrationAuthorized a.repairAuthorized
      a.schemaVersion = .ok a := by
  simp only [new, Py.check_of a.version, Guard.sha256_of a.isSha256, Guard.nonempty_of a.nonempty,
    PyLiteral.parse?, PyLiteral.parse_spelling, Py.ofOption, Except.ofOption,
    Py.check_of a.noAuthority, Except.ok_bind]
  rfl

theorem IndependentVerificationResponse.verifierId_not_blank
    (response : IndependentVerificationResponse) : ¬Text.Blank response.verifierId :=
  response.nonempty ("verifier_id", response.verifierId) (by simp)

theorem IndependentVerificationResponse.isSha256_evidenceDigest
    (response : IndependentVerificationResponse) : IsSha256 response.evidenceDigest :=
  response.isSha256 ("evidence_digest", response.evidenceDigest) (by simp)

theorem verificationRefs_ok (d d' d'' : String) :
    Guard.UniqueNonempty ["verification-request:" ++ d, "verification-response:" ++ d',
      "verification-admission:" ++ d''] := by
  have hb {s d : String} {cs : List Char} (hs : s.toList = 'v' :: cs) : ¬Text.Blank (s ++ d) := by
    have hl : (s ++ d).toList = 'v' :: (cs ++ d.toList) := by
      rw [String.toList_append, hs, List.cons_append]
    exact Text.not_blank_of_head hl (by decide)
  constructor
  · simp only [List.forall_mem_cons]
    exact ⟨hb rfl, hb rfl, hb rfl, by simp⟩
  · have h₁ : "verification-request:" ++ d ≠ "verification-response:" ++ d' :=
      Text.append_ne_append_of_take 20 (by decide) (by decide) (by decide)
    have h₂ : "verification-request:" ++ d ≠ "verification-admission:" ++ d'' :=
      Text.append_ne_append_of_take 20 (by decide) (by decide) (by decide)
    have h₃ : "verification-response:" ++ d' ≠ "verification-admission:" ++ d'' :=
      Text.append_ne_append_of_take 20 (by decide) (by decide) (by decide)
    simp [h₁, h₂, h₃]

theorem exists_evidence (kind : String) (hk : ¬Text.Blank kind)
    (response : IndependentVerificationResponse) :
    ∃ e, CheckpointEvidence.new kind
      ("verification://" ++ response.verifierSystem ++ "/" ++ response.verifierId)
      response.evidenceDigest "ge.checkpoint-evidence.v1" = .ok e := by
  have hl : ¬Text.Blank
      ("verification://" ++ response.verifierSystem ++ "/" ++ response.verifierId) := by
    apply Text.not_blank_of_head (c := 'v')
    case hs =>
      rw [String.toList_append, String.toList_append, String.toList_append]
      rfl
    case h => decide
  unfold CheckpointEvidence.new
  rw [Py.check_of rfl, Guard.nonempty_of (by simpa using ⟨hk, hl⟩),
    Guard.sha256_of (by simpa using response.isSha256_evidenceDigest)]
  exact ⟨_, rfl⟩

variable [Sha256] {request : IndependentVerificationRequest}
variable {response : IndependentVerificationResponse} {admission : VerificationAdmission}

-- The response is to this request, about its subject, and from neither of its two parties.
structure IndependentVerificationResponse.Answers (response : IndependentVerificationResponse)
    (request : IndependentVerificationRequest) : Prop where
  asked    : response.requestDigest = request.digest
  subject  : response.subjectDigest = request.subjectDigest
  executor : response.verifierId ≠ request.executorId
  worker   : response.verifierId ≠ request.workerId

-- What an observation compares of the three records.
structure VerificationAdmission.BindsObservation (admission : VerificationAdmission)
    (request : IndependentVerificationRequest) (response : IndependentVerificationResponse) :
    Prop where
  admitted    : admission.requestDigest = request.digest
  answered    : admission.responseDigest = response.digest
  subject     : admission.subjectDigest = request.subjectDigest
  verifier    : admission.verifierId = response.verifierId
  evidence    : admission.evidenceDigest = response.evidenceDigest
  disposition : admission.disposition = response.outcome.disposition

-- What an escalation compares of them.
structure VerificationAdmission.BindsEscalation (admission : VerificationAdmission)
    (request : IndependentVerificationRequest) (response : IndependentVerificationResponse) :
    Prop where
  outcome     : response.outcome = .reject
  recommended : response.redTeamRecommended = true
  asked       : response.requestDigest = request.digest
  admitted    : admission.requestDigest = request.digest
  answered    : admission.responseDigest = response.digest
  disposition : admission.disposition = .reworkRequired
  verifier    : admission.verifierId = response.verifierId

theorem buildVerificationObservation_binds {observedAt summary : String}
    {o : ResumeTickObservation}
    (h : buildVerificationObservation request response admission observedAt summary = .ok o) :
    admission.BindsObservation request response := by
  simp only [buildVerificationObservation, Except.bind_eq_ok, Py.require_eq_ok] at h
  obtain ⟨_, _, _, ⟨hq, hr, hs, hv, he⟩, _, hd, _⟩ := h
  exact ⟨hq, hr, hs, hv, he, hd⟩

theorem prepareRedTeamEscalation_binds {scope : String} {r : RedTeamEscalationRequest}
    (h : prepareRedTeamEscalation request response admission scope = .ok r) :
    admission.BindsEscalation request response := by
  simp only [prepareRedTeamEscalation, Except.bind_eq_ok, Py.require_eq_ok] at h
  obtain ⟨_, _, _, ⟨ho, hr⟩, _, ⟨hq, ha, hs, hd, hv⟩, _⟩ := h
  exact ⟨ho, hr, hq, ha, hs, hd, hv⟩

-- Whatever the records bind, the observation that is built of them is a valid one.
theorem VerificationAdmission.BindsObservation.exists_build
    (h : admission.BindsObservation request response) {observedAt summary : String}
    (ho : ¬Text.Blank observedAt) (hs : ¬Text.Blank summary) :
    ∃ o, buildVerificationObservation request response admission observedAt summary = .ok o := by
  have hargs : ∀ x ∈ [("observed_at", observedAt), ("summary", summary)], ¬Text.Blank x.2 := by
    simpa using ⟨ho, hs⟩
  have hkind : ¬Text.Blank
      (if response.outcome = .pass then "verifier_pass" else "verifier_reject") := by
    split <;> decide
  have hevent : ¬Text.Blank
      (if response.outcome = .pass then "verification_passed" else "verification_failed") := by
    split <;> decide
  have haction : ¬Text.Blank ("verification-admission:" ++ admission.digest) :=
    (verificationRefs_ok request.digest response.digest admission.digest).left _ (by simp)
  have ⟨e, he⟩ := exists_evidence _ hkind response
  have hnonempty : ∀ x ∈ [("portfolio_id", request.portfolioId),
      ("event",
        if response.outcome = .pass then "verification_passed" else "verification_failed"),
      ("action_ref", "verification-admission:" ++ admission.digest), ("observed_at", observedAt),
      ("summary", summary)], ¬Text.Blank x.2 := by
    have hq := request.nonempty
    simp only [List.forall_mem_cons] at hq ⊢
    exact ⟨hq.1, hevent, haction, ho, hs, by simp⟩
  have hdigest : ∀ x ∈ [("expected_state_digest", request.stateDigest),
      ("policy_digest", request.policyDigest)], IsSha256 x.2 := by
    have hd := request.isSha256
    simp only [List.forall_mem_cons] at hd ⊢
    exact ⟨hd.1, hd.2.2.1, by simp⟩
  unfold buildVerificationObservation
  rw [Guard.nonempty_of hargs, Except.ok_bind,
    Py.require_of ⟨h.admitted, h.answered, h.subject, h.verifier, h.evidence⟩, Except.ok_bind,
    Py.require_of h.disposition, Except.ok_bind]
  dsimp only
  rw [he, Except.ok_bind]
  have hdistinct : ([e].map CheckpointEvidence.identity).Nodup :=
    List.nodup_singleton _
  unfold ResumeTickObservation.new
  rw [Py.check_of rfl, Guard.nonempty_of hnonempty, Guard.sha256_of hdigest,
    Py.check_of (List.cons_ne_nil _ _), Py.check_of hdistinct,
    Py.check_of (List.cons_ne_nil _ _), Py.check_of (verificationRefs_ok _ _ _),
    Py.check_of ⟨by simp, List.nodup_nil⟩]
  exact ⟨_, rfl⟩

theorem VerificationAdmission.BindsEscalation.exists_prepare
    (h : admission.BindsEscalation request response) {scope : String} (hs : ¬Text.Blank scope) :
    ∃ r, prepareRedTeamEscalation request response admission scope = .ok r := by
  have hd : ∀ x ∈ [("verification_request_digest", request.digest),
      ("verification_response_digest", response.digest),
      ("verification_admission_digest", admission.digest), ("state_digest", request.stateDigest),
      ("subject_digest", request.subjectDigest), ("evidence_digest", response.evidenceDigest)],
      IsSha256 x.2 := by
    have hr := request.isSha256
    simp only [List.forall_mem_cons] at hr ⊢
    exact ⟨isSha256_sha256Digest _, isSha256_sha256Digest _, isSha256_sha256Digest _, hr.1,
      hr.2.2.2.2.1, response.isSha256_evidenceDigest, by simp⟩
  have hn : ∀ x ∈ [("portfolio_id", request.portfolioId), ("executor_id", request.executorId),
      ("worker_id", request.workerId), ("originating_verifier_id", response.verifierId),
      ("requested_scope_ref", scope)], ¬Text.Blank x.2 := by
    have hr := request.nonempty
    simp only [List.forall_mem_cons] at hr ⊢
    exact ⟨hr.1, hr.2.2.2.1, hr.2.2.2.2.1, response.verifierId_not_blank, hs, by simp⟩
  have hscope : ∀ x ∈ [("requested_scope_ref", scope)], ¬Text.Blank x.2 := by
    simpa using hs
  unfold prepareRedTeamEscalation RedTeamEscalationRequest.new
  rw [Guard.nonempty_of hscope, Except.ok_bind, Py.require_of ⟨h.outcome, h.recommended⟩,
    Except.ok_bind,
    Py.require_of ⟨h.asked, h.admitted, h.answered, h.disposition, h.verifier⟩,
    Except.ok_bind, Guard.sha256_of hd, Except.ok_bind, Guard.nonempty_of hn]
  exact ⟨_, rfl⟩

theorem answers_of_admission {digest : String}
    (h : admitIndependentVerification request response digest = .ok admission) :
    response.Answers request := by
  simp only [admitIndependentVerification, Except.bind_eq_ok, Py.require_eq_ok] at h
  obtain ⟨_, _, _, _, _, ⟨hq, hs, _⟩, _, hv, _⟩ := h
  simp only [List.mem_cons, List.not_mem_nil, or_false, not_or] at hv
  exact ⟨hq, hs, hv.left, hv.right⟩

-- An admission that names the two records and repeats the response is what the gate makes of them.
theorem IndependentVerificationResponse.Answers.admits (ha : response.Answers request)
    (hq : admission.requestDigest = request.digest) (hr : admission.responseDigest = response.digest)
    (hs : admission.subjectDigest = request.subjectDigest)
    (hv : admission.verifierId = response.verifierId)
    (he : admission.evidenceDigest = response.evidenceDigest)
    (hd : admission.disposition = response.outcome.disposition) :
    admitIndependentVerification request response response.digest = .ok admission := by
  have hsha : ∀ x ∈ [("authenticated_response_digest", response.digest)], IsSha256 x.2 := by
    simp [IndependentVerificationResponse.digest, isSha256_sha256Digest]
  have hown : response.verifierId ∉ [request.executorId, request.workerId] := by
    simp [ha.executor, ha.worker]
  have hsys : response.verifierSystem = request.verifierSystem :=
    response.fixed.trans request.fixed.symm
  obtain ⟨hf₁, hf₂, hf₃⟩ := admission.noAuthority
  have hnew := admission.new_eq
  rw [hq, hr, hs, hv, he, hd, hf₁, hf₂, hf₃, admission.version] at hnew
  unfold admitIndependentVerification
  rw [Guard.sha256_of hsha, Except.ok_bind, Py.require_of rfl, Except.ok_bind,
    Py.require_of ⟨ha.asked, ha.subject, hsys⟩, Except.ok_bind, Py.require_of hown, Except.ok_bind,
    ha.subject]
  exact hnew

-- The admission of a response.
def IndependentVerificationResponse.admitted (request : IndependentVerificationRequest)
    (response : IndependentVerificationResponse) : VerificationAdmission where
  requestDigest  := request.digest
  responseDigest := response.digest
  subjectDigest  := request.subjectDigest
  verifierId     := response.verifierId
  evidenceDigest := response.evidenceDigest
  disposition    := response.outcome.disposition
  version        := rfl
  isSha256       := by
    have hr := request.isSha256
    simp only [List.forall_mem_cons] at hr ⊢
    exact ⟨isSha256_sha256Digest _, isSha256_sha256Digest _, hr.2.2.2.2.1,
      response.isSha256_evidenceDigest, by simp⟩
  nonempty       := response.nonempty
  noAuthority    := ⟨rfl, rfl, rfl⟩

theorem IndependentVerificationResponse.Answers.exists_admission (ha : response.Answers request) :
    ∃ admission, admitIndependentVerification request response response.digest = .ok admission :=
  ⟨response.admitted request, ha.admits rfl rfl rfl rfl rfl rfl⟩

-- The consumers of an admission act on an independent answer to the request alone.
structure VerificationBound (request : IndependentVerificationRequest)
    (response : IndependentVerificationResponse) (admission : VerificationAdmission) : Prop where
  observation :
    ∀ observedAt summary o,
      buildVerificationObservation request response admission observedAt summary = .ok o →
        response.Answers request
  escalation :
    ∀ scope r, prepareRedTeamEscalation request response admission scope = .ok r →
      response.Answers request

-- The admission is no invention of its holder.
structure VerificationAdmitted (request : IndependentVerificationRequest)
    (response : IndependentVerificationResponse) (admission : VerificationAdmission) : Prop where
  observation :
    admission.BindsObservation request response →
      admitIndependentVerification request response response.digest = .ok admission
  escalation :
    admission.BindsEscalation request response →
      ∃ own, admitIndependentVerification request response response.digest = .ok own

theorem verificationBound_iff (request : IndependentVerificationRequest)
    (response : IndependentVerificationResponse) (admission : VerificationAdmission) :
    VerificationBound request response admission ↔
      VerificationAdmitted request response admission := by
  constructor
  case mp =>
    intro h
    constructor
    case observation =>
      intro hb
      have ⟨o, ho⟩ := hb.exists_build (by decide : ¬Text.Blank "now")
        (by decide : ¬Text.Blank "summary")
      exact (h.observation _ _ o ho).admits hb.admitted hb.answered hb.subject hb.verifier hb.evidence
        hb.disposition
    case escalation =>
      intro hb
      have ⟨r, hr⟩ := hb.exists_prepare (by decide : ¬Text.Blank "scope")
      exact (h.escalation _ r hr).exists_admission
  case mpr =>
    intro h
    constructor
    case observation =>
      intro _ _ o ho
      exact answers_of_admission (h.observation (buildVerificationObservation_binds ho))
    case escalation =>
      intro _ r hr
      have ⟨own, ho⟩ := h.escalation (prepareRedTeamEscalation_binds hr)
      exact answers_of_admission ho

def verificationDigest : String :=
  "sha256:" ++ .ofList (List.replicate 64 'a')

def referenceVerificationRequest : IndependentVerificationRequest where
  portfolioId      := "portfolio-1"
  generation       := 1
  stateDigest      := verificationDigest
  checkpointDigest := verificationDigest
  policyDigest     := verificationDigest
  tickDigest       := verificationDigest
  workId           := "work-1"
  sourceRevision   := "revision-1"
  subjectDigest    := verificationDigest
  evidenceDigest   := verificationDigest
  executorId       := "executor-1"
  workerId         := "worker-1"
  version          := rfl
  isSha256         := by simp only [List.forall_mem_cons]; decide
  nonempty         := by decide
  fixed            := rfl
  noAuthority      := unset₄

-- The executor answers the request for its own verification.
def executorResponse : IndependentVerificationResponse where
  requestDigest  := referenceVerificationRequest.digest
  verifierSystem := "project_assurance"
  verifierId     := referenceVerificationRequest.executorId
  subjectDigest  := referenceVerificationRequest.subjectDigest
  evidenceDigest := referenceVerificationRequest.evidenceDigest
  outcome        := .pass
  version        := rfl
  isSha256       := by
    have h := referenceVerificationRequest.isSha256
    simp only [List.forall_mem_cons] at h ⊢
    exact ⟨isSha256_sha256Digest _, h.2.2.2.2.1, h.2.2.2.2.2.1, by simp⟩
  fixed          := rfl
  nonempty       := by decide
  canonical      := by decide
  found          := nofun
  clean _        := ⟨rfl, rfl⟩
  noAuthority    := unset₂

omit [Sha256] in
-- Its response is not admitted, but the record that an admission would be can be written down.
theorem executor_verifies_itself :
    letI := Sha256.blind
    ¬VerificationBound referenceVerificationRequest executorResponse
      (executorResponse.admitted referenceVerificationRequest) := by
  let := Sha256.blind
  intro h
  have hb : (executorResponse.admitted referenceVerificationRequest).BindsObservation
      referenceVerificationRequest executorResponse := ⟨rfl, rfl, rfl, rfl, rfl, rfl⟩
  have ⟨o, ho⟩ := hb.exists_build (by decide : ¬Text.Blank "now")
    (by decide : ¬Text.Blank "summary")
  exact (h.observation _ _ o ho).executor rfl

end GeneralExecution
