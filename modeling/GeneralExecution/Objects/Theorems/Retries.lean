import GeneralExecution.Objects.Theorems.Operations

namespace GeneralExecution

variable [Sha256]

-- Each call may be made in a context of its own.

def FirstAuthorized (id : String) (auth : PhysicalAttemptAuthorization) : Prop :=
  ∃ spec registry plan session runner,
    authorizePhysicalAttempt spec registry plan session runner id = .ok auth

def RetryAuthorized (prior : PhysicalOutcomeBundle) (id : String)
    (auth : PhysicalAttemptAuthorization) : Prop :=
  ∃ spec registry plan session runner,
    authorizeRetry spec registry plan session runner prior id = .ok auth

def Admitted (auth : PhysicalAttemptAuthorization) (outcome : PhysicalOutcomeBundle) : Prop :=
  ∃ spec registry plan session runner observation,
    admitPhysicalObservation spec registry plan session runner auth observation = .ok outcome

-- The outcomes of a session's attempts, each authorized from the one before and then admitted, with
-- the names that the authorizations were given.
inductive RetryChain : List String → List PhysicalOutcomeBundle → Prop
  | first {id auth outcome} :
      FirstAuthorized id auth → Admitted auth outcome → RetryChain [id] [outcome]
  | retry {ids outcomes prior id auth outcome} :
      RetryChain ids (outcomes ++ [prior]) → RetryAuthorized prior id auth → Admitted auth outcome →
      RetryChain (ids ++ [id]) (outcomes ++ [prior] ++ [outcome])

variable {base : ChainBase} {ids seen : List String} {id : String} {index : Nat}
variable {auth : PhysicalAttemptAuthorization} {outcome prior : PhysicalOutcomeBundle}
variable {outcomes : List PhysicalOutcomeBundle}

theorem FirstAuthorized.eq (h : FirstAuthorized id auth) :
    ∃ request, request.invocationId = id ∧ auth = firstAttempt request := by
  have ⟨_, _, _, _, _, h⟩ := h
  have ⟨_, _, ha⟩ := authorizePhysicalAttempt_eq_ok.mp h
  exact ⟨_, rfl, ha⟩

-- A retry is for the request of the attempt before under another name.
theorem RetryAuthorized.eq (h : RetryAuthorized prior id auth) :
    prior.receipt.transportStatus ≠ .completed ∧
      ∃ request, request.invocationId = id ∧
        request.chainBase = prior.authorization.request.chainBase ∧ auth = retryOf prior request := by
  have ⟨_, _, _, _, _, h⟩ := h
  have ⟨hv, hc, _, ha⟩ := authorizeRetry_eq_ok.mp h
  have ⟨_, hr⟩ := verifyDispatchRequest_iff.mp (verifyPhysicalOutcome_iff.mp hv).left
  exact ⟨hc, _, rfl, by rw [hr]; rfl, ha⟩

theorem Admitted.intrinsic (h : Admitted auth outcome) :
    outcome.authorization = auth ∧ verifyIntrinsicOutcome outcome = true := by
  have ⟨_, _, _, _, _, _, h⟩ := h
  obtain ⟨_, ho, rfl⟩ := admitPhysicalObservation_eq_ok.mp h
  exact ⟨rfl, verifyIntrinsicOutcome_admitted ho⟩

def invocationIds (outcomes : List PhysicalOutcomeBundle) : List String :=
  outcomes.map fun outcome => outcome.authorization.request.invocationId

-- The links of a chain are those of all outcomes but the last and the last one's own.
theorem verifyRetryLinks_concat {prior : Option PhysicalOutcomeBundle} :
    verifyRetryLinks base seen prior index (outcomes ++ [outcome]) = true ↔
      verifyRetryLinks base seen prior index outcomes = true ∧
        verifyRetryLink base (seen ++ invocationIds outcomes) (outcomes.getLast?.or prior)
          (index + outcomes.length) outcome = true := by
  induction outcomes generalizing seen prior index
  case nil => simp [verifyRetryLinks, invocationIds]
  case cons o os ih =>
    have hl : (o :: os).getLast?.or prior = os.getLast?.or (some o) := by
      rw [List.getLast?_cons]
      cases os.getLast? <;> rfl
    have hn : index + 1 + os.length = index + (o :: os).length := by
      simp only [List.length_cons]
      omega
    simp only [List.cons_append, verifyRetryLinks, Bool.and_eq_true, ih, and_assoc, hl, hn,
      invocationIds, List.map_cons, List.append_assoc, List.cons_append, List.nil_append]

theorem verifyRetryChain_concat (hn : outcomes ≠ []) :
    verifyRetryChain (outcomes ++ [outcome]) = true ↔
      verifyRetryChain outcomes = true ∧
        verifyRetryLink ((outcomes.head hn).authorization.request.chainBase)
          (invocationIds outcomes) outcomes.getLast? (1 + outcomes.length) outcome = true := by
  cases outcomes
  case nil => contradiction
  case cons o os =>
    have h : verifyRetryLinks o.authorization.request.chainBase [] none 1
        ((o :: os) ++ [outcome]) = true ↔ _ := verifyRetryLinks_concat
    simpa only [verifyRetryChain, List.cons_append, List.head_cons, List.nil_append,
      Option.or_none] using h

-- A chain has one outcome for each name, all outcomes are about one session, and the last of them
-- has the last index.
structure RetryChain.Ordered (ids : List String) (outcomes : List PhysicalOutcomeBundle) : Prop where
  ids      : invocationIds outcomes = ids
  nonempty : outcomes ≠ []
  index    : (outcomes.getLast nonempty).authorization.physicalAttempt = outcomes.length
  base     : (outcomes.getLast nonempty).authorization.request.chainBase =
    (outcomes.head nonempty).authorization.request.chainBase

namespace RetryChain

theorem ordered (h : RetryChain ids outcomes) : Ordered ids outcomes := by
  induction h
  case first hf ha =>
    obtain ⟨request, rfl, rfl⟩ := hf.eq
    obtain ⟨hr, _⟩ := ha.intrinsic
    exact ⟨by simp [invocationIds, hr, firstAttempt], by simp, by simp [hr, firstAttempt], rfl⟩
  case retry hr ha ih =>
    obtain ⟨_, request, rfl, hb, rfl⟩ := hr.eq
    obtain ⟨hr, _⟩ := ha.intrinsic
    have hi := ih.ids
    have hn := ih.index
    have hb' := ih.base
    simp only [invocationIds, List.getLast_append_singleton, List.length_append] at hi hn hb'
    refine ⟨?_, by simp, ?_, ?_⟩
    · simp [invocationIds, ← hi, hr, retryOf]
    · simp [hr, retryOf, hn]
    · rw [List.head_append_of_ne_nil ih.nonempty]
      simp [hr, retryOf, hb, hb']

-- The chain is verified exactly when no two of its attempts were given the same name.
theorem verified_iff (h : RetryChain ids outcomes) : verifyRetryChain outcomes = true ↔ ids.Nodup := by
  induction h
  case first hf ha =>
    obtain ⟨request, rfl, rfl⟩ := hf.eq
    obtain ⟨hr, hv⟩ := ha.intrinsic
    simp [verifyRetryChain, verifyRetryLinks, verifyRetryLink, verifyRetryBindings, hv, hr, firstAttempt]
  case retry ids outcomes prior id auth outcome hc hr ha ih =>
    obtain ⟨ht, request, rfl, hb, rfl⟩ := hr.eq
    obtain ⟨hr, hv⟩ := ha.intrinsic
    have ho := hc.ordered
    rw [verifyRetryChain_concat ho.nonempty, ih, ho.ids, List.nodup_append_comm]
    have hn := ho.index
    have hb' := ho.base
    simp only [List.getLast_append_singleton] at hn hb'
    simp [verifyRetryLink, verifyRetryBindings, hv, hr, retryOf, hb, hb', hn, ht, and_comm,
      Nat.add_comm]

end RetryChain

-- Any names make a chain, also when one of them is used twice.
theorem exists_retryChain {spec : ExecutionSpec} {registry : RunnerRegistry} {plan : DispatchPlan}
    {session : ExecutionSession} {runner : RunnerCapabilities} (ids : List String)
    (hb : StaticBinding spec registry plan session runner) (hn : ids ≠ [])
    (hi : ∀ id ∈ ids, "gei-".toList <+: id.toList) :
    ∃ outcomes prior, RetryChain ids (outcomes ++ [prior]) ∧
      prior.receipt.transportStatus ≠ .completed ∧
      verifyPhysicalOutcome spec registry plan session runner prior = true := by
  induction ids using List.reverseRecOn
  case nil => contradiction
  case append_singleton ids id ih =>
    have hid : "gei-".toList <+: id.toList := hi id (by simp)
    have hr := verifyDispatchRequest_iff.mpr
      ⟨hb, (rfl : requestFor spec registry plan session runner id hid = _)⟩
    by_cases he : ids = []
    case pos =>
      have ⟨_, outcome, ha, _, ht, hv⟩ := exists_failed (firstAttempt _) hr
      have hf := authorizePhysicalAttempt_eq_ok.mpr ⟨hb, hid, rfl⟩
      subst he
      exact ⟨[], outcome, .first ⟨_, _, _, _, _, hf⟩ ⟨_, _, _, _, _, _, ha⟩, ht, hv⟩
    case neg =>
      have ⟨outcomes, prior, hc, ht', hv'⟩ := ih he fun i hm => hi i (by simp [hm])
      have ⟨_, outcome, ha, _, ht, hv⟩ := exists_failed (retryOf prior _) hr
      have hf := authorizeRetry_eq_ok.mpr ⟨hv', ht', hid, rfl⟩
      exact ⟨_, outcome, .retry hc ⟨_, _, _, _, _, hf⟩ ⟨_, _, _, _, _, _, ha⟩, ht, hv⟩

-- Verification agrees with the step-by-step admission exactly when each attempt got a new name.
theorem retryChain_verified_iff (h : RetryChain ids outcomes) :
    (verifyRetryChain outcomes = true ∧ (invocationIds outcomes).Nodup) ↔ ids.Nodup := by
  rw [h.verified_iff, h.ordered.ids, and_self]

omit [Sha256] in
theorem retryChain_verified_iff_twoNames : let _ := Sha256.blind
    ∃ outcomes, RetryChain ["gei-1", "gei-2"] outcomes ∧ verifyRetryChain outcomes = true := by
  intro _
  have ⟨_, _, h, _⟩ := exists_retryChain ["gei-1", "gei-2"] (reference_binding referenceSpec)
    (by simp) (by decide)
  exact ⟨_, h, (retryChain_verified_iff h |>.mpr (by decide)).left⟩

omit [Sha256] in
-- A retry may be given the name of the attempt that it retries.
theorem retryChain_notVerified : ¬∀ (_ : Sha256) ids outcomes,
    RetryChain ids outcomes → verifyRetryChain outcomes = true ∧ (invocationIds outcomes).Nodup := by
  intro h
  let _ := Sha256.blind
  have ⟨_, _, hc, _⟩ := exists_retryChain ["gei-1", "gei-1"] (reference_binding referenceSpec)
    (by simp) (by decide)
  have hn := (h _ _ _ hc).right
  rw [hc.ordered.ids] at hn
  exact absurd hn (by decide)

end GeneralExecution
