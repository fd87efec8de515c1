import GeneralExecution.Objects.Theorems.Capacity

namespace GeneralExecution

open RunnerCapacityState (Reachable CanReserve CanRelease applyTransitionUnchecked_eq_ok
  verifyCapacityState_iff_reachable)

variable [Sha256] {spec : ExecutionSpec} {registry : RunnerRegistry} {plan : DispatchPlan}
variable {session revoked : ExecutionSession} {runner : RunnerCapabilities} {invocationId : String}
variable {request : AdapterDispatchRequest} {auth : PhysicalAttemptAuthorization}
variable {observation : PhysicalObservation} {outcome prior : PhysicalOutcomeBundle}
variable {state state' : RunnerCapacityState}
variable {lease lease' : CapacityLease} {transition : CapacityTransition}

-- What binds a running session to its spec, its plan and its runner.
structure StaticBinding (spec : ExecutionSpec) (registry : RunnerRegistry) (plan : DispatchPlan)
    (session : ExecutionSession) (runner : RunnerCapabilities) : Prop where
  planned          : verifyPlan spec registry plan = true
  member           : runner ∈ registry.runners
  running          : session.state = .running
  specId           : session.specId = spec.specId
  specDigest       : session.specDigest = spec.digest
  planId           : session.planId = plan.planId
  planDigest       : session.planDigest = plan.digest
  registryDigest   : plan.registryDigest = registry.digest
  runnerId         : session.runnerId = runner.runnerId
  capabilityDigest : session.runnerCapabilityDigest = runner.digest
  mode             : session.mode = plan.mode

theorem verifyStaticBinding_eq_ok {u : Unit} :
    verifyStaticBinding spec registry plan session runner = .ok u ↔
      StaticBinding spec registry plan session runner := by
  simp only [verifyStaticBinding, Except.bind_eq_ok, Py.require_eq_ok, exists_const]
  constructor
  · rintro ⟨h₁, h₂, h₃, h₄, h₅, h₆, h₇, h₈, h₉, h₁₀, h₁₁⟩
    exact ⟨h₁, h₂, h₃, h₄, h₅, h₆, h₇, h₈, h₉, h₁₀, h₁₁⟩
  · rintro ⟨h₁, h₂, h₃, h₄, h₅, h₆, h₇, h₈, h₉, h₁₀, h₁₁⟩
    exact ⟨h₁, h₂, h₃, h₄, h₅, h₆, h₇, h₈, h₉, h₁₀, h₁₁⟩

-- The request of a session under an invocation id.
def requestFor (spec : ExecutionSpec) (registry : RunnerRegistry) (plan : DispatchPlan)
    (session : ExecutionSession) (runner : RunnerCapabilities) (invocationId : String)
    (h : "gei-".toList <+: invocationId.toList) : AdapterDispatchRequest where
  invocationId           := invocationId
  sessionId              := session.sessionId
  specId                 := spec.specId
  specDigest             := spec.digest
  planId                 := plan.planId
  planDigest             := plan.digest
  registryDigest         := registry.digest
  runnerId               := runner.runnerId
  runnerCapabilityDigest := runner.digest
  mode                   := PyLiteral.spelling session.mode
  attempt                := session.attempt
  provider               := runner.provider
  adapter                := runner.adapter
  adapterVersion         := runner.adapterVersion
  spec                   := spec
  inNamespace            := h
  hasAttempt             := session.hasAttempt

theorem buildDispatchRequest_eq_ok :
    buildDispatchRequest spec registry plan session runner invocationId = .ok request ↔
      StaticBinding spec registry plan session runner ∧
        ∃ h, request = requestFor spec registry plan session runner invocationId h := by
  simp only [buildDispatchRequest, Except.bind_eq_ok, verifyStaticBinding_eq_ok, exists_const]
  refine and_congr_right fun _ => ⟨fun h => ?_, fun hr => ?_⟩
  · simp only [AdapterDispatchRequest.new, Except.bind_eq_ok, Except.pure_eq_ok] at h
    obtain ⟨⟨h⟩, _, _, _, rfl⟩ := h
    exact ⟨h, rfl⟩
  · obtain ⟨h, he⟩ := hr
    simp only [AdapterDispatchRequest.new, Py.check_of h, Py.check_of session.hasAttempt,
      Except.ok_bind, he]
    rfl

theorem verifyDispatchRequest_iff :
    verifyDispatchRequest spec registry plan session runner request = true ↔
      StaticBinding spec registry plan session runner ∧
        request = requestFor spec registry plan session runner request.invocationId
          request.inNamespace := by
  rw [verifyDispatchRequest]
  split
  case h_1 expected he =>
    obtain ⟨hb, _, rfl⟩ := buildDispatchRequest_eq_ok.mp he
    rw [decide_eq_true_eq, and_iff_right hb]
  case h_2 e he =>
    refine iff_of_false Bool.false_ne_true fun ⟨hb, _⟩ => ?_
    have := buildDispatchRequest_eq_ok.mpr ⟨hb, request.inNamespace, rfl⟩
    simp [he] at this

theorem verifyPhysicalOutcome_iff :
    verifyPhysicalOutcome spec registry plan session runner outcome = true ↔
      verifyDispatchRequest spec registry plan session runner outcome.authorization.request = true ∧
        verifyIntrinsicOutcome outcome = true := by
  rw [verifyPhysicalOutcome, decide_eq_true_eq]

-- An admitted outcome is about its session's runner.
theorem verifyPhysicalOutcome_runnerId
    (h : verifyPhysicalOutcome spec registry plan session runner outcome = true) :
    outcome.authorization.request.runnerId = runner.runnerId := by
  have ⟨_, hr⟩ := verifyDispatchRequest_iff.mp (verifyPhysicalOutcome_iff.mp h).left
  rw [hr]
  rfl

-- The authorization of a first attempt.
def firstAttempt (request : AdapterDispatchRequest) : PhysicalAttemptAuthorization where
  request               := request
  physicalAttempt       := 1
  previousInvocationId  := none
  previousReceiptDigest := none
  hasAttempt            := Nat.one_pos
  chain                 := by simp [ChainOk]
  isSha256              := by simp

-- The authorization of the attempt after `prior`.
def retryOf (prior : PhysicalOutcomeBundle) (request : AdapterDispatchRequest) :
    PhysicalAttemptAuthorization where
  request               := request
  physicalAttempt       := prior.authorization.physicalAttempt + 1
  previousInvocationId  := some prior.authorization.request.invocationId
  previousReceiptDigest := some prior.receipt.digest
  hasAttempt            := Nat.le_add_left ..
  chain                 := by
    have := prior.authorization.hasAttempt
    rw [ChainOk, if_neg (by omega)]
    exact ⟨rfl, rfl⟩
  isSha256 _ hd         := Option.mem_some_iff.mp hd ▸ isSha256_sha256Digest _

theorem authorizePhysicalAttempt_eq_ok :
    authorizePhysicalAttempt spec registry plan session runner invocationId = .ok auth ↔
      StaticBinding spec registry plan session runner ∧
        ∃ h, auth = firstAttempt (requestFor spec registry plan session runner invocationId h) := by
  have hn (request) : PhysicalAttemptAuthorization.new request 1 none none =
      .ok (firstAttempt request) := PhysicalAttemptAuthorization.new_eq (firstAttempt request) rfl
  simp only [authorizePhysicalAttempt, Except.bind_eq_ok, buildDispatchRequest_eq_ok, hn,
    Except.ok.injEq]
  constructor
  · rintro ⟨_, ⟨hb, h, rfl⟩, rfl⟩
    exact ⟨hb, h, rfl⟩
  · rintro ⟨hb, h, rfl⟩
    exact ⟨_, ⟨hb, h, rfl⟩, rfl⟩

theorem authorizeRetry_eq_ok :
    authorizeRetry spec registry plan session runner prior invocationId = .ok auth ↔
      verifyPhysicalOutcome spec registry plan session runner prior = true ∧
      prior.receipt.transportStatus ≠ .completed ∧
        ∃ h, auth = retryOf prior (requestFor spec registry plan session runner invocationId h) := by
  have hn (request) : PhysicalAttemptAuthorization.new request
      (prior.authorization.physicalAttempt + 1) (some prior.authorization.request.invocationId)
      (some prior.receipt.digest) = .ok (retryOf prior request) :=
    PhysicalAttemptAuthorization.new_eq (retryOf prior request) rfl
  simp only [authorizeRetry, Except.bind_eq_ok, Py.require_eq_ok, exists_const,
    buildDispatchRequest_eq_ok, hn, Except.ok.injEq]
  constructor
  · rintro ⟨hv, hc, _, ⟨_, h, rfl⟩, rfl⟩
    exact ⟨hv, hc, h, rfl⟩
  · rintro ⟨hv, hc, h, rfl⟩
    have hb := (verifyDispatchRequest_iff.mp (verifyPhysicalOutcome_iff.mp hv).left).left
    exact ⟨hv, hc, _, ⟨hb, h, rfl⟩, rfl⟩

-- An observation that the program itself has made is bound to its authorization.

theorem observeFailure_bound {status : TransportStatus} {code : String}
    {providerInvocationId detailDigest : Option String} (hs : status ≠ .completed)
    (hc : ¬Text.Blank code) :
    ∃ observation,
      observeFailure auth status code providerInvocationId detailDigest = .ok observation ∧
      observation.transportStatus = status ∧
      verifyObservationAgainstAuthorization auth observation = true := by
  let observation : PhysicalObservation := {
    authorizationId      := auth.authorizationId
    invocationId         := auth.request.invocationId
    requestDigest        := auth.request.digest
    providerInvocationId := providerInvocationId
    transportStatus      := status
    result               := none
    failureCode          := some code
    detailDigest         := detailDigest
    responseDigest       := responseDigest auth providerInvocationId status none (some code)
      detailDigest
    completed h          := absurd h hs
    failed _             := ⟨rfl, by simpa [Text.Present] using hc⟩ }
  refine ⟨observation, ?_, rfl, by simp [verifyObservationAgainstAuthorization, observation]⟩
  simp only [observeFailure, Except.bind_eq_ok, Py.require_eq_ok, exists_const]
  exact ⟨hs, PhysicalObservation.new_eq observation rfl⟩

theorem observeCompleted_bound {result : ResultEnvelope} {providerInvocationId : String}
    {detailDigest : Option String} (hr : verifyResultBinding auth.request result = true)
    (hp : ¬Text.Blank providerInvocationId) :
    ∃ observation,
      observeCompleted auth result providerInvocationId detailDigest = .ok observation ∧
      observation.transportStatus = .completed ∧
      verifyObservationAgainstAuthorization auth observation = true := by
  let observation : PhysicalObservation := {
    authorizationId      := auth.authorizationId
    invocationId         := auth.request.invocationId
    requestDigest        := auth.request.digest
    providerInvocationId := some providerInvocationId
    transportStatus      := .completed
    result               := some result
    failureCode          := none
    detailDigest         := detailDigest
    responseDigest       := responseDigest auth (some providerInvocationId) .completed (some result)
      none detailDigest
    completed _          := ⟨rfl, rfl, by simpa [Text.Present] using hp⟩
    failed h             := absurd rfl h }
  exact ⟨observation, PhysicalObservation.new_eq observation rfl, rfl,
    by simp [verifyObservationAgainstAuthorization, observation, hr]⟩

-- The outcome that an observation is admitted as.
def admitted (auth : PhysicalAttemptAuthorization) (observation : PhysicalObservation) :
    PhysicalOutcomeBundle where
  authorization := auth
  observation   := observation
  receipt       := makeReceipt auth observation
  result        := observation.result

theorem verifyIntrinsicOutcome_admitted
    (h : verifyObservationAgainstAuthorization auth observation = true) :
    verifyIntrinsicOutcome (admitted auth observation) = true := by
  simp only [verifyIntrinsicOutcome, admitted, makeReceipt, h, decide_eq_true_eq, true_and]
  by_cases hc : observation.transportStatus = .completed
  case pos =>
    obtain ⟨result, hr⟩ := Option.isSome_iff_exists.mp (observation.completed hc).left
    simp only [verifyObservationAgainstAuthorization, decide_eq_true_eq, hr, Option.all_some] at h
    simp [hc, hr, h]
  case neg => simp [hc, (observation.failed hc).left]

theorem admitPhysicalObservation_eq_ok :
    admitPhysicalObservation spec registry plan session runner auth observation = .ok outcome ↔
      verifyDispatchRequest spec registry plan session runner auth.request = true ∧
      verifyObservationAgainstAuthorization auth observation = true ∧
      outcome = admitted auth observation := by
  simp only [admitPhysicalObservation, Except.bind_eq_ok, Py.require_eq_ok, exists_const,
    Except.pure_eq_ok]
  constructor
  · rintro ⟨hr, ho, _, rfl⟩
    exact ⟨hr, ho, rfl⟩
  · rintro ⟨hr, ho, rfl⟩
    exact ⟨hr, ho, verifyPhysicalOutcome_iff.mpr ⟨hr, verifyIntrinsicOutcome_admitted ho⟩, rfl⟩

-- Any attempt may time out.
theorem exists_failed (auth : PhysicalAttemptAuthorization)
    (hr : verifyDispatchRequest spec registry plan session runner auth.request = true) :
    ∃ observation outcome,
      admitPhysicalObservation spec registry plan session runner auth observation = .ok outcome ∧
      outcome.authorization = auth ∧ outcome.receipt.transportStatus ≠ .completed ∧
      verifyPhysicalOutcome spec registry plan session runner outcome = true := by
  have ⟨observation, _, ht, ho⟩ : ∃ observation,
      observeFailure auth .timedOut "timeout" none none = .ok observation ∧
      observation.transportStatus = .timedOut ∧
      verifyObservationAgainstAuthorization auth observation = true :=
    observeFailure_bound (by simp) (by decide)
  refine ⟨observation, admitted auth observation,
    admitPhysicalObservation_eq_ok.mpr ⟨hr, ho, rfl⟩, rfl, ?_,
    verifyPhysicalOutcome_iff.mpr ⟨hr, verifyIntrinsicOutcome_admitted ho⟩⟩
  simp [admitted, makeReceipt, ht]

-- Any attempt may complete.
theorem exists_completed (auth : PhysicalAttemptAuthorization)
    (hr : verifyDispatchRequest spec registry plan session runner auth.request = true) :
    ∃ observation outcome,
      admitPhysicalObservation spec registry plan session runner auth observation = .ok outcome ∧
      outcome.authorization = auth ∧ outcome.receipt.transportStatus = .completed ∧
      verifyPhysicalOutcome spec registry plan session runner outcome = true := by
  have hreq := (verifyDispatchRequest_iff.mp hr).right
  have h₁ : ¬Text.Blank auth.request.sessionId := by
    rw [hreq]; exact stableId_not_blank rfl (by decide) _
  have h₂ : ¬Text.Blank auth.request.specId := by
    rw [hreq]; exact stableId_not_blank rfl (by decide) _
  have h₃ : ¬Text.Blank auth.request.specDigest := by
    rw [hreq]; exact sha256Digest_not_blank _
  have h₄ : ¬Text.Blank auth.request.runnerId := by
    rw [hreq]; exact runner.runnerId_not_blank
  let result : ResultEnvelope := {
    sessionId       := auth.request.sessionId
    specId          := auth.request.specId
    specDigest      := auth.request.specDigest
    runnerId        := auth.request.runnerId
    attempt         := auth.request.attempt
    status          := .completed
    outputArtifacts := []
    evidence        := []
    summary         := ""
    nonempty        := by simp [h₁, h₂, h₃, h₄]
    hasAttempt      := auth.request.hasAttempt }
  have ⟨observation, _, ht, ho⟩ : ∃ observation,
      observeCompleted auth result "provider-1" none = .ok observation ∧
      observation.transportStatus = .completed ∧
      verifyObservationAgainstAuthorization auth observation = true :=
    observeCompleted_bound (by simp [verifyResultBinding, result]) (by decide)
  refine ⟨observation, admitted auth observation,
    admitPhysicalObservation_eq_ok.mpr ⟨hr, ho, rfl⟩, rfl, ?_,
    verifyPhysicalOutcome_iff.mpr ⟨hr, verifyIntrinsicOutcome_admitted ho⟩⟩
  simp [admitted, makeReceipt, ht]

theorem validateStateRunner_eq_ok {u : Unit} :
    validateStateRunner state runner = .ok u ↔ Reachable runner state := by
  simp only [validateStateRunner, Except.bind_eq_ok, Py.require_eq_ok, exists_const,
    verifyCapacityState_iff_reachable]
  exact ⟨And.right, fun h => ⟨h.boundTo, h⟩⟩

-- The state that a reservation leads to.
def reservedState (state : RunnerCapacityState) (runner : RunnerCapabilities)
    (auth : PhysicalAttemptAuthorization) (slot : Nat) : RunnerCapacityState :=
  state.extend {
    change              := .reserve (proposedLease state runner auth slot)
    expectedStateDigest := state.digest }

-- The state that a release leads to.
def releasedState (state : RunnerCapacityState) (release : CapacityRelease) : RunnerCapacityState :=
  state.extend {
    change              := .release release
    expectedStateDigest := state.digest }

theorem proposeCapacityReservation_eq_ok :
    proposeCapacityReservation state spec registry plan session runner auth = .ok transition ↔
      Reachable runner state ∧
      verifyDispatchRequest spec registry plan session runner auth.request = true ∧
      state.activeLeases.length < state.maxParallelism ∧
      (∀ l ∈ state.leases, l.authorizationDigest ≠ auth.digest) ∧
      (auth.request.sessionId, auth.request.attempt) ∉ state.activeLeases.map sessionKey ∧
      retryPredecessorReleased state auth = true ∧
      ∃ slot, freeSlot state = some slot ∧ transition = {
        change              := .reserve (proposedLease state runner auth slot)
        expectedStateDigest := state.digest } := by
  simp only [proposeCapacityReservation, Except.bind_eq_ok, Py.require_eq_ok, Py.ofOption_eq_ok,
    Except.pure_eq_ok, exists_const, validateStateRunner_eq_ok]
  constructor
  · rintro ⟨h₁, h₂, _, h₃, h₄, h₅, h₆, slot, hs, rfl⟩
    exact ⟨h₁, h₂, h₃, h₄, h₅, h₆, slot, hs, rfl⟩
  · rintro ⟨h₁, h₂, h₃, h₄, h₅, h₆, slot, hs, rfl⟩
    have hr := (verifyDispatchRequest_iff.mp h₂).right
    exact ⟨h₁, h₂, by rw [hr]; exact ⟨rfl, rfl⟩, h₃, h₄, h₅, h₆, slot, hs, rfl⟩

theorem reserveCapacity_eq_ok {grant : CapacityLeaseGrant}
    (h : reserveCapacity state spec registry plan session runner auth = .ok (state', grant, transition)) :
    Reachable runner state ∧
      verifyDispatchRequest spec registry plan session runner auth.request = true ∧
      ∃ slot, grant.lease = proposedLease state runner auth slot ∧
        state.CanReserve (proposedLease state runner auth slot) ∧
        state' = reservedState state runner auth slot := by
  simp only [reserveCapacity, commitCapacityReservation, Except.bind_eq_ok, Py.require_eq_ok,
    Py.ofOption_eq_ok, applyTransitionUnchecked_eq_ok, Except.pure_eq_ok, exists_const,
    Prod.exists, Prod.mk.injEq] at h
  obtain ⟨t, ht, s, g, ⟨_, _, rfl, s', ⟨ha, rfl⟩, l, hl, rfl, rfl⟩, rfl, rfl, _⟩ := h
  obtain ⟨hr, hv, _, _, _, _, slot, _, rfl⟩ := proposeCapacityReservation_eq_ok.mp ht
  obtain rfl := Option.some.inj hl
  exact ⟨hr, hv, slot, rfl, ha.right, rfl⟩

-- A release of the exact active lease.
theorem findActiveLease_eq_ok (h : findActiveLease state lease = .ok lease') :
    (state.activeLeases.filter fun x => x.leaseId = lease.leaseId ∧ x.digest = lease.digest) =
      [lease'] := by
  rw [findActiveLease] at h
  split at h
  case h_1 x hx => rwa [← Except.pure_eq_ok.mp h]
  case h_2      => simp at h

theorem findActiveLease_mem (h : findActiveLease state lease = .ok lease') :
    lease' ∈ state.activeLeases ∧ lease'.leaseId = lease.leaseId := by
  have hm := List.mem_singleton_self lease'
  rw [← findActiveLease_eq_ok h, List.mem_filter, decide_eq_true_eq] at hm
  exact ⟨hm.left, hm.right.left⟩

theorem commitRelease_eq_ok {expected : CapacityTransition} {message : String}
    {grant : CapacityReleaseGrant}
    (h : commitRelease state expected transition message = .ok (state', grant)) :
    transition = expected ∧ state.Accepts transition ∧ state' = state.extend transition ∧
      transition.release = some grant.release := by
  simp only [commitRelease, Except.bind_eq_ok, Py.require_eq_ok, Py.ofOption_eq_ok,
    applyTransitionUnchecked_eq_ok, Except.pure_eq_ok, exists_const, Prod.mk.injEq] at h
  obtain ⟨rfl, _, ⟨ha, rfl⟩, r, hr, rfl, rfl⟩ := h
  exact ⟨rfl, ha, rfl, hr⟩

theorem releaseCapacityForOutcome_eq_ok {grant : CapacityReleaseGrant}
    (h : releaseCapacityForOutcome state spec registry plan session runner lease outcome =
      .ok (state', grant, transition)) :
    Reachable runner state ∧
      verifyPhysicalOutcome spec registry plan session runner outcome = true ∧
      ∃ active, findActiveLease state lease = .ok active ∧
        grant.release = outcomeRelease state active outcome ∧
        state.CanRelease (outcomeRelease state active outcome) ∧
        state' = releasedState state (outcomeRelease state active outcome) := by
  simp only [releaseCapacityForOutcome, commitOutcomeRelease, Except.bind_eq_ok, Except.pure_eq_ok,
    Prod.exists, Prod.mk.injEq] at h
  obtain ⟨t, ht, s, g, ⟨_, _, hc⟩, rfl, rfl, _⟩ := h
  obtain ⟨rfl, ha, rfl, hg⟩ := commitRelease_eq_ok hc
  simp only [proposeOutcomeRelease, Except.bind_eq_ok, Py.require_eq_ok, Except.pure_eq_ok,
    exists_const, validateStateRunner_eq_ok] at ht
  obtain ⟨hr, hv, active, hf, _, _, rfl⟩ := ht
  obtain hg := Option.some.inj hg
  exact ⟨hr, hv, active, hf, hg.symm, ha.right, rfl⟩

theorem releaseCapacityForRevocation_eq_ok {grant : CapacityReleaseGrant}
    (h : releaseCapacityForRevocation state runner lease revoked = .ok (state', grant, transition)) :
    Reachable runner state ∧ revoked.state = .revoked ∧
      ∃ active, findActiveLease state lease = .ok active ∧
        revoked.sessionId = active.sessionId ∧ revoked.attempt = active.logicalAttempt ∧
        state.CanRelease (revocationRelease state active revoked) ∧
        state' = releasedState state (revocationRelease state active revoked) := by
  simp only [releaseCapacityForRevocation, commitRevocationRelease, Except.bind_eq_ok,
    Except.pure_eq_ok, Prod.exists, Prod.mk.injEq] at h
  obtain ⟨t, ht, s, g, ⟨_, _, hc⟩, rfl, _⟩ := h
  obtain ⟨rfl, ha, rfl, _⟩ := commitRelease_eq_ok hc
  simp only [proposeRevocationRelease, Except.bind_eq_ok, Py.require_eq_ok, Except.pure_eq_ok,
    exists_const, validateStateRunner_eq_ok] at ht
  obtain ⟨hr, active, hf, hv, ⟨hs, hl, _⟩, rfl⟩ := ht
  exact ⟨hr, hv, active, hf, hs, hl, ha.right, rfl⟩

-- A runner without active leases takes a new attempt in its first slot.
theorem canReserve_proposedLease (hr : Reachable runner state) (ha : state.activeLeases = [])
    (hi : (proposedLease state runner auth 0).leaseId ∉ state.leases.map CapacityLease.leaseId)
    (hd : auth.digest ∉ state.leases.map CapacityLease.authorizationDigest)
    (hp : retryPredecessorReleased state auth = true) :
    state.CanReserve (proposedLease state runner auth 0) where
  snapshot         := rfl
  runnerId         := (of_decide_eq_true hr.boundTo).left.symm
  capabilityDigest := (of_decide_eq_true hr.boundTo).right.left.symm
  inRange          := state.hasSlot
  hasRoom          := by rw [ha]; exact state.hasSlot
  slotFree         := by simp [ha]
  newId            := hi
  newAuthorization := hd
  sessionFree      := by simp [ha]
  predecessor      := hp

theorem canRelease_outcomeRelease (ha : state.activeLeases = [lease]) :
    state.CanRelease (outcomeRelease state lease outcome) where
  snapshot := rfl
  names    := ⟨lease, by simp [ha, outcomeRelease], rfl, rfl, rfl, rfl, rfl, rfl, rfl, rfl⟩

namespace RunnerCapacityState.Reachable

theorem reserved {slot : Nat} (h : Reachable runner state)
    (hg : state.CanReserve (proposedLease state runner auth slot)) :
    Reachable runner (reservedState state runner auth slot) :=
  h.step <| applyTransitionUnchecked_eq_ok.mpr ⟨⟨rfl, hg⟩, rfl⟩

theorem released {release : CapacityRelease} (h : Reachable runner state)
    (hg : state.CanRelease release) : Reachable runner (releasedState state release) :=
  h.step <| applyTransitionUnchecked_eq_ok.mpr ⟨⟨rfl, hg⟩, rfl⟩

end RunnerCapacityState.Reachable

-- A runner's first lease, its release by an outcome, and then another lease.

def firstLease (runner : RunnerCapabilities) (request : AdapterDispatchRequest) : CapacityLease :=
  proposedLease (initializeCapacityState runner) runner (firstAttempt request) 0

def firstReserved (runner : RunnerCapabilities) (request : AdapterDispatchRequest) :
    RunnerCapacityState :=
  reservedState (initializeCapacityState runner) runner (firstAttempt request) 0

def firstReleased (runner : RunnerCapabilities) (request : AdapterDispatchRequest)
    (outcome : PhysicalOutcomeBundle) : RunnerCapacityState :=
  releasedState (firstReserved runner request)
    (outcomeRelease (firstReserved runner request) (firstLease runner request) outcome)

theorem firstReserved_reachable (runner : RunnerCapabilities) (request : AdapterDispatchRequest) :
    Reachable runner (firstReserved runner request) := by
  refine Reachable.initial.reserved <| canReserve_proposedLease .initial rfl ?_ ?_ ?_
  · exact List.not_mem_nil
  · exact List.not_mem_nil
  · simp [retryPredecessorReleased, predecessorReleased, firstAttempt]

theorem firstReserved_activeLeases :
    (firstReserved runner request).activeLeases = [firstLease runner request] := rfl

theorem firstReleased_reachable : Reachable runner (firstReleased runner request outcome) :=
  (firstReserved_reachable _ _).released <| canRelease_outcomeRelease firstReserved_activeLeases

theorem firstReleased_log : (firstReleased runner request outcome).log =
    [.reserve (firstLease runner request),
      .release (outcomeRelease (firstReserved runner request) (firstLease runner request) outcome)] :=
  rfl

theorem firstReleased_activeLeases : (firstReleased runner request outcome).activeLeases = [] := by
  rw [firstReleased, releasedState, RunnerCapacityState.activeLeases_release rfl,
    firstReserved_activeLeases]
  simp [outcomeRelease]

theorem retryPredecessorReleased_retryOf {request' : AdapterDispatchRequest}
    (ha : outcome.authorization = firstAttempt request)
    (ht : outcome.receipt.transportStatus ≠ .completed)
    (hs : request'.sessionId = request.sessionId) (hl : request'.attempt = request.attempt) :
    retryPredecessorReleased (firstReleased runner request outcome) (retryOf outcome request') =
      true := by
  simp only [retryPredecessorReleased, predecessorReleased, retryOf, ha, firstAttempt, hs, hl,
    RunnerCapacityState.releases, firstReleased_log]
  simp [ReservationLog.released, ReservationLog.Entry.released?, outcomeRelease, firstLease,
    proposedLease, firstAttempt, ht]

-- The second lease only has to differ from the first in its names.
theorem reservedAgain_reachable (runner : RunnerCapabilities) (request : AdapterDispatchRequest)
    (outcome : PhysicalOutcomeBundle) (auth : PhysicalAttemptAuthorization)
    (hi : (proposedLease (firstReleased runner request outcome) runner auth 0).leaseId ≠
      (firstLease runner request).leaseId)
    (hd : auth.digest ≠ (firstAttempt request).digest)
    (hp : retryPredecessorReleased (firstReleased runner request outcome) auth = true) :
    Reachable runner (reservedState (firstReleased runner request outcome) runner auth 0) := by
  refine firstReleased_reachable.reserved <|
    canReserve_proposedLease firstReleased_reachable firstReleased_activeLeases ?_ ?_ hp
  · exact fun hm => hi <| List.mem_singleton.mp hm
  · exact fun hm => hd <| List.mem_singleton.mp hm

-- A digest that tells apart the attempts of two names, for any records that carry the name.

def rankOfName (id : String) (j : Option Json) : Nat :=
  let request := j.bind fun j => j.get? "request"
  if j.bind (·.string? "invocation_id") = some id ∨ request.bind (·.string? "invocation_id") = some id
  then 1 else 0

abbrev Sha256.byName (id : String) : Sha256 :=
  .ofRank (rankOfName id)

omit [Sha256] in
theorem rankOfName_lease (id : String) (lease : CapacityLease) :
    rankOfName id (normalize (toPy lease)) = if lease.invocationId = id then 1 else 0 := by
  have hd : distinctKeys (asdict lease) = true := rfl
  have hi : (normalize (toPy lease)).get? "invocation_id" = some (.str lease.invocationId) :=
    (normalize_get? hd _).trans rfl
  have hr : (normalize (toPy lease)).get? "request" = none := (normalize_get? hd _).trans rfl
  simp [rankOfName, Json.string?, hi, hr]

omit [Sha256] in
theorem rankOfName_authorization (id : String) (auth : PhysicalAttemptAuthorization) :
    rankOfName id (normalize (toPy auth)) = if auth.request.invocationId = id then 1 else 0 := by
  have hd : distinctKeys (asdict auth) = true := rfl
  have hd' : distinctKeys (asdict auth.request) = true := rfl
  have hi : (normalize (toPy auth)).get? "invocation_id" = none := (normalize_get? hd _).trans rfl
  have hr : (normalize (toPy auth)).get? "request" = some (normalize (toPy auth.request)) :=
    (normalize_get? hd _).trans rfl
  have hi' : (normalize (toPy auth.request)).get? "invocation_id" =
    some (.str auth.request.invocationId) := (normalize_get? hd' _).trans rfl
  simp [rankOfName, Json.string?, hi, hr, hi']

-- With it, two attempts of different names differ in all their names.
omit [Sha256] in
theorem byName_lease_ne {id : String} {lease lease' : CapacityLease} (h : lease.invocationId = id)
    (h' : lease'.invocationId ≠ id) :
    let _ := Sha256.byName id
    lease.leaseId ≠ lease'.leaseId :=
  stableId_ne_of_rank "gecl" <| by
    rw [rankOfName_lease, rankOfName_lease, if_pos h, if_neg h']
    decide

omit [Sha256] in
theorem byName_authorization_ne {id : String} {auth auth' : PhysicalAttemptAuthorization}
    (h : auth.request.invocationId = id) (h' : auth'.request.invocationId ≠ id) :
    let _ := Sha256.byName id
    auth.digest ≠ auth'.digest :=
  sha256Digest_ne_of_rank <| by
    rw [rankOfName_authorization, rankOfName_authorization, if_pos h, if_neg h']
    decide

-- A running session of the reference runner, for any task.

def referenceSpec : ExecutionSpec where
  producer             := "reference-producer"
  producerRevision     := "1"
  taskKind             := "reference-probe"
  objective            := "probe"
  sourceRevision       := "1"
  requiredCapabilities := ["reference.probe"]
  allowedScopes        := []
  forbiddenActions     := []
  evidenceRequirements := ["reference-probe-digest"]
  inputs               := []
  authorityRef         := none
  metadata             := []
  nonempty             := by decide
  unique               := by decide
  uniqueKeys           := by decide

def referenceRegistry : RunnerRegistry where
  runners   := [referenceRunner]
  uniqueIds := by simp

def referencePlan (spec : ExecutionSpec) : DispatchPlan :=
  planExecution spec referenceRegistry .readOnly

def referenceSession (spec : ExecutionSpec) : ExecutionSession where
  specId                 := spec.specId
  specDigest             := spec.digest
  planId                 := (referencePlan spec).planId
  planDigest             := (referencePlan spec).digest
  runnerId               := referenceRunner.runnerId
  runnerCapabilityDigest := referenceRunner.digest
  mode                   := .readOnly
  attempt                := 1
  state                  := .running
  hasAttempt             := Nat.one_pos
  resultIffSubmitted     := by simp

theorem referencePlan_mode : (referencePlan spec).mode = .readOnly := by
  simp only [referencePlan, planExecution]
  split <;> rfl

theorem referencePlan_registryDigest :
    (referencePlan spec).registryDigest = referenceRegistry.digest := by
  simp only [referencePlan, planExecution]
  split <;> rfl

def requestOf (spec : ExecutionSpec) (id : String) (h : "gei-".toList <+: id.toList) :
    AdapterDispatchRequest :=
  requestFor spec referenceRegistry (referencePlan spec) (referenceSession spec) referenceRunner id h

abbrev referenceRequest (id : String) (h : "gei-".toList <+: id.toList) : AdapterDispatchRequest :=
  requestOf referenceSpec id h

theorem reference_binding (spec : ExecutionSpec) :
    StaticBinding spec referenceRegistry (referencePlan spec) (referenceSession spec)
      referenceRunner where
  planned          := by rw [verifyPlan, referencePlan_mode, decide_eq_true_eq]; rfl
  member           := List.mem_singleton_self _
  running          := rfl
  specId           := rfl
  specDigest       := rfl
  planId           := rfl
  planDigest       := rfl
  registryDigest   := referencePlan_registryDigest
  runnerId         := rfl
  capabilityDigest := rfl
  mode             := referencePlan_mode.symm

theorem requestOf_verified {id : String} {h : "gei-".toList <+: id.toList} :
    verifyDispatchRequest spec referenceRegistry (referencePlan spec) (referenceSession spec)
      referenceRunner (requestOf spec id h) = true :=
  verifyDispatchRequest_iff.mpr ⟨reference_binding _, rfl⟩

namespace RunnerCapacityState

-- The accepted states are those that accepted transitions lead to, and they all keep the law.
theorem verifyCapacityState_exclusive :
    (verifyCapacityState state runner = true ↔ Reachable runner state) ∧
      (verifyCapacityState state runner = true → state.Exclusive) :=
  ⟨verifyCapacityState_iff_reachable, fun h => (verifyCapacityState_iff_reachable.mp h).exclusive⟩

omit [Sha256] in
theorem verifyCapacityState_exclusive_first : let _ := Sha256.blind
    let state := firstReserved referenceRunner (referenceRequest "gei-1" (by decide))
    verifyCapacityState state referenceRunner = true ∧ state.Exclusive := by
  intro _ state
  have hv : verifyCapacityState state referenceRunner = true :=
    verifyCapacityState_exclusive.left.mpr <| firstReserved_reachable ..
  exact ⟨hv, verifyCapacityState_exclusive.right hv⟩

end RunnerCapacityState

end GeneralExecution
