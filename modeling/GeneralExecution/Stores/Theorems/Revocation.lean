import GeneralExecution.Stores.SessionRecovery
import GeneralExecution.Stores.Theorems.DispatchRecovery

namespace GeneralExecution

open RunnerCapacityState (Reachable CanRelease applyTransitionUnchecked_eq_ok
  verifyCapacityState_iff_reachable)

variable [Sha256] {s s' : Stores} {runner : RunnerCapabilities} {spec : ExecutionSpec}
variable {registry : RunnerRegistry} {plan : DispatchPlan} {session revoked : ExecutionSession}
variable {auth : PhysicalAttemptAuthorization} {state state' : RunnerCapacityState}
variable {lease : CapacityLease} {release : CapacityRelease} {attempt : Nat}

-- The session that the plan binds is this one, but for its state.
structure ExecutionSession.OfPlan (session : ExecutionSession) (spec : ExecutionSpec)
    (plan : DispatchPlan) (runner : RunnerCapabilities) : Prop where
  assigned      : plan.runnerId = some runner.runnerId ∧
    plan.runnerCapabilityDigest = some runner.digest
  specId        : session.specId = spec.specId
  specDigest    : session.specDigest = spec.digest
  planId        : session.planId = plan.planId
  planDigest    : session.planDigest = plan.digest
  mode          : session.mode = plan.mode
  schemaVersion : session.schemaVersion = "ge.execution-session.v1"

omit [Sha256] in
theorem bound_noResult :
    (none : Option String).isSome ↔ SessionState.bound = SessionState.resultSubmitted := by
  simp

-- The session that a plan which assigns the runner binds.
def boundSession (spec : ExecutionSpec) (plan : DispatchPlan) (runner : RunnerCapabilities)
    (attempt : Nat) (h : 1 ≤ attempt) : ExecutionSession where
  specId                 := spec.specId
  specDigest             := spec.digest
  planId                 := plan.planId
  planDigest             := plan.digest
  runnerId               := runner.runnerId
  runnerCapabilityDigest := runner.digest
  mode                   := plan.mode
  attempt                := attempt
  hasAttempt             := h
  resultIffSubmitted     := bound_noResult

theorem bindSession_eq_ok {bound : ExecutionSession} :
    (bindSession spec registry plan attempt = .ok bound ∧
      bound.runnerId = runner.runnerId ∧ bound.runnerCapabilityDigest = runner.digest) ↔
    verifyPlan spec registry plan = true ∧
      (plan.runnerId = some runner.runnerId ∧ plan.runnerCapabilityDigest = some runner.digest) ∧
      ∃ h, bound = boundSession spec plan runner attempt h := by
  rw [bindSession]
  cases hr : plan.runnerId <;> cases hc : plan.runnerCapabilityDigest
  case some.some =>
    simp only [Except.bind_eq_ok, Py.require_eq_ok, exists_const, Except.pure_eq_ok,
      Option.some.injEq]
    constructor
    · rintro ⟨⟨hv, ⟨h⟩, _, rfl⟩, rfl, rfl⟩
      exact ⟨hv, ⟨rfl, rfl⟩, h, rfl⟩
    · rintro ⟨hv, ⟨rfl, rfl⟩, h, rfl⟩
      exact ⟨⟨hv, ⟨h⟩, Py.check_of h, rfl⟩, rfl, rfl⟩
  all_goals simp [Except.bind_eq_ok]

-- The session of the plan once it runs, and once it is revoked.

def runningSession (spec : ExecutionSpec) (plan : DispatchPlan) (runner : RunnerCapabilities)
    (attempt : Nat) (h : 1 ≤ attempt) : ExecutionSession :=
  { boundSession spec plan runner attempt h with
    state              := .running
    resultIffSubmitted := by simp [boundSession] }

def revokedSession (spec : ExecutionSpec) (plan : DispatchPlan) (runner : RunnerCapabilities)
    (attempt : Nat) (h : 1 ≤ attempt) : ExecutionSession :=
  { boundSession spec plan runner attempt h with
    state              := .revoked
    resultIffSubmitted := by simp [boundSession] }

theorem startSession_bound {h : 1 ≤ attempt} :
    startSession (boundSession spec plan runner attempt h) =
      .ok (runningSession spec plan runner attempt h) :=
  rfl

theorem revokeSession_running {h : 1 ≤ attempt} :
    revokeSession (runningSession spec plan runner attempt h) =
      .ok (revokedSession spec plan runner attempt h) :=
  rfl

theorem ExecutionSession.OfPlan.eq_revoked {h : 1 ≤ revoked.attempt}
    (ho : revoked.OfPlan spec plan runner) (hs : revoked.state = .revoked)
    (hr : revoked.runnerId = runner.runnerId)
    (hc : revoked.runnerCapabilityDigest = runner.digest) :
    revoked = revokedSession spec plan runner revoked.attempt h := by
  have hn : revoked.resultDigest = none := revoked.no_result (by simp [hs])
  cases revoked
  simp only [revokedSession, boundSession, ExecutionSession.mk.injEq]
  exact ⟨ho.specId, ho.specDigest, ho.planId, ho.planDigest, hr, hc, ho.mode, trivial, hs, hn,
    ho.schemaVersion⟩

-- A projection only has to be of physical attempts, and of a head that has a digest.
theorem projection_of {status : ProjectionStatus} {headDigest : String} {count : Nat}
    {latest : Option Nat} {details : ProjectionDetails} (hl : ∀ n ∈ latest, 1 ≤ n)
    (hh : IsSha256Shaped headDigest) :
    ∃ p, projection runner session status state headDigest count latest details = .ok p ∧
      p.status = status ∧ p.projectedState = session.state := by
  have h : ∀ x ∈ [("projected_session_digest", session.digest),
      ("capacity_state_digest", state.digest), ("capacity_head_digest", headDigest)],
      IsSha256Shaped x.2 := by
    simp only [List.mem_cons, List.not_mem_nil, or_false, forall_eq_or_imp, forall_eq]
    exact ⟨(isSha256_sha256Digest _).shaped, (isSha256_sha256Digest _).shaped, hh⟩
  simp only [projection, Py.check_of session.hasAttempt, Py.check_of hl, checkAll_of h,
    Except.ok_bind]
  exact ⟨_, rfl, rfl, rfl⟩

section Released

variable (h : Reachable runner state) (hl : lease ∈ state.activeLeases)

include h hl

theorem sessionActiveLeases_released (hr : release.leaseId = lease.leaseId) :
    sessionActiveLeases (releasedState state release) lease.sessionId lease.logicalAttempt = [] := by
  rw [sessionActiveLeases, releasedState, RunnerCapacityState.activeLeases_release rfl,
    List.filter_filter, List.filter_eq_nil_iff]
  intro l hm hk
  simp only [Bool.and_eq_true, decide_eq_true_eq] at hk
  have hkey : sessionKey l = sessionKey lease := Prod.ext hk.left.left hk.left.right
  have he := List.inj_on_of_nodup_map h.exclusive.sessions hm hl hkey
  exact hk.right (he ▸ hr.symm)

end Released

theorem sessionTransitions_released (hs : release.sessionId = lease.sessionId)
    (ha : release.logicalAttempt = lease.logicalAttempt) :
    sessionTransitions (releasedState state release) lease.sessionId lease.logicalAttempt =
      sessionTransitions state lease.sessionId lease.logicalAttempt ++
        [{ change := .release release, expectedStateDigest := state.digest }] := by
  simp [sessionTransitions, releasedState, List.filter_append, transitionIdentity, hs, ha]

omit [Sha256] in
-- The latest attempt of a session is one, when any of its transitions is about one.
theorem latestAttempt_released {transitions : List CapacityTransition}
    {t : CapacityTransition} (ht : t ∈ transitions) (h : 1 ≤ (transitionIdentity t).2.2) :
    ∀ n ∈ (transitions.map fun t => (transitionIdentity t).2.2).max?, 1 ≤ n := by
  intro n hn
  have hm := (List.max?_eq_some_iff.mp hn).right _ <| List.mem_map_of_mem ht
  exact Nat.le_trans h hm

-- What the release of a revoked session is projected as, if it is or is not of that session.
structure SessionRecoveryProjection.Revocation (p : SessionRecoveryProjection) (same : Prop) :
    Prop where
  coherent     : same → p.status = .coherent ∧ p.projectedState = .revoked
  inconsistent : ¬same → p.status = .inconsistent

theorem SessionRecoveryProjection.Revocation.coherent_iff {p : SessionRecoveryProjection}
    {same : Prop} (h : p.Revocation same) :
    p.status = .coherent ∧ p.projectedState = .revoked ↔ same := by
  refine ⟨fun ⟨hc, _⟩ => by_contra fun hn => ?_, h.coherent⟩
  have := hc.symm.trans <| h.inconsistent hn
  contradiction

theorem projectRevoked_of {ctx : RecoveryContext} {h : 1 ≤ attempt}
    (hr : ctx.running = runningSession spec plan runner attempt h)
    (hl : ∀ n ∈ ctx.latestPhysicalAttempt, 1 ≤ n) (hh : IsSha256Shaped ctx.capacityHeadDigest) :
    ∃ p, ctx.projectRevoked release = .ok p ∧ p.Revocation
      (release.revokedSessionDigest = some (revokedSession spec plan runner attempt h).digest) := by
  simp only [RecoveryContext.projectRevoked, hr, revokeSession_running, Except.ok_bind]
  split
  case isTrue hn =>
    exact (projection_of hl hh).imp fun p ⟨hp, hs, _⟩ => ⟨hp, fun h => absurd h hn, fun _ => hs⟩
  case isFalse hd =>
    exact (projection_of hl hh).imp fun p ⟨hp, hs, hst⟩ =>
      ⟨hp, fun _ => ⟨hs, hst⟩, fun hn => absurd (not_not.mp hd) hn⟩

theorem projectSession_run_revoked (hreach : Reachable runner state)
    (hl : lease ∈ state.activeLeases) (hid : release.leaseId = lease.leaseId)
    (hrel : SameIdentity lease release) (hk : release.releaseKind = .sessionRevoked)
    (hv : verifyPlan spec registry plan = true)
    (ha : plan.runnerId = some runner.runnerId ∧ plan.runnerCapabilityDigest = some runner.digest)
    (hs : (boundSession spec plan runner lease.logicalAttempt lease.hasAttempts.left).sessionId =
      lease.sessionId)
    (hc : s.HoldsHead runner (releasedState state release)) (hd : s.IntentsDecode) :
    ∃ p, (projectSessionAfterRestart spec registry plan runner lease.logicalAttempt).run s =
        (.ok p, s) ∧
      p.Revocation (release.revokedSessionDigest = some
        (revokedSession spec plan runner lease.logicalAttempt lease.hasAttempts.left).digest) := by
  have hb := (bindSession_eq_ok.mpr ⟨hv, ha, lease.hasAttempts.left, rfl⟩).left
  obtain ⟨row, hrow, hdec⟩ := hc
  have hload : (CapacityHeadStore.load runner).run s =
      (.ok (releasedState state release, headOf (releasedState state release) row.snapshotDigest),
        s) := by
    rw [CapacityHeadStore.load, Program.bind_run, StoreCall.query_run]
    simp only [hrow]
    rw [hdec, Program.lift_run]
  obtain ⟨states, hst, _⟩ := DispatchIntentStore.loadForRunner_run hd runner.runnerId
  have hreach' : Reachable runner (releasedState state release) :=
    Stores.HoldsHead.reachable ⟨row, hrow, hdec⟩
  have htrans : sessionTransitions (releasedState state release) _ _ = _ :=
    sessionTransitions_released hrel.sessionId hrel.logicalAttempt
  have hactive := sessionActiveLeases_released hreach hl hid
  let ctx : RecoveryContext := {
    spec, registry, plan, runner
    running               :=
      runningSession spec plan runner lease.logicalAttempt lease.hasAttempts.left
    capacityState         := releasedState state release
    capacityHeadDigest    := (headOf (releasedState state release) row.snapshotDigest).digest
    transitions           := sessionTransitions (releasedState state release) lease.sessionId
      lease.logicalAttempt
    latestPhysicalAttempt := ((sessionTransitions (releasedState state release) lease.sessionId
      lease.logicalAttempt).map fun t => (transitionIdentity t).2.2).max?
    dispatchStates        := states.filter fun state =>
      state.intent.sessionId = lease.sessionId ∧
        state.intent.logicalAttempt = lease.logicalAttempt }
  have hlatest : ∀ n ∈ ctx.latestPhysicalAttempt, 1 ≤ n := by
    refine latestAttempt_released (htrans ▸ List.mem_append_right _ (List.mem_singleton_self _)) ?_
    exact lease.hasAttempts.right.trans_eq hrel.physicalAttempt.symm
  obtain ⟨p, hp, hrev⟩ : ∃ p, ctx.projectRevoked release = .ok p ∧ _ :=
    projectRevoked_of rfl hlatest (isSha256_sha256Digest _).shaped
  refine ⟨p, ?_, hrev⟩
  rw [projectSessionAfterRestart]
  refine Program.bind_run_ok.mpr ⟨(), s, ?_, Program.bind_run_ok.mpr ⟨(), s, ?_,
    Program.bind_run_ok.mpr ⟨_, s, congrArg (·, s) hb, Program.bind_run_ok.mpr ⟨(), s, ?_,
      Program.bind_run_ok.mpr ⟨_, s, congrArg (·, s) startSession_bound, ?_⟩⟩⟩⟩⟩
  · exact congrArg (·, s) (Py.require_eq_ok.mpr lease.hasAttempts.left)
  · exact congrArg (·, s) (Py.require_eq_ok.mpr hv)
  · exact congrArg (·, s) (Py.require_eq_ok.mpr ⟨rfl, rfl⟩)
  refine Program.bind_run_ok.mpr ⟨(releasedState state release,
    headOf (releasedState state release) row.snapshotDigest), s, ?_,
    Program.bind_run_ok.mpr ⟨(), s, ?_, ?_⟩⟩
  · rw [Program.tryCatch_run, hload]
  · exact congrArg (·, s) (Py.require_eq_ok.mpr (verifyCapacityState_iff_reachable.mpr hreach'))
  simp only [hs, hactive]
  refine Program.bind_run_ok.mpr ⟨(), s, congrArg (·, s) (Py.require_eq_ok.mpr (by simp)),
    Program.bind_run_ok.mpr ⟨_, s, Program.bind_run_ok.mpr ⟨states, s, hst, rfl⟩, ?_⟩⟩
  rw [if_neg (by simp [htrans])]
  have hlast : (ctx.transitions.filterMap CapacityTransition.release).getLast? = some release := by
    simp [ctx, htrans, CapacityTransition.release, ReservationLog.Entry.released?]
  change ctx.projectReleased.run s = _
  simp only [RecoveryContext.projectReleased, hlast, hk]
  exact congrArg (·, s) hp

-- Nothing is projected on a runner that the plan does not assign.
theorem projectSession_run_assigned {p : SessionRecoveryProjection}
    (h : (projectSessionAfterRestart spec registry plan runner attempt).run s = (.ok p, s')) :
    plan.runnerId = some runner.runnerId ∧ plan.runnerCapabilityDigest = some runner.digest := by
  obtain ⟨_, _, _, h⟩ := Program.bind_run_ok.mp h
  obtain ⟨_, _, _, h⟩ := Program.bind_run_ok.mp h
  obtain ⟨bound, _, hb, h⟩ := Program.bind_run_ok.mp h
  obtain ⟨_, _, hr, _⟩ := Program.bind_run_ok.mp h
  have hb' : bindSession spec registry plan attempt = .ok bound := congrArg Prod.fst hb
  have hr' := Py.require_eq_ok.mp (congrArg Prod.fst hr)
  exact (bindSession_eq_ok.mp ⟨hb', hr'⟩).right.left

theorem ofPlan_revokedSession {h : 1 ≤ attempt}
    (ha : plan.runnerId = some runner.runnerId ∧ plan.runnerCapabilityDigest = some runner.digest)
    (he : revoked = revokedSession spec plan runner attempt h) : revoked.OfPlan spec plan runner := by
  rw [he]
  exact ⟨ha, rfl, rfl, rfl, rfl, rfl, rfl⟩

-- What the release of an active lease of a revoked session has checked, and what it leads to.
structure RevocationReleased (state state' : RunnerCapacityState) (runner : RunnerCapabilities)
    (lease : CapacityLease) (revoked : ExecutionSession) : Prop where
  reachable        : Reachable runner state
  isRevoked        : revoked.state = .revoked
  sessionId        : revoked.sessionId = lease.sessionId
  attempt          : revoked.attempt = lease.logicalAttempt
  runnerId         : revoked.runnerId = lease.runnerId
  capabilityDigest : revoked.runnerCapabilityDigest = lease.runnerCapabilityDigest
  result           : state' = releasedState state (revocationRelease state lease revoked)

theorem releaseCapacityForRevocation_of_active {grant : CapacityReleaseGrant}
    {transition : CapacityTransition} (hl : lease ∈ state.activeLeases)
    (h : releaseCapacityForRevocation state runner lease revoked =
      .ok (state', grant, transition)) : RevocationReleased state state' runner lease revoked := by
  have ⟨hr, hs, active, hf, _, _, _, he⟩ := releaseCapacityForRevocation_eq_ok h
  obtain rfl := Except.ok.inj <| (findActiveLease_of_active hr hl).symm.trans hf
  simp only [releaseCapacityForRevocation, Except.bind_eq_ok] at h
  obtain ⟨_, hp, _⟩ := h
  simp only [proposeRevocationRelease, Except.bind_eq_ok, Py.require_eq_ok, exists_const, hf,
    Except.ok.injEq, exists_eq_left'] at hp
  obtain ⟨_, _, _, ⟨h₁, h₂, h₃, h₄⟩, _⟩ := hp
  exact ⟨hr, hs, h₁, h₂, h₃, h₄, he⟩

-- A lease that is reserved for a plan has the identity of the session that the plan binds, if the
-- plan assigns the lease's runner.
theorem boundSession_sessionId {h : 1 ≤ session.attempt}
    (hb : StaticBinding spec registry plan session runner) :
    (boundSession spec plan runner session.attempt h).sessionId = session.sessionId := by
  simp only [ExecutionSession.sessionId, ExecutionSession.identity, boundSession, hb.specDigest,
    hb.planDigest, hb.runnerId, hb.capabilityDigest, hb.mode]

-- A lease that was reserved for the session of a plan.
structure CapacityLease.ReservedFor (lease : CapacityLease) (spec : ExecutionSpec)
    (registry : RunnerRegistry) (plan : DispatchPlan) (session : ExecutionSession)
    (runner : RunnerCapabilities) : Prop where
  binding          : StaticBinding spec registry plan session runner
  sessionId        : lease.sessionId = session.sessionId
  attempt          : lease.logicalAttempt = session.attempt
  runnerId         : lease.runnerId = runner.runnerId
  capabilityDigest : lease.runnerCapabilityDigest = runner.digest

theorem reserveCapacity_reservedFor {grant : CapacityLeaseGrant} {transition : CapacityTransition}
    (h : reserveCapacity state spec registry plan session runner auth =
      .ok (state', grant, transition)) :
    grant.lease.ReservedFor spec registry plan session runner := by
  have ⟨_, hv, slot, hg, _⟩ := reserveCapacity_eq_ok h
  have ⟨hb, hr⟩ := verifyDispatchRequest_iff.mp hv
  rw [hg]
  exact ⟨hb, congrArg AdapterDispatchRequest.sessionId hr, congrArg AdapterDispatchRequest.attempt hr,
    rfl, rfl⟩

-- The projection that follows the release of a lease of a plan is of a revoked session exactly if
-- the session that was passed is the one of the plan. `hash` is about the two sessions whose digests
-- the projection compares.
theorem revocation_projected_iff {state₀ state₁ : RunnerCapacityState}
    {grant : CapacityLeaseGrant} {released : CapacityReleaseGrant} {t t' : CapacityTransition}
    (hreserve : reserveCapacity state₀ spec registry plan session runner auth =
      .ok (state₁, grant, t))
    (hactive : grant.lease ∈ state.activeLeases)
    (hrelease : releaseCapacityForRevocation state runner grant.lease revoked =
      .ok (state', released, t'))
    (hhead : s.HoldsHead runner state') (hdec : s.IntentsDecode)
    (hash : ∀ h, revoked.digest = (revokedSession spec plan runner revoked.attempt h).digest →
      revoked = revokedSession spec plan runner revoked.attempt h) :
    (∃ p, (projectSessionAfterRestart spec registry plan runner grant.lease.logicalAttempt).run s =
        (.ok p, s) ∧ p.status = .coherent ∧ p.projectedState = .revoked) ↔
      revoked.OfPlan spec plan runner := by
  have hl := reserveCapacity_reservedFor hreserve
  have hr := releaseCapacityForRevocation_of_active hactive hrelease
  have hattempt : 1 ≤ grant.lease.logicalAttempt := grant.lease.hasAttempts.left
  have hbound : (boundSession spec plan runner grant.lease.logicalAttempt hattempt).sessionId =
      grant.lease.sessionId := by
    simp only [hl.attempt, hl.sessionId]
    exact boundSession_sessionId hl.binding
  have hrevoked : revokedSession spec plan runner grant.lease.logicalAttempt hattempt =
      revokedSession spec plan runner revoked.attempt revoked.hasAttempt := by
    simp only [hr.attempt]
  obtain rfl := hr.result
  constructor
  · rintro ⟨p, hp, hs⟩
    have ha := projectSession_run_assigned hp
    have ⟨p', hp', hrev⟩ := projectSession_run_revoked hr.reachable hactive rfl
      ⟨rfl, rfl, rfl, rfl, rfl, rfl, rfl, rfl⟩ rfl hl.binding.planned ha hbound hhead hdec
    obtain rfl : p = p' := Except.ok.inj <| congrArg Prod.fst <| hp.symm.trans hp'
    have hd := Option.some.inj <| hrev.coherent_iff.mp hs
    have he := hash revoked.hasAttempt <| hd.trans <| congrArg _ hrevoked
    exact ofPlan_revokedSession ha he
  · intro ho
    have ⟨p, hp, hrev⟩ := projectSession_run_revoked hr.reachable hactive rfl
      ⟨rfl, rfl, rfl, rfl, rfl, rfl, rfl, rfl⟩ rfl hl.binding.planned ho.assigned hbound hhead hdec
    refine ⟨p, hp, hrev.coherent <| congrArg some ?_⟩
    rw [hrevoked]
    exact congrArg _ <| ho.eq_revoked hr.isRevoked (hr.runnerId.trans hl.runnerId)
      (hr.capabilityDigest.trans hl.capabilityDigest)

-- A runner's first lease, reserved for a session and released because the session was revoked.
section FirstRevocation

variable {request : AdapterDispatchRequest}

def firstRevoked (runner : RunnerCapabilities) (request : AdapterDispatchRequest)
    (revoked : ExecutionSession) : RunnerCapacityState :=
  releasedState (firstReserved runner request)
    (revocationRelease (firstReserved runner request) (firstLease runner request) revoked)

theorem canRelease_revocationRelease (ha : state.activeLeases = [lease]) :
    state.CanRelease (revocationRelease state lease revoked) where
  snapshot := rfl
  names    := ⟨lease, by simp [ha, revocationRelease], rfl, rfl, rfl, rfl, rfl, rfl, rfl, rfl⟩

theorem referencePlan_assigned :
    (referencePlan referenceSpec).runnerId = some referenceRunner.runnerId ∧
      (referencePlan referenceSpec).runnerCapabilityDigest = some referenceRunner.digest := by
  have hc : referenceRegistry.runners.filter (compatible referenceSpec .readOnly) =
      [referenceRunner] := rfl
  simp only [referencePlan, planExecution, hc, List.mergeSort_singleton, and_self]

theorem freeSlot_first : freeSlot (initializeCapacityState runner) = some 0 := by
  have h : 0 < (initializeCapacityState runner).maxParallelism := runner.hasSlot
  have ⟨n, hn⟩ := Nat.exists_eq_succ_of_ne_zero h.ne'
  rw [freeSlot, hn, List.range_succ_eq_map]
  rfl

theorem reserveCapacity_first
    (hv : verifyDispatchRequest spec registry plan session runner request = true) :
    ∃ grant t, reserveCapacity (initializeCapacityState runner) spec registry plan session runner
      (firstAttempt request) = .ok (firstReserved runner request, grant, t) ∧
        grant.lease = firstLease runner request := by
  let t : CapacityTransition := {
    change              := .reserve (firstLease runner request)
    expectedStateDigest := (initializeCapacityState runner).digest }
  have hp : proposeCapacityReservation (initializeCapacityState runner) spec registry plan session
      runner (firstAttempt request) = .ok t := by
    refine proposeCapacityReservation_eq_ok.mpr
      ⟨.initial, hv, runner.hasSlot, nofun, nofun, ?_, 0, freeSlot_first, rfl⟩
    simp [retryPredecessorReleased, predecessorReleased, firstAttempt]
  have ha : applyTransitionUnchecked (initializeCapacityState runner) t =
      .ok (firstReserved runner request) := by
    refine applyTransitionUnchecked_eq_ok.mpr ⟨⟨rfl, ?_⟩, rfl⟩
    refine canReserve_proposedLease .initial rfl List.not_mem_nil List.not_mem_nil ?_
    simp [retryPredecessorReleased, predecessorReleased, firstAttempt]
  simp only [reserveCapacity, commitCapacityReservation, hp, ha, Except.ok_bind, Py.require]
  exact ⟨_, _, rfl, rfl⟩

-- Any revoked session that has the lease's names releases it.
theorem releaseCapacityForRevocation_first (hs : revoked.state = .revoked)
    (hid : revoked.sessionId = request.sessionId) (ha : revoked.attempt = request.attempt)
    (hr : revoked.runnerId = runner.runnerId) (hc : revoked.runnerCapabilityDigest = runner.digest) :
    ∃ released t, releaseCapacityForRevocation (firstReserved runner request) runner
      (firstLease runner request) revoked =
        .ok (firstRevoked runner request revoked, released, t) := by
  have hreach := firstReserved_reachable runner request
  have hf := findActiveLease_of_active hreach (firstReserved_activeLeases ▸ List.mem_singleton_self _)
  let t : CapacityTransition := {
    change              := .release
      (revocationRelease (firstReserved runner request) (firstLease runner request) revoked)
    expectedStateDigest := (firstReserved runner request).digest }
  have hp : proposeRevocationRelease (firstReserved runner request) runner
      (firstLease runner request) revoked = .ok t := by
    simp only [proposeRevocationRelease, Except.bind_eq_ok, Py.require_eq_ok, exists_const,
      validateStateRunner_eq_ok, hf, Except.ok.injEq, exists_eq_left']
    exact ⟨hreach, hs, ⟨hid, ha, hr, hc⟩, rfl⟩
  have ha : applyTransitionUnchecked (firstReserved runner request) t =
      .ok ((firstReserved runner request).extend t) := by
    exact applyTransitionUnchecked_eq_ok.mpr
      ⟨⟨rfl, canRelease_revocationRelease firstReserved_activeLeases⟩, rfl⟩
  simp only [releaseCapacityForRevocation, commitRevocationRelease, commitRelease, hp, ha,
    Except.ok_bind, Py.require]
  exact ⟨_, _, rfl⟩

theorem exists_firstRevocation (runner : RunnerCapabilities) (request : AdapterDispatchRequest)
    (revoked : ExecutionSession) :
    ∃ s : Stores, s.HoldsHead runner (firstRevoked runner request revoked) ∧ s.IntentsDecode := by
  have ⟨_, s, _, _, _, _, hh, hi, _⟩ := CapacityHeadStore.exists_firstReserved runner request
  have hs : (firstRevoked runner request revoked).Supported :=
    releasedState_supported (reservedState_supported initializeCapacityState_supported) rfl
  have hreach : Reachable runner (firstRevoked runner request revoked) :=
    (firstReserved_reachable _ _).released <| canRelease_revocationRelease firstReserved_activeLeases
  have hv := verifyCapacityState_iff_reachable.mpr hreach
  have ⟨s', _, hw⟩ := CapacityHeadStore.commit_run hh RunnerCapacityState.extend_succeeds hs hv
  refine ⟨s', hw.holds hs hv, fun id row hr => ?_⟩
  have hn : s'.intent? id = none := by rw [Stores.intent?, hw.intents, hi]; rfl
  rw [hn] at hr
  contradiction

-- A revoked session with the names of the lease's session releases it, and the projection compares
-- the revoked session with the one of the plan.
theorem exists_revocation (request : AdapterDispatchRequest) (revoked : ExecutionSession)
    (hv : verifyDispatchRequest spec registry plan session runner request = true)
    (hp : plan.runnerId = some runner.runnerId ∧ plan.runnerCapabilityDigest = some runner.digest)
    (hs : revoked.state = .revoked) (hid : revoked.sessionId = request.sessionId)
    (ha : revoked.attempt = request.attempt) (hr : revoked.runnerId = runner.runnerId)
    (hc : revoked.runnerCapabilityDigest = runner.digest) :
    ∃ state state' grant released t t' s,
      reserveCapacity (initializeCapacityState runner) spec registry plan session runner
        (firstAttempt request) = .ok (state, grant, t) ∧
      grant.lease ∈ state.activeLeases ∧
      releaseCapacityForRevocation state runner grant.lease revoked = .ok (state', released, t') ∧
      s.HoldsHead runner state' ∧ s.IntentsDecode ∧
      ∃ p, (projectSessionAfterRestart spec registry plan runner grant.lease.logicalAttempt).run s =
          (.ok p, s) ∧
        p.Revocation (revoked.digest =
          (revokedSession spec plan runner request.attempt request.hasAttempt).digest) := by
  have ⟨hb, hreq⟩ := verifyDispatchRequest_iff.mp hv
  have ⟨grant, t, hreserve, hg⟩ := reserveCapacity_first hv
  have hl : firstLease runner request ∈ (firstReserved runner request).activeLeases :=
    firstReserved_activeLeases ▸ List.mem_singleton_self _
  have ⟨released, t', hrelease⟩ := releaseCapacityForRevocation_first hs hid ha hr hc
  have ⟨s, hh, hd⟩ := exists_firstRevocation runner request revoked
  have hbound : (boundSession spec plan runner request.attempt request.hasAttempt).sessionId =
      request.sessionId := by
    rw [hreq]
    exact boundSession_sessionId hb
  have ⟨p, hrun, hrev⟩ := projectSession_run_revoked (firstReserved_reachable runner request) hl rfl
    ⟨rfl, rfl, rfl, rfl, rfl, rfl, rfl, rfl⟩ rfl hb.planned hp hbound hh hd
  refine ⟨firstReserved runner request, firstRevoked runner request revoked, grant, released, t, t',
    s, hreserve, ?_⟩
  rw [hg]
  refine ⟨hl, hrelease, hh, hd, p, hrun, fun he => hrev.coherent <| congrArg some he, fun hn => ?_⟩
  exact hrev.inconsistent fun he => hn <| Option.some.inj he

-- The session of the plan, under another plan id.
def otherPlanSession (spec : ExecutionSpec) (plan : DispatchPlan) (runner : RunnerCapabilities)
    (planId : String) : ExecutionSession :=
  { revokedSession spec plan runner 1 Nat.one_pos with
    planId             := planId
    resultIffSubmitted := (revokedSession spec plan runner 1 Nat.one_pos).resultIffSubmitted }

theorem otherPlanSession_sessionId (planId : String) :
    (otherPlanSession referenceSpec (referencePlan referenceSpec) referenceRunner planId).sessionId =
      (referenceRequest "gei-1" (by decide)).sessionId :=
  boundSession_sessionId (h := le_rfl) (reference_binding referenceSpec)

theorem referencePlan_planId_ne : "another-plan" ≠ (referencePlan referenceSpec).planId := by
  intro he
  have hh := congrArg (fun id => id.toList.head?) he
  change _ = (stableId "gep" _).toList.head? at hh
  rw [stableId_toList] at hh
  simp at hh

end FirstRevocation

omit [Sha256] in
theorem revocation_projected_iff_reference : let _ := Sha256.blind
    ∃ s : Stores, (∃ p, (projectSessionAfterRestart referenceSpec referenceRegistry
          (referencePlan referenceSpec) referenceRunner 1).run s = (.ok p, s) ∧
        p.status = .coherent ∧ p.projectedState = .revoked) ↔
      (revokedSession referenceSpec (referencePlan referenceSpec) referenceRunner 1 Nat.one_pos).OfPlan
        referenceSpec (referencePlan referenceSpec) referenceRunner := by
  intro _
  have hid := boundSession_sessionId (h := Nat.le_refl 1) (reference_binding referenceSpec)
  have ⟨state, state', grant, released, t, t', s, h₁, h₂, h₃, h₄, h₅, _⟩ :=
    exists_revocation (referenceRequest "gei-1" (by decide))
      (revokedSession referenceSpec (referencePlan referenceSpec) referenceRunner 1 le_rfl)
      requestOf_verified referencePlan_assigned rfl hid rfl rfl rfl
  have ha : grant.lease.logicalAttempt = 1 := (reserveCapacity_reservedFor h₁).attempt
  refine ⟨s, ?_⟩
  rw [← revocation_projected_iff h₁ h₂ h₃ h₄ h₅ fun _ _ => rfl, ha]

-- A digest that tells apart the records of two plan ids.

def rankOfPlanId (id : String) (j : Option Json) : Nat :=
  if j.bind (·.string? "plan_id") = some id then 1 else 0

abbrev Sha256.byPlanId (id : String) : Sha256 :=
  .ofRank (rankOfPlanId id)

omit [Sha256] in
theorem rankOfPlanId_session (id : String) (session : ExecutionSession) :
    rankOfPlanId id (normalize (toPy session)) = if session.planId = id then 1 else 0 := by
  have hd : distinctKeys (asdict session) = true := rfl
  have hi : (normalize (toPy session)).get? "plan_id" = some (.str session.planId) :=
    (normalize_get? hd _).trans rfl
  simp [rankOfPlanId, Json.string?, hi]

omit [Sha256] in
theorem byPlanId_session_ne {id : String} {session session' : ExecutionSession}
    (h : session.planId = id) (h' : session'.planId ≠ id) :
    let _ := Sha256.byPlanId id
    session.digest ≠ session'.digest :=
  sha256Digest_ne_of_rank <| by
    rw [rankOfPlanId_session, rankOfPlanId_session, if_pos h, if_neg h']
    decide

omit [Sha256] in
-- The release accepts a session with another plan id, which leaves the lease's session inconsistent.
theorem revocation_of_otherPlan : let _ := Sha256.byPlanId "another-plan"
    ∃ state state' grant released t t' s p,
      reserveCapacity (initializeCapacityState referenceRunner) referenceSpec referenceRegistry
        (referencePlan referenceSpec) (referenceSession referenceSpec) referenceRunner
        (firstAttempt (referenceRequest "gei-1" (by decide))) = .ok (state, grant, t) ∧
      grant.lease ∈ state.activeLeases ∧
      releaseCapacityForRevocation state referenceRunner grant.lease
        (otherPlanSession referenceSpec (referencePlan referenceSpec) referenceRunner
          "another-plan") = .ok (state', released, t') ∧
      s.HoldsHead referenceRunner state' ∧ s.IntentsDecode ∧
      (projectSessionAfterRestart referenceSpec referenceRegistry (referencePlan referenceSpec)
        referenceRunner grant.lease.logicalAttempt).run s = (.ok p, s) ∧
      p.status = .inconsistent := by
  let _ := Sha256.byPlanId "another-plan"
  have ⟨state, state', grant, released, t, t', s, h₁, h₂, h₃, h₄, h₅, p, hp, hrev⟩ :=
    exists_revocation (referenceRequest "gei-1" (by decide))
      (otherPlanSession referenceSpec (referencePlan referenceSpec) referenceRunner "another-plan")
      requestOf_verified referencePlan_assigned rfl (otherPlanSession_sessionId _) rfl rfl rfl
  refine ⟨state, state', grant, released, t, t', s, p, h₁, h₂, h₃, h₄, h₅, hp, ?_⟩
  exact hrev.inconsistent <| byPlanId_session_ne rfl referencePlan_planId_ne.symm

end GeneralExecution
