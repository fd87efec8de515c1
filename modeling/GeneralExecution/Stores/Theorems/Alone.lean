import GeneralExecution.Objects.Theorems.Operations
import GeneralExecution.Stores.Theorems.Dispatch

namespace GeneralExecution

open RunnerCapacityState (Reachable verifyCapacityState_iff_reachable)

variable [Sha256] {s s' : Stores} {runner : RunnerCapabilities} {state : DispatchIntentState}
variable {capacity cur new : RunnerCapacityState} {lease : CapacityLease} {intent : DispatchIntent}
variable {record : DurableObservedOutcome} {row : ObservedOutcomeRow} {id : String}
variable {spec : ExecutionSpec} {registry : RunnerRegistry} {plan : DispatchPlan}
variable {session : ExecutionSession} {auth : PhysicalAttemptAuthorization}

-- The lease was reserved for this authorization on this runner.
structure CapacityLease.Of (lease : CapacityLease) (runner : RunnerCapabilities)
    (auth : PhysicalAttemptAuthorization) : Prop where
  runnerId                : lease.runnerId = runner.runnerId
  capabilityDigest        : lease.runnerCapabilityDigest = runner.digest
  authorizationId         : lease.authorizationId = auth.authorizationId
  authorizationDigest     : lease.authorizationDigest = auth.digest
  invocationId            : lease.invocationId = auth.request.invocationId
  physicalAttempt         : lease.physicalAttempt = auth.physicalAttempt
  sessionId               : lease.sessionId = auth.request.sessionId
  logicalAttempt          : lease.logicalAttempt = auth.request.attempt
  previousInvocationId    : lease.previousInvocationId = auth.previousInvocationId
  previousReceiptDigest   : lease.previousReceiptDigest = auth.previousReceiptDigest
  requestRunnerId         : auth.request.runnerId = runner.runnerId
  requestCapabilityDigest : auth.request.runnerCapabilityDigest = runner.digest
  requestSessionId        : auth.request.sessionId ≠ ""

theorem proposedLease_of {slot : Nat}
    (h : verifyDispatchRequest spec registry plan session runner auth.request = true) :
    (proposedLease capacity runner auth slot).Of runner auth := by
  have hr := (verifyDispatchRequest_iff.mp h).right
  have hs : auth.request.sessionId ≠ "" := by
    rw [hr]
    exact Text.ne_empty_of_not_blank <| stableId_not_blank rfl (by decide) _
  exact ⟨rfl, rfl, rfl, rfl, rfl, rfl, rfl, rfl, rfl, rfl, by rw [hr]; rfl, by rw [hr]; rfl, hs⟩

-- The names of active leases are distinct, so a lease is found by its own.
theorem filter_activeLeases (h : Reachable runner capacity) (hl : lease ∈ capacity.activeLeases) :
    (capacity.activeLeases.filter fun x => x.leaseId = lease.leaseId ∧ x.digest = lease.digest) =
      [lease] := by
  have hn := h.exclusive.leaseIds.sublist <|
    (List.filter_sublist : capacity.activeLeases.Sublist capacity.leases).map _
  refine ReservationLog.filter_eq_singleton hn.of_map hl fun x hx => ?_
  rw [decide_eq_true_eq]
  exact ⟨fun he => List.inj_on_of_nodup_map hn hx hl he.left, fun he => he ▸ ⟨rfl, rfl⟩⟩

theorem findDispatchLease_of_active (h : Reachable runner capacity)
    (hl : lease ∈ capacity.activeLeases) :
    findDispatchLease capacity lease.leaseId lease.digest = .ok lease := by
  rw [findDispatchLease, filter_activeLeases h hl]
  rfl

theorem findActiveLease_of_active (h : Reachable runner capacity)
    (hl : lease ∈ capacity.activeLeases) : findActiveLease capacity lease = .ok lease := by
  rw [findActiveLease, filter_activeLeases h hl]
  rfl

-- The intent that is prepared for a lease.
structure DispatchIntent.For (intent : DispatchIntent) (capacity : RunnerCapacityState)
    (lease : CapacityLease) (auth : PhysicalAttemptAuthorization) : Prop where
  runnerId            : intent.runnerId = lease.runnerId
  capabilityDigest    : intent.runnerCapabilityDigest = lease.runnerCapabilityDigest
  leaseId             : intent.leaseId = lease.leaseId
  leaseDigest         : intent.leaseDigest = lease.digest
  slot                : intent.slot = lease.slot
  sessionId           : intent.sessionId = lease.sessionId
  logicalAttempt      : intent.logicalAttempt = lease.logicalAttempt
  authorizationId     : intent.authorizationId = lease.authorizationId
  authorizationDigest : intent.authorizationDigest = lease.authorizationDigest
  invocationId        : intent.invocationId = lease.invocationId
  physicalAttempt     : intent.physicalAttempt = lease.physicalAttempt
  requestDigest       : intent.requestDigest = auth.request.digest
  capacityStateDigest : intent.capacityStateDigest = capacity.digest
  schemaVersion       : intent.schemaVersion = "ge.dispatch-intent.v1"

theorem prepareDispatchIntent_of_active (h : Reachable runner capacity)
    (hl : lease ∈ capacity.activeLeases) (ha : lease.Of runner auth) :
    ∃ intent, prepareDispatchIntent capacity runner lease auth = .ok intent ∧
      intent.For capacity lease auth := by
  have hnonempty : ∀ x ∈ [("runner_id", runner.runnerId),
      ("runner_capability_digest", runner.digest), ("lease_id", lease.leaseId),
      ("lease_digest", lease.digest), ("session_id", lease.sessionId),
      ("authorization_id", lease.authorizationId), ("authorization_digest", auth.digest),
      ("invocation_id", auth.request.invocationId), ("request_digest", auth.request.digest),
      ("capacity_state_digest", capacity.digest)], x.2 ≠ "" := by
    simp only [List.mem_cons, List.not_mem_nil, or_false, forall_eq_or_imp, forall_eq]
    refine ⟨Text.ne_empty_of_not_blank runner.runnerId_not_blank, sha256Digest_ne_empty _,
      Text.ne_empty_of_not_blank <| stableId_not_blank rfl (by decide) _, sha256Digest_ne_empty _,
      ha.sessionId ▸ ha.requestSessionId, ?_, sha256Digest_ne_empty _,
      auth.request.invocationId_nonempty, sha256Digest_ne_empty _, sha256Digest_ne_empty _⟩
    rw [ha.authorizationId]
    exact Text.ne_empty_of_not_blank <| stableId_not_blank rfl (by decide) _
  have hattempts : 1 ≤ lease.logicalAttempt ∧ 1 ≤ auth.physicalAttempt :=
    ⟨lease.hasAttempts.left, auth.hasAttempt⟩
  let intent : DispatchIntent := {
    runnerId               := runner.runnerId
    runnerCapabilityDigest := runner.digest
    leaseId                := lease.leaseId
    leaseDigest            := lease.digest
    slot                   := lease.slot
    sessionId              := lease.sessionId
    logicalAttempt         := lease.logicalAttempt
    authorizationId        := lease.authorizationId
    authorizationDigest    := auth.digest
    invocationId           := auth.request.invocationId
    requestDigest          := auth.request.digest
    physicalAttempt        := auth.physicalAttempt
    capacityStateDigest    := capacity.digest
    hasAttempts            := hattempts
    nonempty               := hnonempty }
  refine ⟨intent, ?_, ?_⟩
  · simp only [prepareDispatchIntent, Except.bind_eq_ok, Py.require_eq_ok, exists_const]
    exact ⟨verifyCapacityState_iff_reachable.mpr h, lease, findDispatchLease_of_active h hl, rfl,
      ⟨ha.runnerId, ha.capabilityDigest, ha.authorizationId, ha.authorizationDigest, ha.invocationId,
        ha.physicalAttempt, ha.sessionId, ha.logicalAttempt, ha.requestRunnerId,
        ha.requestCapabilityDigest⟩, DispatchIntent.new_eq intent⟩
  · exact ⟨ha.runnerId.symm, ha.capabilityDigest.symm, rfl, rfl, rfl, rfl, rfl, rfl,
      ha.authorizationDigest.symm, ha.invocationId.symm, ha.physicalAttempt.symm, rfl, rfl, rfl⟩

-- An intent stays valid while its lease is active.
theorem validateIntentAgainstCapacity_of_active {capacity' : RunnerCapacityState}
    (h : Reachable runner capacity') (hl : lease ∈ capacity'.activeLeases)
    (ha : lease.Of runner auth) (hi : intent.For capacity lease auth) :
    validateIntentAgainstCapacity intent capacity' runner = .ok lease := by
  simp only [validateIntentAgainstCapacity, Except.bind_eq_ok, Py.require_eq_ok, exists_const,
    Except.pure_eq_ok]
  refine ⟨verifyCapacityState_iff_reachable.mpr h, ?_, lease, ?_, ?_, rfl⟩
  · exact ⟨hi.runnerId.trans ha.runnerId, hi.capabilityDigest.trans ha.capabilityDigest⟩
  · rw [hi.leaseId, hi.leaseDigest]
    exact findDispatchLease_of_active h hl
  · exact ⟨hi.authorizationId.symm, hi.authorizationDigest.symm, hi.invocationId.symm,
      hi.physicalAttempt.symm, hi.sessionId.symm, hi.logicalAttempt.symm⟩

namespace DispatchIntentStore

theorem initializeIntent_run (hi : s.intent? intent.intentId = none)
    (hl : s.dispatchIntents.select DispatchIntentRow.leaseId intent.leaseId = none) :
    ∃ s', (initializeIntent intent).run s = (.ok (initialDispatchState intent), s') ∧
      s.WritesIntent s' (initialDispatchState intent) := by
  have ⟨s', h⟩ := initializeStatements_of_fresh hi hl
  refine ⟨s', Program.transaction_run_ok.mpr h, ?_⟩
  rcases (initializeStatements_eq_ok h).right with ⟨⟨_, hr, _⟩, _⟩ | ⟨_, hw⟩
  · simp [hi] at hr
  · exact hw

theorem load_run (hs : s.HoldsIntent id state) : (load id).run s = (.ok state, s) := by
  have ⟨row, hr, hd⟩ := hs
  rw [load, Program.bind_run, StoreCall.query_run]
  simp only [hr]
  rw [hd, Program.lift_run]

theorem capacityHead_run (hc : s.HoldsHead runner capacity) :
    (capacityHead runner).run s = (.ok capacity, s) := by
  have ⟨head, hl⟩ := CapacityHeadStore.load_run hc
  rw [capacityHead, Program.tryCatch_run, Program.bind_run, hl]
  rfl

theorem beginSubmission_run (hs : s.HoldsIntent id state) (hp : state.status = .prepared)
    (hc : s.HoldsHead runner capacity)
    (hv : validateIntentAgainstCapacity state.intent capacity runner = .ok lease) :
    ∃ permit s', (beginSubmission id state.digest runner).run s =
        (.ok (submissionUnknownState state, permit), s') ∧
      dispatchPermit (submissionUnknownState state) = .ok permit ∧
      s.WritesIntent s' (submissionUnknownState state) := by
  have ⟨permit, hpermit⟩ : ∃ permit, dispatchPermit (submissionUnknownState state) = .ok permit :=
    ⟨_, Except.bind_eq_ok.mpr ⟨(), Py.require_eq_ok.mpr rfl, rfl⟩⟩
  have hs' : s.HoldsIntent state.intent.intentId state := hs.intentId.symm ▸ hs
  have ⟨s', hcommit⟩ : ∃ s', commitStatements state (submissionUnknownState state) s =
      .ok (submissionUnknownState state, s') := commitStatements_of_current hs'
  have hrev : state.revision = 0 := by rw [state.revision_eq, hp]; rfl
  refine ⟨permit, s', ?_, hpermit, (commitStatements_eq_ok hcommit rfl).right.right⟩
  simp only [beginSubmission, commit, Program.bind_run_ok, Program.lift_run, Program.pure_run,
    Prod.mk.injEq, Py.require_eq_ok, Program.transaction_run_ok]
  exact ⟨state, s, load_run hs, (), s, ⟨rfl, rfl⟩, (), s, ⟨hp, rfl⟩, capacity, s,
    capacityHead_run hc, lease, s, ⟨hv, rfl⟩, submissionUnknownState state, s',
    ⟨(), s, ⟨rfl, rfl⟩, (), s, ⟨⟨by rw [hrev]; rfl, rfl⟩, rfl⟩, hcommit⟩, permit, s', ⟨hpermit, rfl⟩,
    rfl, rfl⟩

end DispatchIntentStore

-- A runner's first lease is committed, and an intent is prepared for it and submitted.
structure FirstSubmission (runner : RunnerCapabilities) (request : AdapterDispatchRequest)
    (intent : DispatchIntent) (permit : DispatchPermit) (s₁ s₂ s₃ s : Stores) : Prop where
  prepared    : prepareDispatchIntent (firstReserved runner request) runner
    (firstLease runner request) (firstAttempt request) = .ok intent
  isFor       : intent.For (firstReserved runner request) (firstLease runner request)
    (firstAttempt request)
  genesis     : ∃ head, (CapacityHeadStore.initializeHead runner (initializeCapacityState runner)).run
    .empty = (.ok head, s₁)
  reserved    : ∃ head, (CapacityHeadStore.commit runner (initializeCapacityState runner).digest
    (firstReserved runner request)).run s₁ = (.ok head, s₂)
  initialized : (DispatchIntentStore.initializeIntent intent).run s₂ =
    (.ok (initialDispatchState intent), s₃)
  submitted   : (DispatchIntentStore.beginSubmission intent.intentId
    (initialDispatchState intent).digest runner).run s₃ =
    (.ok (submissionUnknownState (initialDispatchState intent), permit), s)
  permitted   : dispatchPermit (submissionUnknownState (initialDispatchState intent)) = .ok permit
  head        : s.HoldsHead runner (firstReserved runner request)
  holds       : s.HoldsIntent intent.intentId
    (submissionUnknownState (initialDispatchState intent))
  outcomes    : s.observedOutcomes = .empty

theorem exists_firstSubmission (request : AdapterDispatchRequest)
    (hr : verifyDispatchRequest spec registry plan session runner request = true) :
    ∃ intent permit s₁ s₂ s₃ s, FirstSubmission runner request intent permit s₁ s₂ s₃ s := by
  let capacity := firstReserved runner request
  have hreach : Reachable runner capacity := firstReserved_reachable ..
  have hof : (firstLease runner request).Of runner (firstAttempt request) := proposedLease_of hr
  have hl : firstLease runner request ∈ capacity.activeLeases := by
    rw [firstReserved_activeLeases]
    exact List.mem_singleton_self _
  obtain ⟨intent, hprep, hfor⟩ := prepareDispatchIntent_of_active hreach hl hof
  obtain ⟨s₁, s₂, _, _, h₁, h₂, hs₂, hi, ho⟩ := CapacityHeadStore.exists_firstReserved runner request
  obtain ⟨s₃, h₃, hw₃⟩ : ∃ s₃, (DispatchIntentStore.initializeIntent intent).run s₂ =
      (.ok (initialDispatchState intent), s₃) ∧ s₂.WritesIntent s₃ (initialDispatchState intent) :=
    DispatchIntentStore.initializeIntent_run (by rw [Stores.intent?, hi]; rfl) (by rw [hi]; rfl)
  have hs₃ := hw₃.holds ⟨rfl, hfor.schemaVersion⟩
  have hc₃ : s₃.HoldsHead runner capacity := hs₂.congr (by rw [Stores.head?, Stores.head?, hw₃.heads])
  obtain ⟨permit, s, h₄, hp, hw⟩ := DispatchIntentStore.beginSubmission_run hs₃ rfl hc₃ <|
    validateIntentAgainstCapacity_of_active hreach hl hof hfor
  exact ⟨intent, permit, s₁, s₂, s₃, s, {
    prepared    := hprep
    isFor       := hfor
    genesis     := ⟨_, h₁⟩
    reserved    := ⟨_, h₂⟩
    initialized := h₃
    submitted   := h₄
    permitted   := hp
    head        := hc₃.congr (by rw [Stores.head?, Stores.head?, hw.heads])
    holds       := hw.holds ⟨rfl, hfor.schemaVersion⟩
    outcomes    := hw.outcomes.trans <| hw₃.outcomes.trans ho }⟩

end GeneralExecution
