import GeneralExecution.Objects.Grants
import GeneralExecution.Objects.Theorems.Ledger
import GeneralExecution.Objects.Theorems.Operations

namespace GeneralExecution

open RunnerCapacityState (Reachable CanReserve CanRelease applyTransitionUnchecked_eq_ok
  verifyCapacityState_iff_reachable)

variable [Sha256] {runner : RunnerCapabilities} {spec : ExecutionSpec} {registry : RunnerRegistry}
variable {plan : DispatchPlan} {session revoked : ExecutionSession}
variable {auth : PhysicalAttemptAuthorization} {outcome : PhysicalOutcomeBundle}
variable {state state' later current next : RunnerCapacityState} {lease active : CapacityLease}
variable {release : CapacityRelease} {transition t : CapacityTransition}
variable {transitions ts pre post : List CapacityTransition} {n generation : Nat}

-- The transitions lead from one state to another.
abbrev Replays (state : RunnerCapacityState) (ts : List CapacityTransition)
    (later : RunnerCapacityState) : Prop :=
  ts.foldlM applyTransitionUnchecked state = .ok later

theorem Replays.transitions_eq (h : Replays state ts later) :
    later.transitions = state.transitions ++ ts := by
  induction ts generalizing state with
  | nil            =>
    cases Except.ok.inj h
    rw [List.append_nil]
  | cons t ts ih =>
    have ⟨next, hn, hr⟩ := Except.bind_eq_ok.mp h
    have ⟨_, he⟩ := applyTransitionUnchecked_eq_ok.mp hn
    rw [ih hr, he, RunnerCapacityState.extend_transitions, List.append_assoc, List.singleton_append]

theorem Replays.generation_eq (h : Replays state ts later) :
    later.generation = state.generation + ts.length := by
  rw [later.counted, state.counted, h.transitions_eq, List.length_append]

-- The loop stops at the transition that leads to the generation.
theorem committedAt_of_replays (hpre : Replays current pre next)
    (ht : applyTransitionUnchecked next t = .ok state') (hn : generation = n + pre.length) :
    committedAt generation n current (pre ++ t :: post) = some (state', t) := by
  induction pre generalizing current n with
  | nil             =>
    cases Except.ok.inj hpre
    rw [List.nil_append, committedAt, ht]
    exact if_pos hn.symm
  | cons first pre ih =>
    have ⟨middle, hm, hr⟩ := Except.bind_eq_ok.mp hpre
    rw [List.cons_append, committedAt, hm]
    rw [List.length_cons] at hn
    have hne : n ≠ generation := by omega
    simp only [if_neg hne]
    exact ih hr (by omega)

-- A transition is found in every state that comes of it.
theorem committedTransition_of_replays (hs : Reachable runner state)
    (ht : applyTransitionUnchecked state transition = .ok state') (hr : Replays state' ts later) :
    committedTransitionAtGeneration later runner state'.generation = some (state', transition) := by
  have ⟨_, he⟩ := applyTransitionUnchecked_eq_ok.mp ht
  have hg : state'.generation = state.generation + 1 := by rw [he]; rfl
  have hlater := hr.generation_eq
  have htransitions : later.transitions = state.transitions ++ transition :: ts := by
    rw [hr.transitions_eq, he, RunnerCapacityState.extend_transitions, List.append_assoc,
      List.singleton_append]
  rw [committedTransitionAtGeneration, if_neg (by omega), htransitions]
  refine committedAt_of_replays hs.replays ht ?_
  rw [hg, state.counted, Nat.add_comm]

theorem Reachable_of_replays (hs : Reachable runner state)
    (ht : applyTransitionUnchecked state transition = .ok state') (hr : Replays state' ts later) :
    Reachable runner later :=
  (hs.step ht).of_replay hr

-- The lease of a transition is released by one that comes later.
def ReleasedBy (lease : CapacityLease) (ts : List CapacityTransition) : Prop :=
  ∃ t ∈ ts, ∃ release, t.change = .release release ∧ release.leaseId = lease.leaseId

theorem Replays.releases_eq (h : Replays state ts later) :
    later.releases = state.releases ++ ReservationLog.released (ts.map CapacityTransition.change) := by
  rw [RunnerCapacityState.releases, RunnerCapacityState.log, h.transitions_eq, List.map_append,
    ReservationLog.released_append]
  rfl

theorem Replays.leases_eq (h : Replays state ts later) :
    later.leases = state.leases ++ ReservationLog.reserved (ts.map CapacityTransition.change) := by
  rw [RunnerCapacityState.leases, RunnerCapacityState.log, h.transitions_eq, List.map_append,
    ReservationLog.reserved_append]
  rfl

theorem mem_released_leaseId :
    lease.leaseId ∈ (ReservationLog.released
      (ts.map CapacityTransition.change)).map CapacityRelease.leaseId ↔ ReleasedBy lease ts := by
  constructor
  case mp  =>
    intro h
    have ⟨release, hr, he⟩ := List.mem_map.mp h
    have ⟨t, ht, hc⟩ := List.mem_map.mp (ReservationLog.mem_released.mp hr)
    exact ⟨t, ht, release, hc, he⟩
  case mpr =>
    intro ⟨t, ht, release, hc, he⟩
    have hr : .release release ∈ ts.map CapacityTransition.change := hc ▸ List.mem_map_of_mem ht
    exact he ▸ List.mem_map_of_mem (ReservationLog.mem_released.mpr hr)

-- A lease stays active until it is released.
theorem mem_activeLeases_of_replays (hl : lease ∈ state.activeLeases) (hr : Replays state ts later) :
    lease ∈ later.activeLeases ↔ ¬ReleasedBy lease ts := by
  have ⟨hmem, hnot⟩ := RunnerCapacityState.mem_activeLeases.mp hl
  rw [RunnerCapacityState.mem_activeLeases, hr.leases_eq, hr.releases_eq, List.map_append,
    List.mem_append, List.mem_append, mem_released_leaseId]
  constructor
  case mp  => exact fun h hreleased => h.right (.inr hreleased)
  case mpr =>
    intro h
    refine ⟨.inl hmem, ?_⟩
    intro hreleased
    cases hreleased
    case inl hold => exact hnot hold
    case inr hnew => exact h hnew

-- Whatever a proposal returns is accepted.

-- The ids tell the values apart.
def Sha256.DistinctIds (tag : String) (values : List PyValue) : Prop :=
  ∀ v ∈ values, ∀ w ∈ values, stableId tag v = stableId tag w → canonicalJson v = canonicalJson w

omit [Sha256] in
theorem authorizationDigest_of_canonicalJson {l l' : CapacityLease}
    (h : canonicalJson (toPy l) = canonicalJson (toPy l')) :
    l.authorizationDigest = l'.authorizationDigest := by
  have hd (l : CapacityLease) : distinctKeys (asdict l) = true := rfl
  have hmember : (normalize (toPy l)).get? "authorization_digest" =
      (normalize (toPy l')).get? "authorization_digest" := by rw [canonicalJson_eq_iff.mp h]
  have hfield := ((normalize_get? (hd l) "authorization_digest").symm.trans hmember).trans
    (normalize_get? (hd l') "authorization_digest")
  simpa [asdict, Json.lookup, toPy, normalize] using hfield

theorem freeSlot_eq_some {slot : Nat} (h : freeSlot state = some slot) :
    slot < state.maxParallelism ∧ slot ∉ state.activeLeases.map CapacityLease.slot := by
  have hmem := List.mem_of_find?_eq_some h
  have hfree := List.find?_some h
  exact ⟨List.mem_range.mp hmem, of_decide_eq_true hfree⟩

theorem proposeCapacityReservation_accepted
    (h : proposeCapacityReservation state spec registry plan session runner auth = .ok transition)
    (hid : Sha256.DistinctIds "gecl" ((state.extend transition).leases.map toPy)) :
    ∃ slot, transition.change = .reserve (proposedLease state runner auth slot) ∧
      state.CanReserve (proposedLease state runner auth slot) ∧
      applyTransitionUnchecked state transition = .ok (state.extend transition) := by
  have ⟨hr, _, hroom, hnew, hsession, hpred, slot, hslot, ht⟩ :=
    proposeCapacityReservation_eq_ok.mp h
  have hc : transition.change = .reserve (proposedLease state runner auth slot) := by rw [ht]
  have ⟨hlt, hfree⟩ := freeSlot_eq_some hslot
  have hbound := of_decide_eq_true hr.boundTo
  rw [RunnerCapacityState.extend_leases_reserve hc] at hid
  have hg : state.CanReserve (proposedLease state runner auth slot) := by
    constructor
    case snapshot         => rfl
    case runnerId         => exact hbound.left.symm
    case capabilityDigest => exact hbound.right.left.symm
    case inRange          => exact hlt
    case hasRoom          => exact hroom
    case slotFree         => exact hfree
    case newId            =>
      intro hmem
      have ⟨l, hl, he⟩ := List.mem_map.mp hmem
      have hsame := hid (toPy l) (List.mem_map_of_mem (List.mem_append_left _ hl))
        (toPy (proposedLease state runner auth slot)) (List.mem_map_of_mem (by simp)) he
      exact hnew l hl (authorizationDigest_of_canonicalJson hsame)
    case newAuthorization =>
      intro hmem
      have ⟨l, hl, he⟩ := List.mem_map.mp hmem
      exact hnew l hl he
    case sessionFree      => exact hsession
    case predecessor      => exact hpred
  refine ⟨slot, hc, hg, applyTransitionUnchecked_eq_ok.mpr ⟨?_, rfl⟩⟩
  rw [ht]
  exact ⟨rfl, hg⟩

-- The release of an active lease that has been found.
theorem canRelease_of_findActiveLease (hf : findActiveLease state lease = .ok active)
    (hs : release.expectedStateDigest = state.digest) (hi : release.leaseId = active.leaseId)
    (hsame : SameIdentity active release) : state.CanRelease release := by
  refine ⟨hs, active, ?_, hsame⟩
  have hmem := List.mem_singleton_self active
  rw [← findActiveLease_eq_ok hf, List.mem_filter, decide_eq_true_eq] at hmem
  rw [hi, hsame.leaseDigest, hmem.right.left, hmem.right.right]
  exact findActiveLease_eq_ok hf

theorem applyTransition_release (hg : state.CanRelease release) (hc : transition.change = .release release)
    (he : transition.expectedStateDigest = state.digest) :
    applyTransitionUnchecked state transition = .ok (state.extend transition) := by
  refine applyTransitionUnchecked_eq_ok.mpr ⟨⟨he, ?_⟩, rfl⟩
  rw [hc]
  exact hg

theorem proposeOutcomeRelease_accepted
    (h : proposeOutcomeRelease state spec registry plan session runner lease outcome =
      .ok transition) :
    Reachable runner state ∧ ∃ release, transition.change = .release release ∧
      applyTransitionUnchecked state transition = .ok (state.extend transition) := by
  simp only [proposeOutcomeRelease, Except.bind_eq_ok, Py.require_eq_ok, Except.pure_eq_ok,
    exists_const, validateStateRunner_eq_ok] at h
  obtain ⟨hr, _, active, hf, _, _, ht⟩ := h
  have hg : state.CanRelease (outcomeRelease state active outcome) :=
    canRelease_of_findActiveLease hf rfl rfl ⟨rfl, rfl, rfl, rfl, rfl, rfl, rfl, rfl⟩
  rw [← ht]
  exact ⟨hr, _, rfl, applyTransition_release hg rfl rfl⟩

theorem proposeRevocationRelease_accepted
    (h : proposeRevocationRelease state runner lease revoked = .ok transition) :
    Reachable runner state ∧ ∃ release, transition.change = .release release ∧
      applyTransitionUnchecked state transition = .ok (state.extend transition) := by
  simp only [proposeRevocationRelease, Except.bind_eq_ok, Py.require_eq_ok, Except.pure_eq_ok,
    exists_const, validateStateRunner_eq_ok] at h
  obtain ⟨hr, active, hf, _, _, ht⟩ := h
  have hg : state.CanRelease (revocationRelease state active revoked) :=
    canRelease_of_findActiveLease hf rfl rfl ⟨rfl, rfl, rfl, rfl, rfl, rfl, rfl, rfl⟩
  rw [← ht]
  exact ⟨hr, _, rfl, applyTransition_release hg rfl rfl⟩

-- The grants that a commit issues.

def leaseGrant (lease : CapacityLease) (transition : CapacityTransition)
    (state' : RunnerCapacityState) : CapacityLeaseGrant where
  lease                       := lease
  reservationTransitionDigest := transition.digest
  committedStateDigest        := state'.digest
  committedGeneration         := state'.generation

def releaseGrant (release : CapacityRelease) (transition : CapacityTransition)
    (state' : RunnerCapacityState) : CapacityReleaseGrant where
  release                 := release
  releaseTransitionDigest := transition.digest
  committedStateDigest    := state'.digest
  committedGeneration     := state'.generation

theorem verifyActiveLeaseGrant_iff (hs : Reachable runner state) (hg : state.CanReserve lease)
    (hc : transition.change = .reserve lease)
    (ht : applyTransitionUnchecked state transition = .ok state') (hr : Replays state' ts later) :
    verifyActiveLeaseGrant later runner (leaseGrant lease transition state') = true ↔
      ¬ReleasedBy lease ts := by
  have hlater := verifyCapacityState_iff_reachable.mpr (Reachable_of_replays hs ht hr)
  have ⟨_, he⟩ := applyTransitionUnchecked_eq_ok.mp ht
  have hactive : lease ∈ state'.activeLeases := by
    rw [he, hs.activeLeases_reserve hc hg]
    exact List.mem_append_right _ (List.mem_singleton_self _)
  have hlease : transition.lease = some lease := by
    rw [CapacityTransition.lease, hc]
    rfl
  rw [← mem_activeLeases_of_replays hactive hr, verifyActiveLeaseGrant, hlater, Bool.true_and]
  simp only [leaseGrant, committedTransition_of_replays hs ht hr, hlease, decide_eq_true_eq,
    true_and]

theorem verifyCapacityReleaseGrant_of_replays (hs : Reachable runner state)
    (hc : transition.change = .release release)
    (ht : applyTransitionUnchecked state transition = .ok state') (hr : Replays state' ts later) :
    verifyCapacityReleaseGrant later runner (releaseGrant release transition state') = true := by
  have hlater := verifyCapacityState_iff_reachable.mpr (Reachable_of_replays hs ht hr)
  have ⟨_, he⟩ := applyTransitionUnchecked_eq_ok.mp ht
  have hmem : release ∈ later.releases := by
    rw [hr.releases_eq, he, RunnerCapacityState.extend_releases_release hc]
    simp
  have hrelease : transition.release = some release := by
    rw [CapacityTransition.release, hc]
    rfl
  rw [verifyCapacityReleaseGrant, hlater, Bool.true_and]
  simp only [releaseGrant, committedTransition_of_replays hs ht hr, hrelease, decide_eq_true_eq,
    true_and]
  exact hmem

-- A reservation is accepted, and its grant holds until the lease is released.
def LeaseGranted (runner : RunnerCapabilities) (state : RunnerCapacityState)
    (transition : CapacityTransition) (commit : Py (RunnerCapacityState × CapacityLeaseGrant)) :
    Prop :=
  ∃ state' grant, applyTransitionUnchecked state transition = .ok state' ∧
    verifyCapacityState state' runner = true ∧ commit = .ok (state', grant) ∧
      ∀ ts later, Replays state' ts later →
        (verifyActiveLeaseGrant later runner grant = true ↔ ¬ReleasedBy grant.lease ts)

-- A release is accepted, and its grant holds for good.
def ReleaseGranted (runner : RunnerCapabilities) (state : RunnerCapacityState)
    (transition : CapacityTransition) (commit : Py (RunnerCapacityState × CapacityReleaseGrant)) :
    Prop :=
  ∃ state' grant, applyTransitionUnchecked state transition = .ok state' ∧
    verifyCapacityState state' runner = true ∧ commit = .ok (state', grant) ∧
      ∀ ts later, Replays state' ts later → verifyCapacityReleaseGrant later runner grant = true

theorem commitRelease_granted {message : String} (hs : Reachable runner state)
    (hc : transition.change = .release release)
    (ht : applyTransitionUnchecked state transition = .ok (state.extend transition)) :
    ReleaseGranted runner state transition (commitRelease state transition transition message) := by
  have hrelease : transition.release = some release := by
    rw [CapacityTransition.release, hc]
    rfl
  refine ⟨_, releaseGrant release transition (state.extend transition), ht,
    verifyCapacityState_iff_reachable.mpr (hs.step ht), ?_, ?_⟩
  case refine_1 =>
    simp only [commitRelease, Py.require_of, ht, hrelease, Except.ok_bind]
    rfl
  case refine_2 => exact fun ts later hr => verifyCapacityReleaseGrant_of_replays hs hc ht hr

theorem commitCapacityReservation_granted
    (h : proposeCapacityReservation state spec registry plan session runner auth = .ok transition)
    (hid : Sha256.DistinctIds "gecl" ((state.extend transition).leases.map toPy)) :
    LeaseGranted runner state transition
      (commitCapacityReservation state spec registry plan session runner auth transition) := by
  have hs := (proposeCapacityReservation_eq_ok.mp h).left
  have ⟨slot, hc, hg, ht⟩ := proposeCapacityReservation_accepted h hid
  have hlease : transition.lease = some (proposedLease state runner auth slot) := by
    rw [CapacityTransition.lease, hc]
    rfl
  refine ⟨_, leaseGrant (proposedLease state runner auth slot) transition (state.extend transition),
    ht, verifyCapacityState_iff_reachable.mpr (hs.step ht), ?_, ?_⟩
  case refine_1 =>
    simp only [commitCapacityReservation, h, Py.require_of, ht, hlease, Except.ok_bind]
    rfl
  case refine_2 => exact fun ts later hr => verifyActiveLeaseGrant_iff hs hg hc ht hr

-- Whatever is proposed is accepted, and the grants follow what happens to the lease.
theorem proposals_granted (runner : RunnerCapabilities) (state : RunnerCapacityState) :
    (∀ spec registry plan session auth transition,
      proposeCapacityReservation state spec registry plan session runner auth = .ok transition →
      Sha256.DistinctIds "gecl" ((state.extend transition).leases.map toPy) →
      LeaseGranted runner state transition
        (commitCapacityReservation state spec registry plan session runner auth transition)) ∧
    (∀ spec registry plan session lease outcome transition,
      proposeOutcomeRelease state spec registry plan session runner lease outcome =
        .ok transition →
      ReleaseGranted runner state transition
        (commitOutcomeRelease state spec registry plan session runner lease outcome
          transition)) ∧
    (∀ lease revoked transition,
      proposeRevocationRelease state runner lease revoked = .ok transition →
      ReleaseGranted runner state transition
        (commitRevocationRelease state runner lease revoked transition)) := by
  refine ⟨?_, ?_, ?_⟩
  case refine_1 =>
    intro spec registry plan session auth transition h hid
    exact commitCapacityReservation_granted h hid
  case refine_2 =>
    intro spec registry plan session lease outcome transition h
    have ⟨hs, release, hc, ht⟩ := proposeOutcomeRelease_accepted h
    rw [commitOutcomeRelease, h, Except.ok_bind]
    exact commitRelease_granted hs hc ht
  case refine_3 =>
    intro lease revoked transition h
    have ⟨hs, release, hc, ht⟩ := proposeRevocationRelease_accepted h
    rw [commitRevocationRelease, h, Except.ok_bind]
    exact commitRelease_granted hs hc ht

omit [Sha256] in
theorem proposals_granted_first :
    let _ := Sha256.blind
    let state := initializeCapacityState referenceRunner
    let auth := firstAttempt (referenceRequest "gei-1" (by decide))
    ∃ transition, LeaseGranted referenceRunner state transition
      (commitCapacityReservation state referenceSpec referenceRegistry (referencePlan referenceSpec)
        (referenceSession referenceSpec) referenceRunner auth transition) := by
  intro _ state auth
  let transition : CapacityTransition := {
    change              := .reserve (proposedLease state referenceRunner auth 0)
    expectedStateDigest := state.digest }
  have hpred : retryPredecessorReleased state auth = true := by
    simp [retryPredecessorReleased, predecessorReleased, auth, firstAttempt]
  have h : proposeCapacityReservation state referenceSpec referenceRegistry
      (referencePlan referenceSpec) (referenceSession referenceSpec) referenceRunner auth =
        .ok transition :=
    proposeCapacityReservation_eq_ok.mpr ⟨.initial, requestOf_verified, state.hasSlot,
      List.forall_mem_nil _, List.not_mem_nil, hpred, 0, rfl, rfl⟩
  have hleases : (state.extend transition).leases = [proposedLease state referenceRunner auth 0] :=
    rfl
  have hid : Sha256.DistinctIds "gecl" ((state.extend transition).leases.map toPy) := by
    rw [hleases]
    intro v hv w hw _
    rw [List.mem_singleton.mp hv, List.mem_singleton.mp hw]
  exact ⟨transition,
    (proposals_granted referenceRunner state).left _ _ _ _ _ transition h hid⟩

end GeneralExecution
