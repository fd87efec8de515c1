import GeneralExecution.Stores.Theorems.Durable

namespace GeneralExecution

open RunnerCapacityState (Reachable applyTransitionUnchecked_eq_ok
  verifyCapacityState_iff_reachable)

variable [Sha256] {runner runner' : RunnerCapabilities} {state state' : RunnerCapacityState}

-- The states that the operations take a runner's capacity to. Each call is free in its context, also
-- in the runner that it is given.
inductive Operated (runner : RunnerCapabilities) : RunnerCapacityState → Prop
  | initial : Operated runner (initializeCapacityState runner)
  | reserved {state state' spec registry plan session caller auth grant transition} :
    Operated runner state →
    reserveCapacity state spec registry plan session caller auth =
      .ok (state', grant, transition) →
    Operated runner state'
  | outcomeReleased {state state' spec registry plan session caller lease outcome grant transition} :
    Operated runner state →
    releaseCapacityForOutcome state spec registry plan session caller lease outcome =
      .ok (state', grant, transition) →
    Operated runner state'
  | revocationReleased {state state' caller lease revoked grant transition} :
    Operated runner state →
    releaseCapacityForRevocation state caller lease revoked = .ok (state', grant, transition) →
    Operated runner state'

namespace Operated

-- Only the identity, the digest and the parallelism of the calling runner enter a state, and these
-- are those of the state's own runner.
theorem reachable (h : Operated runner state) : Reachable runner state := by
  induction h
  case initial => exact .initial
  case reserved hc ih =>
    have ⟨_, _, _, _, hg, he⟩ := reserveCapacity_eq_ok hc
    exact ih.step <| applyTransitionUnchecked_eq_ok.mpr ⟨⟨rfl, hg⟩, he⟩
  case outcomeReleased hc ih =>
    have ⟨_, _, _, _, _, hg, he⟩ := releaseCapacityForOutcome_eq_ok hc
    rw [he]
    exact ih.released hg
  case revocationReleased hc ih =>
    have ⟨_, _, _, _, _, _, hg, he⟩ := releaseCapacityForRevocation_eq_ok hc
    rw [he]
    exact ih.released hg

theorem supported (h : Operated runner state) : state.Supported := by
  induction h
  case initial => exact initializeCapacityState_supported
  case reserved hc ih =>
    have ⟨_, _, _, _, _, he⟩ := reserveCapacity_eq_ok hc
    rw [he]
    exact reservedState_supported ih
  case outcomeReleased hc ih =>
    have ⟨_, _, _, _, _, _, he⟩ := releaseCapacityForOutcome_eq_ok hc
    rw [he]
    exact releasedState_supported ih rfl
  case revocationReleased hc ih =>
    have ⟨_, _, _, _, _, _, _, he⟩ := releaseCapacityForRevocation_eq_ok hc
    rw [he]
    exact releasedState_supported ih rfl

theorem deserialize_serialize (h : Operated runner state) :
    deserializeCapacitySnapshot (serializeCapacitySnapshot state) runner =
      .ok (state, snapshotDigest state) := by
  have hv := verifyCapacityState_iff_reachable.mpr h.reachable
  exact deserializeCapacitySnapshot_serialize.mpr ⟨h.supported, hv, rfl, rfl⟩

-- The text determines the state, whoever's capacity it is.
theorem eq_of_serialize (h : Operated runner state) (h' : Operated runner' state')
    (ht : serializeCapacitySnapshot state' = serializeCapacitySnapshot state) : state' = state :=
  deserializeCapacitySnapshot_state (ht ▸ h'.deserialize_serialize) h.deserialize_serialize

end Operated

-- Whatever the operations lead to is read back from its snapshot, with the digest of the snapshot,
-- and has the snapshot of no other state.
theorem capacitySnapshot_roundTrip (runner : RunnerCapabilities) (state : RunnerCapacityState)
    (h : Operated runner state) :
    deserializeCapacitySnapshot (serializeCapacitySnapshot state) runner =
        .ok (state, sha256Digest (.dict (snapshotPayload state))) ∧
      ∀ runner' state', Operated runner' state' →
        serializeCapacitySnapshot state' = serializeCapacitySnapshot state → state' = state :=
  ⟨h.deserialize_serialize, fun _ _ h' ht => h.eq_of_serialize h' ht⟩

-- The first lease of a runner, as its reservation leaves it.
theorem firstReserved_operated :
    Operated referenceRunner
      (firstReserved referenceRunner (referenceRequest "gei-1" (by decide))) := by
  let state := initializeCapacityState referenceRunner
  let auth := firstAttempt (referenceRequest "gei-1" (by decide))
  let transition : CapacityTransition := {
    change              := .reserve (proposedLease state referenceRunner auth 0)
    expectedStateDigest := state.digest }
  have hpred : retryPredecessorReleased state auth = true := by
    simp [retryPredecessorReleased, predecessorReleased, auth, firstAttempt]
  have h : proposeCapacityReservation state referenceSpec referenceRegistry
      (referencePlan referenceSpec) (referenceSession referenceSpec) referenceRunner auth = .ok transition :=
    proposeCapacityReservation_eq_ok.mpr ⟨.initial, requestOf_verified, state.hasSlot,
      List.forall_mem_nil _, List.not_mem_nil, hpred, 0, rfl, rfl⟩
  have hg : state.CanReserve (proposedLease state referenceRunner auth 0) :=
    canReserve_proposedLease .initial rfl List.not_mem_nil List.not_mem_nil hpred
  have ht : applyTransitionUnchecked state transition = .ok (state.extend transition) :=
    applyTransitionUnchecked_eq_ok.mpr ⟨⟨rfl, hg⟩, rfl⟩
  apply Operated.initial.reserved
  rw [reserveCapacity, h, Except.ok_bind, commitCapacityReservation, h, Except.ok_bind,
    Py.require_of rfl, Except.ok_bind, ht]
  rfl

omit [Sha256] in
theorem capacitySnapshot_roundTrip_first : let _ := Sha256.blind
    let state := firstReserved referenceRunner (referenceRequest "gei-1" (by decide))
    deserializeCapacitySnapshot (serializeCapacitySnapshot state) referenceRunner =
        .ok (state, sha256Digest (.dict (snapshotPayload state))) ∧
      ∀ runner' state', Operated runner' state' →
        serializeCapacitySnapshot state' = serializeCapacitySnapshot state → state' = state := by
  intro _ state
  exact capacitySnapshot_roundTrip referenceRunner state firstReserved_operated

end GeneralExecution
