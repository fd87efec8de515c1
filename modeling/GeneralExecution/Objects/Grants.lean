import GeneralExecution.Objects.Capacity

namespace GeneralExecution

variable [Sha256]

-- The loop of `_committed_transition_at_generation`.
def committedAt (generation : Nat) :
    Nat → RunnerCapacityState → List CapacityTransition →
      Option (RunnerCapacityState × CapacityTransition)
  | _,     _,       []                        => none
  | index, current, transition :: transitions =>
    match applyTransitionUnchecked current transition with
    | .error _ => none
    | .ok next =>
      if index = generation then some (next, transition)
      else committedAt generation (index + 1) next transitions

def committedTransitionAtGeneration (state : RunnerCapacityState) (runner : RunnerCapabilities)
    (generation : Nat) : Option (RunnerCapacityState × CapacityTransition) :=
  if generation < 1 ∨ generation > state.generation then none
  else committedAt generation 1 (initializeCapacityState runner) state.transitions

def verifyActiveLeaseGrant (state : RunnerCapacityState) (runner : RunnerCapabilities)
    (grant : CapacityLeaseGrant) : Bool :=
  verifyCapacityState state runner &&
  match committedTransitionAtGeneration state runner grant.committedGeneration with
  | none                              => false
  | some (committedState, transition) =>
    transition.lease = some grant.lease ∧
    transition.digest = grant.reservationTransitionDigest ∧
    committedState.digest = grant.committedStateDigest ∧
    grant.lease ∈ state.activeLeases

def verifyCapacityReleaseGrant (state : RunnerCapacityState) (runner : RunnerCapabilities)
    (grant : CapacityReleaseGrant) : Bool :=
  verifyCapacityState state runner &&
  match committedTransitionAtGeneration state runner grant.committedGeneration with
  | none                              => false
  | some (committedState, transition) =>
    transition.release = some grant.release ∧
    transition.digest = grant.releaseTransitionDigest ∧
    committedState.digest = grant.committedStateDigest ∧
    grant.release ∈ state.releases

end GeneralExecution
