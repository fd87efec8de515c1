import GeneralExecution.Primitives.ReservationLog
import GeneralExecution.Objects.Physical

namespace GeneralExecution

inductive ReleaseKind
  | terminalOutcome
  | sessionRevoked
deriving DecidableEq

instance : PyLiteral ReleaseKind where
  spelling
    | .terminalOutcome => "terminal_outcome"
    | .sessionRevoked  => "session_revoked"
  values           := [.terminalOutcome, .sessionRevoked]
  parse_spelling a := by cases a <;> rfl

@[ext]
structure CapacityLease where
  runnerId               : String
  runnerCapabilityDigest : String
  slot                   : Nat
  sessionId              : String
  logicalAttempt         : Nat
  authorizationId        : String
  authorizationDigest    : String
  invocationId           : String
  physicalAttempt        : Nat
  previousInvocationId   : Option String
  previousReceiptDigest  : Option String
  expectedStateDigest    : String
  schemaVersion          : String := "ge.capacity-lease.v1"
  hasAttempts            : 1 ≤ logicalAttempt ∧ 1 ≤ physicalAttempt
  chain                  : ChainOk physicalAttempt previousInvocationId previousReceiptDigest

instance : DecidableEq CapacityLease :=
  fun _ _ => decidable_of_iff _ CapacityLease.ext_iff.symm

instance : AsDict CapacityLease where
  asdict l := [
    ("runner_id", toPy l.runnerId),
    ("runner_capability_digest", toPy l.runnerCapabilityDigest),
    ("slot", toPy l.slot),
    ("session_id", toPy l.sessionId),
    ("logical_attempt", toPy l.logicalAttempt),
    ("authorization_id", toPy l.authorizationId),
    ("authorization_digest", toPy l.authorizationDigest),
    ("invocation_id", toPy l.invocationId),
    ("physical_attempt", toPy l.physicalAttempt),
    ("previous_invocation_id", toPy l.previousInvocationId),
    ("previous_receipt_digest", toPy l.previousReceiptDigest),
    ("expected_state_digest", toPy l.expectedStateDigest),
    ("schema_version", toPy l.schemaVersion)]

-- A release carries the evidence of its own kind and none of the other.
def ReleaseEvidence (releaseKind : ReleaseKind) (outcomeDigest receiptDigest : Option String)
    (transportStatus : Option TransportStatus) (revokedSessionDigest : Option String) : Prop :=
  match releaseKind with
  | .terminalOutcome =>
    Text.Truthy outcomeDigest ∧ Text.Truthy receiptDigest ∧ transportStatus.isSome ∧
      revokedSessionDigest = none
  | .sessionRevoked =>
    Text.Truthy revokedSessionDigest ∧ outcomeDigest = none ∧ receiptDigest = none ∧
      transportStatus = none

instance (releaseKind : ReleaseKind) (outcomeDigest receiptDigest : Option String)
    (transportStatus : Option TransportStatus) (revokedSessionDigest : Option String) :
    Decidable (ReleaseEvidence releaseKind outcomeDigest receiptDigest transportStatus
      revokedSessionDigest) := by
  unfold ReleaseEvidence
  cases releaseKind <;> infer_instance

@[ext]
structure CapacityRelease where
  leaseId              : String
  leaseDigest          : String
  runnerId             : String
  sessionId            : String
  logicalAttempt       : Nat
  authorizationId      : String
  authorizationDigest  : String
  invocationId         : String
  physicalAttempt      : Nat
  releaseKind          : ReleaseKind
  expectedStateDigest  : String
  outcomeDigest        : Option String := none
  receiptDigest        : Option String := none
  transportStatus      : Option TransportStatus := none
  revokedSessionDigest : Option String := none
  schemaVersion        : String := "ge.capacity-release.v1"
  evidence :
    ReleaseEvidence releaseKind outcomeDigest receiptDigest transportStatus revokedSessionDigest
deriving DecidableEq

instance : AsDict CapacityRelease where
  asdict r := [
    ("lease_id", toPy r.leaseId),
    ("lease_digest", toPy r.leaseDigest),
    ("runner_id", toPy r.runnerId),
    ("session_id", toPy r.sessionId),
    ("logical_attempt", toPy r.logicalAttempt),
    ("authorization_id", toPy r.authorizationId),
    ("authorization_digest", toPy r.authorizationDigest),
    ("invocation_id", toPy r.invocationId),
    ("physical_attempt", toPy r.physicalAttempt),
    ("release_kind", toPy r.releaseKind),
    ("expected_state_digest", toPy r.expectedStateDigest),
    ("outcome_digest", toPy r.outcomeDigest),
    ("receipt_digest", toPy r.receiptDigest),
    ("transport_status", toPy r.transportStatus),
    ("revoked_session_digest", toPy r.revokedSessionDigest),
    ("schema_version", toPy r.schemaVersion)]

-- `change` is the kind of the transition together with its lease or its release.
@[ext]
structure CapacityTransition where
  change              : ReservationLog.Entry CapacityLease CapacityRelease
  expectedStateDigest : String
  schemaVersion       : String := "ge.capacity-transition.v1"
deriving DecidableEq

namespace CapacityTransition

def kind (t : CapacityTransition) : String :=
  match t.change with
  | .reserve _ => "reserve"
  | .release _ => "release"

def lease (t : CapacityTransition) : Option CapacityLease :=
  t.change.reserved?

def release (t : CapacityTransition) : Option CapacityRelease :=
  t.change.released?

instance : AsDict CapacityTransition where
  asdict t := [
    ("kind", toPy t.kind),
    ("expected_state_digest", toPy t.expectedStateDigest),
    ("lease", toPy t.lease),
    ("release", toPy t.release),
    ("schema_version", toPy t.schemaVersion)]

end CapacityTransition

@[ext]
structure RunnerCapacityState where
  runnerId               : String
  runnerCapabilityDigest : String
  maxParallelism         : Nat
  generation             : Nat := 0
  previousStateDigest    : Option String := none
  transitions            : List CapacityTransition := []
  schemaVersion          : String := "ge.runner-capacity-state.v1"
  hasSlot                : 1 ≤ maxParallelism
  genesis                : previousStateDigest.isNone ↔ generation = 0
  counted                : generation = transitions.length

instance : DecidableEq RunnerCapacityState :=
  fun _ _ => decidable_of_iff _ RunnerCapacityState.ext_iff.symm

instance : AsDict RunnerCapacityState where
  asdict s := [
    ("runner_id", toPy s.runnerId),
    ("runner_capability_digest", toPy s.runnerCapabilityDigest),
    ("max_parallelism", toPy s.maxParallelism),
    ("generation", toPy s.generation),
    ("previous_state_digest", toPy s.previousStateDigest),
    ("transitions", toPy s.transitions),
    ("schema_version", toPy s.schemaVersion)]

variable [Sha256]

def CapacityLease.leaseId (l : CapacityLease) : String :=
  stableId "gecl" (toPy l)

def CapacityLease.digest (l : CapacityLease) : String :=
  sha256Digest (toPy l)

def CapacityRelease.digest (r : CapacityRelease) : String :=
  sha256Digest (toPy r)

def CapacityTransition.digest (t : CapacityTransition) : String :=
  sha256Digest (toPy t)

namespace RunnerCapacityState

def digest (s : RunnerCapacityState) : String :=
  sha256Digest (toPy s)

omit [Sha256] in
def log (s : RunnerCapacityState) : List (ReservationLog.Entry CapacityLease CapacityRelease) :=
  s.transitions.map CapacityTransition.change

omit [Sha256] in
def leases (s : RunnerCapacityState) : List CapacityLease :=
  ReservationLog.reserved s.log

omit [Sha256] in
def releases (s : RunnerCapacityState) : List CapacityRelease :=
  ReservationLog.released s.log

def activeLeases (s : RunnerCapacityState) : List CapacityLease :=
  s.leases.filter fun l => l.leaseId ∉ s.releases.map CapacityRelease.leaseId

end RunnerCapacityState

structure CapacityLeaseGrant where
  lease                       : CapacityLease
  reservationTransitionDigest : String
  committedStateDigest        : String
  committedGeneration         : Nat
  schemaVersion               : String := "ge.capacity-lease-grant.v1"
deriving DecidableEq

structure CapacityReleaseGrant where
  release                 : CapacityRelease
  releaseTransitionDigest : String
  committedStateDigest    : String
  committedGeneration     : Nat
  schemaVersion           : String := "ge.capacity-release-grant.v1"
deriving DecidableEq

def initializeCapacityState (runner : RunnerCapabilities) : RunnerCapacityState where
  runnerId               := runner.runnerId
  runnerCapabilityDigest := runner.digest
  maxParallelism         := runner.maxParallelism
  hasSlot                := runner.hasSlot
  genesis                := by simp
  counted                := rfl

-- At most one physical lease of a logical session is active.
def sessionKey (l : CapacityLease) : String × Nat :=
  (l.sessionId, l.logicalAttempt)

def predecessorReleased (state : RunnerCapacityState) (sessionId : String)
    (logicalAttempt physicalAttempt : Nat)
    (previousInvocationId previousReceiptDigest : Option String) : Bool :=
  if physicalAttempt = 1 then
    previousInvocationId = none ∧ previousReceiptDigest = none
  else
    state.releases.any fun release =>
      release.releaseKind = .terminalOutcome ∧
      release.sessionId = sessionId ∧
      release.logicalAttempt = logicalAttempt ∧
      release.physicalAttempt = physicalAttempt - 1 ∧
      some release.invocationId = previousInvocationId ∧
      release.receiptDigest = previousReceiptDigest ∧
      release.transportStatus ≠ some .completed

-- The successor of `state` by an accepted transition.
def RunnerCapacityState.extend (state : RunnerCapacityState) (transition : CapacityTransition) :
    RunnerCapacityState where
  runnerId               := state.runnerId
  runnerCapabilityDigest := state.runnerCapabilityDigest
  maxParallelism         := state.maxParallelism
  generation             := state.generation + 1
  previousStateDigest    := some state.digest
  transitions            := state.transitions ++ [transition]
  hasSlot                := state.hasSlot
  genesis                := by simp
  counted                := by simp [state.counted]

def applyTransitionUnchecked (state : RunnerCapacityState) (transition : CapacityTransition) :
    Py RunnerCapacityState := do
  Py.require (transition.expectedStateDigest = state.digest) .capacityError
    "stale capacity transition"
  match transition.change with
  | .reserve lease =>
    Py.require (lease.expectedStateDigest = state.digest) .capacityError
      "lease snapshot binding mismatch"
    Py.require
      (lease.runnerId = state.runnerId ∧
        lease.runnerCapabilityDigest = state.runnerCapabilityDigest)
      .capacityError "lease runner binding mismatch"
    Py.require (lease.slot < state.maxParallelism) .capacityError
      "lease slot is outside runner capacity"
    Py.require
      (state.activeLeases.length < state.maxParallelism ∧
        lease.slot ∉ state.activeLeases.map CapacityLease.slot)
      .capacityError "capacity slot is already occupied"
    Py.require
      (∀ x ∈ state.leases,
        ¬(x.leaseId = lease.leaseId ∨ x.authorizationDigest = lease.authorizationDigest))
      .capacityError "duplicate canonical lease"
    Py.require (sessionKey lease ∉ state.activeLeases.map sessionKey) .capacityError
      "logical Session already has an active lease"
    Py.require
      (predecessorReleased state lease.sessionId lease.logicalAttempt lease.physicalAttempt
        lease.previousInvocationId lease.previousReceiptDigest)
      .capacityError "lease retry predecessor is not canonically released"
  | .release release =>
    Py.require (release.expectedStateDigest = state.digest) .capacityError
      "release snapshot binding mismatch"
    match state.activeLeases.filter fun x =>
        x.leaseId = release.leaseId ∧ x.digest = release.leaseDigest with
    | [lease] =>
      Py.require
        (release.runnerId = lease.runnerId ∧
          release.sessionId = lease.sessionId ∧
          release.logicalAttempt = lease.logicalAttempt ∧
          release.authorizationId = lease.authorizationId ∧
          release.authorizationDigest = lease.authorizationDigest ∧
          release.invocationId = lease.invocationId ∧
          release.physicalAttempt = lease.physicalAttempt)
        .capacityError "release identity does not match active lease"
    | _ => Py.raise .capacityError "release does not reference one active lease"
  return state.extend transition

-- The state is bound to the exact runner.
def boundTo (state : RunnerCapacityState) (runner : RunnerCapabilities) : Bool :=
  state.runnerId = runner.runnerId ∧
  state.runnerCapabilityDigest = runner.digest ∧
  state.maxParallelism = runner.maxParallelism

def verifyCapacityState (state : RunnerCapacityState) (runner : RunnerCapabilities) : Bool :=
  boundTo state runner &&
  match state.transitions.foldlM applyTransitionUnchecked (initializeCapacityState runner) with
  | .ok current => current = state
  | .error _    => false

def validateStateRunner (state : RunnerCapacityState) (runner : RunnerCapabilities) : Py Unit := do
  Py.require (boundTo state runner) .capacityError
    "capacity state is not bound to the exact runner capabilities"
  Py.require (verifyCapacityState state runner) .capacityError "capacity state does not replay"

def retryPredecessorReleased (state : RunnerCapacityState) (auth : PhysicalAttemptAuthorization) :
    Bool :=
  predecessorReleased state auth.request.sessionId auth.request.attempt auth.physicalAttempt
    auth.previousInvocationId auth.previousReceiptDigest

-- The first slot that no active lease occupies.
def freeSlot (state : RunnerCapacityState) : Option Nat :=
  (List.range state.maxParallelism).find? fun i =>
    i ∉ state.activeLeases.map CapacityLease.slot

def proposedLease (state : RunnerCapacityState) (runner : RunnerCapabilities)
    (auth : PhysicalAttemptAuthorization) (slot : Nat) : CapacityLease where
  runnerId               := runner.runnerId
  runnerCapabilityDigest := runner.digest
  slot                   := slot
  sessionId              := auth.request.sessionId
  logicalAttempt         := auth.request.attempt
  authorizationId        := auth.authorizationId
  authorizationDigest    := auth.digest
  invocationId           := auth.request.invocationId
  physicalAttempt        := auth.physicalAttempt
  previousInvocationId   := auth.previousInvocationId
  previousReceiptDigest  := auth.previousReceiptDigest
  expectedStateDigest    := state.digest
  hasAttempts            := ⟨auth.request.hasAttempt, auth.hasAttempt⟩
  chain                  := auth.chain

def proposeCapacityReservation (state : RunnerCapacityState) (spec : ExecutionSpec)
    (registry : RunnerRegistry) (plan : DispatchPlan) (session : ExecutionSession)
    (runner : RunnerCapabilities) (auth : PhysicalAttemptAuthorization) : Py CapacityTransition := do
  validateStateRunner state runner
  Py.require (verifyDispatchRequest spec registry plan session runner auth.request) .capacityError
    "physical authorization request does not reproduce from execution context"
  Py.require
    (auth.request.runnerId = runner.runnerId ∧ auth.request.runnerCapabilityDigest = runner.digest)
    .capacityError "physical authorization is not bound to this runner"
  Py.require (state.activeLeases.length < state.maxParallelism) .capacityError
    "runner capacity exhausted"
  Py.require (∀ l ∈ state.leases, l.authorizationDigest ≠ auth.digest) .capacityError
    "physical authorization already has a canonical capacity lease"
  Py.require
    ((auth.request.sessionId, auth.request.attempt) ∉ state.activeLeases.map sessionKey)
    .capacityError "logical Session already has an active canonical physical lease"
  Py.require (retryPredecessorReleased state auth) .capacityError
    "retry predecessor has not been canonically released"
  let slot ← Py.ofOption .capacityError "runner capacity exhausted" (freeSlot state)
  return {
    change              := .reserve (proposedLease state runner auth slot)
    expectedStateDigest := state.digest }

def commitCapacityReservation (state : RunnerCapacityState) (spec : ExecutionSpec)
    (registry : RunnerRegistry) (plan : DispatchPlan) (session : ExecutionSession)
    (runner : RunnerCapabilities) (auth : PhysicalAttemptAuthorization)
    (transition : CapacityTransition) : Py (RunnerCapacityState × CapacityLeaseGrant) := do
  let expected ← proposeCapacityReservation state spec registry plan session runner auth
  Py.require (transition = expected) .capacityError
    "reservation transition does not reproduce from current state"
  let newState ← applyTransitionUnchecked state transition
  let lease ← Py.ofOption .assertionError "" transition.lease
  return (newState, {
    lease                       := lease
    reservationTransitionDigest := transition.digest
    committedStateDigest        := newState.digest
    committedGeneration         := newState.generation })

def reserveCapacity (state : RunnerCapacityState) (spec : ExecutionSpec)
    (registry : RunnerRegistry) (plan : DispatchPlan) (session : ExecutionSession)
    (runner : RunnerCapabilities) (auth : PhysicalAttemptAuthorization) :
    Py (RunnerCapacityState × CapacityLeaseGrant × CapacityTransition) := do
  let transition ← proposeCapacityReservation state spec registry plan session runner auth
  let (newState, grant) ←
    commitCapacityReservation state spec registry plan session runner auth transition
  return (newState, grant, transition)

def findActiveLease (state : RunnerCapacityState) (lease : CapacityLease) : Py CapacityLease :=
  match state.activeLeases.filter fun x =>
      x.leaseId = lease.leaseId ∧ x.digest = lease.digest with
  | [x] => return x
  | _   => Py.raise .capacityError "capacity lease is not active"

def outcomeRelease (state : RunnerCapacityState) (lease : CapacityLease)
    (outcome : PhysicalOutcomeBundle) : CapacityRelease where
  leaseId             := lease.leaseId
  leaseDigest         := lease.digest
  runnerId            := lease.runnerId
  sessionId           := lease.sessionId
  logicalAttempt      := lease.logicalAttempt
  authorizationId     := lease.authorizationId
  authorizationDigest := lease.authorizationDigest
  invocationId        := lease.invocationId
  physicalAttempt     := lease.physicalAttempt
  releaseKind         := .terminalOutcome
  expectedStateDigest := state.digest
  outcomeDigest       := some outcome.digest
  receiptDigest       := some outcome.receipt.digest
  transportStatus     := some outcome.receipt.transportStatus
  evidence            :=
    ⟨Text.truthy_some.mpr (sha256Digest_ne_empty _), Text.truthy_some.mpr (sha256Digest_ne_empty _),
      rfl, rfl⟩

def proposeOutcomeRelease (state : RunnerCapacityState) (spec : ExecutionSpec)
    (registry : RunnerRegistry) (plan : DispatchPlan) (session : ExecutionSession)
    (runner : RunnerCapabilities) (lease : CapacityLease) (outcome : PhysicalOutcomeBundle) :
    Py CapacityTransition := do
  validateStateRunner state runner
  Py.require (verifyPhysicalOutcome spec registry plan session runner outcome) .capacityError
    "physical outcome does not reproduce from execution context"
  let lease ← findActiveLease state lease
  let auth := outcome.authorization
  Py.require
    (auth.authorizationId = lease.authorizationId ∧
      auth.digest = lease.authorizationDigest ∧
      auth.request.invocationId = lease.invocationId ∧
      auth.physicalAttempt = lease.physicalAttempt)
    .capacityError "physical outcome does not belong to active lease"
  Py.require
    (auth.request.sessionId = lease.sessionId ∧
      auth.request.attempt = lease.logicalAttempt ∧
      auth.request.runnerId = lease.runnerId)
    .capacityError "physical outcome Session binding mismatch"
  return {
    change              := .release (outcomeRelease state lease outcome)
    expectedStateDigest := state.digest }

-- What `commit_outcome_release` and `commit_revocation_release` share.
def commitRelease (state : RunnerCapacityState) (expected transition : CapacityTransition)
    (mismatch : String) : Py (RunnerCapacityState × CapacityReleaseGrant) := do
  Py.require (transition = expected) .capacityError mismatch
  let newState ← applyTransitionUnchecked state transition
  let release ← Py.ofOption .assertionError "" transition.release
  return (newState, {
    release                 := release
    releaseTransitionDigest := transition.digest
    committedStateDigest    := newState.digest
    committedGeneration     := newState.generation })

def commitOutcomeRelease (state : RunnerCapacityState) (spec : ExecutionSpec)
    (registry : RunnerRegistry) (plan : DispatchPlan) (session : ExecutionSession)
    (runner : RunnerCapabilities) (lease : CapacityLease) (outcome : PhysicalOutcomeBundle)
    (transition : CapacityTransition) : Py (RunnerCapacityState × CapacityReleaseGrant) := do
  let expected ← proposeOutcomeRelease state spec registry plan session runner lease outcome
  commitRelease state expected transition "outcome release transition does not reproduce"

def releaseCapacityForOutcome (state : RunnerCapacityState) (spec : ExecutionSpec)
    (registry : RunnerRegistry) (plan : DispatchPlan) (session : ExecutionSession)
    (runner : RunnerCapabilities) (lease : CapacityLease) (outcome : PhysicalOutcomeBundle) :
    Py (RunnerCapacityState × CapacityReleaseGrant × CapacityTransition) := do
  let transition ← proposeOutcomeRelease state spec registry plan session runner lease outcome
  let (newState, grant) ←
    commitOutcomeRelease state spec registry plan session runner lease outcome transition
  return (newState, grant, transition)

def revocationRelease (state : RunnerCapacityState) (lease : CapacityLease)
    (revokedSession : ExecutionSession) : CapacityRelease where
  leaseId              := lease.leaseId
  leaseDigest          := lease.digest
  runnerId             := lease.runnerId
  sessionId            := lease.sessionId
  logicalAttempt       := lease.logicalAttempt
  authorizationId      := lease.authorizationId
  authorizationDigest  := lease.authorizationDigest
  invocationId         := lease.invocationId
  physicalAttempt      := lease.physicalAttempt
  releaseKind          := .sessionRevoked
  expectedStateDigest  := state.digest
  revokedSessionDigest := some revokedSession.digest
  evidence             := ⟨Text.truthy_some.mpr (sha256Digest_ne_empty _), rfl, rfl, rfl⟩

def proposeRevocationRelease (state : RunnerCapacityState) (runner : RunnerCapabilities)
    (lease : CapacityLease) (revokedSession : ExecutionSession) : Py CapacityTransition := do
  validateStateRunner state runner
  let lease ← findActiveLease state lease
  Py.require (revokedSession.state = .revoked) .capacityError
    "Session must be revoked before capacity release"
  Py.require
    (revokedSession.sessionId = lease.sessionId ∧
      revokedSession.attempt = lease.logicalAttempt ∧
      revokedSession.runnerId = lease.runnerId ∧
      revokedSession.runnerCapabilityDigest = lease.runnerCapabilityDigest)
    .capacityError "revoked Session does not own this capacity lease"
  return {
    change              := .release (revocationRelease state lease revokedSession)
    expectedStateDigest := state.digest }

def commitRevocationRelease (state : RunnerCapacityState) (runner : RunnerCapabilities)
    (lease : CapacityLease) (revokedSession : ExecutionSession) (transition : CapacityTransition) :
    Py (RunnerCapacityState × CapacityReleaseGrant) := do
  let expected ← proposeRevocationRelease state runner lease revokedSession
  commitRelease state expected transition "revocation release transition does not reproduce"

def releaseCapacityForRevocation (state : RunnerCapacityState) (runner : RunnerCapabilities)
    (lease : CapacityLease) (revokedSession : ExecutionSession) :
    Py (RunnerCapacityState × CapacityReleaseGrant × CapacityTransition) := do
  let transition ← proposeRevocationRelease state runner lease revokedSession
  let (newState, grant) ← commitRevocationRelease state runner lease revokedSession transition
  return (newState, grant, transition)

end GeneralExecution
