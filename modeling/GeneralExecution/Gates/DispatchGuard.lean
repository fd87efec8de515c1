import GeneralExecution.Stores.Dispatch

namespace GeneralExecution

variable [Sha256]

@[ext]
structure LiveDispatchPermit where
  intentId               : String
  intentDigest           : String
  dispatchStateDigest    : String
  dispatchPermitDigest   : String
  runnerId               : String
  runnerCapabilityDigest : String
  capacityHeadDigest     : String
  capacityStateDigest    : String
  capacitySnapshotDigest : String
  capacityGeneration     : Nat
  leaseId                : String
  leaseDigest            : String
  authorizationId        : String
  authorizationDigest    : String
  invocationId           : String
  requestDigest          : String
  physicalAttempt        : Nat
  schemaVersion          : String := "ge.live-dispatch-permit.v1"
  committed              : 1 ≤ capacityGeneration
  hasAttempt             : 1 ≤ physicalAttempt
  nonempty :
    ∀ x ∈ [("intent_id", intentId), ("intent_digest", intentDigest),
      ("dispatch_state_digest", dispatchStateDigest),
      ("dispatch_permit_digest", dispatchPermitDigest), ("runner_id", runnerId),
      ("runner_capability_digest", runnerCapabilityDigest),
      ("capacity_head_digest", capacityHeadDigest),
      ("capacity_state_digest", capacityStateDigest),
      ("capacity_snapshot_digest", capacitySnapshotDigest), ("lease_id", leaseId),
      ("lease_digest", leaseDigest), ("authorization_id", authorizationId),
      ("authorization_digest", authorizationDigest), ("invocation_id", invocationId),
      ("request_digest", requestDigest)], x.2 ≠ ""

instance : DecidableEq LiveDispatchPermit :=
  fun _ _ => decidable_of_iff _ LiveDispatchPermit.ext_iff.symm

namespace LiveDispatchPermit

def new (intentId intentDigest dispatchStateDigest dispatchPermitDigest runnerId
    runnerCapabilityDigest capacityHeadDigest capacityStateDigest capacitySnapshotDigest : String)
    (capacityGeneration : Nat)
    (leaseId leaseDigest authorizationId authorizationDigest invocationId requestDigest : String)
    (physicalAttempt : Nat) : Py LiveDispatchPermit := do
  let ⟨h₁⟩ ← Py.check (1 ≤ capacityGeneration) .valueError
    "live dispatch requires a committed capacity generation"
  let ⟨h₂⟩ ← Py.check (1 ≤ physicalAttempt) .valueError "physical_attempt must be >= 1"
  let ⟨h₃⟩ ← checkTruthy
    [("intent_id", intentId), ("intent_digest", intentDigest),
      ("dispatch_state_digest", dispatchStateDigest),
      ("dispatch_permit_digest", dispatchPermitDigest), ("runner_id", runnerId),
      ("runner_capability_digest", runnerCapabilityDigest),
      ("capacity_head_digest", capacityHeadDigest),
      ("capacity_state_digest", capacityStateDigest),
      ("capacity_snapshot_digest", capacitySnapshotDigest), ("lease_id", leaseId),
      ("lease_digest", leaseDigest), ("authorization_id", authorizationId),
      ("authorization_digest", authorizationDigest), ("invocation_id", invocationId),
      ("request_digest", requestDigest)]
  return {
    intentId, intentDigest, dispatchStateDigest, dispatchPermitDigest, runnerId,
    runnerCapabilityDigest, capacityHeadDigest, capacityStateDigest, capacitySnapshotDigest,
    capacityGeneration, leaseId, leaseDigest, authorizationId, authorizationDigest, invocationId,
    requestDigest, physicalAttempt, committed := h₁, hasAttempt := h₂, nonempty := h₃ }

instance : AsDict LiveDispatchPermit where
  asdict p := [
    ("intent_id", toPy p.intentId),
    ("intent_digest", toPy p.intentDigest),
    ("dispatch_state_digest", toPy p.dispatchStateDigest),
    ("dispatch_permit_digest", toPy p.dispatchPermitDigest),
    ("runner_id", toPy p.runnerId),
    ("runner_capability_digest", toPy p.runnerCapabilityDigest),
    ("capacity_head_digest", toPy p.capacityHeadDigest),
    ("capacity_state_digest", toPy p.capacityStateDigest),
    ("capacity_snapshot_digest", toPy p.capacitySnapshotDigest),
    ("capacity_generation", toPy p.capacityGeneration),
    ("lease_id", toPy p.leaseId),
    ("lease_digest", toPy p.leaseDigest),
    ("authorization_id", toPy p.authorizationId),
    ("authorization_digest", toPy p.authorizationDigest),
    ("invocation_id", toPy p.invocationId),
    ("request_digest", toPy p.requestDigest),
    ("physical_attempt", toPy p.physicalAttempt),
    ("schema_version", toPy p.schemaVersion)]

def digest (p : LiveDispatchPermit) : String :=
  sha256Digest (toPy p)

end LiveDispatchPermit

-- `except DurableCapacityError`
def liveCapacityHead (runner : RunnerCapabilities) :
    StoreCall (RunnerCapacityState × DurableCapacityHead) :=
  tryCatch (CapacityHeadStore.load runner) fun e =>
    throw <|
      if e.cls.IsA .durableCapacityError then
        ⟨.dispatchIntentError, "canonical durable capacity head is unavailable"⟩
      else e

-- The checks of the lease against the capacity that has been loaded.
def activeBoundLease (intent : DispatchIntent) (capacityState : RunnerCapacityState)
    (runner : RunnerCapabilities) : Py CapacityLease := do
  Py.require
    (intent.runnerId = runner.runnerId ∧ intent.runnerCapabilityDigest = runner.digest)
    .dispatchIntentError "dispatch intent runner capabilities changed"
  match capacityState.activeLeases.filter fun lease =>
      lease.leaseId = intent.leaseId ∧ lease.digest = intent.leaseDigest with
  | [lease] =>
    Py.require
      (lease.runnerId = intent.runnerId ∧
        lease.runnerCapabilityDigest = intent.runnerCapabilityDigest ∧
        lease.authorizationId = intent.authorizationId ∧
        lease.authorizationDigest = intent.authorizationDigest ∧
        lease.invocationId = intent.invocationId ∧
        lease.physicalAttempt = intent.physicalAttempt ∧
        lease.sessionId = intent.sessionId ∧
        lease.logicalAttempt = intent.logicalAttempt)
      .dispatchIntentError "active durable capacity lease no longer reproduces dispatch intent"
    return lease
  | _ =>
    Py.raise .dispatchIntentError
      "dispatch lease is no longer active in canonical durable capacity"

-- The state and the permit are the caller's; only the capacity head is read.
def loadActiveBoundLease (state : DispatchIntentState) (permit : DispatchPermit)
    (runner : RunnerCapabilities) :
    StoreCall (RunnerCapacityState × DurableCapacityHead × CapacityLease) := do
  Py.require (state.status = .submissionUnknown) .dispatchIntentError
    "live dispatch requires submission_unknown durable state"
  Py.require (verifyDispatchPermit state permit) .dispatchIntentError
    "durable dispatch permit does not reproduce"
  let (capacityState, capacityHead) ← liveCapacityHead runner
  let lease ← (activeBoundLease state.intent capacityState runner : Py _)
  return (capacityState, capacityHead, lease)

def authorizeLiveDispatch (state : DispatchIntentState) (permit : DispatchPermit)
    (runner : RunnerCapabilities) : StoreCall LiveDispatchPermit := do
  let (capacityState, capacityHead, lease) ← loadActiveBoundLease state permit runner
  LiveDispatchPermit.new
    state.intent.intentId
    state.intent.digest
    state.digest
    permit.digest
    runner.runnerId
    runner.digest
    capacityHead.digest
    capacityState.digest
    capacityHead.snapshotDigest
    capacityState.generation
    lease.leaseId
    lease.digest
    state.intent.authorizationId
    state.intent.authorizationDigest
    state.intent.invocationId
    state.intent.requestDigest
    state.intent.physicalAttempt

-- `except (DispatchIntentError, DurableCapacityError, ValueError)`
def verifyLiveDispatchPermit (state : DispatchIntentState) (permit : DispatchPermit)
    (livePermit : LiveDispatchPermit) (runner : RunnerCapabilities) : StoreCall Bool := do
  match ← (authorizeLiveDispatch state permit runner).attempt with
  | .ok expected => return livePermit = expected
  | .error e     =>
    if e.cls.IsA .dispatchIntentError ∨ e.cls.IsA .durableCapacityError ∨ e.cls.IsA .valueError then
      return false
    else
      throw e

end GeneralExecution
