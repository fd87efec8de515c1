import GeneralExecution.Stores.Observed

namespace GeneralExecution

inductive ProjectionStatus
  | coherent
  | recoveryRequired
  | legacyUntracked
  | inconsistent
deriving DecidableEq

instance : PyLiteral ProjectionStatus where
  spelling
    | .coherent         => "coherent"
    | .recoveryRequired => "recovery_required"
    | .legacyUntracked  => "legacy_untracked"
    | .inconsistent     => "inconsistent"
  values           := [.coherent, .recoveryRequired, .legacyUntracked, .inconsistent]
  parse_spelling a := by cases a <;> rfl

-- `RecoveryAction` of the session recovery module.
inductive SessionRecoveryAction
  | none
  | startSession
  | prepareDispatchIntent
  | beginSubmission
  | reconcileProvider
  | releaseObservedCapacity
deriving DecidableEq

instance : PyLiteral SessionRecoveryAction where
  spelling
    | .none                    => "none"
    | .startSession            => "start_session"
    | .prepareDispatchIntent   => "prepare_dispatch_intent"
    | .beginSubmission         => "begin_submission"
    | .reconcileProvider       => "reconcile_provider"
    | .releaseObservedCapacity => "release_observed_capacity"
  values := [.none, .startSession, .prepareDispatchIntent, .beginSubmission, .reconcileProvider,
    .releaseObservedCapacity]
  parse_spelling a := by cases a <;> rfl

-- The check of a digest that a projection makes, which does not read its digits.
def IsSha256Shaped (s : String) : Prop :=
  "sha256:".toList <+: s.toList ∧ s.length = 71

instance (s : String) : Decidable (IsSha256Shaped s) :=
  inferInstanceAs <| Decidable (_ ∧ _)

theorem IsSha256.shaped {s : String} (h : IsSha256 s) : IsSha256Shaped s :=
  ⟨h.left, h.right.left⟩

variable [Sha256]

structure SessionRecoveryProjection where
  runnerId                : String
  sessionId               : String
  logicalAttempt          : Nat
  status                  : ProjectionStatus
  projectedState          : SessionState
  projectedSession        : ExecutionSession
  projectedSessionDigest  : String
  capacityStateDigest     : String
  capacityGeneration      : Nat
  capacityHeadDigest      : String
  physicalTransitionCount : Nat
  latestPhysicalAttempt   : Option Nat
  activeLeaseId           : Option String
  dispatchIntentId        : Option String
  dispatchStatus          : Option DispatchStatus
  durableOutcomeDigest    : Option String
  lastReleaseDigest       : Option String
  retryEligible           : Bool
  recoveryAction          : SessionRecoveryAction
  finding                 : Option String := none
  schemaVersion           : String        := "ge.session-recovery-projection.v1"
  version                 : schemaVersion = "ge.session-recovery-projection.v1"
  hasAttempt              : 1 ≤ logicalAttempt
  physicalAttempt         : ∀ n ∈ latestPhysicalAttempt, 1 ≤ n
  identity                : projectedSession.sessionId = sessionId
  attempt                 : projectedSession.attempt = logicalAttempt
  state                   : projectedSession.state = projectedState
  digest                  : projectedSession.digest = projectedSessionDigest
  isSha256 :
    ∀ x ∈ [("projected_session_digest", projectedSessionDigest),
      ("capacity_state_digest", capacityStateDigest), ("capacity_head_digest", capacityHeadDigest)],
      IsSha256Shaped x.2

-- The keywords of `_projection` that have defaults.
structure ProjectionDetails where
  activeLeaseId        : Option String := none
  dispatchState        : Option DispatchIntentState := none
  durableOutcomeDigest : Option String := none
  lastReleaseDigest    : Option String := none
  retryEligible        : Bool := false
  recoveryAction       : SessionRecoveryAction := .none
  finding              : Option String := none

-- `_projection`, with the checks that the projection makes of itself. Its own session is the one
-- projected, so that those that compare the two are met.
def projection (runner : RunnerCapabilities) (session : ExecutionSession) (status : ProjectionStatus)
    (capacityState : RunnerCapacityState) (capacityHeadDigest : String)
    (physicalTransitionCount : Nat) (latestPhysicalAttempt : Option Nat)
    (details : ProjectionDetails) : Py SessionRecoveryProjection := do
  let ⟨h₁⟩ ← Py.check (1 ≤ session.attempt) .valueError "logical_attempt must be >= 1"
  let ⟨h₂⟩ ← Py.check (∀ n ∈ latestPhysicalAttempt, 1 ≤ n) .valueError
    "latest_physical_attempt must be >= 1"
  let ⟨h₃⟩ ← checkAll IsSha256Shaped (fun name _ => name ++ " must be sha256:<64-hex>")
    [("projected_session_digest", session.digest), ("capacity_state_digest", capacityState.digest),
      ("capacity_head_digest", capacityHeadDigest)]
  return {
    runnerId                := runner.runnerId
    sessionId               := session.sessionId
    logicalAttempt          := session.attempt
    status                  := status
    projectedState          := session.state
    projectedSession        := session
    projectedSessionDigest  := session.digest
    capacityStateDigest     := capacityState.digest
    capacityGeneration      := capacityState.generation
    capacityHeadDigest      := capacityHeadDigest
    physicalTransitionCount := physicalTransitionCount
    latestPhysicalAttempt   := latestPhysicalAttempt
    activeLeaseId           := details.activeLeaseId
    dispatchIntentId        := details.dispatchState.map (·.intent.intentId)
    dispatchStatus          := details.dispatchState.map (·.status)
    durableOutcomeDigest    := details.durableOutcomeDigest
    lastReleaseDigest       := details.lastReleaseDigest
    retryEligible           := details.retryEligible
    recoveryAction          := details.recoveryAction
    finding                 := details.finding
    version                 := rfl
    hasAttempt              := h₁
    physicalAttempt         := h₂
    identity                := rfl
    attempt                 := rfl
    state                   := rfl
    digest                  := rfl
    isSha256                := h₃ }

omit [Sha256] in
-- `_transition_identity`: the session, the attempt and the physical attempt of a transition.
def transitionIdentity (transition : CapacityTransition) : String × Nat × Nat :=
  match transition.change with
  | .reserve lease   => (lease.sessionId, lease.logicalAttempt, lease.physicalAttempt)
  | .release release => (release.sessionId, release.logicalAttempt, release.physicalAttempt)

def sessionTransitions (state : RunnerCapacityState) (sessionId : String) (logicalAttempt : Nat) :
    List CapacityTransition :=
  state.transitions.filter fun transition =>
    (transitionIdentity transition).1 = sessionId ∧
      (transitionIdentity transition).2.1 = logicalAttempt

def sessionActiveLeases (state : RunnerCapacityState) (sessionId : String) (logicalAttempt : Nat) :
    List CapacityLease :=
  state.activeLeases.filter fun lease =>
    lease.sessionId = sessionId ∧ lease.logicalAttempt = logicalAttempt

-- `_dispatch_states`
def sessionDispatchStates (runnerId sessionId : String) (logicalAttempt : Nat) :
    StoreCall (List DispatchIntentState) := do
  let states ← DispatchIntentStore.loadForRunner runnerId
  return states.filter fun state =>
    state.intent.sessionId = sessionId ∧ state.intent.logicalAttempt = logicalAttempt

-- What `_dispatch_for_lease` and `_dispatch_for_release` share.
def oneDispatch (message : String) (states : List DispatchIntentState)
    (belongs : DispatchIntentState → Bool) : Py (Option DispatchIntentState) :=
  match states.filter belongs with
  | []      => return none
  | [state] => return some state
  | _       => Py.raise .sessionRecoveryError message

def dispatchForLease (states : List DispatchIntentState) (lease : CapacityLease) :
    Py (Option DispatchIntentState) :=
  oneDispatch "one capacity lease maps to multiple durable dispatch intents" states fun state =>
    state.intent.leaseId = lease.leaseId ∧
    state.intent.leaseDigest = lease.digest ∧
    state.intent.authorizationId = lease.authorizationId ∧
    state.intent.authorizationDigest = lease.authorizationDigest ∧
    state.intent.invocationId = lease.invocationId ∧
    state.intent.physicalAttempt = lease.physicalAttempt

def dispatchForRelease (states : List DispatchIntentState) (release : CapacityRelease) :
    Py (Option DispatchIntentState) :=
  oneDispatch "one capacity release maps to multiple durable dispatch intents" states fun state =>
    state.intent.leaseId = release.leaseId ∧
    state.intent.leaseDigest = release.leaseDigest ∧
    state.intent.authorizationId = release.authorizationId ∧
    state.intent.authorizationDigest = release.authorizationDigest ∧
    state.intent.invocationId = release.invocationId ∧
    state.intent.physicalAttempt = release.physicalAttempt

def loadReleaseOutcome (dispatchState : DispatchIntentState) (release : CapacityRelease) :
    StoreCall DurableObservedOutcome := do
  Py.require (dispatchState.status = .observed) .sessionRecoveryError
    "terminal capacity release is not backed by observed durable dispatch state"
  let record ← DurableObservedOutcomeStore.loadObservedOutcome dispatchState.intent.intentId
  Py.require
    (record.leaseId = release.leaseId ∧
      record.leaseDigest = release.leaseDigest ∧
      record.authorizationId = release.authorizationId ∧
      record.authorizationDigest = release.authorizationDigest ∧
      record.invocationId = release.invocationId ∧
      record.physicalAttempt = release.physicalAttempt ∧
      some record.outcomeDigest = release.outcomeDigest ∧
      some record.receiptDigest = release.receiptDigest ∧
      some record.transportStatus = release.transportStatus)
    .sessionRecoveryError "durable observed outcome does not match terminal capacity release"
  return record

omit [Sha256] in
-- `except Exception as exc: raise SessionRecoveryError(message) from exc`
def orRecoveryError {α : Type} (message : String) (call : StoreCall α) : StoreCall α :=
  tryCatch call fun _ => throw ⟨.sessionRecoveryError, message⟩

-- What a projection has established before it looks at the leases of the session.
structure RecoveryContext where
  spec                  : ExecutionSpec
  registry              : RunnerRegistry
  plan                  : DispatchPlan
  runner                : RunnerCapabilities
  running               : ExecutionSession
  capacityState         : RunnerCapacityState
  capacityHeadDigest    : String
  transitions           : List CapacityTransition
  latestPhysicalAttempt : Option Nat
  dispatchStates        : List DispatchIntentState

namespace RecoveryContext

def project (ctx : RecoveryContext) (session : ExecutionSession) (status : ProjectionStatus)
    (details : ProjectionDetails) : Py SessionRecoveryProjection :=
  projection ctx.runner session status ctx.capacityState ctx.capacityHeadDigest
    ctx.transitions.length ctx.latestPhysicalAttempt details

-- The session has an active lease.
def projectActive (ctx : RecoveryContext) (lease : CapacityLease) :
    StoreCall SessionRecoveryProjection := do
  match ← (dispatchForLease ctx.dispatchStates lease : Py _) with
  | none => ctx.project ctx.running .recoveryRequired {
      activeLeaseId  := some lease.leaseId
      recoveryAction := .prepareDispatchIntent
      finding        := some "ACTIVE_LEASE_WITHOUT_DURABLE_DISPATCH_INTENT" }
  | some dispatchState =>
    match dispatchState.status with
    | .prepared => ctx.project ctx.running .recoveryRequired {
        activeLeaseId  := some lease.leaseId
        dispatchState  := some dispatchState
        recoveryAction := .beginSubmission
        finding        := some "DURABLE_DISPATCH_PREPARED" }
    | .submissionUnknown => ctx.project ctx.running .recoveryRequired {
        activeLeaseId  := some lease.leaseId
        dispatchState  := some dispatchState
        recoveryAction := .reconcileProvider
        finding        := some "DURABLE_DISPATCH_SUBMISSION_UNKNOWN" }
    | .observed => do
      let record ← orRecoveryError "observed dispatch outcome is not durably recoverable" <|
        DurableObservedOutcomeStore.loadObservedOutcome dispatchState.intent.intentId
      Py.require (record.leaseId = lease.leaseId ∧ record.leaseDigest = lease.digest)
        .sessionRecoveryError "durable observed outcome no longer matches active lease"
      ctx.project ctx.running .recoveryRequired {
        activeLeaseId        := some lease.leaseId
        dispatchState        := some dispatchState
        durableOutcomeDigest := some record.outcomeDigest
        recoveryAction       := .releaseObservedCapacity
        finding              := some "OBSERVED_OUTCOME_CAPACITY_RELEASE_PENDING" }

-- The last lease of the session was released because the session was revoked.
def projectRevoked (ctx : RecoveryContext) (lastRelease : CapacityRelease) :
    Py SessionRecoveryProjection := do
  let revoked ← revokeSession ctx.running
  if lastRelease.revokedSessionDigest ≠ some revoked.digest then
    ctx.project ctx.running .inconsistent {
      lastReleaseDigest := some lastRelease.digest
      finding           := some "REVOCATION_RELEASE_SESSION_DIGEST_MISMATCH" }
  else
    ctx.project revoked .coherent { lastReleaseDigest := some lastRelease.digest }

-- The last lease of the session was released because of an outcome.
def projectTerminal (ctx : RecoveryContext) (lastRelease : CapacityRelease) :
    StoreCall SessionRecoveryProjection := do
  let untracked : Py SessionRecoveryProjection := ctx.project ctx.running .legacyUntracked {
    lastReleaseDigest := some lastRelease.digest
    finding           := some "TERMINAL_RELEASE_LACKS_RESTART_COMPLETE_DURABLE_OUTCOME" }
  match ← (dispatchForRelease ctx.dispatchStates lastRelease : Py _) with
  | none => untracked
  | some dispatchState =>
    if dispatchState.status ≠ .observed then untracked else
      let record ← orRecoveryError "terminal release durable outcome failed verification" <|
        loadReleaseOutcome dispatchState lastRelease
      let details : ProjectionDetails := {
        dispatchState        := some dispatchState
        durableOutcomeDigest := some record.outcomeDigest
        lastReleaseDigest    := some lastRelease.digest }
      if ¬verifyPhysicalOutcome ctx.spec ctx.registry ctx.plan ctx.running ctx.runner
          record.outcome then
        ctx.project ctx.running .inconsistent { details with
          finding := some "DURABLE_OUTCOME_EXECUTION_CONTEXT_MISMATCH" }
      else if lastRelease.transportStatus = some .completed then
        let result ← (Py.ofOption .sessionRecoveryError
          "completed terminal release has no durable logical result" record.outcome.result : Py _)
        ctx.project (← (submitResult ctx.running result : Py _)) .coherent details
      else
        Py.require record.outcome.result.isNone .sessionRecoveryError
          "failed transport release unexpectedly carries logical result"
        ctx.project ctx.running .coherent { details with retryEligible := true }

def projectReleased (ctx : RecoveryContext) : StoreCall SessionRecoveryProjection :=
  match (ctx.transitions.filterMap CapacityTransition.release).getLast? with
  | none => ctx.project ctx.running .inconsistent {
      finding := some "PHYSICAL_HISTORY_HAS_NO_ACTIVE_LEASE_OR_RELEASE" }
  | some lastRelease =>
    match lastRelease.releaseKind with
    | .sessionRevoked  => ctx.projectRevoked lastRelease
    | .terminalOutcome => ctx.projectTerminal lastRelease

end RecoveryContext

def projectSessionAfterRestart (spec : ExecutionSpec) (registry : RunnerRegistry)
    (plan : DispatchPlan) (runner : RunnerCapabilities) (attempt : Nat) :
    StoreCall SessionRecoveryProjection := do
  Py.require (1 ≤ attempt) .sessionRecoveryError "logical Session attempt must be >= 1"
  Py.require (verifyPlan spec registry plan) .sessionRecoveryError "dispatch plan does not reproduce"
  let bound ← (bindSession spec registry plan attempt : Py _)
  Py.require (bound.runnerId = runner.runnerId ∧ bound.runnerCapabilityDigest = runner.digest)
    .sessionRecoveryError "logical Session is not bound to supplied runner"
  let running ← (startSession bound : Py _)
  let (capacityState, capacityHead) ← tryCatch (CapacityHeadStore.load runner) fun e =>
    throw <|
      if e.cls.IsA .durableCapacityError then
        ⟨.sessionRecoveryError, "canonical durable capacity head is unavailable"⟩
      else e
  Py.require (verifyCapacityState capacityState runner) .sessionRecoveryError
    "canonical durable capacity state does not replay"
  let transitions := sessionTransitions capacityState bound.sessionId attempt
  let active := sessionActiveLeases capacityState bound.sessionId attempt
  Py.require (active.length ≤ 1) .sessionRecoveryError
    "logical Session has multiple active capacity leases"
  let latestPhysicalAttempt := (transitions.map fun t => (transitionIdentity t).2.2).max?
  let dispatchStates ← sessionDispatchStates runner.runnerId bound.sessionId attempt
  if transitions = [] then
    if dispatchStates ≠ [] then
      projection runner bound .inconsistent capacityState capacityHead.digest 0 none {
        finding := some "DISPATCH_WITHOUT_CAPACITY_HISTORY" }
    else
      projection runner bound .recoveryRequired capacityState capacityHead.digest 0 none {
        recoveryAction := .startSession
        finding        := some "NO_DURABLE_PHYSICAL_HISTORY" }
  else
    let ctx : RecoveryContext := {
      spec, registry, plan, runner, running, capacityState, transitions, latestPhysicalAttempt,
      dispatchStates, capacityHeadDigest := capacityHead.digest }
    match active with
    | lease :: _ => ctx.projectActive lease
    | []         => ctx.projectReleased

end GeneralExecution
