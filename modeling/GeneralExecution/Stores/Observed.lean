import GeneralExecution.Stores.Dispatch
import GeneralExecution.Objects.PhysicalWire

namespace GeneralExecution

variable [Sha256]

@[ext]
structure DurableObservedOutcome where
  intentId            : String
  dispatchStateDigest : String
  runnerId            : String
  leaseId             : String
  leaseDigest         : String
  authorizationId     : String
  authorizationDigest : String
  invocationId        : String
  requestDigest       : String
  physicalAttempt     : Nat
  outcomeDigest       : String
  observationDigest   : String
  receiptDigest       : String
  transportStatus     : TransportStatus
  outcome             : PhysicalOutcomeBundle
  schemaVersion       : String := "ge.durable-observed-outcome.v1"
  version             : schemaVersion = "ge.durable-observed-outcome.v1"
  hasAttempt          : 1 ≤ physicalAttempt
  nonempty :
    ∀ x ∈ [("intent_id", intentId), ("runner_id", runnerId), ("lease_id", leaseId),
      ("authorization_id", authorizationId), ("invocation_id", invocationId),
      ("transport_status", PyLiteral.spelling transportStatus)], ¬Text.Blank x.2
  isSha256 :
    ∀ x ∈ [("dispatch_state_digest", dispatchStateDigest), ("lease_digest", leaseDigest),
      ("authorization_digest", authorizationDigest), ("request_digest", requestDigest),
      ("outcome_digest", outcomeDigest), ("observation_digest", observationDigest),
      ("receipt_digest", receiptDigest)], IsSha256 x.2
  describes :
    runnerId = outcome.authorization.request.runnerId ∧
    authorizationId = outcome.authorization.authorizationId ∧
    authorizationDigest = outcome.authorization.digest ∧
    invocationId = outcome.authorization.request.invocationId ∧
    requestDigest = outcome.authorization.request.digest ∧
    physicalAttempt = outcome.authorization.physicalAttempt ∧
    outcomeDigest = outcome.digest ∧
    observationDigest = outcome.observation.digest ∧
    receiptDigest = outcome.receipt.digest ∧
    transportStatus = outcome.receipt.transportStatus

namespace DurableObservedOutcome

def new (intentId dispatchStateDigest runnerId leaseId leaseDigest authorizationId
    authorizationDigest invocationId requestDigest : String) (physicalAttempt : Nat)
    (outcomeDigest observationDigest receiptDigest : String) (transportStatus : TransportStatus)
    (outcome : PhysicalOutcomeBundle) : Py DurableObservedOutcome := do
  let ⟨h₁⟩ ← Py.check (1 ≤ physicalAttempt) .valueError "physical_attempt must be >= 1"
  let ⟨h₂⟩ ← checkNonempty
    [("intent_id", intentId), ("runner_id", runnerId), ("lease_id", leaseId),
      ("authorization_id", authorizationId), ("invocation_id", invocationId),
      ("transport_status", PyLiteral.spelling transportStatus)]
  let ⟨h₃⟩ ← checkSha256
    [("dispatch_state_digest", dispatchStateDigest), ("lease_digest", leaseDigest),
      ("authorization_digest", authorizationDigest), ("request_digest", requestDigest),
      ("outcome_digest", outcomeDigest), ("observation_digest", observationDigest),
      ("receipt_digest", receiptDigest)]
  let ⟨h₄⟩ ← Py.check
    (runnerId = outcome.authorization.request.runnerId ∧
      authorizationId = outcome.authorization.authorizationId ∧
      authorizationDigest = outcome.authorization.digest ∧
      invocationId = outcome.authorization.request.invocationId ∧
      requestDigest = outcome.authorization.request.digest ∧
      physicalAttempt = outcome.authorization.physicalAttempt ∧
      outcomeDigest = outcome.digest ∧
      observationDigest = outcome.observation.digest ∧
      receiptDigest = outcome.receipt.digest ∧
      transportStatus = outcome.receipt.transportStatus)
    .valueError "durable observed outcome metadata does not match outcome"
  return {
    intentId, dispatchStateDigest, runnerId, leaseId, leaseDigest, authorizationId,
    authorizationDigest, invocationId, requestDigest, physicalAttempt, outcomeDigest,
    observationDigest, receiptDigest, transportStatus, outcome, version := rfl, hasAttempt := h₁,
    nonempty := h₂, isSha256 := h₃, describes := h₄ }

end DurableObservedOutcome

-- The columns of a record's row, with the payload of its outcome.
def observedRow (record : DurableObservedOutcome) (outcomeJson : String) : ObservedOutcomeRow where
  intentId            := record.intentId
  runnerId            := record.runnerId
  leaseId             := record.leaseId
  leaseDigest         := record.leaseDigest
  authorizationId     := record.authorizationId
  authorizationDigest := record.authorizationDigest
  invocationId        := record.invocationId
  requestDigest       := record.requestDigest
  physicalAttempt     := record.physicalAttempt
  dispatchStateDigest := record.dispatchStateDigest
  outcomeDigest       := record.outcomeDigest
  observationDigest   := record.observationDigest
  receiptDigest       := record.receiptDigest
  transportStatus     := PyLiteral.spelling record.transportStatus
  outcomeJson         := outcomeJson

@[ext]
structure ObservedOutcomeReleaseRecovery where
  intentId             : String
  outcomeDigest        : String
  releaseDigest        : String
  committedStateDigest : String
  committedGeneration  : Nat
  durableHeadDigest    : String
  idempotent           : Bool
  schemaVersion        : String := "ge.observed-outcome-release-recovery.v1"
  version              : schemaVersion = "ge.observed-outcome-release-recovery.v1"
  nonempty             : ¬Text.Blank intentId
  committed            : 1 ≤ committedGeneration
  isSha256 :
    ∀ x ∈ [("outcome_digest", outcomeDigest), ("release_digest", releaseDigest),
      ("committed_state_digest", committedStateDigest), ("durable_head_digest", durableHeadDigest)],
      IsSha256 x.2

instance : DecidableEq ObservedOutcomeReleaseRecovery :=
  fun _ _ => decidable_of_iff _ ObservedOutcomeReleaseRecovery.ext_iff.symm

namespace ObservedOutcomeReleaseRecovery

def new (intentId outcomeDigest releaseDigest committedStateDigest : String)
    (committedGeneration : Nat) (durableHeadDigest : String) (idempotent : Bool) :
    Py ObservedOutcomeReleaseRecovery := do
  let ⟨h₁⟩ ← Py.check (¬Text.Blank intentId) .valueError "intent_id must be non-empty"
  let ⟨h₂⟩ ← Py.check (1 ≤ committedGeneration) .valueError "committed_generation must be >= 1"
  let ⟨h₃⟩ ← checkSha256
    [("outcome_digest", outcomeDigest), ("release_digest", releaseDigest),
      ("committed_state_digest", committedStateDigest), ("durable_head_digest", durableHeadDigest)]
  return {
    intentId, outcomeDigest, releaseDigest, committedStateDigest, committedGeneration,
    durableHeadDigest, idempotent, version := rfl, nonempty := h₁, committed := h₂, isSha256 := h₃ }

end ObservedOutcomeReleaseRecovery

def verifyOutcomeAgainstDispatch (state : DispatchIntentState) (outcome : PhysicalOutcomeBundle) :
    Bool :=
  let intent  := state.intent
  let auth    := outcome.authorization
  let request := auth.request
  let receipt := outcome.receipt
  state.status = .observed ∧
  intent.authorizationId = auth.authorizationId ∧
  intent.authorizationDigest = auth.digest ∧
  intent.invocationId = request.invocationId ∧
  intent.requestDigest = request.digest ∧
  intent.runnerId = request.runnerId ∧
  intent.runnerCapabilityDigest = request.runnerCapabilityDigest ∧
  intent.sessionId = request.sessionId ∧
  intent.logicalAttempt = request.attempt ∧
  intent.physicalAttempt = auth.physicalAttempt ∧
  state.providerInvocationId = receipt.providerInvocationId ∧
  state.observationDigest = some outcome.observation.digest ∧
  state.receiptDigest = some receipt.digest ∧
  state.outcomeDigest = some outcome.digest ∧
  state.transportStatus = some receipt.transportStatus

def durableRecord (state : DispatchIntentState) (outcome : PhysicalOutcomeBundle) :
    Py DurableObservedOutcome := do
  Py.require (verifyOutcomeAgainstDispatch state outcome) .dispatchIntentError
    "observed physical outcome does not match durable dispatch state"
  DurableObservedOutcome.new
    state.intent.intentId
    state.digest
    state.intent.runnerId
    state.intent.leaseId
    state.intent.leaseDigest
    state.intent.authorizationId
    state.intent.authorizationDigest
    state.intent.invocationId
    state.intent.requestDigest
    outcome.authorization.physicalAttempt
    outcome.digest
    outcome.observation.digest
    outcome.receipt.digest
    outcome.receipt.transportStatus
    outcome

def decodeOutcomeRow (row : ObservedOutcomeRow) (state : DispatchIntentState) :
    Py DurableObservedOutcome := do
  let outcome ← .wrap [.physicalOutcomeCodecError] .dispatchIntentError
    "durable observed outcome payload is invalid" <|
      deserializePhysicalOutcome row.outcomeJson
  let record ← durableRecord state outcome
  Py.require (row = observedRow record row.outcomeJson) .dispatchIntentError
    "durable observed outcome metadata mismatch"
  return record

namespace DurableObservedOutcomeStore

open DispatchIntentStore

def loadedOutcome (state : DispatchIntentState) (row : Option ObservedOutcomeRow) :
    Py DurableObservedOutcome := do
  Py.require (state.status = .observed) .dispatchIntentError <|
    if row.isSome then "non-observed dispatch state has durable outcome bytes"
    else "dispatch intent has no observed physical outcome"
  let row ← Py.ofOption .dispatchIntentError
    "observed dispatch state is missing durable physical outcome bytes" row
  decodeOutcomeRow row state

-- The two rows are read by two statements, between which another client may commit.
def loadObservedOutcome (intentId : String) : StoreCall DurableObservedOutcome := do
  let stateRow ← StoreCall.query (·.intent? intentId)
  let stateRow ← (Py.ofOption .dispatchIntentError "durable dispatch intent does not exist" stateRow :
    Py _)
  let state ← (decodeIntentRow stateRow : Py _)
  let outcomeRow ← StoreCall.query (·.outcome? intentId)
  (loadedOutcome state outcomeRow : Py _)

-- The answer to an outcome for an intent that is observed already.
def recordAgain (current : DispatchIntentState) (row : Option ObservedOutcomeRow)
    (expectedStateDigest : String) (outcome : PhysicalOutcomeBundle) (outcomeJson : String) :
    Py DispatchIntentState := do
  Py.require
    (expectedStateDigest = current.digest ∨ some expectedStateDigest = current.previousStateDigest)
    .dispatchIntentError "stale durable dispatch intent state"
  let row ← Py.ofOption .dispatchIntentError
    "observed dispatch state is missing durable physical outcome bytes" row
  let existing ← decodeOutcomeRow row current
  Py.require (existing.outcome = outcome ∧ row.outcomeJson = outcomeJson) .dispatchIntentError
    "dispatch intent already has a different durable physical outcome"
  return current

def insertOutcome (record : DurableObservedOutcome) (outcomeJson : String) : Transaction Unit := do
  let stores ← get
  let outcomes ← Py.ofOption .integrityError "UNIQUE constraint failed" <|
    stores.observedOutcomes.insert? (observedRow record outcomeJson)
  set { stores with observedOutcomes := outcomes }

-- What the transaction has written is read again before it is committed.
def readBack (intentId : String) (newState : DispatchIntentState)
    (outcome : PhysicalOutcomeBundle) : Transaction DispatchIntentState := do
  let stores ← get
  let stateRow ← Py.ofOption .dispatchIntentError "observed outcome transaction is incomplete" <|
    stores.intent? intentId
  let outcomeRow ← Py.ofOption .dispatchIntentError "observed outcome transaction is incomplete" <|
    stores.outcome? intentId
  let committed ← decodeIntentRow stateRow
  Py.require (committed = newState) .dispatchIntentError
    "observed dispatch state does not match candidate"
  let record ← decodeOutcomeRow outcomeRow committed
  Py.require (record.outcome = outcome) .dispatchIntentError
    "durable physical outcome does not match candidate"
  return committed

def recordStatements (intentId expectedStateDigest : String) (outcome : PhysicalOutcomeBundle)
    (outcomeJson : String) : Transaction DispatchIntentState := do
  let stores ← get
  let stateRow ← Py.ofOption .dispatchIntentError "durable dispatch intent does not exist" <|
    stores.intent? intentId
  let current ← decodeIntentRow stateRow
  let existing := stores.outcome? intentId
  if current.status = .observed then
    recordAgain current existing expectedStateDigest outcome outcomeJson
  else
    Py.require (current.digest = expectedStateDigest) .dispatchIntentError
      "stale durable dispatch intent state"
    Py.require (current.status = .submissionUnknown) .dispatchIntentError
      "provider observation requires submission_unknown state"
    Py.require existing.isNone .dispatchIntentError
      "non-observed dispatch state already has durable outcome bytes"
    Py.require (belongsToIntent current.intent outcome) .dispatchIntentError
      "physical outcome does not belong to durable dispatch intent"
    let newState := observedState current outcome
    let record ← durableRecord newState outcome
    updateRow stores current newState "durable dispatch compare-and-swap failed"
    insertOutcome record outcomeJson
    readBack intentId newState outcome

-- `except sqlite3.IntegrityError`
def recordObserved (intentId expectedStateDigest : String) (spec : ExecutionSpec)
    (registry : RunnerRegistry) (plan : DispatchPlan) (session : ExecutionSession)
    (runner : RunnerCapabilities) (outcome : PhysicalOutcomeBundle) :
    StoreCall DispatchIntentState := do
  Py.require (verifyPhysicalOutcome spec registry plan session runner outcome) .dispatchIntentError
    "physical outcome does not verify"
  let outcomeJson ← (serializePhysicalOutcome outcome : Py _)
  tryCatch (.transaction (recordStatements intentId expectedStateDigest outcome outcomeJson))
    fun e => throw <|
      if e.cls = .integrityError then
        ⟨.dispatchIntentError, "durable observed outcome uniqueness constraint rejected commit"⟩
      else e

end DurableObservedOutcomeStore

def matchingActiveLease (state : RunnerCapacityState) (record : DurableObservedOutcome) :
    Py (Option CapacityLease) :=
  match state.activeLeases.filter fun lease =>
      lease.leaseId = record.leaseId ∧
      lease.digest = record.leaseDigest ∧
      lease.authorizationId = record.authorizationId ∧
      lease.authorizationDigest = record.authorizationDigest ∧
      lease.invocationId = record.invocationId ∧
      lease.physicalAttempt = record.physicalAttempt with
  | []      => return none
  | [lease] => return some lease
  | _       => Py.raise .durableCapacityError
    "observed outcome matches multiple active capacity leases"

def matchingRelease (state : RunnerCapacityState) (record : DurableObservedOutcome) :
    Py (Option CapacityRelease) :=
  match state.releases.filter fun release =>
      release.leaseId = record.leaseId ∧
      release.leaseDigest = record.leaseDigest ∧
      release.authorizationId = record.authorizationId ∧
      release.authorizationDigest = record.authorizationDigest ∧
      release.invocationId = record.invocationId ∧
      release.physicalAttempt = record.physicalAttempt ∧
      release.releaseKind = .terminalOutcome ∧
      release.outcomeDigest = some record.outcomeDigest ∧
      release.receiptDigest = some record.receiptDigest ∧
      release.transportStatus = some record.transportStatus with
  | []        => return none
  | [release] => return some release
  | _         => Py.raise .durableCapacityError
    "observed outcome has duplicate canonical capacity releases"

def idempotentReleaseRecovery (state : RunnerCapacityState) (head : DurableCapacityHead)
    (record : DurableObservedOutcome) : Py (Option ObservedOutcomeReleaseRecovery) := do
  match ← matchingRelease state record with
  | none         => return none
  | some release => return some (← ObservedOutcomeReleaseRecovery.new
    record.intentId record.outcomeDigest release.digest state.digest state.generation head.digest
    true)

-- `except DurableCapacityError` of the commit: another client has been faster.
def recoverReleased (runner : RunnerCapabilities) (record : DurableObservedOutcome) (e : PyError) :
    StoreCall ObservedOutcomeReleaseRecovery := do
  if e.cls.IsA .durableCapacityError then
    let (latestState, latestHead) ← CapacityHeadStore.load runner
    match ← (idempotentReleaseRecovery latestState latestHead record : Py _) with
    | some recovered => return recovered
    | none           => throw e
  else
    throw e

def releaseObservedCapacityAfterRestart (intentId : String) (spec : ExecutionSpec)
    (registry : RunnerRegistry) (plan : DispatchPlan) (session : ExecutionSession)
    (runner : RunnerCapabilities) : StoreCall ObservedOutcomeReleaseRecovery := do
  let dispatchState ← DispatchIntentStore.load intentId
  Py.require (dispatchState.status = .observed) .dispatchIntentError
    "capacity release recovery requires observed dispatch state"
  let record ← DurableObservedOutcomeStore.loadObservedOutcome intentId
  Py.require (verifyPhysicalOutcome spec registry plan session runner record.outcome)
    .dispatchIntentError
    "durable physical outcome no longer verifies against execution context"
  let (capacityState, capacityHead) ← CapacityHeadStore.load runner
  Py.require (verifyCapacityState capacityState runner) .durableCapacityError
    "canonical capacity state does not replay"
  match ← (matchingActiveLease capacityState record : Py _) with
  | none =>
    match ← (idempotentReleaseRecovery capacityState capacityHead record : Py _) with
    | some recovered => return recovered
    | none           => throw ⟨.durableCapacityError,
      "durable observed outcome is neither active nor canonically released"⟩
  | some active =>
    let (newState, grant, _) ← (releaseCapacityForOutcome capacityState spec registry plan session
      runner active record.outcome : Py _)
    match ← (CapacityHeadStore.commit runner capacityState.digest newState).attempt with
    | .error e          => recoverReleased runner record e
    | .ok committedHead =>
      ObservedOutcomeReleaseRecovery.new record.intentId record.outcomeDigest grant.release.digest
        newState.digest newState.generation committedHead.digest false

end GeneralExecution
