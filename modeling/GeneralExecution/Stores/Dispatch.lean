import GeneralExecution.Stores.Durable

namespace GeneralExecution

inductive DispatchStatus
  | prepared
  | submissionUnknown
  | observed
deriving DecidableEq

instance : PyLiteral DispatchStatus where
  spelling
    | .prepared          => "prepared"
    | .submissionUnknown => "submission_unknown"
    | .observed          => "observed"
  values           := [.prepared, .submissionUnknown, .observed]
  parse_spelling a := by cases a <;> rfl

@[ext]
structure DispatchIntent where
  runnerId               : String
  runnerCapabilityDigest : String
  leaseId                : String
  leaseDigest            : String
  slot                   : Nat
  sessionId              : String
  logicalAttempt         : Nat
  authorizationId        : String
  authorizationDigest    : String
  invocationId           : String
  requestDigest          : String
  physicalAttempt        : Nat
  capacityStateDigest    : String
  schemaVersion          : String := "ge.dispatch-intent.v1"
  hasAttempts            : 1 ≤ logicalAttempt ∧ 1 ≤ physicalAttempt
  nonempty :
    ∀ x ∈ [("runner_id", runnerId), ("runner_capability_digest", runnerCapabilityDigest),
      ("lease_id", leaseId), ("lease_digest", leaseDigest), ("session_id", sessionId),
      ("authorization_id", authorizationId), ("authorization_digest", authorizationDigest),
      ("invocation_id", invocationId), ("request_digest", requestDigest),
      ("capacity_state_digest", capacityStateDigest)], x.2 ≠ ""

instance : DecidableEq DispatchIntent :=
  fun _ _ => decidable_of_iff _ DispatchIntent.ext_iff.symm

namespace DispatchIntent

def new (runnerId runnerCapabilityDigest leaseId leaseDigest : String) (slot : Nat)
    (sessionId : String) (logicalAttempt : Nat)
    (authorizationId authorizationDigest invocationId requestDigest : String)
    (physicalAttempt : Nat) (capacityStateDigest schemaVersion : String) : Py DispatchIntent := do
  let ⟨h₁⟩ ← Py.check (1 ≤ logicalAttempt ∧ 1 ≤ physicalAttempt) .valueError
    "attempt ordinals must be >= 1"
  let ⟨h₂⟩ ← checkTruthy
    [("runner_id", runnerId), ("runner_capability_digest", runnerCapabilityDigest),
      ("lease_id", leaseId), ("lease_digest", leaseDigest), ("session_id", sessionId),
      ("authorization_id", authorizationId), ("authorization_digest", authorizationDigest),
      ("invocation_id", invocationId), ("request_digest", requestDigest),
      ("capacity_state_digest", capacityStateDigest)]
  return {
    runnerId, runnerCapabilityDigest, leaseId, leaseDigest, slot, sessionId, logicalAttempt,
    authorizationId, authorizationDigest, invocationId, requestDigest, physicalAttempt,
    capacityStateDigest, schemaVersion, hasAttempts := h₁, nonempty := h₂ }

theorem new_eq (i : DispatchIntent) :
    new i.runnerId i.runnerCapabilityDigest i.leaseId i.leaseDigest i.slot i.sessionId
      i.logicalAttempt i.authorizationId i.authorizationDigest i.invocationId i.requestDigest
      i.physicalAttempt i.capacityStateDigest i.schemaVersion = .ok i := by
  simp only [new, Py.check_of i.hasAttempts, checkTruthy_of i.nonempty, Except.ok_bind]
  rfl

instance : AsDict DispatchIntent where
  asdict i := [
    ("runner_id", toPy i.runnerId),
    ("runner_capability_digest", toPy i.runnerCapabilityDigest),
    ("lease_id", toPy i.leaseId),
    ("lease_digest", toPy i.leaseDigest),
    ("slot", toPy i.slot),
    ("session_id", toPy i.sessionId),
    ("logical_attempt", toPy i.logicalAttempt),
    ("authorization_id", toPy i.authorizationId),
    ("authorization_digest", toPy i.authorizationDigest),
    ("invocation_id", toPy i.invocationId),
    ("request_digest", toPy i.requestDigest),
    ("physical_attempt", toPy i.physicalAttempt),
    ("capacity_state_digest", toPy i.capacityStateDigest),
    ("schema_version", toPy i.schemaVersion)]

end DispatchIntent

-- What a state of each status must and may carry.
def DispatchEvidence (status : DispatchStatus) (revision : Nat) (previousStateDigest : Option String)
    (providerInvocationId observationDigest receiptDigest outcomeDigest : Option String)
    (transportStatus : Option TransportStatus) : Prop :=
  match status with
  | .prepared =>
    (revision = 0 ∧ previousStateDigest = none) ∧
      (providerInvocationId = none ∧ observationDigest = none ∧ receiptDigest = none ∧
        outcomeDigest = none ∧ transportStatus = none)
  | .submissionUnknown =>
    (revision = 1 ∧ Text.Truthy previousStateDigest) ∧
      (providerInvocationId = none ∧ observationDigest = none ∧ receiptDigest = none ∧
        outcomeDigest = none ∧ transportStatus = none)
  | .observed =>
    (revision = 2 ∧ Text.Truthy previousStateDigest) ∧
      (observationDigest.isSome ∧ receiptDigest.isSome ∧ outcomeDigest.isSome ∧
        transportStatus.isSome)

instance (status : DispatchStatus) (revision : Nat) (previousStateDigest : Option String)
    (providerInvocationId observationDigest receiptDigest outcomeDigest : Option String)
    (transportStatus : Option TransportStatus) :
    Decidable (DispatchEvidence status revision previousStateDigest providerInvocationId
      observationDigest receiptDigest outcomeDigest transportStatus) := by
  unfold DispatchEvidence
  cases status <;> infer_instance

@[ext]
structure DispatchIntentState where
  intent               : DispatchIntent
  status               : DispatchStatus
  revision             : Nat
  previousStateDigest  : Option String := none
  providerInvocationId : Option String := none
  observationDigest    : Option String := none
  receiptDigest        : Option String := none
  outcomeDigest        : Option String := none
  transportStatus      : Option TransportStatus := none
  schemaVersion        : String := "ge.dispatch-intent-state.v1"
  evidence :
    DispatchEvidence status revision previousStateDigest providerInvocationId observationDigest
      receiptDigest outcomeDigest transportStatus
deriving DecidableEq

namespace DispatchIntentState

def evidenceMessage (status : DispatchStatus) (revision : Nat) (previousStateDigest : Option String) :
    String :=
  match status with
  | .prepared =>
    if revision = 0 ∧ previousStateDigest = none then
      "prepared dispatch state cannot carry provider evidence"
    else "prepared dispatch state must be revision 0 without predecessor"
  | .submissionUnknown =>
    if revision = 1 ∧ Text.Truthy previousStateDigest then
      "submission_unknown state cannot claim provider evidence"
    else "submission_unknown dispatch state must be revision 1 with predecessor"
  | .observed =>
    if revision = 2 ∧ Text.Truthy previousStateDigest then
      "observed dispatch state requires admitted outcome evidence"
    else "observed dispatch state must be revision 2 with predecessor"

def new (intent : DispatchIntent) (status : String) (revision : Nat)
    (previousStateDigest providerInvocationId observationDigest receiptDigest outcomeDigest :
      Option String)
    (transportStatus : Option TransportStatus) (schemaVersion : String) :
    Py DispatchIntentState := do
  let status ← Py.literal "unsupported dispatch status" status
  let ⟨h⟩ ← Py.check
    (DispatchEvidence status revision previousStateDigest providerInvocationId observationDigest
      receiptDigest outcomeDigest transportStatus)
    .valueError (evidenceMessage status revision previousStateDigest)
  return {
    intent, status, revision, previousStateDigest, providerInvocationId, observationDigest,
    receiptDigest, outcomeDigest, transportStatus, schemaVersion, evidence := h }

theorem new_eq (s : DispatchIntentState) :
    new s.intent (PyLiteral.spelling s.status) s.revision s.previousStateDigest
      s.providerInvocationId s.observationDigest s.receiptDigest s.outcomeDigest s.transportStatus
      s.schemaVersion = .ok s := by
  simp only [new, Py.literal_spelling, Py.check_of s.evidence, Except.ok_bind]
  rfl

instance : AsDict DispatchIntentState where
  asdict s := [
    ("intent", toPy s.intent),
    ("status", toPy s.status),
    ("revision", toPy s.revision),
    ("previous_state_digest", toPy s.previousStateDigest),
    ("provider_invocation_id", toPy s.providerInvocationId),
    ("observation_digest", toPy s.observationDigest),
    ("receipt_digest", toPy s.receiptDigest),
    ("outcome_digest", toPy s.outcomeDigest),
    ("transport_status", toPy s.transportStatus),
    ("schema_version", toPy s.schemaVersion)]

end DispatchIntentState

-- Proof that the durable outbox entered SUBMISSION_UNKNOWN. It grants no transport authority.
@[ext]
structure DispatchPermit where
  intentId            : String
  intentDigest        : String
  stateDigest         : String
  invocationId        : String
  requestDigest       : String
  authorizationId     : String
  authorizationDigest : String
  transportAuthority  : Bool := false
  schemaVersion       : String := "ge.dispatch-permit.v1"
  noAuthority         : transportAuthority = false

instance : DecidableEq DispatchPermit :=
  fun _ _ => decidable_of_iff _ DispatchPermit.ext_iff.symm

instance : AsDict DispatchPermit where
  asdict p := [
    ("intent_id", toPy p.intentId),
    ("intent_digest", toPy p.intentDigest),
    ("state_digest", toPy p.stateDigest),
    ("invocation_id", toPy p.invocationId),
    ("request_digest", toPy p.requestDigest),
    ("authorization_id", toPy p.authorizationId),
    ("authorization_digest", toPy p.authorizationDigest),
    ("transport_authority", toPy p.transportAuthority),
    ("schema_version", toPy p.schemaVersion)]

def intentFromDict (data : Json) : Py DispatchIntent := do
  Py.require (data.isObj ∧ Field.hasSchema data "ge.dispatch-intent.v1") .dispatchIntentError
    "unsupported dispatch intent schema"
  .wrap [.typeError, .valueError] .dispatchIntentError "invalid durable dispatch intent" do
    Field.kwargs
      ["runner_id", "runner_capability_digest", "lease_id", "lease_digest", "slot", "session_id",
        "logical_attempt", "authorization_id", "authorization_digest", "invocation_id",
        "request_digest", "physical_attempt", "capacity_state_digest"]
      ["schema_version"] data
    DispatchIntent.new
      (← Field.get Read.string data "runner_id")
      (← Field.get Read.string data "runner_capability_digest")
      (← Field.get Read.string data "lease_id")
      (← Field.get Read.string data "lease_digest")
      (← Field.get (Read.nat "slot must be >= 0") data "slot")
      (← Field.get Read.string data "session_id")
      (← Field.get (Read.nat "attempt ordinals must be >= 1") data "logical_attempt")
      (← Field.get Read.string data "authorization_id")
      (← Field.get Read.string data "authorization_digest")
      (← Field.get Read.string data "invocation_id")
      (← Field.get Read.string data "request_digest")
      (← Field.get (Read.nat "attempt ordinals must be >= 1") data "physical_attempt")
      (← Field.get Read.string data "capacity_state_digest")
      (← Field.getD Read.string "ge.dispatch-intent.v1" data "schema_version")

def dispatchStateFromDict (data : Json) : Py DispatchIntentState := do
  Py.require (data.isObj ∧ Field.hasSchema data "ge.dispatch-intent-state.v1")
    .dispatchIntentError "unsupported dispatch intent state schema"
  let intentData ← Py.ofOption .dispatchIntentError "dispatch intent state requires intent" <|
    (data.get? "intent").filter Json.isObj
  let intent ← intentFromDict intentData
  .wrap [.typeError, .valueError] .dispatchIntentError "invalid durable dispatch intent state" do
    Field.kwargs ["intent", "status", "revision"]
      ["previous_state_digest", "provider_invocation_id", "observation_digest", "receipt_digest",
        "outcome_digest", "transport_status", "schema_version"] data
    DispatchIntentState.new
      intent
      (← Field.get Read.string data "status")
      (← Field.get (Read.nat "revision must match the dispatch status") data "revision")
      (← Field.getD (Read.opt Read.string) none data "previous_state_digest")
      (← Field.getD (Read.opt Read.string) none data "provider_invocation_id")
      (← Field.getD (Read.opt Read.string) none data "observation_digest")
      (← Field.getD (Read.opt Read.string) none data "receipt_digest")
      (← Field.getD (Read.opt Read.string) none data "outcome_digest")
      (← Field.getD (Read.opt (Read.literal "observed dispatch state has unsupported transport status"))
        none data "transport_status")
      (← Field.getD Read.string "ge.dispatch-intent-state.v1" data "schema_version")

def serializeDispatchState (state : DispatchIntentState) : String :=
  canonicalJson (toPy state)

def deserializeDispatchState (stateJson : String) : Py DispatchIntentState := do
  let data ← Py.ofOption .dispatchIntentError "durable dispatch state is not valid JSON" <|
    Json.loads stateJson
  dispatchStateFromDict data

def initialDispatchState (intent : DispatchIntent) : DispatchIntentState where
  intent   := intent
  status   := .prepared
  revision := 0
  evidence := ⟨⟨rfl, rfl⟩, rfl, rfl, rfl, rfl, rfl⟩

variable [Sha256]

def DispatchIntent.intentId (i : DispatchIntent) : String :=
  stableId "gedi" (toPy i)

def DispatchIntent.digest (i : DispatchIntent) : String :=
  sha256Digest (toPy i)

def DispatchIntentState.digest (s : DispatchIntentState) : String :=
  sha256Digest (toPy s)

def DispatchPermit.digest (p : DispatchPermit) : String :=
  sha256Digest (toPy p)

-- `_find_active_lease` of the dispatch module.
def findDispatchLease (state : RunnerCapacityState) (leaseId leaseDigest : String) :
    Py CapacityLease :=
  match state.activeLeases.filter fun lease =>
      lease.leaseId = leaseId ∧ lease.digest = leaseDigest with
  | [lease] => return lease
  | _       => Py.raise .dispatchIntentError
    "dispatch intent does not reference one active capacity lease"

def prepareDispatchIntent (capacityState : RunnerCapacityState) (runner : RunnerCapabilities)
    (lease : CapacityLease) (authorization : PhysicalAttemptAuthorization) : Py DispatchIntent := do
  Py.require (verifyCapacityState capacityState runner) .dispatchIntentError
    "capacity state does not replay for runner"
  let active ← findDispatchLease capacityState lease.leaseId lease.digest
  Py.require (active = lease) .dispatchIntentError
    "capacity lease is not the exact active lease"
  let request := authorization.request
  Py.require
    (lease.runnerId = runner.runnerId ∧
      lease.runnerCapabilityDigest = runner.digest ∧
      lease.authorizationId = authorization.authorizationId ∧
      lease.authorizationDigest = authorization.digest ∧
      lease.invocationId = request.invocationId ∧
      lease.physicalAttempt = authorization.physicalAttempt ∧
      lease.sessionId = request.sessionId ∧
      lease.logicalAttempt = request.attempt ∧
      request.runnerId = runner.runnerId ∧
      request.runnerCapabilityDigest = runner.digest)
    .dispatchIntentError "authorization does not reproduce the active capacity lease"
  DispatchIntent.new
    runner.runnerId
    runner.digest
    lease.leaseId
    lease.digest
    lease.slot
    lease.sessionId
    lease.logicalAttempt
    lease.authorizationId
    authorization.digest
    request.invocationId
    request.digest
    authorization.physicalAttempt
    capacityState.digest
    "ge.dispatch-intent.v1"

def validateIntentAgainstCapacity (intent : DispatchIntent) (capacityState : RunnerCapacityState)
    (runner : RunnerCapabilities) : Py CapacityLease := do
  Py.require (verifyCapacityState capacityState runner) .dispatchIntentError
    "capacity state does not replay for runner"
  Py.require
    (intent.runnerId = runner.runnerId ∧ intent.runnerCapabilityDigest = runner.digest)
    .dispatchIntentError "dispatch intent runner capabilities changed"
  let lease ← findDispatchLease capacityState intent.leaseId intent.leaseDigest
  Py.require
    (lease.authorizationId = intent.authorizationId ∧
      lease.authorizationDigest = intent.authorizationDigest ∧
      lease.invocationId = intent.invocationId ∧
      lease.physicalAttempt = intent.physicalAttempt ∧
      lease.sessionId = intent.sessionId ∧
      lease.logicalAttempt = intent.logicalAttempt)
    .dispatchIntentError "active lease no longer matches dispatch intent"
  return lease

def dispatchPermit (state : DispatchIntentState) : Py DispatchPermit := do
  Py.require (state.status = .submissionUnknown) .dispatchIntentError
    "dispatch permit requires submission_unknown durable state"
  return {
    intentId            := state.intent.intentId
    intentDigest        := state.intent.digest
    stateDigest         := state.digest
    invocationId        := state.intent.invocationId
    requestDigest       := state.intent.requestDigest
    authorizationId     := state.intent.authorizationId
    authorizationDigest := state.intent.authorizationDigest
    noAuthority         := rfl }

def verifyDispatchPermit (state : DispatchIntentState) (permit : DispatchPermit) : Bool :=
  match dispatchPermit state with
  | .ok expected => permit.transportAuthority = false ∧ permit = expected
  | .error _     => false

def decodeIntentRow (row : DispatchIntentRow) : Py DispatchIntentState := do
  let state ← deserializeDispatchState row.stateJson
  Py.require
    (state.intent.intentId = row.intentId ∧ state.intent.runnerId = row.runnerId ∧
      state.intent.leaseId = row.leaseId ∧ state.digest = row.stateDigest ∧
      state.revision = row.revision)
    .dispatchIntentError "durable dispatch row metadata mismatch"
  return state

def submissionUnknownState (current : DispatchIntentState) : DispatchIntentState where
  intent              := current.intent
  status              := .submissionUnknown
  revision            := 1
  previousStateDigest := some current.digest
  evidence            :=
    ⟨⟨rfl, Text.truthy_some.mpr (sha256Digest_ne_empty _)⟩, rfl, rfl, rfl, rfl, rfl⟩

def observedState (current : DispatchIntentState) (outcome : PhysicalOutcomeBundle) :
    DispatchIntentState where
  intent               := current.intent
  status               := .observed
  revision             := 2
  previousStateDigest  := some current.digest
  providerInvocationId := outcome.receipt.providerInvocationId
  observationDigest    := some outcome.observation.digest
  receiptDigest        := some outcome.receipt.digest
  outcomeDigest        := some outcome.digest
  transportStatus      := some outcome.receipt.transportStatus
  evidence             :=
    ⟨⟨rfl, Text.truthy_some.mpr (sha256Digest_ne_empty _)⟩, rfl, rfl, rfl, rfl⟩

-- The outcome carries exactly what the intent was prepared for.
def belongsToIntent (intent : DispatchIntent) (outcome : PhysicalOutcomeBundle) : Prop :=
  let auth := outcome.authorization
  auth.authorizationId = intent.authorizationId ∧
  auth.digest = intent.authorizationDigest ∧
  auth.request.invocationId = intent.invocationId ∧
  auth.request.digest = intent.requestDigest ∧
  auth.request.runnerId = intent.runnerId ∧
  auth.request.runnerCapabilityDigest = intent.runnerCapabilityDigest ∧
  auth.physicalAttempt = intent.physicalAttempt

instance (intent : DispatchIntent) (outcome : PhysicalOutcomeBundle) :
    Decidable (belongsToIntent intent outcome) :=
  inferInstanceAs <| Decidable (_ ∧ _ ∧ _ ∧ _ ∧ _ ∧ _ ∧ _)

namespace DispatchIntentStore

def initializeStatements (intent : DispatchIntent) : Transaction DispatchIntentState := do
  let state := initialDispatchState intent
  let stores ← get
  match stores.intent? intent.intentId with
  | some row =>
    let existing ← decodeIntentRow row
    Py.require (existing = state) .dispatchIntentError
      "durable dispatch intent already exists with different state"
    return existing
  | none =>
    Py.require
      ((stores.dispatchIntents.select DispatchIntentRow.leaseId intent.leaseId).isNone)
      .dispatchIntentError "capacity lease already has a durable dispatch intent"
    let intents ← Py.ofOption .integrityError "UNIQUE constraint failed" <|
      stores.dispatchIntents.insert? {
        intentId    := intent.intentId
        runnerId    := intent.runnerId
        leaseId     := intent.leaseId
        stateDigest := state.digest
        revision    := state.revision
        stateJson   := serializeDispatchState state }
    set { stores with dispatchIntents := intents }
    return state

def initializeIntent (intent : DispatchIntent) : StoreCall DispatchIntentState :=
  .transaction (initializeStatements intent)

def load (intentId : String) : StoreCall DispatchIntentState := do
  match ← StoreCall.query (·.intent? intentId) with
  | none     => throw ⟨.dispatchIntentError, "durable dispatch intent does not exist"⟩
  | some row => decodeIntentRow row

-- The rows are decoded before they are filtered.
def loadForRunner (runnerId : String) : StoreCall (List DispatchIntentState) := do
  let rows ← StoreCall.query fun stores =>
    stores.dispatchIntents.rows.mergeSort fun a b => a.intentId ≤ b.intentId
  let decoded ← (rows.mapM decodeIntentRow : Py _)
  return decoded.filter (·.intent.runnerId = runnerId)

-- The `UPDATE` that both ways of committing a successor state share.
def updateRow (stores : Stores) (current newState : DispatchIntentState) (message : String) :
    Transaction Unit := do
  let matching := fun r : DispatchIntentRow =>
    r.intentId = current.intent.intentId ∧ r.runnerId = current.intent.runnerId ∧
      r.leaseId = current.intent.leaseId ∧ r.stateDigest = current.digest ∧
      r.revision = current.revision
  Py.require (stores.dispatchIntents.count (matching ·) = 1) .dispatchIntentError message
  set { stores with
    dispatchIntents := stores.dispatchIntents.update (matching ·)
      (fun r => { r with
        stateDigest := newState.digest
        revision    := newState.revision
        stateJson   := serializeDispatchState newState })
      (by simp) }

def commitStatements (current newState : DispatchIntentState) : Transaction DispatchIntentState := do
  let stores ← get
  let row ← Py.ofOption .dispatchIntentError "durable dispatch intent does not exist" <|
    stores.intent? current.intent.intentId
  let durable ← decodeIntentRow row
  Py.require (durable = current) .dispatchIntentError "stale durable dispatch intent state"
  updateRow stores current newState "durable dispatch compare-and-swap failed"
  return newState

def commit (current newState : DispatchIntentState) : StoreCall DispatchIntentState := do
  Py.require (newState.intent = current.intent) .dispatchIntentError
    "dispatch state transition cannot change intent identity"
  Py.require
    (newState.revision = current.revision + 1 ∧ newState.previousStateDigest = some current.digest)
    .dispatchIntentError "dispatch state transition predecessor mismatch"
  .transaction (commitStatements current newState)

-- `except DurableCapacityError`
def capacityHead (runner : RunnerCapabilities) : StoreCall RunnerCapacityState :=
  tryCatch (do return (← CapacityHeadStore.load runner).1) fun e =>
    throw <|
      if e.cls.IsA .durableCapacityError then
        ⟨.dispatchIntentError, "canonical durable capacity head is unavailable"⟩
      else e

def beginSubmission (intentId expectedStateDigest : String) (runner : RunnerCapabilities) :
    StoreCall (DispatchIntentState × DispatchPermit) := do
  let current ← load intentId
  Py.require (current.digest = expectedStateDigest) .dispatchIntentError
    "stale durable dispatch intent state"
  Py.require (current.status = .prepared) .dispatchIntentError
    "only prepared dispatch intent may begin submission"
  let capacityState ← capacityHead runner
  let _ ← (validateIntentAgainstCapacity current.intent capacityState runner : Py _)
  let committed ← commit current (submissionUnknownState current)
  return (committed, ← (dispatchPermit committed : Py _))

def recordObserved (intentId expectedStateDigest : String) (spec : ExecutionSpec)
    (registry : RunnerRegistry) (plan : DispatchPlan) (session : ExecutionSession)
    (runner : RunnerCapabilities) (outcome : PhysicalOutcomeBundle) :
    StoreCall DispatchIntentState := do
  let current ← load intentId
  Py.require (current.digest = expectedStateDigest) .dispatchIntentError
    "stale durable dispatch intent state"
  Py.require (current.status = .submissionUnknown) .dispatchIntentError
    "provider observation requires submission_unknown state"
  Py.require (verifyPhysicalOutcome spec registry plan session runner outcome) .dispatchIntentError
    "physical outcome does not verify"
  Py.require (belongsToIntent current.intent outcome) .dispatchIntentError
    "physical outcome does not belong to durable dispatch intent"
  commit current (observedState current outcome)

end DispatchIntentStore

end GeneralExecution
