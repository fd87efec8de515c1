import GeneralExecution.Objects.Capacity

namespace GeneralExecution

def genesis : String :=
  "sha256:" ++ .ofList (List.replicate 64 '0')

-- Nothing checks the fields of an event when it is constructed.
structure LedgerEvent where
  index         : Int
  eventType     : String
  previousHash  : String
  payload       : PyValue
  eventHash     : String
  schemaVersion : String := "ge.ledger-event.v1"

structure ExecutionLedger where
  events        : List LedgerEvent := []
  schemaVersion : String := "ge.execution-ledger.v1"

def ExecutionLedger.head (ledger : ExecutionLedger) : String :=
  match ledger.events.getLast? with
  | some event => event.eventHash
  | none       => genesis

-- What an event hash is the hash of. The schema version is this one for every event.
def eventValue (index : Int) (eventType previousHash : String) (payload : PyValue) : PyValue :=
  .dict [
    ("schema_version", toPy "ge.ledger-event.v1"),
    ("index", toPy index),
    ("event_type", toPy eventType),
    ("previous_hash", toPy previousHash),
    ("payload", payload)]

def LedgerEvent.value (event : LedgerEvent) : PyValue :=
  eventValue event.index event.eventType event.previousHash event.payload

-- `payload.get(k)` of a payload that is a dictionary.
def PyValue.member? (k : String) : PyValue → Option PyValue
  | .dict kvs => Json.lookup k kvs
  | _         => none

-- The member is this text.
def PyValue.names (payload : PyValue) (k text : String) : Bool :=
  match payload.member? k with
  | some (.str s) => s = text
  | _             => false

structure DuplicatePhysicalAttempt where
  authorizationId               : String
  invocationId                  : String
  requestDigest                 : String
  physicalAttempt               : Nat
  canonicalObservationDigest    : String
  duplicateObservationDigest    : String
  canonicalProviderInvocationId : String
  duplicateProviderInvocationId : String
  schemaVersion                 : String := "ge.duplicate-physical-attempt.v1"

instance : AsDict DuplicatePhysicalAttempt where
  asdict d := [
    ("authorization_id", toPy d.authorizationId),
    ("invocation_id", toPy d.invocationId),
    ("request_digest", toPy d.requestDigest),
    ("physical_attempt", toPy d.physicalAttempt),
    ("canonical_observation_digest", toPy d.canonicalObservationDigest),
    ("duplicate_observation_digest", toPy d.duplicateObservationDigest),
    ("canonical_provider_invocation_id", toPy d.canonicalProviderInvocationId),
    ("duplicate_provider_invocation_id", toPy d.duplicateProviderInvocationId),
    ("schema_version", toPy d.schemaVersion)]

structure PhysicalAttemptRecord where
  authorizationId : String
  outcomeDigest   : String
  firstEventIndex : Int
  lastEventIndex  : Int
  recordedHead    : String
  schemaVersion   : String := "ge.physical-attempt-record.v1"

structure CapacityTransitionRecord where
  transitionDigest : String
  stateDigest      : String
  eventIndex       : Int
  recordedHead     : String
  schemaVersion    : String := "ge.capacity-transition-record.v1"

variable [Sha256]

-- `_event_hash`
def eventHash (index : Int) (eventType previousHash : String) (payload : PyValue) : String :=
  sha256Digest (eventValue index eventType previousHash payload)

def ledgerEvent (ledger : ExecutionLedger) (eventType : String) (payload : PyValue) :
    LedgerEvent where
  index        := ledger.events.length
  eventType    := eventType
  previousHash := ledger.head
  payload      := payload
  eventHash    := eventHash ledger.events.length eventType ledger.head payload

def appendEvent (ledger : ExecutionLedger) (eventType : String) (payload : PyValue) :
    Py ExecutionLedger := do
  Py.require (¬Text.Blank eventType) .valueError "event_type must be non-empty"
  return { events := ledger.events ++ [ledgerEvent ledger eventType payload] }

-- The loop of `verify_ledger`.
def verifyEvents (previous : String) (expectedIndex : Nat) : List LedgerEvent → Bool
  | []              => true
  | event :: events =>
    if event.index ≠ expectedIndex ∨ event.previousHash ≠ previous then false
    else if event.eventHash ≠
        eventHash event.index event.eventType event.previousHash event.payload then false
    else verifyEvents event.eventHash (expectedIndex + 1) events

def verifyLedger (ledger : ExecutionLedger) : Bool :=
  verifyEvents genesis 0 ledger.events

-- Two payloads are compared by their canonical texts, in which the order of a dictionary's members
-- does not count.
def LedgerEvent.holds (event : LedgerEvent) (eventType : String) (payload : PyValue) : Bool :=
  event.eventType = eventType ∧ canonicalJson event.payload = canonicalJson payload

def DuplicatePhysicalAttempt.digest (d : DuplicatePhysicalAttempt) : String :=
  sha256Digest (toPy d)

-- `_physical_payloads`
def physicalPayloads (bundle : PhysicalOutcomeBundle) : List (String × PyValue) :=
  let terminal :=
    match bundle.result with
    | some result =>
      ("PHYSICAL_RESULT", .dict [
        ("result", .dict (resultToDict result)),
        ("result_digest", toPy result.digest)])
    | none        =>
      ("PHYSICAL_TERMINAL_FAILURE", .dict [
        ("transport_status", toPy bundle.receipt.transportStatus),
        ("failure_code", toPy bundle.receipt.failureCode),
        ("receipt_digest", toPy bundle.receipt.digest)])
  [("PHYSICAL_DISPATCH", .dict [
      ("authorization", toPy bundle.authorization),
      ("authorization_digest", toPy bundle.authorization.digest)]),
    ("PHYSICAL_OBSERVATION", .dict [
      ("observation", toPy bundle.observation),
      ("observation_digest", toPy bundle.observation.digest)]),
    ("PHYSICAL_RECEIPT", .dict [
      ("receipt", toPy bundle.receipt),
      ("receipt_digest", toPy bundle.receipt.digest)]),
    terminal]

def appendEvents (ledger : ExecutionLedger) (events : List (String × PyValue)) :
    Py ExecutionLedger :=
  events.foldlM (fun ledger e => appendEvent ledger e.1 e.2) ledger

-- The ledger's own events of dispatch carry no other value than a digest there.
def dispatched (ledger : ExecutionLedger) (authorizationDigest : String) : Bool :=
  ledger.events.any fun event =>
    event.eventType = "PHYSICAL_DISPATCH" ∧
      event.payload.names "authorization_digest" authorizationDigest

def recordPhysicalAttempt (ledger : ExecutionLedger) (bundle : PhysicalOutcomeBundle) :
    Py (ExecutionLedger × PhysicalAttemptRecord) := do
  Py.require (¬dispatched ledger bundle.authorization.digest) .physicalAttemptError
    "physical authorization is already recorded"
  let current ← appendEvents ledger (physicalPayloads bundle)
  return (current, {
    authorizationId := bundle.authorization.authorizationId
    outcomeDigest   := bundle.digest
    firstEventIndex := ledger.events.length
    lastEventIndex  := ledger.events.length + 3
    recordedHead    := current.head })

def verifyPhysicalAttemptRecord (ledger : ExecutionLedger) (bundle : PhysicalOutcomeBundle)
    (record : PhysicalAttemptRecord) : Bool :=
  let actual := (ledger.events.drop record.firstEventIndex.toNat).take
    (record.lastEventIndex + 1 - record.firstEventIndex).toNat
  verifyLedger ledger ∧
  record.authorizationId = bundle.authorization.authorizationId ∧
  record.outcomeDigest = bundle.digest ∧
  record.lastEventIndex = record.firstEventIndex + 3 ∧
  0 ≤ record.firstEventIndex ∧ record.lastEventIndex < ledger.events.length ∧
  actual.length = 4 ∧
  ((actual.zip (physicalPayloads bundle)).all fun x => x.1.holds x.2.1 x.2.2) ∧
  actual.getLast?.map LedgerEvent.eventHash = some record.recordedHead

def recordDuplicatePhysicalAttempt (ledger : ExecutionLedger)
    (duplicate : DuplicatePhysicalAttempt) : Py ExecutionLedger :=
  appendEvent ledger "DUPLICATE_PHYSICAL_ATTEMPT" <| .dict [
    ("duplicate", toPy duplicate),
    ("duplicate_digest", toPy duplicate.digest)]

def capacityEventType (transition : CapacityTransition) : String :=
  match transition.change with
  | .reserve _ => "CAPACITY_RESERVED"
  | .release _ => "CAPACITY_RELEASED"

def capacityPayload (transition : CapacityTransition) (state : RunnerCapacityState) : PyValue :=
  .dict [
    ("transition", toPy transition),
    ("transition_digest", toPy transition.digest),
    ("state_digest", toPy state.digest),
    ("generation", toPy state.generation)]

def recordCapacityTransition (ledger : ExecutionLedger) (transition : CapacityTransition)
    (state : RunnerCapacityState) : Py (ExecutionLedger × CapacityTransitionRecord) := do
  Py.require (state.transitions.getLast? = some transition) .capacityError
    "state does not end with supplied capacity transition"
  Py.require
    (∀ event ∈ ledger.events, ¬event.payload.names "transition_digest" transition.digest)
    .capacityError "capacity transition is already recorded"
  let updated ← appendEvent ledger (capacityEventType transition) (capacityPayload transition state)
  return (updated, {
    transitionDigest := transition.digest
    stateDigest      := state.digest
    eventIndex       := updated.events.length - 1
    recordedHead     := updated.head })

def verifyCapacityTransitionRecord (ledger : ExecutionLedger) (transition : CapacityTransition)
    (state : RunnerCapacityState) (record : CapacityTransitionRecord) : Bool :=
  verifyLedger ledger && decide (0 ≤ record.eventIndex) &&
  match ledger.events[record.eventIndex.toNat]? with
  | none       => false
  | some event =>
    record.transitionDigest = transition.digest ∧
    record.stateDigest = state.digest ∧
    event.holds (capacityEventType transition) (capacityPayload transition state) ∧
    event.eventHash = record.recordedHead

end GeneralExecution
