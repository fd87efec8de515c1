import GeneralExecution.Stores.Tables
import GeneralExecution.Objects.Fields
import GeneralExecution.Objects.Capacity

namespace GeneralExecution

def snapshotSchema : String :=
  "ge.capacity-snapshot.v1"

structure DurableCapacityHead where
  runnerId               : String
  runnerCapabilityDigest : String
  stateDigest            : String
  generation             : Nat
  snapshotDigest         : String
  schemaVersion          : String := "ge.durable-capacity-head.v1"
deriving DecidableEq

instance : AsDict DurableCapacityHead where
  asdict h := [
    ("runner_id", toPy h.runnerId),
    ("runner_capability_digest", toPy h.runnerCapabilityDigest),
    ("state_digest", toPy h.stateDigest),
    ("generation", toPy h.generation),
    ("snapshot_digest", toPy h.snapshotDigest),
    ("schema_version", toPy h.schemaVersion)]

def CapacityLease.new (runnerId runnerCapabilityDigest : String) (slot : Nat) (sessionId : String)
    (logicalAttempt : Nat) (authorizationId authorizationDigest invocationId : String)
    (physicalAttempt : Nat) (previousInvocationId previousReceiptDigest : Option String)
    (expectedStateDigest schemaVersion : String) : Py CapacityLease := do
  let ⟨h₁⟩ ← Py.check (1 ≤ logicalAttempt ∧ 1 ≤ physicalAttempt) .valueError
    "attempt ordinals must be >= 1"
  let ⟨h₂⟩ ← Py.check (ChainOk physicalAttempt previousInvocationId previousReceiptDigest)
    .valueError <|
      if physicalAttempt = 1 then "first physical lease cannot have predecessor bindings"
      else "retry physical lease requires predecessor bindings"
  return {
    runnerId, runnerCapabilityDigest, slot, sessionId, logicalAttempt, authorizationId,
    authorizationDigest, invocationId, physicalAttempt, previousInvocationId,
    previousReceiptDigest, expectedStateDigest, schemaVersion, hasAttempts := h₁, chain := h₂ }

theorem CapacityLease.new_eq (l : CapacityLease) :
    new l.runnerId l.runnerCapabilityDigest l.slot l.sessionId l.logicalAttempt l.authorizationId
      l.authorizationDigest l.invocationId l.physicalAttempt l.previousInvocationId
      l.previousReceiptDigest l.expectedStateDigest l.schemaVersion = .ok l := by
  simp only [new, Py.check_of l.hasAttempts, Py.check_of l.chain, Except.ok_bind]
  rfl

def CapacityRelease.new (leaseId leaseDigest runnerId sessionId : String) (logicalAttempt : Nat)
    (authorizationId authorizationDigest invocationId : String) (physicalAttempt : Nat)
    (releaseKind expectedStateDigest : String) (outcomeDigest receiptDigest : Option String)
    (transportStatus : Option TransportStatus) (revokedSessionDigest : Option String)
    (schemaVersion : String) : Py CapacityRelease := do
  let releaseKind ← Py.literal "unsupported release_kind" releaseKind
  let ⟨h⟩ ← Py.check
    (ReleaseEvidence releaseKind outcomeDigest receiptDigest transportStatus revokedSessionDigest)
    .valueError <|
      match releaseKind with
      | .terminalOutcome =>
        "terminal outcome release requires outcome, receipt and transport status only"
      | .sessionRevoked => "session revocation release requires revoked session digest only"
  return {
    leaseId, leaseDigest, runnerId, sessionId, logicalAttempt, authorizationId,
    authorizationDigest, invocationId, physicalAttempt, releaseKind, expectedStateDigest,
    outcomeDigest, receiptDigest, transportStatus, revokedSessionDigest, schemaVersion,
    evidence := h }

theorem CapacityRelease.new_eq (r : CapacityRelease) :
    new r.leaseId r.leaseDigest r.runnerId r.sessionId r.logicalAttempt r.authorizationId
      r.authorizationDigest r.invocationId r.physicalAttempt (PyLiteral.spelling r.releaseKind)
      r.expectedStateDigest r.outcomeDigest r.receiptDigest r.transportStatus
      r.revokedSessionDigest r.schemaVersion = .ok r := by
  simp only [new, Py.literal_spelling, Py.check_of r.evidence, Except.ok_bind]
  rfl

def CapacityTransition.new (kind expectedStateDigest : String) (lease : Option CapacityLease)
    (release : Option CapacityRelease) (schemaVersion : String) : Py CapacityTransition :=
  if kind = "reserve" then
    match lease, release with
    | some lease, none => return { change := .reserve lease, expectedStateDigest, schemaVersion }
    | _, _             => Py.raise .valueError "reserve transition requires lease only"
  else if kind = "release" then
    match lease, release with
    | none, some release => return { change := .release release, expectedStateDigest, schemaVersion }
    | _, _               => Py.raise .valueError "release transition requires release only"
  else
    Py.raise .valueError "unsupported transition kind"

theorem CapacityTransition.new_eq (t : CapacityTransition) :
    new t.kind t.expectedStateDigest t.lease t.release t.schemaVersion = .ok t := by
  obtain ⟨_ | _, _, _⟩ := t <;> rfl

def RunnerCapacityState.new (runnerId runnerCapabilityDigest : String)
    (maxParallelism generation : Nat) (previousStateDigest : Option String)
    (transitions : List CapacityTransition) (schemaVersion : String) : Py RunnerCapacityState := do
  let ⟨h₁⟩ ← Py.check (1 ≤ maxParallelism) .valueError "max_parallelism must be >= 1"
  let ⟨h₂⟩ ← Py.check (previousStateDigest.isNone ↔ generation = 0) .valueError <|
    if generation = 0 then "genesis capacity state cannot have predecessor"
    else "non-genesis capacity state requires predecessor digest"
  let ⟨h₃⟩ ← Py.check (generation = transitions.length) .valueError
    "generation must equal transition count"
  return {
    runnerId, runnerCapabilityDigest, maxParallelism, generation, previousStateDigest, transitions,
    schemaVersion, hasSlot := h₁, genesis := h₂, counted := h₃ }

theorem RunnerCapacityState.new_eq (s : RunnerCapacityState) :
    new s.runnerId s.runnerCapabilityDigest s.maxParallelism s.generation s.previousStateDigest
      s.transitions s.schemaVersion = .ok s := by
  simp only [new, Py.check_of s.hasSlot, Py.check_of s.genesis, Py.check_of s.counted,
    Except.ok_bind]
  rfl

-- `_require_schema`
def requireSchema (data : Json) (expected label : String) : Py Unit :=
  Py.require (Field.hasSchema data expected) .durableCapacityError
    ("unsupported " ++ label ++ " schema")

def leaseFromDict (data : Json) : Py CapacityLease := do
  requireSchema data "ge.capacity-lease.v1" "capacity lease"
  .wrap [.typeError, .valueError] .durableCapacityError "invalid durable capacity lease" do
    Field.kwargs
      ["runner_id", "runner_capability_digest", "slot", "session_id", "logical_attempt",
        "authorization_id", "authorization_digest", "invocation_id", "physical_attempt",
        "previous_invocation_id", "previous_receipt_digest", "expected_state_digest"]
      ["schema_version"] data
    CapacityLease.new
      (← Field.get Read.string data "runner_id")
      (← Field.get Read.string data "runner_capability_digest")
      (← Field.get (Read.nat "slot must be >= 0") data "slot")
      (← Field.get Read.string data "session_id")
      (← Field.get (Read.nat "attempt ordinals must be >= 1") data "logical_attempt")
      (← Field.get Read.string data "authorization_id")
      (← Field.get Read.string data "authorization_digest")
      (← Field.get Read.string data "invocation_id")
      (← Field.get (Read.nat "attempt ordinals must be >= 1") data "physical_attempt")
      (← Field.get (Read.opt Read.string) data "previous_invocation_id")
      (← Field.get (Read.opt Read.string) data "previous_receipt_digest")
      (← Field.get Read.string data "expected_state_digest")
      (← Field.getD Read.string "ge.capacity-lease.v1" data "schema_version")

def releaseFromDict (data : Json) : Py CapacityRelease := do
  requireSchema data "ge.capacity-release.v1" "capacity release"
  .wrap [.typeError, .valueError] .durableCapacityError "invalid durable capacity release" do
    Field.kwargs
      ["lease_id", "lease_digest", "runner_id", "session_id", "logical_attempt",
        "authorization_id", "authorization_digest", "invocation_id", "physical_attempt",
        "release_kind", "expected_state_digest"]
      ["outcome_digest", "receipt_digest", "transport_status", "revoked_session_digest",
        "schema_version"] data
    CapacityRelease.new
      (← Field.get Read.string data "lease_id")
      (← Field.get Read.string data "lease_digest")
      (← Field.get Read.string data "runner_id")
      (← Field.get Read.string data "session_id")
      (← Field.get (Read.nat "attempt ordinals must be >= 1") data "logical_attempt")
      (← Field.get Read.string data "authorization_id")
      (← Field.get Read.string data "authorization_digest")
      (← Field.get Read.string data "invocation_id")
      (← Field.get (Read.nat "attempt ordinals must be >= 1") data "physical_attempt")
      (← Field.get Read.string data "release_kind")
      (← Field.get Read.string data "expected_state_digest")
      (← Field.getD (Read.opt Read.string) none data "outcome_digest")
      (← Field.getD (Read.opt Read.string) none data "receipt_digest")
      (← Field.getD (Read.opt (Read.literal "unsupported terminal transport status")) none data
        "transport_status")
      (← Field.getD (Read.opt Read.string) none data "revoked_session_digest")
      (← Field.getD Read.string "ge.capacity-release.v1" data "schema_version")

-- `read(data) if isinstance(data, dict) else None`
def Read.ifObject {α : Type} (read : Json → Py α) : Json → Py (Option α)
  | .obj kvs => return some (← read (.obj kvs))
  | _        => return none

def transitionFromDict (data : Json) : Py CapacityTransition := do
  requireSchema data "ge.capacity-transition.v1" "capacity transition"
  let lease ← Field.getD (Read.ifObject leaseFromDict) none data "lease"
  let release ← Field.getD (Read.ifObject releaseFromDict) none data "release"
  .wrap [.typeError, .valueError] .durableCapacityError "invalid durable capacity transition" do
    Field.kwargs ["kind", "expected_state_digest"] ["lease", "release", "schema_version"] data
    CapacityTransition.new
      (← Field.get Read.string data "kind")
      (← Field.get Read.string data "expected_state_digest")
      lease
      release
      (← Field.getD Read.string "ge.capacity-transition.v1" data "schema_version")

def transitionsFromJson (data : Option Json) : Py (List CapacityTransition) :=
  match data with
  | some (.arr items) => items.mapM transitionFromDict
  | _                 =>
    Py.raise .durableCapacityError "capacity state transitions must be a sequence"

def capacityStateFromDict (data : Json) : Py RunnerCapacityState := do
  requireSchema data "ge.runner-capacity-state.v1" "runner capacity state"
  let transitions ← transitionsFromJson (data.get? "transitions")
  .wrap [.typeError, .valueError] .durableCapacityError "invalid durable runner capacity state" do
    Field.kwargs ["runner_id", "runner_capability_digest", "max_parallelism"]
      ["generation", "previous_state_digest", "transitions", "schema_version"] data
    RunnerCapacityState.new
      (← Field.get Read.string data "runner_id")
      (← Field.get Read.string data "runner_capability_digest")
      (← Field.get (Read.nat "max_parallelism must be >= 1") data "max_parallelism")
      (← Field.getD (Read.nat "generation must be >= 0") 0 data "generation")
      (← Field.getD (Read.opt Read.string) none data "previous_state_digest")
      transitions
      (← Field.getD Read.string "ge.runner-capacity-state.v1" data "schema_version")

variable [Sha256]

def DurableCapacityHead.digest (h : DurableCapacityHead) : String :=
  sha256Digest (toPy h)

def snapshotPayload (state : RunnerCapacityState) : PyDict := [
  ("schema_version", toPy snapshotSchema),
  ("state", toPy state),
  ("state_digest", toPy state.digest)]

def capacitySnapshot (state : RunnerCapacityState) : PyDict :=
  snapshotPayload state ++ [("snapshot_digest", toPy (sha256Digest (.dict (snapshotPayload state))))]

def serializeCapacitySnapshot (state : RunnerCapacityState) : String :=
  canonicalJson (.dict (capacitySnapshot state))

def deserializeCapacitySnapshot (snapshotJson : String) (runner : RunnerCapabilities) :
    Py (RunnerCapacityState × String) := do
  let data ← Py.ofOption .durableCapacityError "durable capacity snapshot is not valid JSON" <|
    Json.loads snapshotJson
  Py.require data.isObj .durableCapacityError "durable capacity snapshot must be an object"
  let fields := ["schema_version", "state", "state_digest", "snapshot_digest"]
  Py.require (data.keys ⊆ fields ∧ fields ⊆ data.keys) .durableCapacityError
    "durable capacity snapshot fields mismatch"
  requireSchema data snapshotSchema "capacity snapshot"
  let snapshotDigest ← Py.ofOption .durableCapacityError "capacity snapshot digest is required"
    (data.string? "snapshot_digest")
  Py.require (sha256Digest (ofJson (data.erase "snapshot_digest")) = snapshotDigest)
    .durableCapacityError "capacity snapshot digest mismatch"
  let stateData ← Py.ofOption .durableCapacityError "capacity snapshot state is required" <|
    (data.get? "state").filter Json.isObj
  let state ← capacityStateFromDict stateData
  Py.require (data.string? "state_digest" = some state.digest) .durableCapacityError
    "capacity snapshot state digest mismatch"
  Py.require (verifyCapacityState state runner) .durableCapacityError
    "capacity snapshot does not replay for runner"
  return (state, snapshotDigest)

def headOf (state : RunnerCapacityState) (snapshotDigest : String) : DurableCapacityHead where
  runnerId               := state.runnerId
  runnerCapabilityDigest := state.runnerCapabilityDigest
  stateDigest            := state.digest
  generation             := state.generation
  snapshotDigest         := snapshotDigest

def decodeHeadRow (row : CapacityHeadRow) (runner : RunnerCapabilities) :
    Py (RunnerCapacityState × DurableCapacityHead) := do
  Py.require (row.runnerCapabilityDigest = runner.digest) .durableCapacityError
    "durable capacity head runner capabilities changed"
  let (state, snapshotDigest) ← deserializeCapacitySnapshot row.snapshotJson runner
  Py.require
    (state.digest = row.stateDigest ∧ state.generation = row.generation ∧
      snapshotDigest = row.snapshotDigest)
    .durableCapacityError "durable capacity head metadata mismatch"
  return (state, headOf state snapshotDigest)

namespace CapacityHeadStore

def initializeStatements (runner : RunnerCapabilities) (state : RunnerCapacityState)
    (snapshotDigest : String) : Transaction DurableCapacityHead := do
  let stores ← get
  match stores.head? runner.runnerId with
  | some row =>
    let (existing, existingHead) ← decodeHeadRow row runner
    Py.require (existing = state) .durableCapacityError
      "durable capacity head already exists with different state"
    return existingHead
  | none =>
    let heads ← Py.ofOption .integrityError "UNIQUE constraint failed" <|
      stores.capacityHeads.insert? {
        runnerId               := state.runnerId
        runnerCapabilityDigest := state.runnerCapabilityDigest
        stateDigest            := state.digest
        generation             := state.generation
        snapshotDigest         := snapshotDigest
        snapshotJson           := serializeCapacitySnapshot state }
    set { stores with capacityHeads := heads }
    return headOf state snapshotDigest

-- `state` is the one the caller gives, or the genesis state.
def initializeHead (runner : RunnerCapabilities) (state : RunnerCapacityState) :
    StoreCall DurableCapacityHead := do
  Py.require (verifyCapacityState state runner) .durableCapacityError
    "initial durable capacity state does not replay for runner"
  let (_, snapshotDigest) ←
    (deserializeCapacitySnapshot (serializeCapacitySnapshot state) runner : Py _)
  .transaction (initializeStatements runner state snapshotDigest)

def load (runner : RunnerCapabilities) :
    StoreCall (RunnerCapacityState × DurableCapacityHead) := do
  match ← StoreCall.query (·.head? runner.runnerId) with
  | none     => throw ⟨.durableCapacityError, "durable capacity head does not exist"⟩
  | some row => decodeHeadRow row runner

def commitStatements (runner : RunnerCapabilities) (expectedStateDigest : String)
    (newState : RunnerCapacityState) : Transaction DurableCapacityHead := do
  let stores ← get
  let row ← Py.ofOption .durableCapacityError "durable capacity head does not exist" <|
    stores.head? runner.runnerId
  let (currentState, _) ← decodeHeadRow row runner
  Py.require (currentState.digest = expectedStateDigest) .durableCapacityError
    "stale durable capacity head"
  Py.require (newState.generation = currentState.generation + 1) .durableCapacityError
    "durable capacity commit must advance exactly one generation"
  Py.require (newState.previousStateDigest = some currentState.digest) .durableCapacityError
    "durable capacity commit predecessor mismatch"
  Py.require (newState.transitions.dropLast = currentState.transitions) .durableCapacityError
    "durable capacity commit must extend the canonical transition history"
  let (_, snapshotDigest) ←
    (deserializeCapacitySnapshot (serializeCapacitySnapshot newState) runner : Py _)
  let matching := fun r : CapacityHeadRow =>
    r.runnerId = runner.runnerId ∧ r.stateDigest = expectedStateDigest ∧
      r.generation = currentState.generation
  Py.require (stores.capacityHeads.count (matching ·) = 1) .durableCapacityError
    "durable capacity compare-and-swap failed"
  set { stores with
    capacityHeads := stores.capacityHeads.update (matching ·)
      (fun r => { r with
        runnerCapabilityDigest := newState.runnerCapabilityDigest
        stateDigest            := newState.digest
        generation             := newState.generation
        snapshotDigest         := snapshotDigest
        snapshotJson           := serializeCapacitySnapshot newState })
      (by simp) }
  return headOf newState snapshotDigest

def commit (runner : RunnerCapabilities) (expectedStateDigest : String)
    (newState : RunnerCapacityState) : StoreCall DurableCapacityHead := do
  Py.require (verifyCapacityState newState runner) .durableCapacityError
    "candidate durable capacity state does not replay for runner"
  .transaction (commitStatements runner expectedStateDigest newState)

end CapacityHeadStore

end GeneralExecution
