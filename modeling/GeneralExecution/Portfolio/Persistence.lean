import GeneralExecution.Primitives.History
import GeneralExecution.Primitives.Table
import GeneralExecution.Portfolio.Checkpoint

namespace GeneralExecution

structure PortfolioHeadRow where
  portfolioId            : String
  stateDigest            : String
  generation             : Nat
  snapshotDigest         : String
  snapshotJson           : String
  latestCheckpointDigest : Option String
deriving DecidableEq

structure PortfolioCheckpointRow where
  portfolioId      : String
  generation       : Nat
  checkpointId     : String
  checkpointDigest : String
  checkpointJson   : String
deriving DecidableEq

structure TriggerBindingRow where
  identity          : String
  admissionDigest   : String
  observationDigest : String
deriving DecidableEq

namespace PortfolioCheckpointRow

-- The unique columns: the primary key, the id and the digest.
def primaryKey (row : PortfolioCheckpointRow) : String ⊕ String × Nat :=
  .inr (row.portfolioId, row.generation)

def uniqueId (row : PortfolioCheckpointRow) : String ⊕ String × Nat :=
  .inl row.checkpointId

def uniqueDigest (row : PortfolioCheckpointRow) : String ⊕ String × Nat :=
  .inl row.checkpointDigest

end PortfolioCheckpointRow

-- The tables of one portfolio database.
@[ext]
structure Portfolios where
  heads           : Table PortfolioHeadRow String [PortfolioHeadRow.portfolioId]
  checkpoints     : Table PortfolioCheckpointRow (String ⊕ String × Nat)
    [PortfolioCheckpointRow.primaryKey, PortfolioCheckpointRow.uniqueId,
      PortfolioCheckpointRow.uniqueDigest]
  triggerBindings : Table TriggerBindingRow String [TriggerBindingRow.identity]

namespace Portfolios

def empty : Portfolios where
  heads           := .empty
  checkpoints     := .empty
  triggerBindings := .empty

def head? (s : Portfolios) (portfolioId : String) : Option PortfolioHeadRow :=
  s.heads.select PortfolioHeadRow.portfolioId portfolioId

def checkpoint? (s : Portfolios) (portfolioId : String) (generation : Nat) :
    Option PortfolioCheckpointRow :=
  s.checkpoints.select PortfolioCheckpointRow.primaryKey (.inr (portfolioId, generation))

def binding? (s : Portfolios) (identity : String) : Option TriggerBindingRow :=
  s.triggerBindings.select TriggerBindingRow.identity identity

end Portfolios

abbrev PortfolioTransaction (α : Type) :=
  Statements Portfolios PyError α

abbrev PortfolioCall (α : Type) :=
  Program Portfolios PyError α

def portfolioSnapshotSchema : String :=
  "ge.portfolio-snapshot.v1"

@[ext]
structure DurablePortfolioHead where
  portfolioId            : String
  generation             : Nat
  stateDigest            : String
  snapshotDigest         : String
  latestCheckpointDigest : Option String
  schemaVersion          : String := "ge.durable-portfolio-head.v1"
  nonempty               : ∀ x ∈ [("portfolio_id", portfolioId)], ¬Text.Blank x.2
  isSha256 :
    ∀ x ∈ [("state_digest", stateDigest), ("snapshot_digest", snapshotDigest)], IsSha256 x.2
  optional   : ∀ x ∈ [("latest_checkpoint_digest", latestCheckpointDigest)], Guard.OptionalSha256 x.2
  checkpoint : latestCheckpointDigest.isNone ↔ generation = 0

namespace DurablePortfolioHead

def new (portfolioId : String) (generation : Nat) (stateDigest snapshotDigest : String)
    (latestCheckpointDigest : Option String) : Py DurablePortfolioHead := do
  let ⟨h₁⟩ ← Guard.nonempty .portfolioPersistenceError [("portfolio_id", portfolioId)]
  let ⟨h₂⟩ ← Guard.sha256 .portfolioPersistenceError
    [("state_digest", stateDigest), ("snapshot_digest", snapshotDigest)]
  let ⟨h₃⟩ ← Guard.optionalSha256 .portfolioPersistenceError
    [("latest_checkpoint_digest", latestCheckpointDigest)]
  let ⟨h₄⟩ ← Py.check (latestCheckpointDigest.isNone ↔ generation = 0) .portfolioPersistenceError <|
    if generation = 0 then "generation zero cannot have latest checkpoint"
    else "nonzero durable portfolio head requires checkpoint"
  return {
    portfolioId, generation, stateDigest, snapshotDigest, latestCheckpointDigest, nonempty := h₁,
    isSha256 := h₂, optional := h₃, checkpoint := h₄ }

end DurablePortfolioHead

@[ext]
structure PortfolioRecoveryReport where
  portfolioId            : String
  generation             : Nat
  stateDigest            : String
  snapshotDigest         : String
  latestCheckpointDigest : Option String
  checkpointPresent      : Bool
  fabricatedState        : Bool := false
  fabricatedCheckpoint   : Bool := false
  schemaVersion          : String := "ge.portfolio-recovery.v1"
  nonempty               : ∀ x ∈ [("portfolio_id", portfolioId)], ¬Text.Blank x.2
  isSha256 :
    ∀ x ∈ [("state_digest", stateDigest), ("snapshot_digest", snapshotDigest)], IsSha256 x.2
  optional   : ∀ x ∈ [("latest_checkpoint_digest", latestCheckpointDigest)], Guard.OptionalSha256 x.2
  fabricated : fabricatedState = false ∧ fabricatedCheckpoint = false
  checkpoint : checkpointPresent = false ↔ generation = 0

namespace PortfolioRecoveryReport

def new (portfolioId : String) (generation : Nat) (stateDigest snapshotDigest : String)
    (latestCheckpointDigest : Option String) (checkpointPresent : Bool) :
    Py PortfolioRecoveryReport := do
  let ⟨h₁⟩ ← Guard.nonempty .portfolioPersistenceError [("portfolio_id", portfolioId)]
  let ⟨h₂⟩ ← Guard.sha256 .portfolioPersistenceError
    [("state_digest", stateDigest), ("snapshot_digest", snapshotDigest)]
  let ⟨h₃⟩ ← Guard.optionalSha256 .portfolioPersistenceError
    [("latest_checkpoint_digest", latestCheckpointDigest)]
  let ⟨h₄⟩ ← Py.check (checkpointPresent = false ↔ generation = 0) .portfolioPersistenceError <|
    if generation = 0 then "generation zero cannot report a checkpoint"
    else "nonzero generation requires a checkpoint"
  return {
    portfolioId, generation, stateDigest, snapshotDigest, latestCheckpointDigest,
    checkpointPresent, nonempty := h₁, isSha256 := h₂, optional := h₃, fabricated := unset₂,
    checkpoint := h₄ }

instance : AsDict PortfolioRecoveryReport where
  asdict r := [
    ("portfolio_id", toPy r.portfolioId),
    ("generation", toPy r.generation),
    ("state_digest", toPy r.stateDigest),
    ("snapshot_digest", toPy r.snapshotDigest),
    ("latest_checkpoint_digest", toPy r.latestCheckpointDigest),
    ("checkpoint_present", toPy r.checkpointPresent),
    ("fabricated_state", toPy r.fabricatedState),
    ("fabricated_checkpoint", toPy r.fabricatedCheckpoint),
    ("schema_version", toPy r.schemaVersion)]

end PortfolioRecoveryReport

variable [Sha256]

def PortfolioRecoveryReport.digest (r : PortfolioRecoveryReport) : String :=
  sha256Digest (toPy r)

-- `json.loads(canonical_json(state))`
def portfolioStateToDict (state : PortfolioState) : PyValue :=
  ofJson (normalize (toPy state))

def portfolioSnapshotPayload (state : PortfolioState) : PyDict := [
  ("schema_version", toPy portfolioSnapshotSchema),
  ("state", portfolioStateToDict state),
  ("state_digest", toPy state.digest)]

def portfolioSnapshot (state : PortfolioState) : PyDict :=
  portfolioSnapshotPayload state ++
    [("snapshot_digest", toPy (sha256Digest (.dict (portfolioSnapshotPayload state))))]

def serializePortfolioSnapshot (state : PortfolioState) : String :=
  canonicalJson (.dict (portfolioSnapshot state))

def deserializePortfolioSnapshot (payload : String) : Py (PortfolioState × String) := do
  let data ← Py.ofOption .portfolioPersistenceError "portfolio snapshot is not valid JSON" <|
    Json.loads payload
  Typed.exactFields .portfolioPersistenceError "portfolio snapshot"
    ["schema_version", "state", "state_digest", "snapshot_digest"] data
  Py.require (Field.hasSchema data portfolioSnapshotSchema) .portfolioPersistenceError
    "unsupported portfolio snapshot schema"
  let snapshotDigest ←
    Field.get (Typed.sha256 .portfolioPersistenceError "snapshot_digest") data "snapshot_digest"
  let _ ← Guard.sha256 .portfolioPersistenceError [("snapshot_digest", snapshotDigest)]
  Py.require (sha256Digest (ofJson (data.erase "snapshot_digest")) = snapshotDigest)
    .portfolioPersistenceError "portfolio snapshot digest mismatch"
  let stateData ← Py.ofOption .portfolioPersistenceError
    "portfolio snapshot state must be an object" <| (data.get? "state").filter Json.isObj
  let state ← Py.wrap [.valueError] .portfolioPersistenceError
    "invalid portfolio state in snapshot" <| portfolioStateFromDict stateData
  let stateDigest ←
    Field.get (Typed.sha256 .portfolioPersistenceError "state_digest") data "state_digest"
  let _ ← Guard.sha256 .portfolioPersistenceError [("state_digest", stateDigest)]
  Py.require (state.digest = stateDigest) .portfolioPersistenceError
    "portfolio snapshot state digest mismatch"
  return (state, snapshotDigest)

-- `_head`
def portfolioHead (state : PortfolioState) (snapshotDigest : String)
    (latestCheckpointDigest : Option String) : Py DurablePortfolioHead :=
  DurablePortfolioHead.new state.portfolioId state.generation state.digest snapshotDigest
    latestCheckpointDigest

-- `_decode_row`
def decodePortfolioRow (row : PortfolioHeadRow) (portfolioId : String) :
    Py (PortfolioState × DurablePortfolioHead) := do
  let (state, snapshotDigest) ← deserializePortfolioSnapshot row.snapshotJson
  Py.require (state.portfolioId = portfolioId) .portfolioPersistenceError
    "durable portfolio head identity mismatch"
  Py.require
    (state.digest = row.stateDigest ∧ state.generation = row.generation ∧
      snapshotDigest = row.snapshotDigest) .portfolioPersistenceError
    "durable portfolio head metadata mismatch"
  return (state, ← portfolioHead state snapshotDigest row.latestCheckpointDigest)

-- A checkpoint row as it is read again.
def decodeCheckpointRow (row : PortfolioCheckpointRow) : Py ExecutionCheckpoint := do
  let checkpoint ← Py.wrap [.valueError] .portfolioPersistenceError
    "invalid durable portfolio checkpoint" <| deserializeCheckpoint row.checkpointJson
  Py.require (checkpoint.checkpointId = row.checkpointId) .portfolioPersistenceError
    "durable checkpoint id mismatch"
  Py.require (checkpoint.digest = row.checkpointDigest) .portfolioPersistenceError
    "durable checkpoint digest mismatch"
  return checkpoint

namespace PortfolioHeadStore

-- The head that exists already, or none when the row is inserted.
def initializeStatements (state : PortfolioState) (snapshotDigest : String) :
    PortfolioTransaction (Option DurablePortfolioHead) := do
  let stores ← get
  match stores.head? state.portfolioId with
  | some row =>
    let (existingState, existingHead) ← decodePortfolioRow row state.portfolioId
    Py.require (existingState = state) .portfolioPersistenceError
      "durable portfolio head already exists with different state"
    return some existingHead
  | none =>
    let heads ← Py.ofOption .integrityError "UNIQUE constraint failed" <| stores.heads.insert? {
      portfolioId            := state.portfolioId
      stateDigest            := state.digest
      generation             := state.generation
      snapshotDigest         := snapshotDigest
      snapshotJson           := serializePortfolioSnapshot state
      latestCheckpointDigest := none }
    set { stores with heads := heads }
    return none

def initializePortfolio (state : PortfolioState) : PortfolioCall DurablePortfolioHead := do
  Py.require (state.generation = 0 ∧ state.previousStateDigest.isNone) .portfolioPersistenceError
    "durable portfolio initialization requires generation zero"
  let (_, snapshotDigest) ← (deserializePortfolioSnapshot (serializePortfolioSnapshot state) : Py _)
  match ← .transaction (initializeStatements state snapshotDigest) with
  | some existingHead => return existingHead
  | none              => portfolioHead state snapshotDigest none

def load (portfolioId : String) : PortfolioCall (PortfolioState × DurablePortfolioHead) := do
  let _ ← (Guard.nonempty .portfolioPersistenceError [("portfolio_id", portfolioId)] : Py _)
  match ← Program.query (·.head? portfolioId) with
  | none     => throw ⟨.portfolioPersistenceError, "durable portfolio head does not exist"⟩
  | some row => decodePortfolioRow row portfolioId

def loadCheckpoint (portfolioId : String) (generation : Nat) :
    PortfolioCall ExecutionCheckpoint := do
  let _ ← (Guard.nonempty .portfolioPersistenceError [("portfolio_id", portfolioId)] : Py _)
  Py.require (1 ≤ generation) .portfolioPersistenceError
    "checkpoint generation must be an integer >= 1"
  match ← Program.query (·.checkpoint? portfolioId generation) with
  | none     => throw ⟨.portfolioPersistenceError, "durable portfolio checkpoint does not exist"⟩
  | some row => do
    let checkpoint ← (decodeCheckpointRow row : Py _)
    Py.require
      (checkpoint.portfolioId = portfolioId ∧ checkpoint.portfolioGeneration = generation)
      .portfolioPersistenceError "durable checkpoint metadata mismatch"
    return checkpoint

-- The head with the checkpoint of its generation, read by one statement.
def recoveryRow (portfolioId : String) (stores : Portfolios) :
    Option (PortfolioHeadRow × Option PortfolioCheckpointRow) :=
  (stores.head? portfolioId).map fun row => (row, stores.checkpoint? portfolioId row.generation)

def decodeRecoveryRow (portfolioId : String) (row : PortfolioHeadRow)
    (checkpointRow : Option PortfolioCheckpointRow) :
    Py (PortfolioState × DurablePortfolioHead × Option ExecutionCheckpoint) := do
  let (state, head) ← decodePortfolioRow row portfolioId
  if state.generation = 0 then
    Py.require (head.latestCheckpointDigest.isNone ∧ checkpointRow.isNone)
      .portfolioPersistenceError "generation zero cannot bind a checkpoint"
    return (state, head, none)
  else
    let checkpointRow ← Py.ofOption .portfolioPersistenceError
      "durable portfolio head is missing its current checkpoint" checkpointRow
    let checkpoint ← decodeCheckpointRow checkpointRow
    Py.require (some checkpoint.digest = head.latestCheckpointDigest) .portfolioPersistenceError
      "latest checkpoint digest mismatch"
    Py.require
      (checkpoint.portfolioId = portfolioId ∧
        checkpoint.portfolioGeneration = state.generation ∧
        checkpoint.portfolioStateDigest = state.digest) .portfolioPersistenceError
      "durable checkpoint does not bind current head"
    return (state, head, some checkpoint)

def loadRecoverySnapshot (portfolioId : String) :
    PortfolioCall (PortfolioState × DurablePortfolioHead × Option ExecutionCheckpoint) := do
  let _ ← (Guard.nonempty .portfolioPersistenceError [("portfolio_id", portfolioId)] : Py _)
  match ← Program.query (recoveryRow portfolioId) with
  | none => throw ⟨.portfolioPersistenceError, "durable portfolio head does not exist"⟩
  | some (row, checkpointRow) => decodeRecoveryRow portfolioId row checkpointRow

def latestCheckpoint (portfolioId : String) : PortfolioCall (Option ExecutionCheckpoint) := do
  let (_, _, checkpoint) ← loadRecoverySnapshot portfolioId
  return checkpoint

-- `checkpoint does not round-trip canonically`
def roundTripCheckpoint (checkpoint : ExecutionCheckpoint) : Py String := do
  let checkpointJson := serializeCheckpoint checkpoint
  let decoded ← Py.wrap [.valueError] .portfolioPersistenceError
    "checkpoint does not round-trip canonically" <| deserializeCheckpoint checkpointJson
  Py.require (decoded = checkpoint) .portfolioPersistenceError
    "checkpoint does not round-trip canonically"
  return checkpointJson

-- The head that a checkpoint refers to exists, as the foreign key wants it. The snapshot's digest is
-- returned for the head, which is built when the transaction has committed.
def commitStatements (portfolioId expectedStateDigest : String) (newState : PortfolioState)
    (checkpoint : ExecutionCheckpoint) : PortfolioTransaction String := do
  let stores ← get
  let row ← Py.ofOption .portfolioPersistenceError "durable portfolio head does not exist" <|
    stores.head? portfolioId
  let (currentState, _) ← decodePortfolioRow row portfolioId
  Py.require (currentState.digest = expectedStateDigest) .portfolioPersistenceError
    "stale durable portfolio head"
  Py.require (newState.generation = currentState.generation + 1) .portfolioPersistenceError
    "durable portfolio commit must advance exactly one generation"
  Py.require (newState.previousStateDigest = some currentState.digest) .portfolioPersistenceError
    "durable portfolio commit predecessor mismatch"
  Py.require (checkpoint.portfolioId = portfolioId) .portfolioPersistenceError
    "checkpoint portfolio identity does not bind new state"
  Py.require (checkpoint.portfolioGeneration = newState.generation) .portfolioPersistenceError
    "checkpoint generation does not bind new state"
  Py.require (checkpoint.portfolioStateDigest = newState.digest) .portfolioPersistenceError
    "checkpoint state digest does not bind new state"
  let (_, snapshotDigest) ←
    (deserializePortfolioSnapshot (serializePortfolioSnapshot newState) : Py _)
  let checkpointJson ← roundTripCheckpoint checkpoint
  let checkpoints ← Py.ofOption .portfolioPersistenceError
    "durable portfolio checkpoint already exists" <| stores.checkpoints.insert? {
      portfolioId      := portfolioId
      generation       := newState.generation
      checkpointId     := checkpoint.checkpointId
      checkpointDigest := checkpoint.digest
      checkpointJson   := checkpointJson }
  let matching := fun r : PortfolioHeadRow =>
    r.portfolioId = portfolioId ∧ r.stateDigest = expectedStateDigest ∧
      r.generation = currentState.generation
  Py.require (stores.heads.count (matching ·) = 1) .portfolioPersistenceError
    "durable portfolio compare-and-swap failed"
  set { stores with
    heads := stores.heads.update (matching ·)
      (fun r => { r with
        stateDigest            := newState.digest
        generation             := newState.generation
        snapshotDigest         := snapshotDigest
        snapshotJson           := serializePortfolioSnapshot newState
        latestCheckpointDigest := some checkpoint.digest })
      (by simp)
    checkpoints := checkpoints }
  return snapshotDigest

def commit (portfolioId expectedStateDigest : String) (newState : PortfolioState)
    (checkpoint : ExecutionCheckpoint) : PortfolioCall DurablePortfolioHead := do
  let _ ← (Guard.nonempty .portfolioPersistenceError [("portfolio_id", portfolioId)] : Py _)
  let _ ← (Guard.sha256 .portfolioPersistenceError
    [("expected_state_digest", expectedStateDigest)] : Py _)
  Py.require (newState.portfolioId = portfolioId) .portfolioPersistenceError
    "portfolio commit identity mismatch"
  let snapshotDigest ←
    .transaction (commitStatements portfolioId expectedStateDigest newState checkpoint)
  portfolioHead newState snapshotDigest (some checkpoint.digest)

end PortfolioHeadStore

def verifyPortfolioRecovery (state : PortfolioState) (head : DurablePortfolioHead)
    (checkpoint : Option ExecutionCheckpoint) (report : PortfolioRecoveryReport) : Bool :=
  decide (state.portfolioId = head.portfolioId ∧ state.digest = head.stateDigest ∧
    state.generation = head.generation) &&
  decide (report.portfolioId = state.portfolioId ∧ report.generation = state.generation ∧
    report.stateDigest = state.digest ∧ report.snapshotDigest = head.snapshotDigest ∧
    report.latestCheckpointDigest = head.latestCheckpointDigest) &&
  match checkpoint with
  | none            => decide (state.generation = 0 ∧ report.checkpointPresent = false)
  | some checkpoint =>
    decide (state.generation ≠ 0 ∧ report.checkpointPresent = true ∧
      checkpoint.portfolioId = state.portfolioId ∧
      checkpoint.portfolioGeneration = state.generation ∧
      checkpoint.portfolioStateDigest = state.digest ∧
      some checkpoint.digest = head.latestCheckpointDigest)

def recoverPortfolioAfterRestart (portfolioId : String) :
    PortfolioCall (PortfolioState × Option ExecutionCheckpoint × PortfolioRecoveryReport) := do
  let (state, head, checkpoint) ← PortfolioHeadStore.loadRecoverySnapshot portfolioId
  let report ← (PortfolioRecoveryReport.new state.portfolioId state.generation state.digest
    head.snapshotDigest head.latestCheckpointDigest checkpoint.isSome : Py _)
  Py.require (verifyPortfolioRecovery state head checkpoint report) .portfolioPersistenceError
    "portfolio restart recovery does not reproduce"
  return (state, checkpoint, report)

end GeneralExecution
