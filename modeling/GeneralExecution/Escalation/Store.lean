import GeneralExecution.Primitives.History
import GeneralExecution.Primitives.Table
import GeneralExecution.Escalation.State

namespace GeneralExecution

structure WorkEscalationRow where
  requestId      : String
  requestDigest  : String
  authorityRef   : String
  envelopeDigest : String
  slotIndex      : Nat
  stateDigest    : String
  revision       : Nat
  stateJson      : String
deriving DecidableEq

namespace WorkEscalationRow

def primaryKey (row : WorkEscalationRow) : String ⊕ String × String × Nat :=
  .inl row.requestId

-- `UNIQUE(authority_ref, envelope_digest, slot_index)`
def slotKey (row : WorkEscalationRow) : String ⊕ String × String × Nat :=
  .inr (row.authorityRef, row.envelopeDigest, row.slotIndex)

end WorkEscalationRow

-- The table `work_escalation`.
abbrev WorkEscalations :=
  Table WorkEscalationRow (String ⊕ String × String × Nat)
    [WorkEscalationRow.primaryKey, WorkEscalationRow.slotKey]

abbrev EscalationTransaction (α : Type) :=
  Statements WorkEscalations PyError α

abbrev EscalationProgram (α : Type) :=
  Program WorkEscalations PyError α

namespace WorkEscalations

def row? (s : WorkEscalations) (requestId : String) : Option WorkEscalationRow :=
  s.select WorkEscalationRow.primaryKey (.inl requestId)

-- The slots that are reserved under one authority reference and one envelope.
def slots (s : WorkEscalations) (authorityRef envelopeDigest : String) : List Nat :=
  (s.rows.filter fun row =>
    row.authorityRef = authorityRef ∧ row.envelopeDigest = envelopeDigest).map (·.slotIndex)

end WorkEscalations

variable [Sha256]

-- `_decode`
def decodeEscalationRow (row : WorkEscalationRow) : Py WorkEscalationState := do
  let document ← Py.ofOption .workEscalationError "stored Work escalation state is invalid JSON" <|
    Json.loads row.stateJson
  let state ← workEscalationStateFromDict document
  Py.require
    (state.request.requestId = row.requestId ∧ state.request.digest = row.requestDigest ∧
      state.request.authorityRef = row.authorityRef ∧
      state.request.envelopeDigest = row.envelopeDigest ∧ state.slotIndex = row.slotIndex ∧
      state.digest = row.stateDigest ∧ state.revision = row.revision)
    .workEscalationError "stored Work escalation metadata mismatch"
  return state

-- The row that a reservation inserts.
def escalationRow (state : WorkEscalationState) : WorkEscalationRow where
  requestId      := state.request.requestId
  requestDigest  := state.request.digest
  authorityRef   := state.request.authorityRef
  envelopeDigest := state.request.envelopeDigest
  slotIndex      := state.slotIndex
  stateDigest    := state.digest
  revision       := state.revision
  stateJson      := canonicalJson (toPy state)

namespace SqliteWorkEscalationStore

def reserveStatements (request : WorkEscalationRequest) :
    EscalationTransaction WorkEscalationState := do
  let rows ← get
  match rows.row? request.requestId with
  | some row =>
    let existing ← decodeEscalationRow row
    Py.require (existing.request = request) .workEscalationError
      "request_id already bound to different Work escalation"
    return existing
  | none =>
    let used := rows.slots request.authorityRef request.envelopeDigest
    Py.require (used.length < request.maxWorkInvocations) .workEscalationBudgetExhausted
      "durable Work invocation budget exhausted"
    -- `COALESCE(MAX(slot_index), 0)`
    let slotIndex := used.max?.getD 0 + 1
    Py.require (slotIndex ≤ request.maxWorkInvocations) .workEscalationBudgetExhausted
      "durable Work invocation slot exceeds budget"
    let state ← (WorkEscalationState.new request slotIndex .reserved 0 none none none none none
      false "ge.work-escalation-state.v1" : Py _)
    let rows ← Py.ofOption .integrityError "UNIQUE constraint failed" <|
      rows.insert? (escalationRow state)
    set rows
    return state

def reserve (request : WorkEscalationRequest) : EscalationProgram WorkEscalationState :=
  .transaction (reserveStatements request)

def load (requestId : String) : EscalationProgram WorkEscalationState := do
  Py.require (¬Text.Blank requestId) .workEscalationError "request_id must be a non-empty string"
  match ← Program.query (WorkEscalations.row? · (Text.stripped requestId)) with
  | none     => throw ⟨.workEscalationError, "Work escalation state does not exist"⟩
  | some row => decodeEscalationRow row

-- The rows that the update of a swap applies to.
def swapped (previous : WorkEscalationState) (row : WorkEscalationRow) : Bool :=
  row.requestId = previous.request.requestId ∧ row.stateDigest = previous.digest ∧
    row.revision = previous.revision

-- The row after a swap to `next`.
def swappedRow (next : WorkEscalationState) (row : WorkEscalationRow) : WorkEscalationRow :=
  { row with
    stateDigest := next.digest
    revision    := next.revision
    stateJson   := canonicalJson (toPy next) }

theorem swappedRow_unique (next : WorkEscalationState) :
    ∀ c ∈ [WorkEscalationRow.primaryKey, WorkEscalationRow.slotKey], ∀ row,
      c (swappedRow next row) = c row := by
  simp [swappedRow, WorkEscalationRow.primaryKey, WorkEscalationRow.slotKey]

def swapStatements (previous next : WorkEscalationState) :
    EscalationTransaction WorkEscalationState := do
  let rows ← get
  set <| rows.update (swapped previous) (swappedRow next) (swappedRow_unique next)
  Py.require (rows.count (swapped previous) = 1) .workEscalationError
    "Work escalation compare-and-swap conflict"
  return next

def compareAndSwap (previous next : WorkEscalationState) :
    EscalationProgram WorkEscalationState := do
  Py.require (previous.request = next.request) .workEscalationError
    "Work escalation transition changed request"
  Py.require (previous.slotIndex = next.slotIndex) .workEscalationError
    "Work escalation transition changed budget slot"
  Py.require (next.previousStateDigest = some previous.digest) .workEscalationError
    "Work escalation predecessor mismatch"
  Py.require (next.revision = previous.revision + 1) .workEscalationError
    "Work escalation revision must increment by one"
  .transaction (swapStatements previous next)

end SqliteWorkEscalationStore

end GeneralExecution
