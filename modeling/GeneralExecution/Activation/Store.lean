import GeneralExecution.Primitives.History
import GeneralExecution.Primitives.Table
import GeneralExecution.Activation.Executor

namespace GeneralExecution

structure ExecutorActivationRow where
  dispatchIdentity : String
  activationId     : String
  stateDigest      : String
  revision         : Nat
  stateJson        : String
deriving DecidableEq

-- The table `executor_activation`.
abbrev ExecutorActivations :=
  Table ExecutorActivationRow String
    [ExecutorActivationRow.dispatchIdentity, ExecutorActivationRow.activationId]

abbrev ActivationTransaction (α : Type) :=
  Statements ExecutorActivations PyError α

abbrev ActivationCall (α : Type) :=
  Program ExecutorActivations PyError α

namespace ExecutorActivations

def row? (s : ExecutorActivations) (dispatchIdentity : String) : Option ExecutorActivationRow :=
  s.select ExecutorActivationRow.dispatchIdentity dispatchIdentity

-- The state that the row of an identity stores.
def durable? (s : ExecutorActivations) (dispatchIdentity : String) :
    Option ExecutorActivationState :=
  (s.row? dispatchIdentity).bind fun row => (deserializeActivationState row.stateJson).toOption

end ExecutorActivations

variable [Sha256]

-- `_decode`
def decodeActivationRow (row : ExecutorActivationRow) : Py ExecutorActivationState := do
  let state ← deserializeActivationState row.stateJson
  Py.require
    (state.intent.dispatchIdentity = row.dispatchIdentity ∧
      state.intent.activationId = row.activationId ∧ state.digest = row.stateDigest ∧
      state.revision = row.revision)
    .executorActivationError "durable executor activation row metadata mismatch"
  return state

namespace ExecutorActivationStore

def initializeStatements (intent : ExecutorActivationIntent) :
    ActivationTransaction ExecutorActivationState := do
  let state := initialActivationState intent
  let rows ← get
  match rows.row? intent.dispatchIdentity with
  | some row =>
    let existing ← decodeActivationRow row
    Py.require (existing.intent = intent) .executorActivationError
      "dispatch identity already bound to another activation intent"
    return existing
  | none =>
    let rows ← Py.ofOption .integrityError "UNIQUE constraint failed" <| rows.insert? {
      dispatchIdentity := intent.dispatchIdentity
      activationId     := intent.activationId
      stateDigest      := state.digest
      revision         := state.revision
      stateJson        := serializeActivationState state }
    set rows
    return state

def initializeActivation (intent : ExecutorActivationIntent) : ActivationCall ExecutorActivationState :=
  .transaction (initializeStatements intent)

def load (dispatchIdentity : String) : ActivationCall ExecutorActivationState := do
  match ← Program.query (ExecutorActivations.row? · dispatchIdentity) with
  | none     => throw ⟨.executorActivationError, "executor activation state does not exist"⟩
  | some row => decodeActivationRow row

-- The rows that the update of a swap applies to.
def swapped (previous : ExecutorActivationState) (row : ExecutorActivationRow) : Bool :=
  row.dispatchIdentity = previous.intent.dispatchIdentity ∧ row.stateDigest = previous.digest ∧
    row.revision = previous.revision

-- The row after a swap to `next`.
def swappedRow (next : ExecutorActivationState) (row : ExecutorActivationRow) :
    ExecutorActivationRow :=
  { row with
    stateDigest := next.digest
    revision    := next.revision
    stateJson   := serializeActivationState next }

theorem swappedRow_unique (next : ExecutorActivationState) :
    ∀ c ∈ [ExecutorActivationRow.dispatchIdentity, ExecutorActivationRow.activationId], ∀ row,
      c (swappedRow next row) = c row := by
  simp [swappedRow]

def swapStatements (previous next : ExecutorActivationState) :
    ActivationTransaction ExecutorActivationState := do
  let rows ← get
  set <| rows.update (swapped previous) (swappedRow next) (swappedRow_unique next)
  Py.require (rows.count (swapped previous) = 1) .executorActivationError
    "executor activation compare-and-swap conflict"
  return next

def compareAndSwap (previous next : ExecutorActivationState) :
    ActivationCall ExecutorActivationState := do
  Py.require (previous.intent = next.intent) .executorActivationError
    "activation transition changed immutable intent"
  Py.require (next.previousStateDigest = some previous.digest) .executorActivationError
    "activation transition predecessor mismatch"
  .transaction (swapStatements previous next)

end ExecutorActivationStore

-- `_condition_wait_observation`
def conditionWaitObservation (intent : ExecutorActivationIntent)
    (capability : ExecutorActivationCapability) : NativeActivationObservation where
  activationId     := intent.activationId
  dispatchIdentity := intent.dispatchIdentity
  executor         := intent.executor
  outcome          := .conditionWait
  conditionRef     := some ("executor://" ++ intent.executor ++ "/available")
  evidenceRef      := capability.evidenceRef
  evidenceDigest   := capability.evidenceDigest
  version          := rfl
  nonempty         := by
    have hi := intent.nonempty
    have hc := capability.nonempty
    simp only [List.mem_cons, List.not_mem_nil, or_false, forall_eq_or_imp, forall_eq] at hi hc ⊢
    have ha : ¬Text.Blank intent.activationId :=
      stableId_not_blank (show "gea".toList = 'g' :: ['e', 'a'] from rfl) (by decide) _
    exact ⟨ha, hi.right.right.right.left, hi.right.right.right.right.right.right,
      hc.right.right.right⟩
  isSha256    := capability.isSha256
  idempotent  := rfl
  noAuthority := rfl
  evidence    := by
    have hb : ¬Text.Blank ("executor://" ++ intent.executor ++ "/available") := by
      have hs : ("executor://" ++ intent.executor ++ "/available").toList =
          'e' :: ("xecutor://".toList ++ intent.executor.toList ++ "/available".toList) := by
        rw [String.toList_append, String.toList_append]
        rfl
      exact Text.not_blank_of_head hs (by decide)
    simp [OutcomeEvidence, Text.Present, hb]

def ActivationStatus.terminal (status : ActivationStatus) : Bool :=
  status ∈ [.executorAccepted, .conditionWait, .failedActivation]

-- What the adapter answers, or what is recorded in its place when it is unavailable. The adapter
-- itself is called between two accesses to the store.
def activationObservation (intent : ExecutorActivationIntent)
    (capability : ExecutorActivationCapability) (adapter : ExecutorActivationAdapter) :
    NativeActivationObservation :=
  if capability.available then adapter.activate intent
  else conditionWaitObservation intent capability

-- The state before the adapter is called, and whether this call has set it.
def beginOrRecover (state : ExecutorActivationState) :
    ActivationCall (ExecutorActivationState × ReplayStatus) := do
  if state.status = .prepared then
    let next ← (beginActivation state : Py _)
    return (← ExecutorActivationStore.compareAndSwap state next, .created)
  else if state.status = .activationUnknown then
    return (state, .recovered)
  else
    throw ⟨.executorActivationError, "unsupported activation recovery state"⟩

-- A swap that fails has been overtaken, which is fine when it was by the same state.
def commitObserved (state observed : ExecutorActivationState) (dispatchIdentity : String)
    (replayStatus : ReplayStatus) : ActivationCall ExecutorActivationResult :=
  tryCatch
    (do return ⟨← ExecutorActivationStore.compareAndSwap state observed, replayStatus⟩)
    fun e => do
      if e.cls.IsA .executorActivationError then
        let current ← ExecutorActivationStore.load dispatchIdentity
        if current = observed then return ⟨current, .alreadyRecorded⟩ else throw e
      else throw e

def activateOrReconcileExecutor (receipt : ExecutionLaunchReceipt)
    (capability : ExecutorActivationCapability) (adapter : ExecutorActivationAdapter) :
    ActivationCall ExecutorActivationResult := do
  Py.require (adapter.capability = capability) .executorActivationError
    "adapter capability binding mismatch"
  let intent ← (prepareExecutorActivation receipt capability : Py _)
  let state ← ExecutorActivationStore.initializeActivation intent
  if state.status.terminal then
    return ⟨state, .alreadyRecorded⟩
  else
    let (state, replayStatus) ← beginOrRecover state
    let observed ← (observeActivation state (activationObservation intent capability adapter) : Py _)
    commitObserved state observed intent.dispatchIdentity replayStatus

end GeneralExecution
