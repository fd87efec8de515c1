import GeneralExecution.Activation.Receipt
import GeneralExecution.Objects.Fields

namespace GeneralExecution

inductive ActivationOutcome
  | executorAccepted
  | conditionWait
  | failedActivation
deriving DecidableEq

instance : PyLiteral ActivationOutcome where
  spelling
    | .executorAccepted => "EXECUTOR_ACCEPTED"
    | .conditionWait    => "CONDITION_WAIT"
    | .failedActivation => "FAILED_ACTIVATION"
  values           := [.executorAccepted, .conditionWait, .failedActivation]
  parse_spelling a := by cases a <;> rfl

inductive ActivationStatus
  | prepared
  | activationUnknown
  | executorAccepted
  | conditionWait
  | failedActivation
deriving DecidableEq

instance : PyLiteral ActivationStatus where
  spelling
    | .prepared          => "prepared"
    | .activationUnknown => "activation_unknown"
    | .executorAccepted  => "executor_accepted"
    | .conditionWait     => "condition_wait"
    | .failedActivation  => "failed_activation"
  values           := [.prepared, .activationUnknown, .executorAccepted, .conditionWait, .failedActivation]
  parse_spelling a := by cases a <;> rfl

inductive ReplayStatus
  | created
  | recovered
  | alreadyRecorded
deriving DecidableEq

@[ext]
structure ExecutorActivationCapability where
  executor         : String
  adapterId        : String
  adapterVersion   : String
  evidenceRef      : String
  evidenceDigest   : String
  available        : Bool := true
  idempotencyKey   : String := "dispatch_identity"
  idempotentReplay : Bool := true
  authorityCreated : Bool := false
  schemaVersion    : String := "ge.executor-activation-capability.v1"
  version          : schemaVersion = "ge.executor-activation-capability.v1"
  nonempty :
    ∀ x ∈ [("executor", executor), ("adapter_id", adapterId), ("adapter_version", adapterVersion),
      ("evidence_ref", evidenceRef)], ¬Text.Blank x.2
  isSha256    : ∀ x ∈ [("evidence_digest", evidenceDigest)], IsSha256 x.2
  idempotent  : idempotencyKey = "dispatch_identity" ∧ idempotentReplay = true
  noAuthority : authorityCreated = false

instance : DecidableEq ExecutorActivationCapability :=
  fun _ _ => decidable_of_iff _ ExecutorActivationCapability.ext_iff.symm

namespace ExecutorActivationCapability

def new (executor adapterId adapterVersion evidenceRef evidenceDigest : String) (available : Bool)
    (idempotencyKey : String) (idempotentReplay authorityCreated : Bool) (schemaVersion : String) :
    Py ExecutorActivationCapability := do
  let ⟨h₁⟩ ← Py.check (schemaVersion = "ge.executor-activation-capability.v1")
    .executorActivationError "unsupported activation capability schema"
  let ⟨h₂⟩ ← Guard.nonempty .executorActivationError
    [("executor", executor), ("adapter_id", adapterId), ("adapter_version", adapterVersion),
      ("evidence_ref", evidenceRef)]
  let ⟨h₃⟩ ← Guard.sha256 .executorActivationError [("evidence_digest", evidenceDigest)]
  let ⟨h₄⟩ ← Py.check (idempotencyKey = "dispatch_identity" ∧ idempotentReplay = true)
    .executorActivationError <|
      if idempotencyKey = "dispatch_identity" then
        "executor activation adapter must support idempotent replay"
      else "executor activation must be idempotent by dispatch_identity"
  let ⟨h₅⟩ ← Py.check (authorityCreated = false) .executorActivationError
    "executor activation capability cannot create authority"
  return {
    executor, adapterId, adapterVersion, evidenceRef, evidenceDigest, available, idempotencyKey,
    idempotentReplay, authorityCreated, schemaVersion, version := h₁, nonempty := h₂,
    isSha256 := h₃, idempotent := h₄, noAuthority := h₅ }

instance : AsDict ExecutorActivationCapability where
  asdict c := [
    ("executor", toPy c.executor),
    ("adapter_id", toPy c.adapterId),
    ("adapter_version", toPy c.adapterVersion),
    ("evidence_ref", toPy c.evidenceRef),
    ("evidence_digest", toPy c.evidenceDigest),
    ("available", toPy c.available),
    ("idempotency_key", toPy c.idempotencyKey),
    ("idempotent_replay", toPy c.idempotentReplay),
    ("authority_created", toPy c.authorityCreated),
    ("schema_version", toPy c.schemaVersion)]

end ExecutorActivationCapability

@[ext]
structure ExecutorActivationIntent where
  receiptId              : String
  receiptDigest          : String
  orderDigest            : String
  workstreamId           : String
  launchId               : String
  dispatchIdentity       : String
  owner                  : String
  repository             : String
  executor               : String
  authorityRef           : Option String
  authorityBindingDigest : Option String
  capabilityDigest       : String
  authorityCreated       : Bool := false
  schemaVersion          : String := "ge.executor-activation-intent.v1"
  version                : schemaVersion = "ge.executor-activation-intent.v1"
  nonempty :
    ∀ x ∈ [("receipt_id", receiptId), ("workstream_id", workstreamId), ("launch_id", launchId),
      ("dispatch_identity", dispatchIdentity), ("owner", owner), ("repository", repository),
      ("executor", executor)], ¬Text.Blank x.2
  isSha256 :
    ∀ x ∈ [("receipt_digest", receiptDigest), ("order_digest", orderDigest),
      ("capability_digest", capabilityDigest)], IsSha256 x.2
  optional    : ∀ x ∈ [("authority_binding_digest", authorityBindingDigest)], Guard.OptionalSha256 x.2
  noAuthority : authorityCreated = false

instance : DecidableEq ExecutorActivationIntent :=
  fun _ _ => decidable_of_iff _ ExecutorActivationIntent.ext_iff.symm

namespace ExecutorActivationIntent

def new (receiptId receiptDigest orderDigest workstreamId launchId dispatchIdentity owner repository
      executor : String) (authorityRef authorityBindingDigest : Option String)
    (capabilityDigest : String) (authorityCreated : Bool) (schemaVersion : String) :
    Py ExecutorActivationIntent := do
  let ⟨h₁⟩ ← Py.check (schemaVersion = "ge.executor-activation-intent.v1") .executorActivationError
    "unsupported activation intent schema"
  let ⟨h₂⟩ ← Guard.nonempty .executorActivationError
    [("receipt_id", receiptId), ("workstream_id", workstreamId), ("launch_id", launchId),
      ("dispatch_identity", dispatchIdentity), ("owner", owner), ("repository", repository),
      ("executor", executor)]
  let ⟨h₃⟩ ← Guard.sha256 .executorActivationError
    [("receipt_digest", receiptDigest), ("order_digest", orderDigest),
      ("capability_digest", capabilityDigest)]
  let ⟨h₄⟩ ← Guard.optionalSha256 .executorActivationError
    [("authority_binding_digest", authorityBindingDigest)]
  let ⟨h₅⟩ ← Py.check (authorityCreated = false) .executorActivationError
    "activation intent cannot create authority"
  return {
    receiptId, receiptDigest, orderDigest, workstreamId, launchId, dispatchIdentity, owner,
    repository, executor, authorityRef, authorityBindingDigest, capabilityDigest,
    authorityCreated, schemaVersion, version := h₁, nonempty := h₂, isSha256 := h₃,
    optional := h₄, noAuthority := h₅ }

theorem new_eq (i : ExecutorActivationIntent) :
    new i.receiptId i.receiptDigest i.orderDigest i.workstreamId i.launchId i.dispatchIdentity
      i.owner i.repository i.executor i.authorityRef i.authorityBindingDigest i.capabilityDigest
      i.authorityCreated i.schemaVersion = .ok i := by
  simp only [new, Py.check_of i.version, Guard.nonempty_of i.nonempty, Guard.sha256_of i.isSha256,
    Guard.optionalSha256_of i.optional, Py.check_of i.noAuthority, Except.ok_bind]
  rfl

instance : AsDict ExecutorActivationIntent where
  asdict i := [
    ("receipt_id", toPy i.receiptId),
    ("receipt_digest", toPy i.receiptDigest),
    ("order_digest", toPy i.orderDigest),
    ("workstream_id", toPy i.workstreamId),
    ("launch_id", toPy i.launchId),
    ("dispatch_identity", toPy i.dispatchIdentity),
    ("owner", toPy i.owner),
    ("repository", toPy i.repository),
    ("executor", toPy i.executor),
    ("authority_ref", toPy i.authorityRef),
    ("authority_binding_digest", toPy i.authorityBindingDigest),
    ("capability_digest", toPy i.capabilityDigest),
    ("authority_created", toPy i.authorityCreated),
    ("schema_version", toPy i.schemaVersion)]

end ExecutorActivationIntent

-- Each outcome carries its own evidence and none of the others'.
def OutcomeEvidence (outcome : ActivationOutcome)
    (nativeExecutionRef conditionRef failureReason : Option String) : Prop :=
  match outcome with
  | .executorAccepted =>
    Text.Present nativeExecutionRef ∧ conditionRef = none ∧ failureReason = none
  | .conditionWait =>
    Text.Present conditionRef ∧ nativeExecutionRef = none ∧ failureReason = none
  | .failedActivation =>
    Text.Present failureReason ∧ nativeExecutionRef = none ∧ conditionRef = none

instance (outcome : ActivationOutcome)
    (nativeExecutionRef conditionRef failureReason : Option String) :
    Decidable (OutcomeEvidence outcome nativeExecutionRef conditionRef failureReason) := by
  unfold OutcomeEvidence
  cases outcome <;> infer_instance

def outcomeMessage (outcome : ActivationOutcome)
    (nativeExecutionRef conditionRef failureReason : Option String) : String :=
  match outcome with
  | .executorAccepted =>
    if Text.Present nativeExecutionRef then "accepted activation cannot carry wait/failure fields"
    else "native_execution_ref must be a non-empty string"
  | .conditionWait =>
    if Text.Present conditionRef then "condition wait cannot claim native execution or failure"
    else "condition_ref must be a non-empty string"
  | .failedActivation =>
    if Text.Present failureReason then
      "failed activation cannot claim native execution or condition"
    else "failure_reason must be a non-empty string"

@[ext]
structure NativeActivationObservation where
  activationId       : String
  dispatchIdentity   : String
  executor           : String
  outcome            : ActivationOutcome
  evidenceRef        : String
  evidenceDigest     : String
  nativeExecutionRef : Option String := none
  conditionRef       : Option String := none
  failureReason      : Option String := none
  idempotencyKey     : String := "dispatch_identity"
  authorityCreated   : Bool := false
  schemaVersion      : String := "ge.executor-activation-observation.v1"
  version            : schemaVersion = "ge.executor-activation-observation.v1"
  nonempty :
    ∀ x ∈ [("activation_id", activationId), ("dispatch_identity", dispatchIdentity),
      ("executor", executor), ("evidence_ref", evidenceRef)], ¬Text.Blank x.2
  isSha256    : ∀ x ∈ [("evidence_digest", evidenceDigest)], IsSha256 x.2
  idempotent  : idempotencyKey = "dispatch_identity"
  noAuthority : authorityCreated = false
  evidence    : OutcomeEvidence outcome nativeExecutionRef conditionRef failureReason

namespace NativeActivationObservation

def new (activationId dispatchIdentity executor outcome evidenceRef evidenceDigest : String)
    (nativeExecutionRef conditionRef failureReason : Option String) (idempotencyKey : String)
    (authorityCreated : Bool) (schemaVersion : String) : Py NativeActivationObservation := do
  let ⟨h₁⟩ ← Py.check (schemaVersion = "ge.executor-activation-observation.v1")
    .executorActivationError "unsupported activation observation schema"
  let ⟨h₂⟩ ← Guard.nonempty .executorActivationError
    [("activation_id", activationId), ("dispatch_identity", dispatchIdentity),
      ("executor", executor), ("evidence_ref", evidenceRef)]
  let ⟨h₃⟩ ← Guard.sha256 .executorActivationError [("evidence_digest", evidenceDigest)]
  let ⟨h₄⟩ ← Py.check (idempotencyKey = "dispatch_identity") .executorActivationError
    "activation observation must bind dispatch_identity idempotency"
  let ⟨h₅⟩ ← Py.check (authorityCreated = false) .executorActivationError
    "activation observation cannot create authority"
  let outcome ← Py.ofOption .executorActivationError "unsupported activation outcome"
    (PyLiteral.parse? outcome)
  let ⟨h₆⟩ ← Py.check (OutcomeEvidence outcome nativeExecutionRef conditionRef failureReason)
    .executorActivationError (outcomeMessage outcome nativeExecutionRef conditionRef failureReason)
  return {
    activationId, dispatchIdentity, executor, outcome, evidenceRef, evidenceDigest,
    nativeExecutionRef, conditionRef, failureReason, idempotencyKey, authorityCreated,
    schemaVersion, version := h₁, nonempty := h₂, isSha256 := h₃, idempotent := h₄,
    noAuthority := h₅, evidence := h₆ }

instance : AsDict NativeActivationObservation where
  asdict o := [
    ("activation_id", toPy o.activationId),
    ("dispatch_identity", toPy o.dispatchIdentity),
    ("executor", toPy o.executor),
    ("outcome", toPy o.outcome),
    ("evidence_ref", toPy o.evidenceRef),
    ("evidence_digest", toPy o.evidenceDigest),
    ("native_execution_ref", toPy o.nativeExecutionRef),
    ("condition_ref", toPy o.conditionRef),
    ("failure_reason", toPy o.failureReason),
    ("idempotency_key", toPy o.idempotencyKey),
    ("authority_created", toPy o.authorityCreated),
    ("schema_version", toPy o.schemaVersion)]

end NativeActivationObservation

-- What a state of each status must and may carry. An observed state is not asked to leave out the
-- evidence of the other outcomes.
def ActivationEvidence (status : ActivationStatus) (revision : Nat)
    (previousStateDigest observationDigest nativeExecutionRef conditionRef failureReason :
      Option String) : Prop :=
  match status with
  | .prepared =>
    (revision = 0 ∧ previousStateDigest = none) ∧
      (observationDigest = none ∧ nativeExecutionRef = none ∧ conditionRef = none ∧
        failureReason = none)
  | .activationUnknown =>
    (revision = 1 ∧ previousStateDigest.isSome) ∧
      (observationDigest = none ∧ nativeExecutionRef = none ∧ conditionRef = none ∧
        failureReason = none)
  | .executorAccepted =>
    (revision = 2 ∧ previousStateDigest.isSome) ∧ observationDigest.any (IsSha256 ·) ∧
      Text.Present nativeExecutionRef
  | .conditionWait =>
    (revision = 2 ∧ previousStateDigest.isSome) ∧ observationDigest.any (IsSha256 ·) ∧
      Text.Present conditionRef
  | .failedActivation =>
    (revision = 2 ∧ previousStateDigest.isSome) ∧ observationDigest.any (IsSha256 ·) ∧
      Text.Present failureReason

instance (status : ActivationStatus) (revision : Nat)
    (previousStateDigest observationDigest nativeExecutionRef conditionRef failureReason :
      Option String) :
    Decidable (ActivationEvidence status revision previousStateDigest observationDigest
      nativeExecutionRef conditionRef failureReason) := by
  unfold ActivationEvidence
  cases status <;> infer_instance

def observedMessage (revision : Nat) (previousStateDigest observationDigest : Option String)
    (name : String) : String :=
  if ¬(revision = 2 ∧ previousStateDigest.isSome) then
    "observed activation state must be revision 2 with predecessor"
  else match observationDigest with
    | none => "observed activation state requires observation digest"
    | some d =>
      if IsSha256 d then name ++ " must be a non-empty string"
      else sha256Message "observation_digest must be sha256:<64-hex>"
        "observation_digest must contain 64 hexadecimal characters" d

def activationMessage (status : ActivationStatus) (revision : Nat)
    (previousStateDigest observationDigest : Option String) : String :=
  match status with
  | .prepared =>
    if revision = 0 ∧ previousStateDigest = none then
      "prepared activation cannot claim activation evidence"
    else "prepared activation must be revision 0 without predecessor"
  | .activationUnknown =>
    if revision = 1 ∧ previousStateDigest.isSome then
      "activation_unknown cannot claim an observed outcome"
    else "activation_unknown must be revision 1 with predecessor"
  | .executorAccepted =>
    observedMessage revision previousStateDigest observationDigest "native_execution_ref"
  | .conditionWait => observedMessage revision previousStateDigest observationDigest "condition_ref"
  | .failedActivation =>
    observedMessage revision previousStateDigest observationDigest "failure_reason"

@[ext]
structure ExecutorActivationState where
  intent              : ExecutorActivationIntent
  status              : ActivationStatus
  revision            : Nat
  previousStateDigest : Option String := none
  observationDigest   : Option String := none
  nativeExecutionRef  : Option String := none
  conditionRef        : Option String := none
  failureReason       : Option String := none
  authorityCreated    : Bool := false
  schemaVersion       : String := "ge.executor-activation-state.v1"
  version             : schemaVersion = "ge.executor-activation-state.v1"
  noAuthority         : authorityCreated = false
  evidence :
    ActivationEvidence status revision previousStateDigest observationDigest nativeExecutionRef
      conditionRef failureReason

instance : DecidableEq ExecutorActivationState :=
  fun _ _ => decidable_of_iff _ ExecutorActivationState.ext_iff.symm

namespace ExecutorActivationState

def new (intent : ExecutorActivationIntent) (status : String) (revision : Nat)
    (previousStateDigest observationDigest nativeExecutionRef conditionRef failureReason :
      Option String)
    (authorityCreated : Bool) (schemaVersion : String) : Py ExecutorActivationState := do
  let ⟨h₁⟩ ← Py.check (schemaVersion = "ge.executor-activation-state.v1") .executorActivationError
    "unsupported activation state schema"
  let ⟨h₂⟩ ← Py.check (authorityCreated = false) .executorActivationError
    "activation state cannot create authority"
  let status ← Py.ofOption .executorActivationError "unsupported activation state"
    (PyLiteral.parse? status)
  let ⟨h₃⟩ ← Py.check
    (ActivationEvidence status revision previousStateDigest observationDigest nativeExecutionRef
      conditionRef failureReason)
    .executorActivationError
    (activationMessage status revision previousStateDigest observationDigest)
  return {
    intent, status, revision, previousStateDigest, observationDigest, nativeExecutionRef,
    conditionRef, failureReason, authorityCreated, schemaVersion, version := h₁,
    noAuthority := h₂, evidence := h₃ }

theorem new_eq (s : ExecutorActivationState) :
    new s.intent (PyLiteral.spelling s.status) s.revision s.previousStateDigest s.observationDigest
      s.nativeExecutionRef s.conditionRef s.failureReason s.authorityCreated s.schemaVersion =
      .ok s := by
  simp only [new, Py.check_of s.version, Py.check_of s.noAuthority, Py.ofOption, PyLiteral.parse?,
    PyLiteral.parse_spelling, Except.ofOption, Py.check_of s.evidence, Except.ok_bind]
  rfl

instance : AsDict ExecutorActivationState where
  asdict s := [
    ("intent", toPy s.intent),
    ("status", toPy s.status),
    ("revision", toPy s.revision),
    ("previous_state_digest", toPy s.previousStateDigest),
    ("observation_digest", toPy s.observationDigest),
    ("native_execution_ref", toPy s.nativeExecutionRef),
    ("condition_ref", toPy s.conditionRef),
    ("failure_reason", toPy s.failureReason),
    ("authority_created", toPy s.authorityCreated),
    ("schema_version", toPy s.schemaVersion)]

end ExecutorActivationState

structure ExecutorActivationResult where
  state        : ExecutorActivationState
  replayStatus : ReplayStatus

-- The adapter is the executor's own code.
structure ExecutorActivationAdapter where
  capability : ExecutorActivationCapability
  activate   : ExecutorActivationIntent → NativeActivationObservation

def activationIntentFromDict (data : Json) : Py ExecutorActivationIntent := do
  Field.kwargs
    ["receipt_id", "receipt_digest", "order_digest", "workstream_id", "launch_id",
      "dispatch_identity", "owner", "repository", "executor", "authority_ref",
      "authority_binding_digest", "capability_digest"]
    ["authority_created", "schema_version"] data
  ExecutorActivationIntent.new
    (← Field.get Read.string data "receipt_id")
    (← Field.get Read.string data "receipt_digest")
    (← Field.get Read.string data "order_digest")
    (← Field.get Read.string data "workstream_id")
    (← Field.get Read.string data "launch_id")
    (← Field.get Read.string data "dispatch_identity")
    (← Field.get Read.string data "owner")
    (← Field.get Read.string data "repository")
    (← Field.get Read.string data "executor")
    (← Field.get (Read.opt Read.string) data "authority_ref")
    (← Field.get (Read.opt Read.string) data "authority_binding_digest")
    (← Field.get Read.string data "capability_digest")
    (← Field.getD Typed.bool false data "authority_created")
    (← Field.getD Read.string "ge.executor-activation-intent.v1" data "schema_version")

def activationStateOfFields (data intentData : Json) : Py ExecutorActivationState := do
  let intent ← activationIntentFromDict intentData
  Field.kwargs ["intent", "status", "revision"]
    ["previous_state_digest", "observation_digest", "native_execution_ref", "condition_ref",
      "failure_reason", "authority_created", "schema_version"] data
  ExecutorActivationState.new intent
    (← Field.get Read.string data "status")
    (← Field.get (Read.nat "unsupported activation state") data "revision")
    (← Field.getD (Read.opt Read.string) none data "previous_state_digest")
    (← Field.getD (Read.opt Read.string) none data "observation_digest")
    (← Field.getD (Read.opt Read.string) none data "native_execution_ref")
    (← Field.getD (Read.opt Read.string) none data "condition_ref")
    (← Field.getD (Read.opt Read.string) none data "failure_reason")
    (← Field.getD Typed.bool false data "authority_created")
    (← Field.getD Read.string "ge.executor-activation-state.v1" data "schema_version")

def activationStateFromDict (data : Json) : Py ExecutorActivationState := do
  Py.require (data.isObj = true ∧ Field.hasSchema data "ge.executor-activation-state.v1" = true)
    .executorActivationError "unsupported activation state document"
  let intentData ← Py.ofOption .executorActivationError "activation state requires intent" <|
    (data.get? "intent").filter Json.isObj
  Py.wrap [.typeError, .valueError] .executorActivationError "invalid activation state document" <|
    activationStateOfFields data intentData

def serializeActivationState (state : ExecutorActivationState) : String :=
  canonicalJson (toPy state)

def deserializeActivationState (value : String) : Py ExecutorActivationState := do
  let document ← Py.ofOption .executorActivationError "activation state is not valid JSON" <|
    Json.loads value
  activationStateFromDict document

section Digests

variable [Sha256]

def ExecutorActivationCapability.digest (c : ExecutorActivationCapability) : String :=
  sha256Digest (toPy c)

def ExecutorActivationIntent.activationId (i : ExecutorActivationIntent) : String :=
  stableId "gea" (toPy i)

def NativeActivationObservation.digest (o : NativeActivationObservation) : String :=
  sha256Digest (toPy o)

def ExecutorActivationState.digest (s : ExecutorActivationState) : String :=
  sha256Digest (toPy s)

def prepareExecutorActivation (receipt : ExecutionLaunchReceipt)
    (capability : ExecutorActivationCapability) : Py ExecutorActivationIntent := do
  Py.require (receipt.disposition = .admitted) .executorActivationError
    "executor activation requires an ADMITTED launch receipt"
  Py.require (receipt.executionTriggered = false) .executorActivationError
    "EAC-01 cannot consume a receipt that already claims execution"
  Py.require
    (∀ o ∈ [receipt.launchId, receipt.dispatchIdentity, receipt.owner, receipt.repository,
      receipt.executor], Text.Truthy o)
    .executorActivationError "ADMITTED receipt lacks complete activation identity"
  Py.require (receipt.executor = some capability.executor) .executorActivationError
    "activation capability executor mismatch"
  -- All five are set, as has been checked.
  ExecutorActivationIntent.new receipt.receiptId receipt.digest receipt.orderDigest
    receipt.workstreamId (receipt.launchId.getD "") (receipt.dispatchIdentity.getD "")
    (receipt.owner.getD "") (receipt.repository.getD "") (receipt.executor.getD "")
    receipt.authorityRef receipt.authorityBindingDigest capability.digest false
    "ge.executor-activation-intent.v1"

omit [Sha256] in
def initialActivationState (intent : ExecutorActivationIntent) : ExecutorActivationState where
  intent      := intent
  status      := .prepared
  revision    := 0
  version     := rfl
  noAuthority := rfl
  evidence    := by simp [ActivationEvidence]

-- The state that `begin_activation` makes of a prepared one.
def activationUnknownState (state : ExecutorActivationState) : ExecutorActivationState where
  intent              := state.intent
  status              := .activationUnknown
  revision            := 1
  previousStateDigest := some state.digest
  version             := rfl
  noAuthority         := rfl
  evidence            := by simp [ActivationEvidence]

def beginActivation (state : ExecutorActivationState) : Py ExecutorActivationState := do
  Py.require (state.status = .prepared) .executorActivationError
    "activation can begin only from prepared"
  return activationUnknownState state

-- The state in which each outcome ends.
def ActivationOutcome.status : ActivationOutcome → ActivationStatus
  | .executorAccepted => .executorAccepted
  | .conditionWait    => .conditionWait
  | .failedActivation => .failedActivation

-- The state that `observe_activation` makes of an unknown one. Each outcome sets its own evidence
-- and leaves the other fields at their default.
def observedActivationState (state : ExecutorActivationState)
    (observation : NativeActivationObservation) : ExecutorActivationState where
  intent              := state.intent
  status              := observation.outcome.status
  revision            := 2
  previousStateDigest := some state.digest
  observationDigest   := some observation.digest
  nativeExecutionRef  :=
    if observation.outcome = .executorAccepted then observation.nativeExecutionRef else none
  conditionRef        :=
    if observation.outcome = .conditionWait then observation.conditionRef else none
  failureReason       :=
    if observation.outcome = .failedActivation then observation.failureReason else none
  version             := rfl
  noAuthority         := rfl
  evidence            := by
    have he := observation.evidence
    have hd : IsSha256 observation.digest := isSha256_sha256Digest _
    unfold OutcomeEvidence at he
    cases ho : observation.outcome <;> simp only [ho] at he <;>
      simp [ActivationOutcome.status, ActivationEvidence, hd, he.left]

-- An observation that is about the intent.
def NativeActivationObservation.BoundTo (observation : NativeActivationObservation)
    (intent : ExecutorActivationIntent) : Prop :=
  observation.activationId = intent.activationId ∧
    observation.dispatchIdentity = intent.dispatchIdentity ∧ observation.executor = intent.executor

def observeActivation (state : ExecutorActivationState)
    (observation : NativeActivationObservation) : Py ExecutorActivationState := do
  Py.require (state.status = .activationUnknown) .executorActivationError
    "native observation requires activation_unknown state"
  Py.require (observation.activationId = state.intent.activationId) .executorActivationError
    "activation observation identity mismatch"
  Py.require (observation.dispatchIdentity = state.intent.dispatchIdentity) .executorActivationError
    "activation dispatch identity mismatch"
  Py.require (observation.executor = state.intent.executor) .executorActivationError
    "activation executor mismatch"
  return observedActivationState state observation

end Digests

end GeneralExecution
