import GeneralExecution.Objects.Fields
import GeneralExecution.Routing.Contracts

namespace GeneralExecution

inductive ControllerDisposition
  | observeExisting
  | dispatch
  | conditionWait
  | humanGate
deriving DecidableEq

instance : PyLiteral ControllerDisposition where
  spelling
    | .observeExisting => "OBSERVE_EXISTING"
    | .dispatch        => "DISPATCH"
    | .conditionWait   => "CONDITION_WAIT"
    | .humanGate       => "HUMAN_GATE"
  values           := [.observeExisting, .dispatch, .conditionWait, .humanGate]
  parse_spelling a := by cases a <;> rfl

@[ext]
structure UnattendedAuthorityEnvelope where
  envelopeId          : String
  authorityRef        : String
  allowedRepositories : List String
  allowedActions      : List String
  forbiddenActions    : List String
  maxWorkInvocations  : Nat := 0
  maxPaidSpendCents   : Nat := 0
  authorityCreated    : Bool := false
  schemaVersion       : String := "ge.work-sparse-authority-envelope.v1"
  version             : schemaVersion = "ge.work-sparse-authority-envelope.v1"
  nonempty :
    ∀ x ∈ [("envelope_id", envelopeId), ("authority_ref", authorityRef)], ¬Text.Blank x.2
  unique :
    ∀ x ∈ [("allowed_repositories", false, allowedRepositories),
      ("allowed_actions", false, allowedActions), ("forbidden_actions", true, forbiddenActions)],
      Guard.Stripped x.2
  disjoint : ∀ a ∈ allowedActions.map Text.stripped, a ∉ forbiddenActions.map Text.stripped
  noAuthority : authorityCreated = false

namespace UnattendedAuthorityEnvelope

def new (envelopeId authorityRef : String)
    (allowedRepositories allowedActions forbiddenActions : List String)
    (maxWorkInvocations maxPaidSpendCents : Nat) (authorityCreated : Bool) (schemaVersion : String) :
    Py UnattendedAuthorityEnvelope := do
  let ⟨h₁⟩ ← Py.check (schemaVersion = "ge.work-sparse-authority-envelope.v1") .workSparseError
    "unsupported authority envelope schema"
  let ⟨h₂⟩ ← Guard.nonempty .workSparseError
    [("envelope_id", envelopeId), ("authority_ref", authorityRef)]
  let ⟨h₃⟩ ← Guard.stripped .workSparseError
    [("allowed_repositories", false, allowedRepositories),
      ("allowed_actions", false, allowedActions), ("forbidden_actions", true, forbiddenActions)]
  let ⟨h₄⟩ ← Py.check
    (∀ a ∈ allowedActions.map Text.stripped, a ∉ forbiddenActions.map Text.stripped)
    .workSparseError "allowed_actions and forbidden_actions must not overlap"
  let ⟨h₅⟩ ← Py.check (authorityCreated = false) .workSparseError
    "authority envelope cannot create authority"
  return {
    envelopeId, authorityRef, allowedRepositories, allowedActions, forbiddenActions,
    maxWorkInvocations, maxPaidSpendCents, authorityCreated, schemaVersion, version := h₁,
    nonempty := h₂, unique := h₃, disjoint := h₄, noAuthority := h₅ }

instance : AsDict UnattendedAuthorityEnvelope where
  asdict e := [
    ("envelope_id", toPy e.envelopeId),
    ("authority_ref", toPy e.authorityRef),
    ("allowed_repositories", toPy e.allowedRepositories),
    ("allowed_actions", toPy e.allowedActions),
    ("forbidden_actions", toPy e.forbiddenActions),
    ("max_work_invocations", toPy e.maxWorkInvocations),
    ("max_paid_spend_cents", toPy e.maxPaidSpendCents),
    ("authority_created", toPy e.authorityCreated),
    ("schema_version", toPy e.schemaVersion)]

end UnattendedAuthorityEnvelope

@[ext]
structure UnattendedWorkItem where
  workId               : String
  objective            : String
  repository           : String
  sourceRevision       : String
  authorityRef         : String
  requiredCapabilities : List String
  requestedActions     : List String
  existingExecutionRef : Option String := none
  schemaVersion        : String := "ge.work-sparse-work-item.v1"
  version              : schemaVersion = "ge.work-sparse-work-item.v1"
  nonempty :
    ∀ x ∈ [("work_id", workId), ("objective", objective), ("repository", repository),
      ("source_revision", sourceRevision), ("authority_ref", authorityRef)], ¬Text.Blank x.2
  unique :
    ∀ x ∈ [("required_capabilities", false, requiredCapabilities),
      ("requested_actions", false, requestedActions)], Guard.Stripped x.2
  optional : ∀ x ∈ [("existing_execution_ref", existingExecutionRef)], Guard.NoneBlank x.2

namespace UnattendedWorkItem

def new (workId objective repository sourceRevision authorityRef : String)
    (requiredCapabilities requestedActions : List String) (existingExecutionRef : Option String)
    (schemaVersion : String) : Py UnattendedWorkItem := do
  let ⟨h₁⟩ ← Py.check (schemaVersion = "ge.work-sparse-work-item.v1") .workSparseError
    "unsupported work item schema"
  let ⟨h₂⟩ ← Guard.nonempty .workSparseError
    [("work_id", workId), ("objective", objective), ("repository", repository),
      ("source_revision", sourceRevision), ("authority_ref", authorityRef)]
  let ⟨h₃⟩ ← Guard.stripped .workSparseError
    [("required_capabilities", false, requiredCapabilities),
      ("requested_actions", false, requestedActions)]
  let ⟨h₄⟩ ← Guard.optionalNonempty .workSparseError
    [("existing_execution_ref", existingExecutionRef)]
  return {
    workId, objective, repository, sourceRevision, authorityRef, requiredCapabilities,
    requestedActions, existingExecutionRef, schemaVersion, version := h₁, nonempty := h₂,
    unique := h₃, optional := h₄ }

theorem new_eq (w : UnattendedWorkItem) :
    new w.workId w.objective w.repository w.sourceRevision w.authorityRef w.requiredCapabilities
      w.requestedActions w.existingExecutionRef w.schemaVersion = .ok w := by
  simp only [new, Py.check_of w.version, Guard.nonempty_of w.nonempty, Guard.stripped_of w.unique,
    Guard.optionalNonempty_of w.optional, Except.ok_bind]
  rfl

instance : AsDict UnattendedWorkItem where
  asdict w := [
    ("work_id", toPy w.workId),
    ("objective", toPy w.objective),
    ("repository", toPy w.repository),
    ("source_revision", toPy w.sourceRevision),
    ("authority_ref", toPy w.authorityRef),
    ("required_capabilities", toPy w.requiredCapabilities),
    ("requested_actions", toPy w.requestedActions),
    ("existing_execution_ref", toPy w.existingExecutionRef),
    ("schema_version", toPy w.schemaVersion)]

end UnattendedWorkItem

@[ext]
structure ExecutorCapability where
  executorId         : String
  capabilities       : List String
  costRank           : Nat
  estimatedCostCents : Nat := 0
  requiresWork       : Bool := false
  paid               : Bool := false
  available          : Bool := true
  evidenceRef        : String := "evidence://unbound"
  authorityCreated   : Bool := false
  schemaVersion      : String := "ge.work-sparse-executor-capability.v1"
  version            : schemaVersion = "ge.work-sparse-executor-capability.v1"
  nonempty :
    ∀ x ∈ [("executor_id", executorId), ("evidence_ref", evidenceRef)], ¬Text.Blank x.2
  unique      : ∀ x ∈ [("capabilities", false, capabilities)], Guard.Stripped x.2
  noAuthority : authorityCreated = false
  free        : paid = false → estimatedCostCents = 0

namespace ExecutorCapability

def new (executorId : String) (capabilities : List String) (costRank estimatedCostCents : Nat)
    (requiresWork paid available : Bool) (evidenceRef : String) (authorityCreated : Bool)
    (schemaVersion : String) : Py ExecutorCapability := do
  let ⟨h₁⟩ ← Py.check (schemaVersion = "ge.work-sparse-executor-capability.v1") .workSparseError
    "unsupported executor capability schema"
  Py.require (¬Text.Blank executorId) .workSparseError "executor_id must be a non-empty string"
  let ⟨h₃⟩ ← Guard.stripped .workSparseError [("capabilities", false, capabilities)]
  let ⟨h₂⟩ ← Guard.nonempty .workSparseError
    [("executor_id", executorId), ("evidence_ref", evidenceRef)]
  let ⟨h₄⟩ ← Py.check (authorityCreated = false) .workSparseError
    "executor capability cannot create authority"
  let ⟨h₅⟩ ← Py.check (paid = false → estimatedCostCents = 0) .workSparseError
    "non-paid executor must have zero estimated_cost_cents"
  return {
    executorId, capabilities, costRank, estimatedCostCents, requiresWork, paid, available,
    evidenceRef, authorityCreated, schemaVersion, version := h₁, nonempty := h₂, unique := h₃,
    noAuthority := h₄, free := h₅ }

instance : AsDict ExecutorCapability where
  asdict e := [
    ("executor_id", toPy e.executorId),
    ("capabilities", toPy e.capabilities),
    ("cost_rank", toPy e.costRank),
    ("estimated_cost_cents", toPy e.estimatedCostCents),
    ("requires_work", toPy e.requiresWork),
    ("paid", toPy e.paid),
    ("available", toPy e.available),
    ("evidence_ref", toPy e.evidenceRef),
    ("authority_created", toPy e.authorityCreated),
    ("schema_version", toPy e.schemaVersion)]

end ExecutorCapability

structure ControllerUsage where
  workInvocationsUsed : Nat := 0
  paidSpendCents      : Nat := 0

-- A decision that selects no executor binds none.
def BoundExecutor (selectedExecutorId selectedExecutorDigest : Option String)
    (workRequired : Bool) : Prop :=
  match selectedExecutorId with
  | none    => selectedExecutorDigest = none ∧ workRequired = false
  | some id => ¬Text.Blank id ∧ Text.Present selectedExecutorDigest

instance (selectedExecutorId selectedExecutorDigest : Option String) (workRequired : Bool) :
    Decidable (BoundExecutor selectedExecutorId selectedExecutorDigest workRequired) := by
  unfold BoundExecutor
  cases selectedExecutorId <;> infer_instance

def boundExecutorMessage (selectedExecutorId : Option String) : String :=
  match selectedExecutorId with
  | none    => "non-dispatch decision cannot bind an executor"
  | some id =>
    if Text.Blank id then "selected_executor_id must be a non-empty string"
    else "selected_executor_digest must be a non-empty string"

structure WorkSparseControllerDecision where
  workId                 : String
  disposition            : ControllerDisposition
  selectedExecutorId     : Option String
  selectedExecutorDigest : Option String
  workRequired           : Bool
  reasons                : List String
  envelopeDigest         : String
  workItemDigest         : String
  authorityRef           : String
  authorityCreated       : Bool := false
  executionTriggered     : Bool := false
  protocolVersion        : String := "0.1.0"
  schemaVersion          : String := "ge.work-sparse-controller-decision.v1"
  decisionDigest         : String := ""
  bound       : BoundExecutor selectedExecutorId selectedExecutorDigest workRequired
  noAuthority : authorityCreated = false
  noExecution : executionTriggered = false
  nonempty    : ∀ x ∈ [("authority_ref", authorityRef)], ¬Text.Blank x.2

namespace WorkSparseControllerDecision

def new (workId disposition : String) (selectedExecutorId selectedExecutorDigest : Option String)
    (workRequired : Bool) (reasons : List String) (envelopeDigest workItemDigest authorityRef : String)
    (authorityCreated executionTriggered : Bool)
    (protocolVersion schemaVersion decisionDigest : String) : Py WorkSparseControllerDecision := do
  let disposition ← Py.ofOption .workSparseError "unsupported controller disposition"
    (PyLiteral.parse? disposition)
  let ⟨h₁⟩ ← Py.check (BoundExecutor selectedExecutorId selectedExecutorDigest workRequired)
    .workSparseError (boundExecutorMessage selectedExecutorId)
  let ⟨h₂⟩ ← Py.check (authorityCreated = false) .workSparseError
    "controller decision cannot create authority"
  let ⟨h₃⟩ ← Py.check (executionTriggered = false) .workSparseError
    "controller decision cannot claim execution"
  let ⟨h₄⟩ ← Guard.nonempty .workSparseError [("authority_ref", authorityRef)]
  return {
    workId, disposition, selectedExecutorId, selectedExecutorDigest, workRequired, reasons,
    envelopeDigest, workItemDigest, authorityRef, authorityCreated, executionTriggered,
    protocolVersion, schemaVersion, decisionDigest, bound := h₁, noAuthority := h₂,
    noExecution := h₃, nonempty := h₄ }

end WorkSparseControllerDecision

-- `_decision_payload`
def workSparseDecisionPayload (d : WorkSparseControllerDecision) : PyDict := [
  ("work_id", toPy d.workId),
  ("disposition", toPy d.disposition),
  ("selected_executor_id", toPy d.selectedExecutorId),
  ("selected_executor_digest", toPy d.selectedExecutorDigest),
  ("work_required", toPy d.workRequired),
  ("reasons", toPy d.reasons),
  ("envelope_digest", toPy d.envelopeDigest),
  ("work_item_digest", toPy d.workItemDigest),
  ("authority_ref", toPy d.authorityRef),
  ("authority_created", toPy d.authorityCreated),
  ("execution_triggered", toPy d.executionTriggered),
  ("protocol_version", toPy d.protocolVersion),
  ("schema_version", toPy d.schemaVersion)]

instance : AsDict WorkSparseControllerDecision where
  asdict d := workSparseDecisionPayload d ++ [("decision_digest", toPy d.decisionDigest)]

-- What `min` compares of the admissible executors.
def ExecutorCapability.sparseKey (e : ExecutorCapability) : ℕ ×ₗ ℕ ×ₗ ℕ ×ₗ ℕ ×ₗ String :=
  toLex (if e.requiresWork then 1 else 0, toLex (if e.paid then 1 else 0,
    toLex (e.costRank, toLex (e.estimatedCostCents, e.executorId))))

-- Why the budgets of an envelope reject an executor.
def budgetRejection (envelope : UnattendedAuthorityEnvelope) (usage : ControllerUsage)
    (e : ExecutorCapability) : Option String :=
  if e.requiresWork = true ∧ envelope.maxWorkInvocations ≤ usage.workInvocationsUsed then
    some (e.executorId ++ ":work_budget_exhausted")
  else if e.paid = true ∧
      envelope.maxPaidSpendCents < usage.paidSpendCents + e.estimatedCostCents then
    some (e.executorId ++ ":paid_budget_exhausted")
  else
    none

section Digests

variable [Sha256]

def UnattendedAuthorityEnvelope.digest (e : UnattendedAuthorityEnvelope) : String :=
  sha256Digest (toPy e)

def UnattendedWorkItem.digest (w : UnattendedWorkItem) : String :=
  sha256Digest (toPy w)

def ExecutorCapability.digest (e : ExecutorCapability) : String :=
  sha256Digest (toPy e)

-- The decision of `_finalize` before it is digested.
def provisionalDecision (work : UnattendedWorkItem) (envelope : UnattendedAuthorityEnvelope)
    (disposition : ControllerDisposition) (reasons : List String)
    (executor : Option ExecutorCapability) : WorkSparseControllerDecision where
  workId                 := work.workId
  disposition            := disposition
  selectedExecutorId     := executor.map (·.executorId)
  selectedExecutorDigest := executor.map (·.digest)
  workRequired           := executor.any (·.requiresWork)
  reasons                := reasons
  envelopeDigest         := envelope.digest
  workItemDigest         := work.digest
  authorityRef           := envelope.authorityRef
  noAuthority            := rfl
  noExecution            := rfl
  nonempty               := by simpa using envelope.nonempty ("authority_ref", _) (by simp)
  bound                  := by
    cases executor
    case none   => exact ⟨rfl, rfl⟩
    case some e =>
      have hd : ¬Text.Blank e.digest := sha256Digest_not_blank _
      exact ⟨e.nonempty ("executor_id", _) (by simp), by simp [Text.Present, hd]⟩

-- `_finalize`
def finalizeDecision (work : UnattendedWorkItem) (envelope : UnattendedAuthorityEnvelope)
    (disposition : ControllerDisposition) (reasons : List String)
    (executor : Option ExecutorCapability := none) : WorkSparseControllerDecision :=
  let provisional := provisionalDecision work envelope disposition reasons executor
  { provisional with
    decisionDigest := sha256Digest (.dict (workSparseDecisionPayload provisional)) }

def decideWorkSparseRoute (envelope : UnattendedAuthorityEnvelope) (work : UnattendedWorkItem)
    (executors : List ExecutorCapability) (usage : ControllerUsage) : WorkSparseControllerDecision :=
  let forbidden := (work.requestedActions.filter (· ∈ envelope.forbiddenActions)).dedup.mergeSort
  let unknown := Typed.difference work.requestedActions envelope.allowedActions
  let matching := executors.filter fun e => work.requiredCapabilities ⊆ e.capabilities
  let available := matching.filter (·.available)
  let rejectedReasons := available.filterMap (budgetRejection envelope usage)
  let admissible := available.filter fun e => budgetRejection envelope usage e = none
  if work.authorityRef ≠ envelope.authorityRef then
    finalizeDecision work envelope .humanGate ["authority_ref_mismatch"]
  else if work.repository ∉ envelope.allowedRepositories then
    finalizeDecision work envelope .humanGate ["repository_outside_authority_envelope"]
  else if forbidden ≠ [] then
    finalizeDecision work envelope .humanGate ["forbidden_action:" ++ ",".intercalate forbidden]
  else if unknown ≠ [] then
    finalizeDecision work envelope .humanGate ["action_not_authorized:" ++ ",".intercalate unknown]
  else match work.existingExecutionRef with
  | some ref => finalizeDecision work envelope .observeExisting ["existing_execution:" ++ ref]
  | none     =>
    if matching = [] then
      finalizeDecision work envelope .conditionWait ["no_executor_matches_required_capabilities"]
    else if available = [] then
      finalizeDecision work envelope .conditionWait ["matching_executors_unavailable"]
    else match admissible.argmin ExecutorCapability.sparseKey with
    | none          =>
      finalizeDecision work envelope .conditionWait <|
        if rejectedReasons = [] then ["no_executor_within_budget"] else rejectedReasons.mergeSort
    | some selected =>
      finalizeDecision work envelope .dispatch
        ["cheapest_admissible_executor",
          if selected.requiresWork then "work_required_by_capability" else "work_sparse_preference"]
        selected

end Digests

end GeneralExecution
