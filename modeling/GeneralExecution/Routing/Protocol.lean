import GeneralExecution.Routing.Symbiosis

namespace GeneralExecution

inductive InvocationMode
  | noSystem
  | advisory
  | realRun
  | composedRealRun
deriving DecidableEq

instance : PyLiteral InvocationMode where
  spelling
    | .noSystem        => "NO_SYSTEM"
    | .advisory        => "ADVISORY"
    | .realRun         => "REAL_RUN"
    | .composedRealRun => "COMPOSED_REAL_RUN"
  values           := [.noSystem, .advisory, .realRun, .composedRealRun]
  parse_spelling a := by cases a <;> rfl

inductive ProtocolDisposition
  | noSystemRequired
  | advisoryReady
  | readyForExistingAdmission
  | observeExisting
  | conditionWait
  | humanGate
deriving DecidableEq

instance : PyLiteral ProtocolDisposition where
  spelling
    | .noSystemRequired          => "NO_SYSTEM_REQUIRED"
    | .advisoryReady             => "ADVISORY_READY"
    | .readyForExistingAdmission => "READY_FOR_EXISTING_ADMISSION"
    | .observeExisting           => "OBSERVE_EXISTING"
    | .conditionWait             => "CONDITION_WAIT"
    | .humanGate                 => "HUMAN_GATE"
  values           :=
    [.noSystemRequired, .advisoryReady, .readyForExistingAdmission, .observeExisting,
      .conditionWait, .humanGate]
  parse_spelling a := by cases a <;> rfl

inductive ResourceCauseKind
  | none
  | capacity
  | credential
  | provider
  | paidResource
  | time
  | externalEvidence
  | unknown
deriving DecidableEq

instance : PyLiteral ResourceCauseKind where
  spelling
    | .none             => "none"
    | .capacity         => "capacity"
    | .credential       => "credential"
    | .provider         => "provider"
    | .paidResource     => "paid_resource"
    | .time             => "time"
    | .externalEvidence => "external_evidence"
    | .unknown          => "unknown"
  values           :=
    [.none, .capacity, .credential, .provider, .paidResource, .time, .externalEvidence, .unknown]
  parse_spelling a := by cases a <;> rfl

namespace Guard

-- `re.fullmatch(rf"{letter}_[0-9a-f]{{16}}", value.strip())`
def OpaqueAlias (letter : Char) (value : String) : Prop :=
  let cs := (Text.stripped value).toList
  cs.take 2 = [letter, '_'] ∧ (cs.drop 2).length = 16 ∧ ∀ c ∈ cs.drop 2, c ∈ Text.lowerHex

instance (letter : Char) : DecidablePred (OpaqueAlias letter) :=
  fun _ => inferInstanceAs <| Decidable (_ ∧ _ ∧ _)

-- `_opaque_alias`
def opaqueAlias (letter : Char) (xs : List (String × String)) :
    Py (PLift (∀ x ∈ xs, OpaqueAlias letter x.2)) :=
  each .executionProtocolError (OpaqueAlias letter) (fun name value =>
    if Text.Blank value then name ++ " must be a non-empty string"
    else name ++ " must be an opaque " ++ letter.toString ++ "_<16-hex> alias") xs

end Guard

structure CapabilityProjection where
  candidateId               : String
  capabilityIds             : List String
  projectionId              : String
  registryRevisionDigest    : String
  authorityRefDigest        : String
  costRank                  : Nat := 0
  executionCapable          : Bool := false
  internalIdentityDisclosed : Bool := false
  authorityCreated          : Bool := false
  schemaVersion             : String := "ge.execution-protocol-capability-projection.v1"
  version      : schemaVersion = "ge.execution-protocol-capability-projection.v1"
  candidate    : ∀ x ∈ [("candidate_id", candidateId)], Guard.OpaqueAlias 'c' x.2
  unique       : ∀ x ∈ [("capability_ids", false, capabilityIds)], Guard.Stripped x.2
  capabilities : ∀ x ∈ capabilityIds.map ("capability_ids", ·), Guard.OpaqueAlias 'k' x.2
  projection   : ∀ x ∈ [("projection_id", projectionId)], Guard.OpaqueAlias 'p' x.2
  isSha256 :
    ∀ x ∈ [("registry_revision_digest", registryRevisionDigest),
      ("authority_ref_digest", authorityRefDigest)], Guard.StrippedSha256 x.2
  undisclosed  : internalIdentityDisclosed = false
  noAuthority  : authorityCreated = false

namespace CapabilityProjection

def new (candidateId : String) (capabilityIds : List String)
    (projectionId registryRevisionDigest authorityRefDigest : String) (costRank : Nat)
    (executionCapable internalIdentityDisclosed authorityCreated : Bool) (schemaVersion : String) :
    Py CapabilityProjection := do
  let ⟨h₁⟩ ← Py.check (schemaVersion = "ge.execution-protocol-capability-projection.v1")
    .executionProtocolError "unsupported capability projection schema"
  let ⟨h₂⟩ ← Guard.opaqueAlias 'c' [("candidate_id", candidateId)]
  let ⟨h₃⟩ ← Guard.stripped .executionProtocolError [("capability_ids", false, capabilityIds)]
  let ⟨h₄⟩ ← Guard.opaqueAlias 'k' (capabilityIds.map ("capability_ids", ·))
  let ⟨h₅⟩ ← Guard.opaqueAlias 'p' [("projection_id", projectionId)]
  let ⟨h₆⟩ ← Guard.strippedSha256 .executionProtocolError
    [("registry_revision_digest", registryRevisionDigest),
      ("authority_ref_digest", authorityRefDigest)]
  let ⟨h₇⟩ ← Py.check (internalIdentityDisclosed = false) .executionProtocolError
    "public capability projection cannot disclose internal identity"
  let ⟨h₈⟩ ← Py.check (authorityCreated = false) .executionProtocolError
    "system capability cannot create authority"
  return {
    candidateId, capabilityIds, projectionId, registryRevisionDigest, authorityRefDigest, costRank,
    executionCapable, internalIdentityDisclosed, authorityCreated, schemaVersion, version := h₁,
    candidate := h₂, unique := h₃, capabilities := h₄, projection := h₅, isSha256 := h₆,
    undisclosed := h₇, noAuthority := h₈ }

end CapabilityProjection

-- What a request that asks for capabilities binds them to.
structure RequestBound (projectionId registryRevisionDigest authorityRefDigest : Option String) :
    Prop where
  projection : ∃ id, projectionId = some id ∧ Guard.OpaqueAlias 'p' id
  registry   : ∃ digest, registryRevisionDigest = some digest ∧ IsSha256 digest
  authority  : ∃ digest, authorityRefDigest = some digest ∧ IsSha256 digest

structure ExecutionProtocolRequest where
  requestId                    : String
  objective                    : String
  evidencePredicate            : String
  requiredCapabilityIds        : List String
  repository                   : String
  authorityRef                 : String
  projectionId                 : Option String := none
  registryRevisionDigest       : Option String := none
  authorityRefDigest           : Option String := none
  requiredExecutorCapabilities : List String := []
  requestedActions             : List String := []
  requiresObservedEvidence     : Bool := false
  requiresStateChange          : Bool := false
  advisoryAllowed              : Bool := true
  existingExecutionRef         : Option String := none
  schemaVersion                : String := "ge.execution-protocol-request.v1"
  version  : schemaVersion = "ge.execution-protocol-request.v1"
  nonempty :
    ∀ x ∈ [("request_id", requestId), ("objective", objective),
      ("evidence_predicate", evidencePredicate), ("repository", repository),
      ("authority_ref", authorityRef)], ¬Text.Blank x.2
  unique :
    ∀ x ∈ [("required_capability_ids", true, requiredCapabilityIds),
      ("required_executor_capabilities", true, requiredExecutorCapabilities),
      ("requested_actions", true, requestedActions)], Guard.Stripped x.2
  capabilities :
    ∀ x ∈ requiredCapabilityIds.map ("required_capability_ids", ·), Guard.OpaqueAlias 'k' x.2
  bound : requiredCapabilityIds ≠ [] →
    RequestBound projectionId registryRevisionDigest authorityRefDigest
  optional : ∀ x ∈ [("existing_execution_ref", existingExecutionRef)], Guard.NoneBlank x.2

namespace ExecutionProtocolRequest

def present (name : String) (value : Option String) : Py { s // value = some s } :=
  match value with
  | some s => .ok ⟨s, rfl⟩
  | none   => Py.raise .executionProtocolError
      (name ++ " is required when capability selection is requested")

def sha256 (name value : String) : Py (PLift (IsSha256 value)) :=
  Py.check (IsSha256 value) .executionProtocolError <|
    sha256Message (name ++ " must be sha256:<64-hex>") (name ++ " must contain hexadecimal digest")
      value

def binding (projectionId registryRevisionDigest authorityRefDigest : Option String) :
    Py (PLift (RequestBound projectionId registryRevisionDigest authorityRefDigest)) := do
  let ⟨projection, h₁⟩ ← present "projection_id" projectionId
  let ⟨h₂⟩ ← Guard.opaqueAlias 'p' [("projection_id", projection)]
  let ⟨registry, h₃⟩ ← present "registry_revision_digest" registryRevisionDigest
  let _ ← Guard.nonempty .executionProtocolError [("registry_revision_digest", registry)]
  let ⟨authority, h₄⟩ ← present "authority_ref_digest" authorityRefDigest
  let _ ← Guard.nonempty .executionProtocolError [("authority_ref_digest", authority)]
  let ⟨h₅⟩ ← sha256 "registry_revision_digest" registry
  let ⟨h₆⟩ ← sha256 "authority_ref_digest" authority
  return ⟨{
    projection := ⟨projection, h₁, h₂ ("projection_id", projection) (List.mem_singleton_self _)⟩
    registry   := ⟨registry, h₃, h₅⟩
    authority  := ⟨authority, h₄, h₆⟩ }⟩

def new (requestId objective evidencePredicate : String) (requiredCapabilityIds : List String)
    (repository authorityRef : String)
    (projectionId registryRevisionDigest authorityRefDigest : Option String)
    (requiredExecutorCapabilities requestedActions : List String)
    (requiresObservedEvidence requiresStateChange advisoryAllowed : Bool)
    (existingExecutionRef : Option String) (schemaVersion : String) :
    Py ExecutionProtocolRequest := do
  let ⟨h₁⟩ ← Py.check (schemaVersion = "ge.execution-protocol-request.v1") .executionProtocolError
    "unsupported request schema"
  let ⟨h₂⟩ ← Guard.nonempty .executionProtocolError
    [("request_id", requestId), ("objective", objective),
      ("evidence_predicate", evidencePredicate), ("repository", repository),
      ("authority_ref", authorityRef)]
  let _ ← Guard.stripped .executionProtocolError
    [("required_capability_ids", true, requiredCapabilityIds)]
  let ⟨h₄⟩ ← Guard.opaqueAlias 'k' (requiredCapabilityIds.map ("required_capability_ids", ·))
  let ⟨h₅⟩ : PLift (requiredCapabilityIds ≠ [] →
      RequestBound projectionId registryRevisionDigest authorityRefDigest) ←
    if h : requiredCapabilityIds = [] then
      pure ⟨fun hn => absurd h hn⟩
    else do
      let ⟨hb⟩ ← binding projectionId registryRevisionDigest authorityRefDigest
      pure ⟨fun _ => hb⟩
  let ⟨h₃⟩ ← Guard.stripped .executionProtocolError
    [("required_capability_ids", true, requiredCapabilityIds),
      ("required_executor_capabilities", true, requiredExecutorCapabilities),
      ("requested_actions", true, requestedActions)]
  let ⟨h₆⟩ ← Guard.optionalNonempty .executionProtocolError
    [("existing_execution_ref", existingExecutionRef)]
  return {
    requestId, objective, evidencePredicate, requiredCapabilityIds, repository, authorityRef,
    projectionId, registryRevisionDigest, authorityRefDigest, requiredExecutorCapabilities,
    requestedActions, requiresObservedEvidence, requiresStateChange, advisoryAllowed,
    existingExecutionRef, schemaVersion, version := h₁, nonempty := h₂, unique := h₃,
    capabilities := h₄, bound := h₅, optional := h₆ }

end ExecutionProtocolRequest

structure ResourceObservation where
  executorId       : String
  available        : Bool
  causeKind        : ResourceCauseKind
  causeCode        : String
  evidenceRef      : String
  authorityCreated : Bool := false
  schemaVersion    : String := "ge.execution-protocol-resource-observation.v1"
  version  : schemaVersion = "ge.execution-protocol-resource-observation.v1"
  nonempty :
    ∀ x ∈ [("executor_id", executorId), ("cause_code", causeCode), ("evidence_ref", evidenceRef)],
      ¬Text.Blank x.2
  cause       : available = true ↔ causeKind = .none
  noAuthority : authorityCreated = false

namespace ResourceObservation

def new (executorId : String) (available : Bool) (causeKind : ResourceCauseKind)
    (causeCode evidenceRef : String) (authorityCreated : Bool) (schemaVersion : String) :
    Py ResourceObservation := do
  let ⟨h₁⟩ ← Py.check (schemaVersion = "ge.execution-protocol-resource-observation.v1")
    .executionProtocolError "unsupported resource observation schema"
  let ⟨h₂⟩ ← Guard.nonempty .executionProtocolError
    [("executor_id", executorId), ("cause_code", causeCode), ("evidence_ref", evidenceRef)]
  let ⟨h₃⟩ ← Py.check (available = true → causeKind = .none) .executionProtocolError
    "available resource must use cause_kind=none"
  let ⟨h₄⟩ ← Py.check (causeKind = .none → available = true) .executionProtocolError
    "unavailable resource requires a resolved cause"
  let ⟨h₅⟩ ← Py.check (authorityCreated = false) .executionProtocolError
    "resource observation cannot create authority"
  return {
    executorId, available, causeKind, causeCode, evidenceRef, authorityCreated, schemaVersion,
    version := h₁, nonempty := h₂, cause := ⟨h₃, h₄⟩, noAuthority := h₅ }

end ResourceObservation

structure ExecutionMethodProfile where
  executorId          : String
  evidencePredicates  : List String
  evidenceQualityRank : Nat := 1
  schemaVersion       : String := "ge.execution-protocol-method-profile.v1"
  version  : schemaVersion = "ge.execution-protocol-method-profile.v1"
  nonempty : ∀ x ∈ [("executor_id", executorId)], ¬Text.Blank x.2
  unique   : ∀ x ∈ [("evidence_predicates", false, evidencePredicates)], Guard.Stripped x.2

namespace ExecutionMethodProfile

def new (executorId : String) (evidencePredicates : List String) (evidenceQualityRank : Nat)
    (schemaVersion : String) : Py ExecutionMethodProfile := do
  let ⟨h₁⟩ ← Py.check (schemaVersion = "ge.execution-protocol-method-profile.v1")
    .executionProtocolError "unsupported method profile schema"
  let ⟨h₂⟩ ← Guard.nonempty .executionProtocolError [("executor_id", executorId)]
  let ⟨h₃⟩ ← Guard.stripped .executionProtocolError
    [("evidence_predicates", false, evidencePredicates)]
  return {
    executorId, evidencePredicates, evidenceQualityRank, schemaVersion, version := h₁,
    nonempty := h₂, unique := h₃ }

end ExecutionMethodProfile

structure ExecutionProtocolDecision where
  requestId                  : String
  invocationMode             : InvocationMode
  disposition                : ProtocolDisposition
  selectedCandidateIds       : List String
  selectedExecutorId         : Option String
  selectedResourceId         : Option String
  uncoveredCapabilityIds     : List String
  resourceFindings           : List String
  rejectedExecutors          : List String
  routeDigest                : Option String
  evidencePredicatePreserved : Bool
  reasons                    : List String
  authorityRef               : String
  authorityCreated           : Bool := false
  executionTriggered         : Bool := false
  protocolVersion            : String := "0.1.0"
  schemaVersion              : String := "ge.execution-protocol-decision.v1"
  nonempty :
    ∀ x ∈ [("request_id", requestId), ("authority_ref", authorityRef)], ¬Text.Blank x.2
  unique :
    ∀ x ∈ [("selected_candidate_ids", true, selectedCandidateIds),
      ("uncovered_capability_ids", true, uncoveredCapabilityIds),
      ("resource_findings", true, resourceFindings), ("rejected_executors", true, rejectedExecutors)],
      Guard.Stripped x.2
  inert : authorityCreated = false ∧ executionTriggered = false
  bound : disposition = .readyForExistingAdmission →
    selectedExecutorId.isSome ∧ routeDigest.isSome
  preserved : disposition = .readyForExistingAdmission → evidencePredicatePreserved = true
  unbound : invocationMode = .noSystem ∨ invocationMode = .advisory →
    selectedExecutorId = none ∧ executionTriggered = false

namespace ExecutionProtocolDecision

def new (requestId : String) (invocationMode : InvocationMode) (disposition : ProtocolDisposition)
    (selectedCandidateIds : List String) (selectedExecutorId selectedResourceId : Option String)
    (uncoveredCapabilityIds resourceFindings rejectedExecutors : List String)
    (routeDigest : Option String) (evidencePredicatePreserved : Bool) (reasons : List String)
    (authorityRef : String) (authorityCreated executionTriggered : Bool)
    (protocolVersion schemaVersion : String) : Py ExecutionProtocolDecision := do
  let ⟨h₁⟩ ← Guard.nonempty .executionProtocolError
    [("request_id", requestId), ("authority_ref", authorityRef)]
  let ⟨h₂⟩ ← Guard.stripped .executionProtocolError
    [("selected_candidate_ids", true, selectedCandidateIds),
      ("uncovered_capability_ids", true, uncoveredCapabilityIds),
      ("resource_findings", true, resourceFindings), ("rejected_executors", true, rejectedExecutors)]
  let ⟨h₃⟩ ← Py.check (authorityCreated = false ∧ executionTriggered = false)
    .executionProtocolError "Execution Protocol cannot create authority or trigger execution"
  let ⟨h₄⟩ ← Py.check (disposition = .readyForExistingAdmission →
      selectedExecutorId.isSome ∧ routeDigest.isSome)
    .executionProtocolError "ready decision must bind an executor and route"
  let ⟨h₅⟩ ← Py.check (disposition = .readyForExistingAdmission → evidencePredicatePreserved = true)
    .executionProtocolError "ready decision must preserve the evidence predicate"
  let ⟨h₆⟩ ← Py.check (invocationMode = .noSystem ∨ invocationMode = .advisory →
      selectedExecutorId = none ∧ executionTriggered = false)
    .executionProtocolError "non-real mode cannot bind or trigger an executor"
  return {
    requestId, invocationMode, disposition, selectedCandidateIds, selectedExecutorId,
    selectedResourceId, uncoveredCapabilityIds, resourceFindings, rejectedExecutors, routeDigest,
    evidencePredicatePreserved, reasons, authorityRef, authorityCreated, executionTriggered,
    protocolVersion, schemaVersion, nonempty := h₁, unique := h₂, inert := h₃, bound := h₄,
    preserved := h₅, unbound := h₆ }

theorem new_eq (d : ExecutionProtocolDecision) :
    new d.requestId d.invocationMode d.disposition d.selectedCandidateIds d.selectedExecutorId
      d.selectedResourceId d.uncoveredCapabilityIds d.resourceFindings d.rejectedExecutors
      d.routeDigest d.evidencePredicatePreserved d.reasons d.authorityRef d.authorityCreated
      d.executionTriggered d.protocolVersion d.schemaVersion = .ok d := by
  simp only [new, Guard.nonempty_of d.nonempty, Guard.stripped_of d.unique, Py.check_of d.inert,
    Py.check_of d.bound, Py.check_of d.preserved, Py.check_of d.unbound, Except.ok_bind]
  rfl

end ExecutionProtocolDecision

-- `itertools.combinations`
def combinations {α : Type} : Nat → List α → List (List α)
  | 0,     _       => [[]]
  | _ + 1, []      => []
  | n + 1, a :: as => (combinations n as).map (a :: ·) ++ combinations (n + 1) as

def Covers (required : List String) (combo : List CapabilityProjection) : Prop :=
  ∀ id ∈ required, ∃ c ∈ combo, id ∈ c.capabilityIds

instance (required : List String) : DecidablePred (Covers required) :=
  fun _ => inferInstanceAs <| Decidable (∀ id ∈ required, ∃ c ∈ _, id ∈ _)

-- The covering combinations of the smallest size that has any.
def covering (required : List String) (candidates : List CapabilityProjection) :
    List (List CapabilityProjection) :=
  let sizes := (List.range candidates.length).map fun n =>
    (combinations (n + 1) candidates).filter (Covers required ·)
  (sizes.find? (· ≠ [])).getD []

-- What `min` compares of the covering combinations.
def comboKey (combo : List CapabilityProjection) : ℕ ×ₗ List String :=
  toLex ((combo.map (·.costRank)).sum, (combo.map (·.candidateId)).mergeSort)

-- `_select_candidates`
def selectCandidates (required : List String) (candidates : List CapabilityProjection)
    (expectedProjectionId expectedRegistryRevisionDigest expectedAuthorityRefDigest : Option String) :
    Py (List CapabilityProjection × List String) :=
  if required = [] then return ([], []) else do
  Py.require (candidates.map (·.candidateId)).Nodup .executionProtocolError
    "candidate_id values must be unique"
  let projectionIds := (candidates.map (·.projectionId)).dedup
  let registryDigests := (candidates.map (·.registryRevisionDigest)).dedup
  let authorityDigests := (candidates.map (·.authorityRefDigest)).dedup
  Py.require (projectionIds.length = 1 ∧ registryDigests.length = 1 ∧ authorityDigests.length = 1)
    .executionProtocolError "capability candidates must come from one bound projection"
  Py.require (projectionIds.map some = [expectedProjectionId] ∧
      registryDigests.map some = [expectedRegistryRevisionDigest] ∧
      authorityDigests.map some = [expectedAuthorityRefDigest])
    .executionProtocolError "capability projection does not match request binding"
  match (covering required candidates).argmin comboKey with
  | none          => return ([], Typed.difference required (candidates.flatMap (·.capabilityIds)))
  | some selected => return (selected.mergeSort fun a b => a.candidateId ≤ b.candidateId, [])

-- `_mode_for`
def modeFor (request : ExecutionProtocolRequest) (selected : List CapabilityProjection) :
    InvocationMode :=
  if request.requiredCapabilityIds = [] then
    if request.requiresObservedEvidence ∨ request.requiresStateChange then .realRun else .noSystem
  else if ¬request.requiresObservedEvidence ∧ ¬request.requiresStateChange ∧
      request.advisoryAllowed then
    .advisory
  else if selected.length ≤ 1 then .realRun
  else .composedRealRun

-- What `_resolve_executors` finds out about one executor.
structure ExecutorResolution where
  executor : ExecutorCapability
  finding  : Option String
  reasons  : List String

def resolveExecutor (predicate : String) (resources : List ResourceObservation)
    (profiles : List ExecutionMethodProfile) (minimumEvidenceQualityRank : Int)
    (executor : ExecutorCapability) : Py ExecutorResolution := do
  let observation := resources.find? (·.executorId = executor.executorId)
  Py.require (observation = none → executor.available = true) .executionProtocolError
    ("unavailable executor " ++ executor.executorId ++ " has no resolved resource cause")
  let resource (o : ResourceObservation) := PyLiteral.spelling o.causeKind ++ ":" ++ o.causeCode
  let profileReasons :=
    match profiles.find? (·.executorId = executor.executorId) with
    | none         => ["missing_method_profile"]
    | some profile =>
      (if predicate ∈ profile.evidencePredicates then [] else ["predicate_not_covered"]) ++
        (if minimumEvidenceQualityRank ≤ profile.evidenceQualityRank then []
          else ["evidence_quality_insufficient"])
  let resourceReasons :=
    match observation with
    | none   => []
    | some o => if o.available then [] else ["resource_unavailable:" ++ resource o]
  return {
    executor := executor
    finding  := observation.map fun o => executor.executorId ++ ":" ++ resource o
    reasons  := profileReasons ++ resourceReasons }

-- `_resolve_executors`
def resolveExecutors (predicate : String) (executors : List ExecutorCapability)
    (resources : List ResourceObservation) (profiles : List ExecutionMethodProfile)
    (minimumEvidenceQualityRank : Int) :
    Py (List ExecutorCapability × List String × List String) := do
  Py.require (0 ≤ minimumEvidenceQualityRank) .executionProtocolError
    "minimum_evidence_quality_rank must be a non-negative integer"
  Py.require (resources.map (·.executorId)).Nodup .executionProtocolError
    "resource observations must be unique by executor_id"
  Py.require (profiles.map (·.executorId)).Nodup .executionProtocolError
    "method profiles must be unique by executor_id"
  Py.require (executors.map (·.executorId)).Nodup .executionProtocolError
    "executor_id values must be unique"
  let resolutions ← executors.mapM <|
    resolveExecutor predicate resources profiles minimumEvidenceQualityRank
  let eligible := resolutions.filter (·.reasons = [])
  let rejected := resolutions.filter (·.reasons ≠ [])
  return (eligible.map fun r => { r.executor with available := true },
    (resolutions.filterMap (·.finding)).mergeSort,
    (rejected.map fun r => r.executor.executorId ++ "|" ++ ",".intercalate r.reasons.mergeSort).mergeSort)

def protocolDisposition (route : SymbioticRouteDecision) : ProtocolDisposition :=
  match route.workSparse.disposition with
  | .observeExisting => .observeExisting
  | .humanGate       => .humanGate
  | _                =>
    if route.readyForExistingAdmission then .readyForExistingAdmission else .conditionWait

-- The decisions that no route stands behind.
def unroutedDecision (request : ExecutionProtocolRequest) (mode : InvocationMode)
    (disposition : ProtocolDisposition)
    (selectedIds uncovered findings rejected : List String) (predicatePreserved : Bool)
    (reasons : List String) : Py ExecutionProtocolDecision :=
  ExecutionProtocolDecision.new request.requestId mode disposition selectedIds none none uncovered
    findings rejected none predicatePreserved reasons request.authorityRef false false "0.1.0"
    "ge.execution-protocol-decision.v1"

variable [Sha256]

-- `decide_execution_protocol` once the executors are resolved.
def routedDecision (request : ExecutionProtocolRequest) (mode : InvocationMode)
    (selectedIds findings rejected : List String) (route : SymbioticRouteDecision) :
    Py ExecutionProtocolDecision :=
  let disposition := protocolDisposition route
  let predicatePreserved := disposition = .readyForExistingAdmission ∧
    route.substitution.any fun s => s.evidencePredicatePreserved && !s.deferred
  ExecutionProtocolDecision.new request.requestId mode disposition selectedIds
    route.selectedExecutorId route.selectedResourceId [] findings rejected route.digest
    predicatePreserved
    (route.reasons ++ if findings = [] then [] else ["resource_cause_resolved_before_route"])
    request.authorityRef false false "0.1.0" "ge.execution-protocol-decision.v1"

def decideExecutionProtocol (request : ExecutionProtocolRequest)
    (candidates : List CapabilityProjection) (envelope : UnattendedAuthorityEnvelope)
    (executors : List ExecutorCapability) (resourceObservations : List ResourceObservation)
    (methodProfiles : List ExecutionMethodProfile) (usage : ControllerUsage)
    (minimumEvidenceQualityRank : Int) (providerLineage : Option InternalLineageBinding)
    (providerRouting : Option ProviderRoutingAuthority) (providerResources : List ProviderResource)
    (executorProviderBindings : List ExecutorProviderBinding) : Py ExecutionProtocolDecision := do
  let (selected, uncovered) ← selectCandidates request.requiredCapabilityIds candidates
    request.projectionId request.registryRevisionDigest request.authorityRefDigest
  let mode := modeFor request selected
  let selectedIds := selected.map (·.candidateId)
  if uncovered ≠ [] then
    unroutedDecision request mode .conditionWait [] uncovered [] [] false ["capability_uncovered"]
  else if mode = .noSystem then
    unroutedDecision request mode .noSystemRequired [] [] [] [] true
      ["no_system_needed_for_requested_outcome"]
  else if mode = .advisory then
    unroutedDecision request mode .advisoryReady selectedIds [] [] [] true
      ["advisory_system_application"]
  else if ¬∃ c ∈ selected, c.executionCapable = true then
    unroutedDecision request mode .conditionWait selectedIds [] [] [] false
      ["real_run_requires_execution_capable_candidate"]
  else match request.existingExecutionRef with
  | some ref =>
    unroutedDecision request mode .observeExisting selectedIds [] [] [] true
      ["existing_execution:" ++ ref]
  | none     =>
    let (eligible, findings, rejected) ← resolveExecutors request.evidencePredicate executors
      resourceObservations methodProfiles minimumEvidenceQualityRank
    let work ← UnattendedWorkItem.new request.requestId request.objective request.repository
      "execution-protocol-request" request.authorityRef request.requiredExecutorCapabilities
      request.requestedActions request.existingExecutionRef "ge.work-sparse-work-item.v1"
    if eligible = [] then
      unroutedDecision request mode .conditionWait selectedIds [] findings rejected false
        ("no_evidence_equivalent_available_executor" ::
          findings.filter fun f => ¬":none:available".toList <:+ f.toList)
    else
      let route ← composeSymbioticRoute envelope work eligible request.evidencePredicate usage
        providerLineage providerRouting providerResources executorProviderBindings
      routedDecision request mode selectedIds findings rejected route

end GeneralExecution
