import GeneralExecution.Portfolio.ProviderHost

namespace GeneralExecution

inductive TransitionClass
  | nextFrontierDispatched
  | conditionWait
  | scheduledWait
  | humanGate
  | externalEvidenceGate
  | diRequired
  | failed
  | doneTechnical
  | doneCanonical
deriving DecidableEq

instance : PyLiteral TransitionClass where
  spelling
    | .nextFrontierDispatched => "NEXT_FRONTIER_DISPATCHED"
    | .conditionWait          => "CONDITION_WAIT"
    | .scheduledWait          => "SCHEDULED_WAIT"
    | .humanGate              => "HUMAN_GATE"
    | .externalEvidenceGate   => "EXTERNAL_EVIDENCE_GATE"
    | .diRequired             => "DI_REQUIRED"
    | .failed                 => "FAILED"
    | .doneTechnical          => "DONE_TECHNICAL"
    | .doneCanonical          => "DONE_CANONICAL"
  values := [.nextFrontierDispatched, .conditionWait, .scheduledWait, .humanGate,
    .externalEvidenceGate, .diRequired, .failed, .doneTechnical, .doneCanonical]
  parse_spelling a := by cases a <;> rfl

inductive AuthorityRequirement
  | none
  | existing
deriving DecidableEq

instance : PyLiteral AuthorityRequirement where
  spelling
    | .none     => "none"
    | .existing => "existing"
  values           := [.none, .existing]
  parse_spelling a := by cases a <;> rfl

-- `repr` of what `json.loads` gives.
class PyRepr where
  reprOf : Json → String

@[ext]
structure ResultOutcome where
  observedState        : String
  transitionClass      : TransitionClass
  providerContractPath : String
  authorityRequirement : AuthorityRequirement
  nonempty :
    ∀ x ∈ [("outcome.observed_state", observedState),
      ("outcome.provider_contract_path", providerContractPath)], ¬Text.Blank x.2

def ResultOutcome.new (observedState transitionClass providerContractPath
    authorityRequirement : String) : Py ResultOutcome := do
  let ⟨h₁⟩ ← Guard.nonempty .workstreamResultHandoffError
    [("outcome.observed_state", observedState),
      ("outcome.provider_contract_path", providerContractPath)]
  let transitionClass ← Py.ofOption .workstreamResultHandoffError "unsupported transition class"
    (PyLiteral.parse? transitionClass)
  let authorityRequirement ← Py.ofOption .workstreamResultHandoffError
    "unsupported authority requirement" (PyLiteral.parse? authorityRequirement)
  return {
    observedState, transitionClass, providerContractPath, authorityRequirement, nonempty := h₁ }

-- `re.fullmatch(r"[0-9a-f]{40}", value)`
def IsCommit (s : String) : Prop :=
  s.length = 40 ∧ ∀ c ∈ s.toList, c ∈ Text.lowerHex

instance : DecidablePred IsCommit :=
  fun _ => inferInstanceAs <| Decidable (_ ∧ _)

-- A path that does not leave its repository.
def IsRelativePath (path : String) : Prop :=
  path.toList.head? ≠ some '/' ∧ ['.', '.'] ∉ path.toList.splitOn '/'

instance : DecidablePred IsRelativePath :=
  fun _ => inferInstanceAs <| Decidable (_ ∧ _)

@[ext]
structure WorkstreamResultWatch where
  watchId                : String
  sourceRepository       : String
  sourceRef              : String
  resultPath             : String
  resultSchemaField      : String
  expectedResultSchema   : String
  observedStateField     : String
  sourceRevisionField    : String
  expectedSourceRevision : String
  outcomes               : List ResultOutcome
  enabled                : Bool
  schemaVersion          : String := "ge.workstream-result-watch.v1"
  version                : schemaVersion = "ge.workstream-result-watch.v1"
  nonempty :
    ∀ x ∈ [("watch_id", watchId), ("source_repository", sourceRepository),
      ("source_ref", sourceRef), ("result_path", resultPath),
      ("result_schema_field", resultSchemaField), ("expected_result_schema", expectedResultSchema),
      ("observed_state_field", observedStateField), ("source_revision_field", sourceRevisionField),
      ("expected_source_revision", expectedSourceRevision)], ¬Text.Blank x.2
  isRepository : Text.IsRepository sourceRepository
  relative     : IsRelativePath resultPath
  isCommit     : IsCommit expectedSourceRevision
  hasOutcome   : outcomes ≠ []
  sorted       : (outcomes.map ResultOutcome.observedState).Pairwise (· ≤ ·)
  unique       : (outcomes.map ResultOutcome.observedState).Nodup

def WorkstreamResultWatch.new (watchId sourceRepository sourceRef resultPath resultSchemaField
    expectedResultSchema observedStateField sourceRevisionField expectedSourceRevision : String)
    (outcomes : List ResultOutcome) (enabled : Bool) (schemaVersion : String) :
    Py WorkstreamResultWatch := do
  let ⟨h₁⟩ ← Py.check (schemaVersion = "ge.workstream-result-watch.v1")
    .workstreamResultHandoffError "unsupported workstream result watch schema"
  let ⟨h₂⟩ ← Guard.nonempty .workstreamResultHandoffError
    [("watch_id", watchId), ("source_repository", sourceRepository), ("source_ref", sourceRef),
      ("result_path", resultPath), ("result_schema_field", resultSchemaField),
      ("expected_result_schema", expectedResultSchema),
      ("observed_state_field", observedStateField), ("source_revision_field", sourceRevisionField),
      ("expected_source_revision", expectedSourceRevision)]
  let ⟨h₃⟩ ← Py.check (Text.IsRepository sourceRepository) .workstreamResultHandoffError
    "source_repository must be owner/repository"
  let ⟨h₄⟩ ← Py.check (IsRelativePath resultPath) .workstreamResultHandoffError
    "result_path must be repository-relative"
  let ⟨h₅⟩ ← Py.check (IsCommit expectedSourceRevision) .workstreamResultHandoffError
    "expected_source_revision must be exact 40-hex SHA"
  let ⟨h₆⟩ ← Py.check (outcomes ≠ []) .workstreamResultHandoffError
    "at least one result outcome is required"
  let ⟨h₇⟩ ← Py.check ((outcomes.map ResultOutcome.observedState).Pairwise (· ≤ ·))
    .workstreamResultHandoffError "outcomes must be sorted by observed_state"
  let ⟨h₈⟩ ← Py.check (outcomes.map ResultOutcome.observedState).Nodup
    .workstreamResultHandoffError "outcomes must be unique by observed_state"
  return {
    watchId, sourceRepository, sourceRef, resultPath, resultSchemaField, expectedResultSchema,
    observedStateField, sourceRevisionField, expectedSourceRevision, outcomes, enabled,
    schemaVersion, version := h₁, nonempty := h₂, isRepository := h₃, relative := h₄,
    isCommit := h₅, hasOutcome := h₆, sorted := h₇, unique := h₈ }

structure ObservedWorkstreamResult where
  sourceCommit  : String
  observedAt    : String
  contentDigest : String
  payload       : Json
  isCommit      : IsCommit sourceCommit
  nonempty      : ∀ x ∈ [("observed_at", observedAt)], ¬Text.Blank x.2
  isSha256      : IsLowerSha256 contentDigest
  isObj         : payload.isObj = true

def ObservedWorkstreamResult.new (sourceCommit observedAt contentDigest : String) (payload : Json) :
    Py ObservedWorkstreamResult := do
  let ⟨h₁⟩ ← Py.check (IsCommit sourceCommit) .workstreamResultHandoffError
    "source_commit must be exact 40-hex SHA"
  let ⟨h₂⟩ ← Guard.nonempty .workstreamResultHandoffError [("observed_at", observedAt)]
  let ⟨h₃⟩ ← Py.check (IsLowerSha256 contentDigest) .workstreamResultHandoffError
    "content_digest must be sha256:<64-hex>"
  let ⟨h₄⟩ ← Py.check (payload.isObj = true) .workstreamResultHandoffError
    "payload must be an object"
  return {
    sourceCommit, observedAt, contentDigest, payload, isCommit := h₁, nonempty := h₂,
    isSha256 := h₃, isObj := h₄ }

-- A handoff never creates authority.
structure WorkstreamResultHandoff where
  handoffId        : String
  transitionClass  : TransitionClass
  observedState    : String
  sourceRepository : String
  sourceRef        : String
  sourceCommit     : String
  resultPath       : String
  contentDigest    : String
  providerInput    : ProviderInput
  providerResult   : ProviderHostResult
  runtimeEvent     : Json
  authorityCreated : Bool := false
  schemaVersion    : String := "ge.workstream-result-handoff.v1"
  noAuthority      : authorityCreated = false

-- `_lookup`: a field path through the objects of a result.
def lookupResult (payload : Json) (field : String) : Py Json :=
  Py.ofOption .workstreamResultHandoffError ("missing result field: " ++ field) <|
    ((field.toList.splitOn '.').map String.ofList).foldlM Json.get? payload

-- `value == text`
def Json.isText (value : Json) (text : String) : Bool :=
  match value with
  | .str s => s = text
  | _      => false

def WorkstreamResultWatch.onlyOutcome (watch : WorkstreamResultWatch) (observedState : String) :
    Py ResultOutcome :=
  match watch.outcomes.filter fun outcome => outcome.observedState = observedState with
  | [outcome] => return outcome
  | _         => Py.raise .workstreamResultHandoffError
    ("no explicit outcome contract for observed state: " ++ observedState)

def selectResultOutcome [PyRepr] (watch : WorkstreamResultWatch) (payload : Json) :
    Py ResultOutcome := do
  let schema ← lookupResult payload watch.resultSchemaField
  Py.require (Json.isText schema watch.expectedResultSchema) .workstreamResultHandoffError
    ("result schema mismatch: expected=" ++ PyRepr.reprOf (.str watch.expectedResultSchema) ++
      " observed=" ++ PyRepr.reprOf schema)
  let resultRevision ← lookupResult payload watch.sourceRevisionField
  Py.require (Json.isText resultRevision watch.expectedSourceRevision) .workstreamResultHandoffError
    ("result source revision mismatch: expected=" ++
      PyRepr.reprOf (.str watch.expectedSourceRevision) ++ " observed=" ++
      PyRepr.reprOf resultRevision)
  match ← lookupResult payload watch.observedStateField with
  | .str observedState =>
    Py.require (observedState ≠ "") .workstreamResultHandoffError
      "observed result state must be non-empty"
    watch.onlyOutcome observedState
  | _ =>
    Py.raise .workstreamResultHandoffError "observed result state must be non-empty"

-- `_expected_bindings`, in the order of `sorted`.
def WorkstreamResultWatch.expectedBindings (watch : WorkstreamResultWatch) :
    List (String × String) := [
  ("ref", watch.sourceRef),
  ("repository", watch.sourceRepository),
  ("result_path", watch.resultPath),
  ("result_schema", watch.expectedResultSchema),
  ("source_revision", watch.expectedSourceRevision)]

def WorkstreamResultWatch.expectedSubject (watch : WorkstreamResultWatch) : String :=
  "github://" ++ watch.sourceRepository ++ "/" ++ watch.resultPath

-- `_validate_transition_class`
def validateTransitionClass (transitionClass : TransitionClass)
    (toState : PortfolioLifecycleState) (authorityMode : AuthorityMode) : Py Unit :=
  match transitionClass with
  | .humanGate =>
    Py.require (toState = .humanGate ∧ authorityMode = .humanRequired)
      .workstreamResultHandoffError "HUMAN_GATE outcome must stop at human gate"
  | .diRequired =>
    Py.require (toState = .diRequired) .workstreamResultHandoffError
      "DI_REQUIRED outcome must enter di_required"
  | .failed =>
    Py.require (toState = .failed) .workstreamResultHandoffError "FAILED outcome must enter failed"
  | .conditionWait | .scheduledWait | .externalEvidenceGate =>
    Py.require (toState = .waitingExternal) .workstreamResultHandoffError
      "wait/gate outcome must enter waiting_external"
  | .doneTechnical | .doneCanonical =>
    Py.require (toState = .complete) .workstreamResultHandoffError
      "done outcome must enter complete"
  | .nextFrontierDispatched =>
    Py.require (toState ∉ [.humanGate, .waitingExternal, .diRequired, .failed, .complete])
      .workstreamResultHandoffError
      "NEXT_FRONTIER_DISPATCHED must remain in an executable lifecycle state"

-- `if outcome.authority_requirement == "existing"`
def checkExistingAuthority (active : PortfolioEntry) (rule : TransitionRule) :
    AuthorityRequirement → Py Unit
  | .none     => return ()
  | .existing => do
    Py.require (Text.Truthy active.authorityRef ∧ Text.Truthy active.authorityBoundary)
      .workstreamResultHandoffError "existing authority evidence is required for this result"
    Py.require (rule.authorityMode = .none) .workstreamResultHandoffError
      "existing-authority continuation must not request or create new authority"

-- The contract is about the result that the watch waits for.
def checkContract (state : PortfolioState) (watch : WorkstreamResultWatch)
    (contract : ProviderWatchContract) (outcome : ResultOutcome) : Py Unit := do
  Py.require (contract.watchId = watch.watchId) .workstreamResultHandoffError
    "provider contract watch_id mismatch"
  Py.require (contract.provider = "github-workstream-result") .workstreamResultHandoffError
    "provider contract must use github-workstream-result"
  Py.require (contract.subjectRef = watch.expectedSubject) .workstreamResultHandoffError
    "provider contract subject_ref mismatch"
  Py.require (contract.satisfiedState = outcome.observedState) .workstreamResultHandoffError
    "provider contract satisfied_state mismatch"
  Py.require (contract.requiredBindings = watch.expectedBindings) .workstreamResultHandoffError
    "provider contract source bindings mismatch"
  Py.require (state.portfolioId = contract.portfolioId) .workstreamResultHandoffError
    "portfolio id mismatch"

def resultRule (state : PortfolioState) (contract : ProviderWatchContract) : Py TransitionRule :=
  match contract.rules state with
  | [rule] => return rule
  | _      => Py.raise .workstreamResultHandoffError
    "no unique provider transition for current durable state"

variable [Sha256]

def stableHandoffId (watch : WorkstreamResultWatch) (observed : ObservedWorkstreamResult) :
    String :=
  stableId "gewrh" <| .dict [
    ("watch_id", toPy watch.watchId),
    ("repository", toPy watch.sourceRepository),
    ("ref", toPy watch.sourceRef),
    ("path", toPy watch.resultPath),
    ("source_commit", toPy observed.sourceCommit),
    ("content_digest", toPy observed.contentDigest)]

def resultInput (watch : WorkstreamResultWatch) (observed : ObservedWorkstreamResult)
    (outcome : ResultOutcome) : Py ProviderInput :=
  let commitRef := "github://" ++ watch.sourceRepository ++ "/commit/" ++ observed.sourceCommit
  let evidenceLocator := commitRef ++ "/" ++ watch.resultPath
  ProviderInput.new watch.watchId "github-workstream-result" (stableHandoffId watch observed)
    watch.expectedSubject outcome.observedState observed.observedAt evidenceLocator
    observed.contentDigest watch.expectedBindings [commitRef, evidenceLocator].dedup.mergeSort

def reconcileWorkstreamResult [PyRepr] (state : PortfolioState) (watch : WorkstreamResultWatch)
    (contract : ProviderWatchContract) (observed : ObservedWorkstreamResult) :
    Py WorkstreamResultHandoff := do
  let outcome ← selectResultOutcome watch observed.payload
  checkContract state watch contract outcome
  let rule ← resultRule state contract
  validateTransitionClass outcome.transitionClass rule.toState rule.authorityMode
  checkExistingAuthority state.active rule outcome.authorityRequirement
  let input ← resultInput watch observed outcome
  let (event, result) ← buildProviderRuntimeEvent state contract input
  let event ← Py.ofOption .workstreamResultHandoffError
    "valid completion result did not materialize a runtime event"
    (event.filter fun _ => result.status = .eventReady)
  return {
    handoffId        := stableHandoffId watch observed
    transitionClass  := outcome.transitionClass
    observedState    := outcome.observedState
    sourceRepository := watch.sourceRepository
    sourceRef        := watch.sourceRef
    sourceCommit     := observed.sourceCommit
    resultPath       := watch.resultPath
    contentDigest    := observed.contentDigest
    providerInput    := input
    providerResult   := result
    runtimeEvent     := event
    noAuthority      := rfl }

end GeneralExecution
