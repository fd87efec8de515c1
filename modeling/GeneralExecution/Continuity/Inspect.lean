import GeneralExecution.Continuity.Snapshot

namespace GeneralExecution.Continuity

inductive DevelopmentVerdict
  | developmentProgressing
  | conversationInterruptedDevelopmentContinued
  | checkpointedResumable
  | conditionWait
  | scheduledWait
  | humanGate
  | externalEvidenceGate
  | doneTechnical
  | doneCanonical
  | developmentStalled
  | failed
  | insufficientEvidence
deriving DecidableEq

inductive RecommendedAction
  | noActionDone
  | noActionActiveExecution
  | resumeDurableExecution
  | waitForCondition
  | waitUntilScheduledCheckpoint
  | requestHumanAction
  | requestExternalEvidence
  | investigateFailure
  | reconcileCanonicalState
  | insufficientEvidence
deriving DecidableEq

inductive InfrastructureStatus
  | healthy
  | providerRunnerUnavailable
  | providerFailure
  | noProviderEvidence
  | mismatchedEvidence
  | unknown
deriving DecidableEq

structure PullRequestSection where
  number    : Int
  state     : Option String
  mergeable : Option Bool
  merged    : Bool
deriving DecidableEq

structure DurableSection where
  currentFrontier     : Option String
  completed           : List String
  admissibleNext      : List String
  wakeCondition       : Option String
  scheduledCheckpoint : Option String
  terminalVerdict     : Option String
deriving DecidableEq

structure ExecutionEvidence where
  observedAt : String
  ref        : String
deriving DecidableEq

structure BlockingGate where
  kind     : String
  ref      : Option String
  reason   : String
  frontier : Option String
deriving DecidableEq

-- The enumerations stand for their values.
structure ContinuityReport where
  schema                                  : String := "CONTINUITY_CHECK_V1"
  workstream                              : String
  workstreamId                            : Option String
  checkedAt                               : String
  conversationAssessment                  : ConversationAssessment
  developmentVerdict                      : DevelopmentVerdict
  repository                              : Option String
  mainRevision                            : Option String
  branch                                  : Option String
  branchHead                              : Option String
  pullRequest                             : Option PullRequestSection
  durableState                            : Option DurableSection
  latestExecutionEvidence                 : Option ExecutionEvidence
  blockingGate                            : Option BlockingGate
  infrastructureStatus                    : InfrastructureStatus
  evidenceWarnings                        : List String
  recommendedAction                       : RecommendedAction
  canonicalStateReconciliationRecommended : Bool
  authorityCreated                        : Bool := false
  executionTriggered                      : Bool := false

-- `_durable_matches_repo` and `_build_colony_matches_repo`
def matchesRepo (validated : Bool) (boundRepository boundBranch boundBranchHead : Option String)
    (repo : Option RepositoryEvidence) : Bool :=
  validated && repo.all fun repo =>
    !((truthy boundRepository).any fun bound => bound ≠ repo.repository) &&
    !((truthy boundBranch).any fun bound => (truthy repo.branch).any fun b => bound ≠ b) &&
    !((truthy boundBranchHead).any fun bound => (truthy repo.branchHead).any fun head => bound ≠ head)

def DurableStateEvidence.matchesRepo (durable : DurableStateEvidence)
    (repo : Option RepositoryEvidence) : Bool :=
  Continuity.matchesRepo durable.validated durable.boundRepository durable.boundBranch
    durable.boundBranchHead repo

def BuildColonyEvidence.matchesRepo (state : BuildColonyEvidence)
    (repo : Option RepositoryEvidence) : Bool :=
  Continuity.matchesRepo state.validated state.boundRepository state.boundBranch
    state.boundBranchHead repo

-- `_provider_matches_repo`
def ProviderEvidence.matchesRepo (provider : ProviderEvidence) (repo : Option RepositoryEvidence) :
    Bool :=
  repo.all fun repo => (truthy provider.subjectRevision).all fun revision =>
    revision ∈ [repo.branchHead, repo.mainRevision].filterMap truthy

-- `_launch_matches_repo`
def LaunchAdmissionEvidence.matchesRepo (launch : LaunchAdmissionEvidence)
    (repo : Option RepositoryEvidence) : Bool :=
  launch.validated && repo.all fun repo =>
    launch.repository.all fun repository => repository = repo.repository

-- `_activation_matches`
def ExecutorActivationEvidence.Matches (activation : ExecutorActivationEvidence)
    (repo : Option RepositoryEvidence) (launch : Option LaunchAdmissionEvidence) : Bool :=
  activation.validated &&
  (repo.all fun repo => activation.repository.all fun repository => repository = repo.repository) &&
  launch.all fun launch =>
    some activation.dispatchIdentity = launch.dispatchIdentity &&
    activation.launchReceiptRef = launch.receiptRef &&
    !((truthy activation.executor).any fun x => (truthy launch.executor).any fun y => x ≠ y)

-- The evidence that a snapshot holds and that passes its checks.
@[ext]
structure AcceptedEvidence where
  repo       : Option RepositoryEvidence
  durable    : Option DurableStateEvidence
  colony     : Option BuildColonyEvidence
  provider   : Option ProviderEvidence
  launch     : Option LaunchAdmissionEvidence
  activation : Option ExecutorActivationEvidence

namespace ContinuitySnapshot

variable (s : ContinuitySnapshot) (identity : WorkstreamCandidate)

-- `if repo and identity.repository and repo.repository != identity.repository`
def acceptedRepo : Option RepositoryEvidence :=
  s.repository.filter fun repo => !(truthy identity.repository).any fun bound => repo.repository ≠ bound

def acceptedLaunch (repo : Option RepositoryEvidence) : Option LaunchAdmissionEvidence :=
  s.launchAdmission.filter fun launch =>
    launch.workstreamId = identity.workstreamId && launch.matchesRepo repo

-- `durable_ok`, `colony_ok`, `provider_ok`, `launch_ok` and `activation_ok`
def acceptFor (repo : Option RepositoryEvidence) : AcceptedEvidence where
  repo       := repo
  durable    := s.durable.filter fun durable =>
    durable.workstreamId = identity.workstreamId && durable.matchesRepo repo
  colony     := s.buildColony.filter fun state =>
    state.workstreamId = identity.workstreamId && state.matchesRepo repo
  provider   := s.provider.filter fun provider => provider.matchesRepo repo
  launch     := s.acceptedLaunch identity repo
  activation := s.executorActivation.filter fun activation =>
    activation.workstreamId = identity.workstreamId &&
    activation.Matches repo (s.acceptedLaunch identity repo)

def accept : AcceptedEvidence :=
  s.acceptFor identity (s.acceptedRepo identity)

end ContinuitySnapshot

def evidenceWarnings (s : ContinuitySnapshot) (e : AcceptedEvidence) : List String :=
  (if s.repository.isSome && e.repo.isNone then ["repository_identity_mismatch"] else []) ++
  (if s.durable.isSome && e.durable.isNone then ["durable_state_mismatch_or_unvalidated"] else []) ++
  (if s.buildColony.isSome && e.colony.isNone then
    ["build_colony_state_mismatch_or_unvalidated"] else []) ++
  (if s.provider.isSome && e.provider.isNone then ["provider_evidence_revision_mismatch"] else []) ++
  (if s.launchAdmission.isSome && e.launch.isNone then
    ["launch_admission_mismatch_or_unvalidated"] else []) ++
  (if s.executorActivation.isSome && e.activation.isNone then
    ["executor_activation_mismatch_or_unvalidated"] else [])

-- A time at which a source of evidence has progressed.
structure Progress where
  time : Datetime
  ref  : String

section Latest

variable [IsoFormat]

def Progress.of (value : Option String) (kind ref : String) : Option Progress :=
  (parseTime value).map fun time => ⟨time, kind ++ ":" ++ ref⟩

-- The commit of a repository counts also when its repository is not the one of the workstream.
def RepositoryEvidence.progress (repo : RepositoryEvidence) : Option Progress :=
  (truthy repo.latestRelatedCommit).bind fun commit =>
    Progress.of repo.latestRelatedCommitAt "repository_commit" commit

def DurableStateEvidence.progress (durable : DurableStateEvidence) : Option Progress :=
  Progress.of durable.lastProgressAt "durable_state" <| (truthy durable.currentFrontier).getD "durable"

def BuildColonyEvidence.progress (state : BuildColonyEvidence) : Option Progress :=
  Progress.of state.lastProgressAt "build_colony" <|
    (truthy state.currentFrontier).getD "build-colony"

def ProviderEvidence.progress (provider : ProviderEvidence) : Option Progress :=
  if provider.state = .active ∨ provider.state = .completed then
    Progress.of provider.observedAt "provider" provider.provider
  else none

def LaunchAdmissionEvidence.progress (launch : LaunchAdmissionEvidence) : Option Progress :=
  Progress.of launch.observedAt "launch_admission" launch.receiptRef

def ExecutorActivationEvidence.progress (activation : ExecutorActivationEvidence) :
    Option Progress :=
  Progress.of activation.observedAt "executor_activation" activation.activationRef

def AcceptedEvidence.progress (e : AcceptedEvidence) : List Progress :=
  [e.durable.bind DurableStateEvidence.progress, e.colony.bind BuildColonyEvidence.progress,
    e.provider.bind ProviderEvidence.progress, e.launch.bind LaunchAdmissionEvidence.progress,
    e.activation.bind ExecutorActivationEvidence.progress].reduceOption

omit [IsoFormat] in
-- The later of two, and the first of them if they are at the same time.
def Progress.later (a b : Progress) : Py Progress := do
  let before ← a.time.lt b.time
  return if before then b else a

-- `max(candidates, key=lambda item: item[0])`
def Progress.latest : List Progress → Py (Option Progress)
  | []      => return none
  | p :: ps => some <$> ps.foldlM later p

def Progress.evidence (p : Progress) : ExecutionEvidence :=
  ⟨IsoFormat.isoformat p.time, p.ref⟩

-- `_latest_progress`
def latestProgress (s : ContinuitySnapshot) (e : AcceptedEvidence) : Py (Option ExecutionEvidence) := do
  let latest ← Progress.latest ((s.repository.bind RepositoryEvidence.progress).toList ++ e.progress)
  return latest.map Progress.evidence

end Latest

-- `_infrastructure`
def infrastructure (s : ContinuitySnapshot) (e : AcceptedEvidence) : InfrastructureStatus :=
  match s.provider, e.provider with
  | none,   _             => .noProviderEvidence
  | some _, none          => .mismatchedEvidence
  | some _, some provider =>
    if provider.state = .unavailable then .providerRunnerUnavailable
    else if provider.state = .failed ∧ provider.failureScope = .provider then .providerFailure
    else if provider.state = .active ∨ provider.state = .completed ∨ provider.state = .queued then
      .healthy
    else .unknown

-- `_action`
def action (verdict : DevelopmentVerdict) (integrationRequired : Bool) : RecommendedAction :=
  match verdict with
  | .doneCanonical          => .noActionDone
  | .doneTechnical          => if integrationRequired then .reconcileCanonicalState else .noActionDone
  | .developmentProgressing => .noActionActiveExecution
  | .conversationInterruptedDevelopmentContinued => .noActionActiveExecution
  | .checkpointedResumable  => .resumeDurableExecution
  | .developmentStalled     => .resumeDurableExecution
  | .conditionWait          => .waitForCondition
  | .scheduledWait          => .waitUntilScheduledCheckpoint
  | .humanGate              => .requestHumanAction
  | .externalEvidenceGate   => .requestExternalEvidence
  | .failed                 => .investigateFailure
  | .insufficientEvidence   => .insufficientEvidence

namespace AcceptedEvidence

variable (e : AcceptedEvidence)

def technicalTerminal : Option String :=
  truthy (e.durable.bind DurableStateEvidence.terminalVerdict) <|>
  truthy (e.colony.bind BuildColonyEvidence.terminalVerdict)

def canonicalDone : Bool :=
  e.repo.any fun repo => repo.pullRequestMerged && repo.canonicalContainsWorkstream

def workloadFailure : Bool :=
  (truthy (e.durable.bind DurableStateEvidence.failedTerminalReason)).isSome ||
  e.provider.any fun provider => provider.state = .failed && provider.failureScope = .workload

def activeExecution : Bool :=
  e.durable.any DurableStateEvidence.activeDispatch ||
  (e.provider.any fun provider => provider.state = .active) ||
  e.activation.any fun activation => activation.disposition = .executorAccepted

-- Whether the launch is disposed of in one of these ways.
def launchIs (dispositions : List LaunchDisposition) : Bool :=
  e.launch.any fun launch => launch.disposition ∈ dispositions

def activationIs (disposition : ExecutorActivationDisposition) : Bool :=
  e.activation.any fun activation => activation.disposition = disposition

end AcceptedEvidence

-- The first gate of a kind that is not satisfied.
def pendingGate (gates : List GateEvidence) (kind : GateKind) : Option GateEvidence :=
  gates.find? fun gate => !gate.satisfied && gate.kind = kind

section Judgement

variable [IsoFormat]

-- The verdict on a development that is executing.
def activeVerdict (conversation : ConversationEvidence) (latest : Option ExecutionEvidence) :
    Py DevelopmentVerdict :=
  match parseTime conversation.lastObservedAt,
    latest.bind fun evidence => parseTime (some evidence.observedAt) with
  | some conversationTime, some latestTime =>
    if conversation.assessment = .interruptionSuspected then do
      let continued ← conversationTime.lt latestTime
      return if continued then .conversationInterruptedDevelopmentContinued
        else .developmentProgressing
    else return .developmentProgressing
  | _, _ => return .developmentProgressing

-- The verdict when nothing waits, has failed or is executing.
def restingVerdict (e : AcceptedEvidence) : DevelopmentVerdict :=
  if e.activationIs .conditionWait then .conditionWait
  else if e.durable.any fun durable => durable.admissibleNext ≠ [] then
    if e.durable.any fun durable =>
      durable.executionExpected && durable.recoverySemanticsExhausted then .developmentStalled
    else .checkpointedResumable
  else if e.colony.any fun state => state.admissibleNext ≠ [] then .checkpointedResumable
  else if e.launchIs [.admitted] then
    if e.launch.any LaunchAdmissionEvidence.recoverySemanticsExhausted then .developmentStalled
    else .checkpointedResumable
  else .insufficientEvidence

-- The verdict when no gate is pending.
def openVerdict (conversation : ConversationEvidence) (e : AcceptedEvidence)
    (latest : Option ExecutionEvidence) : Py DevelopmentVerdict :=
  if e.launchIs [.humanGate] then return .humanGate
  else if (truthy (e.durable.bind DurableStateEvidence.scheduledCheckpoint)).isSome then
    return .scheduledWait
  else if (truthy (e.durable.bind DurableStateEvidence.wakeCondition)).isSome then
    return .conditionWait
  else if e.workloadFailure then return .failed
  else if e.launchIs [.rejected, .failedBeforeLaunch] then return .failed
  else if e.activationIs .failedActivation then return .failed
  else if e.technicalTerminal.isSome then return .doneTechnical
  else if e.activeExecution then activeVerdict conversation latest
  else return restingVerdict e

-- The verdict and the gate behind it.
def judge (s : ContinuitySnapshot) (e : AcceptedEvidence) (latest : Option ExecutionEvidence) :
    Py (DevelopmentVerdict × Option GateEvidence) :=
  if e.canonicalDone then return (.doneCanonical, none)
  else
    match pendingGate s.gates .human, pendingGate s.gates .externalEvidence with
    | some gate, _         => return (.humanGate, some gate)
    | none,      some gate => return (.externalEvidenceGate, some gate)
    | none,      none      => return (← openVerdict s.conversation e latest, none)

end Judgement

-- `elif verdict is DevelopmentVerdict.FAILED`
def failureGate (s : ContinuitySnapshot) (e : AcceptedEvidence) : BlockingGate :=
  let reason := e.durable.bind DurableStateEvidence.failedTerminalReason <|>
    s.provider.bind ProviderEvidence.detail
  let frontier := s.durable.bind DurableStateEvidence.currentFrontier
  let workload : Option String × String × Option String :=
    (reason, "failure://continuity-check", frontier)
  let launch := match e.launch with
    | some launch =>
      if launch.disposition ∈ [.rejected, .failedBeforeLaunch] then
        (some ((truthy launch.detail).getD (PyLiteral.spelling launch.disposition)),
          launch.receiptRef, some ((truthy launch.launchId).getD "execution-launch-admission"))
      else workload
    | none        => workload
  let (reason, ref, frontier) := match e.activation with
    | some activation =>
      if activation.disposition = .failedActivation then
        (some ((truthy activation.detail).getD (PyLiteral.spelling activation.disposition)),
          activation.activationRef, some activation.dispatchIdentity)
      else launch
    | none            => launch
  ⟨"FAILURE", some ref, (truthy reason).getD "explicit workload failure", frontier⟩

-- `verdict is DevelopmentVerdict.CONDITION_WAIT`
def conditionGate (s : ContinuitySnapshot) (e : AcceptedEvidence) : Option BlockingGate :=
  match s.durable.filter fun durable => (truthy durable.wakeCondition).isSome with
  | some durable =>
    some ⟨"CONDITION", durable.wakeCondition, "observable wake condition", durable.currentFrontier⟩
  | none         =>
    (e.activation.filter fun activation => activation.disposition = .conditionWait).map
      fun activation =>
        ⟨"CONDITION", activation.conditionRef,
          (truthy activation.detail).getD "executor activation condition wait",
          some activation.activationRef⟩

-- The gate that stands for a verdict.
def verdictGate (s : ContinuitySnapshot) (e : AcceptedEvidence) :
    DevelopmentVerdict → Option BlockingGate
  | .scheduledWait => s.durable.map fun durable =>
    ⟨"SCHEDULED", durable.scheduledCheckpoint, "scheduled checkpoint", durable.currentFrontier⟩
  | .conditionWait => conditionGate s e
  | .failed        => some (failureGate s e)
  | _              => none

def blockingGate (s : ContinuitySnapshot) (e : AcceptedEvidence) (verdict : DevelopmentVerdict)
    (gate : Option GateEvidence) : Option BlockingGate :=
  match gate, e.launch.filter fun launch => launch.disposition = .humanGate with
  | some gate, _           => some ⟨PyLiteral.spelling gate.kind, gate.ref, gate.reason, gate.frontier⟩
  | none,      some launch =>
    some ⟨"HUMAN", launch.receiptRef, (truthy launch.detail).getD "execution launch authority gate",
      some ((truthy launch.launchId).getD "execution-launch-admission")⟩
  | none,      none        => verdictGate s e verdict

def durableState (e : AcceptedEvidence) : Option DurableSection :=
  e.durable.map fun durable =>
    ⟨durable.currentFrontier, durable.completedFrontiers, durable.admissibleNext,
      durable.wakeCondition, durable.scheduledCheckpoint, durable.terminalVerdict⟩

def pullRequest (e : AcceptedEvidence) : Option PullRequestSection := do
  let repo ← e.repo
  let number ← repo.pullRequestNumber
  return ⟨number, repo.pullRequestState, repo.pullRequestMergeable, repo.pullRequestMerged⟩

-- The report on a workstream whose query does not name one candidate.
def unresolvedReport (s : ContinuitySnapshot) (status : ResolutionStatus) : ContinuityReport where
  workstream             := s.query
  workstreamId           := none
  checkedAt              := s.checkedAt
  conversationAssessment := s.conversation.assessment
  developmentVerdict     := .insufficientEvidence
  repository             := s.repository.map RepositoryEvidence.repository
  mainRevision           := s.repository.bind RepositoryEvidence.mainRevision
  branch                 := s.repository.bind RepositoryEvidence.branch
  branchHead             := s.repository.bind RepositoryEvidence.branchHead
  pullRequest            := none
  durableState           := none
  latestExecutionEvidence := none
  blockingGate           := none
  infrastructureStatus   := .unknown
  evidenceWarnings       :=
    ["workstream_identity_" ++ String.ofList (Text.lower (PyLiteral.spelling status).toList)]
  recommendedAction      := .insufficientEvidence
  canonicalStateReconciliationRecommended := false

def resolvedReport (s : ContinuitySnapshot) (identity : WorkstreamCandidate)
    (latest : Option ExecutionEvidence) (verdict : DevelopmentVerdict) (gate : Option GateEvidence) :
    ContinuityReport :=
  let e := s.accept identity
  { workstream              := identity.canonicalName
    workstreamId            := some identity.workstreamId
    checkedAt               := s.checkedAt
    conversationAssessment  := s.conversation.assessment
    developmentVerdict      := verdict
    repository              := e.repo.map RepositoryEvidence.repository
    mainRevision            := e.repo.bind RepositoryEvidence.mainRevision
    branch                  := (e.repo.map RepositoryEvidence.branch).getD identity.branch
    branchHead              := e.repo.bind RepositoryEvidence.branchHead
    pullRequest             := pullRequest e
    durableState            := durableState e
    latestExecutionEvidence := latest
    blockingGate            := blockingGate s e verdict gate
    infrastructureStatus    := infrastructure s e
    evidenceWarnings        := evidenceWarnings s e
    recommendedAction       := action verdict s.canonicalIntegrationRequired
    canonicalStateReconciliationRecommended :=
      decide (verdict = .doneTechnical) && s.canonicalIntegrationRequired }

def inspectContinuity [IsoFormat] (s : ContinuitySnapshot) : Py ContinuityReport :=
  let resolution := resolveWorkstream s.query s.candidates
  match resolution.candidate with
  | none          => return unresolvedReport s resolution.status
  | some identity => do
    let e := s.accept identity
    let latest ← latestProgress s e
    let (verdict, gate) ← judge s e latest
    return resolvedReport s identity latest verdict gate

section

variable [IsoFormat] {s : ContinuitySnapshot} {identity : WorkstreamCandidate}

theorem inspectContinuity_eq_ok (hr : (resolveWorkstream s.query s.candidates).candidate = some identity)
    {r : ContinuityReport} :
    inspectContinuity s = .ok r ↔ ∃ latest verdict gate,
      latestProgress s (s.accept identity) = .ok latest ∧
      judge s (s.accept identity) latest = .ok (verdict, gate) ∧
      resolvedReport s identity latest verdict gate = r := by
  simp only [inspectContinuity, hr, Except.bind_eq_ok, Except.pure_eq_ok, Prod.exists,
    exists_and_left]

end

end GeneralExecution.Continuity
