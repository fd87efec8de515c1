import Mathlib.Data.List.Infix
import GeneralExecution.Objects.Canonical
import GeneralExecution.Objects.Time

namespace GeneralExecution.Continuity

inductive ConversationAssessment
  | activeObserved
  | interruptionSuspected
  | stateUnknown
deriving DecidableEq

inductive ProviderState
  | active
  | completed
  | failed
  | unavailable
  | queued
  | cancelled
  | unknown
deriving DecidableEq

inductive FailureScope
  | none
  | provider
  | workload
deriving DecidableEq

inductive GateKind
  | human
  | externalEvidence
deriving DecidableEq

instance : PyLiteral GateKind where
  spelling
    | .human            => "HUMAN"
    | .externalEvidence => "EXTERNAL_EVIDENCE"
  values           := [.human, .externalEvidence]
  parse_spelling a := by cases a <;> rfl

inductive LaunchDisposition
  | admitted
  | humanGate
  | rejected
  | failedBeforeLaunch
deriving DecidableEq

instance : PyLiteral LaunchDisposition where
  spelling
    | .admitted           => "ADMITTED"
    | .humanGate          => "HUMAN_GATE"
    | .rejected           => "REJECTED"
    | .failedBeforeLaunch => "FAILED_BEFORE_LAUNCH"
  values           := [.admitted, .humanGate, .rejected, .failedBeforeLaunch]
  parse_spelling a := by cases a <;> rfl

inductive ExecutorActivationDisposition
  | executorAccepted
  | conditionWait
  | failedActivation
deriving DecidableEq

instance : PyLiteral ExecutorActivationDisposition where
  spelling
    | .executorAccepted => "EXECUTOR_ACCEPTED"
    | .conditionWait    => "CONDITION_WAIT"
    | .failedActivation => "FAILED_ACTIVATION"
  values           := [.executorAccepted, .conditionWait, .failedActivation]
  parse_spelling a := by cases a <;> rfl

inductive ResolutionStatus
  | resolved
  | ambiguous
  | notFound
deriving DecidableEq

instance : PyLiteral ResolutionStatus where
  spelling
    | .resolved  => "RESOLVED"
    | .ambiguous => "AMBIGUOUS"
    | .notFound  => "NOT_FOUND"
  values           := [.resolved, .ambiguous, .notFound]
  parse_spelling a := by cases a <;> rfl

-- The truth of an optional text in a condition.
def truthy (text : Option String) : Option String :=
  text.filter (· ≠ "")

structure WorkstreamCandidate where
  workstreamId  : String
  canonicalName : String
  repository    : Option String := none
  branch        : Option String := none
  aliases       : List String := []
  nonempty      : ¬Text.Blank workstreamId ∧ ¬Text.Blank canonicalName

structure WorkstreamResolution where
  query     : String
  status    : ResolutionStatus
  candidate : Option WorkstreamCandidate
  found     : List String := []

structure ConversationEvidence where
  assessment     : ConversationAssessment := .stateUnknown
  lastObservedAt : Option String := none

structure RepositoryEvidence where
  repository                  : String
  mainRevision                : Option String := none
  branch                      : Option String := none
  branchHead                  : Option String := none
  latestRelatedCommit         : Option String := none
  latestRelatedCommitAt       : Option String := none
  pullRequestNumber           : Option Int := none
  pullRequestState            : Option String := none
  pullRequestMergeable        : Option Bool := none
  pullRequestMerged           : Bool := false
  canonicalContainsWorkstream : Bool := false
  nonempty                    : ¬Text.Blank repository
  positive                    : ∀ n ∈ pullRequestNumber, 1 ≤ n

structure DurableStateEvidence where
  validated                  : Bool
  workstreamId               : String
  boundRepository            : Option String := none
  boundBranch                : Option String := none
  boundBranchHead            : Option String := none
  currentFrontier            : Option String := none
  completedFrontiers         : List String := []
  admissibleNext             : List String := []
  activeDispatch             : Bool := false
  lastProgressAt             : Option String := none
  wakeCondition              : Option String := none
  scheduledCheckpoint        : Option String := none
  executionExpected          : Bool := false
  recoverySemanticsExhausted : Bool := false
  terminalVerdict            : Option String := none
  failedTerminalReason       : Option String := none

structure BuildColonyEvidence where
  validated          : Bool
  workstreamId       : String
  boundRepository    : Option String := none
  boundBranch        : Option String := none
  boundBranchHead    : Option String := none
  currentFrontier    : Option String := none
  completedFrontiers : List String := []
  admissibleNext     : List String := []
  terminalVerdict    : Option String := none
  lastProgressAt     : Option String := none

structure ProviderEvidence where
  provider        : String
  state           : ProviderState
  observedAt      : Option String := none
  subjectRevision : Option String := none
  failureScope    : FailureScope := .none
  detail          : Option String := none
  nonempty        : ¬Text.Blank provider
  workload        : failureScope = .workload → state = .failed

structure GateEvidence where
  kind      : GateKind
  ref       : String
  reason    : String
  frontier  : String
  satisfied : Bool := false
  nonempty  : ∀ value ∈ [ref, reason, frontier], ¬Text.Blank value

structure LaunchAdmissionEvidence where
  validated                  : Bool
  workstreamId               : String
  disposition                : LaunchDisposition
  receiptRef                 : String
  launchId                   : Option String := none
  repository                 : Option String := none
  executor                   : Option String := none
  dispatchIdentity           : Option String := none
  firstArtifactRef           : Option String := none
  observedAt                 : Option String := none
  recoverySemanticsExhausted : Bool := false
  detail                     : Option String := none
  nonempty                   : ¬Text.Blank workstreamId ∧ ¬Text.Blank receiptRef
  admitted                   :
    disposition = .admitted → (truthy launchId).isSome ∧ (truthy dispatchIdentity).isSome

structure ExecutorActivationEvidence where
  validated          : Bool
  workstreamId       : String
  disposition        : ExecutorActivationDisposition
  activationRef      : String
  launchReceiptRef   : String
  dispatchIdentity   : String
  repository         : Option String := none
  executor           : Option String := none
  nativeExecutionRef : Option String := none
  conditionRef       : Option String := none
  observedAt         : Option String := none
  detail             : Option String := none
  nonempty           :
    ∀ value ∈ [workstreamId, activationRef, launchReceiptRef, dispatchIdentity], ¬Text.Blank value
  disposed           :
    match disposition with
    | .executorAccepted => (truthy nativeExecutionRef).isSome
    | .conditionWait    => (truthy conditionRef).isSome
    | .failedActivation => (truthy detail).isSome

structure ContinuitySnapshot where
  checkedAt                    : String
  query                        : String
  candidates                   : List WorkstreamCandidate
  conversation                 : ConversationEvidence := {}
  repository                   : Option RepositoryEvidence := none
  durable                      : Option DurableStateEvidence := none
  buildColony                  : Option BuildColonyEvidence := none
  provider                     : Option ProviderEvidence := none
  launchAdmission              : Option LaunchAdmissionEvidence := none
  executorActivation           : Option ExecutorActivationEvidence := none
  gates                        : List GateEvidence := []
  canonicalIntegrationRequired : Bool := true

-- `[a-z0-9]`
def isNameChar (c : Char) : Bool :=
  ('a' ≤ c && c ≤ 'z') || ('0' ≤ c && c ≤ '9')

-- `_norm`
def norm (text : String) : String :=
  let words := (Text.lower text.toList).splitOnP fun c => !isNameChar c
  " ".intercalate ((words.filter (· ≠ [])).map String.ofList)

-- `_parse_time`
def parseTime [IsoFormat] (value : Option String) : Option Datetime :=
  (truthy value).bind fun text => IsoFormat.fromisoformat? (replaceZulu text.toList)

def WorkstreamCandidate.normalized (c : WorkstreamCandidate) : List String :=
  (c.canonicalName :: c.workstreamId :: c.aliases).map norm

def WorkstreamCandidate.Overlaps (c : WorkstreamCandidate) (q : String) : Prop :=
  ∃ name ∈ c.normalized, name ≠ "" ∧ (q.toList <:+: name.toList ∨ name.toList <:+: q.toList)

instance (c : WorkstreamCandidate) (q : String) : Decidable (c.Overlaps q) :=
  inferInstanceAs <| Decidable <|
    ∃ name ∈ c.normalized, name ≠ "" ∧ (q.toList <:+: name.toList ∨ name.toList <:+: q.toList)

def resolveWorkstream (query : String) (candidates : List WorkstreamCandidate) :
    WorkstreamResolution :=
  let q := norm query
  if q = "" then ⟨query, .notFound, none, []⟩
  else
    let exact := candidates.filter fun c => q ∈ c.normalized
    let overlapping := candidates.filter fun c => q ∉ c.normalized ∧ c.Overlaps q
    let pool := if exact ≠ [] then exact else overlapping
    -- Of the candidates with one identifier the last is kept.
    match (pool.map WorkstreamCandidate.workstreamId).dedup with
    | []   => ⟨query, .notFound, none, []⟩
    | [id] => ⟨query, .resolved, pool.getLast?, [id]⟩
    | ids  => ⟨query, .ambiguous, none, ids.mergeSort⟩

end GeneralExecution.Continuity
