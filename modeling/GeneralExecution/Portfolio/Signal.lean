import GeneralExecution.Portfolio.Transition

namespace GeneralExecution

namespace Signal

-- The text of a tuple of strings.
def tupleText (names : List String) : String :=
  match names with
  | [name] => "('" ++ name ++ "',)"
  | _      => "(" ++ ", ".intercalate (names.map fun name => "'" ++ name ++ "'") ++ ")"

-- `_required_evidence`
def requiredEvidence (rule : TransitionRule) (evidence : List CheckpointEvidence) : Py Unit :=
  let available := evidence.map CheckpointEvidence.kind
  let missing := rule.requiredEvidence.filter (· ∉ available)
  Py.require (missing = []) .signalAspTransitionError
    ("transition evidence requirements not satisfied: " ++ tupleText missing)

-- `_evidence_refs`
def evidenceRefs (evidence : List CheckpointEvidence) : List String :=
  (evidence.map CheckpointEvidence.locator).dedup.mergeSort

-- `except TransitionPolicyError as exc`
def matchRule (message : String) (policy : TransitionPolicy)
    (currentState : PortfolioLifecycleState) (event : String) : Py TransitionRule :=
  .wrap [.transitionPolicyError] .signalAspTransitionError message <|
    matchTransitionRule policy currentState event

end Signal

@[ext]
structure PassiveWakeSignal where
  workId          : String
  conditionDigest : String
  evidenceDigest  : String
  schemaVersion   : String := "ge.passive-wake-signal.v1"
  version         : schemaVersion = "ge.passive-wake-signal.v1"
  nonempty        : ∀ x ∈ [("work_id", workId)], ¬Text.Blank x.2
  isSha256 :
    ∀ x ∈ [("condition_digest", conditionDigest), ("evidence_digest", evidenceDigest)], IsSha256 x.2

def PassiveWakeSignal.new (workId conditionDigest evidenceDigest schemaVersion : String) :
    Py PassiveWakeSignal := do
  let ⟨h₁⟩ ← Py.check (schemaVersion = "ge.passive-wake-signal.v1") .signalAspTransitionError
    "unsupported passive wake signal schema"
  let ⟨h₂⟩ ← Guard.nonempty .signalAspTransitionError [("work_id", workId)]
  let ⟨h₃⟩ ← Guard.sha256 .signalAspTransitionError
    [("condition_digest", conditionDigest), ("evidence_digest", evidenceDigest)]
  return {
    workId, conditionDigest, evidenceDigest, schemaVersion, version := h₁, nonempty := h₂,
    isSha256 := h₃ }

@[ext]
structure SignalPassiveWakeAdmission where
  workId             : String
  policyDigest       : String
  ruleDigest         : String
  conditionDigest    : String
  evidenceDigest     : String
  candidateSecondary : PortfolioEntry
  schemaVersion      : String := "ge.passive-wake-admission.v1"
  version            : schemaVersion = "ge.passive-wake-admission.v1"
  nonempty           : ∀ x ∈ [("work_id", workId)], ¬Text.Blank x.2
  isSha256 :
    ∀ x ∈ [("policy_digest", policyDigest), ("rule_digest", ruleDigest),
      ("condition_digest", conditionDigest), ("evidence_digest", evidenceDigest)], IsSha256 x.2
  identity   : candidateSecondary.workId = workId
  ready      : candidateSecondary.role = .secondary ∧ candidateSecondary.state = .ready
  noBlockers : candidateSecondary.blockers = []
  noWake     : candidateSecondary.wakeCondition.isNone

namespace SignalPassiveWakeAdmission

def new (workId policyDigest ruleDigest conditionDigest evidenceDigest : String)
    (candidateSecondary : PortfolioEntry) (schemaVersion : String) :
    Py SignalPassiveWakeAdmission := do
  let ⟨h₁⟩ ← Py.check (schemaVersion = "ge.passive-wake-admission.v1") .signalAspTransitionError
    "unsupported passive wake admission schema"
  let ⟨h₂⟩ ← Guard.nonempty .signalAspTransitionError [("work_id", workId)]
  let ⟨h₃⟩ ← Guard.sha256 .signalAspTransitionError
    [("policy_digest", policyDigest), ("rule_digest", ruleDigest),
      ("condition_digest", conditionDigest), ("evidence_digest", evidenceDigest)]
  let ⟨h₄⟩ ← Py.check (candidateSecondary.workId = workId) .signalAspTransitionError
    "wake admission candidate identity mismatch"
  let ⟨h₅⟩ ← Py.check (candidateSecondary.role = .secondary ∧ candidateSecondary.state = .ready)
    .signalAspTransitionError "wake admission candidate must be secondary/ready"
  let ⟨h₆⟩ ← Py.check (candidateSecondary.blockers = []) .signalAspTransitionError
    "wake admission candidate cannot retain blockers"
  let ⟨h₇⟩ ← Py.check candidateSecondary.wakeCondition.isNone .signalAspTransitionError
    "wake admission candidate cannot retain wake condition"
  return {
    workId, policyDigest, ruleDigest, conditionDigest, evidenceDigest, candidateSecondary,
    schemaVersion, version := h₁, nonempty := h₂, isSha256 := h₃, identity := h₄, ready := h₅,
    noBlockers := h₆, noWake := h₇ }

instance : AsDict SignalPassiveWakeAdmission where
  asdict a := [
    ("work_id", toPy a.workId),
    ("policy_digest", toPy a.policyDigest),
    ("rule_digest", toPy a.ruleDigest),
    ("condition_digest", toPy a.conditionDigest),
    ("evidence_digest", toPy a.evidenceDigest),
    ("candidate_secondary", toPy a.candidateSecondary),
    ("schema_version", toPy a.schemaVersion)]

end SignalPassiveWakeAdmission

variable [Sha256]

def CheckpointEvidence.evidenceDigest (e : CheckpointEvidence) : String :=
  sha256Digest (toPy e)

def SignalPassiveWakeAdmission.digest (a : SignalPassiveWakeAdmission) : String :=
  sha256Digest (toPy a)

@[ext]
structure AspTransitionApplication where
  previousStateDigest : String
  nextState           : PortfolioState
  checkpoint          : ExecutionCheckpoint
  policyDigest        : String
  ruleDigest          : String
  event               : String
  effect              : TransitionEffect
  wakeAdmissionDigest : Option String
  schemaVersion       : String := "ge.asp-transition-application.v1"
  isSha256 :
    ∀ x ∈ [("previous_state_digest", previousStateDigest), ("policy_digest", policyDigest),
      ("rule_digest", ruleDigest)], IsSha256 x.2
  nonempty  : ∀ x ∈ [("event", event)], ¬Text.Blank x.2
  supported : effect ≠ .wakePassive
  optional  : ∀ x ∈ [("wake_admission_digest", wakeAdmissionDigest)], Guard.OptionalSha256 x.2
  binds     : BindsState previousStateDigest nextState checkpoint

namespace AspTransitionApplication

def new (previousStateDigest : String) (nextState : PortfolioState)
    (checkpoint : ExecutionCheckpoint) (policyDigest ruleDigest event : String)
    (effect : TransitionEffect) (wakeAdmissionDigest : Option String) :
    Py AspTransitionApplication := do
  let ⟨h₁⟩ ← Guard.sha256 .signalAspTransitionError
    [("previous_state_digest", previousStateDigest), ("policy_digest", policyDigest),
      ("rule_digest", ruleDigest)]
  let ⟨h₂⟩ ← Guard.nonempty .signalAspTransitionError [("event", event)]
  let ⟨h₃⟩ ← Py.check (effect ≠ .wakePassive) .signalAspTransitionError
    "unsupported ASP application effect"
  let ⟨h₄⟩ ← Guard.optionalSha256 .signalAspTransitionError
    [("wake_admission_digest", wakeAdmissionDigest)]
  let ⟨h₅⟩ ← Py.check (nextState.previousStateDigest = some previousStateDigest)
    .signalAspTransitionError "application predecessor does not bind next state"
  let ⟨h₆⟩ ← Py.check (checkpoint.portfolioId = nextState.portfolioId) .signalAspTransitionError
    "application checkpoint portfolio mismatch"
  let ⟨h₇⟩ ← Py.check (checkpoint.portfolioGeneration = nextState.generation)
    .signalAspTransitionError "application checkpoint generation mismatch"
  let ⟨h₈⟩ ← Py.check (checkpoint.portfolioStateDigest = nextState.digest)
    .signalAspTransitionError "application checkpoint state digest mismatch"
  return {
    previousStateDigest, nextState, checkpoint, policyDigest, ruleDigest, event, effect,
    wakeAdmissionDigest, isSha256 := h₁, nonempty := h₂, supported := h₃, optional := h₄,
    binds := ⟨h₅, h₆, h₇, h₈⟩ }

instance : AsDict AspTransitionApplication where
  asdict a := [
    ("previous_state_digest", toPy a.previousStateDigest),
    ("next_state", toPy a.nextState),
    ("checkpoint", toPy a.checkpoint),
    ("policy_digest", toPy a.policyDigest),
    ("rule_digest", toPy a.ruleDigest),
    ("event", toPy a.event),
    ("effect", toPy a.effect),
    ("wake_admission_digest", toPy a.wakeAdmissionDigest),
    ("schema_version", toPy a.schemaVersion)]

def digest (a : AspTransitionApplication) : String :=
  sha256Digest (toPy a)

end AspTransitionApplication

namespace Signal

-- `_wake_candidate`
def wakeCandidate (entry : PortfolioEntry) : Py PortfolioEntry :=
  entry.replace .secondary .ready entry.nextActionRef none none [] none

-- `admit_passive_wake`
def admitPassiveWake (policy : TransitionPolicy) (entry : PortfolioEntry)
    (signal : PassiveWakeSignal) (evidence : List CheckpointEvidence) :
    Py SignalPassiveWakeAdmission := do
  Py.require (entry.role = .passive ∧ entry.state = .passive) .signalAspTransitionError
    "wake admission requires a passive entry"
  let wakeCondition ← Py.ofOption .signalAspTransitionError "passive entry has no wake condition"
    entry.wakeCondition
  Py.require (signal.workId = entry.workId) .signalAspTransitionError
    "wake signal work identity mismatch"
  Py.require (signal.conditionDigest = wakeCondition.digest) .signalAspTransitionError
    "wake signal condition does not match passive entry"
  Py.require (signal.evidenceDigest ∈ evidence.map CheckpointEvidence.evidenceDigest)
    .signalAspTransitionError "wake signal evidence is not admitted"
  let rule ← matchRule "wake transition is not policy-admissible" policy .passive "wake_satisfied"
  Py.require (rule.effect = .wakePassive ∧ rule.toState = .ready) .signalAspTransitionError
    "wake policy rule has invalid effect"
  requiredEvidence rule evidence
  let candidate ← wakeCandidate entry
  SignalPassiveWakeAdmission.new entry.workId policy.digest rule.digest signal.conditionDigest
    signal.evidenceDigest candidate "ge.passive-wake-admission.v1"

-- `_find_passive`
def findPassive (state : PortfolioState) (workId : String) : Py PortfolioEntry :=
  match state.passive.filter fun item => item.workId = workId with
  | [item] => return item
  | _      =>
    Py.raise .signalAspTransitionError
      "wake admission work item is not uniquely present in passive portfolio"

-- `_verify_wake_admission`
def verifyWakeAdmission (state : PortfolioState) (policy : TransitionPolicy)
    (admission : SignalPassiveWakeAdmission) (evidence : List CheckpointEvidence) :
    Py PortfolioEntry := do
  Py.require (admission.policyDigest = policy.digest) .signalAspTransitionError
    "wake admission policy digest mismatch"
  let entry ← findPassive state admission.workId
  let wakeCondition ← Py.ofOption .signalAspTransitionError
    "wake admission source has no wake condition" entry.wakeCondition
  Py.require (admission.conditionDigest = wakeCondition.digest) .signalAspTransitionError
    "wake admission condition digest mismatch"
  Py.require (admission.evidenceDigest ∈ evidence.map CheckpointEvidence.evidenceDigest)
    .signalAspTransitionError "wake admission evidence is not present"
  let wakeRule ← matchRule "wake transition is not policy-admissible" policy .passive
    "wake_satisfied"
  Py.require (admission.ruleDigest = wakeRule.digest) .signalAspTransitionError
    "wake admission rule digest mismatch"
  let expected ← wakeCandidate entry
  Py.require (admission.candidateSecondary = expected) .signalAspTransitionError
    "wake admission candidate does not reproduce"
  requiredEvidence wakeRule evidence
  return entry

-- `_promoted_active`
def promotedActive (entry : PortfolioEntry) : Py PortfolioEntry := do
  Py.require (entry.role = .secondary ∧ entry.state = .ready) .signalAspTransitionError
    "promotion requires the current secondary/ready entry"
  entry.replace .active .ready entry.nextActionRef none none [] none

-- `_next_state`
def nextState (current : PortfolioState) (active secondary : PortfolioEntry)
    (passive : List PortfolioEntry) : Py PortfolioState :=
  PortfolioState.new current.portfolioId (current.generation + 1) active secondary
    (sortedEntries passive) (some current.digest) "ge.portfolio-state.v1"

-- The lane-management inputs of a transition.
structure ParkInputs where
  blockers      : List PortfolioBlocker
  wakeCondition : Option WakeCondition

-- What a transition does: the next state, the next transitions that its checkpoint names, and the
-- digest of the wake admission that it has used.
structure Move where
  nextState           : PortfolioState
  nextTransitionRefs  : List String
  wakeAdmissionDigest : Option String

def checkAuthority (rule : TransitionRule) (evidence : List CheckpointEvidence)
    (preauthorizedAuthorityRef : Option String) : Py Unit :=
  if rule.authorityMode = .preauthorizedRequired then do
    let authorityRef ← Py.ofOption .signalAspTransitionError
      "preauthorized transition requires authority reference"
      (preauthorizedAuthorityRef.filter (· ≠ ""))
    Py.require (∃ item ∈ evidence, item.kind = "authority" ∧ item.locator = authorityRef)
      .signalAspTransitionError "preauthorized authority reference is not evidence-bound"
  else
    Py.require preauthorizedAuthorityRef.isNone .signalAspTransitionError
      "authority reference supplied to transition that does not require it"

def parkedActive (entry : PortfolioEntry) (park : ParkInputs) : Py PortfolioEntry := do
  Py.require (park.blockers ≠ []) .signalAspTransitionError
    "parking active requires explicit blockers"
  let wakeCondition ← Py.ofOption .signalAspTransitionError
    "parking active requires explicit wake condition" park.wakeCondition
  entry.replace .passive .passive entry.nextActionRef none none park.blockers (some wakeCondition)

-- A promoted Active leaves the portfolio, a parked one joins the passive entries.
def rotatedPassive (current : PortfolioState) (rule : TransitionRule)
    (remaining : List PortfolioEntry) (park : ParkInputs) : Py (List PortfolioEntry) := do
  if rule.effect = .promoteSecondary then
    Py.require (current.active.state = .verifying) .signalAspTransitionError
      "secondary promotion requires active state verifying"
    return remaining
  else
    return remaining ++ [← parkedActive current.active park]

-- `if rule.effect in {"promote_secondary", "park_active"}`
def rotate (current : PortfolioState) (policy : TransitionPolicy) (rule : TransitionRule)
    (evidence : List CheckpointEvidence) (wakeAdmission : Option SignalPassiveWakeAdmission)
    (park : ParkInputs) : Py Move := do
  let wakeAdmission ← Py.ofOption .signalAspTransitionError
    "lane transition requires an explicitly admitted replacement secondary" wakeAdmission
  let replacementSource ← verifyWakeAdmission current policy wakeAdmission evidence
  let newActive ← promotedActive current.secondary
  let remaining := current.passive.filter fun item => item.workId ≠ replacementSource.workId
  let newPassive ← rotatedPassive current rule remaining park
  let nextState ← nextState current newActive wakeAdmission.candidateSecondary newPassive
  return ⟨nextState, [newActive.nextActionRef], some wakeAdmission.digest⟩

-- `elif rule.effect == "stop_human_gate"`
def stop (current : PortfolioState) (rule : TransitionRule) (evidence : List CheckpointEvidence) :
    Py Move := do
  let boundary ← Py.ofOption .signalAspTransitionError "human gate rule is missing authority boundary"
    (rule.authorityBoundary.filter fun boundary =>
      rule.authorityMode = .humanRequired ∧ boundary ≠ "")
  let blocker ← PortfolioBlocker.new "authority" boundary (evidenceRefs evidence)
    "ge.portfolio-blocker.v1"
  let newActive ← current.active.replace current.active.role .humanGate rule.nextActionRef
    (some boundary) none [blocker] none
  return ⟨← nextState current newActive current.secondary current.passive, [], none⟩

def stay (current : PortfolioState) (rule : TransitionRule)
    (wakeAdmission : Option SignalPassiveWakeAdmission) (park : ParkInputs)
    (preauthorizedAuthorityRef : Option String) : Py Move := do
  Py.require (park.blockers = [] ∧ park.wakeCondition.isNone ∧ wakeAdmission.isNone)
    .signalAspTransitionError "lane-management inputs supplied to non-lane transition"
  let preauthorized := decide (rule.authorityMode = .preauthorizedRequired)
  let newActive ← current.active.replace current.active.role rule.toState rule.nextActionRef
    (if preauthorized then rule.authorityBoundary else none)
    (if preauthorized then preauthorizedAuthorityRef else none) current.active.blockers none
  let nextState ← nextState current newActive current.secondary current.passive
  return ⟨nextState,
    if rule.toState = .complete ∨ rule.toState = .failed then [] else [rule.nextActionRef], none⟩

def move (current : PortfolioState) (policy : TransitionPolicy) (rule : TransitionRule)
    (evidence : List CheckpointEvidence) (wakeAdmission : Option SignalPassiveWakeAdmission)
    (park : ParkInputs) (preauthorizedAuthorityRef : Option String) : Py Move :=
  if rule.effect.IsRotating then rotate current policy rule evidence wakeAdmission park
  else if rule.effect = .stopHumanGate then stop current rule evidence
  else stay current rule wakeAdmission park preauthorizedAuthorityRef

end Signal

open Signal in
def applyAspTransition (current : PortfolioState) (policy : TransitionPolicy) (event : String)
    (evidence : List CheckpointEvidence) (observedAt summary : String)
    (canonicalRefs uncertainties : List String)
    (wakeAdmission : Option SignalPassiveWakeAdmission) (park : ParkInputs)
    (preauthorizedAuthorityRef : Option String) : Py AspTransitionApplication := do
  Py.require (evidence ≠ []) .signalAspTransitionError "ASP transition requires admitted evidence"
  let _ ← Guard.nonempty .signalAspTransitionError
    [("observed_at", observedAt), ("summary", summary)]
  Py.require (canonicalRefs ≠ []) .signalAspTransitionError "ASP transition requires canonical_refs"
  let rule ← matchRule "active transition is not policy-admissible" policy current.active.state event
  Py.require (rule.effect ≠ .wakePassive) .signalAspTransitionError
    "wake_passive must be admitted as a replacement candidate, not applied to active"
  requiredEvidence rule evidence
  checkAuthority rule evidence preauthorizedAuthorityRef
  let moved ← move current policy rule evidence wakeAdmission park preauthorizedAuthorityRef
  let authorityStop := decide (rule.effect = .stopHumanGate)
  let checkpoint ← ExecutionCheckpoint.new moved.nextState.portfolioId moved.nextState.generation
    moved.nextState.digest current.active.workId "active" (PyLiteral.spelling current.active.state)
    (PyLiteral.spelling rule.toState) current.active.nextActionRef current.active.sourceRevision
    observedAt summary evidence canonicalRefs uncertainties moved.nextTransitionRefs authorityStop
    (if authorityStop then rule.authorityBoundary else none) "ge.execution-checkpoint.v1"
  AspTransitionApplication.new current.digest moved.nextState checkpoint policy.digest rule.digest
    event rule.effect moved.wakeAdmissionDigest

end GeneralExecution
