import GeneralExecution.Objects.Models

namespace GeneralExecution

inductive FailureClass
  | networkTimeout
  | providerThrottled
  | deterministicAssertion
  | unknownFailure
  | costBoundary
  | securityBoundary
  | authorityBoundary
deriving DecidableEq

instance : PyLiteral FailureClass where
  spelling
    | .networkTimeout         => "network_timeout"
    | .providerThrottled      => "provider_throttled"
    | .deterministicAssertion => "deterministic_assertion"
    | .unknownFailure         => "unknown_failure"
    | .costBoundary           => "cost_boundary"
    | .securityBoundary       => "security_boundary"
    | .authorityBoundary      => "authority_boundary"
  values := [.networkTimeout, .providerThrottled, .deterministicAssertion, .unknownFailure,
    .costBoundary, .securityBoundary, .authorityBoundary]
  parse_spelling c := by cases c <;> rfl

def humanBoundaryFailureClasses : List FailureClass :=
  [.securityBoundary, .authorityBoundary]

inductive RetryDisposition
  | retry
  | independentReproduction
  | diagnose
  | humanGate
  | stop
deriving DecidableEq

instance : PyLiteral RetryDisposition where
  spelling
    | .retry                   => "retry"
    | .independentReproduction => "independent_reproduction"
    | .diagnose                => "diagnose"
    | .humanGate               => "human_gate"
    | .stop                    => "stop"
  values           := [.retry, .independentReproduction, .diagnose, .humanGate, .stop]
  parse_spelling d := by cases d <;> rfl

@[ext]
structure RetryPolicy where
  policyId                      : String
  revision                      : String
  authorityRef                  : String
  authorityDigest               : String
  networkRetryLimit             : Nat := 2
  throttleRetryLimit            : Nat := 3
  throttleInitialBackoffSeconds : Nat := 5
  throttleMaxBackoffSeconds     : Nat := 60
  unknownReproductionLimit      : Nat := 1
  schemaVersion                 : String := "ge.retry-policy.v1"
  nonempty :
    ∀ x ∈ [("policy_id", policyId), ("revision", revision), ("authority_ref", authorityRef)],
      ¬Text.Blank x.2
  isSha256 : ∀ x ∈ [("authority_digest", authorityDigest)], IsSha256 x.2
  initial  : 1 ≤ throttleInitialBackoffSeconds
  capped   : throttleInitialBackoffSeconds ≤ throttleMaxBackoffSeconds
  frozen   : unknownReproductionLimit = 1
  schema   : schemaVersion = "ge.retry-policy.v1"

instance : DecidableEq RetryPolicy :=
  fun _ _ => decidable_of_iff _ RetryPolicy.ext_iff.symm

def RetryPolicy.new (policyId revision authorityRef authorityDigest : String)
    (networkRetryLimit throttleRetryLimit throttleInitialBackoffSeconds throttleMaxBackoffSeconds
      unknownReproductionLimit : Nat) : Py RetryPolicy := do
  let ⟨h₁⟩ ← Guard.nonempty .retryAuthorityError
    [("policy_id", policyId), ("revision", revision), ("authority_ref", authorityRef)]
  let ⟨h₂⟩ ← Guard.sha256 .retryAuthorityError [("authority_digest", authorityDigest)]
  let ⟨h₃⟩ ← Py.check (1 ≤ throttleInitialBackoffSeconds) .retryAuthorityError
    "throttle_initial_backoff_seconds must be >= 1"
  let ⟨h₄⟩ ← Py.check (throttleInitialBackoffSeconds ≤ throttleMaxBackoffSeconds)
    .retryAuthorityError "throttle_max_backoff_seconds must be >= initial backoff"
  let ⟨h₅⟩ ← Py.check (unknownReproductionLimit = 1) .retryAuthorityError
    "unknown_reproduction_limit is frozen to exactly 1"
  return {
    policyId, revision, authorityRef, authorityDigest, networkRetryLimit, throttleRetryLimit,
    throttleInitialBackoffSeconds, throttleMaxBackoffSeconds, unknownReproductionLimit,
    nonempty := h₁, isSha256 := h₂, initial := h₃, capped := h₄, frozen := h₅, schema := rfl }

instance : AsDict RetryPolicy where
  asdict p := [
    ("policy_id", toPy p.policyId),
    ("revision", toPy p.revision),
    ("authority_ref", toPy p.authorityRef),
    ("authority_digest", toPy p.authorityDigest),
    ("network_retry_limit", toPy p.networkRetryLimit),
    ("throttle_retry_limit", toPy p.throttleRetryLimit),
    ("throttle_initial_backoff_seconds", toPy p.throttleInitialBackoffSeconds),
    ("throttle_max_backoff_seconds", toPy p.throttleMaxBackoffSeconds),
    ("unknown_reproduction_limit", toPy p.unknownReproductionLimit),
    ("schema_version", toPy p.schemaVersion)]

-- The failures that come with a `boundary_detail`, and no others do.
def FailureClass.IsBoundary (c : FailureClass) : Prop :=
  c ∈ humanBoundaryFailureClasses ∨ c = .costBoundary

instance : DecidablePred FailureClass.IsBoundary :=
  fun _ => inferInstanceAs <| Decidable (_ ∨ _)

def FailureClass.boundaryMessage (c : FailureClass) : String :=
  if c ∈ humanBoundaryFailureClasses then "human boundary failure requires boundary_detail"
  else if c = .costBoundary then "cost boundary requires boundary_detail"
  else "boundary_detail is valid only for boundary failures"

@[ext]
structure FailureObservation where
  failureClass                 : FailureClass
  failureCode                  : String
  evidenceDigest               : String
  automaticRetryCount          : Nat := 0
  independentReproductionCount : Nat := 0
  boundaryDetail               : Option String := none
  schemaVersion                : String := "ge.failure-observation.v1"
  nonempty       : ∀ x ∈ [("failure_code", failureCode)], ¬Text.Blank x.2
  isSha256       : ∀ x ∈ [("evidence_digest", evidenceDigest)], IsSha256 x.2
  detailNonempty : ∀ x ∈ [("boundary_detail", boundaryDetail)], Guard.NoneBlank x.2
  boundary       : failureClass.IsBoundary ↔ boundaryDetail.isSome
  schema         : schemaVersion = "ge.failure-observation.v1"
deriving DecidableEq

namespace FailureObservation

def new (failureClass : FailureClass) (failureCode evidenceDigest : String)
    (automaticRetryCount independentReproductionCount : Nat) (boundaryDetail : Option String) :
    Py FailureObservation := do
  let ⟨h₁⟩ ← Guard.nonempty .retryAuthorityError [("failure_code", failureCode)]
  let ⟨h₂⟩ ← Guard.sha256 .retryAuthorityError [("evidence_digest", evidenceDigest)]
  let ⟨h₃⟩ ← Guard.optionalNonempty .retryAuthorityError [("boundary_detail", boundaryDetail)]
  let ⟨h₄⟩ ← Py.check (failureClass.IsBoundary ↔ boundaryDetail.isSome) .retryAuthorityError
    failureClass.boundaryMessage
  return {
    failureClass, failureCode, evidenceDigest, automaticRetryCount, independentReproductionCount,
    boundaryDetail, nonempty := h₁, isSha256 := h₂, detailNonempty := h₃, boundary := h₄,
    schema := rfl }

-- The same failure, submitted with other counts. No check of the constructor reads them.
def withCounts (o : FailureObservation) (automatic independent : Nat) : FailureObservation :=
  { o with automaticRetryCount := automatic, independentReproductionCount := independent }

end FailureObservation

instance : AsDict FailureObservation where
  asdict o := [
    ("failure_class", toPy o.failureClass),
    ("failure_code", toPy o.failureCode),
    ("evidence_digest", toPy o.evidenceDigest),
    ("automatic_retry_count", toPy o.automaticRetryCount),
    ("independent_reproduction_count", toPy o.independentReproductionCount),
    ("boundary_detail", toPy o.boundaryDetail),
    ("schema_version", toPy o.schemaVersion)]

-- What each disposition allows beside it, in the order of the checks and with their messages.
def dispositionChecks (disposition : RetryDisposition) (delaySeconds : Nat)
    (automatic independent human : Bool) (authorityRef authorityDigest authorityBoundary :
    Option String) : List (Bool × String) :=
  let bounded := authorityRef.isSome && authorityDigest.isSome && authorityBoundary.isNone
  let bare    := authorityRef.isNone && authorityDigest.isNone
  match disposition with
  | .retry => [
      (automatic, "retry disposition requires automatic_retry_authorized"),
      (!(independent || human), "retry disposition flags are inconsistent"),
      (bounded, "retry disposition requires bounded authority artifact only")]
  | .independentReproduction => [
      (independent, "independent reproduction requires explicit authorization"),
      (!(automatic || human), "independent reproduction flags are inconsistent"),
      (delaySeconds = 0 && bounded,
        "independent reproduction requires bounded authority artifact")]
  | .diagnose | .stop => [
      (!(automatic || independent || human),
        PyLiteral.spelling disposition ++ " disposition cannot grant authority"),
      (delaySeconds = 0 && bare && authorityBoundary.isNone,
        PyLiteral.spelling disposition ++ " disposition cannot carry authority or delay")]
  | .humanGate => [
      (human && authorityBoundary.isSome,
        "human_gate disposition requires human authority boundary"),
      (!(automatic || independent) && delaySeconds = 0 && bare,
        "human_gate disposition flags are inconsistent")]

-- The first check that fails gives the message.
def Guard.allHold (cls : ErrorClass) (checks : List (Bool × String)) :
    Py (PLift (∀ c ∈ checks, c.1 = true)) :=
  match h : checks.find? fun c => ¬c.1 with
  | some c => Py.raise cls c.2
  | none   => .ok ⟨fun c hc => by simpa using List.find?_eq_none.mp h c hc⟩

theorem Guard.allHold_of {cls : ErrorClass} {checks : List (Bool × String)}
    (h : ∀ c ∈ checks, c.1 = true) : Guard.allHold cls checks = .ok ⟨h⟩ := by
  unfold Guard.allHold
  split
  case h_1 c hc => exact absurd (h c <| List.mem_of_find?_eq_some hc) (by simpa using List.find?_some hc)
  case h_2      => rfl

@[ext]
structure RetryDecision where
  policyDigest                      : String
  observationDigest                 : String
  disposition                       : RetryDisposition
  nextActionRef                     : String
  delaySeconds                      : Nat := 0
  automaticRetryAuthorized          : Bool := false
  independentReproductionAuthorized : Bool := false
  humanRequired                     : Bool := false
  authorityRef                      : Option String := none
  authorityDigest                   : Option String := none
  authorityBoundary                 : Option String := none
  transportAuthority                : Bool := false
  schemaVersion                     : String := "ge.retry-decision.v1"
  isSha256 :
    ∀ x ∈ [("policy_digest", policyDigest), ("observation_digest", observationDigest)],
      IsSha256 x.2
  nonempty         : ∀ x ∈ [("next_action_ref", nextActionRef)], ¬Text.Blank x.2
  refNonempty      : ∀ x ∈ [("authority_ref", authorityRef)], Guard.NoneBlank x.2
  authoritySha256  : ∀ x ∈ [("authority_digest", authorityDigest)], Guard.OptionalSha256 x.2
  boundaryNonempty : ∀ x ∈ [("authority_boundary", authorityBoundary)], Guard.NoneBlank x.2
  noTransport      : transportAuthority = false
  consistent :
    ∀ c ∈ dispositionChecks disposition delaySeconds automaticRetryAuthorized
      independentReproductionAuthorized humanRequired authorityRef authorityDigest
      authorityBoundary, c.1 = true
  schema           : schemaVersion = "ge.retry-decision.v1"
deriving DecidableEq

def RetryDecision.new (policyDigest observationDigest : String) (disposition : RetryDisposition)
    (nextActionRef : String) (delaySeconds : Nat) (automaticRetryAuthorized
    independentReproductionAuthorized humanRequired : Bool) (authorityRef authorityDigest
    authorityBoundary : Option String) : Py RetryDecision := do
  let ⟨h₁⟩ ← Guard.sha256 .retryAuthorityError
    [("policy_digest", policyDigest), ("observation_digest", observationDigest)]
  let ⟨h₂⟩ ← Guard.nonempty .retryAuthorityError [("next_action_ref", nextActionRef)]
  let ⟨h₃⟩ ← Guard.optionalNonempty .retryAuthorityError [("authority_ref", authorityRef)]
  let ⟨h₄⟩ ← Guard.optionalSha256 .retryAuthorityError [("authority_digest", authorityDigest)]
  let ⟨h₅⟩ ← Guard.optionalNonempty .retryAuthorityError
    [("authority_boundary", authorityBoundary)]
  let ⟨h₆⟩ ← Guard.allHold .retryAuthorityError <|
    dispositionChecks disposition delaySeconds automaticRetryAuthorized
      independentReproductionAuthorized humanRequired authorityRef authorityDigest
      authorityBoundary
  return {
    policyDigest, observationDigest, disposition, nextActionRef, delaySeconds,
    automaticRetryAuthorized, independentReproductionAuthorized, humanRequired, authorityRef,
    authorityDigest, authorityBoundary, isSha256 := h₁, nonempty := h₂, refNonempty := h₃,
    authoritySha256 := h₄, boundaryNonempty := h₅, noTransport := rfl, consistent := h₆,
    schema := rfl }

variable [Sha256]

def RetryPolicy.digest (p : RetryPolicy) : String :=
  sha256Digest (toPy p)

def FailureObservation.digest (o : FailureObservation) : String :=
  sha256Digest (toPy o)

-- `_decision`
def retryDecision (policy : RetryPolicy) (observation : FailureObservation)
    (disposition : RetryDisposition) (nextActionRef : String) (delaySeconds : Nat)
    (automaticRetryAuthorized independentReproductionAuthorized humanRequired : Bool)
    (authorityBoundary : Option String) : Py RetryDecision :=
  let mechanical := automaticRetryAuthorized || independentReproductionAuthorized
  RetryDecision.new policy.digest observation.digest disposition nextActionRef delaySeconds
    automaticRetryAuthorized independentReproductionAuthorized humanRequired
    (if mechanical then some policy.authorityRef else none)
    (if mechanical then some policy.authorityDigest else none)
    authorityBoundary

def decideRetry (policy : RetryPolicy) (observation : FailureObservation) : Py RetryDecision :=
  match observation.failureClass with
  | .networkTimeout =>
    if observation.automaticRetryCount < policy.networkRetryLimit then
      retryDecision policy observation .retry "retry://network-timeout" 0 true false false none
    else
      retryDecision policy observation .diagnose "diagnose://network-retry-budget-exhausted"
        0 false false false none
  | .providerThrottled =>
    if observation.automaticRetryCount < policy.throttleRetryLimit then
      let delay := min
        (policy.throttleInitialBackoffSeconds * 2 ^ observation.automaticRetryCount)
        policy.throttleMaxBackoffSeconds
      retryDecision policy observation .retry "retry://provider-throttled" delay
        true false false none
    else
      retryDecision policy observation .diagnose "diagnose://throttle-retry-budget-exhausted"
        0 false false false none
  | .deterministicAssertion =>
    retryDecision policy observation .diagnose "diagnose://deterministic-assertion"
      0 false false false none
  | .unknownFailure =>
    if observation.independentReproductionCount < policy.unknownReproductionLimit then
      retryDecision policy observation .independentReproduction "reproduce://unknown-failure"
        0 false true false none
    else
      retryDecision policy observation .diagnose "diagnose://unknown-failure"
        0 false false false none
  | .costBoundary =>
    retryDecision policy observation .stop "stop://cost-boundary" 0 false false false none
  | .securityBoundary | .authorityBoundary =>
    retryDecision policy observation .humanGate "authority://human-decision"
      0 false false true observation.boundaryDetail

-- The failures of one execution in their order, and what has been decided of each.
abbrev RetryLog := List (FailureObservation × RetryDecision)

namespace RetryLog

def automaticRetries (log : RetryLog) : Nat :=
  log.countP fun e => e.2.automaticRetryAuthorized

def independentReproductions (log : RetryLog) : Nat :=
  log.countP fun e => e.2.independentReproductionAuthorized

-- The next failure is submitted with the counts of what has been authorized so far.
def decideNext (policy : RetryPolicy) (log : RetryLog) (failure : FailureObservation) :
    Py RetryLog := do
  let observation := failure.withCounts log.automaticRetries log.independentReproductions
  let decision ← decideRetry policy observation
  return log ++ [(observation, decision)]

def decideAll (policy : RetryPolicy) (failures : List FailureObservation) : Py RetryLog :=
  failures.foldlM (decideNext policy) []

end RetryLog

end GeneralExecution
