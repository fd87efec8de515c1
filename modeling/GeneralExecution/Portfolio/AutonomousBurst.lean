import GeneralExecution.Objects.Errors
import GeneralExecution.Primitives.Program

namespace GeneralExecution

inductive BurstTriggerKind
  | hourlyWatchdog
  | providerEvent
  | heartbeat
  | manual
deriving DecidableEq

instance : PyLiteral BurstTriggerKind where
  spelling
    | .hourlyWatchdog => "hourly_watchdog"
    | .providerEvent  => "provider_event"
    | .heartbeat      => "heartbeat"
    | .manual         => "manual"
  values           := [.hourlyWatchdog, .providerEvent, .heartbeat, .manual]
  parse_spelling a := by cases a <;> rfl

inductive ObservationStatus
  | admissible
  | progressing
  | humanGate
  | externalEvidenceGate
  | conditionWait
  | scheduledWait
  | done
  | failed
  | stalled
  | insufficientEvidence
deriving DecidableEq

inductive BurstDisposition
  | stopped
  | leaseExhausted
  | transitionBudgetExhausted
deriving DecidableEq

-- `_CONTINUITY_TO_STATUS`
def continuityToStatus : String → Option ObservationStatus
  | "CHECKPOINTED_RESUMABLE"                         => some .admissible
  | "DEVELOPMENT_PROGRESSING"                        => some .progressing
  | "CONVERSATION_INTERRUPTED_DEVELOPMENT_CONTINUED" => some .progressing
  | "HUMAN_GATE"                                     => some .humanGate
  | "EXTERNAL_EVIDENCE_GATE"                         => some .externalEvidenceGate
  | "CONDITION_WAIT"                                 => some .conditionWait
  | "SCHEDULED_WAIT"                                 => some .scheduledWait
  | "DONE_TECHNICAL"                                 => some .done
  | "DONE_CANONICAL"                                 => some .done
  | "FAILED"                                         => some .failed
  | "DEVELOPMENT_STALLED"                            => some .stalled
  | "INSUFFICIENT_EVIDENCE"                          => some .insufficientEvidence
  | _                                                => none

structure AutonomousBurstTrigger where
  kind          : BurstTriggerKind
  sourceRef     : String
  observedAt    : String
  schemaVersion : String := "ge.autonomous-burst-trigger.v1"
  schema        : schemaVersion = "ge.autonomous-burst-trigger.v1"
  nonempty      : ∀ x ∈ [("source_ref", sourceRef), ("observed_at", observedAt)], ¬Text.Blank x.2

namespace AutonomousBurstTrigger

instance : AsDict AutonomousBurstTrigger where
  asdict t := [
    ("kind", toPy t.kind),
    ("source_ref", toPy t.sourceRef),
    ("observed_at", toPy t.observedAt),
    ("schema_version", toPy t.schemaVersion)]

def digest [Sha256] (t : AutonomousBurstTrigger) : String :=
  sha256Digest (toPy t)

end AutonomousBurstTrigger

structure AutonomousBurstPolicy where
  maxTransitions           : Nat := 32
  maxWallSeconds           : Nat := 900
  heartbeatFallbackSeconds : Nat := 900
  schemaVersion            : String := "ge.autonomous-burst-policy.v1"
  schema                   : schemaVersion = "ge.autonomous-burst-policy.v1"
  positive                 : 1 ≤ maxTransitions ∧ 1 ≤ maxWallSeconds
  fallback                 : 900 ≤ heartbeatFallbackSeconds

namespace AutonomousBurstPolicy

instance : AsDict AutonomousBurstPolicy where
  asdict p := [
    ("max_transitions", toPy p.maxTransitions),
    ("max_wall_seconds", toPy p.maxWallSeconds),
    ("heartbeat_fallback_seconds", toPy p.heartbeatFallbackSeconds),
    ("schema_version", toPy p.schemaVersion)]

def digest [Sha256] (p : AutonomousBurstPolicy) : String :=
  sha256Digest (toPy p)

end AutonomousBurstPolicy

structure AutonomousBurstObservation where
  portfolioId              : String
  generation               : Nat
  stateDigest              : String
  status                   : ObservationStatus
  nextActionRef            : Option String
  evidenceDigest           : String
  observedAt               : String
  continuityVerdict        : Option String := none
  authoritySatisfied       : Bool := true
  constitutionalGatePassed : Bool := true
  paidSpendRequired        : Bool := false
  credentialGateSatisfied  : Bool := true
  schemaVersion            : String := "ge.autonomous-burst-observation.v1"
  schema                   : schemaVersion = "ge.autonomous-burst-observation.v1"
  nonempty                 :
    ∀ x ∈ [("portfolio_id", portfolioId), ("observed_at", observedAt)], ¬Text.Blank x.2
  isSha256                 :
    ∀ x ∈ [("state_digest", stateDigest), ("evidence_digest", evidenceDigest)], IsSha256 x.2
  hasAction                :
    status = .admissible → ∃ actionRef ∈ nextActionRef, ¬Text.Blank actionRef
  agrees                   :
    ∀ verdict ∈ continuityVerdict, continuityToStatus verdict = some status

structure AutonomousBurstTransitionReceipt where
  portfolioId       : String
  actionRef         : String
  preGeneration     : Int
  postGeneration    : Int
  preStateDigest    : String
  postStateDigest   : String
  transitionDigest  : String
  checkpointDigest  : String
  authorityCreated  : Bool := false
  paidSpendCreated  : Bool := false
  schemaVersion     : String := "ge.autonomous-burst-transition-receipt.v1"
  schema            : schemaVersion = "ge.autonomous-burst-transition-receipt.v1"
  nonempty          :
    ∀ x ∈ [("portfolio_id", portfolioId), ("action_ref", actionRef)], ¬Text.Blank x.2
  isSha256          :
    ∀ x ∈ [("pre_state_digest", preStateDigest), ("post_state_digest", postStateDigest),
      ("transition_digest", transitionDigest), ("checkpoint_digest", checkpointDigest)],
      IsSha256 x.2
  advances          : postGeneration = preGeneration + 1
  changes           : preStateDigest ≠ postStateDigest
  inert             : authorityCreated = false ∧ paidSpendCreated = false

structure AutonomousBurstResult where
  triggerDigest      : String
  policyDigest       : String
  portfolioId        : String
  initialGeneration  : Nat
  finalGeneration    : Nat
  initialStateDigest : String
  finalStateDigest   : String
  transitionReceipts : List AutonomousBurstTransitionReceipt
  disposition        : BurstDisposition
  stopReason         : String
  authorityCreated   : Bool := false
  schemaVersion      : String := "ge.autonomous-burst-result.v1"
  isSha256           :
    ∀ x ∈ [("trigger_digest", triggerDigest), ("policy_digest", policyDigest)], IsSha256 x.2
  nonempty           : ∀ x ∈ [("portfolio_id", portfolioId)], ¬Text.Blank x.2
  stateSha256        :
    ∀ x ∈ [("initial_state_digest", initialStateDigest), ("final_state_digest", finalStateDigest)],
      IsSha256 x.2
  hasReason          : ∀ x ∈ [("stop_reason", stopReason)], ¬Text.Blank x.2
  forward            : initialGeneration ≤ finalGeneration
  accounted          : finalGeneration - initialGeneration = transitionReceipts.length
  noAuthority        : authorityCreated = false

namespace AutonomousBurstResult

def new (triggerDigest policyDigest portfolioId : String) (initialGeneration finalGeneration : Nat)
    (initialStateDigest finalStateDigest : String)
    (transitionReceipts : List AutonomousBurstTransitionReceipt) (disposition : BurstDisposition)
    (stopReason : String) : Py AutonomousBurstResult := do
  let ⟨h₁⟩ ← Guard.sha256 .autonomousBurstError
    [("trigger_digest", triggerDigest), ("policy_digest", policyDigest)]
  let ⟨h₂⟩ ← Guard.nonempty .autonomousBurstError [("portfolio_id", portfolioId)]
  let ⟨h₃⟩ ← Guard.sha256 .autonomousBurstError
    [("initial_state_digest", initialStateDigest), ("final_state_digest", finalStateDigest)]
  let ⟨h₄⟩ ← Guard.nonempty .autonomousBurstError [("stop_reason", stopReason)]
  let ⟨h₅⟩ ← Py.check (initialGeneration ≤ finalGeneration) .autonomousBurstError
    "burst cannot move generation backwards"
  let ⟨h₆⟩ ← Py.check (finalGeneration - initialGeneration = transitionReceipts.length)
    .autonomousBurstError
    "burst generation delta must equal independently evidenced atomic transitions"
  return {
    triggerDigest, policyDigest, portfolioId, initialGeneration, finalGeneration,
    initialStateDigest, finalStateDigest, transitionReceipts, disposition, stopReason,
    isSha256 := h₁, nonempty := h₂, stateSha256 := h₃, hasReason := h₄, forward := h₅,
    accounted := h₆, noAuthority := rfl }

end AutonomousBurstResult

-- `_STOP_REASON`, for what is not admissible
def stopReason : ObservationStatus → Option String
  | .admissible           => none
  | .progressing          => "ACTIVE_EXECUTION_OBSERVED"
  | .humanGate            => "HUMAN_GATE"
  | .externalEvidenceGate => "EXTERNAL_EVIDENCE_GATE"
  | .conditionWait        => "CONDITION_WAIT"
  | .scheduledWait        => "SCHEDULED_WAIT"
  | .done                 => "CEILING_REACHED"
  | .failed               => "FAILED"
  | .stalled              => "DEVELOPMENT_STALLED"
  | .insufficientEvidence => "INSUFFICIENT_EVIDENCE"

-- `_admissibility_stop`
def admissibilityStop (o : AutonomousBurstObservation) : Option String :=
  if o.status ≠ .admissible then stopReason o.status
  else if ¬o.constitutionalGatePassed then "CONSTITUTIONAL_GATE_CLOSED"
  else if ¬o.authoritySatisfied then "AUTHORITY_REQUIRED"
  else if o.paidSpendRequired then "PAID_SPEND_GATE"
  else if ¬o.credentialGateSatisfied then "CREDENTIAL_GATE"
  else none

-- The calls that a burst has made.
structure BurstCalls where
  clocked  : Nat := 0
  observed : Nat := 0
  executed : List AutonomousBurstObservation := []

abbrev Burst (α : Type) :=
  Program BurstCalls PyError α

-- What a burst is given. A function answers a call by its number, for it can keep a state of its
-- own. Of the clock's readings only the comparison with the lease is known, which for the
-- floating-point numbers that they are can come out either way.
structure BurstEnvironment (Reading : Type) where
  observe        : Nat → Py AutonomousBurstObservation
  executeOne     : Nat → AutonomousBurstObservation → Py AutonomousBurstTransitionReceipt
  clock          : Nat → Py Reading
  leaseExhausted : Reading → Reading → Nat → Bool

namespace BurstEnvironment

variable {Reading : Type} (env : BurstEnvironment Reading)

def callClock : Burst Reading :=
  .atomic (fun s => { s with clocked := s.clocked + 1 }) fun s => .done (env.clock s.clocked)

def callObserve : Burst AutonomousBurstObservation :=
  .atomic (fun s => { s with observed := s.observed + 1 }) fun s => .done (env.observe s.observed)

def callExecuteOne (current : AutonomousBurstObservation) : Burst AutonomousBurstTransitionReceipt :=
  .atomic (fun s => { s with executed := s.executed ++ [current] })
    fun s => .done (env.executeOne s.executed.length current)

end BurstEnvironment

-- What the loop leaves for the result.
structure BurstEnd where
  current     : AutonomousBurstObservation
  receipts    : List AutonomousBurstTransitionReceipt
  disposition : BurstDisposition
  stopReason  : String

-- The checks of a receipt against what it was executed on.
def checkReceipt (current : AutonomousBurstObservation)
    (receipt : AutonomousBurstTransitionReceipt) : Py Unit := do
  Py.require (receipt.portfolioId = current.portfolioId) .autonomousBurstError
    "transition receipt portfolio mismatch"
  Py.require (some receipt.actionRef = current.nextActionRef) .autonomousBurstError
    "transition receipt action_ref mismatch"
  Py.require (receipt.preGeneration = current.generation) .autonomousBurstError
    "transition receipt generation mismatch"
  Py.require (receipt.preStateDigest = current.stateDigest) .autonomousBurstError
    "transition receipt pre-state mismatch"

-- The checks of what is observed after a receipt.
def checkSuccessor (receipt : AutonomousBurstTransitionReceipt)
    (next : AutonomousBurstObservation) : Py Unit := do
  Py.require (next.generation = receipt.postGeneration) .autonomousBurstError
    "fresh observation does not bind the exact post-transition generation"
  Py.require (next.stateDigest = receipt.postStateDigest) .autonomousBurstError
    "fresh observation does not bind the exact post-transition state"

section

variable {Reading : Type} (env : BurstEnvironment Reading) (policy : AutonomousBurstPolicy)

-- One transition: it is executed on what is observed now, and the state is observed again.
def burstTransition (current : AutonomousBurstObservation) :
    Burst (AutonomousBurstTransitionReceipt × AutonomousBurstObservation) := do
  let receipt ← env.callExecuteOne current
  checkReceipt current receipt
  let next ← env.callObserve
  checkSuccessor receipt next
  return (receipt, next)

-- `while True`
def burstLoop (started : Reading) (portfolioId : String) (current : AutonomousBurstObservation)
    (receipts : List AutonomousBurstTransitionReceipt) : Burst BurstEnd :=
  if current.portfolioId ≠ portfolioId then
    throw ⟨.autonomousBurstError, "portfolio identity changed during burst"⟩
  else
    match admissibilityStop current with
    | some stop => return ⟨current, receipts, .stopped, stop⟩
    | none =>
      if receipts.length ≥ policy.maxTransitions then
        return ⟨current, receipts, .transitionBudgetExhausted, "MAX_TRANSITIONS_REACHED"⟩
      else do
        let now ← env.callClock
        if env.leaseExhausted now started policy.maxWallSeconds then
          return ⟨current, receipts, .leaseExhausted, "BURST_WALL_CLOCK_LEASE_EXHAUSTED"⟩
        else
          let (receipt, next) ← burstTransition env current
          burstLoop started portfolioId next (receipts ++ [receipt])
termination_by policy.maxTransitions - receipts.length
decreasing_by
  rw [List.length_append, List.length_singleton]
  omega

-- The part of a burst before its result is built: what was observed first, and the end.
def burst : Burst (AutonomousBurstObservation × BurstEnd) := do
  let started ← env.callClock
  let first ← env.callObserve
  let final ← burstLoop env policy started first.portfolioId first []
  return (first, final)

variable [Sha256]

-- The result of each of the three returns of the loop.
def burstResult (trigger : AutonomousBurstTrigger) (first : AutonomousBurstObservation)
    (final : BurstEnd) : Py AutonomousBurstResult :=
  AutonomousBurstResult.new trigger.digest policy.digest first.portfolioId first.generation
    final.current.generation first.stateDigest final.current.stateDigest final.receipts
    final.disposition final.stopReason

def runAutonomousBurst (trigger : AutonomousBurstTrigger) : Burst AutonomousBurstResult := do
  let (first, final) ← burst env policy
  burstResult policy trigger first final

end

end GeneralExecution
