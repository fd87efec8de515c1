import GeneralExecution.Portfolio.Persistence

namespace GeneralExecution

inductive HumanGateDecisionKind
  | reject
  | supersede
deriving DecidableEq

instance : PyLiteral HumanGateDecisionKind where
  spelling
    | .reject    => "reject"
    | .supersede => "supersede"
  values           := [.reject, .supersede]
  parse_spelling a := by cases a <;> rfl

inductive HumanGateDecisionTarget
  | rework
  | failed
deriving DecidableEq

instance : PyLiteral HumanGateDecisionTarget where
  spelling
    | .rework => "rework"
    | .failed => "failed"
  values           := [.rework, .failed]
  parse_spelling a := by cases a <;> rfl

def HumanGateDecisionTarget.state : HumanGateDecisionTarget → PortfolioLifecycleState
  | .rework => .rework
  | .failed => .failed

-- The next action that goes with a target.
def NextActionOk (target : HumanGateDecisionTarget) (nextActionRef : String) : Prop :=
  match target with
  | .failed => nextActionRef = "action://none"
  | .rework => "action://".toList <+: nextActionRef.toList

instance (target : HumanGateDecisionTarget) (nextActionRef : String) :
    Decidable (NextActionOk target nextActionRef) := by
  unfold NextActionOk
  cases target <;> infer_instance

@[ext]
structure HumanGateDecision where
  eventId             : String
  portfolioId         : String
  expectedGeneration  : Nat
  expectedStateDigest : String
  pendingActionRef    : String
  decision            : HumanGateDecisionKind
  reason              : String
  targetState         : HumanGateDecisionTarget
  nextActionRef       : String
  observedAt          : String
  evidence            : List CheckpointEvidence
  canonicalRefs       : List String
  schemaVersion       : String := "ge.human-gate-decision.v1"
  version             : schemaVersion = "ge.human-gate-decision.v1"
  nonempty :
    ∀ x ∈ [("event_id", eventId), ("portfolio_id", portfolioId),
      ("pending_action_ref", pendingActionRef), ("reason", reason),
      ("next_action_ref", nextActionRef), ("observed_at", observedAt)], ¬Text.Blank x.2
  committed  : 1 ≤ expectedGeneration
  isSha256   : ∀ x ∈ [("expected_state_digest", expectedStateDigest)], IsSha256 x.2
  nextAction : NextActionOk targetState nextActionRef
  evident    : evidence ≠ []
  distinct   : (evidence.map CheckpointEvidence.identity).Nodup
  superseded :
    decision = .supersede → "superseding_evidence" ∈ evidence.map CheckpointEvidence.kind
  hasRefs : canonicalRefs ≠ []
  refs    : Guard.UniqueNonempty canonicalRefs

instance : DecidableEq HumanGateDecision :=
  fun _ _ => decidable_of_iff _ HumanGateDecision.ext_iff.symm

namespace HumanGateDecision

def new (eventId portfolioId : String) (expectedGeneration : Nat)
    (expectedStateDigest pendingActionRef decision reason targetState nextActionRef
      observedAt : String)
    (evidence : List CheckpointEvidence) (canonicalRefs : List String) (schemaVersion : String) :
    Py HumanGateDecision := do
  let ⟨h₁⟩ ← Py.check (schemaVersion = "ge.human-gate-decision.v1") .humanGateDecisionError
    "unsupported human gate decision schema"
  let ⟨h₂⟩ ← Guard.nonempty .humanGateDecisionError
    [("event_id", eventId), ("portfolio_id", portfolioId),
      ("pending_action_ref", pendingActionRef), ("reason", reason),
      ("next_action_ref", nextActionRef), ("observed_at", observedAt)]
  let ⟨h₃⟩ ← Py.check (1 ≤ expectedGeneration) .humanGateDecisionError
    "expected_generation must be an integer >= 1"
  let ⟨h₄⟩ ← Guard.sha256 .humanGateDecisionError [("expected_state_digest", expectedStateDigest)]
  let decision ← Py.ofOption .humanGateDecisionError "unsupported human gate decision"
    (PyLiteral.parse? decision)
  let targetState ← Py.ofOption .humanGateDecisionError
    "human gate decision target must be rework or failed" (PyLiteral.parse? targetState)
  let ⟨h₅⟩ ← Py.check (NextActionOk targetState nextActionRef) .humanGateDecisionError <|
    match targetState with
    | .failed => "failed decision must use action://none"
    | .rework => "rework decision next action must use action://"
  let ⟨h₆⟩ ← Py.check (evidence ≠ []) .humanGateDecisionError
    "human gate decision requires evidence"
  let ⟨h₇⟩ ← Py.check (evidence.map CheckpointEvidence.identity).Nodup .humanGateDecisionError
    "human gate decision evidence must be unique"
  let ⟨h₈⟩ ← Py.check
    (decision = .supersede → "superseding_evidence" ∈ evidence.map CheckpointEvidence.kind)
    .humanGateDecisionError "supersede decision requires superseding_evidence"
  let ⟨h₉⟩ ← Py.check (canonicalRefs ≠ []) .humanGateDecisionError
    "human gate decision requires canonical refs"
  let ⟨h₁₀⟩ ← Py.check (Guard.UniqueNonempty canonicalRefs) .humanGateDecisionError <|
    if canonicalRefs.Nodup then "canonical refs must be non-empty strings"
    else "canonical refs must be unique"
  return {
    eventId, portfolioId, expectedGeneration, expectedStateDigest, pendingActionRef, decision,
    reason, targetState, nextActionRef, observedAt, evidence, canonicalRefs, schemaVersion,
    version := h₁, nonempty := h₂, committed := h₃, isSha256 := h₄, nextAction := h₅,
    evident := h₆, distinct := h₇, superseded := h₈, hasRefs := h₉, refs := h₁₀ }

instance : AsDict HumanGateDecision where
  asdict d := [
    ("event_id", toPy d.eventId),
    ("portfolio_id", toPy d.portfolioId),
    ("expected_generation", toPy d.expectedGeneration),
    ("expected_state_digest", toPy d.expectedStateDigest),
    ("pending_action_ref", toPy d.pendingActionRef),
    ("decision", toPy d.decision),
    ("reason", toPy d.reason),
    ("target_state", toPy d.targetState),
    ("next_action_ref", toPy d.nextActionRef),
    ("observed_at", toPy d.observedAt),
    ("evidence", toPy d.evidence),
    ("canonical_refs", toPy d.canonicalRefs),
    ("schema_version", toPy d.schemaVersion)]

end HumanGateDecision

@[ext]
structure HumanGateDecisionReceipt where
  eventId             : String
  portfolioId         : String
  expectedGeneration  : Nat
  expectedStateDigest : String
  pendingActionRef    : String
  authorityBoundary   : String
  decision            : HumanGateDecisionKind
  decisionDigest      : String
  targetState         : HumanGateDecisionTarget
  nextActionRef       : String
  providerActor       : String
  decisionRef         : String
  schemaVersion       : String := "ge.human-gate-decision-receipt.v1"
  nonempty :
    ∀ x ∈ [("event_id", eventId), ("portfolio_id", portfolioId),
      ("pending_action_ref", pendingActionRef), ("authority_boundary", authorityBoundary),
      ("next_action_ref", nextActionRef), ("provider_actor", providerActor),
      ("decision_ref", decisionRef)], ¬Text.Blank x.2
  committed : 1 ≤ expectedGeneration
  isSha256 :
    ∀ x ∈ [("expected_state_digest", expectedStateDigest), ("decision_digest", decisionDigest)],
      IsSha256 x.2

namespace HumanGateDecisionReceipt

def new (eventId portfolioId : String) (expectedGeneration : Nat)
    (expectedStateDigest pendingActionRef authorityBoundary : String)
    (decision : HumanGateDecisionKind) (decisionDigest : String)
    (targetState : HumanGateDecisionTarget) (nextActionRef providerActor decisionRef : String) :
    Py HumanGateDecisionReceipt := do
  let ⟨h₁⟩ ← Guard.nonempty .humanGateDecisionError
    [("event_id", eventId), ("portfolio_id", portfolioId),
      ("pending_action_ref", pendingActionRef), ("authority_boundary", authorityBoundary),
      ("next_action_ref", nextActionRef), ("provider_actor", providerActor),
      ("decision_ref", decisionRef)]
  let ⟨h₂⟩ ← Py.check (1 ≤ expectedGeneration) .humanGateDecisionError
    "expected_generation must be an integer >= 1"
  let ⟨h₃⟩ ← Guard.sha256 .humanGateDecisionError
    [("expected_state_digest", expectedStateDigest), ("decision_digest", decisionDigest)]
  return {
    eventId, portfolioId, expectedGeneration, expectedStateDigest, pendingActionRef,
    authorityBoundary, decision, decisionDigest, targetState, nextActionRef, providerActor,
    decisionRef, nonempty := h₁, committed := h₂, isSha256 := h₃ }

instance : AsDict HumanGateDecisionReceipt where
  asdict r := [
    ("event_id", toPy r.eventId),
    ("portfolio_id", toPy r.portfolioId),
    ("expected_generation", toPy r.expectedGeneration),
    ("expected_state_digest", toPy r.expectedStateDigest),
    ("pending_action_ref", toPy r.pendingActionRef),
    ("authority_boundary", toPy r.authorityBoundary),
    ("decision", toPy r.decision),
    ("decision_digest", toPy r.decisionDigest),
    ("target_state", toPy r.targetState),
    ("next_action_ref", toPy r.nextActionRef),
    ("provider_actor", toPy r.providerActor),
    ("decision_ref", toPy r.decisionRef),
    ("schema_version", toPy r.schemaVersion)]

end HumanGateDecisionReceipt

variable [Sha256]

def HumanGateDecision.digest (d : HumanGateDecision) : String :=
  sha256Digest (toPy d)

def HumanGateDecisionReceipt.digest (r : HumanGateDecisionReceipt) : String :=
  sha256Digest (toPy r)

structure HumanGateDecisionResult where
  receipt        : HumanGateDecisionReceipt
  state          : PortfolioState
  checkpoint     : ExecutionCheckpoint
  recoveryDigest : String

-- What the recovered portfolio has to be for the decision; the boundary of its gate is returned.
def admitDecision (decision : HumanGateDecision) (state : PortfolioState)
    (checkpoint : Option ExecutionCheckpoint) : Py String := do
  Py.require (state.active.state = .humanGate) .humanGateDecisionError
    "decision can be consumed only from human_gate"
  let checkpoint ← Py.ofOption .humanGateDecisionError
    "human_gate has no durable authority-stop checkpoint"
    (checkpoint.filter ExecutionCheckpoint.authorityStop)
  Py.require
    (decision.expectedGeneration = state.generation ∧
      decision.expectedStateDigest = state.digest) .humanGateDecisionError
    "human gate decision is stale"
  Py.require (decision.pendingActionRef = state.active.nextActionRef) .humanGateDecisionError
    "pending action does not match current human gate"
  let boundary ← Py.ofOption .humanGateDecisionError "current human gate has no authority boundary"
    (state.active.authorityBoundary.filter (· ≠ ""))
  Py.require (checkpoint.authorityBoundary = some boundary) .humanGateDecisionError
    "authority boundary checkpoint mismatch"
  return boundary

def decisionRefs (decision : HumanGateDecision) (decisionRef : String) : List String :=
  if decisionRef ∈ decision.canonicalRefs then decision.canonicalRefs
  else decision.canonicalRefs ++ [decisionRef]

def decisionCheckpoint (decision : HumanGateDecision) (receipt : HumanGateDecisionReceipt)
    (newState : PortfolioState) : Py ExecutionCheckpoint := do
  let receiptEvidence ← CheckpointEvidence.new "human_gate_decision" receipt.decisionRef
    receipt.digest "ge.checkpoint-evidence.v1"
  let nextRefs :=
    if decision.targetState = .failed then [] else [decision.nextActionRef]
  ExecutionCheckpoint.new newState.portfolioId newState.generation newState.digest
    newState.active.workId "active" "human_gate" (PyLiteral.spelling decision.targetState)
    ("human-decision://" ++ decision.eventId) newState.active.sourceRevision decision.observedAt
    ("Waterfound " ++ PyLiteral.spelling decision.decision ++ " decision for " ++
      decision.pendingActionRef ++ ": " ++ decision.reason)
    (decision.evidence ++ [receiptEvidence]) (decisionRefs decision receipt.decisionRef) []
    nextRefs false none "ge.execution-checkpoint.v1"

-- The receipt, state and checkpoint that the decision makes of the recovered portfolio.
def decisionTransition (decision : HumanGateDecision) (providerActor decisionRef : String)
    (state : PortfolioState) (checkpoint : Option ExecutionCheckpoint) :
    Py (HumanGateDecisionReceipt × PortfolioState × ExecutionCheckpoint) := do
  let boundary ← admitDecision decision state checkpoint
  let receipt ← HumanGateDecisionReceipt.new decision.eventId decision.portfolioId
    decision.expectedGeneration decision.expectedStateDigest decision.pendingActionRef boundary
    decision.decision decision.digest decision.targetState decision.nextActionRef providerActor
    decisionRef
  let newActive ← state.active.replace state.active.role decision.targetState.state
    decision.nextActionRef none none [] none
  let newState ← PortfolioState.new state.portfolioId (state.generation + 1) newActive
    state.secondary state.passive (some state.digest) "ge.portfolio-state.v1"
  let newCheckpoint ← decisionCheckpoint decision receipt newState
  return (receipt, newState, newCheckpoint)

def confirmDecision (portfolioId : String) (receipt : HumanGateDecisionReceipt)
    (newState : PortfolioState) (newCheckpoint : ExecutionCheckpoint) :
    PortfolioCall HumanGateDecisionResult := do
  let (recovered, recoveredCheckpoint, recovery) ← recoverPortfolioAfterRestart portfolioId
  Py.require (recovered = newState ∧ recoveredCheckpoint = some newCheckpoint)
    .humanGateDecisionError "human gate decision cold recovery mismatch"
  return ⟨receipt, recovered, newCheckpoint, recovery.digest⟩

def consumeHumanGateDecision (decision : HumanGateDecision) (providerActor decisionRef : String) :
    PortfolioCall HumanGateDecisionResult := do
  Py.require (providerActor = "Waterfound") .humanGateDecisionError
    "human gate decision actor is not trusted"
  let _ ← (Guard.nonempty .humanGateDecisionError [("decision_ref", decisionRef)] : Py _)
  let (state, checkpoint, _) ← recoverPortfolioAfterRestart decision.portfolioId
  let (receipt, newState, newCheckpoint) ←
    (decisionTransition decision providerActor decisionRef state checkpoint : Py _)
  let _ ← PortfolioHeadStore.commit state.portfolioId state.digest newState newCheckpoint
  confirmDecision state.portfolioId receipt newState newCheckpoint

end GeneralExecution
