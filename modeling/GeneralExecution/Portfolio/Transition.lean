import GeneralExecution.Portfolio.Checkpoint
import GeneralExecution.Portfolio.Policy

namespace GeneralExecution

-- `effect in ROTATING_EFFECTS`
def TransitionEffect.IsRotating (effect : TransitionEffect) : Prop :=
  effect = .promoteSecondary ∨ effect = .parkActive

instance : DecidablePred TransitionEffect.IsRotating :=
  fun _ => inferInstanceAs <| Decidable (_ ∨ _)

def mandatoryEffectEvidence : TransitionEffect → List String
  | .promoteSecondary => ["verifier_pass"]
  | .parkActive       => ["external_blocker", "no_internal_work"]
  | .wakePassive      => ["wake_condition_satisfied"]
  | _                 => []

def evidenceKinds (evidence : List CheckpointEvidence) : Py (List String) := do
  Py.require (evidence ≠ []) .aspTransitionError "transition requires admitted evidence"
  Py.require (evidence.map CheckpointEvidence.identity).Nodup .aspTransitionError
    "transition evidence must not contain duplicates"
  return evidence.map CheckpointEvidence.kind

def verifyEvidence (rule : TransitionRule) (evidence : List CheckpointEvidence) : Py Unit := do
  let kinds ← evidenceKinds evidence
  let missing := Typed.difference rule.requiredEvidence kinds
  Py.require (missing = []) .aspTransitionError
    ("transition is missing policy-required evidence: " ++ Typed.quoted missing)
  let missingMandatory := Typed.difference (mandatoryEffectEvidence rule.effect) kinds
  Py.require (missingMandatory = []) .aspTransitionError
    ("transition is missing effect-required evidence: " ++ Typed.quoted missingMandatory)

-- `except TransitionPolicyError as exc: raise AspTransitionError(str(exc)) from exc`
def matchRuleForTransition (policy : TransitionPolicy) (currentState : PortfolioLifecycleState)
    (event : String) : Py TransitionRule :=
  (matchTransitionRule policy currentState event).mapError fun e => ⟨.aspTransitionError, e.message⟩

@[ext]
structure TransitionAuthorityGrant where
  policyDigest      : String
  ruleDigest        : String
  authorityBoundary : String
  authorityRef      : String
  authorityDigest   : String
  schemaVersion     : String := "ge.transition-authority-grant.v1"
  version           : schemaVersion = "ge.transition-authority-grant.v1"
  bound             : ∀ x ∈ [("policy_digest", policyDigest), ("rule_digest", ruleDigest)], IsSha256 x.2
  nonempty :
    ∀ x ∈ [("authority_boundary", authorityBoundary), ("authority_ref", authorityRef)],
      ¬Text.Blank x.2
  isSha256 : ∀ x ∈ [("authority_digest", authorityDigest)], IsSha256 x.2

instance : DecidableEq TransitionAuthorityGrant :=
  fun _ _ => decidable_of_iff _ TransitionAuthorityGrant.ext_iff.symm

namespace TransitionAuthorityGrant

def new (policyDigest ruleDigest authorityBoundary authorityRef authorityDigest
    schemaVersion : String) : Py TransitionAuthorityGrant := do
  let ⟨h₁⟩ ← Py.check (schemaVersion = "ge.transition-authority-grant.v1") .aspTransitionError
    "unsupported transition authority schema"
  let ⟨h₂⟩ ← Guard.sha256 .aspTransitionError
    [("policy_digest", policyDigest), ("rule_digest", ruleDigest)]
  let ⟨h₃⟩ ← Guard.nonempty .aspTransitionError
    [("authority_boundary", authorityBoundary), ("authority_ref", authorityRef)]
  let ⟨h₄⟩ ← Guard.sha256 .aspTransitionError [("authority_digest", authorityDigest)]
  return {
    policyDigest, ruleDigest, authorityBoundary, authorityRef, authorityDigest, schemaVersion,
    version := h₁, bound := h₂, nonempty := h₃, isSha256 := h₄ }

instance : AsDict TransitionAuthorityGrant where
  asdict g := [
    ("policy_digest", toPy g.policyDigest),
    ("rule_digest", toPy g.ruleDigest),
    ("authority_boundary", toPy g.authorityBoundary),
    ("authority_ref", toPy g.authorityRef),
    ("authority_digest", toPy g.authorityDigest),
    ("schema_version", toPy g.schemaVersion)]

end TransitionAuthorityGrant

-- The order of tuples of strings.
def identityLe (a b : String × String × String) : Bool :=
  a.1 < b.1 ∨ a.1 = b.1 ∧ (a.2.1 < b.2.1 ∨ a.2.1 = b.2.1 ∧ a.2.2 ≤ b.2.2)

@[ext]
structure PassiveWakeAdmission where
  portfolioId          : String
  portfolioGeneration  : Nat
  portfolioStateDigest : String
  workId               : String
  wakeConditionDigest  : String
  policyDigest         : String
  ruleDigest           : String
  evidence             : List CheckpointEvidence
  nextActionRef        : String
  authorityGrant       : Option TransitionAuthorityGrant
  schemaVersion        : String := "ge.passive-wake-admission.v1"
  version              : schemaVersion = "ge.passive-wake-admission.v1"
  nonempty :
    ∀ x ∈ [("portfolio_id", portfolioId), ("work_id", workId), ("next_action_ref", nextActionRef)],
      ¬Text.Blank x.2
  isSha256 :
    ∀ x ∈ [("portfolio_state_digest", portfolioStateDigest),
      ("wake_condition_digest", wakeConditionDigest), ("policy_digest", policyDigest),
      ("rule_digest", ruleDigest)], IsSha256 x.2
  evident  : evidence ≠ []
  sorted   : (evidence.map CheckpointEvidence.identity).Pairwise fun a b => identityLe a b
  distinct : (evidence.map CheckpointEvidence.identity).Nodup

instance : DecidableEq PassiveWakeAdmission :=
  fun _ _ => decidable_of_iff _ PassiveWakeAdmission.ext_iff.symm

namespace PassiveWakeAdmission

def new (portfolioId : String) (portfolioGeneration : Nat)
    (portfolioStateDigest workId wakeConditionDigest policyDigest ruleDigest : String)
    (evidence : List CheckpointEvidence) (nextActionRef : String)
    (authorityGrant : Option TransitionAuthorityGrant) (schemaVersion : String) :
    Py PassiveWakeAdmission := do
  let ⟨h₁⟩ ← Py.check (schemaVersion = "ge.passive-wake-admission.v1") .aspTransitionError
    "unsupported passive wake admission schema"
  let ⟨h₂⟩ ← Guard.nonempty .aspTransitionError
    [("portfolio_id", portfolioId), ("work_id", workId), ("next_action_ref", nextActionRef)]
  let ⟨h₃⟩ ← Guard.sha256 .aspTransitionError
    [("portfolio_state_digest", portfolioStateDigest),
      ("wake_condition_digest", wakeConditionDigest), ("policy_digest", policyDigest),
      ("rule_digest", ruleDigest)]
  let ⟨h₄⟩ ← Py.check (evidence ≠ []) .aspTransitionError
    "wake admission requires admitted evidence"
  let ⟨h₅⟩ ← Py.check
    ((evidence.map CheckpointEvidence.identity).Pairwise fun a b => identityLe a b)
    .aspTransitionError "wake admission evidence must be canonical-sorted"
  let ⟨h₆⟩ ← Py.check (evidence.map CheckpointEvidence.identity).Nodup .aspTransitionError
    "wake admission evidence must be unique"
  return {
    portfolioId, portfolioGeneration, portfolioStateDigest, workId, wakeConditionDigest,
    policyDigest, ruleDigest, evidence, nextActionRef, authorityGrant, schemaVersion, version := h₁,
    nonempty := h₂, isSha256 := h₃, evident := h₄, sorted := h₅, distinct := h₆ }

instance : AsDict PassiveWakeAdmission where
  asdict a := [
    ("portfolio_id", toPy a.portfolioId),
    ("portfolio_generation", toPy a.portfolioGeneration),
    ("portfolio_state_digest", toPy a.portfolioStateDigest),
    ("work_id", toPy a.workId),
    ("wake_condition_digest", toPy a.wakeConditionDigest),
    ("policy_digest", toPy a.policyDigest),
    ("rule_digest", toPy a.ruleDigest),
    ("evidence", toPy a.evidence),
    ("next_action_ref", toPy a.nextActionRef),
    ("authority_grant", toPy a.authorityGrant),
    ("schema_version", toPy a.schemaVersion)]

end PassiveWakeAdmission

variable [Sha256]

def TransitionAuthorityGrant.digest (g : TransitionAuthorityGrant) : String :=
  sha256Digest (toPy g)

def PassiveWakeAdmission.digest (a : PassiveWakeAdmission) : String :=
  sha256Digest (toPy a)

-- `new_state` follows the state with `previous_state_digest`, and the checkpoint binds it.
structure BindsState (previousStateDigest : String) (newState : PortfolioState)
    (checkpoint : ExecutionCheckpoint) : Prop where
  previous    : newState.previousStateDigest = some previousStateDigest
  portfolioId : checkpoint.portfolioId = newState.portfolioId
  generation  : checkpoint.portfolioGeneration = newState.generation
  stateDigest : checkpoint.portfolioStateDigest = newState.digest

@[ext]
structure PortfolioTransitionResult where
  previousStateDigest        : String
  policyDigest               : String
  ruleDigest                 : String
  effect                     : TransitionEffect
  newState                   : PortfolioState
  checkpoint                 : ExecutionCheckpoint
  replacementSecondaryWorkId : Option String
  authorityGrantDigest       : Option String
  wakeAdmissionDigest        : Option String
  schemaVersion              : String := "ge.portfolio-transition-result.v1"
  isSha256 :
    ∀ x ∈ [("previous_state_digest", previousStateDigest), ("policy_digest", policyDigest),
      ("rule_digest", ruleDigest)], IsSha256 x.2
  optional :
    ∀ x ∈ [("replacement_secondary_work_id", replacementSecondaryWorkId)], Guard.NoneBlank x.2
  digests :
    ∀ x ∈ [("authority_grant_digest", authorityGrantDigest),
      ("wake_admission_digest", wakeAdmissionDigest)], Guard.OptionalSha256 x.2
  supported : effect ≠ .wakePassive
  rotating :
    if effect.IsRotating then replacementSecondaryWorkId.isSome ∧ wakeAdmissionDigest.isSome
    else replacementSecondaryWorkId.isNone ∧ wakeAdmissionDigest.isNone
  binds : BindsState previousStateDigest newState checkpoint

namespace PortfolioTransitionResult

def new (previousStateDigest policyDigest ruleDigest : String) (effect : TransitionEffect)
    (newState : PortfolioState) (checkpoint : ExecutionCheckpoint)
    (replacementSecondaryWorkId authorityGrantDigest wakeAdmissionDigest : Option String) :
    Py PortfolioTransitionResult := do
  let ⟨h₁⟩ ← Guard.sha256 .aspTransitionError
    [("previous_state_digest", previousStateDigest), ("policy_digest", policyDigest),
      ("rule_digest", ruleDigest)]
  let ⟨h₂⟩ ← Guard.optionalNonempty .aspTransitionError
    [("replacement_secondary_work_id", replacementSecondaryWorkId)]
  let ⟨h₃⟩ ← Guard.optionalSha256 .aspTransitionError
    [("authority_grant_digest", authorityGrantDigest),
      ("wake_admission_digest", wakeAdmissionDigest)]
  let ⟨h₄⟩ ← Py.check (effect ≠ .wakePassive) .aspTransitionError
    "unsupported transition result effect"
  let ⟨h₅⟩ ← Py.check
    (if effect.IsRotating then replacementSecondaryWorkId.isSome ∧ wakeAdmissionDigest.isSome
      else replacementSecondaryWorkId.isNone ∧ wakeAdmissionDigest.isNone) .aspTransitionError <|
    if effect.IsRotating then
      "rotating result requires replacement Secondary and wake admission"
    else "non-rotating result cannot carry replacement Secondary or wake admission"
  let ⟨h₆⟩ ← Py.check (newState.previousStateDigest = some previousStateDigest) .aspTransitionError
    "transition result state predecessor does not match previous state"
  let ⟨h₇⟩ ← Py.check
    (checkpoint.portfolioId = newState.portfolioId ∧
      checkpoint.portfolioGeneration = newState.generation ∧
      checkpoint.portfolioStateDigest = newState.digest) .aspTransitionError
    "transition result checkpoint does not bind new state"
  return {
    previousStateDigest, policyDigest, ruleDigest, effect, newState, checkpoint,
    replacementSecondaryWorkId, authorityGrantDigest, wakeAdmissionDigest, isSha256 := h₁,
    optional := h₂, digests := h₃, supported := h₄, rotating := h₅,
    binds := ⟨h₆, h₇.left, h₇.right.left, h₇.right.right⟩ }

instance : AsDict PortfolioTransitionResult where
  asdict r := [
    ("previous_state_digest", toPy r.previousStateDigest),
    ("policy_digest", toPy r.policyDigest),
    ("rule_digest", toPy r.ruleDigest),
    ("effect", toPy r.effect),
    ("new_state", toPy r.newState),
    ("checkpoint", toPy r.checkpoint),
    ("replacement_secondary_work_id", toPy r.replacementSecondaryWorkId),
    ("authority_grant_digest", toPy r.authorityGrantDigest),
    ("wake_admission_digest", toPy r.wakeAdmissionDigest),
    ("schema_version", toPy r.schemaVersion)]

def digest (r : PortfolioTransitionResult) : String :=
  sha256Digest (toPy r)

end PortfolioTransitionResult

def verifyAuthority (policy : TransitionPolicy) (rule : TransitionRule)
    (grant : Option TransitionAuthorityGrant) : Py (Option String) :=
  match rule.authorityMode, grant with
  | .none, none          => return none
  | .none, some _        =>
    Py.raise .aspTransitionError "ordinary transition cannot consume an authority grant"
  | .humanRequired, none => return none
  | .humanRequired, some _ =>
    Py.raise .aspTransitionError "human-required transition stops before authority is granted"
  | .preauthorizedRequired, none =>
    Py.raise .aspTransitionError "preauthorized transition requires bounded authority grant"
  | .preauthorizedRequired, some grant => do
    Py.require
      (grant.policyDigest = policy.digest ∧ grant.ruleDigest = rule.digest ∧
        some grant.authorityBoundary = rule.authorityBoundary) .aspTransitionError
      "transition authority grant does not bind policy/rule boundary"
    return some grant.digest

def findPassive (state : PortfolioState) (workId : String) : Py PortfolioEntry :=
  match state.passive.filter fun item => item.workId = workId with
  | [item] => return item
  | _      => Py.raise .aspTransitionError "passive work item is not uniquely present"

def sortedEntries (entries : List PortfolioEntry) : List PortfolioEntry :=
  entries.mergeSort fun a b => a.workId ≤ b.workId

def secondaryFromWake (state : PortfolioState) (policy : TransitionPolicy)
    (admission : PassiveWakeAdmission) : Py (PortfolioEntry × List PortfolioEntry) := do
  Py.require
    (admission.portfolioId = state.portfolioId ∧
      admission.portfolioGeneration = state.generation ∧
      admission.portfolioStateDigest = state.digest ∧
      admission.policyDigest = policy.digest) .aspTransitionError
    "wake admission is stale or belongs to another portfolio"
  let item ← findPassive state admission.workId
  let wakeCondition ← Py.ofOption .aspTransitionError "wake admission target has no wake condition"
    item.wakeCondition
  Py.require (wakeCondition.digest = admission.wakeConditionDigest) .aspTransitionError
    "wake admission does not bind current wake condition"
  let wakeRule ← matchRuleForTransition policy .passive "wake_satisfied"
  Py.require
    (wakeRule.effect = .wakePassive ∧ wakeRule.digest = admission.ruleDigest ∧
      wakeRule.nextActionRef = admission.nextActionRef) .aspTransitionError
    "wake admission does not bind current wake rule"
  verifyEvidence wakeRule admission.evidence
  let _ ← verifyAuthority policy wakeRule admission.authorityGrant
  let replacement ← item.replace .secondary .ready wakeRule.nextActionRef none none [] none
  let remaining := sortedEntries <| state.passive.filter fun entry => entry.workId ≠ item.workId
  return (replacement, remaining)

def replacementSecondary (state : PortfolioState) (policy : TransitionPolicy)
    (replacement : Option PortfolioEntry) (wakeAdmission : Option PassiveWakeAdmission) :
    Py (PortfolioEntry × List PortfolioEntry × String) := do
  Py.require replacement.isNone .aspTransitionError
    "external replacement selection is not authorized by core ASP engine"
  let wakeAdmission ← Py.ofOption .aspTransitionError
    "rotating transition requires a valid passive wake admission" wakeAdmission
  let (item, remaining) ← secondaryFromWake state policy wakeAdmission
  return (item, remaining, wakeAdmission.digest)

def promotedActive (entry : PortfolioEntry) : Py PortfolioEntry :=
  entry.replace .active .ready entry.nextActionRef none none [] none

def parkedActive (entry : PortfolioEntry) (rule : TransitionRule) : Py PortfolioEntry := do
  Py.require (entry.state = .waitingExternal) .aspTransitionError
    "park_active requires current Active state=waiting_external"
  Py.require (entry.blockers ≠ [] ∧ entry.wakeCondition.isSome) .aspTransitionError
    "park_active requires blocker and explicit wake condition"
  entry.replace .passive .passive rule.nextActionRef none none entry.blockers entry.wakeCondition

def authorityStoppedActive (entry : PortfolioEntry) (rule : TransitionRule)
    (evidence : List CheckpointEvidence) : Py PortfolioEntry := do
  let boundary ← Py.ofOption .aspTransitionError "human-gate rule has no authority boundary"
    rule.authorityBoundary
  let evidenceRefs := (evidence.map CheckpointEvidence.locator).dedup.mergeSort
  let blocker ← PortfolioBlocker.new "authority" boundary evidenceRefs "ge.portfolio-blocker.v1"
  entry.replace entry.role .humanGate rule.nextActionRef (some boundary) none [blocker] none

-- The Active entry after a rule that neither rotates nor stops it.
def continuedActive (entry : PortfolioEntry) (rule : TransitionRule)
    (authorityGrant : Option TransitionAuthorityGrant) : Py PortfolioEntry :=
  .wrap [.valueError] .aspTransitionError
      "transition target is incompatible with current Active metadata" <|
    if entry.state = .humanGate then do
      let grant ← Py.ofOption .aspTransitionError
        "leaving human_gate requires bounded authority grant" authorityGrant
      entry.replace entry.role rule.toState rule.nextActionRef none (some grant.authorityRef) [] none
    else if entry.state = .waitingExternal ∧ rule.toState ≠ .waitingExternal then
      entry.replace entry.role rule.toState rule.nextActionRef entry.authorityBoundary
        entry.authorityRef [] none
    else
      entry.replace entry.role rule.toState rule.nextActionRef entry.authorityBoundary
        entry.authorityRef entry.blockers entry.wakeCondition

-- A promoted Active leaves the portfolio, a parked one joins the passive entries.
def rotatedPassive (state : PortfolioState) (rule : TransitionRule)
    (passiveEntries : List PortfolioEntry) : Py (List PortfolioEntry) := do
  if rule.effect = .promoteSecondary then
    return passiveEntries
  else
    return sortedEntries (passiveEntries ++ [← parkedActive state.active rule])

-- The three slots that a transition produces, and what it reports of the replaced Secondary.
structure TransitionSlots where
  active              : PortfolioEntry
  secondary           : PortfolioEntry
  passive             : List PortfolioEntry
  replacementWorkId   : Option String
  wakeAdmissionDigest : Option String

def transitionSlots (state : PortfolioState) (policy : TransitionPolicy) (rule : TransitionRule)
    (evidence : List CheckpointEvidence) (replacement : Option PortfolioEntry)
    (wakeAdmission : Option PassiveWakeAdmission)
    (authorityGrant : Option TransitionAuthorityGrant) : Py TransitionSlots := do
  if rule.effect.IsRotating then
    let (replacement, passiveEntries, wakeDigest) ←
      replacementSecondary state policy replacement wakeAdmission
    let active ← promotedActive state.secondary
    let passive ← rotatedPassive state rule passiveEntries
    return ⟨active, replacement, passive, some replacement.workId, some wakeDigest⟩
  else
    Py.require (replacement.isNone ∧ wakeAdmission.isNone) .aspTransitionError
      "non-rotating transition cannot consume a replacement secondary"
    let active ←
      if rule.effect = .stopHumanGate then authorityStoppedActive state.active rule evidence
      else continuedActive state.active rule authorityGrant
    return ⟨active, state.secondary, state.passive, none, none⟩

-- The references of the checkpoint: those of the caller, then those of the engine.
def transitionRefs (policy : TransitionPolicy) (rule : TransitionRule)
    (canonicalRefs : List String) (authorityGrant : Option TransitionAuthorityGrant) : List String :=
  (canonicalRefs ++ ["policy:" ++ policy.digest, "rule:" ++ rule.digest] ++
    (authorityGrant.map TransitionAuthorityGrant.authorityRef).toList).eraseDups

def transitionCheckpoint (state newState : PortfolioState) (policy : TransitionPolicy)
    (rule : TransitionRule) (evidence : List CheckpointEvidence)
    (actionRef observedAt summary : String) (canonicalRefs uncertainties : List String)
    (authorityGrant : Option TransitionAuthorityGrant) : Py ExecutionCheckpoint :=
  let authorityStop := decide (rule.authorityMode = .humanRequired)
  let nextTransitionRefs :=
    if authorityStop ∨ rule.toState = .complete ∨ rule.toState = .failed then []
    else [rule.nextActionRef]
  ExecutionCheckpoint.new newState.portfolioId newState.generation newState.digest
    state.active.workId "active" (PyLiteral.spelling state.active.state)
    (PyLiteral.spelling rule.toState) actionRef state.active.sourceRevision observedAt summary
    evidence (transitionRefs policy rule canonicalRefs authorityGrant) uncertainties
    nextTransitionRefs authorityStop (if authorityStop then rule.authorityBoundary else none)
    "ge.execution-checkpoint.v1"

def applyActiveTransition (state : PortfolioState) (policy : TransitionPolicy) (event : String)
    (evidence : List CheckpointEvidence) (actionRef observedAt summary : String)
    (canonicalRefs uncertainties : List String) (replacement : Option PortfolioEntry)
    (wakeAdmission : Option PassiveWakeAdmission)
    (authorityGrant : Option TransitionAuthorityGrant) : Py PortfolioTransitionResult := do
  let _ ← Guard.nonempty .aspTransitionError
    [("action_ref", actionRef), ("observed_at", observedAt), ("summary", summary)]
  Py.require (canonicalRefs ≠ []) .aspTransitionError "transition requires canonical_refs"
  let rule ← matchRuleForTransition policy state.active.state event
  Py.require (rule.effect ≠ .wakePassive) .aspTransitionError
    "wake_passive is admitted separately and cannot target Active"
  verifyEvidence rule evidence
  let authorityGrantDigest ← verifyAuthority policy rule authorityGrant
  let slots ← transitionSlots state policy rule evidence replacement wakeAdmission authorityGrant
  let newState ← PortfolioState.new state.portfolioId (state.generation + 1) slots.active
    slots.secondary (sortedEntries slots.passive) (some state.digest) "ge.portfolio-state.v1"
  let checkpoint ← transitionCheckpoint state newState policy rule evidence actionRef observedAt
    summary canonicalRefs uncertainties authorityGrant
  PortfolioTransitionResult.new state.digest policy.digest rule.digest rule.effect newState
    checkpoint slots.replacementWorkId authorityGrantDigest slots.wakeAdmissionDigest

end GeneralExecution
