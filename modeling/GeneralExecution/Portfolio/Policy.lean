import GeneralExecution.Portfolio.State

namespace GeneralExecution

inductive TransitionEvent
  | executionStarted
  | executionCompleted
  | verificationPassed
  | verificationFailed
  | externalBlocker
  | diagnosisRequired
  | authorityRequired
  | wakeSatisfied
  | fatalFailure
deriving DecidableEq

instance : PyLiteral TransitionEvent where
  spelling
    | .executionStarted   => "execution_started"
    | .executionCompleted => "execution_completed"
    | .verificationPassed => "verification_passed"
    | .verificationFailed => "verification_failed"
    | .externalBlocker    => "external_blocker"
    | .diagnosisRequired  => "diagnosis_required"
    | .authorityRequired  => "authority_required"
    | .wakeSatisfied      => "wake_satisfied"
    | .fatalFailure       => "fatal_failure"
  values := [.executionStarted, .executionCompleted, .verificationPassed, .verificationFailed,
    .externalBlocker, .diagnosisRequired, .authorityRequired, .wakeSatisfied, .fatalFailure]
  parse_spelling a := by cases a <;> rfl

inductive TransitionEffect
  | none
  | promoteSecondary
  | parkActive
  | wakePassive
  | requestDi
  | stopHumanGate
deriving DecidableEq

instance : PyLiteral TransitionEffect where
  spelling
    | .none             => "none"
    | .promoteSecondary => "promote_secondary"
    | .parkActive       => "park_active"
    | .wakePassive      => "wake_passive"
    | .requestDi        => "request_di"
    | .stopHumanGate    => "stop_human_gate"
  values := [.none, .promoteSecondary, .parkActive, .wakePassive, .requestDi, .stopHumanGate]
  parse_spelling a := by cases a <;> rfl

inductive AuthorityMode
  | none
  | preauthorizedRequired
  | humanRequired
deriving DecidableEq

instance : PyLiteral AuthorityMode where
  spelling
    | .none                  => "none"
    | .preauthorizedRequired => "preauthorized_required"
    | .humanRequired         => "human_required"
  values           := [.none, .preauthorizedRequired, .humanRequired]
  parse_spelling a := by cases a <;> rfl

-- Which rules fit together with an authority mode and an effect.
structure RuleOk (fromState : PortfolioLifecycleState) (event : TransitionEvent)
    (toState : PortfolioLifecycleState) (effect : TransitionEffect) (authorityMode : AuthorityMode)
    (authorityBoundary : Option String) : Prop where
  unbounded : authorityMode = .none → authorityBoundary.isNone
  bounded   : authorityMode ≠ .none → authorityBoundary.isSome
  human     : authorityMode = .humanRequired → toState = .humanGate ∧ effect = .stopHumanGate
  gate      : fromState = .humanGate → authorityMode = .preauthorizedRequired
  promote   : effect = .promoteSecondary → event = .verificationPassed ∧ toState = .complete
  park      : effect = .parkActive → event = .externalBlocker ∧ toState = .passive
  wake      : effect = .wakePassive → fromState = .passive ∧ event = .wakeSatisfied ∧ toState = .ready
  request   : effect = .requestDi → toState = .diRequired
  stop      : effect = .stopHumanGate → authorityMode = .humanRequired

section Rules

variable (fromState : PortfolioLifecycleState) (event : TransitionEvent)
variable (toState : PortfolioLifecycleState) (effect : TransitionEffect)
variable (authorityMode : AuthorityMode) (authorityBoundary : Option String)

instance : Decidable (RuleOk fromState event toState effect authorityMode authorityBoundary) :=
  decidable_of_iff
    ((authorityMode = .none → authorityBoundary.isNone) ∧
      (authorityMode ≠ .none → authorityBoundary.isSome) ∧
      (authorityMode = .humanRequired → toState = .humanGate ∧ effect = .stopHumanGate) ∧
      (fromState = .humanGate → authorityMode = .preauthorizedRequired) ∧
      (effect = .promoteSecondary → event = .verificationPassed ∧ toState = .complete) ∧
      (effect = .parkActive → event = .externalBlocker ∧ toState = .passive) ∧
      (effect = .wakePassive →
        fromState = .passive ∧ event = .wakeSatisfied ∧ toState = .ready) ∧
      (effect = .requestDi → toState = .diRequired) ∧
      (effect = .stopHumanGate → authorityMode = .humanRequired))
    ⟨fun ⟨h₁, h₂, h₃, h₄, h₅, h₆, h₇, h₈, h₉⟩ => ⟨h₁, h₂, h₃, h₄, h₅, h₆, h₇, h₈, h₉⟩,
      fun ⟨h₁, h₂, h₃, h₄, h₅, h₆, h₇, h₈, h₉⟩ => ⟨h₁, h₂, h₃, h₄, h₅, h₆, h₇, h₈, h₉⟩⟩

def ruleMessage : String :=
  if authorityMode = .none ∧ authorityBoundary.isSome then
    "authority_boundary requires an authority mode"
  else if authorityMode ≠ .none ∧ authorityBoundary.isNone then
    "authority mode requires authority_boundary"
  else if authorityMode = .humanRequired ∧ toState ≠ .humanGate then
    "human_required rule must transition to human_gate"
  else if authorityMode = .humanRequired ∧ effect ≠ .stopHumanGate then
    "human_required rule must use stop_human_gate effect"
  else if fromState = .humanGate ∧ authorityMode ≠ .preauthorizedRequired then
    "transitions from human_gate require preauthorized authority"
  else if effect = .promoteSecondary ∧ ¬(event = .verificationPassed ∧ toState = .complete) then
    "promote_secondary requires verification_passed -> complete"
  else if effect = .parkActive ∧ ¬(event = .externalBlocker ∧ toState = .passive) then
    "park_active requires external_blocker -> passive"
  else if effect = .wakePassive ∧ ¬(fromState = .passive ∧ event = .wakeSatisfied) then
    "wake_passive requires passive + wake_satisfied"
  else if effect = .wakePassive then "wake_passive must transition to ready"
  else if effect = .requestDi then "request_di must transition to di_required"
  else "stop_human_gate requires human_required authority mode"

end Rules

@[ext]
structure TransitionRule where
  ruleId            : String
  fromState         : PortfolioLifecycleState
  event             : TransitionEvent
  toState           : PortfolioLifecycleState
  nextActionRef     : String
  effect            : TransitionEffect
  requiredEvidence  : List String
  authorityMode     : AuthorityMode
  authorityBoundary : Option String
  schemaVersion     : String := "ge.transition-rule.v1"
  version           : schemaVersion = "ge.transition-rule.v1"
  nonempty          : ∀ x ∈ [("rule_id", ruleId), ("next_action_ref", nextActionRef)], ¬Text.Blank x.2
  unique            : ∀ x ∈ [("required_evidence", requiredEvidence)], Guard.UniqueNonempty x.2
  optional          : ∀ x ∈ [("authority_boundary", authorityBoundary)], Guard.NoneBlank x.2
  ruleOk            : RuleOk fromState event toState effect authorityMode authorityBoundary

instance : DecidableEq TransitionRule :=
  fun _ _ => decidable_of_iff _ TransitionRule.ext_iff.symm

namespace TransitionRule

def new (ruleId fromState event toState nextActionRef effect : String)
    (requiredEvidence : List String) (authorityMode : String) (authorityBoundary : Option String)
    (schemaVersion : String) : Py TransitionRule := do
  let ⟨h₁⟩ ← Py.check (schemaVersion = "ge.transition-rule.v1") .transitionPolicyError
    "unsupported transition rule schema"
  let ⟨h₂⟩ ← Guard.nonempty .transitionPolicyError
    [("rule_id", ruleId), ("next_action_ref", nextActionRef)]
  let fromState ← Py.ofOption .transitionPolicyError "unsupported transition state"
    (PyLiteral.parse? fromState)
  let toState ← Py.ofOption .transitionPolicyError "unsupported transition state"
    (PyLiteral.parse? toState)
  let event ← Py.ofOption .transitionPolicyError "unsupported transition event"
    (PyLiteral.parse? event)
  let effect ← Py.ofOption .transitionPolicyError "unsupported transition effect"
    (PyLiteral.parse? effect)
  let authorityMode ← Py.ofOption .transitionPolicyError "unsupported authority mode"
    (PyLiteral.parse? authorityMode)
  let ⟨h₃⟩ ← Guard.uniqueNonempty .transitionPolicyError [("required_evidence", requiredEvidence)]
  let ⟨h₄⟩ ← Guard.optionalNonempty .transitionPolicyError
    [("authority_boundary", authorityBoundary)]
  let ⟨h₅⟩ ← Py.check (RuleOk fromState event toState effect authorityMode authorityBoundary)
    .transitionPolicyError (ruleMessage fromState event toState effect authorityMode authorityBoundary)
  return {
    ruleId, fromState, event, toState, nextActionRef, effect, requiredEvidence, authorityMode,
    authorityBoundary, schemaVersion, version := h₁, nonempty := h₂, unique := h₃, optional := h₄,
    ruleOk := h₅ }

instance : AsDict TransitionRule where
  asdict r := [
    ("rule_id", toPy r.ruleId),
    ("from_state", toPy r.fromState),
    ("event", toPy r.event),
    ("to_state", toPy r.toState),
    ("next_action_ref", toPy r.nextActionRef),
    ("effect", toPy r.effect),
    ("required_evidence", toPy r.requiredEvidence),
    ("authority_mode", toPy r.authorityMode),
    ("authority_boundary", toPy r.authorityBoundary),
    ("schema_version", toPy r.schemaVersion)]

def matchKey (r : TransitionRule) : PortfolioLifecycleState × TransitionEvent :=
  (r.fromState, r.event)

end TransitionRule

@[ext]
structure TransitionPolicy where
  policyId           : String
  revision           : String
  rules              : List TransitionRule
  defaultDisposition : String := "stop"
  schemaVersion      : String := "ge.transition-policy.v1"
  version            : schemaVersion = "ge.transition-policy.v1"
  nonempty           : ∀ x ∈ [("policy_id", policyId), ("revision", revision)], ¬Text.Blank x.2
  stops              : defaultDisposition = "stop"
  hasRule            : rules ≠ []
  ruleIds            : (rules.map TransitionRule.ruleId).Nodup
  sorted             : (rules.map TransitionRule.ruleId).Pairwise (· ≤ ·)
  unambiguous        : (rules.map TransitionRule.matchKey).Nodup

instance : DecidableEq TransitionPolicy :=
  fun _ _ => decidable_of_iff _ TransitionPolicy.ext_iff.symm

namespace TransitionPolicy

def new (policyId revision : String) (rules : List TransitionRule)
    (defaultDisposition schemaVersion : String) : Py TransitionPolicy := do
  let ⟨h₁⟩ ← Py.check (schemaVersion = "ge.transition-policy.v1") .transitionPolicyError
    "unsupported transition policy schema"
  let ⟨h₂⟩ ← Guard.nonempty .transitionPolicyError
    [("policy_id", policyId), ("revision", revision)]
  let ⟨h₃⟩ ← Py.check (defaultDisposition = "stop") .transitionPolicyError
    "transition policy must fail closed with stop"
  let ⟨h₄⟩ ← Py.check (rules ≠ []) .transitionPolicyError
    "transition policy requires at least one rule"
  let ⟨h₅⟩ ← Py.check (rules.map TransitionRule.ruleId).Nodup .transitionPolicyError
    "transition rule_id values must be unique"
  let ⟨h₆⟩ ← Py.check ((rules.map TransitionRule.ruleId).Pairwise (· ≤ ·)) .transitionPolicyError
    "transition rules must be sorted by rule_id for canonical policy"
  let ⟨h₇⟩ ← Py.check (rules.map TransitionRule.matchKey).Nodup .transitionPolicyError
    "transition policy cannot contain ambiguous state/event matches"
  return {
    policyId, revision, rules, defaultDisposition, schemaVersion, version := h₁, nonempty := h₂,
    stops := h₃, hasRule := h₄, ruleIds := h₅, sorted := h₆, unambiguous := h₇ }

instance : AsDict TransitionPolicy where
  asdict p := [
    ("policy_id", toPy p.policyId),
    ("revision", toPy p.revision),
    ("rules", toPy p.rules),
    ("default_disposition", toPy p.defaultDisposition),
    ("schema_version", toPy p.schemaVersion)]

end TransitionPolicy

def ruleFromDict (data : Json) : Py TransitionRule := do
  Typed.exactFields .transitionPolicyError "transition rule"
    ["rule_id", "from_state", "event", "to_state", "next_action_ref", "effect", "required_evidence",
      "authority_mode", "authority_boundary", "schema_version"] data
  TransitionRule.new
    (← Field.get (Typed.nonempty .transitionPolicyError "rule_id") data "rule_id")
    (← Field.get (Typed.member .transitionPolicyError "unsupported transition state"
      "invalid transition rule") data "from_state")
    (← Field.get (Typed.member .transitionPolicyError "unsupported transition event"
      "invalid transition rule") data "event")
    (← Field.get (Typed.member .transitionPolicyError "unsupported transition state"
      "invalid transition rule") data "to_state")
    (← Field.get (Typed.nonempty .transitionPolicyError "next_action_ref") data "next_action_ref")
    (← Field.get (Typed.member .transitionPolicyError "unsupported transition effect"
      "invalid transition rule") data "effect")
    (← Field.get (Typed.strings .transitionPolicyError "required_evidence") data
      "required_evidence")
    (← Field.get (Typed.member .transitionPolicyError "unsupported authority mode"
      "invalid transition rule") data "authority_mode")
    (← Field.get (Read.opt <| Typed.nonempty .transitionPolicyError "authority_boundary") data
      "authority_boundary")
    (← Field.get (Typed.string .transitionPolicyError "unsupported transition rule schema") data
      "schema_version")

def transitionPolicyFromDict (data : Json) : Py TransitionPolicy := do
  Typed.exactFields .transitionPolicyError "transition policy"
    ["policy_id", "revision", "rules", "default_disposition", "schema_version"] data
  TransitionPolicy.new
    (← Field.get (Typed.nonempty .transitionPolicyError "policy_id") data "policy_id")
    (← Field.get (Typed.nonempty .transitionPolicyError "revision") data "revision")
    (← Field.get (Typed.list .transitionPolicyError "rules must be a list" ruleFromDict) data
      "rules")
    (← Field.get (Typed.string .transitionPolicyError
      "transition policy must fail closed with stop") data "default_disposition")
    (← Field.get (Typed.string .transitionPolicyError "unsupported transition policy schema") data
      "schema_version")

def serializeTransitionPolicy (policy : TransitionPolicy) : String :=
  canonicalJson (toPy policy)

def deserializeTransitionPolicy (payload : String) : Py TransitionPolicy := do
  let data ← Py.ofOption .transitionPolicyError "transition policy is not valid JSON" <|
    Json.loads payload
  transitionPolicyFromDict data

-- The current state is always one of the states; the event is the text of an observation.
def matchTransitionRule (policy : TransitionPolicy) (currentState : PortfolioLifecycleState)
    (event : String) : Py TransitionRule := do
  let event ← Py.ofOption .transitionPolicyError "unsupported transition event"
    (PyLiteral.parse? event)
  match policy.rules.filter fun rule => rule.fromState = currentState ∧ rule.event = event with
  | [rule] => return rule
  | _      =>
    Py.raise .transitionPolicyError "no unique admissible transition; default disposition is stop"

section Digests

variable [Sha256]

def TransitionRule.digest (r : TransitionRule) : String :=
  sha256Digest (toPy r)

def TransitionPolicy.digest (p : TransitionPolicy) : String :=
  sha256Digest (toPy p)

end Digests

end GeneralExecution
