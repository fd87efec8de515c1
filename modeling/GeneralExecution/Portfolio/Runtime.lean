import GeneralExecution.Portfolio.HumanGate
import GeneralExecution.Portfolio.Trigger

namespace GeneralExecution

namespace PersistentRuntime

def exact (label : String) (expected : List String) (data : Json) : Py Unit :=
  Typed.exactFields .persistentRuntimeError label expected data

-- `_authority_grant`
def authorityGrant : Json → Py (Option TransitionAuthorityGrant)
  | .null => return none
  | data  => do
    exact "authority_grant"
      ["policy_digest", "rule_digest", "authority_boundary", "authority_ref", "authority_digest",
        "schema_version"] data
    return some (← TransitionAuthorityGrant.new
      (← Field.get (Typed.sha256 .aspTransitionError "policy_digest") data "policy_digest")
      (← Field.get (Typed.sha256 .aspTransitionError "rule_digest") data "rule_digest")
      (← Field.get (Typed.nonempty .aspTransitionError "authority_boundary") data
        "authority_boundary")
      (← Field.get (Typed.nonempty .aspTransitionError "authority_ref") data "authority_ref")
      (← Field.get (Typed.sha256 .aspTransitionError "authority_digest") data "authority_digest")
      (← Field.get (Typed.string .aspTransitionError "unsupported transition authority schema") data
        "schema_version"))

-- `_checkpoint_evidence`
def checkpointEvidence (data : Json) : Py CheckpointEvidence := do
  exact "evidence" ["kind", "locator", "digest", "schema_version"] data
  evidenceOfFields data

-- `_wake_admission`
def wakeAdmission : Json → Py (Option PassiveWakeAdmission)
  | .null => return none
  | data  => do
    exact "wake_admission"
      ["portfolio_id", "portfolio_generation", "portfolio_state_digest", "work_id",
        "wake_condition_digest", "policy_digest", "rule_digest", "evidence", "next_action_ref",
        "authority_grant", "schema_version"] data
    return some (← PassiveWakeAdmission.new
      (← Field.get (Typed.nonempty .aspTransitionError "portfolio_id") data "portfolio_id")
      (← Field.get (Typed.nat .aspTransitionError "portfolio_generation") data
        "portfolio_generation")
      (← Field.get (Typed.sha256 .aspTransitionError "portfolio_state_digest") data
        "portfolio_state_digest")
      (← Field.get (Typed.nonempty .aspTransitionError "work_id") data "work_id")
      (← Field.get (Typed.sha256 .aspTransitionError "wake_condition_digest") data
        "wake_condition_digest")
      (← Field.get (Typed.sha256 .aspTransitionError "policy_digest") data "policy_digest")
      (← Field.get (Typed.sha256 .aspTransitionError "rule_digest") data "rule_digest")
      (← Field.get (Typed.list .persistentRuntimeError "wake_admission.evidence must be a list"
        checkpointEvidence) data "evidence")
      (← Field.get (Typed.nonempty .aspTransitionError "next_action_ref") data "next_action_ref")
      (← Field.get authorityGrant data "authority_grant")
      (← Field.get (Typed.string .aspTransitionError "unsupported passive wake admission schema")
        data "schema_version"))

-- `_observation`
def observation (data : Json) : Py ResumeTickObservation := do
  exact "observation"
    ["portfolio_id", "expected_generation", "expected_state_digest", "policy_digest", "event",
      "evidence", "action_ref", "observed_at", "summary", "canonical_refs", "uncertainties",
      "wake_admission", "authority_grant", "schema_version"] data
  let texts := fun name element =>
    Field.get (Typed.list .persistentRuntimeError ("observation." ++ name ++ " must be a list")
      (Typed.string .resumeTickError (name ++ element))) data name
  ResumeTickObservation.new
    (← Field.get (Typed.nonempty .resumeTickError "portfolio_id") data "portfolio_id")
    (← Field.get (Typed.nat .resumeTickError "expected_generation") data "expected_generation")
    (← Field.get (Typed.sha256 .resumeTickError "expected_state_digest") data
      "expected_state_digest")
    (← Field.get (Typed.sha256 .resumeTickError "policy_digest") data "policy_digest")
    (← Field.get (Typed.nonempty .resumeTickError "event") data "event")
    (← Field.get (Typed.list .persistentRuntimeError "observation.evidence must be a list"
      checkpointEvidence) data "evidence")
    (← Field.get (Typed.nonempty .resumeTickError "action_ref") data "action_ref")
    (← Field.get (Typed.nonempty .resumeTickError "observed_at") data "observed_at")
    (← Field.get (Typed.nonempty .resumeTickError "summary") data "summary")
    (← texts "canonical_refs" " must contain non-empty strings")
    (← texts "uncertainties" " must contain non-empty strings")
    (← Field.get wakeAdmission data "wake_admission")
    (← Field.get authorityGrant data "authority_grant")
    (← Field.get (Typed.string .resumeTickError "unsupported resume tick observation schema") data
      "schema_version")

-- `_trigger`
def trigger (data : Json) : Py ExternalTriggerEvidence := do
  exact "trigger"
    ["source", "event_id", "event_kind", "payload_digest", "observation_digest", "admission_ref"]
    data
  let text := fun name =>
    Field.get (Typed.string .triggerAdmissionError "missing trigger provenance") data name
  let digest := fun name =>
    Field.get (Typed.string .triggerAdmissionError "invalid digest") data name
  ExternalTriggerEvidence.new (← text "source") (← text "event_id") (← text "event_kind")
    (← digest "payload_digest") (← digest "observation_digest") (← text "admission_ref")

-- `_contract`
def contract (data : Json) : Py TriggerContract := do
  exact "contract" ["source", "event_kind", "portfolio_id", "policy_digest", "transition_event"]
    data
  let text := fun name =>
    Field.get (Typed.string .triggerAdmissionError "incomplete trigger contract") data name
  TriggerContract.new (← text "source") (← text "event_kind") (← text "portfolio_id")
    (← Field.get (Typed.string .triggerAdmissionError "invalid digest") data "policy_digest")
    (← text "transition_event")

end PersistentRuntime

structure PersistentRuntimeEventReport where
  eventId            : String
  operation          : String
  status             : String
  portfolioId        : String
  preGeneration      : Nat
  postGeneration     : Nat
  preStateDigest     : String
  postStateDigest    : String
  checkpointDigest   : Option String
  humanRequired      : Bool
  requestedActionRef : Option String

-- `__post_init__`
def PersistentRuntimeEventReport.checked (r : PersistentRuntimeEventReport) :
    Py PersistentRuntimeEventReport := do
  let _ ← Guard.nonempty .persistentRuntimeError
    [("event_id", r.eventId), ("portfolio_id", r.portfolioId)]
  Py.require (r.operation ∈ ["bootstrap", "transition"]) .persistentRuntimeError
    "unsupported persistent operation"
  let _ ← Guard.nonempty .persistentRuntimeError [("status", r.status)]
  let _ ← Guard.each .persistentRuntimeError ("sha256:".toList <+: ·.toList)
    (fun name _ => name ++ " must be a digest")
    [("pre_state_digest", r.preStateDigest), ("post_state_digest", r.postStateDigest)]
  return r

-- The inputs of a transition that do not come with the event.
structure TransitionGates where
  authenticatedTriggerDigest : String
  coreRequirement            : CoreVerificationRequirement
  coreVerification           : CoreVerificationReceipt
  coreReport                 : CoreRehearsalReport

-- What the body of a transition event holds.
structure TransitionBody where
  policy      : TransitionPolicy
  contract    : TriggerContract
  trigger     : ExternalTriggerEvidence
  observation : ResumeTickObservation

namespace PersistentRuntime

def transitionBody (eventId : String) (data : Json) : Py TransitionBody := do
  exact "transition body" ["policy", "contract", "trigger", "observation"] data
  let policy ← Field.get transitionPolicyFromDict data "policy"
  let contract ← Field.get contract data "contract"
  let trigger ← Field.get trigger data "trigger"
  let observation ← Field.get observation data "observation"
  Py.require (trigger.eventId = eventId) .persistentRuntimeError "event_id does not bind trigger"
  Py.require observation.authorityGrant.isNone .persistentRuntimeError
    "persistent transport cannot carry transition authority"
  return { policy, contract, trigger, observation }

def bootstrapBody (data : Json) : Py PortfolioState := do
  exact "bootstrap body" ["portfolio"] data
  let state ← Field.get portfolioStateFromDict data "portfolio"
  Py.require (state.generation = 0 ∧ state.previousStateDigest.isNone) .persistentRuntimeError
    "bootstrap requires a generation-zero portfolio"
  return state

-- The id, the operation and the body of an event.
def envelope (payload : Json) : Py (String × String × Json) := do
  exact "persistent event" ["schema_version", "event_id", "operation", "body"] payload
  Py.require (Field.hasSchema payload "ge.persistent-runtime-event.v1") .persistentRuntimeError
    "unsupported persistent event schema"
  let eventId ← Field.get (Typed.nonempty .persistentRuntimeError "event_id") payload "event_id"
  let _ ← Guard.nonempty .persistentRuntimeError [("event_id", eventId)]
  let operation ← Field.get
    (Typed.string .persistentRuntimeError "unsupported persistent operation") payload "operation"
  Py.require (operation ∈ ["bootstrap", "transition"]) .persistentRuntimeError
    "unsupported persistent operation"
  return (eventId, operation, ← Field.get pure payload "body")

end PersistentRuntime

variable [Sha256]

def bootstrapEvent (eventId : String) (state : PortfolioState) :
    PortfolioCall PersistentRuntimeEventReport := do
  let head ← PortfolioHeadStore.initializePortfolio state
  let (recovered, checkpoint, _) ← recoverPortfolioAfterRestart state.portfolioId
  Py.require checkpoint.isNone .persistentRuntimeError "bootstrap cannot fabricate a checkpoint"
  PersistentRuntimeEventReport.checked {
    eventId            := eventId
    operation          := "bootstrap"
    status             := "bootstrapped"
    portfolioId        := recovered.portfolioId
    preGeneration      := 0
    postGeneration     := head.generation
    preStateDigest     := recovered.digest
    postStateDigest    := recovered.digest
    checkpointDigest   := none
    humanRequired      := recovered.active.state = .humanGate
    requestedActionRef := some recovered.active.nextActionRef }

def transitionEvent (eventId : String) (body : TransitionBody) (gates : TransitionGates) :
    PortfolioCall PersistentRuntimeEventReport := do
  let (before, _, _) ← recoverPortfolioAfterRestart body.contract.portfolioId
  let result ← consumeExternalTrigger body.contract body.trigger body.observation body.policy
    gates.authenticatedTriggerDigest gates.coreRequirement gates.coreVerification gates.coreReport
  let (after, checkpoint, _) ← recoverPortfolioAfterRestart body.contract.portfolioId
  let authorityStop := checkpoint.any ExecutionCheckpoint.authorityStop
  let humanRequired :=
    result.humanRequired || authorityStop || after.active.state = .humanGate
  let requestedActionRef :=
    if Text.Truthy result.requestedActionRef then result.requestedActionRef
    else if humanRequired then some after.active.nextActionRef
    else none
  PersistentRuntimeEventReport.checked {
    eventId            := eventId
    operation          := "transition"
    status             := PyLiteral.spelling result.disposition
    portfolioId        := after.portfolioId
    preGeneration      := before.generation
    postGeneration     := after.generation
    preStateDigest     := before.digest
    postStateDigest    := after.digest
    checkpointDigest   := checkpoint.map ExecutionCheckpoint.digest
    humanRequired      := humanRequired
    requestedActionRef := requestedActionRef }

def processPersistentRuntimeEvent (payload : Json) (authenticatedTriggerDigest : Option String)
    (coreRequirement : Option CoreVerificationRequirement)
    (coreVerification : Option CoreVerificationReceipt) (coreReport : Option CoreRehearsalReport) :
    PortfolioCall PersistentRuntimeEventReport := do
  let (eventId, operation, body) ← (PersistentRuntime.envelope payload : Py _)
  if operation = "bootstrap" then
    Py.require authenticatedTriggerDigest.isNone .persistentRuntimeError
      "bootstrap cannot carry trigger admission"
    bootstrapEvent eventId (← (PersistentRuntime.bootstrapBody body : Py _))
  else
    PersistentRuntime.exact "transition body" ["policy", "contract", "trigger", "observation"] body
    match authenticatedTriggerDigest, coreRequirement, coreVerification, coreReport with
    | some digest, some requirement, some verification, some report =>
      transitionEvent eventId (← (PersistentRuntime.transitionBody eventId body : Py _))
        ⟨digest, requirement, verification, report⟩
    | _, _, _, _ =>
      throw ⟨.persistentRuntimeError,
        "transition requires authenticated trigger and canonical verification gates"⟩

end GeneralExecution
