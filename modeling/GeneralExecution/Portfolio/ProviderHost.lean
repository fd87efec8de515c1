import GeneralExecution.Portfolio.Trigger

namespace GeneralExecution

-- The order of pairs of strings.
def bindingLe (a b : String × String) : Prop :=
  a.1 < b.1 ∨ a.1 = b.1 ∧ a.2 ≤ b.2

instance (a b : String × String) : Decidable (bindingLe a b) :=
  inferInstanceAs <| Decidable (_ ∨ _)

-- Bindings are the members of a dictionary, sorted.
def SortedBindings (bindings : List (String × String)) : Prop :=
  bindings.Pairwise bindingLe ∧ (bindings.map Prod.fst).Nodup

instance : DecidablePred SortedBindings :=
  fun _ => inferInstanceAs <| Decidable (_ ∧ _)

def checkBindings (xs : List (String × List (String × String))) :
    Py (PLift (∀ x ∈ xs, SortedBindings x.2)) :=
  Guard.each .providerHostError SortedBindings
    (fun name bindings =>
      if bindings.Pairwise bindingLe then name ++ " keys must be unique"
      else name ++ " must be sorted") xs

-- `_digest`
def checkProviderDigests (xs : List (String × String)) :
    Py (PLift (∀ x ∈ xs, IsLowerSha256 x.2)) :=
  Guard.each .providerHostError IsLowerSha256 (fun name _ => name ++ " must be sha256:<64-hex>") xs

@[ext]
structure ProviderInput where
  watchId         : String
  provider        : String
  providerEventId : String
  subjectRef      : String
  observedState   : String
  observedAt      : String
  evidenceLocator : String
  evidenceDigest  : String
  bindings        : List (String × String)
  canonicalRefs   : List String
  schemaVersion   : String := "ge.provider-input.v1"
  nonempty :
    ∀ x ∈ [("watch_id", watchId), ("provider", provider), ("provider_event_id", providerEventId),
      ("subject_ref", subjectRef), ("observed_state", observedState), ("observed_at", observedAt),
      ("evidence_locator", evidenceLocator)], ¬Text.Blank x.2
  isSha256 : ∀ x ∈ [("evidence_digest", evidenceDigest)], IsLowerSha256 x.2
  sorted   : ∀ x ∈ [("bindings", bindings)], SortedBindings x.2
  bound :
    ∀ x ∈ bindings.flatMap fun b => [("binding key", b.1), ("binding " ++ b.1, b.2)],
      ¬Text.Blank x.2
  hasRefs    : canonicalRefs ≠ []
  sortedRefs : canonicalRefs.Pairwise (· ≤ ·)
  uniqueRefs : canonicalRefs.Nodup

namespace ProviderInput

def new (watchId provider providerEventId subjectRef observedState observedAt evidenceLocator
    evidenceDigest : String) (bindings : List (String × String)) (canonicalRefs : List String) :
    Py ProviderInput := do
  let ⟨h₁⟩ ← Guard.nonempty .providerHostError
    [("watch_id", watchId), ("provider", provider), ("provider_event_id", providerEventId),
      ("subject_ref", subjectRef), ("observed_state", observedState), ("observed_at", observedAt),
      ("evidence_locator", evidenceLocator)]
  let ⟨h₂⟩ ← checkProviderDigests [("evidence_digest", evidenceDigest)]
  let ⟨h₃⟩ ← checkBindings [("bindings", bindings)]
  let ⟨h₄⟩ ← Guard.nonempty .providerHostError <|
    bindings.flatMap fun b => [("binding key", b.1), ("binding " ++ b.1, b.2)]
  let ⟨h₅⟩ ← Py.check (canonicalRefs ≠ []) .providerHostError "canonical_refs cannot be empty"
  let ⟨h₆⟩ ← Py.check (canonicalRefs.Pairwise (· ≤ ·)) .providerHostError
    "canonical_refs must be sorted"
  let ⟨h₇⟩ ← Py.check canonicalRefs.Nodup .providerHostError "canonical_refs must be unique"
  return {
    watchId, provider, providerEventId, subjectRef, observedState, observedAt, evidenceLocator,
    evidenceDigest, bindings, canonicalRefs, nonempty := h₁, isSha256 := h₂, sorted := h₃,
    bound := h₄, hasRefs := h₅, sortedRefs := h₆, uniqueRefs := h₇ }

instance : AsDict ProviderInput where
  asdict i := [
    ("watch_id", toPy i.watchId),
    ("provider", toPy i.provider),
    ("provider_event_id", toPy i.providerEventId),
    ("subject_ref", toPy i.subjectRef),
    ("observed_state", toPy i.observedState),
    ("observed_at", toPy i.observedAt),
    ("evidence_locator", toPy i.evidenceLocator),
    ("evidence_digest", toPy i.evidenceDigest),
    ("bindings", toPy i.bindings),
    ("canonical_refs", toPy i.canonicalRefs),
    ("schema_version", toPy i.schemaVersion)]

end ProviderInput

-- A rule that a provider may trigger. The mode of a rule is one of three, and a rule that asks for
-- a human stops at the gate by its own check.
def TransitionRule.ProviderAllowed (rule : TransitionRule) : Prop :=
  rule.fromState ≠ .humanGate ∧ rule.authorityMode ≠ .preauthorizedRequired

instance : DecidablePred TransitionRule.ProviderAllowed :=
  fun _ => inferInstanceAs <| Decidable (_ ∧ _)

@[ext]
structure ProviderWatchContract where
  watchId          : String
  provider         : String
  subjectRef       : String
  satisfiedState   : String
  portfolioId      : String
  transitionEvent  : String
  evidenceKind     : String
  contractRef      : String
  requiredBindings : List (String × String)
  policy           : TransitionPolicy
  schemaVersion    : String := "ge.provider-watch-contract.v1"
  nonempty :
    ∀ x ∈ [("watch_id", watchId), ("provider", provider), ("subject_ref", subjectRef),
      ("satisfied_state", satisfiedState), ("portfolio_id", portfolioId),
      ("transition_event", transitionEvent), ("evidence_kind", evidenceKind),
      ("contract_ref", contractRef)], ¬Text.Blank x.2
  sorted  : ∀ x ∈ [("required_bindings", requiredBindings)], SortedBindings x.2
  matched : ∃ rule ∈ policy.rules, PyLiteral.spelling rule.event = transitionEvent
  allowed : ∀ rule ∈ policy.rules, rule.ProviderAllowed

namespace ProviderWatchContract

def new (watchId provider subjectRef satisfiedState portfolioId transitionEvent evidenceKind
    contractRef : String) (requiredBindings : List (String × String)) (policy : TransitionPolicy) :
    Py ProviderWatchContract := do
  let ⟨h₁⟩ ← Guard.nonempty .providerHostError
    [("watch_id", watchId), ("provider", provider), ("subject_ref", subjectRef),
      ("satisfied_state", satisfiedState), ("portfolio_id", portfolioId),
      ("transition_event", transitionEvent), ("evidence_kind", evidenceKind),
      ("contract_ref", contractRef)]
  let ⟨h₂⟩ ← checkBindings [("required_bindings", requiredBindings)]
  let ⟨h₃⟩ ← Py.check
    (∃ rule ∈ policy.rules, PyLiteral.spelling rule.event = transitionEvent) .providerHostError
    "contract transition_event is absent from policy"
  let ⟨h₄⟩ ← Py.check (∀ rule ∈ policy.rules, rule.ProviderAllowed) .providerHostError
    "provider host contracts cannot resume human-gated work"
  return {
    watchId, provider, subjectRef, satisfiedState, portfolioId, transitionEvent, evidenceKind,
    contractRef, requiredBindings, policy, nonempty := h₁, sorted := h₂, matched := h₃,
    allowed := h₄ }

instance : AsDict ProviderWatchContract where
  asdict c := [
    ("watch_id", toPy c.watchId),
    ("provider", toPy c.provider),
    ("subject_ref", toPy c.subjectRef),
    ("satisfied_state", toPy c.satisfiedState),
    ("portfolio_id", toPy c.portfolioId),
    ("transition_event", toPy c.transitionEvent),
    ("evidence_kind", toPy c.evidenceKind),
    ("contract_ref", toPy c.contractRef),
    ("required_bindings", toPy c.requiredBindings),
    ("policy", toPy c.policy),
    ("schema_version", toPy c.schemaVersion)]

-- The rules for the current state of the Active entry.
def rules (c : ProviderWatchContract) (state : PortfolioState) : List TransitionRule :=
  c.policy.rules.filter fun rule =>
    rule.fromState = state.active.state ∧ PyLiteral.spelling rule.event = c.transitionEvent

end ProviderWatchContract

inductive ProviderHostStatus
  | eventReady
  | conditionNotSatisfied
deriving DecidableEq

instance : PyLiteral ProviderHostStatus where
  spelling
    | .eventReady            => "event_ready"
    | .conditionNotSatisfied => "condition_not_satisfied"
  values           := [.eventReady, .conditionNotSatisfied]
  parse_spelling a := by cases a <;> rfl

-- What a result of each status names.
def EventIdentity (status : ProviderHostStatus) (eventId eventDigest : Option String) : Prop :=
  match status with
  | .eventReady            => Text.Present eventId ∧ eventDigest.any (IsLowerSha256 ·)
  | .conditionNotSatisfied => eventId = none ∧ eventDigest = none

instance (status : ProviderHostStatus) (eventId eventDigest : Option String) :
    Decidable (EventIdentity status eventId eventDigest) := by
  unfold EventIdentity
  cases status <;> infer_instance

def eventIdentityMessage (status : ProviderHostStatus) (eventId : Option String) : String :=
  match status with
  | .eventReady            =>
    if Text.Present eventId then "event_digest must be sha256:<64-hex>"
    else "event_id must be a non-empty string"
  | .conditionNotSatisfied => "condition_not_satisfied cannot carry event identity"

@[ext]
structure ProviderHostResult where
  status               : ProviderHostStatus
  providerInputDigest  : String
  contractDigest       : String
  portfolioId          : String
  portfolioGeneration  : Nat
  portfolioStateDigest : String
  eventId              : Option String
  eventDigest          : Option String
  schemaVersion        : String := "ge.provider-host-result.v1"
  isSha256 :
    ∀ x ∈ [("provider_input_digest", providerInputDigest), ("contract_digest", contractDigest),
      ("portfolio_state_digest", portfolioStateDigest)], IsLowerSha256 x.2
  nonempty : ∀ x ∈ [("portfolio_id", portfolioId)], ¬Text.Blank x.2
  identity : EventIdentity status eventId eventDigest

def ProviderHostResult.new (status : ProviderHostStatus)
    (providerInputDigest contractDigest portfolioId : String) (portfolioGeneration : Nat)
    (portfolioStateDigest : String) (eventId eventDigest : Option String) :
    Py ProviderHostResult := do
  let ⟨h₁⟩ ← checkProviderDigests
    [("provider_input_digest", providerInputDigest), ("contract_digest", contractDigest),
      ("portfolio_state_digest", portfolioStateDigest)]
  let ⟨h₂⟩ ← Guard.nonempty .providerHostError [("portfolio_id", portfolioId)]
  let ⟨h₃⟩ ← Py.check (EventIdentity status eventId eventDigest) .providerHostError
    (eventIdentityMessage status eventId)
  return {
    status, providerInputDigest, contractDigest, portfolioId, portfolioGeneration,
    portfolioStateDigest, eventId, eventDigest, isSha256 := h₁, nonempty := h₂, identity := h₃ }

variable [Sha256]

def ProviderInput.digest (i : ProviderInput) : String :=
  sha256Digest (toPy i)

def ProviderWatchContract.digest (c : ProviderWatchContract) : String :=
  sha256Digest (toPy c)

-- The event that a provider hands to the persistent runtime: `json.loads(canonical_json(event))`.
def providerEvent (policy : TransitionPolicy) (contract : TriggerContract)
    (trigger : ExternalTriggerEvidence) (observation : ResumeTickObservation) : Json :=
  normalize <| .dict [
    ("schema_version", toPy "ge.persistent-runtime-event.v1"),
    ("event_id", toPy trigger.eventId),
    ("operation", toPy "transition"),
    ("body", .dict [
      ("policy", ofJson (normalize (toPy policy))),
      ("contract", .dict [
        ("source", toPy contract.source),
        ("event_kind", toPy contract.eventKind),
        ("portfolio_id", toPy contract.portfolioId),
        ("policy_digest", toPy contract.policyDigest),
        ("transition_event", toPy contract.transitionEvent)]),
      ("trigger", toPy trigger),
      ("observation", ofJson (normalize (toPy observation)))])]

def providerObservation (state : PortfolioState) (contract : ProviderWatchContract)
    (input : ProviderInput) : Py ResumeTickObservation := do
  let evidence ← CheckpointEvidence.new contract.evidenceKind input.evidenceLocator
    input.evidenceDigest "ge.checkpoint-evidence.v1"
  ResumeTickObservation.new state.portfolioId state.generation state.digest contract.policy.digest
    contract.transitionEvent [evidence] input.subjectRef input.observedAt
    ("Provider watch " ++ contract.watchId ++ " observed " ++ input.subjectRef ++ " state=" ++
      input.observedState ++ ".")
    (input.canonicalRefs ++ [contract.contractRef, input.subjectRef]).dedup.mergeSort [] none none
    "ge.resume-tick-observation.v1"

def buildProviderRuntimeEvent (state : PortfolioState) (contract : ProviderWatchContract)
    (input : ProviderInput) : Py (Option Json × ProviderHostResult) := do
  Py.require (state.portfolioId = contract.portfolioId) .providerHostError
    "portfolio id does not match provider contract"
  Py.require (input.watchId = contract.watchId) .providerHostError "watch_id mismatch"
  Py.require (input.provider = contract.provider) .providerHostError "provider mismatch"
  Py.require (input.subjectRef = contract.subjectRef) .providerHostError "subject_ref mismatch"
  Py.require (input.bindings = contract.requiredBindings) .providerHostError
    "provider binding mismatch"
  if input.observedState ≠ contract.satisfiedState then
    let result ← ProviderHostResult.new .conditionNotSatisfied input.digest contract.digest
      state.portfolioId state.generation state.digest none none
    return (none, result)
  else
    match contract.rules state with
    | [rule] =>
      Py.require rule.ProviderAllowed .providerHostError
        "provider host cannot cross a human authority gate"
      Py.require (contract.evidenceKind ∈ rule.requiredEvidence) .providerHostError
        "provider evidence kind is not required by matched rule"
      let observation ← providerObservation state contract input
      let source    := "provider-host:" ++ contract.provider
      let eventKind := contract.watchId ++ ":" ++ contract.satisfiedState
      let eventId   := stableId "geph" <| .dict [
        ("provider_input_digest", toPy input.digest),
        ("contract_digest", toPy contract.digest),
        ("generation", toPy state.generation),
        ("state_digest", toPy state.digest)]
      let trigger ← ExternalTriggerEvidence.new source eventId eventKind input.digest
        observation.digest input.evidenceLocator
      let triggerContract ← TriggerContract.new source eventKind state.portfolioId
        contract.policy.digest contract.transitionEvent
      let event := providerEvent contract.policy triggerContract trigger observation
      let result ← ProviderHostResult.new .eventReady input.digest contract.digest
        state.portfolioId state.generation state.digest (some eventId)
        (some (sha256Digest (ofJson event)))
      return (some event, result)
    | _      =>
      Py.raise .providerHostError
        "provider contract has no unique rule for the current active state"

end GeneralExecution
