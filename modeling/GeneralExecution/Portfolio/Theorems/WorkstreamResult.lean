import GeneralExecution.Portfolio.WorkstreamResult
import GeneralExecution.Portfolio.Theorems.HumanGates

namespace GeneralExecution

section Boundary

variable [Sha256] {state : PortfolioState} {call : TransitionCall} {t : PortfolioTransitionResult}

-- A step out of a gate clears the boundary, and no later step sets it before the next gate.
theorem TransitionCall.apply_authorityBoundary
    (hb : state.active.state = .humanGate ∨ state.active.authorityBoundary = none)
    (h : call.apply state = .ok t) (hn : t.newState.active.state ≠ .humanGate) :
    t.newState.active.authorityBoundary = none := by
  have ⟨rule, ht⟩ := applyActiveTransition_eq_ok h
  have ⟨slots, hslots, hfill⟩ := ht.slots
  by_cases hr : rule.effect.IsRotating
  case pos =>
    have ⟨_, _, _, _, _, hrot, _⟩ := transitionSlots_rotating hslots hfill hr
    exact hrot.promoted.authorityBoundary
  case neg =>
    have ⟨_, _, ha⟩ := transitionSlots_staying hslots hfill hr
    split at ha
    case isTrue  => exact absurd (authorityStoppedActive_eq_ok ha).state hn
    case isFalse =>
      rw [(continuedActive_eq_ok ha).authorityBoundary]
      split
      case isTrue     => rfl
      case isFalse hg =>
        cases hb
        case inl hgate => exact absurd hgate hg
        case inr hnone => exact hnone

-- A grant has opened a gate, and neither a rotation nor another gate has followed.
inductive PastGate : PortfolioState → Prop
  | left {state : PortfolioState} {call : TransitionCall} {grant : TransitionAuthorityGrant}
      {t : PortfolioTransitionResult} :
    state.active.state = .humanGate → call.authorityGrant = some grant →
    call.apply state = .ok t → t.newState.active.state ≠ .humanGate → PastGate t.newState
  | later {state : PortfolioState} {call : TransitionCall} {t : PortfolioTransitionResult} :
    PastGate state → call.apply state = .ok t → ¬t.effect.IsRotating →
    t.newState.active.state ≠ .humanGate → PastGate t.newState

theorem PastGate.authorityBoundary (hp : PastGate state) :
    state.active.authorityBoundary = none := by
  induction hp
  case left hg _ h hn  => exact TransitionCall.apply_authorityBoundary (.inl hg) h hn
  case later h _ hn ih => exact TransitionCall.apply_authorityBoundary (.inr ih) h hn

end Boundary

section Continuation

theorem WorkstreamResultWatch.sorted_expectedBindings (watch : WorkstreamResultWatch) :
    SortedBindings watch.expectedBindings := by
  have hlt : (watch.expectedBindings.map Prod.fst).Pairwise (· < ·) := by
    simp only [expectedBindings, List.map_cons, List.map_nil, String.lt_iff_toList_lt]
    decide
  constructor
  case left  => exact (List.pairwise_map.mp hlt).imp .inl
  case right => exact hlt.imp ne_of_lt

variable [PyRepr] {state : PortfolioState} {watch : WorkstreamResultWatch}
variable {contract : ProviderWatchContract} {observed : ObservedWorkstreamResult}
variable {outcome : ResultOutcome} {rule : TransitionRule}

-- All that the handoff asks of a result that continues under an existing authority, apart from the
-- evidence of that authority.
structure ExistingContinuation (state : PortfolioState) (watch : WorkstreamResultWatch)
    (contract : ProviderWatchContract) (observed : ObservedWorkstreamResult)
    (outcome : ResultOutcome) (rule : TransitionRule) : Prop where
  selected   : selectResultOutcome watch observed.payload = .ok outcome
  existing   : outcome.authorityRequirement = .existing
  bound      : checkContract state watch contract outcome = .ok ()
  matched    : resultRule state contract = .ok rule
  mode       : rule.authorityMode = .none
  classified :
    validateTransitionClass outcome.transitionClass rule.toState rule.authorityMode = .ok ()
  evident    : contract.evidenceKind ∈ rule.requiredEvidence

theorem selectResultOutcome_of {payload : Json} {observedState : String}
    (schema :
      lookupResult payload watch.resultSchemaField = .ok (.str watch.expectedResultSchema))
    (revision :
      lookupResult payload watch.sourceRevisionField = .ok (.str watch.expectedSourceRevision))
    (observed : lookupResult payload watch.observedStateField = .ok (.str observedState))
    (nonempty : observedState ≠ "") (selected : watch.onlyOutcome observedState = .ok outcome) :
    selectResultOutcome watch payload = .ok outcome := by
  have hschema : Json.isText (.str watch.expectedResultSchema) watch.expectedResultSchema := by
    simp [Json.isText]
  have hrevision :
      Json.isText (.str watch.expectedSourceRevision) watch.expectedSourceRevision := by
    simp [Json.isText]
  simp only [selectResultOutcome, schema, revision, observed, Except.ok_bind,
    Py.require_of hschema, Py.require_of hrevision, Py.require_of nonempty, selected]

omit [PyRepr] in
theorem checkContract_eq_ok :
    checkContract state watch contract outcome = .ok () ↔
      contract.watchId = watch.watchId ∧ contract.provider = "github-workstream-result" ∧
      contract.subjectRef = watch.expectedSubject ∧
      contract.satisfiedState = outcome.observedState ∧
      contract.requiredBindings = watch.expectedBindings ∧
      state.portfolioId = contract.portfolioId := by
  simp [checkContract, Except.bind_eq_ok, Py.require_eq_ok]

-- The handoff asks for a boundary as well as for a reference.
omit [PyRepr] in
theorem checkExistingAuthority_eq_ok {active : PortfolioEntry} (hm : rule.authorityMode = .none) :
    checkExistingAuthority active rule .existing = .ok () ↔
      Text.Truthy active.authorityRef ∧ Text.Truthy active.authorityBoundary := by
  simp [checkExistingAuthority, hm, Except.bind_eq_ok, Py.require_eq_ok]

omit [PyRepr] in
theorem checkExistingAuthority_unbounded {active : PortfolioEntry}
    (hb : active.authorityBoundary = none) :
    checkExistingAuthority active rule .existing = Py.raise .workstreamResultHandoffError
      "existing authority evidence is required for this result" := by
  simp [checkExistingAuthority, hb, Text.Truthy, Py.require]
  rfl

variable [Sha256]

theorem ExistingContinuation.reconcile_unbounded
    (hc : ExistingContinuation state watch contract observed outcome rule)
    (hb : state.active.authorityBoundary = none) :
    reconcileWorkstreamResult state watch contract observed =
      Py.raise .workstreamResultHandoffError
        "existing authority evidence is required for this result" := by
  simp only [reconcileWorkstreamResult, hc.selected, hc.bound, hc.matched, hc.classified,
    hc.existing, checkExistingAuthority_unbounded hb, Except.ok_bind]
  rfl

-- No state after a gate has the boundary that the handoff asks for.
theorem reconcileWorkstreamResult_pastGate (hp : PastGate state)
    (hc : ExistingContinuation state watch contract observed outcome rule) :
    reconcileWorkstreamResult state watch contract observed =
      Py.raise .workstreamResultHandoffError
        "existing authority evidence is required for this result" := by
  exact hc.reconcile_unbounded hp.authorityBoundary

end Continuation

section Fixtures

def reworkRule : TransitionRule where
  ruleId            := "rework"
  fromState         := .running
  event             := .verificationFailed
  toState           := .rework
  nextActionRef     := "action"
  effect            := .none
  requiredEvidence  := ["report"]
  authorityMode     := .none
  authorityBoundary := none
  version           := rfl
  nonempty          := by decide
  unique            := by decide
  optional          := wakeRule.optional
  ruleOk            := by decide

def refineOutcome : ResultOutcome where
  observedState        := "REFINE"
  transitionClass      := .nextFrontierDispatched
  providerContractPath := "contract"
  authorityRequirement := .existing
  nonempty             := by decide

def repeatedCommit (c : Char) : String :=
  .ofList (List.replicate 40 c)

theorem isCommit_repeatedCommit {c : Char} (h : c ∈ Text.lowerHex) :
    IsCommit (repeatedCommit c) := by
  constructor
  case left  => simp [repeatedCommit]
  case right =>
    intro d hd
    rw [repeatedCommit, String.toList_ofList] at hd
    rw [(List.mem_replicate.mp hd).right]
    exact h

theorem not_blank_repeatedCommit {c : Char} (h : Text.isSpace c = false) :
    ¬Text.Blank (repeatedCommit c) := by
  have hs : (repeatedCommit c).toList = c :: List.replicate 39 c := by
    simp [repeatedCommit, List.replicate_succ]
  exact Text.not_blank_of_head hs h

def refineWatch : WorkstreamResultWatch where
  watchId                := "watch"
  sourceRepository       := "owner/repository"
  sourceRef              := "main"
  resultPath             := "result"
  resultSchemaField      := "schema"
  expectedResultSchema   := "result.v1"
  observedStateField     := "state"
  sourceRevisionField    := "revision"
  expectedSourceRevision := repeatedCommit 'c'
  outcomes               := [refineOutcome]
  enabled                := true
  version                := rfl
  nonempty               := by
    have h : ¬Text.Blank (repeatedCommit 'c') := not_blank_repeatedCommit (by decide)
    simpa [h] using by decide
  isRepository           := by simp [Text.IsRepository, or_imp, forall_and]
  relative               := by decide
  isCommit               := isCommit_repeatedCommit (by decide)
  hasOutcome             := by simp
  sorted                 := by simp
  unique                 := by simp

def refineContract : ProviderWatchContract where
  watchId          := "watch"
  provider         := "github-workstream-result"
  subjectRef       := "github://owner/repository/result"
  satisfiedState   := "REFINE"
  portfolioId      := "portfolio"
  transitionEvent  := "verification_failed"
  evidenceKind     := "report"
  contractRef      := "contract"
  requiredBindings := refineWatch.expectedBindings
  policy           := singlePolicy reworkRule
  nonempty         := by decide
  sorted           := by simpa using refineWatch.sorted_expectedBindings
  matched          := by simp [singlePolicy]; decide
  allowed          := by simp [singlePolicy]; decide

def refineResult [Sha256] : ObservedWorkstreamResult where
  sourceCommit  := repeatedCommit 'd'
  observedAt    := "observed"
  contentDigest := sha256Digest .none
  payload       := .obj [("schema", .str "result.v1"), ("state", .str "REFINE"),
    ("revision", .str (repeatedCommit 'c'))]
  isCommit      := isCommit_repeatedCommit (by decide)
  nonempty      := by decide
  isSha256      := isLowerSha256_sha256Digest _
  isObj         := rfl

variable [Sha256]

-- The portfolio runs again, after a grant has opened its gate.
theorem exists_running :
    ∃ state, PastGate state ∧ state.active.state = .running ∧ state.portfolioId = "portfolio" := by
  have hb : ¬Text.Blank "pending" := by decide
  obtain ⟨t, h⟩ := exists_left hb
  obtain ⟨rule, ht⟩ := applyActiveTransition_eq_ok h
  obtain ⟨hrule, _, _⟩ := matchRuleForTransition_eq_ok ht.matched
  cases List.mem_singleton.mp hrule
  have hr : ¬(leaveRule "pending" hb).effect.IsRotating := by
    simp [leaveRule, TransitionEffect.IsRotating]
  obtain ⟨slots, hslots, hfill⟩ := ht.slots
  obtain ⟨_, _, ha⟩ := transitionSlots_staying hslots hfill hr
  have hs : t.newState.active.state = .running := (continuedActive_eq_ok ha).state
  refine ⟨t.newState, ?_, hs, ht.precedes.portfolioId⟩
  exact .left rfl rfl h (by simp [hs])

theorem existingContinuation_refine [PyRepr] {state : PortfolioState}
    (hs : state.active.state = .running) (hp : state.portfolioId = "portfolio") :
    ExistingContinuation state refineWatch refineContract refineResult refineOutcome
      reworkRule := by
  constructor
  case selected   =>
    apply selectResultOutcome_of
    case schema   => rfl
    case revision => rfl
    case observed => rfl
    case nonempty => decide
    case selected => rfl
  case existing   => rfl
  case bound      => exact checkContract_eq_ok.mpr ⟨rfl, rfl, rfl, rfl, rfl, hp⟩
  case matched    =>
    have hr : refineContract.rules state = [reworkRule] := by
      rw [ProviderWatchContract.rules, hs]
      rfl
    rw [resultRule, hr]
    rfl
  case mode       => rfl
  case classified => decide
  case evident    => simp [refineContract, reworkRule]

-- A result that continues the work of a portfolio that a grant has let through its gate.
omit [Sha256] in
theorem not_continues_after_gate :
    let _ := Sha256.blind
    let _ : PyRepr := ⟨fun _ => ""⟩
    ¬∀ (state : PortfolioState) (watch : WorkstreamResultWatch) (contract : ProviderWatchContract)
      (observed : ObservedWorkstreamResult) (outcome : ResultOutcome) (rule : TransitionRule),
      PastGate state → ExistingContinuation state watch contract observed outcome rule →
        reconcileWorkstreamResult state watch contract observed ≠
          Py.raise .workstreamResultHandoffError
            "existing authority evidence is required for this result" := by
  let _ := Sha256.blind
  let _ : PyRepr := ⟨fun _ => ""⟩
  intro _ _ h
  have ⟨state, hp, hs, hid⟩ := exists_running
  have hc := existingContinuation_refine hs hid
  exact h _ _ _ _ _ _ hp hc <| hc.reconcile_unbounded hp.authorityBoundary

omit [Sha256] in
theorem reconcileWorkstreamResult_pastGate_refine :
    let _ := Sha256.blind
    let _ : PyRepr := ⟨fun _ => ""⟩
    ∃ state, PastGate state ∧
      reconcileWorkstreamResult state refineWatch refineContract refineResult =
        Py.raise .workstreamResultHandoffError
          "existing authority evidence is required for this result" := by
  let _ := Sha256.blind
  let _ : PyRepr := ⟨fun _ => ""⟩
  have ⟨state, hp, hs, hid⟩ := exists_running
  exact ⟨state, hp, reconcileWorkstreamResult_pastGate hp <| existingContinuation_refine hs hid⟩

end Fixtures

end GeneralExecution
