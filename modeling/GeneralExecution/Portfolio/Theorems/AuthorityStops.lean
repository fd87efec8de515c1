import GeneralExecution.Portfolio.HumanAuthority
import GeneralExecution.Portfolio.Theorems.Alone
import GeneralExecution.Portfolio.Theorems.HumanGates

namespace GeneralExecution

open Portfolios

section Gates

variable [Sha256] {state newState : PortfolioState} {latest : Option ExecutionCheckpoint}
variable {policy : TransitionPolicy} {rule : TransitionRule} {event : String}
variable {evidence : List CheckpointEvidence} {refs : List String}
variable {replacement : Option PortfolioEntry} {wakeAdmission : Option PassiveWakeAdmission}
variable {authorityGrant : Option TransitionAuthorityGrant} {t : PortfolioTransitionResult}
variable {decision : HumanGateDecision} {o : ResumeTickObservation} {approval : HumanApproval}

-- The decision is about the gate as it stands.
structure HumanGateDecision.Names (decision : HumanGateDecision) (state : PortfolioState) :
    Prop where
  generation  : decision.expectedGeneration = state.generation
  stateDigest : decision.expectedStateDigest = state.digest
  actionRef   : decision.pendingActionRef = state.active.nextActionRef

-- The approval is about the gate as it stands, and the policy has a rule for its boundary.
structure HumanApproval.Names (approval : HumanApproval) (policy : TransitionPolicy)
    (o : ResumeTickObservation) (state : PortfolioState) (rule : TransitionRule) : Prop where
  generation   : o.expectedGeneration = state.generation
  stateDigest  : o.expectedStateDigest = state.digest
  policyDigest : o.policyDigest = policy.digest
  actionRef    : approval.approvedActionRef = state.active.nextActionRef
  matched      : matchRuleForTransition policy state.active.state o.event = .ok rule
  boundary     : rule.authorityBoundary = state.active.authorityBoundary

-- The checkpoint has stopped the work for the boundary of the gate, and both channels accept it.
structure GateStopped (state : PortfolioState) (latest : Option ExecutionCheckpoint) : Prop where
  stop     : ∃ c, latest = some c ∧ c.authorityStop = true ∧
    c.authorityBoundary = state.active.authorityBoundary
  decision : ∀ decision : HumanGateDecision, decision.Names state →
    ∃ boundary, admitDecision decision state latest = .ok boundary
  approval : ∀ (approval : HumanApproval) policy o rule, approval.Names policy o state rule →
    ∃ boundary, admitApproval policy o approval state latest = .ok (rule, boundary)

-- What holds of a gate at a generation that a transition has committed.
def PortfolioState.Stopped (state : PortfolioState) (latest : Option ExecutionCheckpoint) : Prop :=
  1 ≤ state.generation → state.active.state = .humanGate → GateStopped state latest

omit [Sha256] in
-- A gate has a boundary.
theorem PortfolioState.gate_boundary (hg : state.active.state = .humanGate) :
    ∃ boundary, state.active.authorityBoundary = some boundary ∧ boundary ≠ "" := by
  have hr := state.active.roleOk
  rw [state.slots.inActive] at hr
  have ht := (hr : ActiveOk ..).bounded hg
  cases hb : state.active.authorityBoundary
  case none          => simp [hb, Text.Truthy] at ht
  case some boundary => exact ⟨boundary, rfl, Text.truthy_some.mp <| hb ▸ ht⟩

theorem gateStopped_of_stop (hg : state.active.state = .humanGate) {c : ExecutionCheckpoint}
    (hs : c.authorityStop = true) (hb : c.authorityBoundary = state.active.authorityBoundary) :
    GateStopped state (some c) := by
  obtain ⟨boundary, hboundary, hne⟩ := PortfolioState.gate_boundary hg
  constructor
  case stop     => exact ⟨c, rfl, hs, hb⟩
  case decision =>
    intro decision hn
    refine ⟨boundary, ?_⟩
    simp only [admitDecision, Except.bind_eq_ok, Py.require_eq_ok, Py.ofOption_eq_ok,
      Except.pure_eq_ok, exists_const]
    refine ⟨hg, c, by simp [hs], ⟨hn.generation, hn.stateDigest⟩, hn.actionRef, boundary, ?_, ?_, rfl⟩
    · simp [hboundary, hne]
    · rw [hb, hboundary]
  case approval =>
    intro approval policy o rule hn
    obtain ⟨_, hfrom, _⟩ := matchRuleForTransition_eq_ok hn.matched
    have hmatched := hn.matched
    rw [matchRuleForTransition, Except.mapError_eq_ok] at hmatched
    refine ⟨boundary, ?_⟩
    simp only [admitApproval, Except.bind_eq_ok, Py.require_eq_ok, Py.ofOption_eq_ok,
      Except.pure_eq_ok, Except.mapError_eq_ok, exists_const]
    refine ⟨hg, c, by simp [hs], ⟨hn.generation, hn.stateDigest⟩, hn.policyDigest, hn.actionRef, rule,
      hmatched, rule.ruleOk.gate (hfrom.trans hg), boundary, ?_, hboundary, rfl⟩
    simp [hn.boundary, hboundary, hne]

-- A rule into the gate has to stop the work.
def TransitionRule.StopsAtGate (rule : TransitionRule) : Prop :=
  rule.toState = .humanGate → rule.authorityMode = .humanRequired

-- Only a rule that stops the work writes the checkpoint that the gate needs.
theorem ActiveTransition.stopped_iff
    (h : ActiveTransition state policy event evidence refs replacement wakeAdmission authorityGrant t
      rule) :
    t.newState.Stopped (some t.checkpoint) ↔ rule.StopsAtGate := by
  have hgen : 1 ≤ t.newState.generation := by rw [h.precedes.generation]; omega
  have ⟨slots, hslots, hfill⟩ := h.slots
  by_cases hr : rule.effect.IsRotating
  case pos =>
    -- The promoted Secondary is ready, and the rule leads to `complete` or to `passive`.
    have ⟨_, _, _, _, _, hrot, _⟩ := transitionSlots_rotating hslots hfill hr
    have hready : t.newState.active.state = .ready := hrot.promoted.state
    constructor
    case mp  =>
      intro _ hto
      cases hr
      case inl he => simp [(rule.ruleOk.promote he).right] at hto
      case inr he => simp [(rule.ruleOk.park he).right] at hto
    case mpr =>
      intro _ _ hg
      simp [hready] at hg
  case neg =>
    have ⟨_, _, hactive⟩ := transitionSlots_staying hslots hfill hr
    split at hactive
    case isTrue he =>
      have hmode := rule.ruleOk.stop he
      have ha := authorityStoppedActive_eq_ok hactive
      have hstop := h.stops.stop.mpr hmode
      constructor
      case mp  => exact fun _ _ => hmode
      case mpr =>
        intro _ _ hg
        refine gateStopped_of_stop hg hstop ?_
        rw [h.stops.boundary hstop, ha.authorityBoundary]
    case isFalse he =>
      have ha := continuedActive_eq_ok hactive
      have hmode : rule.authorityMode ≠ .humanRequired := fun hm =>
        he (rule.ruleOk.human hm).right
      constructor
      case mp  =>
        intro hs hto
        have ⟨⟨c, hc, hstop, _⟩, _, _⟩ := hs hgen (ha.state.trans hto)
        cases hc
        exact h.stops.stop.mp hstop
      case mpr =>
        intro hs _ hg
        exact absurd (hs (ha.state.symm.trans hg)) hmode

-- A decision leads out of the gate.
theorem DecisionTransition.stopped {cp : ExecutionCheckpoint} {decisionRef : String}
    (h : DecisionTransition state latest decision decisionRef newState cp) :
    newState.Stopped (some cp) := by
  intro _ hg
  rw [h.active] at hg
  cases ht : decision.targetState <;> simp [ht, HumanGateDecisionTarget.state] at hg

end Gates

section Runs

-- What a client does to a portfolio.
inductive PortfolioStep
  | create (state : PortfolioState)
  | tick (policy : TransitionPolicy) (o : ResumeTickObservation)
    (requirement : CoreVerificationRequirement) (verification : CoreVerificationReceipt)
  | decide (decision : HumanGateDecision) (providerActor decisionRef : String)

variable [Sha256]

-- The step is accepted and commits.
inductive PortfolioStep.Commits (s : Portfolios) : PortfolioStep → Portfolios → Prop
  | create {state head s'} :
    (PortfolioHeadStore.initializePortfolio state).run s = (.ok head, s') →
    Commits s (.create state) s'
  | tick {policy o requirement verification r s'} :
    (resumeTick o.portfolioId policy (some o) requirement (some verification)).run s =
      (.ok r, s') → r.disposition = .committed →
    Commits s (.tick policy o requirement verification) s'
  | decide {decision providerActor decisionRef r s'} :
    (consumeHumanGateDecision decision providerActor decisionRef).run s = (.ok r, s') →
    Commits s (.decide decision providerActor decisionRef) s'

-- The committed steps of a run, each with the store that it starts from.
inductive Portfolios.Run : List (Portfolios × PortfolioStep) → Portfolios → Prop
  | empty : Run [] .empty
  | step {steps s step s'} : Run steps s → step.Commits s s' → Run (steps ++ [(s, step)]) s'

variable {s s' : Portfolios} {steps : List (Portfolios × PortfolioStep)} {step : PortfolioStep}

-- The gates of all portfolios are stopped.
def Portfolios.Stopped (s : Portfolios) : Prop :=
  ∀ state latest, s.Holds state latest → state.Stopped latest

-- A tick that starts from a store takes no rule into the gate but one that stops the work.
def PortfolioStep.StopsAtGate (s : Portfolios) : PortfolioStep → Prop
  | .tick policy o _ _ => ∀ state latest rule, s.Holds state latest →
    state.portfolioId = o.portfolioId →
    matchRuleForTransition policy state.active.state o.event = .ok rule → rule.StopsAtGate
  | _                  => True

theorem PortfolioStep.Commits.consistent (hs : s.Consistent) (h : step.Commits s s') :
    s'.Consistent := by
  cases h
  case create h =>
    cases initializePortfolio_run_ok hs h
    case inl h => exact h.right ▸ hs
    case inr h => exact h.consistent hs
  case tick hd h =>
    have ⟨_, _, _, _, _, _, _, hc⟩ := resumeTick_run_committed hs h hd
    exact hc.consistent hs
  case decide h =>
    have ⟨_, _, _, _, _, hc⟩ := consumeHumanGateDecision_run_ok hs h
    exact hc.consistent hs

-- A commit keeps the gates stopped when it stops its own.
theorem Portfolios.Commits.stopped_iff {cur new : PortfolioState}
    {latest : Option ExecutionCheckpoint} {cp : ExecutionCheckpoint}
    (h : s.Commits s' cur latest new cp) (hs : s.Stopped) :
    s'.Stopped ↔ new.Stopped (some cp) := by
  constructor
  case mp  => exact fun hs' => hs' new (some cp) h.holds
  case mpr =>
    intro hn state latest' hh
    cases h.holds_cases hh
    case inl he => exact he.left ▸ he.right ▸ hn
    case inr hh => exact hs state latest' hh

theorem PortfolioStep.Commits.stopped_iff (hc : s.Consistent) (h : step.Commits s s')
    (hs : s.Stopped) : s'.Stopped ↔ step.StopsAtGate s := by
  cases h
  case create state head h =>
    refine iff_of_true ?_ trivial
    cases initializePortfolio_run_ok hc h
    case inl h => exact h.right ▸ hs
    case inr h =>
      intro state' latest hh
      cases h.holds_cases hc hh
      case inl he =>
        intro hgen
        have hz := h.genesis
        rw [he.left] at hgen
        omega
      case inr hh => exact hs state' latest hh
  case tick policy o requirement verification r hd h =>
    have ⟨o', receipt, cur, latest, t, ho, ht, hcommit⟩ := resumeTick_run_committed hc h hd
    cases ho
    have ⟨rule, hrule⟩ := tickTransition_eq_ok ht.transition
    rw [hcommit.stopped_iff hs, hrule.stopped_iff]
    constructor
    case mp  =>
      intro hstops state latest' rule' hh hp hm
      cases (hcommit.current.unique hh (ht.portfolioId.symm.trans hp.symm)).left
      cases Except.ok.inj <| hm.symm.trans hrule.matched
      exact hstops
    case mpr =>
      exact fun hstops => hstops cur latest rule hcommit.current ht.portfolioId.symm hrule.matched
  case decide h =>
    have ⟨_, _, _, _, ht, hcommit⟩ := consumeHumanGateDecision_run_ok hc h
    exact iff_of_true ((hcommit.stopped_iff hs).mpr ht.stopped) trivial

theorem Portfolios.Run.consistent (h : Portfolios.Run steps s) : s.Consistent := by
  induction h
  case empty        => exact empty_consistent
  case step hc ih   => exact hc.consistent ih

-- The gates of a run are stopped exactly when every rule into a gate is one that stops the work.
theorem portfolios_stopped_iff (h : Portfolios.Run steps s) :
    (∀ s' ∈ steps.map Prod.fst ++ [s], s'.Stopped) ↔ ∀ x ∈ steps, x.2.StopsAtGate x.1 := by
  induction h
  case empty =>
    simp only [List.map_nil, List.nil_append, List.mem_singleton, forall_eq, List.not_mem_nil,
      false_implies, implies_true, iff_true]
    exact fun _ _ hh => by cases hh.head
  case step steps s step s' hrun hstep ih =>
    have hc := hrun.consistent
    have hstores : (∀ s₀ ∈ (steps ++ [(s, step)]).map Prod.fst ++ [s'], s₀.Stopped) ↔
        (∀ s₀ ∈ steps.map Prod.fst ++ [s], s₀.Stopped) ∧ s'.Stopped := by
      rw [List.map_append, List.map_singleton, List.forall_mem_append, List.forall_mem_singleton]
    have hsteps : (∀ x ∈ steps ++ [(s, step)], x.2.StopsAtGate x.1) ↔
        (∀ x ∈ steps, x.2.StopsAtGate x.1) ∧ step.StopsAtGate s := by
      rw [List.forall_mem_append, List.forall_mem_singleton]
    rw [hstores, hsteps, ← ih]
    refine and_congr_right fun hbefore => hstep.stopped_iff hc ?_
    exact (List.forall_mem_append.mp hbefore).right s (by simp)

end Runs

section Entering

-- A digest that tells apart a portfolio's generations.
def rankOfGeneration (j : Option Json) : Nat :=
  match j.bind (·.get? "generation") with
  | some (.int n) => n.toNat
  | _             => 0

abbrev Sha256.byGeneration : Sha256 :=
  .ofRank rankOfGeneration

def enterRule (effect : TransitionEffect) (mode : AuthorityMode) (boundary : Option String)
    (hb : Guard.NoneBlank boundary)
    (hk : RuleOk .running .executionStarted .humanGate effect mode boundary) : TransitionRule where
  ruleId            := "enter"
  fromState         := .running
  event             := .executionStarted
  toState           := .humanGate
  nextActionRef     := "action"
  effect            := effect
  requiredEvidence  := []
  authorityMode     := mode
  authorityBoundary := boundary
  version           := rfl
  nonempty          := by decide
  unique            := wakeRule.unique
  optional          := by simpa using hb
  ruleOk            := hk

-- It leads to the gate and does not stop the work.
def slipRule : TransitionRule :=
  enterRule .none .none none (by simp [Guard.NoneBlank]) (by decide)

def stopRule : TransitionRule :=
  enterRule .stopHumanGate .humanRequired (some "pending")
    (by simpa [Guard.NoneBlank] using by decide) (by decide)

def enterState : PortfolioState :=
  pendingState (pendingEntry .running (by decide)) rfl rfl

def coreRequirement : CoreVerificationRequirement where
  requiredRevision    := "0000000000000000000000000000000000000000"
  requiredSuiteRef    := "suite"
  requiredVerifierRef := "verifier"
  minimumTestCount    := 1
  version             := rfl
  isCommit            := by decide
  nonempty            := by decide
  hasTest             := le_rfl

variable [Sha256]

theorem core_isSha256 : ∀ x ∈ [("evidence_digest", sha256Digest .none)], IsSha256 x.2 :=
  List.forall_mem_singleton.mpr (isSha256_sha256Digest _)

def coreReceipt : CoreVerificationReceipt where
  targetRevision := "0000000000000000000000000000000000000000"
  suiteRef       := "suite"
  evidenceRef    := "evidence"
  evidenceDigest := sha256Digest .none
  verifierRef    := "verifier"
  executedAt     := "executed"
  passed         := true
  testCount      := 1
  version        := rfl
  isCommit       := by decide
  nonempty       := by decide
  isSha256       := core_isSha256
  hasTest        := le_rfl
  pass           := rfl

def enterObservation (rule : TransitionRule) : ResumeTickObservation where
  portfolioId         := "portfolio"
  expectedGeneration  := 0
  expectedStateDigest := enterState.digest
  policyDigest        := (singlePolicy rule).digest
  event               := "execution_started"
  evidence            := [laneEvidence "start" (by decide)]
  actionRef           := "action"
  observedAt          := "observed"
  summary             := "summary"
  canonicalRefs       := ["canonical"]
  uncertainties       := []
  wakeAdmission       := none
  authorityGrant      := none
  version             := rfl
  nonempty            := by decide
  isSha256            := by
    simp only [List.mem_cons, List.not_mem_nil, or_false, forall_eq_or_imp, forall_eq]
    exact ⟨isSha256_sha256Digest _, isSha256_sha256Digest _⟩
  evident             := by simp
  distinct            := by simp
  hasRefs             := by simp
  refs                := by decide
  unique              := by decide

def enterCall (rule : TransitionRule) : TransitionCall where
  policy         := singlePolicy rule
  event          := "execution_started"
  evidence       := [laneEvidence "start" (by decide)]
  actionRef      := "action"
  observedAt     := "observed"
  summary        := "summary"
  canonicalRefs  := tickRefs (enterObservation rule) coreRequirement coreReceipt
  uncertainties  := []
  replacement    := none
  wakeAdmission  := none
  authorityGrant := none

def enterStep (rule : TransitionRule) : PortfolioStep :=
  .tick (singlePolicy rule) (enterObservation rule) coreRequirement coreReceipt

omit [Sha256] in
theorem gate_roleOk : RoleOk .active .humanGate (some "pending") [pendingBlocker] none := by
  decide

-- The Active entry at the gate, with the blockers that the rule leaves it.
def enteredSlots (blocker : PortfolioBlocker) (hb : blocker.IsAuthority) : TransitionSlots where
  active              := {
    pendingEntry .humanGate gate_roleOk with
    blockers       := [blocker]
    blockersUnique := by simp
    roleOk         := {
      notPassive := nofun
      waits      := nofun
      blocked    := nofun
      bounded    := fun _ => by decide
      stopped    := fun _ => ⟨blocker, by simp, hb⟩ } }
  secondary           := nextEntry
  passive             := []
  replacementWorkId   := none
  wakeAdmissionDigest := none

def stopBlocker : PortfolioBlocker where
  kind         := .authority
  detail       := "pending"
  evidenceRefs := ["locator"]
  version      := rfl
  nonempty     := pendingBlocker.nonempty
  unique       := by decide

theorem enterCall_sound (rule : TransitionRule) : (enterCall rule).Sound := by
  constructor
  case nonempty      => simpa [enterCall] using ⟨by decide, by decide, by decide⟩
  case hasRefs       => simp [enterCall, tickRefs]
  case refs          =>
    simp only [enterCall, tickRefs, enterObservation, List.cons_append, List.nil_append,
      List.mem_cons, List.not_mem_nil, or_false, forall_eq_or_imp, forall_eq]
    exact ⟨by decide, Text.not_blank_of_head (String.toList_append ..) (by decide),
      Text.not_blank_of_head (String.toList_append ..) (by decide),
      Text.not_blank_of_head (String.toList_append ..) (by decide)⟩
  case uncertainties => simp [enterCall, Guard.UniqueNonempty]

theorem exists_entered {rule : TransitionRule} {blocker : PortfolioBlocker}
    (hb : blocker.IsAuthority)
    (hm : matchRuleForTransition (enterCall rule).policy enterState.active.state
      (enterCall rule).event = .ok rule)
    (he : verifyEvidence rule (enterCall rule).evidence = .ok ())
    (ha : verifyAuthority (singlePolicy rule) rule none = .ok none)
    (hr : ¬rule.effect.IsRotating) (hw : rule.effect ≠ .wakePassive)
    (ht : transitionSlots enterState (singlePolicy rule) rule (enterCall rule).evidence none none
      none = .ok (enteredSlots blocker hb)) :
    ∃ t, TickTransition (singlePolicy rule) (enterObservation rule) coreRequirement coreReceipt
      enterState t := by
  have ⟨t, happly⟩ := TransitionCall.apply_of (enterCall_sound rule) hm hw he ha ht
    (by constructor <;> simp [enteredSlots, sortedEntries, pendingEntry, nextEntry, laneEntry])
    (by simp [TransitionSlots.Reports, hr, enteredSlots])
  refine ⟨t, ?_⟩
  constructor
  case transition  => exact happly
  case generation  => rfl
  case stateDigest => rfl
  case portfolioId => rfl
  case policy      => rfl

omit [Sha256] in
theorem rankOfGeneration_state (state : PortfolioState) :
    rankOfGeneration (normalize (toPy state)) = state.generation := by
  have hd : distinctKeys (asdict state) = true := rfl
  have hg : (normalize (toPy state)).get? "generation" = some (.int state.generation) :=
    (normalize_get? hd _).trans rfl
  simp [rankOfGeneration, hg]

-- The genesis and the step of its rule are a run.
omit [Sha256] in
theorem exists_enteredRun {rule : TransitionRule}
    (ht : ∀ [Sha256], ∃ t, TickTransition (singlePolicy rule) (enterObservation rule)
      coreRequirement coreReceipt enterState t) :
    let _ := Sha256.byGeneration
    ∃ steps s t latest, Portfolios.Run steps s ∧ s.Holds t.newState (some t.checkpoint) ∧
      TickTransition (singlePolicy rule) (enterObservation rule) coreRequirement coreReceipt
        enterState t ∧
      (∀ x ∈ steps, x.2 = .create enterState ∨ x.2 = enterStep rule ∧ x.1.Holds enterState latest) := by
  let _ := Sha256.byGeneration
  have ⟨t, ht⟩ := ht
  have ⟨head, s, hinit, hcreates⟩ := initializePortfolio_run_of empty_consistent
    (rfl : enterState.generation = 0) rfl
  have hs := hcreates.consistent empty_consistent
  have hh := hcreates.holds empty_consistent
  have hg : gateOpen coreReceipt coreRequirement = true := by
    simp [gateOpen, coreReceipt, coreRequirement]
  have hf : s.Fresh t.checkpoint := by
    intro column _
    rw [hcreates.checkpoints]
    rfl
  have hd : t.newState.digest ≠ enterState.digest := by
    refine sha256Digest_ne_of_rank ?_
    rw [rankOfGeneration_state, rankOfGeneration_state, ht.precedes.generation]
    decide
  have ⟨r, s', hrun, hr, hc⟩ := resumeTick_run_of hs hh hg ht rfl hf hd
  have hsteps := Portfolios.Run.empty.step (.create hinit) |>.step (.tick hrun hr)
  refine ⟨_, s', t, none, hsteps, hc.holds, ht, ?_⟩
  intro x hx
  simp only [List.nil_append, List.cons_append, List.mem_cons, List.not_mem_nil, or_false] at hx
  cases hx
  case inl hx => exact .inl (hx ▸ rfl)
  case inr hx => exact .inr (hx ▸ ⟨rfl, hh⟩)

omit [Sha256] in
theorem match_slipRule : matchRuleForTransition (singlePolicy slipRule) enterState.active.state
    "execution_started" = .ok slipRule := rfl

omit [Sha256] in
theorem match_stopRule : matchRuleForTransition (singlePolicy stopRule) enterState.active.state
    "execution_started" = .ok stopRule := rfl

theorem exists_slipped : ∃ t, TickTransition (singlePolicy slipRule) (enterObservation slipRule)
    coreRequirement coreReceipt enterState t := by
  have he : verifyEvidence slipRule (enterCall slipRule).evidence = .ok () :=
    verifyEvidence_eq_ok.mpr <| by simp [enterCall, slipRule, enterRule, mandatoryEffectEvidence]
  have ha : continuedActive enterState.active slipRule none =
      .ok (enteredSlots pendingBlocker (.inr rfl)).active :=
    (enteredSlots pendingBlocker (.inr rfl)).active.new_eq
  exact exists_entered (.inr rfl) rfl he rfl (by decide) (by decide)
    (transitionSlots_staying_of (by decide) ha)

theorem exists_stopped : ∃ t, TickTransition (singlePolicy stopRule) (enterObservation stopRule)
    coreRequirement coreReceipt enterState t := by
  have he : verifyEvidence stopRule (enterCall stopRule).evidence = .ok () :=
    verifyEvidence_eq_ok.mpr <| by simp [enterCall, stopRule, enterRule, mandatoryEffectEvidence]
  have ha : authorityStoppedActive enterState.active stopRule (enterCall stopRule).evidence =
      .ok (enteredSlots stopBlocker (.inr rfl)).active := by
    simp only [authorityStoppedActive, Except.bind_eq_ok, Py.ofOption_eq_ok]
    refine ⟨"pending", rfl, stopBlocker, ?_, (enteredSlots stopBlocker (.inr rfl)).active.new_eq⟩
    have hrefs : ((enterCall stopRule).evidence.map CheckpointEvidence.locator).dedup.mergeSort =
        stopBlocker.evidenceRefs := by simp [enterCall, laneEvidence, stopBlocker]
    rw [hrefs]
    exact stopBlocker.new_eq
  exact exists_entered (.inr rfl) rfl he rfl (by decide) (by decide)
    (transitionSlots_staying_of (by decide) ha)

-- A rule that leads to the gate without a stop leaves a gate that no channel can open.
omit [Sha256] in
theorem portfolios_notStopped :
    let _ := Sha256.byGeneration
    ∃ steps s, Portfolios.Run steps s ∧ ¬∀ s' ∈ steps.map Prod.fst ++ [s], s'.Stopped := by
  let _ := Sha256.byGeneration
  have ⟨steps, s, t, _, hrun, hh, ht, _⟩ := exists_enteredRun exists_slipped
  refine ⟨steps, s, hrun, fun hs => ?_⟩
  have ⟨rule, hrule⟩ := tickTransition_eq_ok ht.transition
  cases Except.ok.inj <| hrule.matched.symm.trans match_slipRule
  have hstops := hrule.stopped_iff.mp (hs s (by simp) _ _ hh)
  exact absurd (hstops rfl) nofun

omit [Sha256] in
theorem portfolios_stopped_pending :
    let _ := Sha256.byGeneration
    ∃ steps s state latest, Portfolios.Run steps s ∧ s.Holds state latest ∧
      state.active.state = .humanGate ∧ GateStopped state latest := by
  let _ := Sha256.byGeneration
  have ⟨steps, s, t, latest, hrun, hh, ht, hsteps⟩ := exists_enteredRun exists_stopped
  have hall : ∀ s' ∈ steps.map Prod.fst ++ [s], s'.Stopped := by
    refine (portfolios_stopped_iff hrun).mpr ?_
    intro x hx
    cases hsteps x hx
    case inl h => rw [h]; trivial
    case inr h =>
      rw [h.left]
      intro state latest' rule hstate hp hm
      cases (h.right.unique hstate hp.symm).left
      cases Except.ok.inj <| hm.symm.trans match_stopRule
      exact fun _ => rfl
  have ⟨rule, hrule⟩ := tickTransition_eq_ok ht.transition
  cases Except.ok.inj <| hrule.matched.symm.trans match_stopRule
  have ⟨slots, hslots, hfill⟩ := hrule.slots
  have ⟨_, _, ha⟩ := transitionSlots_staying hslots hfill (by decide)
  have hg : t.newState.active.state = .humanGate := (authorityStoppedActive_eq_ok ha).state
  refine ⟨steps, s, t.newState, some t.checkpoint, hrun, hh, hg, ?_⟩
  exact hall s (by simp) _ _ hh (by rw [ht.precedes.generation]; omega) hg

end Entering

end GeneralExecution
