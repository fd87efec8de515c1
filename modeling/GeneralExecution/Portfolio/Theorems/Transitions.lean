import GeneralExecution.Portfolio.HumanGate
import GeneralExecution.Portfolio.Trigger
import GeneralExecution.Portfolio.Theorems.Persistence

namespace GeneralExecution

open Portfolios

theorem PortfolioState.new_eq_ok {portfolioId : String} {generation : Nat}
    {active secondary : PortfolioEntry} {passive : List PortfolioEntry}
    {previousStateDigest : Option String} {schemaVersion : String} {s : PortfolioState}
    (h : new portfolioId generation active secondary passive previousStateDigest schemaVersion =
      .ok s) :
    s.portfolioId = portfolioId ∧ s.generation = generation ∧
      s.previousStateDigest = previousStateDigest ∧ s.active = active ∧ s.secondary = secondary ∧
      s.passive = passive := by
  simp only [new, Except.bind_eq_ok, Except.pure_eq_ok] at h
  obtain ⟨_, _, _, _, _, _, _, _, _, _, rfl⟩ := h
  exact ⟨rfl, rfl, rfl, rfl, rfl, rfl⟩

theorem ExecutionCheckpoint.new_eq_ok {portfolioId : String} {generation : Nat}
    {stateDigest workId role stateBefore stateAfter actionRef sourceRevision observedAt
      summary : String}
    {evidence : List CheckpointEvidence} {canonicalRefs uncertainties nextRefs : List String}
    {authorityStop : Bool} {authorityBoundary : Option String} {schemaVersion : String}
    {c : ExecutionCheckpoint}
    (h : new portfolioId generation stateDigest workId role stateBefore stateAfter actionRef
      sourceRevision observedAt summary evidence canonicalRefs uncertainties nextRefs authorityStop
      authorityBoundary schemaVersion = .ok c) :
    c.portfolioId = portfolioId ∧ c.portfolioGeneration = generation ∧
      c.portfolioStateDigest = stateDigest ∧ c.canonicalRefs = canonicalRefs ∧
      c.authorityStop = authorityStop ∧ c.authorityBoundary = authorityBoundary ∧
      PyLiteral.parse? stateAfter = some c.stateAfter := by
  simp only [new, Except.bind_eq_ok, Except.pure_eq_ok, Py.ofOption_eq_ok] at h
  obtain ⟨_, _, _, _, _, _, _, _, _, _, _, hs, _, _, _, _, _, _, _, _, _, _, _, _, _, _, rfl⟩ := h
  exact ⟨rfl, rfl, rfl, rfl, rfl, rfl, hs⟩

-- What an entry is about, which no transition rewrites.
structure PortfolioEntry.SameWork (e e' : PortfolioEntry) : Prop where
  workId           : e'.workId = e.workId
  objective        : e'.objective = e.objective
  activeGate       : e'.activeGate = e.activeGate
  sourceRevision   : e'.sourceRevision = e.sourceRevision
  evidenceRequired : e'.evidenceRequired = e.evidenceRequired
  checkpointRef    : e'.checkpointRef = e.checkpointRef

structure PortfolioEntry.Replaced (e e' : PortfolioEntry) (role : PortfolioRole)
    (state : PortfolioLifecycleState) (authorityBoundary : Option String) : Prop
    extends e.SameWork e' where
  role              : e'.role = role
  state             : e'.state = state
  authorityBoundary : e'.authorityBoundary = authorityBoundary

theorem PortfolioEntry.replace_eq_ok {e e' : PortfolioEntry} {role : PortfolioRole}
    {state : PortfolioLifecycleState} {nextActionRef : String}
    {authorityBoundary authorityRef : Option String} {blockers : List PortfolioBlocker}
    {wakeCondition : Option WakeCondition}
    (h : e.replace role state nextActionRef authorityBoundary authorityRef blockers wakeCondition =
      .ok e') : e.Replaced e' role state authorityBoundary := by
  simp only [replace, new, Except.bind_eq_ok, Except.pure_eq_ok, Py.ofOption_eq_ok,
    PyLiteral.parse?, PyLiteral.parse_spelling, Option.some.injEq] at h
  have ⟨_, _, _, hr, _, hs, _, _, _, _, _, _, _, _, _, _, h⟩ := h
  subst h
  exact ⟨⟨rfl, rfl, rfl, rfl, rfl, rfl⟩, hr.symm, hs.symm, rfl⟩

variable [Sha256] {state newState : PortfolioState} {policy : TransitionPolicy}
variable {t : PortfolioTransitionResult} {checkpoint : ExecutionCheckpoint}

-- The state that follows a state, and its checkpoint.
structure PortfolioState.Precedes (state newState : PortfolioState)
    (checkpoint : ExecutionCheckpoint) : Prop where
  portfolioId : newState.portfolioId = state.portfolioId
  generation  : newState.generation = state.generation + 1
  previous    : newState.previousStateDigest = some state.digest
  binds       : checkpoint.Binds newState

section Transitions

variable {event actionRef observedAt summary : String} {evidence : List CheckpointEvidence}
variable {canonicalRefs uncertainties : List String} {replacement : Option PortfolioEntry}
variable {wakeAdmission : Option PassiveWakeAdmission}
variable {authorityGrant : Option TransitionAuthorityGrant}

-- The state has the entries of the slots.
structure TransitionSlots.Fill (slots : TransitionSlots) (newState : PortfolioState) : Prop where
  active    : newState.active = slots.active
  secondary : newState.secondary = slots.secondary
  passive   : newState.passive = sortedEntries slots.passive

-- What a rule makes of the authority stop of its checkpoint.
structure ExecutionCheckpoint.StopsBy (c : ExecutionCheckpoint) (rule : TransitionRule) : Prop where
  stateAfter : c.stateAfter = rule.toState
  stop       : c.authorityStop = true ↔ rule.authorityMode = .humanRequired
  boundary   : c.authorityStop = true → c.authorityBoundary = rule.authorityBoundary

-- The steps of an accepted transition.
structure ActiveTransition (state : PortfolioState) (policy : TransitionPolicy) (event : String)
    (evidence : List CheckpointEvidence) (canonicalRefs : List String)
    (replacement : Option PortfolioEntry) (wakeAdmission : Option PassiveWakeAdmission)
    (authorityGrant : Option TransitionAuthorityGrant) (t : PortfolioTransitionResult)
    (rule : TransitionRule) : Prop where
  matched   : matchRuleForTransition policy state.active.state event = .ok rule
  admitted  : rule.effect ≠ .wakePassive
  evident   : verifyEvidence rule evidence = .ok ()
  authority : verifyAuthority policy rule authorityGrant = .ok t.authorityGrantDigest
  slots     : ∃ slots, transitionSlots state policy rule evidence replacement wakeAdmission
    authorityGrant = .ok slots ∧ slots.Fill t.newState
  precedes  : state.Precedes t.newState t.checkpoint
  refs      : t.checkpoint.canonicalRefs = transitionRefs policy rule canonicalRefs authorityGrant
  effect    : t.effect = rule.effect
  stops     : t.checkpoint.StopsBy rule

theorem applyActiveTransition_eq_ok
    (h : applyActiveTransition state policy event evidence actionRef observedAt summary
      canonicalRefs uncertainties replacement wakeAdmission authorityGrant = .ok t) :
    ∃ rule, ActiveTransition state policy event evidence canonicalRefs replacement wakeAdmission
      authorityGrant t rule := by
  simp only [applyActiveTransition, Except.bind_eq_ok, Py.require_eq_ok] at h
  obtain ⟨_, _, _, _, rule, hr, _, hw, _, he, digest, ha, slots, hs, newState, hn, checkpoint, hc, ht⟩ := h
  simp only [PortfolioTransitionResult.new, Except.bind_eq_ok, Except.pure_eq_ok] at ht
  obtain ⟨_, _, _, _, _, _, _, _, _, _, _, _, _, _, rfl⟩ := ht
  obtain ⟨h₁, h₂, h₃, hactive, hsecondary, hpassive⟩ := PortfolioState.new_eq_ok hn
  obtain ⟨h₄, h₅, h₆, h₇, hstop, hboundary, hafter⟩ := ExecutionCheckpoint.new_eq_ok hc
  refine ⟨rule, ?_⟩
  constructor
  case matched   => exact hr
  case admitted  => exact hw
  case evident   => exact he
  case authority => exact ha
  case slots     => exact ⟨slots, hs, hactive, hsecondary, hpassive⟩
  case precedes  => exact ⟨h₁, h₂, h₃, ⟨h₄, h₅, h₆⟩⟩
  case refs      => exact h₇
  case effect    => rfl
  case stops     =>
    constructor
    case stateAfter =>
      rw [PyLiteral.parse?, PyLiteral.parse_spelling] at hafter
      exact (Option.some.inj hafter).symm
    case stop       => simp [hstop]
    case boundary   =>
      intro h
      rw [hboundary]
      simp [hstop] at h
      simp [h]

theorem mem_transitionRefs {rule : TransitionRule} {ref : String} :
    ref ∈ transitionRefs policy rule canonicalRefs authorityGrant ↔
      ref ∈ canonicalRefs ∨ ref = "policy:" ++ policy.digest ∨ ref = "rule:" ++ rule.digest ∨
        ∃ grant ∈ authorityGrant, ref = grant.authorityRef := by
  simp [transitionRefs, eq_comm]

end Transitions

section Ticks

variable {o o' : ResumeTickObservation} {requirement : CoreVerificationRequirement}
variable {receipt : CoreVerificationReceipt}

-- The references of an observation that its sender chooses.
def ResumeTickObservation.callerRefs (o : ResumeTickObservation) : List String :=
  o.canonicalRefs ++ (o.authorityGrant.map TransitionAuthorityGrant.authorityRef).toList

theorem ResumeTickObservation.checkpointRef_inj (h : o.checkpointRef = o'.checkpointRef) :
    o.digest = o'.digest :=
  (String.append_right_inj _).mp h

theorem tickTransition_eq_ok (h : tickTransition state policy o requirement receipt = .ok t) :
    ∃ rule, ActiveTransition state policy o.event o.evidence (tickRefs o requirement receipt) none
      o.wakeAdmission o.authorityGrant t rule :=
  applyActiveTransition_eq_ok h

theorem checkpointRef_mem (h : tickTransition state policy o requirement receipt = .ok t) :
    o.checkpointRef ∈ t.checkpoint.canonicalRefs := by
  have ⟨rule, ht⟩ := tickTransition_eq_ok h
  rw [ht.refs, mem_transitionRefs]
  exact .inl (by simp [tickRefs])

-- The engine adds no reference to another observation.
theorem checkpointRef_of_mem (h : tickTransition state policy o requirement receipt = .ok t)
    (hm : o'.checkpointRef ∈ t.checkpoint.canonicalRefs) :
    o'.digest = o.digest ∨ o'.checkpointRef ∈ o.callerRefs := by
  have ⟨rule, ht⟩ := tickTransition_eq_ok h
  rw [ht.refs, mem_transitionRefs] at hm
  rcases hm with hm | hm | hm | ⟨grant, hg, hm⟩
  · simp only [tickRefs, List.mem_append, List.mem_cons, List.not_mem_nil, or_false] at hm
    rcases hm with hm | hm | hm | hm
    · exact .inr <| List.mem_append_left _ hm
    · exact .inl <| ResumeTickObservation.checkpointRef_inj hm
    · exact absurd hm <| Text.append_ne_append rfl rfl (by decide)
    · exact absurd hm <| Text.append_ne_append rfl rfl (by decide)
  · exact absurd hm <| Text.append_ne_append rfl rfl (by decide)
  · exact absurd hm <| Text.append_ne_append rfl rfl (by decide)
  · refine .inr <| List.mem_append_right _ ?_
    have hs : o.authorityGrant = some grant := hg
    simp [hs, hm]

end Ticks

section Decisions

variable {decision : HumanGateDecision} {providerActor decisionRef : String}
variable {receipt : HumanGateDecisionReceipt} {latest : Option ExecutionCheckpoint}

-- The steps of an accepted decision.
structure DecisionTransition (state : PortfolioState) (latest : Option ExecutionCheckpoint)
    (decision : HumanGateDecision) (decisionRef : String) (newState : PortfolioState)
    (checkpoint : ExecutionCheckpoint) : Prop where
  admitted  : ∃ boundary, admitDecision decision state latest = .ok boundary
  active    : newState.active.state = decision.targetState.state
  secondary : newState.secondary = state.secondary
  passive   : newState.passive = state.passive
  precedes  : state.Precedes newState checkpoint
  refs      : checkpoint.canonicalRefs = decisionRefs decision decisionRef

theorem decisionTransition_eq_ok
    (h : decisionTransition decision providerActor decisionRef state latest =
      .ok (receipt, newState, checkpoint)) :
    DecisionTransition state latest decision decisionRef newState checkpoint := by
  simp only [decisionTransition, decisionCheckpoint, Except.bind_eq_ok, Except.pure_eq_ok,
    Prod.mk.injEq] at h
  obtain ⟨boundary, hb, r, hr, active, ha, s, hs, c, ⟨e, _, hc⟩, h₁, h₂, h₃⟩ := h
  subst h₁ h₂ h₃
  simp only [HumanGateDecisionReceipt.new, Except.bind_eq_ok, Except.pure_eq_ok] at hr
  obtain ⟨_, _, _, _, _, _, hr⟩ := hr
  subst hr
  obtain ⟨hid, hgen, hprev, hactive, hsecondary, hpassive⟩ := PortfolioState.new_eq_ok hs
  obtain ⟨hcid, hcgen, hcdigest, hrefs, _⟩ := ExecutionCheckpoint.new_eq_ok hc
  constructor
  case admitted  => exact ⟨boundary, hb⟩
  case active    => exact hactive ▸ (PortfolioEntry.replace_eq_ok ha).state
  case secondary => exact hsecondary
  case passive   => exact hpassive
  case precedes  => exact ⟨hid, hgen, hprev, ⟨hcid, hcgen, hcdigest⟩⟩
  case refs      => exact hrefs

end Decisions

end GeneralExecution
