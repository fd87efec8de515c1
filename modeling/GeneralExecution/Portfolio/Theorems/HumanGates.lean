import GeneralExecution.Portfolio.Theorems.Conservation

namespace GeneralExecution

section Leaving

variable [Sha256] {state : PortfolioState} {policy : TransitionPolicy} {rule : TransitionRule}
variable {lifecycle : PortfolioLifecycleState} {event : String} {digest : Option String}
variable {authorityGrant : Option TransitionAuthorityGrant} {grant : TransitionAuthorityGrant}
variable {evidence : List CheckpointEvidence} {refs : List String}
variable {replacement : Option PortfolioEntry} {wakeAdmission : Option PassiveWakeAdmission}
variable {call : TransitionCall} {t : PortfolioTransitionResult}

-- The grant names the policy, the rule and the boundary of the rule.
structure TransitionAuthorityGrant.Binds (grant : TransitionAuthorityGrant)
    (policy : TransitionPolicy) (rule : TransitionRule) : Prop where
  policyDigest : grant.policyDigest = policy.digest
  ruleDigest   : grant.ruleDigest = rule.digest
  boundary     : some grant.authorityBoundary = rule.authorityBoundary

-- A transition has used the grant, which names its rule and the boundary of the gate.
structure OpensGate (state : PortfolioState) (call : TransitionCall)
    (t : PortfolioTransitionResult) (rule : TransitionRule) (grant : TransitionAuthorityGrant) :
    Prop where
  matched      : matchRuleForTransition call.policy state.active.state call.event = .ok rule
  granted      : call.authorityGrant = some grant
  used         : t.authorityGrantDigest = some grant.digest
  policyDigest : grant.policyDigest = call.policy.digest
  ruleDigest   : grant.ruleDigest = rule.digest
  boundary     : state.active.authorityBoundary = some grant.authorityBoundary

omit [Sha256] in
theorem matchRuleForTransition_eq_ok
    (h : matchRuleForTransition policy lifecycle event = .ok rule) :
    rule ∈ policy.rules ∧ rule.fromState = lifecycle ∧ PyLiteral.spelling rule.event = event := by
  simp only [matchRuleForTransition, matchTransitionRule, Except.mapError_eq_ok, Except.bind_eq_ok,
    Py.ofOption_eq_ok] at h
  obtain ⟨parsed, hparsed, h⟩ := h
  split at h
  case h_1 found hf =>
    cases Except.pure_eq_ok.mp h
    have hm : rule ∈ policy.rules.filter fun rule =>
        rule.fromState = lifecycle ∧ rule.event = parsed := by
      rw [hf]
      exact List.mem_singleton_self rule
    obtain ⟨hrules, hmatch⟩ := List.mem_filter.mp hm
    obtain ⟨hfrom, hevent⟩ := of_decide_eq_true hmatch
    refine ⟨hrules, hfrom, ?_⟩
    rw [hevent]
    have hs := List.find?_some hparsed
    exact of_decide_eq_true hs
  case h_2 => cases h

theorem verifyAuthority_preauthorized (hm : rule.authorityMode = .preauthorizedRequired)
    (h : verifyAuthority policy rule authorityGrant = .ok digest) :
    ∃ grant, authorityGrant = some grant ∧ digest = some grant.digest ∧
      grant.Binds policy rule := by
  cases authorityGrant
  case none       => simp [verifyAuthority, hm, Py.raise] at h
  case some grant =>
    simp only [verifyAuthority, hm, Except.bind_eq_ok, Py.require_eq_ok, Except.pure_eq_ok,
      exists_const] at h
    obtain ⟨⟨hp, hr, hb⟩, hd⟩ := h
    exact ⟨grant, rfl, hd.symm, ⟨hp, hr, hb⟩⟩

-- Every rule that starts from a human gate asks for a grant.
theorem verifyAuthority_humanGate (hg : state.active.state = .humanGate)
    (h : ActiveTransition state policy event evidence refs replacement wakeAdmission authorityGrant t
      rule) :
    ∃ grant, authorityGrant = some grant ∧ t.authorityGrantDigest = some grant.digest ∧
      grant.Binds policy rule := by
  have ⟨_, hfrom, _⟩ := matchRuleForTransition_eq_ok h.matched
  have hm := rule.ruleOk.gate (hfrom.trans hg)
  exact verifyAuthority_preauthorized hm h.authority

-- The grant is for the boundary of the rule, which nothing compares with the boundary of the gate.
theorem humanGate_bound_iff (hg : state.active.state = .humanGate) (h : call.apply state = .ok t) :
    (∃ rule grant, OpensGate state call t rule grant) ↔
      ∃ rule, matchRuleForTransition call.policy state.active.state call.event = .ok rule ∧
        rule.authorityBoundary = state.active.authorityBoundary := by
  have ⟨rule, ht⟩ := applyActiveTransition_eq_ok h
  have ⟨grant, hgrant, hused, hbinds⟩ := verifyAuthority_humanGate hg ht
  constructor
  case mp  =>
    intro ⟨rule', grant', ho⟩
    cases Except.ok.inj <| ho.matched.symm.trans ht.matched
    cases Option.some.inj <| ho.granted.symm.trans hgrant
    exact ⟨rule, ht.matched, hbinds.boundary.symm.trans ho.boundary.symm⟩
  case mpr =>
    intro ⟨rule', hmatched, hb⟩
    cases Except.ok.inj <| hmatched.symm.trans ht.matched
    refine ⟨rule, grant, ?_⟩
    constructor
    case matched      => exact ht.matched
    case granted      => exact hgrant
    case used         => exact hused
    case policyDigest => exact hbinds.policyDigest
    case ruleDigest   => exact hbinds.ruleDigest
    case boundary     => exact hb.symm.trans hbinds.boundary.symm

end Leaving

section Pending

def pendingBlocker : PortfolioBlocker where
  kind         := .authority
  detail       := "pending"
  evidenceRefs := []
  version      := rfl
  nonempty     := by decide
  unique       := laneBlocker.unique

-- An Active entry that waits for an authority, be it at its gate or before it.
def pendingEntry (state : PortfolioLifecycleState)
    (hr : RoleOk .active state (some "pending") [pendingBlocker] none) : PortfolioEntry where
  workId            := "work"
  role              := .active
  state             := state
  objective         := "objective"
  activeGate        := "gate"
  nextActionRef     := "action"
  sourceRevision    := "revision"
  evidenceRequired  := []
  authorityBoundary := some "pending"
  authorityRef      := none
  blockers          := [pendingBlocker]
  wakeCondition     := none
  checkpointRef     := none
  version           := rfl
  nonempty          := by decide
  unique            := nextEntry.unique
  optional          := by simpa [Guard.NoneBlank] using by decide
  blockersUnique    := by decide
  roleOk            := hr

def pendingState (active : PortfolioEntry) (hr : active.role = .active)
    (hw : active.workId = "work") : PortfolioState where
  portfolioId         := "portfolio"
  generation          := 0
  active              := active
  secondary           := nextEntry
  passive             := []
  previousStateDigest := none
  version             := rfl
  nonempty            := laneState.nonempty
  slots               := {
    inActive    := hr
    inSecondary := rfl
    inPassive   := by simp
    sorted      := by simp
    unique      := by simpa [hw] using by decide }
  genesis             := laneState.genesis
  isSha256            := laneState.isSha256

def gateState : PortfolioState :=
  pendingState (pendingEntry .humanGate (by decide)) rfl rfl

def leaveRule (boundary : String) (hb : ¬Text.Blank boundary) : TransitionRule where
  ruleId            := "leave"
  fromState         := .humanGate
  event             := .executionStarted
  toState           := .running
  nextActionRef     := "action"
  effect            := .none
  requiredEvidence  := []
  authorityMode     := .preauthorizedRequired
  authorityBoundary := some boundary
  version           := rfl
  nonempty          := by decide
  unique            := wakeRule.unique
  optional          := by simpa [Guard.NoneBlank] using hb
  ruleOk            := by constructor <;> simp

def singlePolicy (rule : TransitionRule) : TransitionPolicy where
  policyId    := "policy"
  revision    := "revision"
  rules       := [rule]
  version     := rfl
  nonempty    := lanePolicy.nonempty
  stops       := rfl
  hasRule     := by simp
  ruleIds     := by simp
  sorted      := by simp
  unambiguous := by simp

variable [Sha256]

def leaveGrant (boundary : String) (hb : ¬Text.Blank boundary) : TransitionAuthorityGrant where
  policyDigest      := (singlePolicy (leaveRule boundary hb)).digest
  ruleDigest        := (leaveRule boundary hb).digest
  authorityBoundary := boundary
  authorityRef      := "authority"
  authorityDigest   := sha256Digest .none
  version           := rfl
  bound             := by
    simp only [List.mem_cons, List.not_mem_nil, or_false, forall_eq_or_imp, forall_eq]
    exact ⟨isSha256_sha256Digest _, isSha256_sha256Digest _⟩
  nonempty          := by simpa using ⟨hb, by decide⟩
  isSha256          := by simpa using isSha256_sha256Digest _

def leaveCall (boundary : String) (hb : ¬Text.Blank boundary) : TransitionCall where
  policy         := singlePolicy (leaveRule boundary hb)
  event          := "execution_started"
  evidence       := [laneEvidence "approval" (by decide)]
  actionRef      := "action"
  observedAt     := "observed"
  summary        := "summary"
  canonicalRefs  := ["canonical"]
  uncertainties  := []
  replacement    := none
  wakeAdmission  := none
  authorityGrant := some (leaveGrant boundary hb)

def leftSlots : TransitionSlots where
  active              := {
    pendingEntry .humanGate (by decide) with
    state             := .running
    authorityBoundary := none
    authorityRef      := some "authority"
    blockers          := []
    optional          := by simpa [Guard.NoneBlank] using by decide
    blockersUnique    := nextEntry.blockersUnique
    roleOk            := by decide }
  secondary           := nextEntry
  passive             := []
  replacementWorkId   := none
  wakeAdmissionDigest := none

variable {boundary : String} (hb : ¬Text.Blank boundary)

theorem verifyAuthority_leaveGrant :
    verifyAuthority (singlePolicy (leaveRule boundary hb)) (leaveRule boundary hb)
      (leaveCall boundary hb).authorityGrant = .ok (some (leaveGrant boundary hb).digest) := by
  exact Except.bind_eq_ok.mpr ⟨(), Py.require_eq_ok.mpr ⟨rfl, rfl, rfl⟩, rfl⟩

theorem exists_left : ∃ t, (leaveCall boundary hb).apply gateState = .ok t := by
  have hs : (leaveCall boundary hb).Sound := by
    constructor
    case nonempty      => simpa [leaveCall] using ⟨by decide, by decide, by decide⟩
    case hasRefs       => simp [leaveCall]
    case refs          => simpa [leaveCall] using by decide
    case uncertainties => simp [leaveCall, Guard.UniqueNonempty]
  have he : verifyEvidence (leaveRule boundary hb) (leaveCall boundary hb).evidence = .ok () :=
    verifyEvidence_eq_ok.mpr <| by simp [leaveCall, leaveRule, mandatoryEffectEvidence]
  have hm : matchRuleForTransition (leaveCall boundary hb).policy gateState.active.state
      (leaveCall boundary hb).event = .ok (leaveRule boundary hb) := rfl
  have ht : transitionSlots gateState (leaveCall boundary hb).policy (leaveRule boundary hb)
      (leaveCall boundary hb).evidence none none (leaveCall boundary hb).authorityGrant =
        .ok leftSlots := by
    have hg : gateState.active.state = .humanGate := rfl
    have ha : continuedActive gateState.active (leaveRule boundary hb)
        (some (leaveGrant boundary hb)) = .ok leftSlots.active := by
      rw [continuedActive, Py.wrap_eq_ok, if_pos hg]
      exact Except.bind_eq_ok.mpr ⟨_, rfl, leftSlots.active.new_eq⟩
    have hr : ¬(leaveRule boundary hb).effect.IsRotating := by
      simp [leaveRule, TransitionEffect.IsRotating]
    exact transitionSlots_staying_of hr ha
  refine TransitionCall.apply_of hs hm (by simp [leaveRule]) he (verifyAuthority_leaveGrant hb) ht
    ?_ ?_
  case refine_1 =>
    constructor
    case inActive    => rfl
    case inSecondary => rfl
    case inPassive   => simp [leftSlots, sortedEntries]
    case sorted      => simp [leftSlots, sortedEntries]
    case unique      => simpa [leftSlots, sortedEntries] using by decide
  case refine_2 => simp [TransitionSlots.Reports, leaveRule, TransitionEffect.IsRotating, leftSlots]

-- A grant for another boundary than the pending one is enough to leave the gate.
omit [Sha256] in
theorem humanGate_leaves_other :
    let _ := Sha256.blind
    let call := leaveCall "other" (by decide)
    gateState.active.state = .humanGate ∧
      ∃ t, call.apply gateState = .ok t ∧ ¬∃ rule grant, OpensGate gateState call t rule grant := by
  let _ := Sha256.blind
  have hb : ¬Text.Blank "other" := by decide
  have ⟨t, ht⟩ := exists_left hb
  refine ⟨rfl, t, ht, ?_⟩
  intro ⟨rule, grant, ho⟩
  cases Option.some.inj ho.granted
  exact absurd (Option.some.inj ho.boundary) (by decide)

omit [Sha256] in
theorem humanGate_bound_pending :
    let _ := Sha256.blind
    let call := leaveCall "pending" (by decide)
    ∃ t rule grant, call.apply gateState = .ok t ∧ OpensGate gateState call t rule grant := by
  let _ := Sha256.blind
  have hb : ¬Text.Blank "pending" := by decide
  have ⟨t, ht⟩ := exists_left hb
  have ⟨rule, grant, ho⟩ := (humanGate_bound_iff rfl ht).mpr ⟨_, rfl, rfl⟩
  exact ⟨t, rule, grant, ht, ho⟩

end Pending

end GeneralExecution
