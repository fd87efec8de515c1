import GeneralExecution.Portfolio.Theorems.Lanes

theorem List.nodup_eraseDups {α : Type} [DecidableEq α] (as : List α) : as.eraseDups.Nodup := by
  generalize hn : as.length = n
  induction n using Nat.strong_induction_on generalizing as
  case h n ih =>
    cases as
    case nil => exact List.nodup_nil
    case cons a as =>
      rw [List.eraseDups_cons, List.nodup_cons]
      constructor
      case left  => simp
      case right =>
        have hl := List.length_filter_le (fun b => !b == a) as
        exact ih _ (by rw [← hn, List.length_cons]; omega) _ rfl

namespace GeneralExecution

variable [Sha256] {state newState : PortfolioState} {call : TransitionCall} {rule : TransitionRule}
variable {slots : TransitionSlots} {digest : Option String}

-- What the texts of a transition have to satisfy.
structure TransitionCall.Sound (call : TransitionCall) : Prop where
  nonempty :
    ∀ x ∈ [("action_ref", call.actionRef), ("observed_at", call.observedAt),
      ("summary", call.summary)], ¬Text.Blank x.2
  hasRefs       : call.canonicalRefs ≠ []
  refs          : ∀ ref ∈ call.canonicalRefs, ¬Text.Blank ref
  uncertainties : Guard.UniqueNonempty call.uncertainties

theorem uniqueNonempty_transitionRefs (rule : TransitionRule) (hs : call.Sound) :
    Guard.UniqueNonempty
      (transitionRefs call.policy rule call.canonicalRefs call.authorityGrant) := by
  constructor
  case left =>
    intro ref hm
    rw [mem_transitionRefs] at hm
    rcases hm with hm | rfl | rfl | ⟨grant, _, rfl⟩
    · exact hs.refs ref hm
    · exact Text.not_blank_of_head (String.toList_append ..) (by decide)
    · exact Text.not_blank_of_head (String.toList_append ..) (by decide)
    · exact grant.nonempty ("authority_ref", grant.authorityRef) (by simp)
  case right => exact List.nodup_eraseDups _

omit [Sha256] in
theorem verifyEvidence_eq_ok {evidence : List CheckpointEvidence} :
    verifyEvidence rule evidence = .ok () ↔
      evidence ≠ [] ∧ (evidence.map CheckpointEvidence.identity).Nodup ∧
      rule.requiredEvidence ⊆ evidence.map CheckpointEvidence.kind ∧
      mandatoryEffectEvidence rule.effect ⊆ evidence.map CheckpointEvidence.kind := by
  simp [verifyEvidence, evidenceKinds, Typed.difference_eq_nil]

theorem verifyAuthority_isSha256 {policy : TransitionPolicy}
    {grant : Option TransitionAuthorityGrant}
    (h : verifyAuthority policy rule grant = .ok digest) : Guard.OptionalSha256 digest := by
  unfold verifyAuthority at h
  split at h
  case h_6 =>
    simp only [Except.bind_eq_ok, Except.pure_eq_ok] at h
    obtain ⟨_, _, h⟩ := h
    subst h
    intro d hd
    cases hd
    exact isSha256_sha256Digest _
  all_goals
    cases h
    try exact fun _ hd => by cases hd

omit [Sha256] in
-- What the checkpoint of a rule stops for, and what it names as next.
theorem stopOk_rule :
    let authorityStop := decide (rule.authorityMode = .humanRequired)
    StopOk rule.toState
      (if authorityStop ∨ rule.toState = .complete ∨ rule.toState = .failed then []
        else [rule.nextActionRef])
      authorityStop (if authorityStop then rule.authorityBoundary else none) := by
  by_cases h : rule.authorityMode = .humanRequired
  case pos =>
    have hb := rule.ruleOk.bounded (by simp [h])
    have ⟨boundary, hb⟩ := Option.isSome_iff_exists.mp hb
    have hne := Text.ne_empty_of_not_blank <|
      rule.optional ("authority_boundary", rule.authorityBoundary) (by simp) boundary hb
    simp [StopOk, h, hb, Text.Truthy, hne, rule.ruleOk.human h]
  case neg =>
    have hor (p q : Prop) (hi : ¬p → q) : p ∨ q := or_iff_not_imp_left.mpr hi
    simpa [StopOk, h] using hor _ _

theorem PortfolioState.isSha256_digest (s : PortfolioState) : IsSha256 s.digest :=
  isSha256_sha256Digest _

theorem transitionCheckpoint_eq_ok (state newState : PortfolioState) (rule : TransitionRule)
    (hs : call.Sound)
    (he : call.evidence ≠ [] ∧ (call.evidence.map CheckpointEvidence.identity).Nodup) :
    ∃ c, transitionCheckpoint state newState call.policy rule call.evidence call.actionRef
        call.observedAt call.summary call.canonicalRefs call.uncertainties call.authorityGrant = .ok c ∧
      c.Binds newState := by
  have hrefs := uniqueNonempty_transitionRefs rule hs
  have hnext := rule.nonempty ("next_action_ref", rule.nextActionRef) (by simp)
  have hid := newState.nonempty ("portfolio_id", newState.portfolioId) (by simp)
  have hwork := state.active.nonempty ("work_id", state.active.workId) (by simp)
  have hrev := state.active.nonempty ("source_revision", state.active.sourceRevision) (by simp)
  have htexts := hs.nonempty
  let authorityStop := decide (rule.authorityMode = .humanRequired)
  let c : ExecutionCheckpoint := {
    portfolioId          := newState.portfolioId
    portfolioGeneration  := newState.generation
    portfolioStateDigest := newState.digest
    workId               := state.active.workId
    role                 := .active
    stateBefore          := state.active.state
    stateAfter           := rule.toState
    actionRef            := call.actionRef
    sourceRevision       := state.active.sourceRevision
    observedAt           := call.observedAt
    summary              := call.summary
    evidence             := call.evidence
    canonicalRefs        := transitionRefs call.policy rule call.canonicalRefs call.authorityGrant
    uncertainties        := call.uncertainties
    nextTransitionRefs   :=
      if authorityStop ∨ rule.toState = .complete ∨ rule.toState = .failed then []
      else [rule.nextActionRef]
    authorityStop        := authorityStop
    authorityBoundary    := if authorityStop then rule.authorityBoundary else none
    version              := rfl
    nonempty             := by simp_all
    isSha256             := by simpa using newState.isSha256_digest
    evident              := he.left
    distinct             := he.right
    refs                 := by simpa using hrefs
    hasRefs              := List.ne_nil_of_mem <| mem_transitionRefs.mpr <| .inr <| .inl rfl
    unique               := by
      simp only [List.mem_cons, List.not_mem_nil, or_false, forall_eq_or_imp, forall_eq]
      refine ⟨hs.uncertainties, ?_⟩
      split
      case isTrue  => simp [Guard.UniqueNonempty]
      case isFalse => simp [Guard.UniqueNonempty, hnext]
    stop                 := stopOk_rule
    passive              := by simp }
  exact ⟨c, c.new_eq, rfl, rfl, rfl⟩

omit [Sha256] in
theorem PortfolioState.eq_of_slots (slots : TransitionSlots)
    (hs : SlotsOk slots.active slots.secondary (sortedEntries slots.passive)) {d : String}
    (hd : IsSha256 d) :
    ∃ newState, PortfolioState.new state.portfolioId (state.generation + 1) slots.active
        slots.secondary (sortedEntries slots.passive) (some d) "ge.portfolio-state.v1" = .ok newState ∧
      newState.previousStateDigest = some d := by
  let s : PortfolioState := {
    portfolioId         := state.portfolioId
    generation          := state.generation + 1
    active              := slots.active
    secondary           := slots.secondary
    passive             := sortedEntries slots.passive
    previousStateDigest := some d
    version             := rfl
    nonempty            := state.nonempty
    slots               := hs
    genesis             := by simp
    isSha256            := by simpa [Guard.OptionalSha256] using hd }
  exact ⟨s, s.new_eq, rfl⟩

-- What a rule makes of the reported replacement of the Secondary.
def TransitionSlots.Reports (slots : TransitionSlots) (effect : TransitionEffect) : Prop :=
  if effect.IsRotating then
    (∃ id, slots.replacementWorkId = some id ∧ ¬Text.Blank id) ∧
      ∃ d, slots.wakeAdmissionDigest = some d ∧ IsSha256 d
  else slots.replacementWorkId = none ∧ slots.wakeAdmissionDigest = none

theorem PortfolioTransitionResult.new_of (policy : TransitionPolicy) {c : ExecutionCheckpoint}
    (hw : rule.effect ≠ .wakePassive) (hreports : slots.Reports rule.effect)
    (hd : Guard.OptionalSha256 digest) (hprev : newState.previousStateDigest = some state.digest)
    (hbinds : c.Binds newState) :
    ∃ t, new state.digest policy.digest rule.digest rule.effect newState c slots.replacementWorkId
      digest slots.wakeAdmissionDigest = .ok t := by
  have h₁ : ∀ x ∈ [("previous_state_digest", state.digest), ("policy_digest", policy.digest),
      ("rule_digest", rule.digest)], IsSha256 x.2 := by
    simp only [List.mem_cons, List.not_mem_nil, or_false, forall_eq_or_imp, forall_eq]
    exact ⟨isSha256_sha256Digest _, isSha256_sha256Digest _, isSha256_sha256Digest _⟩
  have h₂ : ∀ x ∈ [("replacement_secondary_work_id", slots.replacementWorkId)],
      Guard.NoneBlank x.2 := by
    unfold TransitionSlots.Reports at hreports
    split at hreports
    case isTrue  =>
      obtain ⟨⟨id, hid, hb⟩, _⟩ := hreports
      simpa [hid, Guard.NoneBlank] using hb
    case isFalse => simp [hreports.left, Guard.NoneBlank]
  have h₃ : ∀ x ∈ [("authority_grant_digest", digest),
      ("wake_admission_digest", slots.wakeAdmissionDigest)], Guard.OptionalSha256 x.2 := by
    simp only [List.mem_cons, List.not_mem_nil, or_false, forall_eq_or_imp, forall_eq]
    refine ⟨hd, ?_⟩
    unfold TransitionSlots.Reports at hreports
    split at hreports
    case isTrue  =>
      obtain ⟨_, d, hd, hs⟩ := hreports
      simpa [hd, Guard.OptionalSha256] using hs
    case isFalse => simp [hreports.right, Guard.OptionalSha256]
  have h₅ : if rule.effect.IsRotating then
      slots.replacementWorkId.isSome ∧ slots.wakeAdmissionDigest.isSome
      else slots.replacementWorkId.isNone ∧ slots.wakeAdmissionDigest.isNone := by
    unfold TransitionSlots.Reports at hreports
    split at hreports
    case isTrue h  =>
      obtain ⟨⟨id, hid, _⟩, d, hd, _⟩ := hreports
      simp [h, hid, hd]
    case isFalse h => simp [h, hreports]
  have h₇ : c.portfolioId = newState.portfolioId ∧ c.portfolioGeneration = newState.generation ∧
      c.portfolioStateDigest = newState.digest :=
    ⟨hbinds.portfolioId, hbinds.generation, hbinds.stateDigest⟩
  simp only [new, Guard.sha256_of h₁, Guard.optionalNonempty_of h₂, Guard.optionalSha256_of h₃,
    Py.check_of hw, Py.check_of h₅, Py.check_of hprev, Py.check_of h₇, Except.ok_bind]
  exact ⟨_, rfl⟩

-- A transition is accepted once its rule, its evidence, its authority and its slots are.
theorem TransitionCall.apply_of (hs : call.Sound)
    (hr : matchRuleForTransition call.policy state.active.state call.event = .ok rule)
    (hw : rule.effect ≠ .wakePassive) (he : verifyEvidence rule call.evidence = .ok ())
    (ha : verifyAuthority call.policy rule call.authorityGrant = .ok digest)
    (ht : transitionSlots state call.policy rule call.evidence call.replacement call.wakeAdmission
      call.authorityGrant = .ok slots)
    (hslots : SlotsOk slots.active slots.secondary (sortedEntries slots.passive))
    (hreports : slots.Reports rule.effect) : ∃ t, call.apply state = .ok t := by
  have ⟨newState, hn, hprev⟩ := state.eq_of_slots slots hslots state.isSha256_digest
  have ⟨hevident, hdistinct, _⟩ := verifyEvidence_eq_ok.mp he
  have ⟨c, hc, hbinds⟩ := transitionCheckpoint_eq_ok state newState rule hs ⟨hevident, hdistinct⟩
  have ⟨t, hnew⟩ := PortfolioTransitionResult.new_of call.policy hw hreports (verifyAuthority_isSha256 ha)
    hprev hbinds
  refine ⟨t, ?_⟩
  simp only [TransitionCall.apply, applyActiveTransition, Except.bind_eq_ok, Py.require_eq_ok,
    exists_const]
  exact ⟨_, Guard.nonempty_of hs.nonempty, hs.hasRefs, rule, hr, hw, (), he, digest, ha, slots, ht,
    newState, hn, c, hc, hnew⟩

end GeneralExecution
