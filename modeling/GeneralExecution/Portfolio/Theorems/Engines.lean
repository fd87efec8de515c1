import GeneralExecution.Portfolio.Signal
import GeneralExecution.Portfolio.Theorems.Conservation
import GeneralExecution.Portfolio.Theorems.HumanGates

namespace GeneralExecution

-- The work items of the passive lane.
def PortfolioState.passiveIds (s : PortfolioState) : List String :=
  s.passive.map PortfolioEntry.workId

-- Two states have the same work in the same lanes.
structure SameLanes (s s' : PortfolioState) : Prop where
  generation : s.generation = s'.generation
  previous   : s.previousStateDigest = s'.previousStateDigest
  active     : s.active.workId = s'.active.workId ∧ s.active.state = s'.active.state
  secondary  : s.secondary.workId = s'.secondary.workId ∧ s.secondary.state = s'.secondary.state
  passive    : s.passiveIds = s'.passiveIds

-- Two checkpoints are about the same step of the same work.
structure SameStep (c c' : ExecutionCheckpoint) : Prop where
  workId        : c.workId = c'.workId
  stateBefore   : c.stateBefore = c'.stateBefore
  stateAfter    : c.stateAfter = c'.stateAfter
  authorityStop : c.authorityStop = c'.authorityStop

theorem PortfolioState.secondary_ready (s : PortfolioState) : s.secondary.state = .ready := by
  have hr := s.secondary.roleOk
  rw [s.slots.inSecondary] at hr
  exact hr.left

-- The passive lane is sorted.
theorem PortfolioState.passiveIds_eq_of_perm {s s' : PortfolioState}
    (h : s.passiveIds.Perm s'.passiveIds) : s.passiveIds = s'.passiveIds :=
  h.eq_of_pairwise (fun _ _ _ _ => le_antisymm) s.slots.sorted s'.slots.sorted

section Moves

variable [Sha256] {state newState newState' : PortfolioState} {rule : TransitionRule}
variable {woken woken' : String} {policy : TransitionPolicy} {event : String}

-- The passive lane after a rule, of which a rotation takes the woken item.
def movedIds (state : PortfolioState) (rule : TransitionRule) (woken : String) : List String :=
  if rule.effect.IsRotating then
    state.passiveIds.filter (· ≠ woken) ++
      if rule.effect = .parkActive then [state.active.workId] else []
  else state.passiveIds

-- Where a rule moves the work.
structure MovesWork (state : PortfolioState) (rule : TransitionRule) (woken : String)
    (newState : PortfolioState) : Prop where
  generation : newState.generation = state.generation + 1
  previous   : newState.previousStateDigest = some state.digest
  active     :
    if rule.effect.IsRotating then
      newState.active.workId = state.secondary.workId ∧ newState.active.state = .ready
    else newState.active.workId = state.active.workId ∧ newState.active.state = rule.toState
  secondary  :
    newState.secondary.workId = if rule.effect.IsRotating then woken else state.secondary.workId
  passive    : newState.passiveIds.Perm (movedIds state rule woken)

theorem MovesWork.sameLanes (h : MovesWork state rule woken newState)
    (h' : MovesWork state rule woken' newState') (hw : rule.effect.IsRotating → woken = woken') :
    SameLanes newState newState' := by
  have hids : movedIds state rule woken = movedIds state rule woken' := by
    unfold movedIds
    split
    case isTrue hr => rw [hw hr]
    case isFalse   => rfl
  constructor
  case generation => rw [h.generation, h'.generation]
  case previous   => rw [h.previous, h'.previous]
  case active     =>
    have ha := h.active
    have ha' := h'.active
    split at ha
    case isTrue hr  =>
      rw [if_pos hr] at ha'
      exact ⟨ha.left.trans ha'.left.symm, ha.right.trans ha'.right.symm⟩
    case isFalse hr =>
      rw [if_neg hr] at ha'
      exact ⟨ha.left.trans ha'.left.symm, ha.right.trans ha'.right.symm⟩
  case secondary  =>
    refine ⟨?_, newState.secondary_ready.trans newState'.secondary_ready.symm⟩
    rw [h.secondary, h'.secondary]
    split
    case isTrue hr => exact hw hr
    case isFalse   => rfl
  case passive    =>
    refine PortfolioState.passiveIds_eq_of_perm ?_
    exact h.passive.trans <| hids ▸ h'.passive.symm

-- The first engine.

variable {evidence : List CheckpointEvidence} {refs : List String} {t : PortfolioTransitionResult}
variable {replacement : Option PortfolioEntry} {wakeAdmission : Option PassiveWakeAdmission}
variable {authorityGrant : Option TransitionAuthorityGrant}

omit [Sha256] in
theorem Wakes.remaining_ids {item secondary : PortfolioEntry} {remaining : List PortfolioEntry}
    (h : Wakes state item secondary remaining) :
    (remaining.map PortfolioEntry.workId).Perm (state.passiveIds.filter (· ≠ item.workId)) := by
  have hp : (state.passiveIds.filter (· ≠ item.workId)).Perm
      (((item :: remaining).map PortfolioEntry.workId).filter (· ≠ item.workId)) :=
    (h.split.map PortfolioEntry.workId).filter _
  refine .trans (.of_eq ?_) hp.symm
  have hne : ∀ id ∈ remaining.map PortfolioEntry.workId, id ≠ item.workId := by
    intro id hid
    have ⟨e, he, hid⟩ := List.mem_map.mp hid
    exact hid ▸ ((h.remaining e).mp he).right
  rw [List.map_cons, List.filter_cons_of_neg (by simp)]
  exact (List.filter_eq_self.mpr fun id hid => decide_eq_true (hne id hid)).symm

omit [Sha256] in
theorem rotatedPassive_ids {item secondary : PortfolioEntry}
    {remaining passive : List PortfolioEntry} (hw : Wakes state item secondary remaining)
    (h : rotatedPassive state rule remaining = .ok passive) (hr : rule.effect.IsRotating) :
    (passive.map PortfolioEntry.workId).Perm (movedIds state rule item.workId) := by
  have hp := rotatedPassive_eq_ok h
  rw [movedIds, if_pos hr]
  cases hr
  case inl he =>
    rw [if_pos he] at hp
    rw [if_neg (by simp [he]), List.append_nil, hp]
    exact hw.remaining_ids
  case inr he =>
    rw [if_neg (by simp [he])] at hp
    have ⟨parked, hs, hp⟩ := hp
    rw [if_pos he]
    refine (hp.map _).trans <| .trans ?_ (List.perm_append_singleton ..).symm
    rw [List.map_cons, hs.workId]
    exact .cons _ hw.remaining_ids

theorem ActiveTransition.movesWork
    (h : ActiveTransition state policy event evidence refs replacement wakeAdmission authorityGrant t
      rule) :
    ∃ woken, (rule.effect.IsRotating → wakeAdmission.map PassiveWakeAdmission.workId = some woken) ∧
      MovesWork state rule woken t.newState := by
  have ⟨slots, hslots, hfill⟩ := h.slots
  by_cases hr : rule.effect.IsRotating
  case pos =>
    have ⟨item, remaining, admission, hadmission, hid, hrot, passive, hpassive, hperm⟩ :=
      transitionSlots_rotating hslots hfill hr
    refine ⟨item.workId, fun _ => by rw [hadmission, Option.map_some, hid], ?_⟩
    constructor
    case generation => exact h.precedes.generation
    case previous   => exact h.precedes.previous
    case active     =>
      rw [if_pos hr]
      exact ⟨hrot.promoted.workId, hrot.promoted.state⟩
    case secondary  =>
      rw [if_pos hr]
      exact hrot.same.workId
    case passive    => exact (hperm.map _).trans <| rotatedPassive_ids hrot.toWakes hpassive hr
  case neg =>
    have ⟨hsecondary, hpassive, hactive⟩ := transitionSlots_staying hslots hfill hr
    refine ⟨"", fun hr' => absurd hr' hr, ?_⟩
    constructor
    case generation => exact h.precedes.generation
    case previous   => exact h.precedes.previous
    case active     =>
      rw [if_neg hr]
      split at hactive
      case isTrue he  =>
        have ha := authorityStoppedActive_eq_ok hactive
        exact ⟨ha.workId, ha.state.trans (rule.ruleOk.human (rule.ruleOk.stop he)).left.symm⟩
      case isFalse he =>
        have ha := continuedActive_eq_ok hactive
        exact ⟨ha.workId, ha.state⟩
    case secondary  => rw [if_neg hr, hsecondary]
    case passive    => rw [movedIds, if_neg hr, PortfolioState.passiveIds, hpassive, PortfolioState.passiveIds]

end Moves

section Signals

open Signal

variable [Sha256] {state newState : PortfolioState} {rule : TransitionRule}
variable {policy : TransitionPolicy} {event : String} {evidence : List CheckpointEvidence}
variable {wakeAdmission : Option SignalPassiveWakeAdmission} {park : ParkInputs}
variable {authorityRef : Option String} {moved : Move} {passive : List PortfolioEntry}

omit [Sha256] in
theorem Signal.findPassive_eq_ok {id : String} {item : PortfolioEntry}
    (h : Signal.findPassive state id = .ok item) : item.workId = id := by
  unfold Signal.findPassive at h
  split at h
  case h_1 item' hf =>
    cases h
    have hm : item ∈ state.passive.filter fun item => item.workId = id := by
      rw [hf]
      exact List.mem_singleton_self item
    exact of_decide_eq_true (List.mem_filter.mp hm).right
  case h_2 => cases h

theorem Signal.verifyWakeAdmission_eq_ok {admission : SignalPassiveWakeAdmission}
    {item : PortfolioEntry} (h : verifyWakeAdmission state policy admission evidence = .ok item) :
    item.workId = admission.workId := by
  simp only [verifyWakeAdmission, Except.bind_eq_ok, Py.require_eq_ok, Except.pure_eq_ok,
    exists_const] at h
  obtain ⟨_, _, hfind, _, _, _, _, _, _, _, _, _, _, _, _, hitem⟩ := h
  exact hitem ▸ Signal.findPassive_eq_ok hfind

omit [Sha256] in
theorem Signal.promotedActive_eq_ok {e e' : PortfolioEntry}
    (h : Signal.promotedActive e = .ok e') : e.Replaced e' .active .ready none := by
  simp only [Signal.promotedActive, Except.bind_eq_ok] at h
  have ⟨_, _, h⟩ := h
  exact PortfolioEntry.replace_eq_ok h

omit [Sha256] in
theorem Signal.parkedActive_eq_ok {e e' : PortfolioEntry}
    (h : Signal.parkedActive e park = .ok e') : e.SameWork e' := by
  simp only [Signal.parkedActive, Except.bind_eq_ok] at h
  have ⟨_, _, _, _, h⟩ := h
  exact (PortfolioEntry.replace_eq_ok h).toSameWork

theorem Signal.rotate_movesWork (hr : rule.effect.IsRotating)
    (h : rotate state policy rule evidence wakeAdmission park = .ok moved) :
    ∃ woken, wakeAdmission.map SignalPassiveWakeAdmission.workId = some woken ∧
      MovesWork state rule woken moved.nextState := by
  simp only [rotate, Except.bind_eq_ok, Py.ofOption_eq_ok, Except.pure_eq_ok] at h
  obtain ⟨admission, hadmission, item, hitem, active, hactive, passive, hpassive, next, hnext, hmoved⟩ := h
  have hid := verifyWakeAdmission_eq_ok hitem
  have ha := Signal.promotedActive_eq_ok hactive
  obtain ⟨_, hgen, hprev, hfillActive, hfillSecondary, hfillPassive⟩ := PortfolioState.new_eq_ok hnext
  subst hmoved
  refine ⟨admission.workId, by rw [hadmission, Option.map_some], ?_⟩
  constructor
  case generation => exact hgen
  case previous   => exact hprev
  case active     =>
    rw [if_pos hr, hfillActive]
    exact ⟨ha.workId, ha.state⟩
  case secondary  =>
    rw [if_pos hr, hfillSecondary]
    exact admission.identity
  case passive    =>
    have hperm : next.passiveIds.Perm (passive.map PortfolioEntry.workId) := by
      rw [PortfolioState.passiveIds, hfillPassive]
      exact (sortedEntries_perm passive).map _
    refine hperm.trans ?_
    have hfilter : (state.passive.filter fun e => e.workId ≠ item.workId).map PortfolioEntry.workId =
        state.passiveIds.filter (· ≠ admission.workId) := by
      rw [PortfolioState.passiveIds, List.filter_map, hid]
      rfl
    rw [movedIds, if_pos hr]
    unfold Signal.rotatedPassive at hpassive
    split at hpassive
    case isTrue he  =>
      simp only [Except.bind_eq_ok, Except.pure_eq_ok] at hpassive
      obtain ⟨_, _, hpassive⟩ := hpassive
      rw [if_neg (by simp [he]), List.append_nil, ← hpassive, hfilter]
    case isFalse he =>
      simp only [Except.bind_eq_ok, Except.pure_eq_ok] at hpassive
      obtain ⟨parked, hparked, hpassive⟩ := hpassive
      have hpark : rule.effect = .parkActive := hr.resolve_left he
      rw [if_pos hpark, ← hpassive, List.map_append, hfilter, List.map_singleton,
        (Signal.parkedActive_eq_ok hparked).workId]

-- A move that changes the Active entry alone.
theorem Signal.nextState_movesWork {active : PortfolioEntry} (hr : ¬rule.effect.IsRotating)
    (hid : active.workId = state.active.workId) (hs : active.state = rule.toState)
    (h : nextState state active state.secondary state.passive = .ok newState) :
    MovesWork state rule "" newState := by
  have ⟨_, hgen, hprev, hactive, hsecondary, hpassive⟩ := PortfolioState.new_eq_ok h
  constructor
  case generation => exact hgen
  case previous   => exact hprev
  case active     =>
    rw [if_neg hr, hactive]
    exact ⟨hid, hs⟩
  case secondary  => rw [if_neg hr, hsecondary]
  case passive    =>
    rw [movedIds, if_neg hr, PortfolioState.passiveIds, hpassive, state.sortedEntries_passive,
      PortfolioState.passiveIds]

theorem Signal.stop_movesWork (he : rule.effect = .stopHumanGate)
    (h : stop state rule evidence = .ok moved) : MovesWork state rule "" moved.nextState := by
  simp only [stop, Except.bind_eq_ok, Except.pure_eq_ok] at h
  obtain ⟨boundary, _, blocker, _, active, hactive, next, hnext, hmoved⟩ := h
  have ha := PortfolioEntry.replace_eq_ok hactive
  have hr : ¬rule.effect.IsRotating := by simp [TransitionEffect.IsRotating, he]
  have hto := (rule.ruleOk.human (rule.ruleOk.stop he)).left
  subst hmoved
  exact nextState_movesWork hr ha.workId (ha.state.trans hto.symm) hnext

theorem Signal.stay_movesWork (hr : ¬rule.effect.IsRotating)
    (h : stay state rule wakeAdmission park authorityRef = .ok moved) :
    MovesWork state rule "" moved.nextState := by
  simp only [stay, Except.bind_eq_ok, Except.pure_eq_ok] at h
  obtain ⟨_, _, active, hactive, next, hnext, hmoved⟩ := h
  have ha := PortfolioEntry.replace_eq_ok hactive
  subst hmoved
  exact nextState_movesWork hr ha.workId ha.state hnext

theorem Signal.move_movesWork
    (h : move state policy rule evidence wakeAdmission park authorityRef = .ok moved) :
    ∃ woken, (rule.effect.IsRotating →
        wakeAdmission.map SignalPassiveWakeAdmission.workId = some woken) ∧
      MovesWork state rule woken moved.nextState := by
  unfold move at h
  split at h
  case isTrue hr  =>
    have ⟨woken, hw, hm⟩ := rotate_movesWork hr h
    exact ⟨woken, fun _ => hw, hm⟩
  case isFalse hr =>
    refine ⟨"", fun hr' => absurd hr' hr, ?_⟩
    split at h
    case isTrue he => exact stop_movesWork he h
    case isFalse   => exact stay_movesWork hr h

end Signals

section Agreement

variable [Sha256] {state : PortfolioState} {policy : TransitionPolicy} {event : String}
variable {evidence : List CheckpointEvidence} {t : PortfolioTransitionResult}
variable {a : AspTransitionApplication} {rule : TransitionRule}

omit [Sha256] in
theorem ExecutionCheckpoint.subject_of_new {portfolioId : String} {generation : Nat}
    {stateDigest workId role stateBefore stateAfter actionRef sourceRevision observedAt
      summary : String}
    {evidence : List CheckpointEvidence} {canonicalRefs uncertainties nextRefs : List String}
    {authorityStop : Bool} {authorityBoundary : Option String} {schemaVersion : String}
    {c : ExecutionCheckpoint}
    (h : new portfolioId generation stateDigest workId role stateBefore stateAfter actionRef
      sourceRevision observedAt summary evidence canonicalRefs uncertainties nextRefs authorityStop
      authorityBoundary schemaVersion = .ok c) :
    c.workId = workId ∧ PyLiteral.parse? stateBefore = some c.stateBefore := by
  simp only [new, Except.bind_eq_ok, Except.pure_eq_ok, Py.ofOption_eq_ok] at h
  obtain ⟨_, _, _, _, _, _, _, _, _, hs, _, _, _, _, _, _, _, _, _, _, _, _, _, _, _, _, rfl⟩ := h
  exact ⟨rfl, hs⟩

-- What the checkpoint of a rule says.
structure ExecutionCheckpoint.Steps (c : ExecutionCheckpoint) (state : PortfolioState)
    (rule : TransitionRule) : Prop where
  workId        : c.workId = state.active.workId
  stateBefore   : c.stateBefore = state.active.state
  stateAfter    : c.stateAfter = rule.toState
  authorityStop : c.authorityStop = decide (rule.effect = .stopHumanGate)

omit [Sha256] in
theorem ExecutionCheckpoint.Steps.sameStep {c c' : ExecutionCheckpoint} (h : c.Steps state rule)
    (h' : c'.Steps state rule) : SameStep c c' where
  workId        := h.workId.trans h'.workId.symm
  stateBefore   := h.stateBefore.trans h'.stateBefore.symm
  stateAfter    := h.stateAfter.trans h'.stateAfter.symm
  authorityStop := h.authorityStop.trans h'.authorityStop.symm

theorem applyActiveTransition_steps {actionRef observedAt summary : String}
    {refs uncertainties : List String} {replacement : Option PortfolioEntry}
    {wakeAdmission : Option PassiveWakeAdmission} {authorityGrant : Option TransitionAuthorityGrant}
    (h : applyActiveTransition state policy event evidence actionRef observedAt summary refs
      uncertainties replacement wakeAdmission authorityGrant = .ok t) :
    ∃ rule, ActiveTransition state policy event evidence refs replacement wakeAdmission authorityGrant
      t rule ∧ t.checkpoint.Steps state rule := by
  obtain ⟨rule, ht⟩ := applyActiveTransition_eq_ok h
  refine ⟨rule, ht, ?_⟩
  simp only [applyActiveTransition, transitionCheckpoint, Except.bind_eq_ok] at h
  obtain ⟨_, _, _, _, _, _, _, _, _, _, _, _, _, _, _, _, c, hc, hnew⟩ := h
  simp only [PortfolioTransitionResult.new, Except.bind_eq_ok, Except.pure_eq_ok] at hnew
  obtain ⟨_, _, _, _, _, _, _, _, _, _, _, _, _, _, he⟩ := hnew
  have hcheckpoint : t.checkpoint = c := congrArg PortfolioTransitionResult.checkpoint he.symm
  obtain ⟨hid, hbefore⟩ := ExecutionCheckpoint.subject_of_new hc
  rw [PyLiteral.parse?, PyLiteral.parse_spelling] at hbefore
  constructor
  case workId        => exact hcheckpoint ▸ hid
  case stateBefore   => exact hcheckpoint ▸ (Option.some.inj hbefore).symm
  case stateAfter    => exact ht.stops.stateAfter
  case authorityStop =>
    have hmode : rule.authorityMode = .humanRequired ↔ rule.effect = .stopHumanGate :=
      ⟨fun hm => (rule.ruleOk.human hm).right, rule.ruleOk.stop⟩
    rw [Bool.eq_iff_iff, ht.stops.stop, hmode, decide_eq_true_iff]

theorem applyAspTransition_eq_ok {observedAt summary : String} {refs uncertainties : List String}
    {wakeAdmission : Option SignalPassiveWakeAdmission} {park : Signal.ParkInputs}
    {authorityRef : Option String}
    (h : applyAspTransition state policy event evidence observedAt summary refs uncertainties
      wakeAdmission park authorityRef = .ok a) :
    ∃ rule woken, matchTransitionRule policy state.active.state event = .ok rule ∧
      (rule.effect.IsRotating →
        wakeAdmission.map SignalPassiveWakeAdmission.workId = some woken) ∧
      MovesWork state rule woken a.nextState ∧ a.checkpoint.Steps state rule := by
  simp only [applyAspTransition, Except.bind_eq_ok, Signal.matchRule, Py.wrap_eq_ok] at h
  obtain ⟨_, _, _, _, _, _, rule, hrule, _, _, _, _, _, _, moved, hmoved, c, hc, hnew⟩ := h
  simp only [AspTransitionApplication.new, Except.bind_eq_ok, Except.pure_eq_ok] at hnew
  obtain ⟨_, _, _, _, _, _, _, _, _, _, _, _, _, _, _, _, he⟩ := hnew
  subst he
  obtain ⟨woken, hw, hm⟩ := Signal.move_movesWork hmoved
  obtain ⟨hid, hbefore⟩ := ExecutionCheckpoint.subject_of_new hc
  obtain ⟨_, _, _, _, hstop, _, hafter⟩ := ExecutionCheckpoint.new_eq_ok hc
  rw [PyLiteral.parse?, PyLiteral.parse_spelling] at hbefore hafter
  refine ⟨rule, woken, hrule, hw, hm, ?_⟩
  constructor
  case workId        => exact hid
  case stateBefore   => exact (Option.some.inj hbefore).symm
  case stateAfter    => exact (Option.some.inj hafter).symm
  case authorityStop => exact hstop

-- Whenever both engines accept the same event, they move the same work to the same lanes.
theorem engines_agree {actionRef observedAt observedAt' summary summary' : String}
    {refs refs' uncertainties uncertainties' : List String} {replacement : Option PortfolioEntry}
    {wakeAdmission : Option PassiveWakeAdmission}
    {wakeAdmission' : Option SignalPassiveWakeAdmission}
    {authorityGrant : Option TransitionAuthorityGrant} {park : Signal.ParkInputs}
    {authorityRef : Option String}
    (h : applyActiveTransition state policy event evidence actionRef observedAt summary refs
      uncertainties replacement wakeAdmission authorityGrant = .ok t)
    (h' : applyAspTransition state policy event evidence observedAt' summary' refs' uncertainties'
      wakeAdmission' park authorityRef = .ok a)
    (hw : ∀ rule, matchTransitionRule policy state.active.state event = .ok rule →
      rule.effect.IsRotating → ∀ admission ∈ wakeAdmission, ∀ admission' ∈ wakeAdmission',
        admission.workId = admission'.workId) :
    SameLanes t.newState a.nextState ∧ SameStep t.checkpoint a.checkpoint := by
  obtain ⟨rule, ht, hs⟩ := applyActiveTransition_steps h
  obtain ⟨rule', woken', hrule', hwoken', hm', hs'⟩ := applyAspTransition_eq_ok h'
  have hrule := ht.matched
  rw [matchRuleForTransition, Except.mapError_eq_ok, hrule'] at hrule
  cases hrule
  obtain ⟨woken, hwoken, hm⟩ := ht.movesWork
  refine ⟨hm.sameLanes hm' fun hr => ?_, hs.sameStep hs'⟩
  obtain ⟨admission, hadm, hid⟩ := Option.map_eq_some_iff.mp (hwoken hr)
  obtain ⟨admission', hadm', hid'⟩ := Option.map_eq_some_iff.mp (hwoken' hr)
  rw [← hid, ← hid']
  exact hw rule hrule' hr admission hadm admission' hadm'

end Agreement

section Parked

variable [Sha256]

omit [Sha256] in
theorem blocker_not_blank : ¬Text.Blank "external_blocker" := by
  decide

-- The wake of the sleeping item, as the second engine admits it.
def sleepingSignal : SignalPassiveWakeAdmission where
  workId             := "sleeping"
  policyDigest       := lanePolicy.digest
  ruleDigest         := wakeRule.digest
  conditionDigest    := laneWake.digest
  evidenceDigest     := (laneEvidence "external_blocker" blocker_not_blank).evidenceDigest
  candidateSecondary := parkedSlots.secondary
  version            := rfl
  nonempty           := by decide
  isSha256           := by
    simp only [List.mem_cons, List.not_mem_nil, or_false, forall_eq_or_imp, forall_eq]
    exact ⟨isSha256_sha256Digest _, isSha256_sha256Digest _, isSha256_sha256Digest _,
      isSha256_sha256Digest _⟩
  identity           := rfl
  ready              := ⟨rfl, rfl⟩
  noBlockers         := rfl
  noWake             := rfl

def parkInputs : Signal.ParkInputs where
  blockers      := [laneBlocker]
  wakeCondition := some laneWake

theorem verifyWakeAdmission_sleepingSignal :
    Signal.verifyWakeAdmission laneState lanePolicy sleepingSignal parkCall.evidence =
      .ok sleepingEntry := by
  have hm : Signal.matchRule "wake transition is not policy-admissible" lanePolicy .passive
      "wake_satisfied" = .ok wakeRule := rfl
  have hf : Signal.findPassive laneState "sleeping" = .ok sleepingEntry := rfl
  have hc : Signal.wakeCandidate sleepingEntry = .ok parkedSlots.secondary := rfl
  simp only [Signal.verifyWakeAdmission, Except.bind_eq_ok, Py.require_eq_ok, exists_const]
  exact ⟨rfl, sleepingEntry, hf, laneWake, rfl, rfl, by simp [sleepingSignal, parkCall], wakeRule, hm,
    rfl, _, hc, rfl, (), Py.require_eq_ok.mpr rfl, rfl⟩

theorem exists_parkedBySignal :
    ∃ a, applyAspTransition laneState lanePolicy "external_blocker" parkCall.evidence "observed"
      "summary" ["canonical"] [] (some sleepingSignal) parkInputs none = .ok a := by
  have hm : Signal.matchRule "active transition is not policy-admissible" lanePolicy
      laneState.active.state "external_blocker" = .ok parkRule := rfl
  have hp : Signal.parkedActive laneState.active parkInputs = .ok parkedEntry := rfl
  have hr : parkRule.effect.IsRotating := .inr rfl
  have ⟨s, hs, hprev⟩ := laneState.eq_of_slots parkedSlots parkedSlots_ok laneState.isSha256_digest
  have hrotated : Signal.rotatedPassive laneState parkRule [] parkInputs = .ok [parkedEntry] := by
    rw [Signal.rotatedPassive, if_neg (by decide), hp]
    rfl
  have hrotate : Signal.rotate laneState lanePolicy parkRule parkCall.evidence (some sleepingSignal)
      parkInputs = .ok ⟨s, ["action"], some sleepingSignal.digest⟩ := by
    simp only [Signal.rotate, Except.bind_eq_ok, Py.ofOption_eq_ok]
    exact ⟨sleepingSignal, rfl, sleepingEntry, verifyWakeAdmission_sleepingSignal, parkedSlots.active,
      rfl, [parkedEntry], hrotated, s, hs, rfl⟩
  let c : ExecutionCheckpoint := {
    portfolioId          := s.portfolioId
    portfolioGeneration  := s.generation
    portfolioStateDigest := s.digest
    workId               := "waiting"
    role                 := .active
    stateBefore          := .waitingExternal
    stateAfter           := .passive
    actionRef            := "action"
    sourceRevision       := "revision"
    observedAt           := "observed"
    summary              := "summary"
    evidence             := parkCall.evidence
    canonicalRefs        := ["canonical"]
    uncertainties        := []
    nextTransitionRefs   := ["action"]
    authorityStop        := false
    authorityBoundary    := none
    version              := rfl
    nonempty             := by
      have hid := s.nonempty ("portfolio_id", s.portfolioId) (by simp)
      simp only [List.mem_cons, List.not_mem_nil, or_false, forall_eq_or_imp, forall_eq]
      exact ⟨hid, by decide, by decide, by decide, by decide, by decide⟩
    isSha256             := by simpa using s.isSha256_digest
    evident              := by simp [parkCall]
    distinct             := by simp [parkCall, laneEvidence, CheckpointEvidence.identity]
    refs                 := by decide
    hasRefs              := by simp
    unique               := by decide
    stop                 := by decide
    passive              := by simp }
  have hsha : ∀ x ∈ [("previous_state_digest", laneState.digest),
      ("policy_digest", lanePolicy.digest), ("rule_digest", parkRule.digest)], IsSha256 x.2 := by
    simp only [List.mem_cons, List.not_mem_nil, or_false, forall_eq_or_imp, forall_eq]
    exact ⟨isSha256_sha256Digest _, isSha256_sha256Digest _, isSha256_sha256Digest _⟩
  have hwake : ∀ x ∈ [("wake_admission_digest", some sleepingSignal.digest)],
      Guard.OptionalSha256 x.2 := by
    intro x hx
    cases List.mem_singleton.mp hx
    intro d hd
    cases hd
    exact isSha256_sha256Digest _
  let a : AspTransitionApplication := {
    previousStateDigest := laneState.digest
    nextState           := s
    checkpoint          := c
    policyDigest        := lanePolicy.digest
    ruleDigest          := parkRule.digest
    event               := "external_blocker"
    effect              := parkRule.effect
    wakeAdmissionDigest := some sleepingSignal.digest
    isSha256            := hsha
    nonempty            := by decide
    supported           := by decide
    optional            := hwake
    binds               := ⟨hprev, rfl, rfl, rfl⟩ }
  have hnew : AspTransitionApplication.new laneState.digest s c lanePolicy.digest parkRule.digest
      "external_blocker" parkRule.effect (some sleepingSignal.digest) = .ok a := by
    simp only [AspTransitionApplication.new, Except.bind_eq_ok]
    exact ⟨_, Guard.sha256_of a.isSha256, _, Guard.nonempty_of a.nonempty, _, Py.check_of a.supported,
      _, Guard.optionalSha256_of a.optional, _, Py.check_of a.binds.previous, _,
      Py.check_of a.binds.portfolioId, _, Py.check_of a.binds.generation, _,
      Py.check_of a.binds.stateDigest, rfl⟩
  refine ⟨a, ?_⟩
  simp only [applyAspTransition, Except.bind_eq_ok, Py.require_eq_ok, exists_const]
  refine ⟨by simp [parkCall], _, rfl, by simp, parkRule, hm, by decide, (), rfl, (), rfl,
    ⟨s, ["action"], some sleepingSignal.digest⟩, ?_, c, c.new_eq, hnew⟩
  rw [Signal.move, if_pos hr, hrotate]

omit [Sha256] in
theorem engines_agree_parked :
    let _ := Sha256.blind
    ∃ (t : PortfolioTransitionResult) (a : AspTransitionApplication),
      SameLanes t.newState a.nextState ∧ SameStep t.checkpoint a.checkpoint := by
  let _ := Sha256.blind
  have ⟨t, ht⟩ := exists_parked
  have ⟨a, ha⟩ := exists_parkedBySignal
  refine ⟨t, a, engines_agree ht ha fun _ _ _ admission hadm admission' hadm' => ?_⟩
  cases hadm
  cases hadm'
  rfl

end Parked

end GeneralExecution
