import GeneralExecution.Portfolio.Theorems.Transitions

namespace GeneralExecution

theorem mem_sortedEntries {entries : List PortfolioEntry} {e : PortfolioEntry} :
    e ∈ sortedEntries entries ↔ e ∈ entries :=
  (List.mergeSort_perm ..).mem_iff

theorem sortedEntries_perm (entries : List PortfolioEntry) : (sortedEntries entries).Perm entries :=
  List.mergeSort_perm ..

-- The passive entries of a state are sorted already.
theorem PortfolioState.sortedEntries_passive (s : PortfolioState) :
    sortedEntries s.passive = s.passive := by
  have h := s.slots.sorted
  rw [List.pairwise_map] at h
  exact List.mergeSort_of_pairwise <| h.imp fun hle => decide_eq_true hle

variable [Sha256] {state newState : PortfolioState} {policy : TransitionPolicy}
variable {rule : TransitionRule} {evidence : List CheckpointEvidence} {slots : TransitionSlots}
variable {replacement : Option PortfolioEntry} {wakeAdmission : Option PassiveWakeAdmission}
variable {authorityGrant : Option TransitionAuthorityGrant} {t : PortfolioTransitionResult}

omit [Sha256] in
theorem findPassive_eq_ok {id : String} {item : PortfolioEntry}
    (h : findPassive state id = .ok item) :
    (state.passive.filter fun item => item.workId = id) = [item] ∧ item.workId = id := by
  unfold findPassive at h
  split at h
  case h_1 item' hf =>
    cases h
    have hm : item ∈ state.passive.filter fun item => item.workId = id := by
      rw [hf]
      exact List.mem_singleton_self item
    exact ⟨hf, of_decide_eq_true (List.mem_filter.mp hm).right⟩
  case h_2 => cases h

-- The passive entry that a wake admission makes the Secondary.
structure Wakes (state : PortfolioState) (woken secondary : PortfolioEntry)
    (remaining : List PortfolioEntry) : Prop where
  same      : woken.SameWork secondary
  split     : state.passive.Perm (woken :: remaining)
  remaining : ∀ e, e ∈ remaining ↔ e ∈ state.passive ∧ e.workId ≠ woken.workId

theorem secondaryFromWake_eq_ok {admission : PassiveWakeAdmission} {secondary : PortfolioEntry}
    {remaining : List PortfolioEntry}
    (h : secondaryFromWake state policy admission = .ok (secondary, remaining)) :
    ∃ woken, woken.workId = admission.workId ∧ Wakes state woken secondary remaining := by
  simp only [secondaryFromWake, Except.bind_eq_ok, Py.require_eq_ok, Except.pure_eq_ok,
    Prod.mk.injEq, exists_const] at h
  obtain ⟨_, item, hi, _, _, _, _, _, _, _, _, _, _, new, hn, hsec, hrem⟩ := h
  obtain ⟨hf, hid⟩ := findPassive_eq_ok hi
  subst hsec hrem
  refine ⟨item, hid, ?_⟩
  constructor
  case same      => exact (PortfolioEntry.replace_eq_ok hn).toSameWork
  case remaining =>
    intro e
    rw [mem_sortedEntries, List.mem_filter, decide_eq_true_eq]
  case split     =>
    have hp := List.filter_append_perm (fun e : PortfolioEntry => decide (e.workId = item.workId))
      state.passive
    rw [hid, hf, ← hid] at hp
    refine hp.symm.trans (.cons item ?_)
    simpa using (sortedEntries_perm _).symm

-- What a rotation does with the other two lanes.
structure Rotates (state newState : PortfolioState) (woken : PortfolioEntry)
    (remaining : List PortfolioEntry) : Prop
    extends Wakes state woken newState.secondary remaining where
  promoted : state.secondary.Replaced newState.active .active .ready none

theorem transitionSlots_rotating
    (h : transitionSlots state policy rule evidence replacement wakeAdmission authorityGrant =
      .ok slots)
    (hf : slots.Fill newState) (hr : rule.effect.IsRotating) :
    ∃ woken remaining admission, wakeAdmission = some admission ∧ woken.workId = admission.workId ∧
      Rotates state newState woken remaining ∧
      ∃ passive, rotatedPassive state rule remaining = .ok passive ∧
        newState.passive.Perm passive := by
  simp only [transitionSlots, if_pos hr, replacementSecondary, Except.bind_eq_ok, Py.require_eq_ok,
    Py.ofOption_eq_ok, Except.pure_eq_ok, exists_const] at h
  obtain ⟨_, ⟨_, admission, hadm, ⟨secondary, remaining⟩, hwake, hout⟩, active, hactive, passive,
    hpassive, hslots⟩ := h
  cases hout
  cases hslots
  obtain ⟨woken, hid, hw⟩ := secondaryFromWake_eq_ok hwake
  refine ⟨woken, remaining, admission, hadm, hid, ?_, passive, hpassive, ?_⟩
  case refine_1 =>
    constructor
    case toWakes  => exact hf.secondary ▸ hw
    case promoted => exact hf.active ▸ PortfolioEntry.replace_eq_ok hactive
  case refine_2 =>
    rw [hf.passive]
    exact sortedEntries_perm passive

omit [Sha256] in
theorem authorityStoppedActive_eq_ok {e e' : PortfolioEntry}
    (h : authorityStoppedActive e rule evidence = .ok e') :
    e.Replaced e' e.role .humanGate rule.authorityBoundary := by
  simp only [authorityStoppedActive, Except.bind_eq_ok, Py.ofOption_eq_ok] at h
  obtain ⟨boundary, hb, _, _, h⟩ := h
  exact hb ▸ PortfolioEntry.replace_eq_ok h

-- Leaving the gate clears its boundary, which any other rule keeps.
omit [Sha256] in
theorem continuedActive_eq_ok {e e' : PortfolioEntry}
    (h : continuedActive e rule authorityGrant = .ok e') :
    e.Replaced e' e.role rule.toState
      (if e.state = .humanGate then none else e.authorityBoundary) := by
  rw [continuedActive, Py.wrap_eq_ok] at h
  split at h
  case isTrue hs =>
    simp only [Except.bind_eq_ok, Py.ofOption_eq_ok] at h
    obtain ⟨_, _, h⟩ := h
    rw [if_pos hs]
    exact PortfolioEntry.replace_eq_ok h
  case isFalse hs =>
    rw [if_neg hs]
    split at h
    case isTrue  => exact PortfolioEntry.replace_eq_ok h
    case isFalse => exact PortfolioEntry.replace_eq_ok h

theorem transitionSlots_staying
    (h : transitionSlots state policy rule evidence replacement wakeAdmission authorityGrant =
      .ok slots)
    (hf : slots.Fill newState) (hr : ¬rule.effect.IsRotating) :
    newState.secondary = state.secondary ∧ newState.passive = state.passive ∧
      if rule.effect = .stopHumanGate then
        authorityStoppedActive state.active rule evidence = .ok newState.active
      else continuedActive state.active rule authorityGrant = .ok newState.active := by
  simp only [transitionSlots, if_neg hr, Except.bind_eq_ok, Py.require_eq_ok, exists_const] at h
  obtain ⟨_, h⟩ := h
  have hpassive := hf.passive
  split at h
  case isTrue hs =>
    simp only [Except.bind_eq_ok, Except.pure_eq_ok] at h
    obtain ⟨active, hactive, hslots⟩ := h
    cases hslots
    rw [if_pos hs, hf.active]
    exact ⟨hf.secondary, hpassive.trans state.sortedEntries_passive, hactive⟩
  case isFalse hs =>
    simp only [Except.bind_eq_ok, Except.pure_eq_ok] at h
    obtain ⟨active, hactive, hslots⟩ := h
    cases hslots
    rw [if_neg hs, hf.active]
    exact ⟨hf.secondary, hpassive.trans state.sortedEntries_passive, hactive⟩

theorem transitionSlots_staying_of {active : PortfolioEntry} (hr : ¬rule.effect.IsRotating)
    (ha : if rule.effect = .stopHumanGate then
        authorityStoppedActive state.active rule evidence = .ok active
      else continuedActive state.active rule authorityGrant = .ok active) :
    transitionSlots state policy rule evidence none none authorityGrant =
      .ok ⟨active, state.secondary, state.passive, none, none⟩ := by
  simp only [transitionSlots, if_neg hr, Except.bind_eq_ok, Py.require_eq_ok, exists_const]
  refine ⟨⟨rfl, rfl⟩, ?_⟩
  split at ha
  case isTrue hs  => simp only [if_pos hs, ha, Except.ok_bind, Except.pure_eq_ok]
  case isFalse hs => simp only [if_neg hs, ha, Except.ok_bind, Except.pure_eq_ok]

-- The arguments of a transition.
structure TransitionCall where
  policy         : TransitionPolicy
  event          : String
  evidence       : List CheckpointEvidence
  actionRef      : String
  observedAt     : String
  summary        : String
  canonicalRefs  : List String
  uncertainties  : List String
  replacement    : Option PortfolioEntry
  wakeAdmission  : Option PassiveWakeAdmission
  authorityGrant : Option TransitionAuthorityGrant

def TransitionCall.apply (call : TransitionCall) (state : PortfolioState) :
    Py PortfolioTransitionResult :=
  applyActiveTransition state call.policy call.event call.evidence call.actionRef call.observedAt
    call.summary call.canonicalRefs call.uncertainties call.replacement call.wakeAdmission
    call.authorityGrant

end GeneralExecution
