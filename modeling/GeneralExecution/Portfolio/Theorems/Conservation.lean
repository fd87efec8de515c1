import GeneralExecution.Portfolio.Theorems.Acceptance

namespace GeneralExecution

section Conserved

variable [Sha256] {state newState : PortfolioState} {policy : TransitionPolicy}
variable {rule : TransitionRule} {evidence : List CheckpointEvidence} {slots : TransitionSlots}
variable {replacement : Option PortfolioEntry} {wakeAdmission : Option PassiveWakeAdmission}
variable {authorityGrant : Option TransitionAuthorityGrant} {t : PortfolioTransitionResult}

-- The work items of all lanes.
def PortfolioState.workIds (s : PortfolioState) : List String :=
  s.active.workId :: s.secondary.workId :: s.passive.map PortfolioEntry.workId

-- What a transition that does not rotate does with the lanes.
structure Stays (state newState : PortfolioState) : Prop where
  active    : state.active.SameWork newState.active
  secondary : newState.secondary = state.secondary
  passive   : newState.passive = state.passive
  workIds   : newState.workIds = state.workIds

-- The old Active waits among the passive entries, and the woken one takes the Secondary's place.
structure Parks (state newState : PortfolioState) (woken : PortfolioEntry) : Prop where
  passing   : woken ∈ state.passive
  active    : state.secondary.SameWork newState.active
  secondary : woken.SameWork newState.secondary
  passive   : ∃ parked, state.active.SameWork parked ∧
    ∀ e, e ∈ newState.passive ↔ e = parked ∨ e ∈ state.passive ∧ e.workId ≠ woken.workId
  workIds   : newState.workIds.Perm state.workIds

-- The same, except that the old Active leaves the portfolio.
structure Promotes (state newState : PortfolioState) (woken : PortfolioEntry) : Prop where
  passing   : woken ∈ state.passive
  active    : state.secondary.SameWork newState.active
  secondary : woken.SameWork newState.secondary
  passive   : ∀ e, e ∈ newState.passive ↔ e ∈ state.passive ∧ e.workId ≠ woken.workId
  workIds   : (state.active.workId :: newState.workIds).Perm state.workIds

def MovesLanes (state newState : PortfolioState) : TransitionEffect → Prop
  | .promoteSecondary => ∃ woken, Promotes state newState woken
  | .parkActive       => ∃ woken, Parks state newState woken
  | _                 => Stays state newState

structure LanesConserved (state : PortfolioState) (t : PortfolioTransitionResult) : Prop where
  slots      : SlotsOk t.newState.active t.newState.secondary t.newState.passive
  generation : t.newState.generation = state.generation + 1
  previous   : t.newState.previousStateDigest = some state.digest
  moves      : MovesLanes state t.newState t.effect

omit [Sha256] in
theorem Wakes.mem {woken secondary : PortfolioEntry} {remaining : List PortfolioEntry}
    (h : Wakes state woken secondary remaining) : woken ∈ state.passive :=
  h.split.mem_iff.mpr List.mem_cons_self

omit [Sha256] in
theorem Rotates.workIds {woken : PortfolioEntry} {remaining : List PortfolioEntry}
    (h : Rotates state newState woken remaining) :
    (state.active.workId :: newState.active.workId :: newState.secondary.workId ::
      remaining.map PortfolioEntry.workId).Perm state.workIds := by
  rw [PortfolioState.workIds, h.promoted.workId, h.same.workId]
  exact .cons _ <| .cons _ (h.split.map PortfolioEntry.workId).symm

omit [Sha256] in
theorem Rotates.promotes {woken : PortfolioEntry} {remaining : List PortfolioEntry}
    (h : Rotates state newState woken remaining) (hp : newState.passive.Perm remaining) :
    Promotes state newState woken := by
  constructor
  case passing   => exact h.mem
  case active    => exact h.promoted.toSameWork
  case secondary => exact h.same
  case passive   =>
    intro e
    rw [hp.mem_iff, h.remaining]
  case workIds   =>
    refine .trans ?_ h.workIds
    exact .cons _ <| .cons _ <| .cons _ <| hp.map PortfolioEntry.workId

omit [Sha256] in
theorem Rotates.parks {woken parked : PortfolioEntry} {remaining : List PortfolioEntry}
    (h : Rotates state newState woken remaining) (hs : state.active.SameWork parked)
    (hp : newState.passive.Perm (parked :: remaining)) : Parks state newState woken := by
  constructor
  case passing   => exact h.mem
  case active    => exact h.promoted.toSameWork
  case secondary => exact h.same
  case passive   =>
    refine ⟨parked, hs, ?_⟩
    intro e
    rw [hp.mem_iff, List.mem_cons, h.remaining]
  case workIds   =>
    refine .trans ?_ h.workIds
    have hm : (newState.passive.map PortfolioEntry.workId).Perm
        (state.active.workId :: remaining.map PortfolioEntry.workId) :=
      hs.workId ▸ hp.map PortfolioEntry.workId
    refine .trans (.cons _ <| .cons _ hm) ?_
    refine .trans (.cons _ <| .swap ..) ?_
    exact .swap ..

omit [Sha256] in
theorem rotatedPassive_eq_ok {remaining passive : List PortfolioEntry}
    (h : rotatedPassive state rule remaining = .ok passive) :
    if rule.effect = .promoteSecondary then passive = remaining
    else ∃ parked, state.active.SameWork parked ∧ passive.Perm (parked :: remaining) := by
  unfold rotatedPassive at h
  split at h
  case isTrue hp =>
    rw [if_pos hp]
    exact (Except.pure_eq_ok.mp h).symm
  case isFalse hp =>
    rw [if_neg hp]
    simp only [parkedActive, Except.bind_eq_ok, Py.require_eq_ok, Except.pure_eq_ok,
      exists_const] at h
    obtain ⟨parked, ⟨_, _, hparked⟩, hpassive⟩ := h
    subst hpassive
    refine ⟨parked, (PortfolioEntry.replace_eq_ok hparked).toSameWork, ?_⟩
    exact (sortedEntries_perm _).trans (List.perm_append_singleton parked remaining)

omit [Sha256] in
theorem stays_of_active (ha : state.active.SameWork newState.active)
    (hs : newState.secondary = state.secondary) (hp : newState.passive = state.passive) :
    Stays state newState := by
  constructor
  case active    => exact ha
  case secondary => exact hs
  case passive   => exact hp
  case workIds   => rw [PortfolioState.workIds, ha.workId, hs, hp, PortfolioState.workIds]

theorem movesLanes_of_slots
    (h : transitionSlots state policy rule evidence replacement wakeAdmission authorityGrant =
      .ok slots)
    (hf : slots.Fill newState) : MovesLanes state newState rule.effect := by
  by_cases hr : rule.effect.IsRotating
  case pos =>
    have ⟨woken, remaining, _, _, _, hrot, passive, hpassive, hperm⟩ :=
      transitionSlots_rotating h hf hr
    have hp := rotatedPassive_eq_ok hpassive
    cases hr
    case inl he =>
      rw [if_pos he] at hp
      subst hp
      exact he ▸ ⟨woken, hrot.promotes hperm⟩
    case inr he =>
      rw [if_neg (by simp [he])] at hp
      have ⟨parked, hs, hp⟩ := hp
      exact he ▸ ⟨woken, hrot.parks hs (hperm.trans hp)⟩
  case neg =>
    have ⟨hsecondary, hpassive, hactive⟩ := transitionSlots_staying h hf hr
    have hsame : state.active.SameWork newState.active := by
      split at hactive
      case isTrue  => exact (authorityStoppedActive_eq_ok hactive).toSameWork
      case isFalse => exact (continuedActive_eq_ok hactive).toSameWork
    have hstays := stays_of_active hsame hsecondary hpassive
    cases he : rule.effect
    case promoteSecondary => exact absurd (.inl he) hr
    case parkActive       => exact absurd (.inr he) hr
    all_goals exact hstays

-- The transitions of a run, each with the state that it starts from.
inductive PortfolioState.Run (s : PortfolioState) :
    List (PortfolioState × PortfolioTransitionResult) → PortfolioState → Prop
  | refl : Run s [] s
  | step {steps s' t} {call : TransitionCall} :
    Run s steps s' → call.apply s' = .ok t → Run s (steps ++ [(s', t)]) t.newState

-- The work items that a run completes.
def completed (steps : List (PortfolioState × PortfolioTransitionResult)) : List String :=
  (steps.filter (·.2.effect = .promoteSecondary)).map (·.1.active.workId)

theorem TransitionCall.lanesConserved {call : TransitionCall} (h : call.apply state = .ok t) :
    LanesConserved state t := by
  have ⟨rule, ht⟩ := applyActiveTransition_eq_ok h
  have ⟨slots, hs, hf⟩ := ht.slots
  constructor
  case slots      => exact t.newState.slots
  case generation => exact ht.precedes.generation
  case previous   => exact ht.precedes.previous
  case moves      => exact ht.effect ▸ movesLanes_of_slots hs hf

theorem LanesConserved.workIds (h : LanesConserved state t) :
    (completed [(state, t)] ++ t.newState.workIds).Perm state.workIds := by
  have hm := h.moves
  cases he : t.effect
  case promoteSecondary =>
    rw [he] at hm
    have ⟨_, hp⟩ := hm
    simpa [completed, he] using hp.workIds
  case parkActive       =>
    rw [he] at hm
    have ⟨_, hp⟩ := hm
    simpa [completed, he] using hp.workIds
  all_goals
    rw [he] at hm
    have hs : Stays state t.newState := hm
    simp [completed, he, hs.workIds]

-- No transition loses, doubles or rewrites a work item, and no run does.
theorem portfolio_lanesConserved {s s' : PortfolioState}
    {steps : List (PortfolioState × PortfolioTransitionResult)} (h : s.Run steps s') :
    (∀ x ∈ steps, LanesConserved x.1 x.2) ∧ s'.generation = s.generation + steps.length ∧
      (completed steps ++ s'.workIds).Perm s.workIds := by
  induction h
  case refl => simp [completed]
  case step steps s' t call _ ht ih =>
    have ⟨hsteps, hgen, hids⟩ := ih
    have hc := call.lanesConserved ht
    refine ⟨?_, ?_, ?_⟩
    case refine_1 =>
      intro x hx
      cases List.mem_append.mp hx
      case inl hx => exact hsteps x hx
      case inr hx => exact List.mem_singleton.mp hx ▸ hc
    case refine_2 =>
      rw [hc.generation, hgen, List.length_append, List.length_singleton, Nat.add_assoc]
    case refine_3 =>
      have hcat : completed (steps ++ [(s', t)]) = completed steps ++ completed [(s', t)] := by
        simp [completed]
      rw [hcat, List.append_assoc]
      exact (hc.workIds.append_left _).trans hids

end Conserved

section Parked

def laneBlocker : PortfolioBlocker where
  kind         := .externalDependency
  detail       := "detail"
  evidenceRefs := []
  version      := rfl
  nonempty     := by decide
  unique       := by decide

def laneWake : WakeCondition where
  kind     := .eventReceived
  value    := "event"
  version  := rfl
  nonempty := by decide

def laneEntry (workId : String) (hw : ¬Text.Blank workId) (role : PortfolioRole)
    (state : PortfolioLifecycleState) (blockers : List PortfolioBlocker)
    (wakeCondition : Option WakeCondition) (hb : (blockers.map PortfolioBlocker.key).Nodup)
    (hr : RoleOk role state none blockers wakeCondition) : PortfolioEntry where
  workId            := workId
  role              := role
  state             := state
  objective         := "objective"
  activeGate        := "gate"
  nextActionRef     := "action"
  sourceRevision    := "revision"
  evidenceRequired  := []
  authorityBoundary := none
  authorityRef      := none
  blockers          := blockers
  wakeCondition     := wakeCondition
  checkpointRef     := none
  version           := rfl
  nonempty          := by simpa using ⟨hw, by decide, by decide, by decide, by decide⟩
  unique            := by decide
  optional          := by simp [Guard.NoneBlank]
  blockersUnique    := hb
  roleOk            := hr

def waitingEntry : PortfolioEntry :=
  laneEntry "waiting" (by decide) .active .waitingExternal [laneBlocker] (some laneWake) (by decide)
    (by decide)

def nextEntry : PortfolioEntry :=
  laneEntry "next" (by decide) .secondary .ready [] none (by decide) (by decide)

def sleepingEntry : PortfolioEntry :=
  laneEntry "sleeping" (by decide) .passive .passive [laneBlocker] (some laneWake) (by decide)
    (by decide)

def laneState : PortfolioState where
  portfolioId         := "portfolio"
  generation          := 0
  active              := waitingEntry
  secondary           := nextEntry
  passive             := [sleepingEntry]
  previousStateDigest := none
  version             := rfl
  nonempty            := by decide
  slots               := by decide
  genesis             := by decide
  isSha256            := by simp [Guard.OptionalSha256]

def laneRule (ruleId : String) (hr : ¬Text.Blank ruleId) (fromState : PortfolioLifecycleState)
    (event : TransitionEvent) (toState : PortfolioLifecycleState) (effect : TransitionEffect)
    (hk : RuleOk fromState event toState effect .none none) : TransitionRule where
  ruleId            := ruleId
  fromState         := fromState
  event             := event
  toState           := toState
  nextActionRef     := "action"
  effect            := effect
  requiredEvidence  := []
  authorityMode     := .none
  authorityBoundary := none
  version           := rfl
  nonempty          := by simpa using ⟨hr, by decide⟩
  unique            := by decide
  optional          := by simp [Guard.NoneBlank]
  ruleOk            := hk

def parkRule : TransitionRule :=
  laneRule "park" (by decide) .waitingExternal .externalBlocker .passive .parkActive (by decide)

def wakeRule : TransitionRule :=
  laneRule "wake" (by decide) .passive .wakeSatisfied .ready .wakePassive (by decide)

def lanePolicy : TransitionPolicy where
  policyId    := "policy"
  revision    := "revision"
  rules       := [parkRule, wakeRule]
  version     := rfl
  nonempty    := by decide
  stops       := rfl
  hasRule     := by simp
  ruleIds     := by decide
  sorted      := by decide
  unambiguous := by decide

variable [Sha256]

def laneEvidence (kind : String) (hk : ¬Text.Blank kind) : CheckpointEvidence where
  kind     := kind
  locator  := "locator"
  digest   := sha256Digest .none
  version  := rfl
  nonempty := by simpa using ⟨hk, by decide⟩
  isSha256 := by simpa using isSha256_sha256Digest _

def sleepingAdmission : PassiveWakeAdmission where
  portfolioId          := "portfolio"
  portfolioGeneration  := 0
  portfolioStateDigest := laneState.digest
  workId               := "sleeping"
  wakeConditionDigest  := laneWake.digest
  policyDigest         := lanePolicy.digest
  ruleDigest           := wakeRule.digest
  evidence             := [laneEvidence "wake_condition_satisfied" (by decide)]
  nextActionRef        := "action"
  authorityGrant       := none
  version              := rfl
  nonempty             := by decide
  isSha256             := by
    simp only [List.mem_cons, List.not_mem_nil, or_false, forall_eq_or_imp, forall_eq]
    exact ⟨isSha256_sha256Digest _, isSha256_sha256Digest _, isSha256_sha256Digest _,
      isSha256_sha256Digest _⟩
  evident              := by simp
  sorted               := by simp
  distinct             := by simp

def parkCall : TransitionCall where
  policy         := lanePolicy
  event          := "external_blocker"
  evidence       := [laneEvidence "external_blocker" (by decide),
    laneEvidence "no_internal_work" (by decide)]
  actionRef      := "action"
  observedAt     := "observed"
  summary        := "summary"
  canonicalRefs  := ["canonical"]
  uncertainties  := []
  replacement    := none
  wakeAdmission  := some sleepingAdmission
  authorityGrant := none

def parkedEntry : PortfolioEntry :=
  laneEntry "waiting" (by decide) .passive .passive [laneBlocker] (some laneWake) (by decide)
    (by decide)

def parkedSlots : TransitionSlots where
  active              := laneEntry "next" (by decide) .active .ready [] none (by decide) (by decide)
  secondary           :=
    laneEntry "sleeping" (by decide) .secondary .ready [] none (by decide) (by decide)
  passive             := [parkedEntry]
  replacementWorkId   := "sleeping"
  wakeAdmissionDigest := sleepingAdmission.digest

theorem secondaryFromWake_sleeping :
    secondaryFromWake laneState lanePolicy sleepingAdmission = .ok (parkedSlots.secondary, []) := by
  have he : verifyEvidence wakeRule sleepingAdmission.evidence = .ok () :=
    verifyEvidence_eq_ok.mpr <| by
      simp [sleepingAdmission, laneEvidence, wakeRule, laneRule, mandatoryEffectEvidence]
  simp only [secondaryFromWake, Except.bind_eq_ok, Py.require_eq_ok, exists_const]
  exact ⟨⟨rfl, rfl, rfl, rfl⟩, sleepingEntry, rfl, laneWake, rfl, rfl, wakeRule, rfl,
    ⟨rfl, rfl, rfl⟩, (), he, none, rfl, parkedSlots.secondary, rfl,
    by simp [sortedEntries, laneState, sleepingEntry, laneEntry]⟩

theorem transitionSlots_parkCall :
    transitionSlots laneState lanePolicy parkRule parkCall.evidence none (some sleepingAdmission)
      none = .ok parkedSlots := by
  have hr : parkRule.effect.IsRotating := .inr rfl
  simp only [transitionSlots, if_pos hr, replacementSecondary, Except.bind_eq_ok, Py.require_eq_ok,
    exists_const]
  have hp : rotatedPassive laneState parkRule [] = .ok [parkedEntry] := by
    have ha : parkedActive laneState.active parkRule = .ok parkedEntry := rfl
    have he : parkRule.effect ≠ .promoteSecondary := by decide
    simp [rotatedPassive, he, ha, sortedEntries]
  exact ⟨_, ⟨rfl, sleepingAdmission, rfl, _, secondaryFromWake_sleeping, rfl⟩, _, rfl, _, hp, rfl⟩

theorem parkedSlots_ok :
    SlotsOk parkedSlots.active parkedSlots.secondary (sortedEntries parkedSlots.passive) := by
  have hp : sortedEntries parkedSlots.passive = [parkedEntry] := by
    simp [sortedEntries, parkedSlots]
  rw [hp]
  constructor
  case inActive    => rfl
  case inSecondary => rfl
  case inPassive   => simp [parkedEntry, laneEntry]
  case sorted      => simp
  case unique      => simp [parkedSlots, parkedEntry, laneEntry]

theorem exists_parked : ∃ t, parkCall.apply laneState = .ok t := by
  have hs : parkCall.Sound := by
    constructor
    case nonempty      => simpa [parkCall] using ⟨by decide, by decide, by decide⟩
    case hasRefs       => simp [parkCall]
    case refs          => simpa [parkCall] using by decide
    case uncertainties => simp [parkCall, Guard.UniqueNonempty]
  have he : verifyEvidence parkRule parkCall.evidence = .ok () :=
    verifyEvidence_eq_ok.mpr <| by
      simp [parkCall, laneEvidence, parkRule, laneRule, mandatoryEffectEvidence,
        CheckpointEvidence.identity]
  have hm : matchRuleForTransition lanePolicy .waitingExternal "external_blocker" = .ok parkRule :=
    rfl
  have ha : verifyAuthority lanePolicy parkRule none = .ok none := rfl
  refine TransitionCall.apply_of hs hm (by decide) he ha transitionSlots_parkCall ?_ ?_
  case refine_1 => exact parkedSlots_ok
  case refine_2 =>
    have hr : parkRule.effect.IsRotating := .inr rfl
    rw [TransitionSlots.Reports, if_pos hr]
    exact ⟨⟨_, rfl, by decide⟩, _, rfl, isSha256_sha256Digest _⟩

omit [Sha256] in
theorem portfolio_lanesConserved_parked :
    let _ := Sha256.blind
    ∃ t, LanesConserved laneState t ∧
      (completed [(laneState, t)] ++ t.newState.workIds).Perm laneState.workIds := by
  let _ := Sha256.blind
  have ⟨t, ht⟩ := exists_parked
  have ⟨hsteps, _, hids⟩ := portfolio_lanesConserved (.step .refl ht)
  exact ⟨t, hsteps _ List.mem_cons_self, hids⟩

end Parked

end GeneralExecution
