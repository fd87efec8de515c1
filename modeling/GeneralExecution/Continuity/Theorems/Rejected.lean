import GeneralExecution.Continuity.Theorems.Conversation

namespace GeneralExecution.Continuity

-- The pieces of evidence that an inspection can reject.
inductive EvidencePiece
  | durable
  | buildColony
  | provider
  | launchAdmission
  | executorActivation
  | repository

def ContinuitySnapshot.Rejects (s : ContinuitySnapshot) (identity : WorkstreamCandidate) :
    EvidencePiece → Prop
  | .durable            => s.durable.isSome ∧ (s.accept identity).durable = none
  | .buildColony        => s.buildColony.isSome ∧ (s.accept identity).colony = none
  | .provider           => s.provider.isSome ∧ (s.accept identity).provider = none
  | .launchAdmission    => s.launchAdmission.isSome ∧ (s.accept identity).launch = none
  | .executorActivation => s.executorActivation.isSome ∧ (s.accept identity).activation = none
  | .repository         => s.repository.isSome ∧ (s.accept identity).repo = none

def DifferOnlyIn (s s' : ContinuitySnapshot) : EvidencePiece → Prop
  | .durable            => s' = { s with durable := s'.durable }
  | .buildColony        => s' = { s with buildColony := s'.buildColony }
  | .provider           => s' = { s with provider := s'.provider }
  | .launchAdmission    => s' = { s with launchAdmission := s'.launchAdmission }
  | .executorActivation => s' = { s with executorActivation := s'.executorActivation }
  | .repository         => s' = { s with repository := s'.repository }

-- Two reports agree on everything that evidence decides.
structure Agree (r r' : ContinuityReport) : Prop where
  developmentVerdict      : r.developmentVerdict = r'.developmentVerdict
  blockingGate            : r.blockingGate = r'.blockingGate
  latestExecutionEvidence : r.latestExecutionEvidence = r'.latestExecutionEvidence
  durableState            : r.durableState = r'.durableState
  recommendedAction       : r.recommendedAction = r'.recommendedAction
  infrastructureStatus    : r.infrastructureStatus = r'.infrastructureStatus

-- A development that is not yet done and for which no gate is pending.
structure Open (s : ContinuitySnapshot) (e : AcceptedEvidence) : Prop where
  unfinished : ¬e.canonicalDone
  ungated    : ∀ gate ∈ s.gates, gate.satisfied

-- Nothing is decided before the executor, which waits for a condition.
structure WaitsForExecutor (s : ContinuitySnapshot) (e : AcceptedEvidence) : Prop extends Open s e where
  launch     : ¬e.launchIs [.humanGate, .rejected, .failedBeforeLaunch]
  provider   : ∀ p ∈ e.provider, p.state ≠ .active ∧ p.failureScope ≠ .workload
  colony     : truthy (e.colony.bind BuildColonyEvidence.terminalVerdict) = none
  activation : e.activationIs .conditionWait

-- The workload has failed, and only at the provider.
structure FailsAtProvider (s : ContinuitySnapshot) (e : AcceptedEvidence) : Prop extends Open s e where
  launch     : ¬e.launchIs [.humanGate, .rejected, .failedBeforeLaunch]
  activation : ¬e.activationIs .failedActivation
  provider   : ∃ p ∈ e.provider, p.failureScope = .workload

-- A durable state spells out the wait of an executor as its own.
def DurableStateEvidence.Restates (durable : DurableStateEvidence)
    (activation : ExecutorActivationEvidence) : Prop :=
  durable.wakeCondition = activation.conditionRef ∧
  (truthy activation.detail).getD "executor activation condition wait" = "observable wake condition" ∧
  durable.currentFrontier = some activation.activationRef

-- Two durable states name the same wait besides that of an executor.
def SameWait (durable durable' : DurableStateEvidence) (activation : ExecutorActivationEvidence) :
    Prop :=
  match truthy durable.wakeCondition, truthy durable'.wakeCondition with
  | none,   none    => True
  | some w, some w' => w = w' ∧ durable.currentFrontier = durable'.currentFrontier
  | some _, none    => durable.Restates activation
  | none,   some _  => durable'.Restates activation

section Leaks

variable [IsoFormat]

-- The commit of the repository if no accepted evidence is later.
def ContinuitySnapshot.leadingCommit (s : ContinuitySnapshot) (e : AcceptedEvidence) :
    Option Progress :=
  (s.repository.bind RepositoryEvidence.progress).filter fun commit =>
    ∀ p ∈ e.progress, p.time.instant ≤ commit.time.instant

-- When the contents of a rejected piece of evidence have no influence.
def Harmless (s s' : ContinuitySnapshot) (identity : WorkstreamCandidate) : EvidencePiece → Prop
  | .durable    => ∀ durable ∈ s.durable, ∀ durable' ∈ s'.durable,
    (WaitsForExecutor s (s.accept identity) →
      ∀ activation ∈ (s.accept identity).activation, SameWait durable durable' activation) ∧
    (FailsAtProvider s (s.accept identity) → durable.currentFrontier = durable'.currentFrontier)
  | .repository =>
    (s.leadingCommit (s.accept identity)).map Progress.evidence =
      (s'.leadingCommit (s'.accept identity)).map Progress.evidence
  | _           => True

end Leaks

section Later

variable {p q m : Progress} {ps : List Progress}

-- The later of two times, when they can be compared.
def Progress.max (p q : Progress) : Progress :=
  if p.time.instant < q.time.instant then q else p

theorem Progress.later_eq_ok :
    p.later q = .ok m ↔ p.time.offset.isSome = q.time.offset.isSome ∧ m = p.max q := by
  simp only [Progress.later, Except.bind_eq_ok, Datetime.lt_eq_ok, Except.pure_eq_ok]
  constructor
  case mp  =>
    rintro ⟨before, ⟨ho, hb⟩, hm⟩
    refine ⟨ho, ?_⟩
    rw [← hm, Progress.max, hb]
    simp
  case mpr =>
    rintro ⟨ho, hm⟩
    exact ⟨_, ⟨ho, rfl⟩, by rw [hm, Progress.max]; simp⟩

theorem Progress.max_offset (h : p.time.offset.isSome = q.time.offset.isSome) :
    (p.max q).time.offset.isSome = p.time.offset.isSome := by
  unfold Progress.max
  split
  case isTrue  => exact h.symm
  case isFalse => rfl

theorem Progress.foldlM_later (h : ps.foldlM Progress.later p = .ok m) : m = ps.foldl Progress.max p := by
  induction ps generalizing p with
  | nil          => exact (Except.ok.inj h).symm
  | cons q ps ih =>
    simp only [List.foldlM_cons, Except.bind_eq_ok, Progress.later_eq_ok] at h
    obtain ⟨x, ⟨_, hx⟩, h⟩ := h
    rw [List.foldl_cons, ← hx]
    exact ih h

theorem Progress.max_eq_left (h : q.time.instant ≤ p.time.instant) : p.max q = p := by
  rw [Progress.max, if_neg (by omega)]

theorem Progress.max_eq_right (h : p.time.instant < q.time.instant) : p.max q = q := by
  rw [Progress.max, if_pos h]

theorem Progress.max_instant (p q : Progress) :
    (p.max q).time.instant = Max.max p.time.instant q.time.instant := by
  unfold Progress.max
  split <;> omega

instance : Std.Associative Progress.max where
  assoc p q m := by
    by_cases hqm : q.time.instant < m.time.instant
    case pos =>
      rw [Progress.max_eq_right hqm]
      by_cases hpm : p.time.instant < m.time.instant
      case pos =>
        rw [Progress.max_eq_right hpm, Progress.max_eq_right]
        rw [Progress.max_instant]
        omega
      case neg =>
        rw [Progress.max_eq_left (p := p) (q := q) (by omega)]
    case neg =>
      rw [Progress.max_eq_left (p := q) (q := m) (by omega), Progress.max_eq_left]
      rw [Progress.max_instant]
      omega

theorem Progress.foldl_max (p : Progress) (ps : List Progress) :
    ps.foldl Progress.max p ∈ p :: ps ∧
      ∀ q ∈ p :: ps, q.time.instant ≤ (ps.foldl Progress.max p).time.instant := by
  induction ps generalizing p with
  | nil          => simp
  | cons x ps ih =>
    have ⟨hmem, hle⟩ := ih (p.max x)
    rw [List.foldl_cons]
    constructor
    case left  =>
      cases List.mem_cons.mp hmem
      case inl h =>
        rw [h, Progress.max]
        split <;> simp
      case inr h => exact .tail _ (.tail _ h)
    case right =>
      have hp := hle _ List.mem_cons_self
      rw [Progress.max_instant] at hp
      intro q hq
      cases hq
      case head       => omega
      case tail hq =>
        cases hq
        case head    => omega
        case tail hq => exact hle q (.tail _ hq)

end Later

section Progresses

variable [IsoFormat] {s s' : ContinuitySnapshot} {e : AcceptedEvidence} {p : Progress}
variable {latest latest' : Option ExecutionEvidence}

-- The latest of the accepted evidence.
def AcceptedEvidence.newest (e : AcceptedEvidence) : Option Progress :=
  match e.progress with
  | []      => none
  | p :: ps => some (ps.foldl Progress.max p)

theorem AcceptedEvidence.newest_mem (h : e.newest = some p) : p ∈ e.progress := by
  unfold newest at h
  split at h
  case h_1           => cases h
  case h_2 q ps hp =>
    cases h
    rw [hp]
    exact (Progress.foldl_max q ps).left

-- The commit of the repository, accepted or not, comes before all accepted evidence.
theorem latestProgress_eq_ok (h : latestProgress s e = .ok latest) :
    latest = (s.leadingCommit e <|> e.newest).map Progress.evidence := by
  simp only [latestProgress, Except.bind_eq_ok, Except.pure_eq_ok] at h
  obtain ⟨m, hm, h⟩ := h
  rw [← h]
  refine congrArg _ ?_
  unfold ContinuitySnapshot.leadingCommit AcceptedEvidence.newest
  cases hr : s.repository.bind RepositoryEvidence.progress
  case none        =>
    rw [hr, Option.toList_none, List.nil_append] at hm
    split
    case h_1 hp   =>
      rw [hp] at hm
      exact (Except.ok.inj hm).symm
    case h_2 hp =>
      rw [hp] at hm
      simp only [Progress.latest, Except.map_eq_ok] at hm
      obtain ⟨x, hx, hm⟩ := hm
      rw [← hm, Progress.foldlM_later hx]
      rfl
  case some commit =>
    rw [hr, Option.toList_some, List.singleton_append] at hm
    simp only [Progress.latest, Except.map_eq_ok] at hm
    obtain ⟨x, hx, hm⟩ := hm
    rw [← hm, Progress.foldlM_later hx]
    cases hp : e.progress
    case nil       =>
      rw [Option.filter_some_pos (by simp)]
      rfl
    case cons q ps =>
      obtain ⟨hmem, hle⟩ := Progress.foldl_max q ps
      rw [List.foldl_cons, List.foldl_assoc]
      by_cases hc : ∀ p ∈ q :: ps, p.time.instant ≤ commit.time.instant
      case pos =>
        rw [Progress.max_eq_left (hc _ hmem), Option.filter_some, if_pos (decide_eq_true hc)]
        rfl
      case neg =>
        obtain ⟨p, hp, hlt⟩ : ∃ p ∈ q :: ps, commit.time.instant < p.time.instant := by
          push Not at hc
          exact hc
        rw [Progress.max_eq_right (lt_of_lt_of_le hlt (hle p hp)),
          Option.filter_some, if_neg (fun h => hc (of_decide_eq_true h))]
        rfl

theorem Progress.ref_of {value : Option String} {kind ref : String}
    (h : Progress.of value kind ref = some p) : p.ref = kind ++ ":" ++ ref := by
  have ⟨_, _, hp⟩ := Option.map_eq_some_iff.mp h
  exact hp ▸ rfl

theorem RepositoryEvidence.progress_ref {repo : RepositoryEvidence} (h : repo.progress = some p) :
    p.ref.toList.head? = some 'r' := by
  have ⟨commit, _, hp⟩ := Option.bind_eq_some_iff.mp h
  rw [Progress.ref_of hp]
  simp [String.toList_append]

theorem AcceptedEvidence.progress_ref (h : p ∈ e.progress) : p.ref.toList.head? ≠ some 'r' := by
  simp only [progress, List.reduceOption_mem_iff, List.mem_cons, List.not_mem_nil, or_false] at h
  rcases h with h | h | h | h | h
  case inl                 =>
    obtain ⟨_, _, hp⟩ := Option.bind_eq_some_iff.mp h.symm
    simp [Progress.ref_of hp, String.toList_append]
  case inr.inl             =>
    obtain ⟨_, _, hp⟩ := Option.bind_eq_some_iff.mp h.symm
    simp [Progress.ref_of hp, String.toList_append]
  case inr.inr.inl         =>
    obtain ⟨_, _, hp⟩ := Option.bind_eq_some_iff.mp h.symm
    obtain ⟨_, hp⟩ := Option.ite_none_right_eq_some.mp hp
    simp [Progress.ref_of hp, String.toList_append]
  case inr.inr.inr.inl     =>
    obtain ⟨_, _, hp⟩ := Option.bind_eq_some_iff.mp h.symm
    simp [Progress.ref_of hp, String.toList_append]
  case inr.inr.inr.inr     =>
    obtain ⟨_, _, hp⟩ := Option.bind_eq_some_iff.mp h.symm
    simp [Progress.ref_of hp, String.toList_append]

-- A leading commit cannot be taken for accepted evidence.
theorem leadingCommit_ne_newest {commit : Progress} (h : s.leadingCommit e = some commit)
    (h' : e.newest = some p) : commit.evidence ≠ p.evidence := by
  have ⟨hr, _⟩ := Option.filter_eq_some_iff.mp h
  have ⟨repo, _, hp⟩ := Option.bind_eq_some_iff.mp hr
  intro he
  have href : commit.ref = p.ref := congrArg ExecutionEvidence.ref he
  apply AcceptedEvidence.progress_ref (AcceptedEvidence.newest_mem h')
  rw [← href]
  exact RepositoryEvidence.progress_ref hp

theorem latest_eq_iff (h : latestProgress s e = .ok latest) (h' : latestProgress s' e = .ok latest') :
    latest = latest' ↔
      (s.leadingCommit e).map Progress.evidence = (s'.leadingCommit e).map Progress.evidence := by
  rw [latestProgress_eq_ok h, latestProgress_eq_ok h']
  cases hc : s.leadingCommit e <;> cases hc' : s'.leadingCommit e
  case none.none => simp
  case some.some => rfl
  case none.some =>
    cases hn : e.newest
    case none   => rfl
    case some p => simpa using (leadingCommit_ne_newest hc' hn).symm
  case some.none =>
    cases hn : e.newest
    case none   => rfl
    case some p => simpa using leadingCommit_ne_newest hc hn

end Progresses

section Verdicts

variable [IsoFormat] {s : ContinuitySnapshot} {e : AcceptedEvidence}
variable {latest : Option ExecutionEvidence} {verdict : DevelopmentVerdict}
variable {gate : Option GateEvidence} {conversation : ConversationEvidence}

omit [IsoFormat] in
theorem pendingGate_eq_none {gates : List GateEvidence} :
    pendingGate gates .human = none ∧ pendingGate gates .externalEvidence = none ↔
      ∀ gate ∈ gates, gate.satisfied := by
  simp only [pendingGate, List.find?_eq_none]
  constructor
  case mp  =>
    intro ⟨hh, hx⟩ gate hg
    have hh := hh gate hg
    have hx := hx gate hg
    cases hk : gate.kind <;> simp_all
  case mpr =>
    intro h
    constructor
    case left  => simp_all
    case right => simp_all

theorem judge_open (ho : Open s e) (h : judge s e latest = .ok (verdict, gate)) :
    gate = none ∧ openVerdict s.conversation e latest = .ok verdict := by
  obtain ⟨hh, hx⟩ := pendingGate_eq_none.mpr ho.ungated
  simp only [judge, if_neg ho.unfinished, hh, hx, Except.bind_eq_ok, Except.pure_eq_ok] at h
  obtain ⟨v, hv, h⟩ := h
  cases h
  exact ⟨rfl, hv⟩

-- Of a development that is done or waits at a gate, the evidence of gates decides alone.
theorem judge_not_open (ho : ¬Open s e) (h : judge s e latest = .ok (verdict, gate)) :
    gate.isSome ∨ verdict = .doneCanonical := by
  unfold judge at h
  split at h
  case isTrue  =>
    cases h
    exact .inr rfl
  case isFalse hc =>
    split at h
    case h_1         =>
      cases h
      exact .inl rfl
    case h_2         =>
      cases h
      exact .inl rfl
    case h_3 hh hx => exact absurd ⟨hc, pendingGate_eq_none.mp ⟨hh, hx⟩⟩ ho

omit [IsoFormat] in
theorem AcceptedEvidence.launchIs_cons (d : LaunchDisposition) (ds : List LaunchDisposition) :
    e.launchIs (d :: ds) = (e.launchIs [d] || e.launchIs ds) := by
  unfold launchIs
  cases e.launch <;> simp

omit [IsoFormat] in
theorem AcceptedEvidence.workloadFailure_iff (hd : e.durable = none) :
    e.workloadFailure ↔ ∃ p ∈ e.provider, p.failureScope = .workload := by
  unfold workloadFailure
  rw [hd]
  cases e.provider
  case none   => simp [truthy]
  case some p =>
    have hw := p.workload
    simp only [truthy]
    simp_all

omit [IsoFormat] in
-- An executor that waits has neither started nor failed.
theorem AcceptedEvidence.activationIs_inj {d d' : ExecutorActivationDisposition}
    (h : e.activationIs d) (h' : e.activationIs d') : d = d' := by
  unfold activationIs at h h'
  cases ha : e.activation <;> simp_all

-- What is behind the verdict on an open development without durable state.
inductive Undurable (e : AcceptedEvidence) : DevelopmentVerdict → Prop
  | humanGate : e.launchIs [.humanGate] → Undurable e .humanGate
  | failed :
    ¬e.launchIs [.humanGate] → (e.workloadFailure ∨ e.launchIs [.rejected, .failedBeforeLaunch] ∨
      e.activationIs .failedActivation) → Undurable e .failed
  | doneTechnical : Undurable e .doneTechnical
  | active {v : DevelopmentVerdict} : v.IsActive → Undurable e v
  | resting :
    ¬e.launchIs [.humanGate] → ¬e.workloadFailure → ¬e.launchIs [.rejected, .failedBeforeLaunch] →
    e.technicalTerminal.isNone → ¬e.activeExecution → Undurable e (restingVerdict e)

theorem openVerdict_of_durable_none (hd : e.durable = none) :
    openVerdict conversation e latest =
      if e.launchIs [.humanGate] then return .humanGate
      else if e.workloadFailure then return .failed
      else if e.launchIs [.rejected, .failedBeforeLaunch] then return .failed
      else if e.activationIs .failedActivation then return .failed
      else if e.technicalTerminal.isSome then return .doneTechnical
      else if e.activeExecution then activeVerdict conversation latest
      else return restingVerdict e := by
  have hs : ¬(truthy (e.durable.bind DurableStateEvidence.scheduledCheckpoint)).isSome := by
    simp [hd, truthy]
  have hw : ¬(truthy (e.durable.bind DurableStateEvidence.wakeCondition)).isSome := by
    simp [hd, truthy]
  rw [openVerdict, if_neg hs, if_neg hw]

theorem openVerdict_undurable (hd : e.durable = none)
    (h : openVerdict conversation e latest = .ok verdict) : Undurable e verdict := by
  rw [openVerdict_of_durable_none hd] at h
  split at h
  case isTrue hl  =>
    cases h
    exact .humanGate hl
  case isFalse hl =>
    split at h
    case isTrue hf  =>
      cases h
      exact .failed hl (.inl hf)
    case isFalse hf =>
      split at h
      case isTrue hr  =>
        cases h
        exact .failed hl (.inr <| .inl hr)
      case isFalse hr =>
        split at h
        case isTrue ha  =>
          cases h
          exact .failed hl (.inr <| .inr ha)
        case isFalse ha =>
          split at h
          case isTrue  =>
            cases h
            exact .doneTechnical
          case isFalse ht =>
            split at h
            case isTrue     => exact .active (activeVerdict_isActive h)
            case isFalse hx =>
              cases h
              exact .resting hl hf hr (by simpa using ht) hx

omit [IsoFormat] in
theorem restingVerdict_conditionWait (hd : e.durable = none) :
    restingVerdict e = .conditionWait ↔ e.activationIs .conditionWait := by
  unfold restingVerdict
  split
  case isTrue h  => simp [h]
  case isFalse h =>
    have hn : ∀ p : DurableStateEvidence → Bool, e.durable.any p = false := by simp [hd]
    simp only [hn, h, Bool.false_eq_true, if_false, iff_false]
    split
    case isTrue  => simp
    case isFalse =>
      split
      case isTrue  => split <;> simp
      case isFalse => simp

omit [IsoFormat] in
theorem AcceptedEvidence.activeExecution_iff (hd : e.durable = none) :
    e.activeExecution ↔ (∃ p ∈ e.provider, p.state = .active) ∨ e.activationIs .executorAccepted := by
  cases hp : e.provider <;> simp [activeExecution, activationIs, hd, hp]

omit [IsoFormat] in
theorem AcceptedEvidence.technicalTerminal_none (hd : e.durable = none) :
    e.technicalTerminal = truthy (e.colony.bind BuildColonyEvidence.terminalVerdict) := by
  rw [technicalTerminal, hd]
  rfl

omit [IsoFormat] in
theorem AcceptedEvidence.launchIs_undecided :
    ¬e.launchIs [.humanGate, .rejected, .failedBeforeLaunch] ↔
      ¬e.launchIs [.humanGate] ∧ ¬e.launchIs [.rejected, .failedBeforeLaunch] := by
  rw [launchIs_cons, Bool.or_eq_true, not_or]

theorem openVerdict_conditionWait (hd : e.durable = none) (ho : Open s e) :
    openVerdict conversation e latest = .ok .conditionWait ↔ WaitsForExecutor s e := by
  constructor
  case mp  =>
    intro h
    have hu := openVerdict_undurable hd h
    generalize hv : DevelopmentVerdict.conditionWait = v at hu
    cases hu
    case humanGate        => cases hv
    case failed           => cases hv
    case doneTechnical    => cases hv
    case active ha        => cases ha <;> simp_all
    case resting hl hf hr ht hx =>
      rw [AcceptedEvidence.workloadFailure_iff hd] at hf
      rw [AcceptedEvidence.activeExecution_iff hd, not_or] at hx
      rw [AcceptedEvidence.technicalTerminal_none hd] at ht
      constructor
      case toOpen     => exact ho
      case launch     => exact AcceptedEvidence.launchIs_undecided.mpr ⟨hl, hr⟩
      case provider   =>
        intro p hp
        exact ⟨fun hs => hx.left ⟨p, hp, hs⟩, fun hs => hf ⟨p, hp, hs⟩⟩
      case colony     => exact Option.isNone_iff_eq_none.mp ht
      case activation => exact (restingVerdict_conditionWait hd).mp hv.symm
  case mpr =>
    intro h
    have ⟨hl, hr⟩ := AcceptedEvidence.launchIs_undecided.mp h.launch
    have hf : ¬e.workloadFailure := by
      rw [AcceptedEvidence.workloadFailure_iff hd]
      intro ⟨p, hp, hs⟩
      exact (h.provider p hp).right hs
    have ha : ¬e.activationIs .failedActivation := fun ha =>
      nomatch AcceptedEvidence.activationIs_inj h.activation ha
    have ht : ¬e.technicalTerminal.isSome := by
      simp [AcceptedEvidence.technicalTerminal_none hd, h.colony]
    have hx : ¬e.activeExecution := by
      rw [AcceptedEvidence.activeExecution_iff hd]
      intro hx
      cases hx
      case inl hx =>
        have ⟨p, hp, hs⟩ := hx
        exact (h.provider p hp).left hs
      case inr hx => exact nomatch AcceptedEvidence.activationIs_inj h.activation hx
    rw [openVerdict_of_durable_none hd, if_neg hl, if_neg hf, if_neg hr, if_neg ha, if_neg ht,
      if_neg hx, (restingVerdict_conditionWait hd).mpr h.activation]
    rfl

omit [IsoFormat] in
theorem restingVerdict_ne_failed : restingVerdict e ≠ .failed := by
  unfold restingVerdict
  repeat' split
  all_goals simp

omit [IsoFormat] in
theorem restingVerdict_ne_scheduledWait : restingVerdict e ≠ .scheduledWait := by
  unfold restingVerdict
  repeat' split
  all_goals simp

theorem openVerdict_ne_scheduledWait (hd : e.durable = none) :
    openVerdict conversation e latest ≠ .ok .scheduledWait := by
  intro h
  have hu := openVerdict_undurable hd h
  generalize hv : DevelopmentVerdict.scheduledWait = v at hu
  cases hu
  case humanGate     => cases hv
  case failed        => cases hv
  case doneTechnical => cases hv
  case active ha     => cases ha <;> simp_all
  case resting       => exact restingVerdict_ne_scheduledWait hv.symm

theorem openVerdict_failed (h : openVerdict conversation e latest = .ok .failed) :
    e.workloadFailure ∨ e.launchIs [.rejected, .failedBeforeLaunch] ∨
      e.activationIs .failedActivation := by
  by_contra hn
  rw [not_or, not_or] at hn
  have ⟨hf, hr, ha⟩ := hn
  rw [openVerdict, if_neg hf, if_neg hr, if_neg ha] at h
  split at h
  case isTrue  => cases h
  case isFalse =>
    split at h
    case isTrue  => cases h
    case isFalse =>
      split at h
      case isTrue  => cases h
      case isFalse =>
        split at h
        case isTrue  => cases h
        case isFalse =>
          split at h
          case isTrue  => cases activeVerdict_isActive h <;> simp_all
          case isFalse => exact restingVerdict_ne_failed (Except.ok.inj h)

theorem FailsAtProvider.openVerdict (hd : e.durable = none) (h : FailsAtProvider s e) :
    openVerdict conversation e latest = .ok .failed := by
  have ⟨hl, _⟩ := AcceptedEvidence.launchIs_undecided.mp h.launch
  have hf := (AcceptedEvidence.workloadFailure_iff hd).mpr h.provider
  rw [openVerdict_of_durable_none hd, if_neg hl, if_pos hf]
  rfl

end Verdicts

section Influence

variable {s s' : ContinuitySnapshot} {e : AcceptedEvidence} {verdict : DevelopmentVerdict}
variable {gate : Option GateEvidence}

-- A gate that the evidence of gates or of the launch names hides the one of the verdict.
theorem blockingGate_eq_iff :
    blockingGate s e verdict gate = blockingGate s' e verdict gate ↔
      (gate = none → ¬e.launchIs [.humanGate] →
        verdictGate s e verdict = verdictGate s' e verdict) := by
  unfold blockingGate
  split
  case h_1 gate _   => simp
  case h_2 launch hl =>
    have hh : e.launchIs [.humanGate] := by
      have ⟨hl, hd⟩ := Option.filter_eq_some_iff.mp hl
      simpa [AcceptedEvidence.launchIs, hl] using hd
    simp [hh]
  case h_3 hl =>
    have hh : ¬e.launchIs [.humanGate] := by
      unfold AcceptedEvidence.launchIs
      cases ha : e.launch <;> simp_all
    simp [hh]

-- A failed launch or a failed activation hides what else has failed.
theorem failureGate_eq_of_decided
    (h : e.launchIs [.rejected, .failedBeforeLaunch] ∨ e.activationIs .failedActivation) :
    failureGate s e = failureGate s' e := by
  unfold failureGate
  cases h
  case inl h =>
    unfold AcceptedEvidence.launchIs at h
    cases hl : e.launch <;> simp_all
  case inr h =>
    unfold AcceptedEvidence.activationIs at h
    cases ha : e.activation <;> simp_all

theorem failureGate_eq_iff (hd : e.durable = none)
    (hl : ¬e.launchIs [.rejected, .failedBeforeLaunch]) (ha : ¬e.activationIs .failedActivation)
    (hp : s.provider = s'.provider) :
    failureGate s e = failureGate s' e ↔
      s.durable.bind DurableStateEvidence.currentFrontier =
        s'.durable.bind DurableStateEvidence.currentFrontier := by
  unfold AcceptedEvidence.launchIs at hl
  unfold AcceptedEvidence.activationIs at ha
  unfold failureGate
  rw [hp]
  cases hx : e.launch <;> cases hy : e.activation <;> simp_all

theorem conditionGate_of_wake {durable : DurableStateEvidence} {wake : String}
    (hs : s.durable = some durable) (hw : truthy durable.wakeCondition = some wake) :
    conditionGate s e =
      some ⟨"CONDITION", some wake, "observable wake condition", durable.currentFrontier⟩ := by
  have ⟨hwake, _⟩ := Option.filter_eq_some_iff.mp hw
  rw [conditionGate, hs, Option.filter_some, if_pos (by rw [hw]; rfl), ← hwake]

theorem conditionGate_of_executor {durable : DurableStateEvidence}
    {activation : ExecutorActivationEvidence} (hs : s.durable = some durable)
    (hw : truthy durable.wakeCondition = none) (ha : e.activation = some activation)
    (hc : activation.disposition = .conditionWait) :
    conditionGate s e =
      some ⟨"CONDITION", activation.conditionRef,
        (truthy activation.detail).getD "executor activation condition wait",
        some activation.activationRef⟩ := by
  rw [conditionGate, hs, Option.filter_some, if_neg (by rw [hw]; exact Bool.false_ne_true), ha,
    Option.filter_some, if_pos (decide_eq_true hc)]
  rfl

theorem conditionGate_eq_iff {durable durable' : DurableStateEvidence}
    {activation : ExecutorActivationEvidence} (hs : s.durable = some durable)
    (hs' : s'.durable = some durable') (ha : e.activation = some activation)
    (hc : activation.disposition = .conditionWait) :
    conditionGate s e = conditionGate s' e ↔ SameWait durable durable' activation := by
  unfold SameWait
  cases hw : truthy durable.wakeCondition <;> cases hw' : truthy durable'.wakeCondition
  case none.none =>
    rw [conditionGate_of_executor hs hw ha hc, conditionGate_of_executor hs' hw' ha hc]
    simp
  case some.some =>
    rw [conditionGate_of_wake hs hw, conditionGate_of_wake hs' hw']
    simp
  case none.some =>
    have ⟨hwake, _⟩ := Option.filter_eq_some_iff.mp hw'
    rw [conditionGate_of_executor hs hw ha hc, conditionGate_of_wake hs' hw', eq_comm]
    simp [DurableStateEvidence.Restates, hwake, eq_comm]
  case some.none =>
    have ⟨hwake, _⟩ := Option.filter_eq_some_iff.mp hw
    rw [conditionGate_of_wake hs hw, conditionGate_of_executor hs' hw' ha hc]
    simp [DurableStateEvidence.Restates, hwake, eq_comm]

end Influence

section Inspections

variable {s s' : ContinuitySnapshot} {identity : WorkstreamCandidate} {piece : EvidencePiece}

theorem accept_eq (hd : DifferOnlyIn s s' piece) (hr : s.Rejects identity piece)
    (hr' : s'.Rejects identity piece) : s.accept identity = s'.accept identity := by
  cases piece
  case durable            =>
    have hn := hr.right.trans hr'.right.symm
    rw [hd] at hn ⊢
    exact AcceptedEvidence.ext rfl hn rfl rfl rfl rfl
  case buildColony        =>
    have hn := hr.right.trans hr'.right.symm
    rw [hd] at hn ⊢
    exact AcceptedEvidence.ext rfl rfl hn rfl rfl rfl
  case provider           =>
    have hn := hr.right.trans hr'.right.symm
    rw [hd] at hn ⊢
    exact AcceptedEvidence.ext rfl rfl rfl hn rfl rfl
  case executorActivation =>
    have hn := hr.right.trans hr'.right.symm
    rw [hd] at hn ⊢
    exact AcceptedEvidence.ext rfl rfl rfl rfl rfl hn
  case launchAdmission    =>
    have hn := hr.right.trans hr'.right.symm
    rw [hd] at hn ⊢
    refine AcceptedEvidence.ext rfl rfl rfl rfl hn ?_
    refine congrArg (fun launch => s.executorActivation.filter fun activation =>
      activation.workstreamId = identity.workstreamId &&
      activation.Matches (s.acceptedRepo identity) launch) hn
  case repository         =>
    have hn := hr.right.trans hr'.right.symm
    have hn : s.acceptedRepo identity = s'.acceptedRepo identity := hn
    rw [ContinuitySnapshot.accept, ContinuitySnapshot.accept, ← hn, hd]
    rfl

theorem infrastructure_eq (hd : DifferOnlyIn s s' piece) (hr : s.Rejects identity piece)
    (hr' : s'.Rejects identity piece) :
    infrastructure s (s.accept identity) = infrastructure s' (s'.accept identity) := by
  rw [← accept_eq hd hr hr']
  cases piece
  case provider =>
    have ⟨p, hp⟩ := Option.isSome_iff_exists.mp hr.left
    have ⟨p', hp'⟩ := Option.isSome_iff_exists.mp hr'.left
    simp only [infrastructure, hp, hp', hr.right]
  all_goals
    rw [hd]
    rfl

-- The evidence of gates, the conversation and the demand for integration are no such pieces.
theorem DifferOnlyIn.gates (hd : DifferOnlyIn s s' piece) :
    s.gates = s'.gates ∧ s.conversation = s'.conversation ∧
      s.canonicalIntegrationRequired = s'.canonicalIntegrationRequired ∧
      s.query = s'.query ∧ s.candidates = s'.candidates := by
  cases piece <;> exact hd ▸ ⟨rfl, rfl, rfl, rfl, rfl⟩

theorem DifferOnlyIn.repository_eq (hd : DifferOnlyIn s s' piece) (hp : piece ≠ .repository) :
    s.repository = s'.repository := by
  cases piece
  case repository => exact absurd rfl hp
  all_goals exact hd ▸ rfl

variable [IsoFormat] {latest latest' : Option ExecutionEvidence} {r r' : ContinuityReport}
variable {verdict : DevelopmentVerdict} {gate : Option GateEvidence}

-- Nothing but the latest evidence and the gate of the verdict can tell the reports apart.
theorem agree_iff (hd : DifferOnlyIn s s' piece) (hr : s.Rejects identity piece)
    (hr' : s'.Rejects identity piece)
    (hc : (resolveWorkstream s.query s.candidates).candidate = some identity)
    (h : inspectContinuity s = .ok r) (h' : inspectContinuity s' = .ok r') :
    Agree r r' ↔
      r.latestExecutionEvidence = r'.latestExecutionEvidence ∧ r.blockingGate = r'.blockingGate := by
  constructor
  case mp  => exact fun ha => ⟨ha.latestExecutionEvidence, ha.blockingGate⟩
  case mpr =>
    intro ⟨hlatest, hgate⟩
    have ⟨hg, hconv, hint, hq, hcs⟩ := hd.gates
    have hc' : (resolveWorkstream s'.query s'.candidates).candidate = some identity := by
      rw [← hq, ← hcs]
      exact hc
    have he := accept_eq hd hr hr'
    have hinfra := infrastructure_eq hd hr hr'
    have ⟨latest, verdict, gate, _, hj, h⟩ := (inspectContinuity_eq_ok hc).mp h
    have ⟨latest', verdict', gate', _, hj', h'⟩ := (inspectContinuity_eq_ok hc').mp h'
    subst h h'
    have hlatest : latest = latest' := hlatest
    have hv : verdict = verdict' := by
      rw [judge, ← he, ← hg, ← hconv, ← hlatest] at hj'
      exact congrArg Prod.fst (Except.ok.inj (hj.symm.trans hj'))
    constructor
    case developmentVerdict      => exact hv
    case blockingGate            => exact hgate
    case latestExecutionEvidence => exact hlatest
    case durableState            => exact congrArg durableState he
    case recommendedAction       =>
      change action verdict _ = action verdict' _
      rw [hv, hint]
    case infrastructureStatus    => exact hinfra

-- The two inspections come to the same verdict by the same gate.
theorem exists_judgement (hd : DifferOnlyIn s s' piece) (hr : s.Rejects identity piece)
    (hr' : s'.Rejects identity piece)
    (hc : (resolveWorkstream s.query s.candidates).candidate = some identity)
    (h : inspectContinuity s = .ok r) (h' : inspectContinuity s' = .ok r')
    (hl : r.latestExecutionEvidence = r'.latestExecutionEvidence) :
    ∃ latest verdict gate, judge s (s.accept identity) latest = .ok (verdict, gate) ∧
      r.blockingGate = blockingGate s (s.accept identity) verdict gate ∧
      r'.blockingGate = blockingGate s' (s.accept identity) verdict gate := by
  have ⟨hg, hconv, _, hq, hcs⟩ := hd.gates
  have hc' : (resolveWorkstream s'.query s'.candidates).candidate = some identity := by
    rw [← hq, ← hcs]
    exact hc
  have he := accept_eq hd hr hr'
  have ⟨latest, verdict, gate, _, hj, h⟩ := (inspectContinuity_eq_ok hc).mp h
  have ⟨latest', verdict', gate', _, hj', h'⟩ := (inspectContinuity_eq_ok hc').mp h'
  subst h h'
  have hl : latest = latest' := hl
  rw [judge, ← he, ← hg, ← hconv, ← hl] at hj'
  have hvg : (verdict, gate) = (verdict', gate') := Except.ok.inj (hj.symm.trans hj')
  refine ⟨latest, verdict, gate, hj, rfl, ?_⟩
  change blockingGate s' (s'.accept identity) verdict' gate' = _
  rw [← he, (Prod.mk.inj hvg).left, (Prod.mk.inj hvg).right]

-- A gate of a verdict without a gate of its own is one of an open development.
theorem open_of_judge {e : AcceptedEvidence} (h : judge s e latest = .ok (verdict, none))
    (hv : verdict ≠ .doneCanonical) : Open s e := by
  by_contra ho
  cases judge_not_open ho h
  case inl hs => exact Bool.false_ne_true hs
  case inr hd => exact hv hd

-- The detail of a rejected provider would only name a failure that has no name of its own.
theorem failureGate_eq_of_provider {e : AcceptedEvidence} (hp : e.provider = none)
    (hd : s.durable = s'.durable) (hj : judge s e latest = .ok (.failed, none)) :
    failureGate s e = failureGate s' e := by
  have ⟨_, hv⟩ := judge_open (open_of_judge hj (by decide)) hj
  cases openVerdict_failed hv
  case inr h => exact failureGate_eq_of_decided h
  case inl h =>
    have hw : (truthy (e.durable.bind DurableStateEvidence.failedTerminalReason)).isSome := by
      simpa [AcceptedEvidence.workloadFailure, hp] using h
    have ⟨reason, hreason⟩ := Option.isSome_iff_exists.mp hw
    have ⟨hreason, _⟩ := Option.filter_eq_some_iff.mp hreason
    simp only [failureGate, hreason, hd]
    rfl

theorem blockingGate_eq_of_durable {durable durable' : DurableStateEvidence} {e : AcceptedEvidence}
    (hd : s' = { s with durable := s'.durable }) (hs : s.durable = some durable)
    (hs' : s'.durable = some durable') (hn : e.durable = none)
    (hj : judge s e latest = .ok (verdict, gate)) :
    blockingGate s e verdict gate = blockingGate s' e verdict gate ↔
      (WaitsForExecutor s e → ∀ activation ∈ e.activation, SameWait durable durable' activation) ∧
        (FailsAtProvider s e → durable.currentFrontier = durable'.currentFrontier) := by
  have hp : s.provider = s'.provider := hd ▸ rfl
  rw [blockingGate_eq_iff]
  constructor
  case mp  =>
    intro h
    constructor
    case left  =>
      intro hw activation ha
      have ⟨hg, hv⟩ := judge_open hw.toOpen hj
      have hx : openVerdict s.conversation e latest = .ok .conditionWait :=
        (openVerdict_conditionWait hn hw.toOpen).mpr hw
      cases hv.symm.trans hx
      have ⟨hl, _⟩ := AcceptedEvidence.launchIs_undecided.mp hw.launch
      have hc : activation.disposition = .conditionWait := by
        have hc := hw.activation
        rw [AcceptedEvidence.activationIs, ha] at hc
        exact of_decide_eq_true hc
      exact (conditionGate_eq_iff hs hs' ha hc).mp (h hg hl)
    case right =>
      intro hf
      have ⟨hg, hv⟩ := judge_open hf.toOpen hj
      cases hv.symm.trans (hf.openVerdict hn)
      have ⟨hl, hr⟩ := AcceptedEvidence.launchIs_undecided.mp hf.launch
      have hfrontier := (failureGate_eq_iff hn hr hf.activation hp).mp (Option.some.inj (h hg hl))
      rw [hs, hs'] at hfrontier
      exact hfrontier
  case mpr =>
    intro ⟨hwait, hfail⟩ hg hl
    subst hg
    cases verdict
    case conditionWait =>
      have ho := open_of_judge hj (by decide)
      have ⟨_, hv⟩ := judge_open ho hj
      have hw := (openVerdict_conditionWait hn ho).mp hv
      have ha := hw.activation
      cases hx : e.activation
      case none            => simp [AcceptedEvidence.activationIs, hx] at ha
      case some activation =>
        rw [AcceptedEvidence.activationIs, hx] at ha
        exact (conditionGate_eq_iff hs hs' hx (of_decide_eq_true ha)).mpr (hwait hw _ hx)
    case failed =>
      refine congrArg some ?_
      have ho := open_of_judge hj (by decide)
      have ⟨_, hv⟩ := judge_open ho hj
      by_cases hdec : e.launchIs [.rejected, .failedBeforeLaunch] ∨ e.activationIs .failedActivation
      case pos => exact failureGate_eq_of_decided hdec
      case neg =>
        have ⟨hr, ha⟩ := not_or.mp hdec
        have hf := (openVerdict_failed hv).resolve_right hdec
        have hf : FailsAtProvider s e := {
          toOpen     := ho
          launch     := AcceptedEvidence.launchIs_undecided.mpr ⟨hl, hr⟩
          activation := ha
          provider   := (AcceptedEvidence.workloadFailure_iff hn).mp hf }
        refine (failureGate_eq_iff hn hr ha hp).mpr ?_
        rw [hs, hs']
        exact hfail hf
    case scheduledWait =>
      have ⟨_, hv⟩ := judge_open (open_of_judge hj (by decide)) hj
      exact absurd hv (openVerdict_ne_scheduledWait hn)
    all_goals rfl

theorem latestExecutionEvidence_iff (hd : DifferOnlyIn s s' piece) (hr : s.Rejects identity piece)
    (hr' : s'.Rejects identity piece)
    (hc : (resolveWorkstream s.query s.candidates).candidate = some identity)
    (h : inspectContinuity s = .ok r) (h' : inspectContinuity s' = .ok r') :
    r.latestExecutionEvidence = r'.latestExecutionEvidence ↔
      (s.leadingCommit (s.accept identity)).map Progress.evidence =
        (s'.leadingCommit (s'.accept identity)).map Progress.evidence := by
  have ⟨_, _, _, hq, hcs⟩ := hd.gates
  have hc' : (resolveWorkstream s'.query s'.candidates).candidate = some identity := by
    rw [← hq, ← hcs]
    exact hc
  have he := accept_eq hd hr hr'
  have ⟨latest, _, _, hl, _, h⟩ := (inspectContinuity_eq_ok hc).mp h
  have ⟨latest', _, _, hl', _, h'⟩ := (inspectContinuity_eq_ok hc').mp h'
  subst h h'
  rw [← he] at hl' ⊢
  exact latest_eq_iff hl hl'

-- Only the reading of a repository can tell the latest evidence.
theorem leadingCommit_eq (hd : DifferOnlyIn s s' piece) (hp : piece ≠ .repository)
    (e : AcceptedEvidence) : s.leadingCommit e = s'.leadingCommit e := by
  rw [ContinuitySnapshot.leadingCommit, hd.repository_eq hp, ContinuitySnapshot.leadingCommit]

-- Rejected evidence has no influence, but for three readings of it.
theorem inspectContinuity_agree_iff (hd : DifferOnlyIn s s' piece) (hr : s.Rejects identity piece)
    (hr' : s'.Rejects identity piece)
    (hc : (resolveWorkstream s.query s.candidates).candidate = some identity)
    (h : inspectContinuity s = .ok r) (h' : inspectContinuity s' = .ok r') :
    Agree r r' ↔ Harmless s s' identity piece := by
  rw [agree_iff hd hr hr' hc h h']
  have hlatest := latestExecutionEvidence_iff hd hr hr' hc h h'
  have he := accept_eq hd hr hr'
  by_cases hp : piece = .repository
  case pos =>
    subst hp
    rw [hlatest]
    refine ⟨And.left, fun hl => ⟨hl, ?_⟩⟩
    have ⟨_, _, _, _, hg, hg'⟩ := exists_judgement hd hr hr' hc h h' (hlatest.mpr hl)
    rw [hg, hg', hd]
    rfl
  case neg =>
    have hl := hlatest.mpr (by rw [← he, leadingCommit_eq hd hp])
    have ⟨_, verdict, gate, hj, hg, hg'⟩ := exists_judgement hd hr hr' hc h h' hl
    rw [and_iff_right hl, hg, hg']
    cases piece
    case durable            =>
      have ⟨durable, hs⟩ := Option.isSome_iff_exists.mp hr.left
      have ⟨durable', hs'⟩ := Option.isSome_iff_exists.mp hr'.left
      rw [blockingGate_eq_of_durable hd hs hs' hr.right hj]
      simp [Harmless, hs, hs']
    case provider           =>
      refine iff_of_true (blockingGate_eq_iff.mpr fun hgate _ => ?_) trivial
      subst hgate
      have hdurable : s.durable = s'.durable := hd ▸ rfl
      cases verdict
      case failed => exact congrArg some (failureGate_eq_of_provider hr.right hdurable hj)
      all_goals
        rw [hd]
        rfl
    case repository         => exact absurd rfl hp
    all_goals
      refine iff_of_true ?_ trivial
      rw [hd]
      rfl

end Inspections

section Failures

theorem repo_not_blank : ¬Text.Blank "repo" := by
  decide

theorem provider_not_blank : ¬Text.Blank "provider" := by
  decide

theorem none_positive : ∀ n ∈ (none : Option Int), 1 ≤ n := by
  simp

-- A workload that has failed at its provider, beside a durable state that is not validated. The
-- provider is accepted at the revision "head" only.
def failedSnapshot (revision frontier : String) : ContinuitySnapshot where
  checkedAt  := "2026-01-01T03:00:00+00:00"
  query      := "alpha"
  candidates := [activeWorkstream]
  repository := some { repository := "repo", branchHead := "head", nonempty := repo_not_blank, positive := none_positive }
  durable    := some { validated := false, workstreamId := "ws", currentFrontier := frontier }
  provider   := some {
    provider        := "provider"
    state           := .failed
    subjectRevision := revision
    failureScope    := .workload
    nonempty        := provider_not_blank
    workload        := fun _ => rfl }

theorem resolveWorkstream_alpha :
    (resolveWorkstream "alpha" [activeWorkstream]).candidate = some activeWorkstream := rfl

theorem inspectContinuity_agree_iff_stale :
    let _ := IsoFormat.hours
    ∃ r r', inspectContinuity (failedSnapshot "stale" "one") = .ok r ∧
      inspectContinuity (failedSnapshot "old" "one") = .ok r' ∧ Agree r r' := by
  let _ := IsoFormat.hours
  let s := failedSnapshot "stale" "one"
  let s' := failedSnapshot "old" "one"
  have hd : DifferOnlyIn s s' .provider := rfl
  have hr : s.Rejects activeWorkstream .provider := ⟨rfl, rfl⟩
  have hr' : s'.Rejects activeWorkstream .provider := ⟨rfl, rfl⟩
  have h := (inspectContinuity_eq_ok (s := s) resolveWorkstream_alpha).mpr ⟨_, _, _, rfl, rfl, rfl⟩
  have h' := (inspectContinuity_eq_ok (s := s') resolveWorkstream_alpha).mpr ⟨_, _, _, rfl, rfl, rfl⟩
  exact ⟨_, _, h, h', (inspectContinuity_agree_iff hd hr hr' resolveWorkstream_alpha h h').mpr trivial⟩

-- The gate of the failure names the frontier of a durable state that is not validated.
theorem inspectContinuity_leaks :
    let _ := IsoFormat.hours
    let s := failedSnapshot "head" "one"
    let s' := failedSnapshot "head" "two"
    (resolveWorkstream s.query s.candidates).candidate = some activeWorkstream ∧
      DifferOnlyIn s s' .durable ∧ s.Rejects activeWorkstream .durable ∧
      s'.Rejects activeWorkstream .durable ∧ ∃ r r',
      inspectContinuity s = .ok r ∧ inspectContinuity s' = .ok r' ∧ ¬Agree r r' := by
  let _ := IsoFormat.hours
  let s := failedSnapshot "head" "one"
  let s' := failedSnapshot "head" "two"
  have h := (inspectContinuity_eq_ok (s := s) resolveWorkstream_alpha).mpr
    ⟨none, .failed, none, rfl, rfl, rfl⟩
  have h' := (inspectContinuity_eq_ok (s := s') resolveWorkstream_alpha).mpr
    ⟨none, .failed, none, rfl, rfl, rfl⟩
  refine ⟨resolveWorkstream_alpha, rfl, ⟨rfl, rfl⟩, ⟨rfl, rfl⟩, _, _, h, h', fun ha => ?_⟩
  have hg : some "one" = some "two" :=
    congrArg (Option.bind · BlockingGate.frontier) ha.blockingGate
  simp at hg

end Failures

end GeneralExecution.Continuity
