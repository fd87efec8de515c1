import GeneralExecution.Continuity.Theorems.Rejected

namespace GeneralExecution

-- Two times have an order.
def Datetime.Comparable (a b : Datetime) : Prop :=
  a.Aware ↔ b.Aware

theorem Datetime.comparable_iff {a b : Datetime} :
    a.Comparable b ↔ a.offset.isSome = b.offset.isSome := by
  rw [Comparable, Aware, Aware]
  exact Bool.eq_iff_iff.symm

theorem Datetime.exists_lt {a b : Datetime} : (∃ before, a.lt b = .ok before) ↔ a.Comparable b := by
  simp only [lt_eq_ok, exists_and_left, exists_eq, and_true, comparable_iff]

-- `datetime.isoformat` is the inverse of `datetime.fromisoformat`, and never writes a zone as `Z`.
structure IsoFormat.RoundTrips [IsoFormat] : Prop where
  nonempty {cs : List Char} {d : Datetime} : fromisoformat? cs = some d → isoformat d ≠ ""
  noZulu {cs : List Char} {d : Datetime} : fromisoformat? cs = some d → 'Z' ∉ (isoformat d).toList
  inverse {cs : List Char} {d : Datetime} :
    fromisoformat? cs = some d → fromisoformat? (isoformat d).toList = some d

-- Noon, with a time zone and without.
@[reducible]
def IsoFormat.noons : IsoFormat where
  fromisoformat? cs :=
    if cs = "2026-01-01T12:00:00+00:00".toList then some ⟨63902865600000000, some 0⟩
    else if cs = "2026-01-01T12:00:00".toList then some ⟨63902865600000000, none⟩
    else none
  isoformat d       :=
    if d.Aware then "2026-01-01T12:00:00+00:00" else "2026-01-01T12:00:00"

theorem IsoFormat.noons_read {cs : List Char} {d : Datetime}
    (h : IsoFormat.noons.fromisoformat? cs = some d) :
    d = ⟨63902865600000000, some 0⟩ ∨ d = ⟨63902865600000000, none⟩ := by
  change (if _ then _ else _) = _ at h
  split at h
  case isTrue  => exact .inl (Option.some.inj h).symm
  case isFalse =>
    have ⟨_, h⟩ := Option.ite_none_right_eq_some.mp h
    exact .inr (Option.some.inj h).symm

theorem IsoFormat.noons_roundTrips : @IsoFormat.RoundTrips IsoFormat.noons := by
  let := IsoFormat.noons
  constructor
  case nonempty =>
    intro cs d h
    cases IsoFormat.noons_read h <;> subst d <;> decide
  case noZulu   =>
    intro cs d h
    cases IsoFormat.noons_read h <;> subst d <;> decide
  case inverse  =>
    intro cs d h
    cases IsoFormat.noons_read h <;> subst d <;> decide

end GeneralExecution

namespace GeneralExecution.Continuity

-- What is returned at once cannot fail.
theorem exists_return_ite {α : Type} {c : Prop} [Decidable c] {v : α} {y : Py α} :
    (∃ a, (if c then return v else y) = .ok a) ↔ (¬c → ∃ a, y = .ok a) := by
  by_cases hc : c
  case pos =>
    rw [if_pos hc]
    exact iff_of_true ⟨v, rfl⟩ (absurd hc)
  case neg =>
    rw [if_neg hc]
    exact (imp_iff_right hc).symm

theorem exists_ite_return {α : Type} {c : Prop} [Decidable c] {v : α} {y : Py α} :
    (∃ a, (if c then y else return v) = .ok a) ↔ (c → ∃ a, y = .ok a) := by
  rw [← ite_not, exists_return_ite, not_not]

section Latest

variable {p q m : Progress} {ps : List Progress}

theorem Progress.max_comparable (h : p.time.Comparable q.time) (d : Datetime) :
    (p.max q).time.Comparable d ↔ p.time.Comparable d := by
  rw [Datetime.comparable_iff] at h
  rw [Datetime.comparable_iff, Datetime.comparable_iff, Progress.max_offset h]

theorem Progress.exists_foldlM_later :
    (∃ m, ps.foldlM Progress.later p = .ok m) ↔ ∀ q ∈ ps, p.time.Comparable q.time := by
  induction ps generalizing p
  case nil          => simp
  case cons q ps ih =>
    rw [List.foldlM_cons, List.forall_mem_cons]
    constructor
    case mp  =>
      intro ⟨m, h⟩
      have ⟨x, hx, h⟩ := Except.bind_eq_ok.mp h
      have ⟨ho, hx⟩ := Progress.later_eq_ok.mp hx
      have hc := Datetime.comparable_iff.mpr ho
      constructor
      case left  => exact hc
      case right =>
        intro r hr
        rw [← Progress.max_comparable hc, ← hx]
        exact ih.mp ⟨m, h⟩ r hr
    case mpr =>
      intro ⟨hc, h⟩
      have hx : p.later q = .ok (p.max q) :=
        Progress.later_eq_ok.mpr ⟨Datetime.comparable_iff.mp hc, rfl⟩
      rw [hx]
      exact ih.mpr fun r hr => (Progress.max_comparable hc r.time).mpr (h r hr)

theorem Progress.exists_latest :
    (∃ latest, Progress.latest ps = .ok latest) ↔
      ∀ p ∈ ps, ∀ q ∈ ps, p.time.Comparable q.time := by
  cases ps
  case nil       => simp [Progress.latest]
  case cons p ps =>
    have hc : (∃ latest, Progress.latest (p :: ps) = .ok latest) ↔
        ∃ m, ps.foldlM Progress.later p = .ok m := by
      simp [Progress.latest, Except.map_eq_ok]
    rw [hc, Progress.exists_foldlM_later]
    constructor
    case mp  =>
      intro h
      have hp : ∀ q ∈ p :: ps, p.time.Comparable q.time :=
        List.forall_mem_cons.mpr ⟨Iff.rfl, h⟩
      intro q hq r hr
      exact (hp q hq).symm.trans (hp r hr)
    case mpr =>
      intro h q hq
      exact h p List.mem_cons_self q (.tail _ hq)

theorem Progress.latest_eq_ok {latest : Option Progress} (h : Progress.latest ps = .ok latest) :
    (∀ p ∈ latest, p ∈ ps) ∧ (latest = none ↔ ps = []) := by
  cases ps
  case nil       =>
    cases h
    simp
  case cons p ps =>
    have ⟨m, hm, hl⟩ := Except.map_eq_ok.mp h
    subst hl
    rw [Progress.foldlM_later hm]
    simpa using (Progress.foldl_max p ps).left

end Latest

section Inspection

variable [IsoFormat] {s : ContinuitySnapshot} {e : AcceptedEvidence}

theorem parseTime_isoformat (hiso : IsoFormat.RoundTrips) {value : Option String} {d : Datetime}
    (h : parseTime value = some d) : parseTime (some (IsoFormat.isoformat d)) = some d := by
  have ⟨text, _, h⟩ := Option.bind_eq_some_iff.mp h
  have hz : replaceZulu (IsoFormat.isoformat d).toList = (IsoFormat.isoformat d).toList := by
    rw [replaceZulu]
    conv => right; rw [← List.flatMap_singleton' (IsoFormat.isoformat d).toList]
    refine List.flatMap_congr fun c hc => if_neg ?_
    rintro rfl
    exact hiso.noZulu h hc
  rw [parseTime, truthy, Option.filter_some, if_pos (decide_eq_true (hiso.nonempty h)),
    Option.bind_some, hz, hiso.inverse h]

-- The times at which the development has progressed.
def ContinuitySnapshot.progress (s : ContinuitySnapshot) (e : AcceptedEvidence) : List Progress :=
  (s.repository.bind RepositoryEvidence.progress).toList ++ e.progress

-- The development is judged by its execution.
structure Executing (s : ContinuitySnapshot) (e : AcceptedEvidence) : Prop extends Open s e where
  launch     : ¬e.launchIs [.humanGate] ∧ ¬e.launchIs [.rejected, .failedBeforeLaunch]
  checkpoint : truthy (e.durable.bind DurableStateEvidence.scheduledCheckpoint) = none
  wake       : truthy (e.durable.bind DurableStateEvidence.wakeCondition) = none
  workload   : ¬e.workloadFailure
  activation : ¬e.activationIs .failedActivation
  terminal   : e.technicalTerminal = none
  active     : e.activeExecution

-- The times that an inspection compares have an order.
structure TimesComparable (s : ContinuitySnapshot) (e : AcceptedEvidence) : Prop where
  progress : ∀ p ∈ s.progress e, ∀ q ∈ s.progress e, p.time.Comparable q.time
  conversation :
    Executing s e → s.conversation.assessment = .interruptionSuspected →
    ∀ t ∈ parseTime s.conversation.lastObservedAt, ∀ p ∈ s.progress e, t.Comparable p.time

theorem exists_latestProgress :
    (∃ latest, latestProgress s e = .ok latest) ↔
      ∀ p ∈ s.progress e, ∀ q ∈ s.progress e, p.time.Comparable q.time := by
  rw [← Progress.exists_latest, latestProgress]
  constructor
  case mp  =>
    rintro ⟨_, h⟩
    obtain ⟨latest, hl, _⟩ := Except.bind_eq_ok.mp h
    exact ⟨latest, hl⟩
  case mpr =>
    rintro ⟨latest, hl⟩
    have hl : Progress.latest ((s.repository.bind RepositoryEvidence.progress).toList ++ e.progress) =
        .ok latest := hl
    rw [hl]
    exact ⟨_, rfl⟩

theorem exists_activeVerdict {conversation : ConversationEvidence}
    {latest : Option ExecutionEvidence} :
    (∃ verdict, activeVerdict conversation latest = .ok verdict) ↔
      (conversation.assessment = .interruptionSuspected →
        ∀ t ∈ parseTime conversation.lastObservedAt,
        ∀ t' ∈ latest.bind fun evidence => parseTime (some evidence.observedAt), t.Comparable t') := by
  unfold activeVerdict
  split
  case h_1 t t' ht ht' =>
    rw [ht, ht']
    split
    case isTrue ha  =>
      simp only [ha, Option.mem_some_iff, forall_eq', true_imp_iff]
      rw [← Datetime.exists_lt]
      constructor
      case mp  =>
        intro ⟨_, h⟩
        have ⟨before, hb, _⟩ := Except.bind_eq_ok.mp h
        exact ⟨before, hb⟩
      case mpr =>
        intro ⟨before, hb⟩
        rw [hb]
        exact ⟨_, rfl⟩
    case isFalse ha => exact iff_of_true ⟨_, rfl⟩ (fun h => absurd h ha)
  case h_2 hn =>
    refine iff_of_true ⟨_, rfl⟩ ?_
    intro _ t ht t' ht'
    exact absurd ht' (hn t t' ht)

theorem exists_openVerdict (ho : Open s e) {latest : Option ExecutionEvidence} :
    (∃ verdict, openVerdict s.conversation e latest = .ok verdict) ↔
      (Executing s e → ∃ verdict, activeVerdict s.conversation latest = .ok verdict) := by
  simp only [openVerdict, exists_return_ite, exists_ite_return]
  constructor
  case mp  =>
    intro h hx
    exact h hx.launch.left (by simp [hx.checkpoint]) (by simp [hx.wake]) hx.workload
      hx.launch.right hx.activation (by simp [hx.terminal]) hx.active
  case mpr =>
    intro h hgate hcheckpoint hwake hworkload hlaunch hactivation hterminal hactive
    apply h
    exact {
      ho with
      launch     := ⟨hgate, hlaunch⟩
      checkpoint := by simpa using hcheckpoint
      wake       := by simpa using hwake
      workload   := hworkload
      activation := hactivation
      terminal   := by simpa using hterminal
      active     := hactive }

theorem exists_judge {latest : Option ExecutionEvidence} :
    (∃ judgement, judge s e latest = .ok judgement) ↔
      (Executing s e → ∃ verdict, activeVerdict s.conversation latest = .ok verdict) := by
  by_cases ho : Open s e
  case pos =>
    rw [← exists_openVerdict ho]
    obtain ⟨hh, hx⟩ := pendingGate_eq_none.mpr ho.ungated
    simp only [judge, if_neg ho.unfinished, hh, hx]
    constructor
    case mp  =>
      rintro ⟨_, h⟩
      obtain ⟨verdict, hv, _⟩ := Except.bind_eq_ok.mp h
      exact ⟨verdict, hv⟩
    case mpr =>
      rintro ⟨verdict, hv⟩
      rw [hv]
      exact ⟨_, rfl⟩
  case neg =>
    refine iff_of_true ?_ fun hx => absurd hx.toOpen ho
    unfold judge
    split
    case isTrue     => exact ⟨_, rfl⟩
    case isFalse hc =>
      split
      case h_1       => exact ⟨_, rfl⟩
      case h_2       => exact ⟨_, rfl⟩
      case h_3 hh hx => exact absurd ⟨hc, pendingGate_eq_none.mp ⟨hh, hx⟩⟩ ho

theorem Progress.parsed_of {p : Progress} {value : Option String} {kind ref : String}
    (h : Progress.of value kind ref = some p) : parseTime value = some p.time := by
  have ⟨_, hd, hp⟩ := Option.map_eq_some_iff.mp h
  rw [hd, ← hp]

theorem ContinuitySnapshot.progress_parsed {p : Progress} (h : p ∈ s.progress e) :
    ∃ value, parseTime value = some p.time := by
  simp only [progress, AcceptedEvidence.progress, List.mem_append, Option.mem_toList,
    List.reduceOption_mem_iff, List.mem_cons, List.not_mem_nil, or_false] at h
  rcases h with h | h | h | h | h | h
  case inl                         =>
    obtain ⟨_, _, hp⟩ := Option.bind_eq_some_iff.mp h
    obtain ⟨_, _, hp⟩ := Option.bind_eq_some_iff.mp hp
    exact ⟨_, Progress.parsed_of hp⟩
  case inr.inr.inr.inl             =>
    obtain ⟨_, _, hp⟩ := Option.bind_eq_some_iff.mp h.symm
    obtain ⟨_, hp⟩ := Option.ite_none_right_eq_some.mp hp
    exact ⟨_, Progress.parsed_of hp⟩
  all_goals
    obtain ⟨_, _, hp⟩ := Option.bind_eq_some_iff.mp h.symm
    exact ⟨_, Progress.parsed_of hp⟩

-- What is read back from the latest evidence is the time of some progress.
theorem comparable_latest_iff (hiso : IsoFormat.RoundTrips) {latest : Option ExecutionEvidence}
    (h : latestProgress s e = .ok latest) {t : Datetime} :
    (∀ t' ∈ latest.bind fun evidence => parseTime (some evidence.observedAt), t.Comparable t') ↔
      ∀ p ∈ s.progress e, t.Comparable p.time := by
  have hc := exists_latestProgress.mp ⟨latest, h⟩
  simp only [latestProgress, Except.bind_eq_ok, Except.pure_eq_ok] at h
  obtain ⟨m, hm, hl⟩ := h
  obtain ⟨hmem, hnone⟩ := Progress.latest_eq_ok hm
  rw [← hl]
  clear hl hm
  cases m
  case none   =>
    have hp : s.progress e = [] := hnone.mp rfl
    simp [hp]
  case some p =>
    have hp : p ∈ s.progress e := hmem p rfl
    obtain ⟨_, hd⟩ := ContinuitySnapshot.progress_parsed hp
    have ht : parseTime (some p.evidence.observedAt) = some p.time := parseTime_isoformat hiso hd
    simp only [Option.map_some, Option.bind_some, ht, Option.mem_some_iff, forall_eq']
    constructor
    case mp  => exact fun hpt q hq => hpt.trans (hc p hp q hq)
    case mpr => exact fun hall => hall p hp

theorem timesComparable_iff (hiso : IsoFormat.RoundTrips) :
    TimesComparable s e ↔ ∃ latest, latestProgress s e = .ok latest ∧
      ∃ judgement, judge s e latest = .ok judgement := by
  constructor
  case mp  =>
    intro h
    have ⟨latest, hl⟩ := exists_latestProgress.mpr h.progress
    refine ⟨latest, hl, exists_judge.mpr fun hx => exists_activeVerdict.mpr fun ha t ht => ?_⟩
    exact (comparable_latest_iff hiso hl).mpr (h.conversation hx ha t ht)
  case mpr =>
    intro ⟨latest, hl, hj⟩
    constructor
    case progress     => exact exists_latestProgress.mp ⟨latest, hl⟩
    case conversation =>
      intro hx ha t ht
      have hactive := exists_activeVerdict.mp (exists_judge.mp hj hx)
      exact (comparable_latest_iff hiso hl).mp (hactive ha t ht)

-- An inspection raises an exception exactly when it compares times that have no order.
theorem inspectContinuity_total_iff (hiso : IsoFormat.RoundTrips) (s : ContinuitySnapshot) :
    (∃ r, inspectContinuity s = .ok r) ↔
      ∀ identity ∈ (resolveWorkstream s.query s.candidates).candidate,
        TimesComparable s (s.accept identity) := by
  cases hr : (resolveWorkstream s.query s.candidates).candidate
  case none          =>
    simp only [inspectContinuity, hr]
    exact iff_of_true ⟨_, rfl⟩ (by simp)
  case some identity =>
    simp only [inspectContinuity_eq_ok hr, Option.mem_some_iff, forall_eq', timesComparable_iff hiso]
    constructor
    case mp  =>
      rintro ⟨_, latest, verdict, gate, hl, hj, _⟩
      exact ⟨latest, hl, (verdict, gate), hj⟩
    case mpr =>
      rintro ⟨latest, hl, ⟨verdict, gate⟩, hj⟩
      exact ⟨_, latest, verdict, gate, hl, hj, rfl⟩

end Inspection

-- A commit and a durable state, which has progressed at a time that a text tells.
def progressedSnapshot (lastProgressAt : String) : ContinuitySnapshot where
  checkedAt    := "2026-01-01T13:00:00+00:00"
  query        := "alpha"
  candidates   := [activeWorkstream]
  repository   := some {
    repository            := "repo"
    latestRelatedCommit   := some "commit"
    latestRelatedCommitAt := some "2026-01-01T12:00:00Z"
    nonempty              := repo_not_blank
    positive              := none_positive }
  durable      := some { validated := true, workstreamId := "ws", lastProgressAt }

theorem inspectContinuity_total_iff_zoned :
    let _ := IsoFormat.noons
    ∃ r, inspectContinuity (progressedSnapshot "2026-01-01T12:00:00+00:00") = .ok r := by
  let _ := IsoFormat.noons
  apply (inspectContinuity_total_iff IsoFormat.noons_roundTrips _).mpr
  intro identity hid
  have hid : activeWorkstream = identity := Option.some.inj hid
  subst hid
  constructor
  case progress     =>
    intro p hp q hq
    have hnoon : ∀ p ∈ (progressedSnapshot "2026-01-01T12:00:00+00:00").progress
        ((progressedSnapshot "2026-01-01T12:00:00+00:00").accept activeWorkstream),
        p.time.Aware := by
      have hread : (progressedSnapshot "2026-01-01T12:00:00+00:00").progress
          ((progressedSnapshot "2026-01-01T12:00:00+00:00").accept activeWorkstream) =
          [⟨⟨63902865600000000, some 0⟩, "repository_commit:commit"⟩,
            ⟨⟨63902865600000000, some 0⟩, "durable_state:durable"⟩] := rfl
      rw [hread]
      simp [Datetime.Aware]
    exact iff_of_true (hnoon p hp) (hnoon q hq)
  case conversation => exact fun _ h => absurd h (by decide)

-- The durable state is written without a time zone.
theorem inspectContinuity_raises :
    let _ := IsoFormat.noons
    inspectContinuity (progressedSnapshot "2026-01-01T12:00:00") =
      Py.raise .typeError "can't compare offset-naive and offset-aware datetimes" :=
  rfl

end GeneralExecution.Continuity
