import GeneralExecution.Continuity.Inspect

namespace GeneralExecution.Continuity

-- The two verdicts on a development that is executing.
def DevelopmentVerdict.IsActive (verdict : DevelopmentVerdict) : Prop :=
  verdict = .developmentProgressing ∨ verdict = .conversationInterruptedDevelopmentContinued

-- Two reports say the same about the development.
structure SameDevelopment (r r' : ContinuityReport) : Prop where
  recommendedAction       : r.recommendedAction = r'.recommendedAction
  blockingGate            : r.blockingGate = r'.blockingGate
  durableState            : r.durableState = r'.durableState
  latestExecutionEvidence : r.latestExecutionEvidence = r'.latestExecutionEvidence
  evidenceWarnings        : r.evidenceWarnings = r'.evidenceWarnings
  developmentVerdict      :
    r.developmentVerdict = r'.developmentVerdict ∨
      (r.developmentVerdict.IsActive ∧ r'.developmentVerdict.IsActive)

theorem DevelopmentVerdict.IsActive.action {verdict : DevelopmentVerdict} (h : verdict.IsActive)
    (integrationRequired : Bool) :
    Continuity.action verdict integrationRequired = .noActionActiveExecution := by
  cases h
  case inl h => rw [h, Continuity.action]
  case inr h => rw [h, Continuity.action]

theorem DevelopmentVerdict.IsActive.blockingGate {verdict verdict' : DevelopmentVerdict}
    (h : verdict.IsActive) (h' : verdict'.IsActive) (s : ContinuitySnapshot) (e : AcceptedEvidence)
    (gate : Option GateEvidence) :
    Continuity.blockingGate s e verdict gate = Continuity.blockingGate s e verdict' gate := by
  have hg : verdictGate s e verdict = verdictGate s e verdict' := by
    cases h <;> cases h' <;> simp_all [verdictGate]
  unfold Continuity.blockingGate
  rw [hg]

section Judgements

variable [IsoFormat] {conversation conversation' : ConversationEvidence} {e : AcceptedEvidence}
variable {latest : Option ExecutionEvidence} {verdict verdict' : DevelopmentVerdict}

theorem activeVerdict_isActive (h : activeVerdict conversation latest = .ok verdict) :
    verdict.IsActive := by
  unfold activeVerdict at h
  split at h
  case h_1 =>
    split at h
    case isTrue  =>
      simp only [Except.bind_eq_ok, Except.pure_eq_ok] at h
      obtain ⟨continued, _, h⟩ := h
      cases continued
      case false => exact .inl h.symm
      case true  => exact .inr h.symm
    case isFalse => exact .inl (Except.ok.inj h).symm
  case h_2 => exact .inl (Except.ok.inj h).symm

-- A verdict that does not ask for the conversation, or that of a development that is executing.
def Deaf (verdictOf : ConversationEvidence → Option ExecutionEvidence → Py DevelopmentVerdict) : Prop :=
  (∃ verdict, ∀ conversation latest, verdictOf conversation latest = .ok verdict) ∨
    ∀ conversation latest, verdictOf conversation latest = activeVerdict conversation latest

theorem Deaf.pure (verdict : DevelopmentVerdict) : Deaf fun _ _ => return verdict :=
  .inl ⟨verdict, fun _ _ => rfl⟩

theorem Deaf.ite {f g : ConversationEvidence → Option ExecutionEvidence → Py DevelopmentVerdict}
    (c : Prop) [Decidable c] (hf : Deaf f) (hg : Deaf g) :
    Deaf fun conversation latest =>
      if c then f conversation latest else g conversation latest := by
  by_cases hc : c
  case pos => simpa only [if_pos hc] using hf
  case neg => simpa only [if_neg hc] using hg

theorem openVerdict_deaf (e : AcceptedEvidence) :
    Deaf fun conversation latest => openVerdict conversation e latest := by
  unfold openVerdict
  have hactive : Deaf activeVerdict := .inr fun _ _ => rfl
  apply Deaf.ite _ (.pure _)
  apply Deaf.ite _ (.pure _)
  apply Deaf.ite _ (.pure _)
  apply Deaf.ite _ (.pure _)
  apply Deaf.ite _ (.pure _)
  apply Deaf.ite _ (.pure _)
  apply Deaf.ite _ (.pure _)
  exact Deaf.ite _ hactive (.pure _)

theorem openVerdict_conversation (h : openVerdict conversation e latest = .ok verdict)
    (h' : openVerdict conversation' e latest = .ok verdict') :
    verdict = verdict' ∨ (verdict.IsActive ∧ verdict'.IsActive) := by
  cases openVerdict_deaf e
  case inl hd =>
    have ⟨v, hv⟩ := hd
    have hverdict := (hv conversation latest).symm.trans h
    have hverdict' := (hv conversation' latest).symm.trans h'
    exact .inl <| (Except.ok.inj hverdict).symm.trans (Except.ok.inj hverdict')
  case inr hd =>
    have hactive := (hd conversation latest).symm.trans h
    have hactive' := (hd conversation' latest).symm.trans h'
    exact .inr ⟨activeVerdict_isActive hactive, activeVerdict_isActive hactive'⟩

variable {s : ContinuitySnapshot} {gate gate' : Option GateEvidence}

theorem judge_conversation (h : judge s e latest = .ok (verdict, gate))
    (h' : judge { s with conversation := conversation } e latest = .ok (verdict', gate')) :
    gate = gate' ∧ (verdict = verdict' ∨ (verdict.IsActive ∧ verdict'.IsActive)) := by
  unfold judge at h h'
  split at h
  case isTrue hc =>
    rw [if_pos hc] at h'
    cases h
    cases h'
    exact ⟨rfl, .inl rfl⟩
  case isFalse hc =>
    rw [if_neg hc] at h'
    split at h
    case h_1 hg =>
      simp only [hg] at h'
      cases h
      cases h'
      exact ⟨rfl, .inl rfl⟩
    case h_2 hg hx =>
      simp only [hg, hx] at h'
      cases h
      cases h'
      exact ⟨rfl, .inl rfl⟩
    case h_3 hg hx =>
      simp only [hg, hx, Except.bind_eq_ok] at h h'
      obtain ⟨v, hv, h⟩ := h
      obtain ⟨v', hv', h'⟩ := h'
      cases h
      cases h'
      exact ⟨rfl, openVerdict_conversation hv hv'⟩

end Judgements

-- A broken conversation is not a stopped development.
theorem inspectContinuity_conversation [IsoFormat] {s : ContinuitySnapshot}
    {conversation : ConversationEvidence} {r r' : ContinuityReport}
    (h : inspectContinuity s = .ok r)
    (h' : inspectContinuity { s with conversation } = .ok r') : SameDevelopment r r' := by
  cases hr : (resolveWorkstream s.query s.candidates).candidate
  case none          =>
    simp only [inspectContinuity, hr] at h h'
    cases h
    cases h'
    exact ⟨rfl, rfl, rfl, rfl, rfl, .inl rfl⟩
  case some identity =>
    obtain ⟨latest, verdict, gate, hl, hj, h⟩ := (inspectContinuity_eq_ok hr).mp h
    obtain ⟨latest', verdict', gate', hl', hj', h'⟩ :=
      (inspectContinuity_eq_ok (s := { s with conversation }) hr).mp h'
    cases h
    cases h'
    cases hl.symm.trans hl'
    obtain ⟨hgate, hverdict⟩ := judge_conversation hj hj'
    cases hgate
    cases hverdict
    case inl hv =>
      cases hv
      exact ⟨rfl, rfl, rfl, rfl, rfl, .inl rfl⟩
    case inr hv =>
      obtain ⟨hv, hv'⟩ := hv
      constructor
      case recommendedAction       => exact (hv.action _).trans (hv'.action _).symm
      case blockingGate            => exact hv.blockingGate hv' ..
      case durableState            => rfl
      case latestExecutionEvidence => rfl
      case evidenceWarnings        => rfl
      case developmentVerdict      => exact .inr ⟨hv, hv'⟩

def activeWorkstream : WorkstreamCandidate where
  workstreamId  := "ws"
  canonicalName := "Alpha"
  nonempty      := by decide

-- A provider that is executing, observed after the conversation.
def activeSnapshot : ContinuitySnapshot where
  checkedAt    := "2026-01-01T03:00:00+00:00"
  query        := "alpha"
  candidates   := [activeWorkstream]
  conversation := ⟨.interruptionSuspected, some "2026-01-01T01:00:00Z"⟩
  provider     := some {
    provider   := "provider"
    state      := .active
    observedAt := some "2026-01-01T02:00:00Z"
    nonempty   := by decide
    workload   := by decide }

theorem inspectContinuity_conversation_interrupted :
    let _ := IsoFormat.hours
    ∃ r r' : ContinuityReport, SameDevelopment r r' ∧
      r.developmentVerdict = .conversationInterruptedDevelopmentContinued ∧
      r'.developmentVerdict = .developmentProgressing := by
  let _ := IsoFormat.hours
  have hr : (resolveWorkstream "alpha" [activeWorkstream]).candidate = some activeWorkstream := rfl
  have hj : judge activeSnapshot (activeSnapshot.accept activeWorkstream)
      (some ⟨"2026-01-01T02:00:00+00:00", "provider:provider"⟩) =
        .ok (.conversationInterruptedDevelopmentContinued, none) := rfl
  have h := (inspectContinuity_eq_ok (s := activeSnapshot) hr).mpr ⟨_, _, _, rfl, hj, rfl⟩
  have h' := (inspectContinuity_eq_ok (s := { activeSnapshot with conversation := {} }) hr).mpr
    ⟨_, .developmentProgressing, none, rfl, rfl, rfl⟩
  exact ⟨_, _, inspectContinuity_conversation h h', rfl, rfl⟩

end GeneralExecution.Continuity
