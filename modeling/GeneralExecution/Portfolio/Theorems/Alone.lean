import GeneralExecution.Portfolio.Theorems.Decisions

namespace GeneralExecution

open Portfolios

variable [Sha256] {s s' s₁ s₂ : Portfolios} {made : List (Portfolios × Portfolios)}
variable {state cur new : PortfolioState} {latest : Option ExecutionCheckpoint}
variable {cp : ExecutionCheckpoint}

-- Every client keeps the store consistent and takes nothing back.
def Portfolios.discipline : Discipline Portfolios :=
  .shared Consistent Advances (fun _ => .refl) .trans

theorem Portfolios.discipline_portfolio : PortfolioDiscipline Portfolios.discipline where
  consistent _ h := h
  advances _ _ h := h

theorem Portfolios.Commits.respects (hs : s.Consistent) (h : s.Commits s' cur latest new cp) :
    Portfolios.discipline.inv s' ∧ Portfolios.discipline.guar s s' :=
  ⟨h.consistent hs, h.advances hs⟩

theorem initializePortfolio_run_ok {head : DurablePortfolioHead} (hs : s.Consistent)
    (h : (PortfolioHeadStore.initializePortfolio state).run s = (.ok head, s')) :
    s.Initializes s' state := by
  have hr : (PortfolioHeadStore.initializePortfolio state).Respects (.alone Consistent)
      (fun _ r s' => r.isOk = true → s.Initializes s' state) [] s := by
    refine PortfolioHeadStore.initializePortfolio_respects (fun _ hi => hi)
      (fun s₁ s₂ hi hs₁ hinit => ?_) fun _ _ _ _ _ _ hok => nomatch hok
    cases (hs₁ : s = s₁)
    refine ⟨?_, trivial, fun s₃ _ _ hs₃ _ _ _ => (hs₃ : s₂ = s₃) ▸ hinit⟩
    cases hinit
    case inl hinit => exact hinit.right ▸ hi
    case inr hinit => exact hinit.consistent hi
  have hpost := (hr.run hs).right
  rw [h] at hpost
  exact hpost rfl

theorem initializePortfolio_run_of (hs : s.Consistent) (hg : state.generation = 0)
    (hn : s.head? state.portfolioId = none) :
    ∃ head s', (PortfolioHeadStore.initializePortfolio state).run s = (.ok head, s') ∧
      s.Creates s' state := by
  have hprev := state.genesis.mpr hg
  have hfresh : ∀ column ∈ [PortfolioHeadRow.portfolioId],
      s.heads.select column (column (portfolioHeadRow state none)) = none :=
    List.forall_mem_singleton.mpr hn
  have ⟨heads, hi⟩ := Table.insert?_of_fresh hfresh
  have ht : PortfolioHeadStore.initializeStatements state (portfolioSnapshotDigest state) s =
      .ok (none, { s with heads := heads }) := by
    simp only [PortfolioHeadStore.initializeStatements, Statements.get_bind_eq_ok, hn,
      Statements.lift_bind_eq_ok, Py.ofOption_eq_ok, Statements.set_bind_eq_ok,
      Statements.pure_eq_ok]
    exact ⟨heads, hi, trivial, rfl⟩
  have hc := (PortfolioHeadStore.initializeStatements_eq_ok hs hg ht).right.left rfl
  have hhead := portfolioHead_eq (hc.holds hs).latest
  rw [Option.map_none] at hhead
  refine ⟨durablePortfolioHead (hc.holds hs).latest, _, ?_, hc⟩
  simp only [PortfolioHeadStore.initializePortfolio, Program.bind_run_ok, Program.lift_run,
    Prod.mk.injEq, Py.require_eq_ok, Program.transaction_run_ok,
    deserializePortfolioSnapshot_serialize, Except.ok.injEq]
  exact ⟨(), s, ⟨⟨hg, hprev⟩, rfl⟩, _, s, ⟨rfl, rfl⟩, none, _, ht, congrArg (·, _) hhead⟩

theorem recoverPortfolio_run (hs : s.Consistent) (hh : s.Holds state latest) :
    (recoverPortfolioAfterRestart state.portfolioId).run s =
      (.ok (state, latest, portfolioRecoveryReport hh.latest), s) := by
  have hr : (recoverPortfolioAfterRestart state.portfolioId).Respects (.alone Consistent)
      (fun _ r s' => (r, s') = (.ok (state, latest, portfolioRecoveryReport hh.latest), s)) [] s := by
    refine recoverPortfolio_respects (fun _ hi => hi)
      (fun s₁ s₂ state' latest' _ hs₁ hh' hp _ hs₂ => ?_) fun _ _ s₁ _ _ _ hs₁ hn _ _ => ?_
    · cases (hs₁ : s = s₁)
      cases (hs₂ : s = s₂)
      have ⟨hstate, hlatest⟩ := hh'.unique hh hp
      subst hstate hlatest
      rfl
    · cases (hs₁ : s = s₁)
      rw [hh.head] at hn
      contradiction
  exact (hr.run hs).right

theorem alreadyApplied_run {ref : String} (hs : s.Consistent) (hh : s.Holds state latest) :
    (alreadyApplied state.portfolioId ref).run s = (.ok (appliedDigest ref latest), s) := by
  have hr : (alreadyApplied state.portfolioId ref).Respects (.alone Consistent)
      (fun _ r s' => (r, s') = (.ok (appliedDigest ref latest), s)) [] s := by
    refine alreadyApplied_respects (fun _ hi => hi)
      (fun s₁ s₂ state' latest' _ hs₁ hh' hp _ hs₂ => ?_) fun _ _ s₁ _ _ _ hs₁ hn _ _ => ?_
    · cases (hs₁ : s = s₁)
      cases (hs₂ : s = s₂)
      rw [(hh'.unique hh hp).right]
    · cases (hs₁ : s = s₁)
      rw [hh.head] at hn
      contradiction
  exact (hr.run hs).right

-- The store has no checkpoint with the identity of this one.
def Portfolios.Fresh (s : Portfolios) (cp : ExecutionCheckpoint) : Prop :=
  ∀ column ∈ [PortfolioCheckpointRow.primaryKey, PortfolioCheckpointRow.uniqueId,
    PortfolioCheckpointRow.uniqueDigest],
      s.checkpoints.select column (column (portfolioCheckpointRow cp)) = none

theorem commit_run (hs : s.Consistent) (hh : s.Holds cur latest) (hp : cur.Precedes new cp)
    (hf : s.Fresh cp) :
    ∃ head s', (PortfolioHeadStore.commit cur.portfolioId cur.digest new cp).run s =
      (.ok head, s') ∧ s.Commits s' cur latest new cp := by
  have ⟨s', ht⟩ := PortfolioHeadStore.exists_commitStatements hh hp.portfolioId hp.generation
    hp.previous hp.binds hf
  have ⟨_, cur', latest', hc, _⟩ := PortfolioHeadStore.commitStatements_eq_ok hs hp.portfolioId ht
  have ⟨hcur, hlatest⟩ := hc.current.unique hh (hc.portfolioId.symm.trans hp.portfolioId)
  subst hcur hlatest
  have hb : Guard.nonempty .portfolioPersistenceError [("portfolio_id", cur'.portfolioId)] = .ok _ :=
    Guard.nonempty_of cur'.nonempty
  have hd : ∀ x ∈ [("expected_state_digest", cur'.digest)], IsSha256 x.2 :=
    List.forall_mem_singleton.mpr (isSha256_sha256Digest _)
  have hhead := portfolioHead_eq hc.holds.latest
  rw [Option.map_some] at hhead
  refine ⟨durablePortfolioHead hc.holds.latest, s', ?_, hc⟩
  simp only [PortfolioHeadStore.commit, hb, Guard.sha256_of hd, Program.bind_run_ok,
    Program.lift_run, Prod.mk.injEq, Py.require_eq_ok, Program.transaction_run_ok]
  exact ⟨⟨cur'.nonempty⟩, s, ⟨trivial, rfl⟩, ⟨hd⟩, s, ⟨trivial, rfl⟩, (), s, ⟨hp.portfolioId, rfl⟩, _, s', ht, hhead, rfl⟩

section Ticks

variable {portfolioId : String} {policy : TransitionPolicy} {r : ResumeTickResult}
variable {observation : Option ResumeTickObservation}
variable {requirement : CoreVerificationRequirement}
variable {verification : Option CoreVerificationReceipt}

theorem resumeTick_ticked (hs : s.Consistent) :
    Ticked portfolioId policy observation requirement
      ((resumeTick portfolioId policy observation requirement verification).trace s)
      ((resumeTick portfolioId policy observation requirement verification).run s).1 := by
  have hr : (resumeTick portfolioId policy observation requirement verification).Respects
      Portfolios.discipline
      (fun made r _ => Ticked portfolioId policy observation requirement made r) [] s :=
    resumeTick_respects Portfolios.discipline_portfolio
      (fun _ _ _ _ _ _ _ _ hi _ _ _ hc => hc.respects hi) (fun _ _ h => h) fun _ _ _ _ _ h => h
  exact (hr.run hs).right

-- A tick that returns `committed` has made exactly the commit of its transition.
theorem resumeTick_run_committed (hs : s.Consistent)
    (h : (resumeTick portfolioId policy observation requirement verification).run s = (.ok r, s'))
    (hd : r.disposition = .committed) :
    ∃ o receipt cur latest t, observation = some o ∧
      TickTransition policy o requirement receipt cur t ∧
      s.Commits s' cur latest t.newState t.checkpoint := by
  have ht := @resumeTick_ticked _ s portfolioId policy observation requirement verification hs
  have hl := Program.leads_trace
    (resumeTick portfolioId policy observation requirement verification) s
  generalize (resumeTick portfolioId policy observation requirement verification).trace s = made
    at ht hl
  rw [h] at ht hl
  cases ht
  case idle hd' => exact absurd hd hd'
  case applied hr => exact absurd (hr.disposition.symm.trans hd) nofun
  case recovered hr => exact absurd (hr.disposition.symm.trans hd) nofun
  case committed s₁ s₂ s₃ cur latest t receipt o ho hp hm hu ht hc _ _ _ =>
    have ⟨h₁, _, h₃⟩ := hl.commit hm
    subst h₁ h₃
    exact ⟨o, receipt, cur, latest, t, ho, ht, hc⟩

-- A tick whose transition is accepted and new to the store is committed.
theorem resumeTick_run_of {o : ResumeTickObservation} {receipt : CoreVerificationReceipt}
    {t : PortfolioTransitionResult} (hs : s.Consistent) (hh : s.Holds cur latest)
    (hg : gateOpen receipt requirement = true)
    (ht : TickTransition policy o requirement receipt cur t)
    (ha : appliedDigest o.checkpointRef latest = none) (hf : s.Fresh t.checkpoint)
    (hd : t.newState.digest ≠ cur.digest) :
    ∃ r s', (resumeTick o.portfolioId policy (some o) requirement (some receipt)).run s =
      (.ok r, s') ∧ r.disposition = .committed ∧
      s.Commits s' cur latest t.newState t.checkpoint := by
  have ⟨head, s', hcommit, hc⟩ := commit_run hs hh ht.precedes hf
  have hs' := hc.consistent hs
  have hnew := recoverPortfolio_run hs' hc.holds
  rw [hc.portfolioId] at hnew
  have hvalid : (committedResult o.portfolioId cur o t
      (portfolioRecoveryReport hc.holds.latest)).Valid := (committedResult_valid ht).mpr hd
  have hb : Guard.nonempty .resumeTickError [("portfolio_id", o.portfolioId)] = .ok _ :=
    Guard.nonempty_of (ht.portfolioId ▸ cur.nonempty)
  refine ⟨committedResult o.portfolioId cur o t (portfolioRecoveryReport hc.holds.latest), s', ?_,
    rfl, hc⟩
  have hconfirm : (confirmTick o.portfolioId cur o t).run s' =
      (.ok (committedResult o.portfolioId cur o t (portfolioRecoveryReport hc.holds.latest)), s') := by
    simp only [confirmTick, Program.bind_run_ok, Program.lift_run, Prod.mk.injEq,
      Py.ofOption_eq_ok, Py.require_eq_ok]
    rw [ht.portfolioId]
    refine ⟨_, s', hnew, t.checkpoint, s', ⟨rfl, rfl⟩, (), s', ⟨rfl, rfl⟩, (), s', ⟨rfl, rfl⟩, ?_, rfl⟩
    exact ht.portfolioId ▸ hvalid.checked
  have hfilter : (some receipt).filter (gateOpen · requirement) = some receipt := by simp [hg]
  have happly : (applyTick o.portfolioId policy o requirement receipt cur
      (portfolioRecoveryReport hh.latest)).run s = (.ok (committedResult o.portfolioId cur o t
        (portfolioRecoveryReport hc.holds.latest)), s') := by
    have happlied : (alreadyApplied cur.portfolioId o.checkpointRef).run s = _ :=
      alreadyApplied_run hs hh
    rw [ha, ← ht.portfolioId] at happlied
    have hstale : ¬(o.expectedGeneration ≠ cur.generation ∨ o.expectedStateDigest ≠ cur.digest) := by
      simp [ht.generation, ht.stateDigest]
    rw [← ht.portfolioId] at hcommit
    simp only [applyTick, Program.bind_run_ok]
    refine ⟨_, s, happlied, ?_⟩
    simp only [if_neg hstale, Program.bind_run_ok, Program.lift_run]
    refine ⟨t, s, congrArg (·, s) ht.transition, ?_⟩
    simp only [commitTick, Program.bind_run_ok, Program.attempt_run, hcommit]
    exact ⟨_, s', rfl, hconfirm⟩
  have hrecover := recoverPortfolio_run hs hh
  rw [← ht.portfolioId] at hrecover
  simp only [resumeTick, hfilter, Program.bind_run_ok, Program.lift_run]
  refine ⟨_, s, congrArg (·, s) hb, (), s, congrArg (·, s) (Py.require_eq_ok.mpr (by simp)), _, s,
    hrecover, (), s, congrArg (·, s) (Py.require_eq_ok.mpr ht.policy), happly⟩

-- The part of a tick that finds its observation in the latest checkpoint. It answers with the state
-- that has been recovered before.
theorem applyTick_run_applied {o : ResumeTickObservation} {receipt : CoreVerificationReceipt}
    {recovery : PortfolioRecoveryReport} (hs : s.Consistent) (hh : s.Holds state (some cp))
    (hp : o.portfolioId = state.portfolioId) (hm : o.checkpointRef ∈ cp.canonicalRefs) :
    (applyTick o.portfolioId policy o requirement receipt cur recovery).run s =
      (.ok { idleResult o.portfolioId .alreadyApplied (some o.digest) cur recovery with
        checkpointDigest := some cp.digest }, s) := by
  have happlied : (alreadyApplied state.portfolioId o.checkpointRef).run s = _ :=
    alreadyApplied_run hs hh
  rw [appliedDigest, if_pos hm, ← hp] at happlied
  have hn := o.nonempty ("portfolio_id", o.portfolioId) (by simp)
  simp only [applyTick, Program.bind_run_ok]
  exact ⟨_, s, happlied, congrArg (·, s) (idleResult_valid hn cp).checked⟩

-- A tick whose observation the latest checkpoint carries changes nothing.
theorem resumeTick_run_applied {o : ResumeTickObservation} {receipt : CoreVerificationReceipt}
    (hs : s.Consistent) (hh : s.Holds state (some cp)) (hg : gateOpen receipt requirement = true)
    (hp : o.portfolioId = state.portfolioId) (hpolicy : o.policyDigest = policy.digest)
    (hm : o.checkpointRef ∈ cp.canonicalRefs) :
    ∃ r, (resumeTick o.portfolioId policy (some o) requirement (some receipt)).run s = (.ok r, s) ∧
      r.disposition = .alreadyApplied := by
  have hb : Guard.nonempty .resumeTickError [("portfolio_id", o.portfolioId)] = .ok _ :=
    Guard.nonempty_of (hp ▸ state.nonempty)
  have hrecover := recoverPortfolio_run hs hh
  rw [← hp] at hrecover
  have hfilter : (some receipt).filter (gateOpen · requirement) = some receipt := by simp [hg]
  refine ⟨{ idleResult o.portfolioId .alreadyApplied (some o.digest) state
    (portfolioRecoveryReport hh.latest) with checkpointDigest := some cp.digest }, ?_, rfl⟩
  simp only [resumeTick, hfilter, Program.bind_run_ok, Program.lift_run]
  exact ⟨_, s, congrArg (·, s) hb, (), s, congrArg (·, s) (Py.require_eq_ok.mpr (by simp)), _, s,
    hrecover, (), s, congrArg (·, s) (Py.require_eq_ok.mpr hpolicy),
    applyTick_run_applied hs hh hp hm⟩

end Ticks

section Decisions

variable {decision : HumanGateDecision} {providerActor decisionRef : String}
variable {r : HumanGateDecisionResult}

theorem consumeHumanGateDecision_run_ok (hs : s.Consistent)
    (h : (consumeHumanGateDecision decision providerActor decisionRef).run s = (.ok r, s')) :
    ∃ cur latest new cp, DecisionTransition cur latest decision decisionRef new cp ∧
      s.Commits s' cur latest new cp := by
  have hr : (consumeHumanGateDecision decision providerActor decisionRef).Respects
      Portfolios.discipline (fun made r _ => Decided decision decisionRef made r) [] s :=
    consumeHumanGateDecision_respects Portfolios.discipline_portfolio
      (fun _ _ _ _ _ _ hi _ _ hc => hc.respects hi) (fun _ _ h => h) fun _ _ _ _ _ h => h
  have hd := (hr.run hs).right
  have hl := Program.leads_trace (consumeHumanGateDecision decision providerActor decisionRef) s
  rw [List.nil_append] at hd
  generalize (consumeHumanGateDecision decision providerActor decisionRef).trace s = made at hd hl
  rw [h] at hd hl
  cases hd
  case committed s₁ s₂ s₃ cur latest new cp hm ht hc _ _ _ =>
    have ⟨h₁, _, h₃⟩ := hl.commit hm
    subst h₁ h₃
    exact ⟨cur, latest, new, cp, ht, hc⟩

end Decisions

end GeneralExecution
