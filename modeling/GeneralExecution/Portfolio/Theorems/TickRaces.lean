import GeneralExecution.Portfolio.Theorems.Acknowledgements

namespace GeneralExecution

open Portfolios

section Races

variable [Sha256] {c : PortfolioRun} {client : PortfolioClient} {id : String}
variable {policy : TransitionPolicy} {observation : Option ResumeTickObservation}
variable {requirement : CoreVerificationRequirement}
variable {verification : Option CoreVerificationReceipt} {r : ResumeTickResult}
variable {made : List ((Portfolios × List PortfolioEvent) × (Portfolios × List PortfolioEvent))}
variable {accesses : List (Portfolios × Portfolios)} {s : Portfolios}

-- The checkpoint of a result is the one of the generation and the state that it reports, and carries
-- the observation if that has been applied already.
def ResumeTickResult.Coherent (r : ResumeTickResult) (id : String)
    (observation : Option ResumeTickObservation) (s : Portfolios) : Prop :=
  ∃ cp, s.checkpoint? id r.postGeneration = some (portfolioCheckpointRow cp) ∧
    r.checkpointDigest = some cp.digest ∧ cp.portfolioStateDigest = r.postStateDigest ∧
    (r.disposition = .alreadyApplied → ∀ o ∈ observation, o.checkpointRef ∈ cp.canonicalRefs)

-- The head moves between the first two reads of a tick, of which the second one finds that the
-- observation has been applied.
def Overtaken (id : String) (observation : Option ResumeTickObservation)
    (accesses : List (Portfolios × Portfolios)) : Prop :=
  ∃ o ∈ observation, ∃ s₁ s₂ more state cp, accesses = (s₁, s₁) :: (s₂, s₂) :: more ∧
    s₂.Holds state (some cp) ∧ state.portfolioId = id ∧ o.checkpointRef ∈ cp.canonicalRefs ∧
    s₁.head? id ≠ s₂.head? id

theorem Unapplied.not_overtaken {o : ResumeTickObservation} (h : Unapplied id o accesses) :
    ¬Overtaken id (some o) accesses := by
  rintro ⟨_, ho, s₁, s₂, more, state, cp, rfl, hh, hid, href, _⟩
  cases ho
  obtain ⟨s₁', s₂', state', latest, more', he, hh', hid', happlied⟩ := h
  cases he
  obtain ⟨_, rfl⟩ := hh.unique hh' (hid.trans hid'.symm)
  rw [appliedDigest, if_pos href] at happlied
  cases happlied

-- What an access has found is still there when the call has ended.
theorem PortfolioRun.Reached.advances_of_inHistory (h : c.Reached)
    (ha : ∀ m ∈ made, portfolios.InHistory .empty client c.store m) {m : Portfolios × Portfolios}
    (hm : m ∈ Protocol.stores made) : m.1.Advances c.store.1 := by
  obtain ⟨m', hm', rfl⟩ := List.mem_map.mp hm
  have hevent := (ha m' hm').event
  exact (h.recorded.admits _ hevent).guar.left.trans (PortfolioRun.advances_of_mem h.recorded hevent)

-- A result that reports what a store has held is coherent.
theorem ResumeTickResult.Reports.coherent {state : PortfolioState} {cp : ExecutionCheckpoint}
    {disposition : TickDisposition} {s' : Portfolios} (h : r.Reports disposition state cp)
    (hh : s.Holds state (some cp)) (hs : s.Advances s') (hid : state.portfolioId = id)
    (href : disposition = .alreadyApplied → ∀ o ∈ observation, o.checkpointRef ∈ cp.canonicalRefs) :
    r.Coherent id observation s' := by
  refine ⟨cp, ?_, h.checkpoint, ?_, fun hd => href (h.disposition.symm.trans hd)⟩
  case refine_1 =>
    rw [h.generation, ← hid]
    exact hs.checkpoints _ _ _ hh.checkpoint
  case refine_2 => rw [h.stateDigest, (hh.latest.binds cp rfl).stateDigest]

-- A result that reports the state of one read and the checkpoint of a later one is coherent only if
-- the head has not moved.
theorem ResumeTickResult.Reports.coherent_iff {state₁ state₂ : PortfolioState}
    {latest : Option ExecutionCheckpoint} {cp : ExecutionCheckpoint} {s₁ s₂ s' : Portfolios}
    {disposition : TickDisposition} (h : r.Reports disposition state₁ cp)
    (hh₁ : s₁.Holds state₁ latest) (hh₂ : s₂.Holds state₂ (some cp)) (h₁₂ : s₁.Advances s₂)
    (hs : s₂.Advances s') (hid₁ : state₁.portfolioId = id) (hid₂ : state₂.portfolioId = id)
    (href : ∀ o ∈ observation, o.checkpointRef ∈ cp.canonicalRefs) :
    r.Coherent id observation s' ↔ s₁.head? id = s₂.head? id := by
  have hp : state₁.portfolioId = state₂.portfolioId := hid₁.trans hid₂.symm
  constructor
  case mp  =>
    rintro ⟨cp', hrow, hdigest, _⟩
    have hrow₂ := hs.checkpoints _ _ _ hh₂.checkpoint
    rw [h.generation] at hrow
    rw [h.checkpoint, Option.some.injEq] at hdigest
    have he := checkpoint?_eq_of_digest hrow hrow₂ hdigest.symm
    have hgen : state₁.generation = state₂.generation :=
      (checkpoint?_eq_some.mp hrow).right.right.symm.trans <|
        he ▸ (checkpoint?_eq_some.mp hrow₂).right.right
    rcases hh₁.eq_or_lt hh₂ h₁₂ hp with ⟨rfl, rfl⟩ | hlt
    · rw [← hid₁, hh₁.head, hh₂.head]
    · exact absurd hgen hlt.ne
  case mpr =>
    intro he
    have hhead := hh₁.head
    rw [hp, hid₂, he, ← hid₂, hh₂.head, Option.some.injEq] at hhead
    rcases hh₁.eq_or_lt hh₂ h₁₂ hp with ⟨rfl, _⟩ | hlt
    · exact h.coherent hh₂ hs hid₁ fun _ => href
    · exact absurd (congrArg PortfolioHeadRow.generation hhead).symm hlt.ne

-- A result with a checkpoint describes one state, unless the tick has been overtaken between the read
-- of the state and the read of the checkpoint.
theorem tickResult_coherent_iff (h : c.Reached)
    (hr : ⟨.ok (.tick id policy observation requirement verification, .ok (.tick r)), made⟩ ∈
      c.returned) (hd : r.checkpointDigest.isSome) :
    r.Coherent id observation c.store.1 ↔ ¬Overtaken id observation (Protocol.stores made) := by
  have ha := h.answered hr
  have hadvances {m : Portfolios × Portfolios} (hm : m ∈ Protocol.stores made) :
      m.1.Advances c.store.1 := h.advances_of_inHistory ha.inHistory hm
  obtain ⟨_, _, _, result, ht, he⟩ := ha.post
  cases result
  case error => cases he
  case ok    =>
    cases he
    generalize Protocol.stores made = accesses at ht hadvances
    cases ht
    case idle hn _ _ => simp [hn] at hd
    case applied s₁ s₂ state₁ latest₁ state₂ cp o ho hpid hh₁ hid₁ hh₂ hid₂ h₁₂ href hreports =>
      subst ho
      have hs₂ : s₂.Advances c.store.1 := hadvances (by simp : (s₂, s₂) ∈ _)
      rw [hreports.coherent_iff hh₁ hh₂ h₁₂ hs₂ hid₁ hid₂ fun _ ho => Option.some.inj ho ▸ href]
      constructor
      case mp  =>
        rintro heq ⟨_, _, s₁', s₂', more, state, cp', hreads, _, _, _, hne⟩
        cases hreads
        exact hne heq
      case mpr =>
        intro hn
        by_contra hne
        exact hn ⟨o, rfl, s₁, s₂, [], state₂, cp, rfl, hh₂, hid₂, href, hne⟩
    case recovered made' s₃ state cp o ho hpid _ hu hh hid href hreports =>
      subst ho
      have hs₃ : s₃.Advances c.store.1 := hadvances (by simp : (s₃, s₃) ∈ _)
      exact iff_of_true (hreports.coherent hh hs₃ hid fun _ _ ho => Option.some.inj ho ▸ href)
        hu.append.not_overtaken
    case committed made' s₃ s₄ s₅ cur latest t receipt o ho hpid _ hu ht hc hh _ hreports =>
      subst ho
      have hs₅ : s₅.Advances c.store.1 := hadvances (by simp : (s₅, s₅) ∈ _)
      have hid : t.newState.portfolioId = id :=
        hc.portfolioId.trans <| ht.portfolioId.symm.trans hpid
      exact iff_of_true (hreports.coherent hh hs₅ hid fun hd => by cases hd)
        hu.append.not_overtaken

-- The read that follows the commit of a call finds what the call has committed.
def FindsCommitted (accesses : List (Portfolios × Portfolios)) : Prop :=
  ∀ before s₃ s₄ s₅ cur latest new cp, accesses = before ++ [(s₃, s₄), (s₅, s₅)] →
    s₃.Commits s₄ cur latest new cp → s₅.Holds new (some cp)

-- The commit of a call leads to a state with another digest.
def MovesDigest (accesses : List (Portfolios × Portfolios)) : Prop :=
  ∀ m ∈ accesses, ∀ cur latest new cp, m.1.Commits m.2 cur latest new cp → new.digest ≠ cur.digest

theorem quiet_not_commits (hq : ∀ m ∈ accesses, m.2 = m.1) {m : Portfolios × Portfolios}
    (hm : m ∈ accesses) {cur new : PortfolioState} {latest : Option ExecutionCheckpoint}
    {cp : ExecutionCheckpoint} : ¬m.1.Commits m.2 cur latest new cp := by
  intro hc
  exact hc.ne_checkpoints (congrArg Portfolios.checkpoints (hq m hm))

theorem FindsCommitted.of_quiet (hq : ∀ m ∈ accesses, m.2 = m.1) : FindsCommitted accesses := by
  intro before s₃ s₄ s₅ cur latest new cp he hc
  exact absurd hc <| quiet_not_commits hq (by simp [he] : (s₃, s₄) ∈ accesses)

theorem MovesDigest.of_quiet (hq : ∀ m ∈ accesses, m.2 = m.1) : MovesDigest accesses := by
  intro m hm cur latest new cp hc
  exact absurd hc <| quiet_not_commits hq hm

section Commits

variable {made' : List (Portfolios × Portfolios)} {s₃ s₄ s₅ : Portfolios} {cur new : PortfolioState}
variable {latest : Option ExecutionCheckpoint} {cp : ExecutionCheckpoint}

theorem findsCommitted_iff (hc : s₃.Commits s₄ cur latest new cp) :
    FindsCommitted (made' ++ [(s₃, s₄), (s₅, s₅)]) ↔ s₅.Holds new (some cp) := by
  constructor
  case mp  => exact fun h => h made' s₃ s₄ s₅ cur latest new cp rfl hc
  case mpr =>
    intro hh before s₃' s₄' s₅' cur' latest' new' cp' he hc'
    obtain ⟨_, hlast⟩ := List.append_inj' he rfl
    cases hlast
    obtain ⟨_, _, rfl, rfl⟩ := hc.unique hc'
    exact hh

theorem movesDigest_iff (hq : ∀ m ∈ made', m.2 = m.1) (hc : s₃.Commits s₄ cur latest new cp) :
    MovesDigest (made' ++ [(s₃, s₄), (s₅, s₅)]) ↔ new.digest ≠ cur.digest := by
  constructor
  case mp  => exact fun h => h (s₃, s₄) (by simp) cur latest new cp hc
  case mpr =>
    intro hd m hm cur' latest' new' cp' hc'
    rcases List.mem_append.mp hm with hm | hm
    · exact absurd hc' <| quiet_not_commits hq hm
    · simp only [List.mem_cons, List.not_mem_nil, or_false] at hm
      rcases hm with rfl | rfl
      · obtain ⟨rfl, _, rfl, _⟩ := hc.unique hc'
        exact hd
      · exact absurd rfl hc'.ne_checkpoints

end Commits

-- A tick that raises has changed nothing, unless it has been overtaken between its commit and the
-- read that is to confirm it, or has committed a state with the digest of its predecessor.
theorem tick_quiet_iff (h : c.Reached) {answer : Py PortfolioAnswer}
    (hr : ⟨.ok (.tick id policy observation requirement verification, answer), made⟩ ∈ c.returned) :
    (answer.isOk = false → ∀ m ∈ Protocol.stores made, m.2 = m.1) ↔
      FindsCommitted (Protocol.stores made) ∧ MovesDigest (Protocol.stores made) := by
  obtain ⟨_, _, _, result, ht, rfl⟩ := (h.answered hr).post
  generalize Protocol.stores made = accesses at ht
  cases ht
  case refused hq => exact iff_of_true (fun _ => hq) ⟨.of_quiet hq, .of_quiet hq⟩
  case idle hq    => exact iff_of_true (fun hf => by cases hf) ⟨.of_quiet hq, .of_quiet hq⟩
  case applied    =>
    refine iff_of_true (fun hf => by cases hf) ⟨.of_quiet ?_, .of_quiet ?_⟩
    all_goals simp
  case recovered made' s₃ _ _ _ _ _ _ hq _ _ _ _ _ =>
    have hq : ∀ m ∈ made' ++ [(s₃, s₃)], m.2 = m.1 :=
      List.forall_mem_append.mpr ⟨hq, List.forall_mem_singleton.mpr rfl⟩
    exact iff_of_true (fun hf => by cases hf) ⟨.of_quiet hq, .of_quiet hq⟩
  case committed hq _ ht hc hh hd _ =>
    refine iff_of_true (fun hf => by cases hf) ⟨?_, ?_⟩
    · exact (findsCommitted_iff hc).mpr hh
    · exact (movesDigest_iff hq hc).mpr hd
  case unconfirmed made' s₃ s₄ s₅ _ _ _ _ _ _ _ _ hq ht hc ha he =>
    rw [findsCommitted_iff hc, movesDigest_iff hq hc]
    refine iff_of_false (fun hquiet => ?_) fun ⟨hh, hd⟩ => hd (he hh)
    have hm : (s₃, s₄) ∈ made' ++ [(s₃, s₄), (s₅, s₅)] := by simp
    exact quiet_not_commits (hquiet rfl) hm hc

-- A decision that raises has changed nothing, unless it has been overtaken between its commit and
-- the read that is to confirm it.
theorem decision_quiet_iff (h : c.Reached) {decision : HumanGateDecision}
    {providerActor decisionRef : String} {answer : Py PortfolioAnswer}
    (hr : ⟨.ok (.decide decision providerActor decisionRef, answer), made⟩ ∈ c.returned) :
    (answer.isOk = false → ∀ m ∈ Protocol.stores made, m.2 = m.1) ↔
      FindsCommitted (Protocol.stores made) := by
  obtain ⟨_, _, _, result, hd, rfl⟩ := (h.answered hr).post
  generalize Protocol.stores made = accesses at hd
  cases hd
  case refused hq => exact iff_of_true (fun _ => hq) (.of_quiet hq)
  case committed hq ht hc hh _ _ =>
    exact iff_of_true (fun hf => by cases hf) ((findsCommitted_iff hc).mpr hh)
  case unconfirmed made' s₃ s₄ s₅ _ _ _ _ _ hq ht hc ha hn =>
    rw [findsCommitted_iff hc]
    refine iff_of_false (fun hquiet => ?_) hn
    have hm : (s₃, s₄) ∈ made' ++ [(s₃, s₄), (s₅, s₅)] := by simp
    exact quiet_not_commits (hquiet rfl) hm hc

-- When a call that raises has changed nothing.
structure RaisesQuietly (c : PortfolioRun) : Prop where
  tick : ∀ id policy observation requirement verification answer made,
    ⟨.ok (.tick id policy observation requirement verification, answer), made⟩ ∈ c.returned →
      ((answer.isOk = false → ∀ m ∈ Protocol.stores made, m.2 = m.1) ↔
        FindsCommitted (Protocol.stores made) ∧ MovesDigest (Protocol.stores made))
  decide : ∀ decision providerActor decisionRef answer made,
    ⟨.ok (.decide decision providerActor decisionRef, answer), made⟩ ∈ c.returned →
      ((answer.isOk = false → ∀ m ∈ Protocol.stores made, m.2 = m.1) ↔
        FindsCommitted (Protocol.stores made))

theorem raisesQuietly (h : c.Reached) : RaisesQuietly c where
  tick _ _ _ _ _ _ _    := tick_quiet_iff h
  decide _ _ _ _ _       := decision_quiet_iff h

end Races

section Overtaking

variable [Sha256] {s s' : Portfolios} {state : PortfolioState} {latest : Option ExecutionCheckpoint}
variable {o : ResumeTickObservation} {policy : TransitionPolicy} {cp : ExecutionCheckpoint}
variable {requirement : CoreVerificationRequirement} {receipt : CoreVerificationReceipt}
variable {t : PortfolioTransitionResult} {cur : PortfolioState}

-- A tick that is not refused recovers the portfolio first.
theorem resumeTick_eq (hg : gateOpen receipt requirement = true) (hp : o.policyDigest = policy.digest) :
    resumeTick o.portfolioId policy (some o) requirement (some receipt) =
      recoverPortfolioAfterRestart o.portfolioId >>= fun recovered =>
        applyTick o.portfolioId policy o requirement receipt recovered.1 recovered.2.2 := by
  have hn : ∀ x ∈ [("portfolio_id", o.portfolioId)], ¬Text.Blank x.2 :=
    List.forall_mem_singleton.mpr <| o.nonempty ("portfolio_id", o.portfolioId) (by simp)
  have hpid : Py.require (∀ o' ∈ some o, o'.portfolioId = o.portfolioId) .resumeTickError
      "tick observation portfolio identity mismatch" = .ok () := Py.require_eq_ok.mpr (by simp)
  have hpolicy : Py.require (o.policyDigest = policy.digest) .resumeTickError
      "tick observation transition policy mismatch" = .ok () := Py.require_eq_ok.mpr hp
  have hfilter : (some receipt).filter (gateOpen · requirement) = some receipt := by simp [hg]
  rw [resumeTick, Guard.nonempty_of hn, hpid, hfilter]
  simp only [hpolicy]
  rfl

-- A commit that is followed by one of another client is not confirmed.
theorem confirmTick_run_overtaken (hs : s.Consistent) (hh : s.Holds state (some cp))
    (hid : o.portfolioId = state.portfolioId) (hd : cp.digest ≠ t.checkpoint.digest) :
    (confirmTick o.portfolioId cur o t).run s =
      (.error ⟨.resumeTickError, "committed tick recovered a different checkpoint"⟩, s) := by
  have hrecover := recoverPortfolio_run hs hh
  rw [← hid] at hrecover
  rw [confirmTick, Program.bind_run, hrecover]
  simp only [Program.bind_run, Program.lift_run, Py.ofOption, Except.ofOption, Py.require, Except.ensure,
    if_neg hd]

-- What a client does that offers an observation for the round.
theorem call_roundTick (hp : o.portfolioId = "portfolio")
    (hpolicy : o.policyDigest = (singlePolicy roundRule).digest) :
    PortfolioClient.call (roundTick o) =
      recoverPortfolioAfterRestart "portfolio" >>= fun recovered =>
        applyTick "portfolio" (singlePolicy roundRule) o coreRequirement coreReceipt recovered.1
          recovered.2.2 >>= fun r => pure (.tick r) := by
  have hgate : gateOpen coreReceipt coreRequirement = true := by
    simp [gateOpen, coreReceipt, coreRequirement]
  have heq := resumeTick_eq hgate hpolicy
  rw [hp] at heq
  exact (congrArg (· >>= fun r => pure (PortfolioAnswer.tick r)) heq).trans
    (Program.bind_assoc _ _ _)

-- Two clients offer the same observation, and the first one has recovered the portfolio before the
-- second one commits.
theorem exists_overtaken (hd : TellsRounds) :
    ∃ (c : PortfolioRun) (o : ResumeTickObservation) (r : ResumeTickResult) (made : _), c.Reached ∧
      ⟨.ok (roundTick o, .ok (.tick r)), made⟩ ∈ c.returned ∧ r.checkpointDigest.isSome ∧
      r.postGeneration = 0 := by
  obtain ⟨c, s, hc, hs, hrounds, _⟩ := exists_createdRun
  obtain ⟨t, r, s', ht, hrun, _, _, hrounds'⟩ :=
    hrounds.exists_ticked hd (by decide) (by decide : Guard.UniqueNonempty ["canonical"]) rfl
  let o := roundObservation enterState [] (by decide)
  have hother : (PortfolioClient.call (roundTick o)).run s = (.ok (.tick r), s') :=
    Program.bind_run_ok.mpr ⟨r, s', hrun, rfl⟩
  obtain ⟨c₁, hcall, hs₁⟩ := Protocol.exists_inFlight hc (roundTick o)
  rw [call_roundTick rfl rfl] at hcall
  have hrecover : (recoverPortfolioAfterRestart "portfolio").run s = _ :=
    recoverPortfolio_run hrounds.consistent hrounds.holds
  obtain ⟨c₂, _, hcall, hs₂, _⟩ := hcall.pause (hs₁ ▸ hs) hrecover
  obtain ⟨c₃, hcall, hs₃⟩ := hcall.perform hs₂ hother
  have happly := @applyTick_run_applied _ s' t.newState enterState t.checkpoint
    (singlePolicy roundRule) coreRequirement o coreReceipt
    (portfolioRecoveryReport hrounds.holds.latest) hrounds'.consistent hrounds'.holds
    hrounds'.going.portfolioId.symm (checkpointRef_mem ht.transition)
  obtain ⟨c₄, made, hc₄, _, hret, _⟩ := hcall.finish hs₃ (Program.bind_run_ok.mpr ⟨_, s', happly, rfl⟩)
  exact ⟨c₄, o, _, made, hc₄, hret, rfl, rfl⟩

omit [Sha256] in
theorem tickResult_coherent_iff_overtaken :
    let _ := Sha256.byRound
    ∃ (c : PortfolioRun) (o : ResumeTickObservation) (r : ResumeTickResult) (made : _),
      (r.Coherent "portfolio" (some o) c.store.1 ↔
        ¬Overtaken "portfolio" (some o) (Protocol.stores made)) ∧
      ⟨.ok (roundTick o, .ok (.tick r)), made⟩ ∈ c.returned ∧
      ¬r.Coherent "portfolio" (some o) c.store.1 := by
  intro _
  obtain ⟨c, o, r, made, hc, hr, hd, hg⟩ := exists_overtaken tellsRounds_byRound
  refine ⟨c, o, r, made, tickResult_coherent_iff hc hr hd, hr, fun ⟨cp, hrow, _⟩ => ?_⟩
  -- There is no checkpoint of the first generation.
  obtain ⟨_, _, hle, _⟩ := (hc.recorded.inv.counted _ _).mp ⟨_, hrow⟩
  omega

-- The second round of a portfolio offers an observation that the first one does not carry.
theorem appliedDigest_secondRound (hd : TellsRounds) (hr : Guard.UniqueNonempty ["canonical"])
    (ht : TickTransition (singlePolicy roundRule) (roundObservation enterState [] hr) coreRequirement
      coreReceipt enterState t) :
    appliedDigest (roundObservation t.newState [] hr).checkpointRef (some t.checkpoint) = none := by
  refine if_neg fun hm => ?_
  rcases checkpointRef_of_mem ht.transition hm with he | hm
  · refine hd.observations _ _ ?_ he
    simp [roundObservation, ht.precedes.generation, enterState, pendingState]
  · exact checkpointRef_ne_canonical (List.mem_singleton.mp hm)

-- Another client commits the next round between the commit of a tick and the read that is to confirm
-- it.
theorem exists_unconfirmed (hd : TellsRounds) :
    ∃ (c : PortfolioRun) (o : ResumeTickObservation) (e : PyError) (made : _), c.Reached ∧
      ⟨.ok (roundTick o, .error e), made⟩ ∈ c.returned ∧
      ∃ m ∈ Protocol.stores made, m.2 ≠ m.1 := by
  have hr : Guard.UniqueNonempty ["canonical"] := by decide
  obtain ⟨c, s, hc, hs, hrounds, _⟩ := exists_createdRun
  obtain ⟨t, ht, hg⟩ := exists_round hrounds.going hr
  have hgen := ht.precedes.generation
  have hfresh := hrounds.fresh hd (by decide) (ht.precedes.binds.generation.trans hgen)
  obtain ⟨head, s', hcommit, hcommits⟩ := commit_run hrounds.consistent hrounds.holds ht.precedes hfresh
  have hrounds' := hrounds.commits hg hcommits
  obtain ⟨t', r, s'', ht', hrun, _, _, hrounds''⟩ :=
    hrounds'.exists_ticked hd (by rw [hgen]; decide) hr (appliedDigest_secondRound hd hr ht)
  let o := roundObservation enterState [] hr
  obtain ⟨c₁, hcall, hs₁⟩ := Protocol.exists_inFlight hc (roundTick o)
  rw [call_roundTick rfl rfl] at hcall
  have hrecover : (recoverPortfolioAfterRestart "portfolio").run s = _ :=
    recoverPortfolio_run hrounds.consistent hrounds.holds
  obtain ⟨c₂, _, hcall, hs₂, _⟩ := hcall.pause (hs₁ ▸ hs) hrecover
  have happlied : (alreadyApplied "portfolio" o.checkpointRef).run s = _ :=
    alreadyApplied_run hrounds.consistent hrounds.holds
  rw [applyTick, Program.bind_assoc] at hcall
  obtain ⟨c₃, _, hcall, hs₃, _⟩ := hcall.pause hs₂ happlied
  have hstale : ¬(o.expectedGeneration ≠ enterState.generation ∨
      o.expectedStateDigest ≠ enterState.digest) := by simp [o, roundObservation]
  have htransition : tickTransition enterState (singlePolicy roundRule) o coreRequirement coreReceipt =
      .ok t := ht.transition
  simp only [appliedDigest, if_neg hstale, htransition] at hcall
  change Protocol.InFlight PortfolioClient.call _ _
    (commitTick "portfolio" enterState o t >>= fun r => pure (.tick r)) _ _ at hcall
  have hattempt : (PortfolioHeadStore.commit "portfolio" enterState.digest t.newState
      t.checkpoint).attempt.run s = (.ok (.ok head), s') := by
    rw [Program.attempt_run, show (PortfolioHeadStore.commit "portfolio" enterState.digest t.newState
      t.checkpoint).run s = _ from hcommit]
  rw [commitTick, Program.bind_assoc] at hcall
  obtain ⟨c₄, made, hcall, hs₄, hmade⟩ := hcall.pause hs₃ hattempt
  have hother : (PortfolioClient.call (roundTick (roundObservation t.newState [] hr))).run s' =
      (.ok (.tick r), s'') := Program.bind_run_ok.mpr ⟨r, s'', hrun, rfl⟩
  obtain ⟨c₅, hcall, hs₅⟩ := hcall.perform hs₄ hother
  have hne : t'.checkpoint.digest ≠ t.checkpoint.digest := by
    refine (hd.checkpoints _ _ ?_).right
    rw [ht'.precedes.binds.generation, ht.precedes.binds.generation, ht'.precedes.generation, hgen]
    decide
  have hconfirm := @confirmTick_run_overtaken _ s'' t'.newState o t'.checkpoint t enterState
    hrounds''.consistent hrounds''.holds hrounds''.going.portfolioId.symm hne
  have hraises : (confirmTick "portfolio" enterState o t >>= fun r => pure (PortfolioAnswer.tick r)).run
      s'' = (.error ⟨.resumeTickError, "committed tick recovered a different checkpoint"⟩, s'') := by
    rw [Program.bind_run, show (confirmTick "portfolio" enterState o t).run s'' = _ from hconfirm]
  obtain ⟨c₆, made', hc₆, _, hret, hmade'⟩ := hcall.finish hs₅ hraises
  refine ⟨c₆, o, _, made', hc₆, hret, ?_⟩
  by_contra hq
  have hleads := Program.leads_trace (PortfolioHeadStore.commit "portfolio" enterState.digest
    t.newState t.checkpoint).attempt s
  rw [hattempt] at hleads
  refine hcommits.ne_checkpoints (congrArg Portfolios.checkpoints (hleads.quiet fun m hm => ?_).symm)
  by_contra hne
  exact hq ⟨m, by rw [hmade', hmade]; simp [hm], hne⟩

omit [Sha256] in
-- A tick that raises after its commit.
theorem raisesQuietly_unconfirmed :
    let _ := Sha256.byRound
    ∃ (c : PortfolioRun) (o : ResumeTickObservation) (e : PyError) (made : _), RaisesQuietly c ∧
      ⟨.ok (roundTick o, .error e), made⟩ ∈ c.returned ∧
      ¬(FindsCommitted (Protocol.stores made) ∧ MovesDigest (Protocol.stores made)) := by
  intro _
  obtain ⟨c, o, e, made, hc, hr, m, hm, hne⟩ := exists_unconfirmed tellsRounds_byRound
  have hquiet := raisesQuietly hc
  refine ⟨c, o, e, made, hquiet, hr, fun hfinds => hne ?_⟩
  exact (hquiet.tick _ _ _ _ _ _ _ hr).mpr hfinds rfl m hm

end Overtaking

end GeneralExecution
