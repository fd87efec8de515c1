import GeneralExecution.Portfolio.Theorems.Events

namespace GeneralExecution

open Portfolios

variable [Sha256] {s s' : Portfolios} {id : String} {report : PersistentRuntimeEventReport}
variable {made : List (Portfolios × Portfolios)}

-- How far the head of a portfolio has come: nowhere before it exists.
def Portfolios.progress (id : String) (s : Portfolios) : Nat :=
  match s.head? id with
  | none     => 0
  | some row => row.generation + 1

omit [Sha256] in
theorem Portfolios.Advances.progress (h : s.Advances s') :
    progress id s ≤ progress id s' ∧
      (progress id s = progress id s' ↔ s'.head? id = s.head? id) := by
  simp only [Portfolios.progress]
  cases hr : s.head? id
  case none     => cases hr' : s'.head? id <;> simp
  case some row =>
    have ⟨row', hr', hg⟩ := h.heads id row hr
    rw [hr']
    rcases hg with rfl | hg
    · simp
    · simp only [Option.some.injEq]
      refine ⟨by omega, iff_of_false (by omega) fun he => ?_⟩
      rw [he] at hg
      exact Nat.lt_irrefl _ hg

theorem Portfolios.Holds.progress {state : PortfolioState} {latest : Option ExecutionCheckpoint}
    (h : s.Holds state latest) : progress state.portfolioId s = state.generation + 1 := by
  rw [Portfolios.progress, h.head]
  rfl

-- No other client moves the head of the portfolio between the accesses of a call.
def Undisturbed (id : String) (made : List (Portfolios × Portfolios)) : Prop :=
  made.IsChain fun m m' => m'.1.head? id = m.2.head? id

namespace PersistentRuntimeEventReport

-- What a report says of its event: if it has committed, its own transition alone has been made, and
-- otherwise none.
structure Coherent (r : PersistentRuntimeEventReport) (made : List (Portfolios × Portfolios)) :
    Prop where
  committed : r.status = "committed" → r.postGeneration = r.preGeneration + 1 ∧
    ∃ m ∈ made, ∃ cur latest new cp, m.1.Commits m.2 cur latest new cp ∧
      r.checkpointDigest = some cp.digest
  otherwise : r.status ≠ "committed" → r.postGeneration = r.preGeneration ∧
    r.postStateDigest = r.preStateDigest

end PersistentRuntimeEventReport

theorem Consumed.gained {result : ResumeTickResult} (h : Consumed id made result) :
    Accesses.gained (progress id) made = if result.disposition = .committed then 1 else 0 := by
  have hstill {made : List (Portfolios × Portfolios)} (hs : ∀ m ∈ made, Still id m) :
      Accesses.gained (progress id) made = 0 :=
    Accesses.gained_still fun m hm => by rw [progress, progress, hs m hm]
  cases h
  case still hs hd => rw [hstill hs, if_neg hd]
  case committed made₁ made₂ s₁ s₂ cur latest new cp hc hid hs hd =>
    have ⟨hs₁, hs₂⟩ := List.forall_mem_append.mp hs
    have h₁ := hc.current.progress
    have h₂ := hc.holds.progress
    rw [hid] at h₁
    rw [hc.portfolioId, hid] at h₂
    rw [Accesses.gained_append, Accesses.gained_cons, hstill hs₁, hstill hs₂, h₁, h₂,
      hc.generation, if_pos hd]
    omega

omit [Sha256] in
theorem spelling_committed {disposition : TickDisposition} :
    PyLiteral.spelling disposition = "committed" ↔ disposition = .committed := by
  cases disposition <;> decide

section Chain

variable (hr : made.IsChain fun m m' => m.2.Advances m'.1) (hg : ∀ m ∈ made, m.1.Advances m.2)

include hr hg

omit [Sha256] in
-- Each access finds what the ones before it have found, or a later store.
theorem advances_before {more : List (Portfolios × Portfolios)} (m m' : Portfolios × Portfolios)
    (he : made = m :: more) (hm : m' ∈ more) : m.1.Advances m'.1 := by
  let R (m m' : Portfolios × Portfolios) : Prop := m.1.Advances m'.1
  have _ : Trans R R R := ⟨Advances.trans⟩
  have hc : made.IsChain R := hr.imp_of_mem_imp fun m m' hm _ h => (hg m hm).trans h
  rw [he] at hc
  exact hc.rel_cons hm

omit [Sha256] in
theorem advances_after {made₁ more : List (Portfolios × Portfolios)}
    (m m' : Portfolios × Portfolios) (he : made = made₁ ++ m :: more)
    (hm : m' ∈ more) : m.2.Advances m'.2 := by
  let R (m m' : Portfolios × Portfolios) : Prop := m.2.Advances m'.2
  have _ : Trans R R R := ⟨Advances.trans⟩
  have hc : made.IsChain R := hr.imp_of_mem_imp fun m m' _ hm h => h.trans (hg m' hm)
  rw [he] at hc
  exact hc.right_of_append.rel_cons hm

end Chain

-- A commit between two reads that are one generation apart is what the second one finds.
theorem Consumed.latest_eq {s₁ s₂ : Portfolios} {before after : PortfolioState}
    {latest latest' : Option ExecutionCheckpoint} {result : ResumeTickResult}
    (h : Consumed id made result) (hd : result.disposition = .committed)
    (hr : ((s₁, s₁) :: made ++ [(s₂, s₂)]).IsChain fun m m' => m.2.Advances m'.1)
    (hg : ∀ m ∈ (s₁, s₁) :: made ++ [(s₂, s₂)], m.1.Advances m.2) (hh : s₁.Holds before latest)
    (hh' : s₂.Holds after latest') (hp : before.portfolioId = id) (hp' : after.portfolioId = id)
    (hgen : after.generation = before.generation + 1) :
    ∃ m ∈ made, ∃ cur latest new cp, m.1.Commits m.2 cur latest new cp ∧ latest' = some cp := by
  cases h
  case still hd'  => exact absurd hd hd'
  case committed made₁ made₂ s₃ s₄ cur latest₃ new cp hc hid _ _ =>
    have hnid : new.portfolioId = id := hc.portfolioId.trans hid
    have ha : s₁.Advances s₃ := advances_before hr hg (s₁, s₁) (s₃, s₄) rfl (by simp)
    have he : (s₁, s₁) :: (made₁ ++ (s₃, s₄) :: made₂) ++ [(s₂, s₂)] =
        ((s₁, s₁) :: made₁) ++ (s₃, s₄) :: (made₂ ++ [(s₂, s₂)]) := by simp
    have ha' : s₄.Advances s₂ := advances_after hr hg (s₃, s₄) (s₂, s₂) he (by simp)
    have hle : before.generation ≤ cur.generation := by
      rcases hh.eq_or_lt hc.current ha (hp.trans hid.symm) with ⟨he, _⟩ | hlt
      · exact he ▸ le_rfl
      · exact hlt.le
    refine ⟨(s₃, s₄), by simp, cur, latest₃, new, cp, hc, ?_⟩
    rcases hc.holds.eq_or_lt hh' ha' (hnid.trans hp'.symm) with ⟨_, he⟩ | hlt
    · exact he.symm
    · have := hc.generation
      omega

theorem Reported.coherent_iff (h : Reported report made)
    (hr : made.IsChain fun m m' => m.2.Advances m'.1) (hg : ∀ m ∈ made, m.1.Advances m.2) :
    report.Coherent made ↔ Undisturbed report.portfolioId made := by
  cases h
  case bootstrapped s₁ s₂ s₃ state hh₂ hh₃ hs hid hpre hpost hpred hpostd =>
    refine iff_of_true ⟨fun hc => ?_, fun _ => ⟨by omega, by rw [hpred, hpostd]⟩⟩ ?_
    · rw [hs] at hc
      contradiction
    · refine List.isChain_pair.mpr ?_
      rw [hid, hh₂.head, hh₃.head]
  case transition s₁ s₂ before latest after latest' more result hh hh' hp hc hreads =>
    have hprogress := Accesses.eq_gained_iff (P := fun s s' => s'.head? after.portfolioId =
      s.head? after.portfolioId) (hr.imp fun m m' h => h.progress) fun m hm => (hg m hm).progress.left
    have h₁ := hh.progress
    have h₂ := hh'.progress
    rw [hp] at h₁
    rw [Accesses.gained_append, Accesses.gained_cons, @Accesses.gained_still _ _ [(s₂, s₂)]
      (by simp), hc.gained, h₁, h₂, Nat.sub_self] at hprogress
    rw [Undisturbed, hreads.portfolioId, ← hprogress.right]
    by_cases hd : result.disposition = .committed
    case pos =>
      have hs : report.status = "committed" := hreads.status.trans (spelling_committed.mpr hd)
      rw [if_pos hd]
      constructor
      · intro hcoh
        have := (hcoh.committed hs).left
        rw [hreads.preGeneration, hreads.postGeneration] at this
        omega
      · intro hgen
        refine ⟨fun _ => ⟨?_, ?_⟩, absurd hs⟩
        · rw [hreads.preGeneration, hreads.postGeneration]
          omega
        · have ⟨m, hm, cur, latest₃, new, cp, hcommit, hl⟩ :=
            hc.latest_eq hd hr hg hh hh' hp rfl (by omega)
          refine ⟨m, by simp [hm], cur, latest₃, new, cp, hcommit, ?_⟩
          rw [hreads.checkpointDigest, hl]
          rfl
    case neg =>
      have hs : report.status ≠ "committed" := fun hs =>
        hd <| spelling_committed.mp <| hreads.status.symm.trans hs
      rw [if_neg hd]
      constructor
      · intro hcoh
        have := (hcoh.otherwise hs).left
        rw [hreads.preGeneration, hreads.postGeneration] at this
        omega
      · intro hgen
        have ha : s₁.Advances s₂ := advances_before hr hg (s₁, s₁) (s₂, s₂) rfl (by simp)
        refine ⟨fun h => absurd h hs, fun _ => ?_⟩
        rw [hreads.preGeneration, hreads.postGeneration, hreads.preStateDigest,
          hreads.postStateDigest]
        rcases hh.eq_or_lt hh' ha hp with ⟨he, _⟩ | hlt
        · rw [he]
          exact ⟨rfl, rfl⟩
        · omega

-- Any number of clients of one portfolio database.
inductive PortfolioClient
  | event (payload : Json) (authenticatedTriggerDigest : Option String)
    (coreRequirement : Option CoreVerificationRequirement)
    (coreVerification : Option CoreVerificationReceipt) (coreReport : Option CoreRehearsalReport)
  | trigger (contract : TriggerContract) (evidence : ExternalTriggerEvidence)
    (observation : ResumeTickObservation) (policy : TransitionPolicy)
    (authenticatedAdmissionDigest : String) (coreRequirement : CoreVerificationRequirement)
    (coreVerification : CoreVerificationReceipt) (coreReport : CoreRehearsalReport)
  | tick (portfolioId : String) (policy : TransitionPolicy)
    (observation : Option ResumeTickObservation) (coreRequirement : CoreVerificationRequirement)
    (coreVerification : Option CoreVerificationReceipt)
  | decide (decision : HumanGateDecision) (providerActor decisionRef : String)
  | create (state : PortfolioState)
  | commit (portfolioId expected : String) (new : PortfolioState) (checkpoint : ExecutionCheckpoint)

namespace PortfolioClient

-- A call, returning the report if it is about an event.
def perform : PortfolioClient → PortfolioCall (Option PersistentRuntimeEventReport)
  | event payload digest requirement verification report => do
    return some (← processPersistentRuntimeEvent payload digest requirement verification report)
  | trigger contract evidence observation policy digest requirement verification report => do
    let _ ← consumeExternalTrigger contract evidence observation policy digest requirement verification
      report
    return none
  | tick portfolioId policy observation requirement verification => do
    let _ ← resumeTick portfolioId policy observation requirement verification
    return none
  | decide decision providerActor decisionRef => do
    let _ ← consumeHumanGateDecision decision providerActor decisionRef
    return none
  | create state => do
    let _ ← PortfolioHeadStore.initializePortfolio state
    return none
  | commit portfolioId expected new checkpoint => do
    let _ ← PortfolioHeadStore.commit portfolioId expected new checkpoint
    return none

def Starts (p : PortfolioCall (Option PersistentRuntimeEventReport)) : Prop :=
  ∃ client, p = perform client

def Done (made : List (Portfolios × Portfolios)) (result : Py (Option PersistentRuntimeEventReport))
    (_ : Portfolios) : Prop :=
  ∀ report, result = .ok (some report) → Reported report made

theorem perform_respects (client : PortfolioClient) (s : Portfolios) :
    (perform client).Respects discipline Done [] s := by
  have hnone (made : List (Portfolios × Portfolios)) (s : Portfolios) :
      Done made (.ok none) s := fun _ => nofun
  have herror (made : List (Portfolios × Portfolios)) (e : PyError) (s : Portfolios) :
      Done made (.error e) s := fun _ => nofun
  cases client
  case event payload digest requirement verification report =>
    refine .bind <| processPersistentRuntimeEvent_respects discipline_portfolio
      Discipline.shared_mutual (fun _ => discipline_letsInitialize)
      (fun _ _ _ _ _ => discipline_letsDeliver) (fun more r s' hr => ?_) herror
    intro s'' _ _ report he
    cases he
    exact hr
  case trigger contract evidence observation policy digest requirement verification report =>
    refine .bind <| consumeExternalTrigger_respects discipline_portfolio Discipline.shared_mutual
      (fun _ _ => discipline_letsDeliver) (fun _ more r s' _ _ _ _ => ?_) fun _ _ _ _ => herror _ _ _
    cases r
    case error e => exact herror _ _ _
    case ok r    => exact fun s'' _ _ => hnone _ s''
  case tick portfolioId policy observation requirement verification =>
    refine .bind <| resumeTick_respects discipline_portfolio
      (fun _ _ _ _ _ _ _ _ hi _ _ _ hc => hc.respects hi) (fun _ _ h => h)
      fun more r s' _ _ _ => ?_
    cases r
    case error e => exact herror _ _ _
    case ok r    => exact fun s'' _ _ => hnone _ s''
  case decide decision providerActor decisionRef =>
    refine .bind <| consumeHumanGateDecision_respects discipline_portfolio
      (fun _ _ _ _ _ _ hi _ _ hc => hc.respects hi) (fun _ _ h => h) fun more r s' _ _ _ => ?_
    cases r
    case error e => exact herror _ _ _
    case ok r    => exact fun s'' _ _ => hnone _ s''
  case create state =>
    refine .bind <| PortfolioHeadStore.initializePortfolio_respects (fun _ h => h)
      (fun s₁ s₂ hi _ hinit => ?_) fun _ _ _ _ _ _ => herror _ _ _
    have ⟨hi₂, hg₂⟩ := hinit.respects hi
    exact ⟨hi₂, hg₂, fun s₃ head _ _ _ _ s₄ _ _ => hnone _ s₄⟩
  case commit portfolioId expected new checkpoint =>
    refine .bind <| PortfolioHeadStore.commit_respects (fun _ h => h)
      (fun s₁ s₂ cur latest hi _ hc _ => ?_) fun _ _ _ _ _ _ => herror _ _ _
    have ⟨hi₂, hg₂⟩ := hc.respects hi
    exact ⟨hi₂, hg₂, fun s₃ head _ _ s₄ _ _ => hnone _ s₄⟩

theorem starts_respects (p : PortfolioCall (Option PersistentRuntimeEventReport)) (hp : Starts p)
    (s : Portfolios) (_ : discipline.inv s) :
    p.Respects discipline (fun made r s => Done made r s ∧ Program.Chained discipline made s) [] s := by
  obtain ⟨client, rfl⟩ := hp
  exact (client.perform_respects s).chained .nil

theorem sound {c : Config Portfolios PyError (Option PersistentRuntimeEventReport)}
    (h : Config.Reachable Starts (.initial .empty) c) :
    c.Sound discipline (fun made r s => Done made r s ∧ Program.Chained discipline made s) .empty :=
  h.sound Discipline.shared_mutual starts_respects empty_consistent

end PortfolioClient

-- A report agrees with what its event has done exactly if no other client has moved the head of the
-- portfolio while the event was processed.
theorem eventReport_coherent_iff
    {c : Config Portfolios PyError (Option PersistentRuntimeEventReport)}
    (h : Config.Reachable PortfolioClient.Starts (.initial .empty) c)
    (report : PersistentRuntimeEventReport) (made : List (Portfolios × Portfolios))
    (hr : ⟨.ok (some report), made⟩ ∈ c.returned) :
    report.Coherent made ↔ Undisturbed report.portfolioId made := by
  have ⟨_, _, _, hd, hc⟩ := (PortfolioClient.sound h).returned _ hr
  exact (hd report rfl).coherent_iff hc.rely hc.guar

end GeneralExecution
