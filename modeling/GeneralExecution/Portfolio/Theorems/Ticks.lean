import GeneralExecution.Portfolio.Theorems.Transitions

namespace GeneralExecution

open Portfolios

namespace ResumeTickResult

variable {r r' : ResumeTickResult}

-- What a result has to be to be returned.
structure Valid (r : ResumeTickResult) : Prop where
  nonempty : ∀ x ∈ [("portfolio_id", r.portfolioId)], ¬Text.Blank x.2
  digest   : ∀ x ∈ [("observation_digest", r.observationDigest)], Guard.OptionalSha256 x.2
  isSha256 : ∀ x ∈ [("pre_state_digest", r.preStateDigest),
    ("post_state_digest", r.postStateDigest)], IsSha256 x.2
  optional : ∀ x ∈ [("checkpoint_digest", r.checkpointDigest),
    ("transition_result_digest", r.transitionResultDigest),
    ("recovery_report_digest", r.recoveryReportDigest)], Guard.OptionalSha256 x.2
  request  : r.RequestOk
  observed : r.disposition = .externalInputRequired ∨ r.disposition = .verificationGateClosed ∨
    r.observationDigest.isSome
  advance  : r.AdvanceOk

theorem Valid.checked (h : r.Valid) : r.checked = .ok r := by
  simp only [ResumeTickResult.checked, Guard.nonempty_of h.nonempty,
    Guard.optionalSha256_of h.digest, Guard.sha256_of h.isSha256,
    Guard.optionalSha256_of h.optional, Py.require, Except.ensure, h.request, h.observed, h.advance,
    if_true, Except.ok_bind]
  rfl

theorem checked_eq_ok : r.checked = .ok r' ↔ r.Valid ∧ r' = r := by
  constructor
  · intro h
    simp only [checked, Except.bind_eq_ok, Except.pure_eq_ok, Py.require_eq_ok] at h
    obtain ⟨⟨h₁⟩, _, ⟨h₂⟩, _, ⟨h₃⟩, _, ⟨h₄⟩, _, _, h₅, _, h₆, _, h₇, rfl⟩ := h
    exact ⟨⟨h₁, h₂, h₃, h₄, h₅, h₆, h₇⟩, rfl⟩
  · rintro ⟨h, rfl⟩
    exact h.checked

-- The result says that a portfolio has this state with this checkpoint.
structure Reports [Sha256] (r : ResumeTickResult) (disposition : TickDisposition)
    (state : PortfolioState) (checkpoint : ExecutionCheckpoint) : Prop where
  disposition : r.disposition = disposition
  generation  : r.postGeneration = state.generation
  stateDigest : r.postStateDigest = state.digest
  checkpoint  : r.checkpointDigest = some checkpoint.digest

end ResumeTickResult

variable [Sha256] {portfolioId : String} {policy : TransitionPolicy}
variable {observation : Option ResumeTickObservation} {o : ResumeTickObservation}
variable {requirement : CoreVerificationRequirement} {receipt : CoreVerificationReceipt}
variable {verification : Option CoreVerificationReceipt}
variable {state cur new : PortfolioState} {latest : Option ExecutionCheckpoint}
variable {t : PortfolioTransitionResult} {cp : ExecutionCheckpoint}

-- The transition that a tick makes of the state that its observation expects.
structure TickTransition (policy : TransitionPolicy) (o : ResumeTickObservation)
    (requirement : CoreVerificationRequirement) (receipt : CoreVerificationReceipt)
    (cur : PortfolioState) (t : PortfolioTransitionResult) : Prop where
  transition  : tickTransition cur policy o requirement receipt = .ok t
  generation  : o.expectedGeneration = cur.generation
  stateDigest : o.expectedStateDigest = cur.digest
  portfolioId : o.portfolioId = cur.portfolioId
  policy      : o.policyDigest = policy.digest

-- The digest of a checkpoint that carries the reference.
def appliedDigest (ref : String) : Option ExecutionCheckpoint → Option String
  | none   => none
  | some c => if ref ∈ c.canonicalRefs then some c.digest else none

theorem appliedDigest_eq_some {ref digest : String} (h : appliedDigest ref latest = some digest) :
    ∃ c, latest = some c ∧ ref ∈ c.canonicalRefs ∧ c.digest = digest := by
  cases latest
  case none   => cases h
  case some c =>
    rw [appliedDigest, Option.ite_none_right_eq_some] at h
    exact ⟨c, rfl, h.left, Option.some.inj h.right⟩

-- A tick goes on when its second read finds a checkpoint that does not carry its observation.
def Unapplied (portfolioId : String) (o : ResumeTickObservation)
    (made : List (Portfolios × Portfolios)) : Prop :=
  ∃ s₁ s₂ state latest more, made = (s₁, s₁) :: (s₂, s₂) :: more ∧ s₂.Holds state latest ∧
    state.portfolioId = portfolioId ∧ appliedDigest o.checkpointRef latest = none

theorem Unapplied.append {made more : List (Portfolios × Portfolios)}
    (h : Unapplied portfolioId o made) : Unapplied portfolioId o (made ++ more) := by
  obtain ⟨s₁, s₂, state, latest, more', rfl, hread⟩ := h
  exact ⟨s₁, s₂, state, latest, more' ++ more, rfl, hread⟩

-- What a tick that has ended has done: the accesses that it has made, and what it has returned.
inductive Ticked (portfolioId : String) (policy : TransitionPolicy)
    (observation : Option ResumeTickObservation) (requirement : CoreVerificationRequirement) :
    List (Portfolios × Portfolios) → Py ResumeTickResult → Prop
  | refused {made e} : (∀ m ∈ made, m.2 = m.1) → Ticked portfolioId policy observation requirement made (.error e)
  | idle {made r} : (∀ m ∈ made, m.2 = m.1) → r.checkpointDigest = none →
    r.disposition ≠ .alreadyApplied → r.disposition ≠ .committed →
    Ticked portfolioId policy observation requirement made (.ok r)
  | applied {s₁ s₂ state₁ latest₁ state₂ cp o r} : observation = some o →
    o.portfolioId = portfolioId → s₁.Holds state₁ latest₁ → state₁.portfolioId = portfolioId →
    s₂.Holds state₂ (some cp) → state₂.portfolioId = portfolioId → s₁.Advances s₂ →
    o.checkpointRef ∈ cp.canonicalRefs → r.Reports .alreadyApplied state₁ cp →
    Ticked portfolioId policy observation requirement [(s₁, s₁), (s₂, s₂)] (.ok r)
  | recovered {made s₃ state cp o r} : observation = some o → o.portfolioId = portfolioId →
    (∀ m ∈ made, m.2 = m.1) → Unapplied portfolioId o made → s₃.Holds state (some cp) → state.portfolioId = portfolioId →
    o.checkpointRef ∈ cp.canonicalRefs → r.Reports .alreadyApplied state cp →
    Ticked portfolioId policy observation requirement (made ++ [(s₃, s₃)]) (.ok r)
  | committed {made s₃ s₄ s₅ cur latest t receipt o r} : observation = some o →
    o.portfolioId = portfolioId → (∀ m ∈ made, m.2 = m.1) → Unapplied portfolioId o made →
    TickTransition policy o requirement receipt cur t →
    s₃.Commits s₄ cur latest t.newState t.checkpoint → s₅.Holds t.newState (some t.checkpoint) →
    t.newState.digest ≠ cur.digest → r.Reports .committed t.newState t.checkpoint →
    Ticked portfolioId policy observation requirement (made ++ [(s₃, s₄), (s₅, s₅)]) (.ok r)
  | unconfirmed {made s₃ s₄ s₅ cur latest t receipt o e} : observation = some o →
    o.portfolioId = portfolioId → (∀ m ∈ made, m.2 = m.1) → TickTransition policy o requirement receipt cur t →
    s₃.Commits s₄ cur latest t.newState t.checkpoint → s₄.Advances s₅ →
    (s₅.Holds t.newState (some t.checkpoint) → t.newState.digest = cur.digest) →
    Ticked portfolioId policy observation requirement (made ++ [(s₃, s₄), (s₅, s₅)]) (.error e)

-- What a client may rely on in a store of portfolios.
structure PortfolioDiscipline (D : Discipline Portfolios) : Prop where
  consistent : ∀ s, D.inv s → s.Consistent
  advances   : ∀ s s', D.rely s s' → s.Advances s'

-- A state is committed to the one that it follows.
theorem PortfolioState.Precedes.current_eq {s₁ s₂ s₃ : Portfolios}
    {latest' : Option ExecutionCheckpoint} (h : state.Precedes new cp) (hh : s₁.Holds state latest)
    (hc : s₂.Commits s₃ cur latest' new cp) (ha : s₁.Advances s₂) :
    state = cur ∧ latest = latest' := by
  have hpid := h.portfolioId.symm.trans hc.portfolioId
  rcases hh.eq_or_lt hc.current ha hpid with hs | hlt
  · exact hs
  · have h₁ := h.generation
    have h₂ := hc.generation
    omega

theorem TickTransition.precedes (h : TickTransition policy o requirement receipt cur t) :
    cur.Precedes t.newState t.checkpoint :=
  have ⟨_, ht⟩ := tickTransition_eq_ok h.transition
  ht.precedes

section Respects

variable {D : Discipline Portfolios} {made : List (Portfolios × Portfolios)} {s s₁ s₂ : Portfolios}
variable {post : List (Portfolios × Portfolios) → Py ResumeTickResult → Portfolios → Prop}
variable {recovery : PortfolioRecoveryReport} {made' : List (Portfolios × Portfolios)}

theorem recoverTick_respects (hD : PortfolioDiscipline D) (hm : ∀ m ∈ made', m.2 = m.1)
    (hu : Unapplied portfolioId o made') (hpid : o.portfolioId = portfolioId)
    (ho : ∀ more r s', D.inv s' → D.rely s s' →
      Ticked portfolioId policy (some o) requirement (made' ++ more) r → post (made ++ more) r s') :
    (recoverTick portfolioId state o).Respects D post made s := by
  refine .bind <| recoverPortfolio_respects hD.consistent
    (fun s₁ s₂ state' latest hi hr hh hp hi₂ hr₂ => ?_) fun made'' e s₁ s₂ hq hi hr _ hi₂ hr₂ => ?_
  · have hq : Quiet made (made ++ [(s₁, s₁)]) := .single s₁
    have hm' : ∀ m ∈ made' ++ [(s₁, s₁)], m.2 = m.1 := hq.append hm
    have hend (r : Py ResumeTickResult) (s₃ : Portfolios) (hi₃ : D.inv s₃) (hr₃ : D.rely s₂ s₃)
        (ht : Ticked portfolioId policy (some o) requirement (made' ++ [(s₁, s₁)]) r) :
        post (made ++ [(s₁, s₁)]) r s₃ :=
      ho _ r s₃ hi₃ (D.trans hr <| D.trans hr₂ hr₃) ht
    have hstale : (liftM (ResumeTickResult.checked (idleResult portfolioId .staleObservation
        (some o.digest) state' (portfolioRecoveryReport hh.latest))) :
          PortfolioCall ResumeTickResult).Respects D post (made ++ [(s₁, s₁)]) s₂ := by
      refine Program.Respects.lift fun s₃ hi₃ hr₃ => hend _ s₃ hi₃ hr₃ ?_
      cases hc : ResumeTickResult.checked _
      case error e => exact .refused hm'
      case ok r =>
        obtain ⟨_, rfl⟩ := ResumeTickResult.checked_eq_ok.mp hc
        exact .idle hm' rfl nofun nofun
    dsimp only
    by_cases hd : state'.digest = state.digest
    case pos =>
      rw [if_neg (not_not.mpr hd)]
      exact fun s₃ hi₃ hr₃ => hend _ s₃ hi₃ hr₃ (.refused hm')
    case neg =>
      rw [if_pos hd]
      cases latest
      case none => exact hstale
      case some cp =>
        dsimp only
        by_cases href : o.checkpointRef ∈ cp.canonicalRefs
        case neg => rwa [if_neg href]
        case pos =>
          rw [if_pos href]
          refine Program.Respects.lift fun s₃ hi₃ hr₃ => hend _ s₃ hi₃ hr₃ ?_
          cases hc : ResumeTickResult.checked _
          case error e => exact .refused hm'
          case ok r =>
            obtain ⟨_, rfl⟩ := ResumeTickResult.checked_eq_ok.mp hc
            exact .recovered rfl hpid hm hu hh hp href ⟨rfl, rfl, rfl, rfl⟩
  · have ⟨more, he, _⟩ := hq
    subst he
    exact ho _ _ s₂ hi₂ (D.trans hr hr₂) (.refused <| hq.append hm)

def committedResult (portfolioId : String) (state : PortfolioState) (o : ResumeTickObservation)
    (t : PortfolioTransitionResult) (recovery : PortfolioRecoveryReport) : ResumeTickResult where
  portfolioId            := portfolioId
  disposition            := .committed
  observationDigest      := some o.digest
  preGeneration          := state.generation
  postGeneration         := t.newState.generation
  preStateDigest         := state.digest
  postStateDigest        := t.newState.digest
  checkpointDigest       := some t.checkpoint.digest
  transitionResultDigest := some t.digest
  recoveryReportDigest   := some recovery.digest

-- The result of a commit is rejected only when two states have the same digest.
theorem committedResult_valid (ht : TickTransition policy o requirement receipt cur t) :
    (committedResult o.portfolioId cur o t recovery).Valid ↔ t.newState.digest ≠ cur.digest := by
  constructor
  · exact fun h => h.advance.right.left
  · intro hd
    have hn := o.nonempty ("portfolio_id", o.portfolioId) (by simp)
    exact {
      nonempty := by simpa [committedResult] using hn
      digest   := by
        simp [committedResult, Guard.OptionalSha256, ResumeTickObservation.digest,
          isSha256_sha256Digest]
      isSha256 := by simp [committedResult, PortfolioState.digest, isSha256_sha256Digest]
      optional := by
        simp [committedResult, Guard.OptionalSha256, ExecutionCheckpoint.digest,
          PortfolioTransitionResult.digest, PortfolioRecoveryReport.digest, isSha256_sha256Digest]
      request  := by simp [committedResult, ResumeTickResult.RequestOk]
      observed := .inr <| .inr rfl
      advance  := ⟨ht.precedes.generation, hd, rfl, rfl, rfl⟩ }

theorem idleResult_valid {portfolioId : String}
    (hp : ¬Text.Blank portfolioId) (cp : ExecutionCheckpoint) :
    ResumeTickResult.Valid
      { idleResult portfolioId .alreadyApplied (some o.digest) state recovery with
        checkpointDigest := some cp.digest } := by
  have hdigest (v : PyValue) : Guard.OptionalSha256 (some (sha256Digest v)) := fun _ h =>
    Option.some.inj h ▸ isSha256_sha256Digest v
  constructor
  case nonempty => exact List.forall_mem_singleton.mpr hp
  case digest   => exact List.forall_mem_singleton.mpr (hdigest _)
  case isSha256 => simp [idleResult, PortfolioState.digest, isSha256_sha256Digest]
  case optional =>
    simp only [List.mem_cons, List.not_mem_nil, or_false, forall_eq_or_imp, forall_eq]
    exact ⟨hdigest _, (fun _ hd => by cases hd), hdigest _⟩
  case request  => exact ⟨rfl, rfl, rfl⟩
  case observed => exact .inr <| .inr rfl
  case advance  => exact ⟨rfl, rfl⟩

theorem confirmTick_respects (hD : PortfolioDiscipline D) (hm : ∀ m ∈ made', m.2 = m.1)
    (hu : Unapplied portfolioId o made')
    (ht : TickTransition policy o requirement receipt cur t) (hp : o.portfolioId = portfolioId)
    (hc : s₁.Commits s₂ cur latest t.newState t.checkpoint) (hr : D.rely s₂ s)
    (ho : ∀ s₃ r s', D.inv s' → D.rely s s' →
      Ticked portfolioId policy (some o) requirement (made' ++ [(s₁, s₂), (s₃, s₃)]) r →
        post (made ++ [(s₃, s₃)]) r s') :
    (confirmTick portfolioId cur o t).Respects D post made s := by
  have hid : t.newState.portfolioId = portfolioId :=
    hc.portfolioId.trans <| ht.portfolioId.symm.trans hp
  refine .bind <| recoverPortfolio_respects hD.consistent
    (fun s₃ s₄ state₃ latest₃ hi₃ hr₃ hh hp₃ hi₄ hr₄ => ?_) fun made'' e s₃ s₄ _ hi₃ hr₃ hn _ _ => ?_
  · have ha : s₂.Advances s₃ := hD.advances _ _ (D.trans hr hr₃)
    have hend (e : PyError) (s₅ : Portfolios) (hi₅ : D.inv s₅) (hr₅ : D.rely s₄ s₅)
        (he : s₃.Holds t.newState (some t.checkpoint) → t.newState.digest = cur.digest) :
        post (made ++ [(s₃, s₃)]) (.error e) s₅ :=
      ho s₃ _ s₅ hi₅ (D.trans hr₃ <| D.trans hr₄ hr₅) (.unconfirmed rfl hp hm ht hc ha he)
    rcases hc.holds.eq_or_lt hh ha (hid.trans hp₃.symm) with ⟨rfl, rfl⟩ | hlt
    · refine .lift_bind (fun c hcp => ?_) fun e s₅ he => by cases he
      obtain rfl := Except.ok.inj hcp
      refine .lift_bind (fun _ _ => ?_) fun e s₅ he => ?_
      · refine .lift_bind (fun _ _ => ?_) fun e s₅ he => ?_
        · refine Program.Respects.lift fun s₅ hi₅ hr₅ => ?_
          change post _ (committedResult portfolioId cur o t _).checked s₅
          cases hcr : (committedResult portfolioId cur o t (portfolioRecoveryReport hh.latest)).checked
          case error e =>
            refine hend e s₅ hi₅ hr₅ fun _ => by_contra fun hd => ?_
            rw [← hp, ((committedResult_valid ht).mpr hd).checked] at hcr
            contradiction
          case ok r =>
            obtain ⟨hv, rfl⟩ := ResumeTickResult.checked_eq_ok.mp hcr
            rw [← hp, committedResult_valid ht] at hv
            exact ho s₃ _ s₅ hi₅ (D.trans hr₃ <| D.trans hr₄ hr₅)
              (.committed rfl hp hm hu ht hc hh hv ⟨rfl, rfl, rfl, rfl⟩)
        · simp [Py.require, Except.ensure] at he
      · simp [Py.require, Except.ensure] at he
    · -- Another client has committed, and its checkpoint has another digest.
      cases latest₃
      case none =>
        have := hh.latest.absent.mp rfl
        omega
      case some c =>
        have hcp := ha.checkpoints _ _ _ hc.holds.checkpoint
        have hne : c.digest ≠ t.checkpoint.digest := by
          intro hd
          have hrow := checkpoint?_eq_of_digest hcp hh.checkpoint hd.symm
          have hg := congrArg PortfolioCheckpointRow.generation hrow
          have h₁ : t.checkpoint.portfolioGeneration = t.newState.generation := hc.binds.generation
          have h₂ : c.portfolioGeneration = state₃.generation := (hh.latest.binds c rfl).generation
          change t.checkpoint.portfolioGeneration = c.portfolioGeneration at hg
          omega
        refine .lift_bind (fun c' hcp' => ?_) fun e s₅ he => by cases he
        obtain rfl := Except.ok.inj hcp'
        refine .lift_bind (fun _ he => absurd (Py.require_eq_ok.mp he) hne) fun e s₅ _ hi₅ hr₅ => ?_
        refine hend e s₅ hi₅ hr₅ fun hh' => ?_
        have := (hh.unique hh' (hp₃.trans hid.symm)).left
        subst this
        omega
  · obtain ⟨row, hrow, _⟩ := (hD.advances _ _ (D.trans hr hr₃)).heads _ _ hc.holds.head
    rw [hid, hn] at hrow
    contradiction

theorem commitTick_respects (hD : PortfolioDiscipline D) (hm : ∀ m ∈ made', m.2 = m.1)
    (hu : Unapplied portfolioId o made')
    (ht : TickTransition policy o requirement receipt state t) (hp : o.portfolioId = portfolioId)
    (hh : s₁.Holds state latest) (hr : D.rely s₁ s)
    (hw : ∀ s₁ s₂ latest, D.inv s₁ → D.rely s s₁ →
      s₁.Commits s₂ state latest t.newState t.checkpoint → D.inv s₂ ∧ D.guar s₁ s₂)
    (hg : ∀ s₁ s₂, D.guar s₁ s₂ → D.rely s₁ s₂)
    (ho : ∀ more r s', D.inv s' → D.rely s s' →
      Ticked portfolioId policy (some o) requirement (made' ++ more) r →
        post (made ++ more) r s') :
    (commitTick portfolioId state o t).Respects D post made s := by
  refine .bind <| .attempt <| PortfolioHeadStore.commit_respects hD.consistent
    (fun s₃ s₄ cur latest' hi₃ hr₃ hc he => ?_) fun made'' e s₃ hq hi₃ hr₃ => ?_
  · cases (ht.precedes.current_eq hh hc (hD.advances _ _ (D.trans hr hr₃))).left
    have ⟨hi₄, hg₄⟩ := hw s₃ s₄ latest' hi₃ hr₃ hc
    refine ⟨hi₄, hg₄, fun s₅ _ hi₅ hr₅ => ?_⟩
    refine confirmTick_respects hD hm hu ht hp hc hr₅ fun s₆ r s₇ hi₇ hr₇ hd => ?_
    rw [List.append_assoc]
    exact ho _ r s₇ hi₇ (D.trans hr₃ <| D.trans (hg _ _ hg₄) <| D.trans hr₅ hr₇) hd
  · have ⟨more, hmore, _⟩ := hq
    subst hmore
    replace hm := hq.append hm
    dsimp only
    by_cases he : e.cls.IsA .portfolioPersistenceError
    case neg =>
      rw [if_neg he]
      exact fun s₄ hi₄ hr₄ => ho _ _ s₄ hi₄ (D.trans hr₃ hr₄) (.refused hm)
    case pos =>
      rw [if_pos he]
      refine recoverTick_respects hD hm hu.append hp fun more' r s₄ hi₄ hr₄
        (hd : Ticked portfolioId policy (some o) requirement _ r) => ?_
      rw [List.append_assoc] at hd ⊢
      exact ho _ r s₄ hi₄ (D.trans hr₃ hr₄) hd

theorem alreadyApplied_respects {ref : String} (hinv : ∀ s, D.inv s → s.Consistent)
    {post : List (Portfolios × Portfolios) → Py (Option String) → Portfolios → Prop}
    (ho : ∀ s₁ s₂ state latest, D.inv s₁ → D.rely s s₁ → s₁.Holds state latest →
      state.portfolioId = portfolioId → D.inv s₂ → D.rely s₁ s₂ →
        post (made ++ [(s₁, s₁)]) (.ok (appliedDigest ref latest)) s₂)
    (he : ∀ made' e s₁ s₂, Quiet made made' → D.inv s₁ → D.rely s s₁ →
      s₁.head? portfolioId = none → D.inv s₂ → D.rely s₁ s₂ → post made' (.error e) s₂) :
    (alreadyApplied portfolioId ref).Respects D post made s := by
  refine .bind <| .bind <| PortfolioHeadStore.loadRecoverySnapshot_respects hinv
    (fun s₁ s₂ state latest hi hr hh hp hi₂ hr₂ => ?_) he
  intro s₃ hi₃ hr₃
  have hend (s₄ : Portfolios) (hi₄ : D.inv s₄) (hr₄ : D.rely s₃ s₄) :
      post (made ++ [(s₁, s₁)]) (.ok (appliedDigest ref latest)) s₄ :=
    ho s₁ s₄ state latest hi hr hh hp hi₄ (D.trans hr₂ <| D.trans hr₃ hr₄)
  cases latest
  case none   => exact hend
  case some c => exact hend

theorem applyTick_respects (hD : PortfolioDiscipline D) (hp : o.portfolioId = portfolioId)
    (hpolicy : o.policyDigest = policy.digest)
    (hh : s₁.Holds state latest) (hid : state.portfolioId = portfolioId) (hr : D.rely s₁ s)
    (hw : ∀ s₁ s₂ latest t, D.inv s₁ → D.rely s s₁ →
      TickTransition policy o requirement receipt state t →
      s₁.Commits s₂ state latest t.newState t.checkpoint → D.inv s₂ ∧ D.guar s₁ s₂)
    (hg : ∀ s₁ s₂, D.guar s₁ s₂ → D.rely s₁ s₂)
    (ho : ∀ more r s', D.inv s' → D.rely s s' →
      Ticked portfolioId policy (some o) requirement ((s₁, s₁) :: more) r →
        post (made ++ more) r s') :
    (applyTick portfolioId policy o requirement receipt state recovery).Respects D post made s := by
  refine .bind <| alreadyApplied_respects hD.consistent
    (fun s₂ s₃ state₂ latest₂ hi₂ hr₂ hh₂ hp₂ hi₃ hr₃ => ?_) fun made'' e s₂ s₃ _ hi₂ hr₂ hn _ _ => ?_
  · have hm : ∀ m ∈ [(s₁, s₁), (s₂, s₂)], m.2 = m.1 := by simp
    have hchecked (r : ResumeTickResult) (hc : r.Valid → Ticked portfolioId policy (some o)
        requirement [(s₁, s₁), (s₂, s₂)] (.ok r)) :
        (liftM r.checked : PortfolioCall ResumeTickResult).Respects D post
          (made ++ [(s₂, s₂)]) s₃ := by
      refine Program.Respects.lift fun s₄ hi₄ hr₄ =>
        ho [(s₂, s₂)] _ s₄ hi₄ (D.trans hr₂ <| D.trans hr₃ hr₄) ?_
      cases hr : r.checked
      case error e => exact .refused hm
      case ok r'   =>
        obtain ⟨hv, rfl⟩ := ResumeTickResult.checked_eq_ok.mp hr
        exact hc hv
    cases ha : appliedDigest o.checkpointRef latest₂
    case some digest =>
      have ⟨c, hc, hm, hd⟩ := appliedDigest_eq_some ha
      subst hc hd
      refine hchecked _ fun _ => ?_
      exact .applied rfl hp hh hid hh₂ hp₂ (hD.advances _ _ <| D.trans hr hr₂) hm ⟨rfl, rfl, rfl, rfl⟩
    case none =>
      dsimp only
      split
      case isTrue  => exact hchecked _ fun _ => .idle hm rfl nofun nofun
      case isFalse he =>
        have ⟨hgen, hdigest⟩ := not_or.mp he
        refine .lift_bind (fun t ht => ?_) fun e s₄ _ hi₄ hr₄ =>
          ho [(s₂, s₂)] _ s₄ hi₄ (D.trans hr₂ <| D.trans hr₃ hr₄) (.refused hm)
        have hpid : o.portfolioId = state.portfolioId := hp.trans hid.symm
        have htick : TickTransition policy o requirement receipt state t :=
          ⟨ht, not_not.mp hgen, not_not.mp hdigest, hpid, hpolicy⟩
        have hu : Unapplied portfolioId o [(s₁, s₁), (s₂, s₂)] :=
          ⟨s₁, s₂, state₂, latest₂, [], rfl, hh₂, hp₂, ha⟩
        refine commitTick_respects hD hm hu htick hp hh (D.trans hr <| D.trans hr₂ hr₃)
          (fun s₄ s₅ latest' hi₄ hr₄ hc => ?_) hg fun more r s₄ hi₄ hr₄ hd => ?_
        · exact hw s₄ s₅ latest' t hi₄ (D.trans hr₂ <| D.trans hr₃ hr₄) htick hc
        · rw [List.append_assoc]
          exact ho _ r s₄ hi₄ (D.trans hr₂ <| D.trans hr₃ hr₄) hd
  · -- The head that has been recovered before is still there.
    have ⟨row, hrow, _⟩ := (hD.advances _ _ (D.trans hr hr₂)).heads _ _ hh.head
    rw [hid, hn] at hrow
    contradiction

-- What a tick does, whatever the other clients do in between.
theorem resumeTick_respects (hD : PortfolioDiscipline D)
    (hw : ∀ o receipt s₁ s₂ cur latest t, observation = some o → D.inv s₁ → D.rely s s₁ →
      verification.filter (gateOpen · requirement) = some receipt →
      TickTransition policy o requirement receipt cur t →
      s₁.Commits s₂ cur latest t.newState t.checkpoint → D.inv s₂ ∧ D.guar s₁ s₂)
    (hg : ∀ s₁ s₂, D.guar s₁ s₂ → D.rely s₁ s₂)
    (ho : ∀ more r s', D.inv s' → D.rely s s' →
      Ticked portfolioId policy observation requirement more r → post (made ++ more) r s') :
    (resumeTick portfolioId policy observation requirement verification).Respects D post made s := by
  have hrefused (e : PyError) (s' : Portfolios) (hi : D.inv s') (hr : D.rely s s') :
      post made (.error e) s' := by
    have h := ho [] (.error e) s' hi hr (.refused (by simp))
    rwa [List.append_nil] at h
  refine .lift_bind (fun _ _ => ?_) fun e s₁ _ hi hr => hrefused e s₁ hi hr
  refine .lift_bind (fun _ hid => ?_) fun e s₁ _ hi hr => hrefused e s₁ hi hr
  replace hid := Py.require_eq_ok.mp hid
  refine .bind <| recoverPortfolio_respects hD.consistent
    (fun s₁ s₂ state latest hi hr hh hp hi₂ hr₂ => ?_) fun made' e s₁ s₂ hq hi hr _ hi₂ hr₂ => ?_
  · have hm : ∀ m ∈ [(s₁, s₁)], m.2 = m.1 := by simp
    have hidle (r : ResumeTickResult) (hn : r.checkpointDigest = none)
        (hd : r.disposition ≠ .alreadyApplied) (hd' : r.disposition ≠ .committed) :
        (liftM r.checked : PortfolioCall ResumeTickResult).Respects D post
          (made ++ [(s₁, s₁)]) s₂ := by
      refine Program.Respects.lift fun s₃ hi₃ hr₃ =>
        ho [(s₁, s₁)] _ s₃ hi₃ (D.trans hr <| D.trans hr₂ hr₃) ?_
      cases hc : r.checked
      case error e => exact .refused hm
      case ok r'   =>
        obtain ⟨_, rfl⟩ := ResumeTickResult.checked_eq_ok.mp hc
        exact .idle hm hn hd hd'
    cases hf : verification.filter (gateOpen · requirement)
    case none         => exact hidle _ rfl nofun nofun
    case some receipt =>
      cases observation
      case none   => exact hidle _ rfl nofun nofun
      case some o =>
        refine .lift_bind (fun _ hpolicy => ?_) fun e s₃ _ hi₃ hr₃ =>
          ho [(s₁, s₁)] _ s₃ hi₃ (D.trans hr <| D.trans hr₂ hr₃) (.refused hm)
        refine applyTick_respects hD (hid o rfl) (Py.require_eq_ok.mp hpolicy) hh hp hr₂
          (fun s₃ s₄ latest' t hi₃ hr₃ ht hc => ?_) hg fun more r s₃ hi₃ hr₃ hd => ?_
        · exact hw o receipt s₃ s₄ state latest' t rfl hi₃ (D.trans hr <| D.trans hr₂ hr₃) hf ht hc
        · rw [List.append_assoc]
          exact ho _ r s₃ hi₃ (D.trans hr <| D.trans hr₂ hr₃) hd
  · have ⟨more, hmore, hm⟩ := hq
    subst hmore
    exact ho more _ s₂ hi₂ (D.trans hr hr₂) (.refused hm)

end Respects

end GeneralExecution
