import GeneralExecution.Portfolio.Theorems.TickHistory

namespace GeneralExecution

open Portfolios

variable [Sha256] {c : PortfolioRun} {client : PortfolioClient} {es : List PortfolioEvent}
variable {e : PortfolioEvent} {o bound : ResumeTickObservation} {x : Portfolios × List PortfolioEvent}
variable {made : List ((Portfolios × List PortfolioEvent) × (Portfolios × List PortfolioEvent))}
variable {r : ResumeTickResult} {cp : ExecutionCheckpoint} {state : PortfolioState}

namespace PortfolioClient

-- The references of its checkpoint that a caller chooses itself.
inductive Supplies (s : Portfolios) : PortfolioClient → String → Prop
  | delivers {client o ref} : Delivers s client o → ref ∈ o.callerRefs → Supplies s client ref
  | decides {decision providerActor decisionRef ref} : ref ∈ decisionRefs decision decisionRef →
    Supplies s (.decide decision providerActor decisionRef) ref
  | commits {portfolioId expected new cp ref} : ref ∈ cp.canonicalRefs →
    Supplies s (.commit portfolioId expected new cp) ref

-- The observation that the result of a call is about.
inductive Offers : PortfolioClient → ResumeTickObservation → Prop
  | tick {id policy o requirement verification} :
    Offers (.tick id policy (some o) requirement verification) o
  | trigger {contract evidence o policy digest requirement receipt report bound} :
    boundObservation evidence o = .ok bound →
    Offers (.trigger contract evidence o policy digest requirement receipt report) bound

end PortfolioClient

namespace PortfolioRun

-- No commit to a portfolio carries, as a reference that its caller has chosen, the one of an
-- observation of the portfolio that has not been applied before.
def Honest (es : List PortfolioEvent) : Prop :=
  ∀ es' e, es' ++ [e] <+: es → ∀ (o : ResumeTickObservation) cur latest new cp,
    e.before.Commits e.after cur latest new cp →
    new.portfolioId = o.portfolioId → e.label.Supplies e.before o.checkpointRef →
      Applied es' o.digest

theorem Honest.of_isPrefix {es' : List PortfolioEvent} (h : Honest es) (hp : es' <+: es) :
    Honest es' :=
  fun es'' e he => h es'' e (he.trans hp)

-- The reference of an observation is in the checkpoints only if it has been applied, or if the
-- caller of another commit has chosen it.
theorem supplies_of_carries {s s' : Portfolios} {cur new : PortfolioState}
    {latest : Option ExecutionCheckpoint} (hm : client.Moves s s')
    (hc : s.Commits s' cur latest new cp) (href : o.checkpointRef ∈ cp.canonicalRefs) :
    (∃ o', PortfolioEvent.Applies ⟨client, s, s'⟩ o' ∧ o'.digest = o.digest) ∨
      client.Supplies s o.checkpointRef := by
  rcases hm with hb | hcreates | ⟨hd, ht, hc'⟩ | ⟨ht, hc'⟩ | ⟨hc', _⟩
  case keeps   => exact absurd hb.checkpoints hc.ne_checkpoints
  case creates => exact absurd hcreates.checkpoints hc.ne_checkpoints
  case applies policy o' requirement receipt cur' latest' t =>
    obtain ⟨_, _, _, rfl⟩ := hc.unique hc'
    rcases checkpointRef_of_mem ht.transition href with he | hs
    · exact .inl ⟨o', ⟨policy, requirement, receipt, cur', latest', t, hd, ht, hc'⟩, he.symm⟩
    · exact .inr (.delivers hd hs)
  case decides decision providerActor decisionRef cur' latest' new' cp' =>
    obtain ⟨_, _, _, rfl⟩ := hc.unique hc'
    exact .inr (.decides (ht.refs ▸ href))
  case commits portfolioId expected cur' latest' new' cp' =>
    obtain ⟨_, _, _, rfl⟩ := hc.unique hc'
    exact .inr (.commits href)

theorem applied_of_checkpoint (hx : portfolios.Recorded .empty x) (hh : Honest x.2)
    (hrow : portfolioCheckpointRow cp ∈ x.1.checkpoints.rows) (hid : cp.portfolioId = o.portfolioId)
    (href : o.checkpointRef ∈ cp.canonicalRefs) : Applied x.2 o.digest := by
  obtain ⟨e, he, cur, latest, new, cp', hc, hcp⟩ := committed_of_checkpoint hx _ hrow
  obtain rfl := portfolioCheckpointRow_inj hcp
  rcases supplies_of_carries (hx.admits e he).guar.right hc href with ⟨o', ha, hd⟩ | hs
  · exact ⟨e, he, o', ha, hd⟩
  · obtain ⟨es', hp, _⟩ := hx.before he
    have happlied := hh es' e hp o cur latest new cp hc (hc.binds.portfolioId.symm.trans hid) hs
    exact happlied.mono ((List.prefix_append _ _).trans hp)

-- A checkpoint that a call has found carries the reference.
theorem applied_of_found {m : Portfolios × Portfolios}
    (ha : ∀ m ∈ made, portfolios.InHistory .empty client c.store m) (hh : Honest c.store.2)
    (hm : m ∈ Protocol.stores made) (hrow : portfolioCheckpointRow cp ∈ m.1.checkpoints.rows)
    (hid : cp.portfolioId = o.portfolioId) (href : o.checkpointRef ∈ cp.canonicalRefs) :
    Applied c.store.2 o.digest := by
  obtain ⟨m', hm', rfl⟩ := List.mem_map.mp hm
  have hin := ha m' hm'
  exact (applied_of_checkpoint hin.recorded (hh.of_isPrefix hin.kept) hrow hid href).mono hin.kept

theorem row_of_holds {s : Portfolios} (hh : s.Holds state (some cp)) :
    portfolioCheckpointRow cp ∈ s.checkpoints.rows ∧ cp.portfolioId = state.portfolioId := by
  have ⟨hrow, _⟩ := checkpoint?_eq_some.mp hh.checkpoint
  exact ⟨hrow, (hh.latest.binds cp rfl).portfolioId⟩

theorem applied_of_ticked {id : String} {policy : TransitionPolicy}
    {requirement : CoreVerificationRequirement} {accesses : List (Portfolios × Portfolios)}
    (ha : ∀ m ∈ made, portfolios.InHistory .empty client c.store m) (hh : Honest c.store.2)
    (hm : accesses ⊆ Protocol.stores made)
    (ht : Ticked id policy (some o) requirement accesses (.ok r))
    (hd : r.disposition = .alreadyApplied) : Applied c.store.2 o.digest := by
  cases ht
  case idle hd' _                => exact absurd hd hd'
  case applied s₁ s₂ state₁ latest₁ state₂ cp o' ho hid _ _ hh₂ hid₂ _ href _ =>
    cases ho
    have ⟨hrow, hcp⟩ := row_of_holds hh₂
    exact applied_of_found ha hh (hm (by simp : (s₂, s₂) ∈ _)) hrow
      (hcp.trans <| hid₂.trans hid.symm) href
  case recovered made' s₁ state cp o' ho hid _ _ hh₁ hid₁ href _ =>
    cases ho
    have ⟨hrow, hcp⟩ := row_of_holds hh₁
    exact applied_of_found ha hh (hm (by simp : (s₁, s₁) ∈ _)) hrow
      (hcp.trans <| hid₁.trans hid.symm) href
  case committed hr => exact absurd (hr.disposition.symm.trans hd) (by decide)

end PortfolioRun

-- Every observation that a result acknowledges as already applied has been applied.
def Acknowledged (c : PortfolioRun) : Prop :=
  ∀ client r made, ⟨.ok (client, .ok (.tick r)), made⟩ ∈ c.returned →
    r.disposition = .alreadyApplied → ∀ o, client.Offers o → Applied c.store.2 o.digest

theorem acknowledged_of_honest (h : c.Reached) (hh : PortfolioRun.Honest c.store.2) :
    Acknowledged c := by
  intro client r made hr hd o ho
  have ha := h.answered hr
  obtain ⟨s, _, _, hdoes⟩ := ha.post
  cases ho
  case tick =>
    obtain ⟨result, ht, he⟩ := hdoes
    cases result
    case error => cases he
    case ok    =>
      cases he
      exact PortfolioRun.applied_of_ticked ha.inHistory hh (fun _ hm => hm) ht hd
  case trigger contract evidence o' policy digest requirement receipt report hbound =>
    rcases hdoes with ⟨_, hfalse⟩ | ⟨bound, result, hadm, hdelivered, he⟩
    · cases hfalse
    cases Except.ok.inj <| hbound.symm.trans hadm.bound
    cases result
    case error => cases he
    case ok    =>
      cases he
      generalize hm : Protocol.stores made = stores at hdelivered
      cases hdelivered
      case applied s₁ s₂ s₃ s₄ cur latest cp _ _ _ hcarries _ =>
        exact PortfolioRun.applied_of_found ha.inHistory hh (by simp [hm] : (s₄, s₄) ∈ _) hcarries.row
          (hcarries.portfolioId.trans hadm.portfolioId.symm) hcarries.mem
      case ticked s₁ s₂ s₃ s₄ accesses _ _ ht =>
        have hsub : accesses ⊆ Protocol.stores made := hm ▸ List.subset_append_right _ _
        exact PortfolioRun.applied_of_ticked ha.inHistory hh hsub ht hd

section Forged

variable {t : PortfolioTransitionResult} {o' : ResumeTickObservation}

-- The tick of a client that offers an observation for the round.
def roundTick (o : ResumeTickObservation) : PortfolioClient :=
  .tick "portfolio" (singlePolicy roundRule) (some o) coreRequirement (some coreReceipt)

-- An observation whose reference is in the checkpoint of the round is acknowledged.
theorem RoundRun.exists_acknowledged (h : RoundRun c o t) (hp : o'.portfolioId = "portfolio")
    (hpolicy : o'.policyDigest = (singlePolicy roundRule).digest)
    (hm : o'.checkpointRef ∈ t.checkpoint.canonicalRefs) :
    ∃ (c' : PortfolioRun) (r : ResumeTickResult) (made : _), c'.Reached ∧
      ⟨.ok (roundTick o', .ok (.tick r)), made⟩ ∈ c'.returned ∧ r.disposition = .alreadyApplied ∧
      c'.store.1 = c.store.1 ∧ ∀ e ∈ c'.store.2, e.label = .create enterState ∨ e.label = roundTick o ∨
        e.label = roundTick o' := by
  have hgate : gateOpen coreReceipt coreRequirement = true := by
    simp [gateOpen, coreReceipt, coreRequirement]
  obtain ⟨r, hrun, hd⟩ := resumeTick_run_applied h.rounds.consistent h.rounds.holds hgate
    (hp.trans h.rounds.going.portfolioId.symm) hpolicy hm
  rw [hp] at hrun
  have hcall : (PortfolioClient.call (roundTick o')).run c.store.1 = (.ok (.tick r), c.store.1) :=
    Program.bind_run_ok.mpr ⟨r, c.store.1, hrun, rfl⟩
  obtain ⟨c', made, hc', hs', _, hret, hes⟩ := Protocol.exists_performed h.reached rfl hcall
  refine ⟨c', r, made, hc', hret ▸ List.mem_append_right _ (List.mem_singleton_self _), hd, hs',
    fun e he => ?_⟩
  rw [hes, List.mem_append] at he
  rcases he with he | he
  · exact (h.labels e he).imp_right .inl
  · obtain ⟨m, _, rfl⟩ := List.mem_map.mp he
    exact .inr (.inr rfl)

-- A client that offers an observation of the round supplies no other reference.
theorem supplies_roundTick {s : Portfolios} {ref : String} (hg : o.authorityGrant = none)
    (h : (roundTick o).Supplies s ref) : ref ∈ o.canonicalRefs := by
  cases h
  case delivers o' hd href =>
    cases hd
    simpa [ResumeTickObservation.callerRefs, hg] using href

theorem checkpointRef_ne_canonical : o.checkpointRef ≠ "canonical" := by
  rw [← String.append_empty (s := "canonical"), ResumeTickObservation.checkpointRef]
  exact Text.append_ne_append rfl rfl (by decide)

omit [Sha256] in
-- A redelivered round is acknowledged, and it has been applied.
theorem acknowledged_round :
    let _ := Sha256.byRound
    ∃ (c : PortfolioRun) (o : ResumeTickObservation) (r : ResumeTickResult) (made : _),
      Acknowledged c ∧ ⟨.ok (roundTick o, .ok (.tick r)), made⟩ ∈ c.returned ∧
      r.disposition = .alreadyApplied := by
  intro _
  obtain ⟨c, t, h⟩ :=
    exists_roundRun tellsRounds_byRound (by decide : Guard.UniqueNonempty ["canonical"])
  obtain ⟨c', r, made, hc', hr, hd, _, hlabels⟩ :=
    h.exists_acknowledged rfl rfl (checkpointRef_mem h.ticked.transition)
  refine ⟨c', _, r, made, acknowledged_of_honest hc' fun es e hp o cur latest new cp hc hid hs => ?_,
    hr, hd⟩
  have he : e ∈ c'.store.2 := hp.subset (by simp)
  have hround (hl : e.label = roundTick (roundObservation enterState [] (by decide))) : False := by
    rw [hl] at hs
    have href := supplies_roundTick rfl hs
    exact checkpointRef_ne_canonical (List.mem_singleton.mp href)
  rcases hlabels e he with hl | hl | hl
  · rw [hl] at hs
    cases hs
    case delivers hd _ => cases hd
  · exact (hround hl).elim
  · exact (hround hl).elim

omit [Sha256] in
-- A caller who chooses the reference of another observation has it acknowledged without being
-- applied.
theorem not_acknowledged_forged :
    let _ := Sha256.byRound
    ∃ c : PortfolioRun, c.Reached ∧ ¬Acknowledged c := by
  intro _
  let lost := roundObservation enterState [] (by decide)
  have hrefs : Guard.UniqueNonempty ["canonical", lost.checkpointRef] := by
    constructor
    case left  =>
      simp only [List.mem_cons, List.not_mem_nil, or_false, forall_eq_or_imp, forall_eq]
      exact ⟨by decide, Text.not_blank_of_head (String.toList_append ..) (by decide)⟩
    case right => simpa using checkpointRef_ne_canonical.symm
  obtain ⟨c, t, h⟩ := exists_roundRun tellsRounds_byRound hrefs
  obtain ⟨rule, ht⟩ := tickTransition_eq_ok h.ticked.transition
  have hm : lost.checkpointRef ∈ t.checkpoint.canonicalRefs := by
    rw [ht.refs, mem_transitionRefs]
    exact .inl <| List.mem_append_left _ (by simp [roundObservation])
  obtain ⟨c', r, made, hc', hr, hd, hs, hlabels⟩ := h.exists_acknowledged rfl rfl hm
  refine ⟨c', hc', fun ha => ?_⟩
  obtain ⟨e, he, o, happlies, hdigest⟩ := ha _ r made hr hd lost .tick
  have hne : (roundObservation enterState [lost.checkpointRef] hrefs).digest ≠ lost.digest :=
    tellsRounds_byRound.observations _ _ (by simp [lost, roundObservation, enterState, pendingState])
  obtain ⟨_, _, _, _, _, t', hdelivers, ht', hc⟩ := happlies
  rcases hlabels e he with hl | hl | hl
  · rw [hl] at hdelivers
    cases hdelivers
  · rw [hl] at hdelivers
    cases hdelivers
    exact hne hdigest
  · rw [hl] at hdelivers
    cases hdelivers
    -- The only checkpoint is the one of the other observation.
    have hrow := (PortfolioRun.row_of_holds hc.holds).left
    have hlast : portfolioCheckpointRow t'.checkpoint ∈ c'.store.1.checkpoints.rows := by
      have hat := (PortfolioRun.advances_of_mem hc'.recorded he).checkpoints _ _ _
        (checkpoint?_eq_some.mpr ⟨hrow, rfl, rfl⟩)
      exact (checkpoint?_eq_some.mp hat).left
    rw [hs, h.rows, List.mem_singleton] at hlast
    have hcp := portfolioCheckpointRow_inj hlast
    have hother := checkpointRef_mem h.ticked.transition
    rw [← hcp] at hother
    rcases checkpointRef_of_mem ht'.transition hother with he | he
    · exact hne he
    · exact checkpointRef_ne_canonical (List.mem_singleton.mp he)

end Forged

end GeneralExecution
