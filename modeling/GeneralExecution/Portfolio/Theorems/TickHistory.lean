import GeneralExecution.Portfolio.Theorems.HeadHistory

namespace GeneralExecution

open Portfolios

variable [Sha256]

section Commits

variable {s s' : Portfolios} {cur cur' new new' : PortfolioState}
variable {latest latest' : Option ExecutionCheckpoint} {cp cp' : ExecutionCheckpoint}

-- An access commits one state.
theorem Portfolios.Commits.unique (h : s.Commits s' cur latest new cp)
    (h' : s.Commits s' cur' latest' new' cp') :
    cur = cur' ∧ latest = latest' ∧ new = new' ∧ cp = cp' := by
  have hrows := (Table.insert?_eq_some.mp h.inserts).right
  rw [(Table.insert?_eq_some.mp h'.inserts).right] at hrows
  have hcp : cp' = cp := portfolioCheckpointRow_inj <| by simpa using hrows
  subst hcp
  have hid : new.portfolioId = new'.portfolioId :=
    h.binds.portfolioId.symm.trans h'.binds.portfolioId
  have ⟨hnew, _⟩ := h.holds.unique h'.holds hid
  have ⟨hcur, hlatest⟩ := h.current.unique h'.current <|
    h.portfolioId.symm.trans <| hid.trans h'.portfolioId
  exact ⟨hcur, hlatest, hnew, rfl⟩

theorem Portfolios.Commits.ne_checkpoints (h : s.Commits s' cur latest new cp) :
    s'.checkpoints ≠ s.checkpoints := by
  intro he
  have hrows := (Table.insert?_eq_some.mp h.inserts).right
  rw [he] at hrows
  simpa using congrArg List.length hrows

-- What a commit does to the heads.
theorem Portfolios.Commits.heads (h : s.Commits s' cur latest new cp) (id : String) :
    s'.head? id = s.head? id ∨ ∃ head head', s.head? id = some head ∧ s'.head? id = some head' ∧
      head'.generation = head.generation + 1 := by
  rw [h.writes]
  split
  case isFalse    => exact .inl rfl
  case isTrue hid =>
    have hcur := h.current.head
    rw [← h.portfolioId, ← hid] at hcur
    exact .inr ⟨_, _, hcur, rfl, h.generation⟩

end Commits

variable {c : PortfolioRun} {e : PortfolioEvent} {o : ResumeTickObservation}
variable {es es' : List PortfolioEvent} {d : String}

-- The access commits the transition of the observation.
def PortfolioEvent.Applies (e : PortfolioEvent) (o : ResumeTickObservation) : Prop :=
  ∃ policy requirement receipt cur latest t, e.label.Delivers e.before o ∧
    TickTransition policy o requirement receipt cur t ∧
    e.before.Commits e.after cur latest t.newState t.checkpoint

-- An observation of this digest has been applied.
def Applied (es : List PortfolioEvent) (d : String) : Prop :=
  ∃ e ∈ es, ∃ o, PortfolioEvent.Applies e o ∧ o.digest = d

theorem Applied.mono (h : Applied es d) (hp : es <+: es') : Applied es' d := by
  obtain ⟨e, he, happlies⟩ := h
  exact ⟨e, hp.subset he, happlies⟩

-- No two observations that have been applied have this digest.
def ObservationsDistinct (es : List PortfolioEvent) (d : String) : Prop :=
  ∀ e ∈ es, ∀ e' ∈ es, ∀ o o', PortfolioEvent.Applies e o → PortfolioEvent.Applies e' o' →
    o.digest = d → o'.digest = d → o = o'

theorem PortfolioEvent.Applies.heads (h : e.Applies o) :
    ∃ head head', e.before.head? o.portfolioId = some head ∧
      head.generation = o.expectedGeneration ∧ e.after.head? o.portfolioId = some head' ∧
      head'.generation = o.expectedGeneration + 1 := by
  obtain ⟨policy, requirement, receipt, cur, latest, t, _, ht, hc⟩ := h
  have hbefore := hc.current.head
  have hafter := hc.holds.head
  rw [hc.portfolioId] at hafter
  rw [← ht.portfolioId] at hbefore hafter
  exact ⟨_, _, hbefore, ht.generation.symm, hafter, hc.generation.trans (by rw [ht.generation])⟩

-- What an access does to the heads.
theorem PortfolioClient.Moves.heads {client : PortfolioClient} {s s' : Portfolios}
    (h : client.Moves s s') (id : String) :
    s'.head? id = s.head? id ∨
      (s.head? id = none ∧ ∃ head, s'.head? id = some head ∧ head.generation = 0) ∨
      ∃ head head', s.head? id = some head ∧ s'.head? id = some head' ∧
        head'.generation = head.generation + 1 := by
  rcases h with hb | hc | ⟨_, _, hc⟩ | ⟨_, hc⟩ | ⟨hc, _⟩
  case keeps   => exact .inl (by rw [head?, head?, hb.heads])
  case creates =>
    rw [hc.writes]
    split
    case isFalse    => exact .inl rfl
    case isTrue hid => exact .inr <| .inl ⟨hid ▸ hc.fresh, _, rfl, hc.genesis⟩
  all_goals exact (hc.heads id).imp_right .inr

-- How the observations of a run have moved the heads.
structure TickHistory (c : PortfolioRun) : Prop where
  atMostOnce : ∀ d, ObservationsDistinct c.store.2 d → c.store.2.Pairwise fun e e' =>
    ∀ o o', e.Applies o → e'.Applies o' → ¬(o.digest = d ∧ o'.digest = d)
  advances : ∀ e ∈ c.store.2, ∀ id, e.after.head? id = e.before.head? id ∨
    (e.before.head? id = none ∧ ∃ head, e.after.head? id = some head ∧ head.generation = 0) ∨
    ∃ head head', e.before.head? id = some head ∧ e.after.head? id = some head' ∧
      head'.generation = head.generation + 1
  applies : ∀ e ∈ c.store.2, ∀ o, e.Applies o →
    ∃ head head', e.before.head? o.portfolioId = some head ∧
      head.generation = o.expectedGeneration ∧ e.after.head? o.portfolioId = some head' ∧
      head'.generation = o.expectedGeneration + 1
  uninterrupted : c.store.2.Pairwise fun e e' => ∀ o cur latest new cp, new.portfolioId = o.portfolioId →
    (e.Applies o → e'.before.Commits e'.after cur latest new cp →
      o.expectedGeneration + 1 ≤ cur.generation) ∧
    (e'.Applies o → e.before.Commits e.after cur latest new cp →
      new.generation ≤ o.expectedGeneration)

theorem tickHistory (h : c.Reached) : TickHistory c where
  atMostOnce d hd := by
    refine (PortfolioRun.pairwise_generations h.recorded).imp_of_mem
      fun {e e'} he he' hle o o' ha ha' ⟨hod, hod'⟩ => ?_
    obtain rfl := hd e he e' he' o o' ha ha' hod hod'
    obtain ⟨_, _, _, cur, latest, t, _, ht, hc⟩ := ha
    obtain ⟨_, _, _, cur', latest', t', _, ht', hc'⟩ := ha'
    have hid : t.newState.portfolioId = t'.newState.portfolioId :=
      (hc.portfolioId.trans ht.portfolioId.symm).trans (hc'.portfolioId.trans ht'.portfolioId.symm).symm
    have hgen := hle _ _ _ _ _ _ _ _ hc hc' hid
    have := hc.generation
    have := ht.generation
    have := ht'.generation
    omega
  advances e he id := (h.recorded.admits e he).guar.right.heads id
  applies e _ o ha := ha.heads
  uninterrupted   := by
    refine (PortfolioRun.pairwise_generations h.recorded).imp
      fun {e e'} hle o cur latest new cp hid => ⟨fun ha hc => ?_, fun ha hc => ?_⟩
    case refine_1 =>
      obtain ⟨_, _, _, cur', latest', t, _, ht, hc'⟩ := ha
      have hgen := hle _ _ _ _ _ _ _ _ hc' hc <|
        (hc'.portfolioId.trans ht.portfolioId.symm).trans hid.symm
      have := hc'.generation
      have := ht.generation
      omega
    case refine_2 =>
      obtain ⟨_, _, _, cur', latest', t, _, ht, hc'⟩ := ha
      have hgen := hle _ _ _ _ _ _ _ _ hc hc' <|
        hid.trans (hc'.portfolioId.trans ht.portfolioId.symm).symm
      have := ht.generation
      omega

-- A tick that returns `committed` has committed the transition of its observation.
theorem PortfolioRun.Reached.applies {id : String} {policy : TransitionPolicy}
    {observation : Option ResumeTickObservation} {requirement : CoreVerificationRequirement}
    {verification : Option CoreVerificationReceipt} {r : ResumeTickResult}
    {made : List ((Portfolios × List PortfolioEvent) × (Portfolios × List PortfolioEvent))}
    (h : c.Reached) (hr : ⟨.ok (.tick id policy observation requirement verification, .ok (.tick r)),
      made⟩ ∈ c.returned) (hd : r.disposition = .committed) :
    ∃ e ∈ c.store.2, ∃ o ∈ observation, e.Applies o := by
  have ha := h.answered hr
  obtain ⟨s, _, _, result, ht, he⟩ := ha.post
  cases result
  case error => cases he
  case ok r' =>
    cases he
    generalize hm : Protocol.stores made = stores at ht
    cases ht
    case idle hd'    => exact absurd hd hd'
    case applied hr' => exact absurd (hr'.disposition.symm.trans hd) (by decide)
    case recovered hr' => exact absurd (hr'.disposition.symm.trans hd) (by decide)
    case committed made' s₁ s₂ s₃ cur latest t receipt o ho _ _ _ ht hc _ _ _ =>
      have hmem : (s₁, s₂) ∈ Protocol.stores made := by simp [hm]
      obtain ⟨m, hm', he⟩ := List.mem_map.mp hmem
      have hevent := (ha.inHistory m hm').event
      cases he
      exact ⟨_, hevent, o, ho, policy, requirement, receipt, cur, latest, t, ho ▸ .tick, ht, hc⟩

section Round

-- A run of a creation and of one round.
structure RoundRun (c : PortfolioRun) (o : ResumeTickObservation) (t : PortfolioTransitionResult) :
    Prop where
  reached : c.Reached
  rounds  : Rounds c.store.1 t.newState (some t.checkpoint)
  ticked  : TickTransition (singlePolicy roundRule) o coreRequirement coreReceipt enterState t
  rows    : c.store.1.checkpoints.rows = [portfolioCheckpointRow t.checkpoint]
  labels  : ∀ e ∈ c.store.2, e.label = .create enterState ∨
    e.label = .tick "portfolio" (singlePolicy roundRule) (some o) coreRequirement (some coreReceipt)
  applies : ∃ e ∈ c.store.2, e.Applies o

theorem exists_roundRun (hd : TellsRounds) {refs : List String}
    (hr : Guard.UniqueNonempty ("canonical" :: refs)) :
    ∃ c t, RoundRun c (roundObservation enterState refs hr) t := by
  obtain ⟨c, s, hc, hs, hrounds, hempty, hlabels⟩ := exists_createdRun
  obtain ⟨t, r, s', ht, hrun, hdis, hcommits, hrounds'⟩ :=
    hrounds.exists_ticked hd (by decide) hr rfl
  have hcall : (PortfolioClient.call (.tick "portfolio" (singlePolicy roundRule)
      (some (roundObservation enterState refs hr)) coreRequirement (some coreReceipt))).run s =
        (.ok (.tick r), s') := Program.bind_run_ok.mpr ⟨r, s', hrun, rfl⟩
  obtain ⟨c', made, hc', hs', _, hret, hes⟩ := Protocol.exists_performed hc hs hcall
  have hmem : ⟨.ok (_, .ok (.tick r)), made⟩ ∈ c'.returned :=
    hret ▸ List.mem_append_right _ (List.mem_singleton_self _)
  obtain ⟨e, he, o, ho, happlies⟩ := PortfolioRun.Reached.applies hc' hmem hdis
  cases ho
  refine ⟨c', t, ?_⟩
  constructor
  case reached => exact hc'
  case rounds  => exact hs' ▸ hrounds'
  case ticked  => exact ht
  case rows    =>
    rw [hs', (Table.insert?_eq_some.mp hcommits.inserts).right, hempty]
    rfl
  case labels  =>
    intro e' he'
    rw [hes, List.mem_append] at he'
    rcases he' with he' | he'
    · exact .inl (hlabels e' he')
    · obtain ⟨m, _, rfl⟩ := List.mem_map.mp he'
      exact .inr rfl
  case applies => exact ⟨e, he, happlies⟩

omit [Sha256] in
-- The history of one round.
theorem tickHistory_round :
    let _ := Sha256.byRound
    ∃ (c : PortfolioRun) (e : PortfolioEvent) (o : ResumeTickObservation), TickHistory c ∧
      e ∈ c.store.2 ∧ e.Applies o := by
  intro _
  obtain ⟨c, _, h⟩ :=
    exists_roundRun tellsRounds_byRound (by decide : Guard.UniqueNonempty ["canonical"])
  obtain ⟨e, he, ha⟩ := h.applies
  exact ⟨c, e, _, tickHistory h.reached, he, ha⟩

end Round

end GeneralExecution
