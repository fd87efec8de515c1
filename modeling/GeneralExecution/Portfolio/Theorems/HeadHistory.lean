import GeneralExecution.Portfolio.Theorems.AuthorityStops
import GeneralExecution.Portfolio.Theorems.Clients

namespace GeneralExecution

open Portfolios

section Histories

variable [Sha256] {c : PortfolioRun} {s s' : Portfolios} {es : List PortfolioEvent}
variable {cur new state : PortfolioState} {latest : Option ExecutionCheckpoint}
variable {cp : ExecutionCheckpoint} {id expected : String}

namespace PortfolioRun

-- No two states that accesses have found in a portfolio have the same digest.
def DigestsDistinct (es : List PortfolioEvent) (id : String) : Prop :=
  ∀ e ∈ es, ∀ e' ∈ es, ∀ state latest state' latest', e.before.Holds state latest →
    e'.before.Holds state' latest' → state.portfolioId = id → state'.portfolioId = id →
    state.digest = state'.digest → state = state'

-- The call has committed a state of this portfolio, expecting this digest.
def Committed (id expected : String)
    (r : Return (Portfolios × List PortfolioEvent) PyError (PortfolioClient × Py PortfolioAnswer)) :
    Prop :=
  ∃ id' new cp answer, r.result = .ok (.commit id' expected new cp, .ok answer) ∧
    new.portfolioId = id

-- The head of a portfolio is past a generation.
def Past (i : String × Nat) (s : Portfolios) : Prop :=
  ∃ row, s.head? i.1 = some row ∧ i.2 < row.generation

omit [Sha256] in
theorem Past.advances {i : String × Nat} (h : Past i s) (ha : s.Advances s') : Past i s' := by
  have ⟨row, hr, hlt⟩ := h
  have ⟨row', hr', hg⟩ := ha.heads i.1 row hr
  refine ⟨row', hr', ?_⟩
  rcases hg with rfl | hg
  · exact hlt
  · exact hlt.trans hg

theorem sets_past (h : s.Commits s' cur latest new cp) :
    ¬Past (new.portfolioId, cur.generation) s ∧ Past (new.portfolioId, cur.generation) s' := by
  constructor
  case left  =>
    intro ⟨row, hr, hlt⟩
    have hh := h.current.head
    rw [← h.portfolioId, hr, Option.some.injEq] at hh
    rw [hh] at hlt
    exact Nat.lt_irrefl _ hlt
  case right =>
    refine ⟨_, h.holds.head, ?_⟩
    simp [portfolioHeadRow, h.generation]

-- A call that has committed has made one access.
theorem Reached.commit {answer : PortfolioAnswer}
    {made : List ((Portfolios × List PortfolioEvent) × (Portfolios × List PortfolioEvent))}
    (h : c.Reached) (hr : ⟨.ok (.commit id expected new cp, .ok answer), made⟩ ∈ c.returned) :
    ∃ m cur latest, made = [m] ∧ m.1.1.Commits m.2.1 cur latest new cp ∧ cur.digest = expected ∧
      ⟨.commit id expected new cp, m.1.1, m.2.1⟩ ∈ c.store.2 := by
  have ha := h.answered hr
  obtain ⟨s, _, _, m', cur, latest, hm, hc, he⟩ := ha.post
  obtain ⟨m, hmade, hm'⟩ := List.map_eq_singleton_iff.mp hm
  subst hmade hm'
  exact ⟨m, cur, latest, rfl, hc, he, (ha.inHistory m (by simp)).event⟩

theorem Reached.atMostOne (h : c.Reached) (hd : DigestsDistinct c.store.2 id) :
    c.returned.Pairwise fun a b => ¬(Committed id expected a ∧ Committed id expected b) := by
  have hp := Config.Reachable.setters_pairwise Protocol.logged_mutual
    (fun (i : String × Nat) x y hg (hp : Past i x.1) => hp.advances hg.left)
    (Protocol.clients_respects PortfolioClient.call_respects) recorded_empty h
  refine hp.imp_of_mem fun {a b} ha hb hn ⟨⟨_, na, _, _, hra, hia⟩, ⟨_, nb, _, _, hrb, hib⟩⟩ => ?_
  obtain ⟨ra, made⟩ := a
  obtain ⟨rb, made'⟩ := b
  cases hra
  cases hrb
  obtain ⟨m, cur, latest, hm, hc, he, hevent⟩ := h.commit ha
  obtain ⟨m', cur', latest', hm', hc', he', hevent'⟩ := h.commit hb
  -- Both have found the same state, which the head leaves once.
  have hcur : cur = cur' := hd _ hevent _ hevent' cur latest cur' latest' hc.current hc'.current
    (hc.portfolioId.symm.trans hia) (hc'.portfolioId.symm.trans hib) (he.trans he'.symm)
  have hs := sets_past hc
  have hs' := sets_past hc'
  rw [hia] at hs
  rw [hib, ← hcur] at hs'
  exact hn (id, cur.generation) ⟨⟨m, by simp [hm], hs⟩, ⟨m', by simp [hm'], hs'⟩⟩

-- A call that creates a portfolio or commits to it changes nothing when it raises.
theorem Reached.raised {client : PortfolioClient} {e : PyError}
    {made : List ((Portfolios × List PortfolioEvent) × (Portfolios × List PortfolioEvent))}
    (h : c.Reached)
    (hclient : (∃ state, client = .create state) ∨
      ∃ id expected new cp, client = .commit id expected new cp)
    (hr : ⟨.ok (client, .error e), made⟩ ∈ c.returned) : ∀ m ∈ made, m.2.1 = m.1.1 := by
  obtain ⟨s, _, _, hd⟩ := (h.answered hr).post
  intro m hm
  refine (?_ : ∀ m' ∈ Protocol.stores made, m'.2 = m'.1) (m.1.1, m.2.1) (List.mem_map_of_mem hm)
  rcases hclient with ⟨state, rfl⟩ | ⟨id, expected, new, cp, rfl⟩
  · exact hd
  · exact hd

end PortfolioRun

-- What holds of the heads and the checkpoints of one store in any run of its clients.
structure PortfolioHistory (c : PortfolioRun) : Prop where
  rows : ∀ id n, (∃ row, c.store.1.checkpoint? id n = some row) ↔
    ∃ head, c.store.1.head? id = some head ∧ 1 ≤ n ∧ n ≤ head.generation
  decodes : ∀ id n row, c.store.1.checkpoint? id n = some row →
    ∃ e ∈ c.store.2, ∃ cur latest new cp, e.before.Commits e.after cur latest new cp ∧
      new.portfolioId = id ∧ new.generation = n ∧ decodeCheckpointRow row = .ok cp ∧
      cp.portfolioId = id ∧ cp.portfolioGeneration = n ∧ cp.portfolioStateDigest = new.digest
  ordered : c.store.2.Pairwise fun e e' => ∀ cur latest new cp cur' latest' new' cp',
    e.before.Commits e.after cur latest new cp →
    e'.before.Commits e'.after cur' latest' new' cp' → new.portfolioId = new'.portfolioId →
      new.generation < new'.generation
  previous : ∀ e ∈ c.store.2, ∀ cur latest new cp, e.before.Commits e.after cur latest new cp →
    new.previousStateDigest = some cur.digest ∧ new.generation = cur.generation + 1 ∧
      (cur.generation = 0 ∨ ∃ e' ∈ c.store.2, ∃ cur' latest' cp',
        e'.before.Commits e'.after cur' latest' cur cp')
  atMostOne : ∀ id expected, PortfolioRun.DigestsDistinct c.store.2 id →
    c.returned.Pairwise fun a b =>
      ¬(PortfolioRun.Committed id expected a ∧ PortfolioRun.Committed id expected b)
  loads : ∀ id row, c.store.1.head? id = some row → ∃ state head latest,
    (PortfolioHeadStore.loadRecoverySnapshot id).run c.store.1 =
      (.ok (state, head, latest), c.store.1) ∧ c.store.1.Holds state latest
  raised : ∀ client e made, ⟨.ok (client, .error e), made⟩ ∈ c.returned →
    ((∃ state, client = .create state) ∨ ∃ id expected new cp, client = .commit id expected new cp) →
      ∀ m ∈ made, m.2.1 = m.1.1

theorem loadRecoverySnapshot_run (hh : s.Holds state latest) :
    (PortfolioHeadStore.loadRecoverySnapshot state.portfolioId).run s =
      (.ok (state, durablePortfolioHead hh.latest, latest), s) := by
  have hb : Guard.nonempty .portfolioPersistenceError [("portfolio_id", state.portfolioId)] = .ok _ :=
    Guard.nonempty_of state.nonempty
  have hrow : PortfolioHeadStore.recoveryRow state.portfolioId s =
      some (portfolioHeadRow state latest, latest.map portfolioCheckpointRow) := by
    rw [PortfolioHeadStore.recoveryRow, hh.head, Option.map_some, ← hh.checkpoint]
    rfl
  simp only [PortfolioHeadStore.loadRecoverySnapshot, Program.bind_run_ok, Program.lift_run,
    Program.query_run]
  refine ⟨_, s, congrArg (·, s) hb, _, s, rfl, ?_⟩
  rw [hrow]
  exact congrArg (·, s) (decodeRecoveryRow_rows hh.latest)

theorem portfolioHistory (h : c.Reached) : PortfolioHistory c where
  rows            := h.recorded.inv.counted
  decodes id n row hr := by
    have hrow := checkpoint?_eq_some.mp hr
    obtain ⟨e, he, cur, latest, new, cp, hc, hcp⟩ :=
      PortfolioRun.committed_of_checkpoint h.recorded row hrow.left
    subst hcp
    have hid : cp.portfolioId = id := hrow.right.left
    have hn : cp.portfolioGeneration = n := hrow.right.right
    exact ⟨e, he, cur, latest, new, cp, hc, hc.binds.portfolioId.symm.trans hid,
      hc.binds.generation.symm.trans hn, decodeCheckpointRow_row cp, hid, hn, hc.binds.stateDigest⟩
  ordered         := by
    refine (PortfolioRun.pairwise_generations h.recorded).imp
      fun hle cur latest new cp cur' latest' new' cp' hc hc' hp => ?_
    have := hle cur latest new cp cur' latest' new' cp' hc hc' hp
    have := hc'.generation
    omega
  previous e he cur latest new cp hc := by
    refine ⟨hc.previous, hc.generation, ?_⟩
    have ⟨es, hp, hbefore⟩ := h.recorded.before he
    refine (PortfolioRun.committed_of_holds hbefore cur latest hc.current).imp_right ?_
    exact fun ⟨e', he', hcommits⟩ => ⟨e', hp.subset (List.mem_append_left _ he'), hcommits⟩
  atMostOne _ _   := h.atMostOne
  loads id row hr := by
    obtain ⟨state, latest, hp, hh⟩ := h.recorded.inv.holds id row hr
    subst hp
    exact ⟨state, _, latest, loadRecoverySnapshot_run hh, hh⟩
  raised client e made hr hclient := h.raised hclient hr

end Histories

section Rounds

-- A digest that tells apart the generations of a portfolio, and two observations of one generation
-- by the number of their references.
def rankOfRound (j : Option Json) : Nat :=
  let count := fun key =>
    match j.bind (·.get? key) with
    | some (.int n) => n.toNat
    | _             => 0
  let refs :=
    match j.bind (·.get? "canonical_refs") with
    | some (.arr xs) => xs.length
    | _              => 0
  count "generation" + count "portfolio_generation" + count "expected_generation" + 4 * refs

abbrev Sha256.byRound : Sha256 :=
  .ofRank rankOfRound

theorem normalizeAll_length (xs : List PyValue) : (normalizeAll xs).length = xs.length := by
  induction xs
  case nil          => rfl
  case cons x xs ih => rw [normalizeAll, List.length_cons, ih, List.length_cons]

theorem rankOfRound_state (state : PortfolioState) :
    rankOfRound (normalize (toPy state)) = state.generation := by
  have hd : distinctKeys (asdict state) = true := rfl
  have hg : (normalize (toPy state)).get? "generation" = some (.int state.generation) :=
    (normalize_get? hd _).trans rfl
  have hp : (normalize (toPy state)).get? "portfolio_generation" = none :=
    (normalize_get? hd _).trans rfl
  have he : (normalize (toPy state)).get? "expected_generation" = none :=
    (normalize_get? hd _).trans rfl
  have hr : (normalize (toPy state)).get? "canonical_refs" = none :=
    (normalize_get? hd _).trans rfl
  simp [rankOfRound, hg, hp, he, hr]

theorem rankOfRound_checkpoint (cp : ExecutionCheckpoint) :
    rankOfRound (normalize (toPy cp)) = cp.portfolioGeneration + 4 * cp.canonicalRefs.length := by
  have hd : distinctKeys (asdict cp) = true := rfl
  have hg : (normalize (toPy cp)).get? "generation" = none := (normalize_get? hd _).trans rfl
  have hp : (normalize (toPy cp)).get? "portfolio_generation" = some (.int cp.portfolioGeneration) :=
    (normalize_get? hd _).trans rfl
  have he : (normalize (toPy cp)).get? "expected_generation" = none :=
    (normalize_get? hd _).trans rfl
  have hr : (normalize (toPy cp)).get? "canonical_refs" =
      some (.arr (normalizeAll (cp.canonicalRefs.map toPy))) := (normalize_get? hd _).trans rfl
  simp [rankOfRound, hg, hp, he, hr, normalizeAll_length]

theorem rankOfRound_observation (o : ResumeTickObservation) :
    rankOfRound (normalize (toPy o)) = o.expectedGeneration + 4 * o.canonicalRefs.length := by
  have hd : distinctKeys (asdict o) = true := rfl
  have hg : (normalize (toPy o)).get? "generation" = none := (normalize_get? hd _).trans rfl
  have hp : (normalize (toPy o)).get? "portfolio_generation" = none :=
    (normalize_get? hd _).trans rfl
  have he : (normalize (toPy o)).get? "expected_generation" = some (.int o.expectedGeneration) :=
    (normalize_get? hd _).trans rfl
  have hr : (normalize (toPy o)).get? "canonical_refs" =
      some (.arr (normalizeAll (o.canonicalRefs.map toPy))) := (normalize_get? hd _).trans rfl
  simp [rankOfRound, hg, hp, he, hr, normalizeAll_length]

theorem round_ruleOk : RuleOk .running .executionStarted .running .none .none none := by
  decide

theorem round_nonempty : ∀ x ∈ [("rule_id", "round"), ("next_action_ref", "action")],
    ¬Text.Blank x.2 := by
  decide

theorem running_roleOk : RoleOk .active .running (some "pending") [pendingBlocker] none := by
  decide

theorem start_not_blank : ¬Text.Blank "start" := by
  decide

-- It keeps the work running.
def roundRule : TransitionRule where
  ruleId            := "round"
  fromState         := .running
  event             := .executionStarted
  toState           := .running
  nextActionRef     := "action"
  effect            := .none
  requiredEvidence  := []
  authorityMode     := .none
  authorityBoundary := none
  version           := rfl
  nonempty          := round_nonempty
  unique            := wakeRule.unique
  optional          := slipRule.optional
  ruleOk            := round_ruleOk

-- A portfolio whose work is running, whatever its generation.
structure Going (state : PortfolioState) : Prop where
  portfolioId : state.portfolioId = "portfolio"
  active      : state.active = pendingEntry .running running_roleOk
  secondary   : state.secondary = nextEntry
  passive     : state.passive = []

theorem going_enterState : Going enterState where
  portfolioId := rfl
  active      := rfl
  secondary   := rfl
  passive     := rfl

variable [Sha256] {state : PortfolioState} {refs : List String}

theorem round_isSha256 (state : PortfolioState) : ∀ x ∈ [("expected_state_digest", state.digest),
    ("policy_digest", (singlePolicy roundRule).digest)], IsSha256 x.2 := by
  simp only [List.mem_cons, List.not_mem_nil, or_false, forall_eq_or_imp, forall_eq]
  exact ⟨isSha256_sha256Digest _, isSha256_sha256Digest _⟩

def roundObservation (state : PortfolioState) (refs : List String)
    (hr : Guard.UniqueNonempty ("canonical" :: refs)) : ResumeTickObservation where
  portfolioId         := "portfolio"
  expectedGeneration  := state.generation
  expectedStateDigest := state.digest
  policyDigest        := (singlePolicy roundRule).digest
  event               := "execution_started"
  evidence            := [laneEvidence "start" start_not_blank]
  actionRef           := "action"
  observedAt          := "observed"
  summary             := "summary"
  canonicalRefs       := "canonical" :: refs
  uncertainties       := []
  wakeAdmission       := none
  authorityGrant      := none
  version             := rfl
  nonempty            := (enterObservation slipRule).nonempty
  isSha256            := round_isSha256 state
  evident             := (enterObservation slipRule).evident
  distinct            := (enterObservation slipRule).distinct
  hasRefs             := List.cons_ne_nil _ _
  refs                := hr
  unique              := (enterObservation slipRule).unique

def roundCall (o : ResumeTickObservation) : TransitionCall where
  policy         := singlePolicy roundRule
  event          := o.event
  evidence       := o.evidence
  actionRef      := o.actionRef
  observedAt     := o.observedAt
  summary        := o.summary
  canonicalRefs  := tickRefs o coreRequirement coreReceipt
  uncertainties  := o.uncertainties
  replacement    := none
  wakeAdmission  := o.wakeAdmission
  authorityGrant := o.authorityGrant

def roundSlots : TransitionSlots where
  active              := pendingEntry .running running_roleOk
  secondary           := nextEntry
  passive             := []
  replacementWorkId   := none
  wakeAdmissionDigest := none

-- Each round leads to the next one.
theorem exists_round (hg : Going state) (hr : Guard.UniqueNonempty ("canonical" :: refs)) :
    ∃ t, TickTransition (singlePolicy roundRule) (roundObservation state refs hr) coreRequirement
      coreReceipt state t ∧ Going t.newState := by
  let o := roundObservation state refs hr
  have hs : (roundCall o).Sound := by
    constructor
    case nonempty      =>
      simpa [roundCall, o, roundObservation] using ⟨by decide, by decide, by decide⟩
    case hasRefs       => simp [roundCall, tickRefs]
    case refs          =>
      intro ref href
      rcases List.mem_append.mp href with href | href
      · exact hr.left ref href
      · simp only [List.mem_cons, List.not_mem_nil, or_false] at href
        rcases href with rfl | rfl | rfl <;>
          exact Text.not_blank_of_head (String.toList_append ..) (by decide)
    case uncertainties => simp [roundCall, o, roundObservation, Guard.UniqueNonempty]
  have hm : matchRuleForTransition (roundCall o).policy state.active.state (roundCall o).event =
      .ok roundRule := by
    rw [hg.active]
    rfl
  have he : verifyEvidence roundRule (roundCall o).evidence = .ok () :=
    verifyEvidence_eq_ok.mpr <| by
      simp [roundCall, o, roundObservation, roundRule, mandatoryEffectEvidence]
  have ha : continuedActive state.active roundRule none = .ok roundSlots.active := by
    rw [hg.active]
    exact roundSlots.active.new_eq
  have hslots : transitionSlots state (singlePolicy roundRule) roundRule (roundCall o).evidence none
      none none = .ok roundSlots := by
    have hstay := @transitionSlots_staying_of _ state (singlePolicy roundRule) roundRule
      (roundCall o).evidence none roundSlots.active (by decide) ha
    rw [hg.secondary, hg.passive] at hstay
    exact hstay
  obtain ⟨t, happly⟩ := TransitionCall.apply_of hs hm (by decide) he rfl hslots
    (by constructor <;> simp [roundSlots, sortedEntries, pendingEntry, nextEntry, laneEntry])
    (by simp [TransitionSlots.Reports, TransitionEffect.IsRotating, roundRule, roundSlots])
  obtain ⟨rule, ht⟩ := applyActiveTransition_eq_ok happly
  obtain ⟨slots, hslots', hfill⟩ := ht.slots
  cases Except.ok.inj <| ht.matched.symm.trans hm
  cases Except.ok.inj <| hslots'.symm.trans hslots
  refine ⟨t, ⟨happly, rfl, rfl, hg.portfolioId.symm, rfl⟩, ?_⟩
  constructor
  case portfolioId => exact ht.precedes.portfolioId.trans hg.portfolioId
  case active      => exact hfill.active
  case secondary   => exact hfill.secondary
  case passive     => exact hfill.passive.trans (by simp [roundSlots, sortedEntries])

-- The digests of different rounds are different.
structure TellsRounds : Prop where
  states : ∀ state new : PortfolioState, state.generation % 4 ≠ new.generation % 4 →
    state.digest ≠ new.digest
  checkpoints : ∀ cp cp' : ExecutionCheckpoint, cp.portfolioGeneration % 4 ≠ cp'.portfolioGeneration % 4 →
    cp.checkpointId ≠ cp'.checkpointId ∧ cp.digest ≠ cp'.digest
  observations : ∀ o o' : ResumeTickObservation,
    (o.expectedGeneration + 4 * o.canonicalRefs.length) % 16 ≠
      (o'.expectedGeneration + 4 * o'.canonicalRefs.length) % 16 → o.digest ≠ o'.digest

omit [Sha256] in
theorem tellsRounds_byRound :
    let _ := Sha256.byRound
    TellsRounds := by
  intro _
  constructor
  case states       =>
    intro state new hn
    refine sha256Digest_ne_of_rank ?_
    rw [rankOfRound_state, rankOfRound_state]
    omega
  case checkpoints  =>
    intro cp cp' hn
    have hr : rankOfRound (normalize (toPy cp)) % 16 ≠ rankOfRound (normalize (toPy cp')) % 16 := by
      rw [rankOfRound_checkpoint, rankOfRound_checkpoint]
      omega
    exact ⟨stableId_ne_of_rank _ hr, sha256Digest_ne_of_rank hr⟩
  case observations =>
    intro o o' hn
    refine sha256Digest_ne_of_rank ?_
    rwa [rankOfRound_observation, rankOfRound_observation]

-- A store of one portfolio, whose work is running.
structure Rounds (s : Portfolios) (state : PortfolioState) (latest : Option ExecutionCheckpoint) :
    Prop where
  consistent : s.Consistent
  holds      : s.Holds state latest
  going      : Going state
  only       : ∀ row ∈ s.checkpoints.rows, row.portfolioId = "portfolio"

variable {s s' : Portfolios} {latest : Option ExecutionCheckpoint} {cp : ExecutionCheckpoint}
variable {new : PortfolioState}

theorem exists_created : ∃ head s, (PortfolioHeadStore.initializePortfolio enterState).run .empty =
    (.ok head, s) ∧ Portfolios.empty.Creates s enterState ∧ Rounds s enterState none := by
  obtain ⟨head, s, hrun, hc⟩ := initializePortfolio_run_of empty_consistent
    (rfl : enterState.generation = 0) rfl
  refine ⟨head, s, hrun, hc, ?_⟩
  constructor
  case consistent => exact hc.consistent empty_consistent
  case holds      => exact hc.holds empty_consistent
  case going      => exact going_enterState
  case only       =>
    rw [hc.checkpoints]
    exact fun row hr => by cases hr

theorem Rounds.commits (h : Rounds s state latest) (hg : Going new)
    (hc : s.Commits s' state latest new cp) : Rounds s' new (some cp) where
  consistent  := hc.consistent h.consistent
  holds       := hc.holds
  going       := hg
  only row hr := by
    rw [(Table.insert?_eq_some.mp hc.inserts).right, List.mem_append, List.mem_singleton] at hr
    rcases hr with hr | rfl
    · exact h.only row hr
    · exact hc.binds.portfolioId.trans hg.portfolioId

theorem Rounds.fresh (hd : TellsRounds) (h : Rounds s state latest) (hn : state.generation < 3)
    (hg : cp.portfolioGeneration = state.generation + 1) : s.Fresh cp := by
  have hrow (row : PortfolioCheckpointRow) (hr : row ∈ s.checkpoints.rows) :
      ∃ c, row = portfolioCheckpointRow c ∧ c.portfolioGeneration < cp.portfolioGeneration := by
    obtain ⟨c, hc⟩ := h.consistent.checkpoints row hr
    have hat : s.checkpoint? state.portfolioId row.generation = some row :=
      checkpoint?_eq_some.mpr ⟨hr, (h.only row hr).trans h.going.portfolioId.symm, rfl⟩
    obtain ⟨_, hle⟩ := (h.consistent.checkpoint_of_holds h.holds).mp ⟨row, hat⟩
    subst hc
    exact ⟨c, rfl, hg ▸ Nat.lt_succ_of_le hle⟩
  intro column hcolumn
  rw [Table.select_eq_none]
  intro row hr he
  obtain ⟨c, rfl, hlt⟩ := hrow row hr
  have hne := hd.checkpoints c cp (by omega)
  simp only [List.mem_cons, List.not_mem_nil, or_false] at hcolumn
  rcases hcolumn with rfl | rfl | rfl
  · have heq := congrArg Prod.snd (Sum.inr.inj he)
    exact absurd heq hlt.ne
  · exact hne.left (Sum.inl.inj he)
  · exact hne.right (Sum.inl.inj he)

-- A tick of the next round is committed.
theorem Rounds.exists_ticked (hd : TellsRounds) (h : Rounds s state latest)
    (hn : state.generation < 3) (hr : Guard.UniqueNonempty ("canonical" :: refs))
    (ha : appliedDigest (roundObservation state refs hr).checkpointRef latest = none) :
    ∃ t r s', TickTransition (singlePolicy roundRule) (roundObservation state refs hr)
        coreRequirement coreReceipt state t ∧
      (resumeTick "portfolio" (singlePolicy roundRule) (some (roundObservation state refs hr))
        coreRequirement (some coreReceipt)).run s = (.ok r, s') ∧ r.disposition = .committed ∧
      s.Commits s' state latest t.newState t.checkpoint ∧
      Rounds s' t.newState (some t.checkpoint) := by
  obtain ⟨t, ht, hg⟩ := exists_round h.going hr
  have hgate : gateOpen coreReceipt coreRequirement = true := by
    simp [gateOpen, coreReceipt, coreRequirement]
  have hgen := ht.precedes.generation
  have hf : s.Fresh t.checkpoint := h.fresh hd hn <| ht.precedes.binds.generation.trans hgen
  have hne : t.newState.digest ≠ state.digest := hd.states _ _ (by omega)
  obtain ⟨r, s', hrun, hdis, hc⟩ := resumeTick_run_of h.consistent h.holds hgate ht ha hf hne
  exact ⟨t, r, s', ht, hrun, hdis, hc, h.commits hg hc⟩

-- A run of one client that has created the portfolio.
theorem exists_createdRun : ∃ (c : PortfolioRun) (s : Portfolios), c.Reached ∧ c.store.1 = s ∧
    Rounds s enterState none ∧ s.checkpoints = Portfolios.empty.checkpoints ∧
    ∀ e ∈ c.store.2, e.label = .create enterState := by
  obtain ⟨head, s, hrun, hcreates, hrounds⟩ := exists_created
  have hcall : (PortfolioClient.call (.create enterState)).run .empty = (.ok (.head head), s) :=
    Program.bind_run_ok.mpr ⟨head, s, hrun, rfl⟩
  obtain ⟨c, _, hc, hs, _, _, hes⟩ := Protocol.exists_performed .refl rfl hcall
  refine ⟨c, s, hc, hs, hrounds, hcreates.checkpoints, fun e he => ?_⟩
  rw [hes, Config.initial, List.nil_append] at he
  obtain ⟨m, _, rfl⟩ := List.mem_map.mp he
  rfl

omit [Sha256] in
-- The history of a creation and of a commit to what it has created.
theorem portfolioHistory_committed :
    let _ := Sha256.byRound
    ∃ (c : PortfolioRun) (head : PortfolioHeadRow), PortfolioHistory c ∧
      c.store.1.head? "portfolio" = some head ∧ head.generation = 1 := by
  intro _
  obtain ⟨c, s, hc, hs, hrounds, _⟩ := exists_createdRun
  obtain ⟨t, ht, hg⟩ := exists_round hrounds.going (by decide : Guard.UniqueNonempty ["canonical"])
  have hf : s.Fresh t.checkpoint :=
    hrounds.fresh tellsRounds_byRound (by decide) <|
      ht.precedes.binds.generation.trans ht.precedes.generation
  obtain ⟨head, s', hrun, hcommits⟩ := commit_run hrounds.consistent hrounds.holds ht.precedes hf
  have hcall : (PortfolioClient.call (.commit enterState.portfolioId enterState.digest t.newState
      t.checkpoint)).run s = (.ok (.head head), s') := Program.bind_run_ok.mpr ⟨head, s', hrun, rfl⟩
  obtain ⟨c', _, hc', hs', _⟩ := Protocol.exists_performed hc hs hcall
  refine ⟨c', portfolioHeadRow t.newState (some t.checkpoint), portfolioHistory hc', ?_,
    ht.precedes.generation⟩
  rw [hs', ← hg.portfolioId]
  exact hcommits.holds.head

end Rounds

end GeneralExecution
