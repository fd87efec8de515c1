import GeneralExecution.Portfolio.Theorems.Heads

namespace GeneralExecution

open Portfolios

variable [Sha256] {s s' : Portfolios} {state cur new : PortfolioState}
variable {latest : Option ExecutionCheckpoint} {cp : ExecutionCheckpoint}
variable {portfolioId expected digest : String} {answer : Option DurablePortfolioHead}

-- What an accepted initialization does.
def Portfolios.Initializes (s s' : Portfolios) (state : PortfolioState) : Prop :=
  s.Holds state none ∧ s' = s ∨ s.Creates s' state

theorem Portfolios.Consistent.decode {row : PortfolioHeadRow} (hs : s.Consistent)
    (hr : s.head? portfolioId = some row) :
    ∃ state latest, ∃ h : s.Holds state latest, state.portfolioId = portfolioId ∧
      row = portfolioHeadRow state latest ∧
      decodePortfolioRow row portfolioId = .ok (state, durablePortfolioHead h.latest) := by
  have ⟨state, latest, hp, hh⟩ := hs.holds _ row hr
  have hd := hh.head
  rw [hp, hr, Option.some.injEq] at hd
  exact ⟨state, latest, hh, hp, hd, by rw [hd, ← hp, decodePortfolioRow_row hh.latest]⟩

namespace PortfolioHeadStore

theorem initializeStatements_eq_ok (hs : s.Consistent) (hg : state.generation = 0)
    (h : initializeStatements state (portfolioSnapshotDigest state) s = .ok (answer, s')) :
    s.Initializes s' state ∧ (answer = none → s.Creates s' state) ∧
      ∀ head, answer = some head → head.generation = 0 := by
  simp only [initializeStatements, Statements.bind_eq_ok, Statements.get_eq_ok] at h
  obtain ⟨_, _, ⟨rfl, rfl⟩, h⟩ := h
  cases hr : s.head? state.portfolioId
  case none =>
    simp only [hr, Statements.bind_eq_ok, Statements.lift_eq_ok, Py.ofOption_eq_ok,
      Statements.set_eq_ok, Statements.pure_eq_ok] at h
    obtain ⟨heads, _, ⟨hi, rfl⟩, _, _, rfl, rfl, rfl⟩ := h
    have hc : s.Creates { s with heads := heads } state := {
      genesis     := hg
      fresh       := hr
      writes      := fun id => by
        rw [head?, Table.select_insert hi (by simp)]
        simp only [eq_comm]
        rfl
      checkpoints := rfl
      bindings    := rfl }
    exact ⟨.inr hc, fun _ => hc, fun _ he => by cases he⟩
  case some row =>
    obtain ⟨state', latest, hh, hp, _, hd⟩ := hs.decode hr
    simp only [hr, hd, Statements.bind_eq_ok, Statements.lift_eq_ok, Except.ok.injEq,
      Py.require_eq_ok, Statements.pure_eq_ok] at h
    obtain ⟨_, _, ⟨rfl, rfl⟩, _, _, ⟨rfl, rfl⟩, rfl, rfl⟩ := h
    obtain rfl := Option.isNone_iff_eq_none.mp <| hh.latest.absent.mpr hg
    refine ⟨.inl ⟨hh, rfl⟩, (fun he => by cases he), fun head he => ?_⟩
    cases Option.some.inj he
    exact hg

theorem commitStatements_eq_ok (hs : s.Consistent) (hn : new.portfolioId = portfolioId)
    (h : commitStatements portfolioId expected new cp s = .ok (digest, s')) :
    digest = portfolioSnapshotDigest new ∧
      ∃ cur latest, s.Commits s' cur latest new cp ∧ cur.digest = expected := by
  simp only [commitStatements, Statements.get_bind_eq_ok, Statements.lift_bind_eq_ok,
    Statements.set_bind_eq_ok, Py.ofOption_eq_ok, Py.require_eq_ok, Statements.pure_eq_ok,
    deserializePortfolioSnapshot_serialize, roundTripCheckpoint_eq, Except.ok.injEq,
    exists_const, exists_eq_left'] at h
  obtain ⟨row, hr, h⟩ := h
  obtain ⟨cur, latest, hh, hp, hrow, hd⟩ := hs.decode hr
  simp only [hd, Except.ok.injEq, exists_eq_left'] at h
  obtain ⟨he, hgen, hprev, hcp, hcg, hcd, checkpoints, hi, _, rfl, rfl⟩ := h
  have hb : cp.Binds new := ⟨hcp.trans hn.symm, hcg, hcd⟩
  refine ⟨rfl, cur, latest, {
    current     := hh
    portfolioId := hn.trans hp.symm
    generation  := hgen
    previous    := hprev
    binds       := hb
    inserts     := by simpa [portfolioCheckpointRow, hcp, hcg] using hi
    writes      := fun id => ?_
    bindings    := rfl }, he⟩
  rw [head?, Table.select_update (by simp), ← head?]
  by_cases hid : id = new.portfolioId
  case pos =>
    simp [hid, hn, hr, hrow, portfolioHeadRow, hp, he]
  case neg =>
    rw [if_neg hid]
    cases hr' : s.head? id
    case none      => rfl
    case some row' =>
      have hne : row'.portfolioId ≠ portfolioId := by
        obtain ⟨state', latest', _, hp', hrow', _⟩ := hs.decode hr'
        exact fun h => hid <| hp'.symm.trans <| (congrArg _ hrow').symm.trans <| h.trans hn.symm
      simp [hne]

-- A commit to the head that it expects is accepted.
theorem exists_commitStatements (hh : s.Holds cur latest) (hp : new.portfolioId = cur.portfolioId)
    (hg : new.generation = cur.generation + 1) (hd : new.previousStateDigest = some cur.digest)
    (hb : cp.Binds new)
    (hf : ∀ column ∈ [PortfolioCheckpointRow.primaryKey, PortfolioCheckpointRow.uniqueId,
      PortfolioCheckpointRow.uniqueDigest],
        s.checkpoints.select column (column (portfolioCheckpointRow cp)) = none) :
    ∃ s', commitStatements cur.portfolioId cur.digest new cp s =
      .ok (portfolioSnapshotDigest new, s') := by
  have ⟨checkpoints, hi⟩ := Table.insert?_of_fresh hf
  have hrow : portfolioCheckpointRow cp = {
      portfolioId      := cur.portfolioId
      generation       := new.generation
      checkpointId     := cp.checkpointId
      checkpointDigest := cp.digest
      checkpointJson   := serializeCheckpoint cp } := by
    simp [portfolioCheckpointRow, hb.portfolioId, hb.generation, hp]
  rw [hrow] at hi
  have hcount : s.heads.count (fun r => decide (r.portfolioId = cur.portfolioId ∧
      r.stateDigest = cur.digest ∧ r.generation = cur.generation)) = 1 := by
    rw [Table.count_eq_one (c := PortfolioHeadRow.portfolioId) (k := cur.portfolioId) (by simp)
      (by simp +contextual)]
    exact ⟨_, hh.head, by simp [portfolioHeadRow]⟩
  simp only [commitStatements, Statements.get_bind_eq_ok, Statements.lift_bind_eq_ok,
    Statements.set_bind_eq_ok, Py.ofOption_eq_ok, Py.require_eq_ok, Statements.pure_eq_ok,
    deserializePortfolioSnapshot_serialize, roundTripCheckpoint_eq, Except.ok.injEq,
    exists_const, exists_eq_left']
  exact ⟨_, _, hh.head, _, decodePortfolioRow_row hh.latest, rfl, hg, hd, hb.portfolioId.trans hp,
    hb.generation, hb.stateDigest, checkpoints, hi, hcount, trivial, rfl⟩

end PortfolioHeadStore

-- How the calls of the store run among the calls of other clients.
section

variable {D : Discipline Portfolios} {made : List (Portfolios × Portfolios)}

namespace PortfolioHeadStore

theorem initializePortfolio_respects (hinv : ∀ s, D.inv s → s.Consistent)
    {post : List (Portfolios × Portfolios) → Py DurablePortfolioHead → Portfolios → Prop}
    (ho : ∀ s₁ s₂, D.inv s₁ → D.rely s s₁ → s₁.Initializes s₂ state →
      D.inv s₂ ∧ D.guar s₁ s₂ ∧ ∀ s₃ head, D.inv s₃ → D.rely s₂ s₃ → state.generation = 0 →
        head.generation = 0 → post (made ++ [(s₁, s₂)]) (.ok head) s₃)
    (he : ∀ made' e s₁, Quiet made made' → D.inv s₁ → D.rely s s₁ → post made' (.error e) s₁) :
    (initializePortfolio state).Respects D post made s := by
  refine .lift_bind (fun _ hg => ?_) fun e s₁ _ hi hg => he made e s₁ .refl hi hg
  have ⟨hg, _⟩ := Py.require_eq_ok.mp hg
  refine .lift_bind (fun d hd => ?_) fun e s₁ _ hi hg => he made e s₁ .refl hi hg
  rw [deserializePortfolioSnapshot_serialize, Except.ok.injEq] at hd
  subst hd
  refine .bind <| .transaction (fun s₁ s₂ answer hi hr ht => ?_) fun s₁ s₂ e hi hr _ hi' hr' =>
    he _ e s₂ (.single s₁) hi' (D.trans hr hr')
  have ⟨h, hc, hz⟩ := initializeStatements_eq_ok (hinv s₁ hi) hg ht
  have ⟨h₁, h₂, h₃⟩ := ho s₁ s₂ hi hr h
  refine ⟨h₁, h₂, fun s₃ hi₃ hr₃ => ?_⟩
  cases answer
  case some head => exact fun s₄ hi₄ hr₄ => h₃ s₄ head hi₄ (D.trans hr₃ hr₄) hg (hz head rfl)
  case none =>
    refine Program.Respects.lift fun s₄ hi₄ hr₄ => ?_
    have hl : state.Latest none := ((hc rfl).holds (hinv s₁ hi)).latest
    have hh := portfolioHead_eq hl
    rw [Option.map_none] at hh
    exact hh ▸ h₃ s₄ _ hi₄ (D.trans hr₃ hr₄) hg hg

theorem commit_respects (hinv : ∀ s, D.inv s → s.Consistent)
    {post : List (Portfolios × Portfolios) → Py DurablePortfolioHead → Portfolios → Prop}
    (ho : ∀ s₁ s₂ cur latest, D.inv s₁ → D.rely s s₁ → s₁.Commits s₂ cur latest new cp →
      cur.digest = expected → D.inv s₂ ∧ D.guar s₁ s₂ ∧ ∀ s₃ head, D.inv s₃ → D.rely s₂ s₃ →
        post (made ++ [(s₁, s₂)]) (.ok head) s₃)
    (he : ∀ made' e s₁, Quiet made made' → D.inv s₁ → D.rely s s₁ → post made' (.error e) s₁) :
    (commit portfolioId expected new cp).Respects D post made s := by
  refine .lift_bind (fun _ _ => ?_) fun e s₁ _ hi hg => he made e s₁ .refl hi hg
  refine .lift_bind (fun _ _ => ?_) fun e s₁ _ hi hg => he made e s₁ .refl hi hg
  refine .lift_bind (fun _ hn => ?_) fun e s₁ _ hi hg => he made e s₁ .refl hi hg
  replace hn := Py.require_eq_ok.mp hn
  refine .bind <| .transaction (fun s₁ s₂ digest hi hr ht => ?_) fun s₁ s₂ e hi hr _ hi' hr' =>
    he _ e s₂ (.single s₁) hi' (D.trans hr hr')
  have ⟨hd, cur, latest, hc, hx⟩ := commitStatements_eq_ok (hinv s₁ hi) hn ht
  have ⟨h₁, h₂, h₃⟩ := ho s₁ s₂ cur latest hi hr hc hx
  refine ⟨h₁, h₂, fun s₃ hi₃ hr₃ => Program.Respects.lift fun s₄ hi₄ hr₄ => ?_⟩
  have hh := portfolioHead_eq hc.holds.latest
  rw [Option.map_some] at hh
  exact hd ▸ hh ▸ h₃ s₄ _ hi₄ (D.trans hr₃ hr₄)

-- A portfolio that has a head is loaded, whatever the other clients do.
theorem loadRecoverySnapshot_respects (hinv : ∀ s, D.inv s → s.Consistent)
    {post : List (Portfolios × Portfolios) →
      Py (PortfolioState × DurablePortfolioHead × Option ExecutionCheckpoint) → Portfolios → Prop}
    (ho : ∀ s₁ s₂ state latest, D.inv s₁ → D.rely s s₁ → ∀ h : s₁.Holds state latest,
      state.portfolioId = portfolioId → D.inv s₂ → D.rely s₁ s₂ →
        post (made ++ [(s₁, s₁)]) (.ok (state, durablePortfolioHead h.latest, latest)) s₂)
    (he : ∀ made' e s₁ s₂, Quiet made made' → D.inv s₁ → D.rely s s₁ →
      s₁.head? portfolioId = none → D.inv s₂ → D.rely s₁ s₂ → post made' (.error e) s₂) :
    (loadRecoverySnapshot portfolioId).Respects D post made s := by
  refine .lift_bind (fun _ _ => ?_) fun e s₁ hb hi hg => he made e s₁ s₁ .refl hi hg ?_ hi (D.refl _)
  · refine .bind <| .query fun s₁ s₂ hi hr hi₂ hr₂ => ?_
    cases hh : s₁.head? portfolioId
    case none =>
      simp only [recoveryRow, hh, Option.map_none]
      exact fun s₃ hi₃ hr₃ => he _ _ s₁ s₃ (.single s₁) hi hr hh hi₃ (D.trans hr₂ hr₃)
    case some row =>
      have ⟨state, latest, h, hp, hrow, _⟩ := (hinv s₁ hi).decode hh
      have hc := h.checkpoint
      simp only [recoveryRow, hh, Option.map_some, hrow]
      rw [← hp, show (portfolioHeadRow state latest).generation = state.generation from rfl, hc]
      refine Program.Respects.lift fun s₃ hi₃ hr₃ => ?_
      rw [decodeRecoveryRow_rows h.latest]
      exact ho s₁ s₃ state latest hi hr h hp hi₃ (D.trans hr₂ hr₃)
  · cases hh : s₁.head? portfolioId
    case none     => rfl
    case some row =>
      have ⟨state, _, _, hp, _⟩ := (hinv s₁ hi).decode hh
      rw [← hp, Guard.nonempty_of state.nonempty] at hb
      contradiction

end PortfolioHeadStore

theorem recoverPortfolio_respects (hinv : ∀ s, D.inv s → s.Consistent)
    {post : List (Portfolios × Portfolios) →
      Py (PortfolioState × Option ExecutionCheckpoint × PortfolioRecoveryReport) → Portfolios → Prop}
    (ho : ∀ s₁ s₂ state latest, D.inv s₁ → D.rely s s₁ → ∀ h : s₁.Holds state latest,
      state.portfolioId = portfolioId → D.inv s₂ → D.rely s₁ s₂ →
        post (made ++ [(s₁, s₁)]) (.ok (state, latest, portfolioRecoveryReport h.latest)) s₂)
    (he : ∀ made' e s₁ s₂, Quiet made made' → D.inv s₁ → D.rely s s₁ →
      s₁.head? portfolioId = none → D.inv s₂ → D.rely s₁ s₂ → post made' (.error e) s₂) :
    (recoverPortfolioAfterRestart portfolioId).Respects D post made s := by
  refine .bind <| PortfolioHeadStore.loadRecoverySnapshot_respects hinv
    (fun s₁ s₂ state latest hi hr h hp hi₂ hr₂ => ?_) he
  have hreport : PortfolioRecoveryReport.new state.portfolioId state.generation state.digest
      (durablePortfolioHead h.latest).snapshotDigest
      (durablePortfolioHead h.latest).latestCheckpointDigest latest.isSome = _ :=
    portfolioRecoveryReport_eq h.latest
  simp only [hreport]
  refine .lift_bind (fun report hq => ?_) fun e s₃ hq => by cases hq
  obtain rfl := Except.ok.inj hq
  refine .lift_bind (fun _ _ => ?_) fun e s₃ hq hi₃ hr₃ => ?_
  · exact fun s₃ hi₃ hr₃ => ho s₁ s₃ state latest hi hr h hp hi₃ (D.trans hr₂ hr₃)
  · rw [verifyPortfolioRecovery_rows h.latest] at hq
    cases hq

end

end GeneralExecution
