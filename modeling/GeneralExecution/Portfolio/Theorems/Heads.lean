import GeneralExecution.Portfolio.Theorems.Snapshots

namespace GeneralExecution

namespace Portfolios

section Advances

variable {s s₁ s₂ s₃ : Portfolios} {id : String} {n : Nat} {row : PortfolioCheckpointRow}

-- A head stays as it is or moves to a later generation, and nothing else is taken back.
structure Advances (s s' : Portfolios) : Prop where
  heads : ∀ id row, s.head? id = some row →
    ∃ row', s'.head? id = some row' ∧ (row' = row ∨ row.generation < row'.generation)
  checkpoints : ∀ id n row, s.checkpoint? id n = some row → s'.checkpoint? id n = some row
  bindings    : ∀ identity row, s.binding? identity = some row → s'.binding? identity = some row

theorem Advances.refl : s.Advances s where
  heads _ row h     := ⟨row, h, .inl rfl⟩
  checkpoints _ _ _ := id
  bindings _ _      := id

theorem Advances.trans (h : s₁.Advances s₂) (h' : s₂.Advances s₃) : s₁.Advances s₃ where
  heads id row hr := by
    have ⟨row₂, hr₂, h₂⟩ := h.heads id row hr
    have ⟨row₃, hr₃, h₃⟩ := h'.heads id row₂ hr₂
    refine ⟨row₃, hr₃, ?_⟩
    rcases h₂ with rfl | h₂ <;> rcases h₃ with rfl | h₃
    · exact .inl rfl
    · exact .inr h₃
    · exact .inr h₂
    · exact .inr (h₂.trans h₃)
  checkpoints id n row hr     := h'.checkpoints id n row (h.checkpoints id n row hr)
  bindings identity row hr := h'.bindings identity row (h.bindings identity row hr)

theorem checkpoint?_eq_some :
    s.checkpoint? id n = some row ↔
      row ∈ s.checkpoints.rows ∧ row.portfolioId = id ∧ row.generation = n := by
  rw [checkpoint?, Table.select_eq_some (by simp)]
  simp [PortfolioCheckpointRow.primaryKey]

-- A digest is that of one checkpoint only.
theorem checkpoint?_eq_of_digest {id' : String} {n' : Nat} {row' : PortfolioCheckpointRow}
    (h : s.checkpoint? id n = some row) (h' : s.checkpoint? id' n' = some row')
    (hd : row.checkpointDigest = row'.checkpointDigest) : row = row' := by
  have hm := (checkpoint?_eq_some.mp h).left
  have hm' := (checkpoint?_eq_some.mp h').left
  have hu : PortfolioCheckpointRow.uniqueDigest ∈ [PortfolioCheckpointRow.primaryKey,
      PortfolioCheckpointRow.uniqueId, PortfolioCheckpointRow.uniqueDigest] := by simp
  exact List.inj_on_of_nodup_map (s.checkpoints.unique _ hu) hm hm' <| congrArg Sum.inl hd

end Advances

variable [Sha256] {s s' : Portfolios} {state state' cur new : PortfolioState}
variable {latest latest' : Option ExecutionCheckpoint} {cp : ExecutionCheckpoint}
variable {row : PortfolioCheckpointRow} {id : String} {n : Nat}

-- The head of a portfolio is in this state, with the checkpoint of its generation.
structure Holds (s : Portfolios) (state : PortfolioState) (latest : Option ExecutionCheckpoint) :
    Prop where
  head       : s.head? state.portfolioId = some (portfolioHeadRow state latest)
  checkpoint : s.checkpoint? state.portfolioId state.generation = latest.map portfolioCheckpointRow
  latest     : state.Latest latest

-- Every head holds a state, and there are the checkpoints of exactly the generations up to its own.
structure Consistent (s : Portfolios) : Prop where
  holds : ∀ id row, s.head? id = some row →
    ∃ state latest, state.portfolioId = id ∧ s.Holds state latest
  checkpoints : ∀ row ∈ s.checkpoints.rows, ∃ c, row = portfolioCheckpointRow c
  counted     : ∀ id n, (∃ row, s.checkpoint? id n = some row) ↔
    ∃ row, s.head? id = some row ∧ 1 ≤ n ∧ n ≤ row.generation

-- The head of this portfolio is written, and no other.
def WritesHead (s s' : Portfolios) (state : PortfolioState) (latest : Option ExecutionCheckpoint) :
    Prop :=
  ∀ id, s'.head? id =
    if id = state.portfolioId then some (portfolioHeadRow state latest) else s.head? id

-- What an initialization does that finds no head.
structure Creates (s s' : Portfolios) (state : PortfolioState) : Prop where
  genesis     : state.generation = 0
  fresh       : s.head? state.portfolioId = none
  writes      : s.WritesHead s' state none
  checkpoints : s'.checkpoints = s.checkpoints
  bindings    : s'.triggerBindings = s.triggerBindings

-- What an accepted commit does.
structure Commits (s s' : Portfolios) (cur : PortfolioState) (latest : Option ExecutionCheckpoint)
    (new : PortfolioState) (cp : ExecutionCheckpoint) : Prop where
  current     : s.Holds cur latest
  portfolioId : new.portfolioId = cur.portfolioId
  generation  : new.generation = cur.generation + 1
  previous    : new.previousStateDigest = some cur.digest
  binds       : cp.Binds new
  inserts     : s.checkpoints.insert? (portfolioCheckpointRow cp) = some s'.checkpoints
  writes      : s.WritesHead s' new (some cp)
  bindings    : s'.triggerBindings = s.triggerBindings

namespace Holds

theorem unique (h : s.Holds state latest) (h' : s.Holds state' latest')
    (hp : state.portfolioId = state'.portfolioId) : state = state' ∧ latest = latest' := by
  have hr := h.head
  rw [hp, h'.head, Option.some.injEq] at hr
  obtain rfl := (serializePortfolioSnapshot_inj <| congrArg PortfolioHeadRow.snapshotJson hr).symm
  have hc := h.checkpoint.symm.trans h'.checkpoint
  exact ⟨rfl, Option.map_injective (fun _ _ => portfolioCheckpointRow_inj) hc⟩

-- A head that has not moved holds what it has held.
theorem eq_or_lt (hs : s.Holds state latest) (hs' : s'.Holds state' latest') (h : s.Advances s')
    (hp : state.portfolioId = state'.portfolioId) :
    state = state' ∧ latest = latest' ∨ state.generation < state'.generation := by
  have ⟨row, hr, hg⟩ := h.heads _ _ hs.head
  rw [hp, hs'.head, Option.some.injEq] at hr
  subst hr
  rcases hg with hg | hg
  · obtain rfl := (serializePortfolioSnapshot_inj <| congrArg PortfolioHeadRow.snapshotJson hg).symm
    refine .inl ⟨rfl, ?_⟩
    cases latest
    case none =>
      have hz := hs'.latest.absent.mpr (hs.latest.absent.mp rfl)
      exact (Option.isNone_iff_eq_none.mp hz).symm
    case some c =>
      have hc := h.checkpoints _ _ _ hs.checkpoint
      rw [hs'.checkpoint] at hc
      exact (Option.map_injective (fun _ _ => portfolioCheckpointRow_inj) hc).symm
  · exact .inr hg

-- The head holds what it has held when its row and the checkpoints of its portfolio are the same.
theorem congr (h : s.Holds state latest)
    (hh : s'.head? state.portfolioId = s.head? state.portfolioId)
    (hc : s'.checkpoint? state.portfolioId state.generation =
      s.checkpoint? state.portfolioId state.generation) : s'.Holds state latest where
  head       := hh.trans h.head
  checkpoint := hc.trans h.checkpoint
  latest     := h.latest

end Holds

namespace Consistent

theorem holds_of_checkpoint (hs : s.Consistent) (h : s.checkpoint? id n = some row) :
    ∃ c, row = portfolioCheckpointRow c ∧ c.portfolioId = id ∧ c.portfolioGeneration = n := by
  have ⟨hm, hi, hg⟩ := checkpoint?_eq_some.mp h
  have ⟨c, hc⟩ := hs.checkpoints row hm
  subst hc
  exact ⟨c, rfl, hi, hg⟩

theorem checkpoint_of_holds (hs : s.Consistent) (h : s.Holds state latest) :
    (∃ row, s.checkpoint? state.portfolioId n = some row) ↔ 1 ≤ n ∧ n ≤ state.generation := by
  rw [hs.counted, h.head]
  simp [portfolioHeadRow]

end Consistent

namespace Creates

theorem holds (hs : s.Consistent) (h : s.Creates s' state) : s'.Holds state none where
  head       := by rw [h.writes, if_pos rfl]
  checkpoint := by
    rw [checkpoint?, h.checkpoints, ← checkpoint?, Option.map_none, ← Option.not_isSome_iff_eq_none,
      Option.isSome_iff_exists, hs.counted]
    simp [h.fresh]
  latest     := ⟨by simp [h.genesis], by simp⟩

theorem advances (h : s.Creates s' state) : s.Advances s' where
  heads id row hr := by
    refine ⟨row, ?_, .inl rfl⟩
    rw [h.writes, if_neg fun hi => ?_, hr]
    rw [hi, h.fresh] at hr
    contradiction
  checkpoints id n row hr := by rw [checkpoint?, h.checkpoints, ← checkpoint?, hr]
  bindings identity row hr := by rw [binding?, h.bindings, ← binding?, hr]

theorem consistent (hs : s.Consistent) (h : s.Creates s' state) : s'.Consistent where
  holds id row hr := by
    by_cases hi : id = state.portfolioId
    case pos => exact ⟨state, none, hi.symm, h.holds hs⟩
    case neg =>
      rw [h.writes, if_neg hi] at hr
      have ⟨state', latest, hp, hh⟩ := hs.holds id row hr
      refine ⟨state', latest, hp, hh.congr ?_ ?_⟩
      · rw [h.writes, if_neg (hp ▸ hi)]
      · rw [checkpoint?, h.checkpoints, ← checkpoint?]
  checkpoints := h.checkpoints ▸ hs.checkpoints
  counted id n := by
    rw [checkpoint?, h.checkpoints, ← checkpoint?, hs.counted, h.writes]
    by_cases hi : id = state.portfolioId
    case pos =>
      subst hi
      simp only [h.fresh, if_true, reduceCtorEq, false_and, exists_false, Option.some.injEq,
        exists_eq_left', false_iff, portfolioHeadRow, h.genesis]
      omega
    case neg => rw [if_neg hi]

-- No head but the new one has moved.
theorem holds_cases (hs : s.Consistent) (h : s.Creates s' state) (hh : s'.Holds cur latest) :
    cur = state ∧ latest = none ∨ s.Holds cur latest := by
  by_cases hi : cur.portfolioId = state.portfolioId
  case pos => exact .inl <| hh.unique (h.holds hs) hi
  case neg =>
    refine .inr <| hh.congr ?_ ?_
    · rw [h.writes, if_neg hi]
    · rw [checkpoint?, checkpoint?, h.checkpoints]

end Creates

namespace Commits

theorem checkpoint (h : s.Commits s' cur latest new cp) :
    s'.checkpoint? id n =
      if id = new.portfolioId ∧ n = new.generation then some (portfolioCheckpointRow cp)
      else s.checkpoint? id n := by
  rw [checkpoint?, Table.select_insert h.inserts (by simp), ← checkpoint?]
  simp [PortfolioCheckpointRow.primaryKey, portfolioCheckpointRow, h.binds.portfolioId,
    h.binds.generation, eq_comm]

theorem holds (h : s.Commits s' cur latest new cp) : s'.Holds new (some cp) where
  head       := by rw [h.writes, if_pos rfl]
  checkpoint := by rw [h.checkpoint, if_pos ⟨rfl, rfl⟩, Option.map_some]
  latest     := ⟨by simp [h.generation], by simpa using h.binds⟩

-- No checkpoint that has been there has the digest of the new one.
theorem fresh (h : s.Commits s' cur latest new cp) (hr : row ∈ s.checkpoints.rows) :
    row.checkpointDigest ≠ cp.digest := by
  have hn := (Table.insert?_eq_some.mp h.inserts).left PortfolioCheckpointRow.uniqueDigest (by simp)
  exact fun hd => Table.select_eq_none.mp hn row hr <| congrArg Sum.inl hd

theorem advances (hs : s.Consistent) (h : s.Commits s' cur latest new cp) : s.Advances s' where
  heads id row hr := by
    by_cases hi : id = new.portfolioId
    case pos =>
      have hc := h.current.head
      rw [← h.portfolioId, ← hi, hr, Option.some.injEq] at hc
      refine ⟨_, by rw [h.writes, if_pos hi], .inr ?_⟩
      simp [hc, portfolioHeadRow, h.generation]
    case neg => exact ⟨row, by rw [h.writes, if_neg hi, hr], .inl rfl⟩
  checkpoints id n row hr := by
    rw [h.checkpoint, if_neg, hr]
    rintro ⟨rfl, rfl⟩
    rw [h.portfolioId] at hr
    obtain ⟨_, hn⟩ := (hs.checkpoint_of_holds h.current).mp ⟨row, hr⟩
    have := h.generation
    omega
  bindings identity row hr := by rw [binding?, h.bindings, ← binding?, hr]

theorem consistent (hs : s.Consistent) (h : s.Commits s' cur latest new cp) : s'.Consistent where
  holds id row hr := by
    by_cases hi : id = new.portfolioId
    case pos => exact ⟨new, some cp, hi.symm, h.holds⟩
    case neg =>
      rw [h.writes, if_neg hi] at hr
      have ⟨state', latest, hp, hh⟩ := hs.holds id row hr
      refine ⟨state', latest, hp, hh.congr ?_ ?_⟩
      · rw [h.writes, if_neg (hp ▸ hi)]
      · rw [h.checkpoint, if_neg fun hn => hi <| hp ▸ hn.left]
  checkpoints row hr := by
    rw [(Table.insert?_eq_some.mp h.inserts).right, List.mem_append, List.mem_singleton] at hr
    rcases hr with hr | rfl
    · exact hs.checkpoints row hr
    · exact ⟨cp, rfl⟩
  counted id n := by
    rw [h.checkpoint, h.writes]
    by_cases hi : id = new.portfolioId
    case pos =>
      have hc := hs.checkpoint_of_holds (n := n) h.current
      rw [← h.portfolioId, ← hi] at hc
      by_cases hn : n = new.generation
      case pos => simp [hi, hn, portfolioHeadRow, h.generation]
      case neg =>
        rw [if_neg fun h => hn h.right, if_pos hi, hc]
        simp only [Option.some.injEq, exists_eq_left', portfolioHeadRow]
        have := h.generation
        omega
    case neg => simp only [hi, false_and, if_false, hs.counted]

theorem holds_cases (h : s.Commits s' cur latest new cp) (hh : s'.Holds state latest') :
    state = new ∧ latest' = some cp ∨ s.Holds state latest' := by
  by_cases hi : state.portfolioId = new.portfolioId
  case pos => exact .inl <| hh.unique h.holds hi
  case neg =>
    refine .inr <| hh.congr ?_ ?_
    · rw [h.writes, if_neg hi]
    · rw [h.checkpoint, if_neg fun hn => hi hn.left]

end Commits

theorem empty_consistent : Portfolios.empty.Consistent where
  holds _ _ h       := nomatch h
  checkpoints _ h   := nomatch h
  counted _ _       := ⟨fun ⟨_, h⟩ => (nomatch h), fun ⟨_, h, _⟩ => (nomatch h)⟩

end Portfolios

end GeneralExecution
