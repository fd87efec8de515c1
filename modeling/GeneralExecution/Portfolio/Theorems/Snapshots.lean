import GeneralExecution.Portfolio.Persistence

namespace GeneralExecution

@[simp]
theorem isObj_normalize (kvs : PyDict) : (normalize (.dict kvs)).isObj = true :=
  rfl

-- What is written is read back.
@[simp]
theorem blockerFromDict_normalize (b : PortfolioBlocker) :
    blockerFromDict (normalize (toPy b)) = .ok b := by
  have hd : distinctKeys (asdict b) = true := rfl
  change blockerFromDict (normalize (.dict (asdict b))) = _
  simp only [blockerFromDict, Typed.exactFields, Py.require, Except.ensure, Field.get,
    isObj_normalize, normalize_get? hd, List.subset_def, mem_normalize_keys]
  simp [asdict, Json.lookup, PortfolioBlocker.new_eq b]

@[simp]
theorem wakeFromDict_normalize (w : WakeCondition) :
    wakeFromDict (normalize (toPy w)) = .ok w := by
  have hd : distinctKeys (asdict w) = true := rfl
  change wakeFromDict (normalize (.dict (asdict w))) = _
  simp only [wakeFromDict, Typed.exactFields, Py.require, Except.ensure, Field.get,
    isObj_normalize, normalize_get? hd, List.subset_def, mem_normalize_keys]
  simp [asdict, Json.lookup, WakeCondition.new_eq w]

@[simp]
theorem Read.wakeCondition_normalize (o : Option WakeCondition) :
    Read.wakeCondition (normalize (toPy o)) = .ok o := by
  cases o
  case none   => rfl
  case some w =>
    change (do return some (← wakeFromDict (normalize (toPy w)))) = _
    rw [wakeFromDict_normalize]
    rfl

@[simp]
theorem entryFromDict_normalize (e : PortfolioEntry) :
    entryFromDict (normalize (toPy e)) = .ok e := by
  have hd : distinctKeys (asdict e) = true := rfl
  have hb : Typed.list .portfolioStateError "blockers must be a list" blockerFromDict
      (normalize (toPy e.blockers)) = .ok e.blockers :=
    Typed.list_normalize fun b _ => blockerFromDict_normalize b
  change entryFromDict (normalize (.dict (asdict e))) = _
  simp only [entryFromDict, Typed.exactFields, Py.require, Except.ensure, Field.get,
    isObj_normalize, normalize_get? hd, List.subset_def, mem_normalize_keys]
  simp [asdict, Json.lookup, hb, PortfolioEntry.new_eq e]

@[simp]
theorem portfolioStateFromDict_normalize (s : PortfolioState) :
    portfolioStateFromDict (normalize (toPy s)) = .ok s := by
  have hd : distinctKeys (asdict s) = true := rfl
  have hp : Typed.list .portfolioStateError "passive must be a list" entryFromDict
      (normalize (toPy s.passive)) = .ok s.passive :=
    Typed.list_normalize fun e _ => entryFromDict_normalize e
  change portfolioStateFromDict (normalize (.dict (asdict s))) = _
  simp only [portfolioStateFromDict, Typed.exactFields, Py.require, Except.ensure, Field.get,
    isObj_normalize, normalize_get? hd, List.subset_def, mem_normalize_keys]
  simp [asdict, Json.lookup, hp, PortfolioState.new_eq s]

@[simp]
theorem evidenceFromDict_normalize (e : CheckpointEvidence) :
    evidenceFromDict (normalize (toPy e)) = .ok e := by
  have hd : distinctKeys (asdict e) = true := rfl
  change evidenceFromDict (normalize (.dict (asdict e))) = _
  simp only [evidenceFromDict, evidenceOfFields, Typed.exactFields, Py.require, Except.ensure,
    Field.get, isObj_normalize, normalize_get? hd, List.subset_def, mem_normalize_keys]
  simp [asdict, Json.lookup, CheckpointEvidence.new_eq e]

@[simp]
theorem checkpointFromDict_normalize (c : ExecutionCheckpoint) :
    checkpointFromDict (normalize (toPy c)) = .ok c := by
  have hd : distinctKeys (asdict c) = true := rfl
  have he : Typed.list .executionCheckpointError "evidence must be a list" evidenceFromDict
      (normalize (toPy c.evidence)) = .ok c.evidence :=
    Typed.list_normalize fun e _ => evidenceFromDict_normalize e
  change checkpointFromDict (normalize (.dict (asdict c))) = _
  simp only [checkpointFromDict, Typed.exactFields, Py.require, Except.ensure, Field.get,
    isObj_normalize, normalize_get? hd, List.subset_def, mem_normalize_keys]
  simp [asdict, Json.lookup, he, ExecutionCheckpoint.new_eq c]

@[simp]
theorem deserializeCheckpoint_serialize (c : ExecutionCheckpoint) :
    deserializeCheckpoint (serializeCheckpoint c) = .ok c := by
  simp [deserializeCheckpoint, serializeCheckpoint, Py.ofOption, Except.ofOption]

section Rows

variable [Sha256]

def portfolioSnapshotDigest (state : PortfolioState) : String :=
  sha256Digest (.dict (portfolioSnapshotPayload state))

@[simp]
theorem deserializePortfolioSnapshot_serialize (state : PortfolioState) :
    deserializePortfolioSnapshot (serializePortfolioSnapshot state) =
      .ok (state, portfolioSnapshotDigest state) := by
  have hd : distinctKeys (portfolioSnapshot state) = true := rfl
  have he : sha256Digest (ofJson ((normalize (.dict (portfolioSnapshot state))).erase
      "snapshot_digest")) = portfolioSnapshotDigest state := by
    rw [normalize_erase hd, sha256Digest_ofJson_normalize]
    rfl
  have hs : normalize (portfolioStateToDict state) = normalize (toPy state) :=
    normalize_ofJson_normalize _
  have ho : (normalize (toPy state)).isObj = true := rfl
  have hn (v : PyValue) : ∀ x ∈ [("snapshot_digest", sha256Digest v)], IsSha256 x.2 := by
    simp [isSha256_sha256Digest]
  have hn' (v : PyValue) : ∀ x ∈ [("state_digest", sha256Digest v)], IsSha256 x.2 := by
    simp [isSha256_sha256Digest]
  simp only [deserializePortfolioSnapshot, serializePortfolioSnapshot, loads_canonicalJson,
    Py.ofOption, Except.ofOption, Except.ok_bind, Typed.exactFields, isObj_normalize,
    List.subset_def, mem_normalize_keys, he, Py.require, Except.ensure, Field.hasSchema, Field.get,
    normalize_get? hd]
  simp [portfolioSnapshot, portfolioSnapshotPayload, Json.lookup, hs]
  refine ⟨⟨isSha256_sha256Digest _, Guard.sha256_of (hn _)⟩, rfl, normalize (toPy state), ?_, ?_,
    ⟨isSha256_sha256Digest _, Guard.sha256_of (hn' _)⟩, rfl⟩
  · simp [Option.filter, ho]
  · exact portfolioStateFromDict_normalize state

omit [Sha256] in
@[simp]
theorem roundTripCheckpoint_eq (c : ExecutionCheckpoint) :
    PortfolioHeadStore.roundTripCheckpoint c = .ok (serializeCheckpoint c) := by
  simp [PortfolioHeadStore.roundTripCheckpoint, Py.wrap, Py.require, Except.ensure]

-- The checkpoint binds the state that is committed with it.
structure ExecutionCheckpoint.Binds (c : ExecutionCheckpoint) (state : PortfolioState) : Prop where
  portfolioId : c.portfolioId = state.portfolioId
  generation  : c.portfolioGeneration = state.generation
  stateDigest : c.portfolioStateDigest = state.digest

-- The checkpoint that a head in this state has, which is none for an initialized one.
structure PortfolioState.Latest (state : PortfolioState) (latest : Option ExecutionCheckpoint) :
    Prop where
  absent : latest.isNone ↔ state.generation = 0
  binds  : ∀ c ∈ latest, c.Binds state

-- The rows that a commit writes.
def portfolioHeadRow (state : PortfolioState) (latest : Option ExecutionCheckpoint) :
    PortfolioHeadRow where
  portfolioId            := state.portfolioId
  stateDigest            := state.digest
  generation             := state.generation
  snapshotDigest         := portfolioSnapshotDigest state
  snapshotJson           := serializePortfolioSnapshot state
  latestCheckpointDigest := latest.map ExecutionCheckpoint.digest

def portfolioCheckpointRow (c : ExecutionCheckpoint) : PortfolioCheckpointRow where
  portfolioId      := c.portfolioId
  generation       := c.portfolioGeneration
  checkpointId     := c.checkpointId
  checkpointDigest := c.digest
  checkpointJson   := serializeCheckpoint c

variable {state : PortfolioState} {latest : Option ExecutionCheckpoint}

theorem serializePortfolioSnapshot_inj {state' : PortfolioState}
    (h : serializePortfolioSnapshot state = serializePortfolioSnapshot state') : state = state' := by
  have hd := deserializePortfolioSnapshot_serialize state
  rw [h, deserializePortfolioSnapshot_serialize, Except.ok.injEq, Prod.mk.injEq] at hd
  exact hd.left.symm

theorem portfolioCheckpointRow_inj {c c' : ExecutionCheckpoint}
    (h : portfolioCheckpointRow c = portfolioCheckpointRow c') : c = c' := by
  have hd := deserializeCheckpoint_serialize c
  rw [show serializeCheckpoint c = serializeCheckpoint c' from
    congrArg PortfolioCheckpointRow.checkpointJson h, deserializeCheckpoint_serialize] at hd
  exact (Except.ok.inj hd).symm

@[simp]
theorem decodeCheckpointRow_row (c : ExecutionCheckpoint) :
    decodeCheckpointRow (portfolioCheckpointRow c) = .ok c := by
  simp [decodeCheckpointRow, portfolioCheckpointRow, Py.wrap, Py.require, Except.ensure]

theorem PortfolioState.isSha256_digests (state : PortfolioState) :
    ∀ x ∈ [("state_digest", state.digest), ("snapshot_digest", portfolioSnapshotDigest state)],
      IsSha256 x.2 := by
  simp [PortfolioState.digest, portfolioSnapshotDigest, isSha256_sha256Digest]

theorem optionalSha256_latest (latest : Option ExecutionCheckpoint) :
    ∀ x ∈ [("latest_checkpoint_digest", latest.map ExecutionCheckpoint.digest)],
      Guard.OptionalSha256 x.2 := by
  simp [Guard.OptionalSha256, ExecutionCheckpoint.digest, isSha256_sha256Digest]

-- What is loaded of a head in this state, and what a recovery reports of it.
def durablePortfolioHead (h : state.Latest latest) : DurablePortfolioHead where
  portfolioId            := state.portfolioId
  generation             := state.generation
  stateDigest            := state.digest
  snapshotDigest         := portfolioSnapshotDigest state
  latestCheckpointDigest := latest.map ExecutionCheckpoint.digest
  nonempty               := state.nonempty
  isSha256               := state.isSha256_digests
  optional               := optionalSha256_latest latest
  checkpoint             := by simpa using h.absent

def portfolioRecoveryReport (h : state.Latest latest) : PortfolioRecoveryReport where
  portfolioId            := state.portfolioId
  generation             := state.generation
  stateDigest            := state.digest
  snapshotDigest         := portfolioSnapshotDigest state
  latestCheckpointDigest := latest.map ExecutionCheckpoint.digest
  checkpointPresent      := latest.isSome
  nonempty               := state.nonempty
  isSha256               := state.isSha256_digests
  optional               := optionalSha256_latest latest
  fabricated             := unset₂
  checkpoint             := by simpa using h.absent

theorem portfolioHead_eq (h : state.Latest latest) :
    portfolioHead state (portfolioSnapshotDigest state) (latest.map ExecutionCheckpoint.digest) =
      .ok (durablePortfolioHead h) := by
  have hc : (latest.map ExecutionCheckpoint.digest).isNone ↔ state.generation = 0 := by
    simpa using h.absent
  simp only [portfolioHead, DurablePortfolioHead.new, Guard.nonempty_of state.nonempty,
    Guard.sha256_of state.isSha256_digests, Guard.optionalSha256_of (optionalSha256_latest latest),
    Py.check_of hc, Except.ok_bind]
  rfl

theorem portfolioRecoveryReport_eq (h : state.Latest latest) :
    PortfolioRecoveryReport.new state.portfolioId state.generation state.digest
      (portfolioSnapshotDigest state) (latest.map ExecutionCheckpoint.digest) latest.isSome =
        .ok (portfolioRecoveryReport h) := by
  have hc : latest.isSome = false ↔ state.generation = 0 := by simpa using h.absent
  simp only [PortfolioRecoveryReport.new, Guard.nonempty_of state.nonempty,
    Guard.sha256_of state.isSha256_digests, Guard.optionalSha256_of (optionalSha256_latest latest),
    Py.check_of hc, Except.ok_bind]
  rfl

theorem decodePortfolioRow_row (h : state.Latest latest) :
    decodePortfolioRow (portfolioHeadRow state latest) state.portfolioId =
      .ok (state, durablePortfolioHead h) := by
  simp [decodePortfolioRow, portfolioHeadRow, portfolioHead_eq h, Py.require, Except.ensure]

-- The head and its checkpoint are recovered from their rows.
theorem decodeRecoveryRow_rows (h : state.Latest latest) :
    PortfolioHeadStore.decodeRecoveryRow state.portfolioId (portfolioHeadRow state latest)
      (latest.map portfolioCheckpointRow) = .ok (state, durablePortfolioHead h, latest) := by
  simp only [PortfolioHeadStore.decodeRecoveryRow, decodePortfolioRow_row h, Except.ok_bind]
  cases latest
  case none =>
    have hz : state.generation = 0 := h.absent.mp rfl
    simp [hz, durablePortfolioHead, Py.require, Except.ensure]
  case some c =>
    have hz : state.generation ≠ 0 := fun hz => by cases h.absent.mpr hz
    obtain ⟨h₁, h₂, h₃⟩ := h.binds c rfl
    simp [hz, h₁, h₂, h₃, durablePortfolioHead, Py.ofOption, Except.ofOption, Py.require,
      Except.ensure]

theorem verifyPortfolioRecovery_rows (h : state.Latest latest) :
    verifyPortfolioRecovery state (durablePortfolioHead h) latest (portfolioRecoveryReport h) =
      true := by
  cases latest
  case none =>
    have hz : state.generation = 0 := h.absent.mp rfl
    simp [verifyPortfolioRecovery, durablePortfolioHead, portfolioRecoveryReport, hz]
  case some c =>
    have hz : state.generation ≠ 0 := fun hz => by cases h.absent.mpr hz
    have ⟨h₁, h₂, h₃⟩ := h.binds c rfl
    simp [verifyPortfolioRecovery, durablePortfolioHead, portfolioRecoveryReport, hz, h₁, h₂, h₃]

end Rows

end GeneralExecution
