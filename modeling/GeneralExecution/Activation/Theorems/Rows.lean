import GeneralExecution.Activation.Store

namespace GeneralExecution

-- What is written is read back.
@[simp]
theorem activationIntentFromDict_normalize (i : ExecutorActivationIntent) :
    activationIntentFromDict (normalize (toPy i)) = .ok i := by
  have hd : distinctKeys (asdict i) = true := rfl
  change activationIntentFromDict (normalize (.dict (asdict i))) = _
  simp only [activationIntentFromDict, Py.require, Except.ensure, Field.kwargs, Field.get,
    Field.getD, normalize_get? hd, mem_normalize_keys]
  simp [asdict, Json.lookup, ExecutorActivationIntent.new_eq i]

@[simp]
theorem activationStateOfFields_normalize (s : ExecutorActivationState) :
    activationStateOfFields (normalize (toPy s)) (normalize (toPy s.intent)) = .ok s := by
  have hd : distinctKeys (asdict s) = true := rfl
  change activationStateOfFields (normalize (.dict (asdict s))) _ = _
  simp only [activationStateOfFields, activationIntentFromDict_normalize, Py.require,
    Except.ensure, Field.kwargs, Field.get, Field.getD, normalize_get? hd, mem_normalize_keys]
  simp [asdict, Json.lookup, ExecutorActivationState.new_eq s]

@[simp]
theorem deserializeActivationState_serialize (s : ExecutorActivationState) :
    deserializeActivationState (serializeActivationState s) = .ok s := by
  have hd : distinctKeys (asdict s) = true := rfl
  have ho : (normalize (toPy s.intent)).isObj = true := rfl
  have hi : (normalize (toPy s)).get? "intent" = some (normalize (toPy s.intent)) := by
    change (normalize (.dict (asdict s))).get? _ = _
    rw [normalize_get? hd]
    simp [asdict, Json.lookup]
  have hv : Field.hasSchema (normalize (toPy s)) "ge.executor-activation-state.v1" = true := by
    change Field.hasSchema (normalize (.dict (asdict s))) _ = _
    rw [Field.hasSchema, normalize_get? hd]
    simp [asdict, Json.lookup, s.version]
  have hs : (normalize (toPy s)).isObj = true := rfl
  simp [deserializeActivationState, serializeActivationState, activationStateFromDict, Py.ofOption,
    Except.ofOption, Py.require, Except.ensure, hs, hv, hi, ho, Option.filter, Py.wrap]

-- The revision counts the statuses gone through.
def ActivationStatus.ordinal : ActivationStatus → Nat
  | .prepared          => 0
  | .activationUnknown => 1
  | _                  => 2

theorem ExecutorActivationState.revision_eq (s : ExecutorActivationState) :
    s.revision = s.status.ordinal := by
  have he := s.evidence
  unfold ActivationEvidence at he
  cases h : s.status <;> simp only [h] at he <;> simp [ActivationStatus.ordinal, he.left.left]

theorem ExecutorActivationState.revision_of_previous {s : ExecutorActivationState} {digest : String}
    (h : s.previousStateDigest = some digest) : 1 ≤ s.revision := by
  have he := s.evidence
  unfold ActivationEvidence at he
  cases hs : s.status <;> simp [hs, h] at he <;> simp [he.left]

theorem ActivationStatus.terminal_iff {status : ActivationStatus} :
    status.terminal = true ↔ status.ordinal = 2 := by
  cases status <;> simp [terminal, ordinal]

variable [Sha256] {s s' : ExecutorActivations} {cur state previous next : ExecutorActivationState}
variable {intent : ExecutorActivationIntent} {row : ExecutorActivationRow} {id : String}

-- The row that an initialization writes.
def activationRow (state : ExecutorActivationState) : ExecutorActivationRow where
  dispatchIdentity := state.intent.dispatchIdentity
  activationId     := state.intent.activationId
  stateDigest      := state.digest
  revision         := state.revision
  stateJson        := serializeActivationState state

-- The row of a state. A swap keeps the activation id that the row has been inserted with.
structure ExecutorActivationRow.Keeps (row : ExecutorActivationRow)
    (state : ExecutorActivationState) : Prop where
  dispatchIdentity : row.dispatchIdentity = state.intent.dispatchIdentity
  stateDigest      : row.stateDigest = state.digest
  revision         : row.revision = state.revision
  stateJson        : row.stateJson = serializeActivationState state

theorem keeps_activationRow : (activationRow state).Keeps state :=
  ⟨rfl, rfl, rfl, rfl⟩

@[simp]
theorem decodeActivationRow_row : decodeActivationRow (activationRow state) = .ok state := by
  simp [decodeActivationRow, activationRow, Py.require, Except.ensure]

namespace ExecutorActivations

omit [Sha256] in
theorem row?_dispatchIdentity (h : s.row? id = some row) : row.dispatchIdentity = id :=
  ((Table.select_eq_some (by simp)).mp h).right

-- Every row stores a state.
def Kept (s : ExecutorActivations) : Prop :=
  ∀ id row, s.row? id = some row → ∃ state, row.Keeps state

theorem durable?_of_keeps (hr : s.row? id = some row) (hk : row.Keeps state) :
    s.durable? id = some state := by
  rw [durable?, hr, Option.bind_some, hk.stateJson, deserializeActivationState_serialize]
  rfl

omit [Sha256] in
theorem durable?_eq_none (h : s.row? id = none) : s.durable? id = none := by
  rw [durable?, h, Option.bind_none]

theorem Kept.exists_row (hs : s.Kept) (h : s.durable? id = some state) :
    ∃ row, s.row? id = some row ∧ row.Keeps state := by
  cases hr : s.row? id
  case none => simp [durable?_eq_none hr] at h
  case some row =>
    have ⟨state', hk⟩ := hs id row hr
    obtain rfl : state' = state := Option.some.inj <| (durable?_of_keeps hr hk).symm.trans h
    exact ⟨row, rfl, hk⟩

theorem Kept.row?_of_durable?_eq_none (hs : s.Kept) (h : s.durable? id = none) :
    s.row? id = none := by
  cases hr : s.row? id
  case none => rfl
  case some row =>
    have ⟨state, hk⟩ := hs id row hr
    simp [durable?_of_keeps hr hk] at h

-- The only change from `s` to `s'` is the row of one identity.
def WritesRow (s s' : ExecutorActivations) (row : ExecutorActivationRow) : Prop :=
  ∀ id, s'.row? id = if id = row.dispatchIdentity then some row else s.row? id

namespace WritesRow

theorem kept (h : s.WritesRow s' row) (hs : s.Kept) (hk : row.Keeps state) : s'.Kept := by
  intro id row' hr
  rw [h id] at hr
  split at hr
  case isTrue  => exact ⟨state, Option.some.inj hr ▸ hk⟩
  case isFalse => exact hs id row' hr

theorem durable? (h : s.WritesRow s' row) (hk : row.Keeps state) (id : String) :
    s'.durable? id = if id = state.intent.dispatchIdentity then some state else s.durable? id := by
  have hr := h id
  rw [hk.dispatchIdentity] at hr
  split at hr
  case isTrue hid  => rw [if_pos hid, durable?_of_keeps hr hk]
  case isFalse hid => rw [if_neg hid, ExecutorActivations.durable?, hr, ExecutorActivations.durable?]

end WritesRow

end ExecutorActivations

open ExecutorActivations

namespace ExecutorActivationStore

-- The statements of a new identity insert its row, those of a known one read it.
theorem initializeStatements_eq_ok
    (h : initializeStatements intent s = .ok (state, s')) :
    (∃ row, s.row? intent.dispatchIdentity = some row ∧ decodeActivationRow row = .ok state ∧
        state.intent = intent ∧ s' = s) ∨
      s.row? intent.dispatchIdentity = none ∧ state = initialActivationState intent ∧
        s.WritesRow s' (activationRow state) := by
  simp only [initializeStatements, Statements.get_bind_eq_ok] at h
  cases hr : s.row? intent.dispatchIdentity
  case some row =>
    simp only [hr, Statements.lift_bind_eq_ok, Py.require_eq_ok, Statements.pure_eq_ok] at h
    obtain ⟨existing, hd, _, hi, rfl, rfl⟩ := h
    exact .inl ⟨row, rfl, hd, hi, rfl⟩
  case none =>
    simp only [hr, Statements.lift_bind_eq_ok, Py.ofOption_eq_ok, Statements.set_bind_eq_ok,
      Statements.pure_eq_ok] at h
    obtain ⟨rows, hi, rfl, rfl⟩ := h
    refine .inr ⟨rfl, rfl, fun id => ?_⟩
    rw [row?, Table.select_insert hi (by simp)]
    simp only [eq_comm (b := id)]
    rfl

theorem initializeStatements_of_fresh (hr : s.row? intent.dispatchIdentity = none)
    (ha : s.select ExecutorActivationRow.activationId intent.activationId = none) :
    ∃ s', s.insert? (activationRow (initialActivationState intent)) = some s' ∧
      initializeStatements intent s = .ok (initialActivationState intent, s') := by
  have ⟨s', hi⟩ := Table.insert?_of_fresh (t := s) (r := activationRow (initialActivationState intent))
    (by simpa using ⟨hr, ha⟩)
  refine ⟨s', hi, ?_⟩
  simp only [initializeStatements, Statements.get_bind_eq_ok, hr, Statements.lift_bind_eq_ok,
    Py.ofOption_eq_ok, Statements.set_bind_eq_ok, Statements.pure_eq_ok]
  exact ⟨s', hi, trivial, rfl⟩

-- A swap replaces the row that has the identity, the digest and the revision of `previous`.
theorem swapStatements_eq_ok :
    swapStatements previous next s = .ok (state, s') ↔
      state = next ∧
        (∃ row, s.row? previous.intent.dispatchIdentity = some row ∧ swapped previous row = true) ∧
        s' = s.update (swapped previous) (swappedRow next) (swappedRow_unique next) := by
  have hc : s.count (swapped previous) = 1 ↔
      ∃ row, s.row? previous.intent.dispatchIdentity = some row ∧ swapped previous row = true :=
    Table.count_eq_one (by simp) fun row h => (of_decide_eq_true h).left
  simp only [swapStatements, Statements.get_bind_eq_ok, Statements.set_bind_eq_ok,
    Statements.lift_bind_eq_ok, Py.require_eq_ok, Statements.pure_eq_ok, hc, exists_const]
  constructor
  · rintro ⟨hr, rfl, rfl⟩
    exact ⟨rfl, hr, rfl⟩
  · rintro ⟨rfl, hr, rfl⟩
    exact ⟨hr, rfl, rfl⟩

theorem swapStatements_of_row (hr : s.row? previous.intent.dispatchIdentity = some row)
    (hm : swapped previous row = true) :
    swapStatements previous next s =
      .ok (next, s.update (swapped previous) (swappedRow next) (swappedRow_unique next)) :=
  swapStatements_eq_ok.mpr ⟨rfl, ⟨row, hr, hm⟩, rfl⟩

theorem writesRow_update (hr : s.row? previous.intent.dispatchIdentity = some row)
    (hm : swapped previous row = true) :
    s.WritesRow (s.update (swapped previous) (swappedRow next) (swappedRow_unique next))
      (swappedRow next row) := by
  have hid : row.dispatchIdentity = previous.intent.dispatchIdentity := row?_dispatchIdentity hr
  intro id
  rw [row?, Table.select_update (by simp), ← row?]
  by_cases h : id = previous.intent.dispatchIdentity
  case pos => simp [h, hr, hm, swappedRow, hid]
  case neg =>
    rw [if_neg (by simpa [swappedRow, hid] using h)]
    cases hr' : s.row? id
    case none => rfl
    case some row' =>
      have hne : row'.dispatchIdentity ≠ previous.intent.dispatchIdentity :=
        row?_dispatchIdentity hr' ▸ h
      simp [swapped, hne]

end ExecutorActivationStore

end GeneralExecution
