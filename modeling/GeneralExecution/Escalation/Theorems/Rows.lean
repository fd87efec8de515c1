import GeneralExecution.Escalation.Store

namespace GeneralExecution

-- What is written is read back.
@[simp]
theorem workEscalationRequestFromDict_normalize (r : WorkEscalationRequest) :
    workEscalationRequestFromDict (normalize (toPy r)) = .ok r := by
  have hd : distinctKeys (asdict r) = true := rfl
  change workEscalationRequestFromDict (normalize (.dict (asdict r))) = _
  simp only [workEscalationRequestFromDict, Py.require, Except.ensure, Field.kwargs, Field.get,
    Field.getD, normalize_get? hd, mem_normalize_keys]
  simp [asdict, Json.lookup, WorkEscalationRequest.new_eq r]

@[simp]
theorem workEscalationStateOfFields_normalize (s : WorkEscalationState) :
    workEscalationStateOfFields (normalize (toPy s)) (normalize (toPy s.request)) = .ok s := by
  have hd : distinctKeys (asdict s) = true := rfl
  change workEscalationStateOfFields (normalize (.dict (asdict s))) _ = _
  simp only [workEscalationStateOfFields, workEscalationRequestFromDict_normalize, Py.require,
    Except.ensure, Field.kwargs, Field.get, Field.getD, normalize_get? hd, mem_normalize_keys]
  simp [asdict, Json.lookup, WorkEscalationState.new_eq s]

@[simp]
theorem workEscalationStateFromDict_normalize (s : WorkEscalationState) :
    workEscalationStateFromDict (normalize (toPy s)) = .ok s := by
  have hd : distinctKeys (asdict s) = true := rfl
  have ho : (normalize (toPy s.request)).isObj = true := rfl
  have hr : (normalize (toPy s)).get? "request" = some (normalize (toPy s.request)) := by
    change (normalize (.dict (asdict s))).get? _ = _
    rw [normalize_get? hd]
    simp [asdict, Json.lookup]
  simp [workEscalationStateFromDict, hr, ho, Option.filter, Py.ofOption, Except.ofOption, Py.wrap]

variable [Sha256] {s s' : WorkEscalations} {cur state previous next : WorkEscalationState}
variable {request : WorkEscalationRequest} {row : WorkEscalationRow} {id ref digest : String}

@[simp]
theorem decodeEscalationRow_row : decodeEscalationRow (escalationRow state) = .ok state := by
  simp [decodeEscalationRow, escalationRow, Py.ofOption, Except.ofOption, Py.require, Except.ensure]

namespace WorkEscalations

omit [Sha256] in
theorem row?_eq_some : s.row? id = some row ↔ row ∈ s.rows ∧ row.requestId = id := by
  rw [row?, Table.select_eq_some (by simp)]
  simp [WorkEscalationRow.primaryKey]

-- The slots of each group are numbered from 1 on, in the order in which they have been reserved.
def Slotted (s : WorkEscalations) : Prop :=
  ∀ ref digest, s.slots ref digest = List.range' 1 (s.slots ref digest).length

omit [Sha256] in
theorem slots_of_rows (h : s'.rows = s.rows ++ [row]) :
    s'.slots ref digest = s.slots ref digest ++
      if row.authorityRef = ref ∧ row.envelopeDigest = digest then [row.slotIndex] else [] := by
  simp only [slots, h, List.filter_append, List.map_append, List.append_cancel_left_eq]
  by_cases hg : row.authorityRef = ref ∧ row.envelopeDigest = digest
  case pos => simp [hg]
  case neg => simp [hg]

omit [Sha256] in
theorem max?_range' (n : Nat) : (List.range' 1 n).max?.getD 0 = n := by
  cases n
  case zero   => rfl
  case succ n =>
    have hm : (List.range' 1 (n + 1)).max? = some (n + 1) := by
      rw [List.max?_eq_some_iff]
      constructor
      · simp [List.mem_range'_1]
      · intro m hm
        have := List.mem_range'_1.mp hm
        omega
    rw [hm, Option.getD_some]

end WorkEscalations

open WorkEscalations

namespace SqliteWorkEscalationStore

-- The state that a reservation of `request` stores.
def reservedState (s : WorkEscalations) (request : WorkEscalationRequest)
    (h : (s.slots request.authorityRef request.envelopeDigest).length <
      request.maxWorkInvocations) : WorkEscalationState where
  request     := request
  slotIndex   := (s.slots request.authorityRef request.envelopeDigest).length + 1
  status      := .reserved
  revision    := 0
  version     := rfl
  positive    := Nat.succ_pos _
  budget      := h
  noAuthority := rfl
  evidence    := by simp [EscalationEvidence]

-- A new request takes the next slot of its group when the group is below the limit of the request.
theorem reserveStatements_of_fresh (hs : s.Slotted) (hr : s.row? request.requestId = none)
    (h : (s.slots request.authorityRef request.envelopeDigest).length <
      request.maxWorkInvocations) :
    ∃ s', s'.rows = s.rows ++ [escalationRow (reservedState s request h)] ∧
      reserveStatements request s = .ok (reservedState s request h, s') := by
  have hslots := hs request.authorityRef request.envelopeDigest
  have hmax : (s.slots request.authorityRef request.envelopeDigest).max?.getD 0 =
      (s.slots request.authorityRef request.envelopeDigest).length := by
    conv_lhs => rw [hslots]
    exact max?_range' _
  have hfresh : ∀ row ∈ s.rows, row.authorityRef = request.authorityRef →
      row.envelopeDigest = request.envelopeDigest →
      row.slotIndex ≠ (s.slots request.authorityRef request.envelopeDigest).length + 1 := by
    intro row hm ha he hsl
    have hmem : row.slotIndex ∈ s.slots request.authorityRef request.envelopeDigest :=
      List.mem_map_of_mem <| List.mem_filter.mpr ⟨hm, by simp [ha, he]⟩
    rw [hslots, List.mem_range'_1] at hmem
    omega
  have hins : ∀ c ∈ [WorkEscalationRow.primaryKey, WorkEscalationRow.slotKey],
      s.select c (c (escalationRow (reservedState s request h))) = none := by
    simp only [List.mem_cons, List.not_mem_nil, or_false, forall_eq_or_imp, forall_eq]
    refine ⟨hr, Table.select_eq_none.mpr fun row hm hk => ?_⟩
    simp only [WorkEscalationRow.slotKey, Sum.inr.injEq, Prod.mk.injEq] at hk
    exact hfresh row hm hk.left hk.right.left hk.right.right
  obtain ⟨s', hi⟩ := Table.insert?_of_fresh hins
  refine ⟨s', (Table.insert?_eq_some.mp hi).right, ?_⟩
  simp only [reserveStatements, Statements.get_bind_eq_ok, hr, hmax, Statements.lift_bind_eq_ok,
    Py.require_eq_ok, Py.ofOption_eq_ok, Statements.set_bind_eq_ok, Statements.pure_eq_ok]
  exact ⟨(), h, (), h, _, WorkEscalationState.new_eq (reservedState s request h), s', hi, rfl, rfl⟩

-- What the statements of a reservation do. In a table whose slots are in order this is all they do.
theorem reserveStatements_eq_ok (hs : s.Slotted) (h : reserveStatements request s = .ok (state, s')) :
    (∃ row, s.row? request.requestId = some row ∧ decodeEscalationRow row = .ok state ∧
        state.request = request ∧ s' = s) ∨
      ∃ hl, s.row? request.requestId = none ∧ state = reservedState s request hl ∧
        s'.rows = s.rows ++ [escalationRow state] := by
  cases hr : s.row? request.requestId
  case some row =>
    simp only [reserveStatements, Statements.get_bind_eq_ok, hr, Statements.lift_bind_eq_ok,
      Py.require_eq_ok, Statements.pure_eq_ok] at h
    obtain ⟨existing, hd, _, hi, rfl, rfl⟩ := h
    exact .inl ⟨row, rfl, hd, hi, rfl⟩
  case none =>
    have hl : (s.slots request.authorityRef request.envelopeDigest).length <
        request.maxWorkInvocations := by
      simp only [reserveStatements, Statements.get_bind_eq_ok, hr, Statements.lift_bind_eq_ok,
        Py.require_eq_ok] at h
      exact h.choose_spec.left
    obtain ⟨s'', hrows, hok⟩ := reserveStatements_of_fresh hs hr hl
    obtain ⟨rfl, rfl⟩ : state = reservedState s request hl ∧ s' = s'' := by
      simpa using h.symm.trans hok
    exact .inr ⟨hl, rfl, rfl, hrows⟩

theorem reservedState_slotted (hs : s.Slotted)
    {hl : (s.slots request.authorityRef request.envelopeDigest).length <
      request.maxWorkInvocations}
    (h : s'.rows = s.rows ++ [escalationRow (reservedState s request hl)]) : s'.Slotted := by
  intro ref digest
  rw [slots_of_rows h]
  split
  case isTrue hg =>
    obtain ⟨rfl, rfl⟩ : request.authorityRef = ref ∧ request.envelopeDigest = digest := hg
    conv_lhs => rw [hs]
    rw [List.length_append, List.length_singleton, List.range'_concat]
    simp [escalationRow, reservedState, Nat.add_comm]
  case isFalse => simpa using hs ref digest

-- A swap changes neither the identity nor the slot of a row.
theorem swap_slots :
    slots (s.update (swapped previous) (swappedRow next) (swappedRow_unique next)) ref digest =
      s.slots ref digest := by
  simp only [slots, Table.update, List.filter_map, List.map_map]
  have hf : ((fun row => decide (row.authorityRef = ref ∧ row.envelopeDigest = digest)) ∘
      fun row => if swapped previous row then swappedRow next row else row) =
        fun row => decide (row.authorityRef = ref ∧ row.envelopeDigest = digest) :=
    funext fun row => by by_cases hp : swapped previous row = true <;> simp [hp, swappedRow]
  have hm : ((fun row : WorkEscalationRow => row.slotIndex) ∘
      fun row => if swapped previous row then swappedRow next row else row) = (·.slotIndex) :=
    funext fun row => by by_cases hp : swapped previous row = true <;> simp [hp, swappedRow]
  rw [hf, hm]

theorem swapStatements_eq_ok :
    swapStatements previous next s = .ok (state, s') ↔
      state = next ∧
        (∃ row, s.row? previous.request.requestId = some row ∧ swapped previous row = true) ∧
        s' = s.update (swapped previous) (swappedRow next) (swappedRow_unique next) := by
  have hk : ∀ row, swapped previous row = true →
      row.primaryKey = .inl previous.request.requestId :=
    fun row h => congrArg Sum.inl (of_decide_eq_true h).left
  have hc : s.count (swapped previous) = 1 ↔
      ∃ row, s.row? previous.request.requestId = some row ∧ swapped previous row = true :=
    Table.count_eq_one (by simp) hk
  simp only [swapStatements, Statements.get_bind_eq_ok, Statements.set_bind_eq_ok,
    Statements.lift_bind_eq_ok, Py.require_eq_ok, Statements.pure_eq_ok, hc, exists_const]
  constructor
  · rintro ⟨hr, rfl, rfl⟩
    exact ⟨rfl, hr, rfl⟩
  · rintro ⟨rfl, hr, rfl⟩
    exact ⟨hr, rfl, rfl⟩

theorem compareAndSwap_run_error {e : PyError}
    (h : (compareAndSwap previous next).run s = (.error e, s')) : s' = s := by
  refine Program.lift_bind_rollback (fun _ _ _ _ h => ?_) h
  refine Program.lift_bind_rollback (fun _ _ _ _ h => ?_) h
  refine Program.lift_bind_rollback (fun _ _ _ _ h => ?_) h
  refine Program.lift_bind_rollback (fun _ _ _ _ h => ?_) h
  exact Program.transaction_rollback h

end SqliteWorkEscalationStore

end GeneralExecution
