import GeneralExecution.Stores.Observed
import GeneralExecution.Stores.Theorems.Outbox

namespace GeneralExecution

variable [Sha256] {s s' s₁ s₂ : Stores} {state cur new : DispatchIntentState}
variable {outcome : PhysicalOutcomeBundle} {record : DurableObservedOutcome}
variable {row : ObservedOutcomeRow} {id intentId expected outcomeJson : String}

-- What a record says of the state and the outcome that it is made of.
structure RecordOf (state : DispatchIntentState) (record : DurableObservedOutcome) : Prop where
  verified            : verifyOutcomeAgainstDispatch state record.outcome = true
  intentId            : record.intentId = state.intent.intentId
  dispatchStateDigest : record.dispatchStateDigest = state.digest
  runnerId            : record.runnerId = state.intent.runnerId
  leaseId             : record.leaseId = state.intent.leaseId
  leaseDigest         : record.leaseDigest = state.intent.leaseDigest
  authorizationId     : record.authorizationId = state.intent.authorizationId
  authorizationDigest : record.authorizationDigest = state.intent.authorizationDigest
  invocationId        : record.invocationId = state.intent.invocationId
  requestDigest       : record.requestDigest = state.intent.requestDigest

theorem durableRecord_eq_ok (h : durableRecord state outcome = .ok record) :
    record.outcome = outcome ∧ RecordOf state record := by
  simp only [durableRecord, DurableObservedOutcome.new, Except.bind_eq_ok, Py.require_eq_ok,
    Except.pure_eq_ok] at h
  obtain ⟨_, hv, _, _, _, _, _, _, _, _, rfl⟩ := h
  exact ⟨rfl, hv, rfl, rfl, rfl, rfl, rfl, rfl, rfl, rfl, rfl⟩

theorem decodeOutcomeRow_eq_ok :
    decodeOutcomeRow row state = .ok record ↔
      deserializePhysicalOutcome row.outcomeJson = .ok record.outcome ∧
      durableRecord state record.outcome = .ok record ∧
      row = observedRow record row.outcomeJson := by
  simp only [decodeOutcomeRow, Except.bind_eq_ok, Py.wrap_eq_ok, Py.require_eq_ok, exists_const,
    Except.pure_eq_ok]
  constructor
  · rintro ⟨o, ho, r, hr, he, rfl⟩
    obtain ⟨rfl, _⟩ := durableRecord_eq_ok hr
    exact ⟨ho, hr, he⟩
  · rintro ⟨ho, hr, he⟩
    exact ⟨_, ho, _, hr, he, rfl⟩

-- What an outcome's being recorded does: the intent becomes observed, and the row of the outcome is
-- new.
structure Stores.Records (s s' : Stores) (cur : DispatchIntentState)
    (record : DurableObservedOutcome) (outcomeJson : String) : Prop where
  unknown : cur.status = .submissionUnknown
  fresh   : s.outcome? cur.intent.intentId = none
  belongs : belongsToIntent cur.intent record.outcome
  moves   : s.Moves { s' with observedOutcomes := s.observedOutcomes } cur
    (observedState cur record.outcome)
  inserts : s.observedOutcomes.insert? (observedRow record outcomeJson) = some s'.observedOutcomes
  reads   : decodeOutcomeRow (observedRow record outcomeJson) (observedState cur record.outcome) =
    .ok record

-- The outcome is the one that the intent has been observed with.
structure Stores.Recorded (s : Stores) (cur : DispatchIntentState) (expected : String)
    (record : DurableObservedOutcome) (row : ObservedOutcomeRow) : Prop where
  current  : s.HoldsIntent cur.intent.intentId cur
  observed : cur.status = .observed
  expected : expected = cur.digest ∨ some expected = cur.previousStateDigest
  outcome  : s.outcome? cur.intent.intentId = some row
  decodes  : decodeOutcomeRow row cur = .ok record

namespace DurableObservedOutcomeStore

open DispatchIntentStore

theorem recordAgain_eq_ok {row? : Option ObservedOutcomeRow} :
    recordAgain cur row? expected outcome outcomeJson = .ok state ↔
      state = cur ∧ (expected = cur.digest ∨ some expected = cur.previousStateDigest) ∧
      ∃ row record, row? = some row ∧ decodeOutcomeRow row cur = .ok record ∧
        record.outcome = outcome ∧ row.outcomeJson = outcomeJson := by
  simp only [recordAgain, Except.bind_eq_ok, Py.require_eq_ok, Py.ofOption_eq_ok, exists_const,
    Except.pure_eq_ok]
  constructor
  · rintro ⟨he, row, hr, record, hd, ⟨ho, hj⟩, rfl⟩
    exact ⟨rfl, he, row, record, hr, hd, ho, hj⟩
  · rintro ⟨rfl, he, row, record, hr, hd, ho, hj⟩
    exact ⟨he, row, hr, record, hd, ⟨ho, hj⟩, rfl⟩

theorem readBack_eq_ok (h : readBack intentId new outcome s = .ok (state, s')) :
    s' = s ∧ state = new ∧ s.HoldsIntent intentId new ∧
      ∃ row record, s.outcome? intentId = some row ∧ decodeOutcomeRow row new = .ok record ∧
        record.outcome = outcome := by
  simp only [readBack, Statements.bind_eq_ok, Statements.get_eq_ok, Statements.lift_eq_ok,
    Py.ofOption_eq_ok, Py.require_eq_ok, Statements.pure_eq_ok] at h
  obtain ⟨_, _, ⟨rfl, rfl⟩, _, _, ⟨hi, rfl⟩, row, _, ⟨ho, rfl⟩, _, _, ⟨hd, rfl⟩, _, _, ⟨he, rfl⟩,
    record, _, ⟨hr, rfl⟩, _, _, ⟨hro, rfl⟩, rfl, rfl⟩ := h
  subst he
  exact ⟨rfl, rfl, ⟨_, hi, hd⟩, row, record, ho, hr, hro⟩

theorem insertOutcome_eq_ok {u : Unit} :
    insertOutcome record outcomeJson s = .ok (u, s') ↔
      ∃ t, s.observedOutcomes.insert? (observedRow record outcomeJson) = some t ∧
        s' = { s with observedOutcomes := t } := by
  simp only [insertOutcome, Statements.bind_eq_ok, Statements.get_eq_ok, Statements.lift_eq_ok,
    Py.ofOption_eq_ok, Statements.set_eq_ok]
  constructor
  · rintro ⟨_, _, ⟨rfl, rfl⟩, t, _, ⟨ht, rfl⟩, rfl⟩
    exact ⟨t, ht, rfl⟩
  · rintro ⟨t, ht, rfl⟩
    exact ⟨s, s, ⟨rfl, rfl⟩, t, s, ⟨ht, rfl⟩, rfl⟩

theorem outcome?_insert {t : Stores}
    (h : s.observedOutcomes.insert? (observedRow record outcomeJson) = some t.observedOutcomes)
    (id : String) :
    t.outcome? id = if id = record.intentId then some (observedRow record outcomeJson)
      else s.outcome? id := by
  refine (Table.select_insert h (by simp)).trans ?_
  simp only [eq_comm (b := id)]
  rfl

theorem recordStatements_eq_ok
    (h : recordStatements intentId expected outcome outcomeJson s = .ok (state, s')) :
    (∃ record row, s.Recorded state expected record row ∧ record.outcome = outcome ∧
        row.outcomeJson = outcomeJson ∧ s' = s ∧ state.intent.intentId = intentId) ∨
      ∃ cur record, s.Records s' cur record outcomeJson ∧ cur.digest = expected ∧
        record.outcome = outcome ∧ state = observedState cur outcome ∧
        cur.intent.intentId = intentId := by
  simp only [recordStatements, Statements.bind_eq_ok, Statements.get_eq_ok, Statements.lift_eq_ok,
    Py.ofOption_eq_ok] at h
  obtain ⟨_, _, ⟨rfl, rfl⟩, stateRow, _, ⟨hi, rfl⟩, cur, _, ⟨hd, rfl⟩, h⟩ := h
  have hc : s.HoldsIntent intentId cur := ⟨stateRow, hi, hd⟩
  obtain rfl := hc.intentId
  split at h
  case isTrue ho =>
    obtain ⟨ha, rfl⟩ := Statements.lift_eq_ok.mp h
    obtain ⟨rfl, he, row, record, hr, hd, hro, hj⟩ := recordAgain_eq_ok.mp ha
    exact .inl ⟨record, row, ⟨hc, ho, he, hr, hd⟩, hro, hj, rfl, rfl⟩
  case isFalse =>
    simp only [Statements.bind_eq_ok, Statements.lift_eq_ok, Py.require_eq_ok] at h
    obtain ⟨_, _, ⟨he, rfl⟩, _, _, ⟨hu, rfl⟩, _, _, ⟨hn, rfl⟩, _, _, ⟨hb, rfl⟩, record, _,
      ⟨hr, rfl⟩, _, s₁, hw, _, s₂, hins, hrb⟩ := h
    obtain ⟨hro, hof⟩ := durableRecord_eq_ok hr
    have hw' := updateRow_eq_ok hw hc rfl
    obtain ⟨t, ht, rfl⟩ := insertOutcome_eq_ok.mp hins
    obtain ⟨rfl, rfl, _, row', record', hor, hdr, hro'⟩ := readBack_eq_ok hrb
    rw [hw'.outcomes] at ht
    subst hro
    -- The record that is read again is the one that was inserted.
    have hid : record.intentId = cur.intent.intentId := hof.intentId
    rw [outcome?_insert (t := { s₁ with observedOutcomes := t }) (s := s) ht, hid, if_pos rfl,
      Option.some.injEq] at hor
    have hrec : record' = record := Except.ok.inj <| by
      rw [← (decodeOutcomeRow_eq_ok.mp hdr).right.left, hro', hr]
    have hs₁ : ({ s₁ with observedOutcomes := s.observedOutcomes } : Stores) = s₁ := by
      rw [← hw'.outcomes]
    refine .inr ⟨cur, record, ⟨hu, Option.isNone_iff_eq_none.mp hn, hb, ?_, ht, ?_⟩, he, rfl, rfl,
      rfl⟩
    · have hrev : 2 = cur.revision + 1 := by rw [cur.revision_eq, hu]; rfl
      have hm : s.Moves s₁ cur (observedState cur record.outcome) :=
        ⟨hc, ⟨rfl, hrev, rfl⟩, rfl, hw'⟩
      rwa [← hs₁] at hm
    · rw [hor, hdr, hrec]

-- An outcome whose row is new and is read back is recorded.
theorem recordStatements_of_unknown (hc : s.HoldsIntent cur.intent.intentId cur)
    (hs : cur.intent.schemaVersion = "ge.dispatch-intent.v1") (hu : cur.status = .submissionUnknown)
    (hn : s.outcome? cur.intent.intentId = none) (hb : belongsToIntent cur.intent record.outcome)
    (hr : decodeOutcomeRow (observedRow record outcomeJson) (observedState cur record.outcome) =
      .ok record)
    (hi : ∃ t, s.observedOutcomes.insert? (observedRow record outcomeJson) = some t) :
    ∃ s', recordStatements cur.intent.intentId cur.digest record.outcome outcomeJson s =
      .ok (observedState cur record.outcome, s') := by
  have ⟨row, hrow, hd⟩ := hc
  have ⟨_, hrec, _⟩ := decodeOutcomeRow_eq_ok.mp hr
  have hid : record.intentId = cur.intent.intentId := (durableRecord_eq_ok hrec).right.intentId
  have ⟨t, ht⟩ := hi
  have ⟨s₁, hw⟩ : ∃ s₁, updateRow s cur (observedState cur record.outcome)
      "durable dispatch compare-and-swap failed" s = .ok ((), s₁) := updateRow_of_current s hc
  have hw' := updateRow_eq_ok hw hc rfl
  have ⟨row', hrow', hd'⟩ := hw'.holds ⟨rfl, hs⟩
  have hout : ({ s₁ with observedOutcomes := t } : Stores).outcome? cur.intent.intentId =
      some (observedRow record outcomeJson) := by
    rw [outcome?_insert (t := { s₁ with observedOutcomes := t }) (s := s) ht, hid, if_pos rfl]
  have hback : readBack cur.intent.intentId (observedState cur record.outcome) record.outcome
      { s₁ with observedOutcomes := t } =
        .ok (observedState cur record.outcome, { s₁ with observedOutcomes := t }) := by
    simp only [readBack, Statements.bind_eq_ok, Statements.get_eq_ok, Statements.lift_eq_ok,
      Py.ofOption_eq_ok, Py.require_eq_ok, Statements.pure_eq_ok]
    exact ⟨_, _, ⟨rfl, rfl⟩, row', _, ⟨hrow', rfl⟩, _, _, ⟨hout, rfl⟩, _, _, ⟨hd', rfl⟩, (), _,
      ⟨rfl, rfl⟩, record, _, ⟨hr, rfl⟩, (), _, ⟨rfl, rfl⟩, rfl, rfl⟩
  rw [← hw'.outcomes] at ht
  refine ⟨{ s₁ with observedOutcomes := t }, ?_⟩
  simp only [recordStatements, Statements.bind_eq_ok, Statements.get_eq_ok, Statements.lift_eq_ok,
    Py.ofOption_eq_ok]
  refine ⟨_, _, ⟨rfl, rfl⟩, row, _, ⟨hrow, rfl⟩, cur, _, ⟨hd, rfl⟩, ?_⟩
  rw [if_neg (by simp [hu])]
  simp only [Statements.bind_eq_ok, Statements.lift_eq_ok, Py.require_eq_ok]
  exact ⟨(), _, ⟨trivial, rfl⟩, (), _, ⟨hu, rfl⟩, (), _, ⟨by simp [hn], rfl⟩, (), _, ⟨hb, rfl⟩,
    record, _, ⟨hrec, rfl⟩, (), s₁, hw, (), _, insertOutcome_eq_ok.mpr ⟨t, ht, rfl⟩, hback⟩

theorem recordStatements_of_observed (h : s.Recorded cur expected record row) :
    recordStatements cur.intent.intentId expected record.outcome row.outcomeJson s =
      .ok (cur, s) := by
  have ⟨stateRow, hrow, hd⟩ := h.current
  simp only [recordStatements, Statements.bind_eq_ok, Statements.get_eq_ok, Statements.lift_eq_ok,
    Py.ofOption_eq_ok]
  refine ⟨_, _, ⟨rfl, rfl⟩, stateRow, _, ⟨hrow, rfl⟩, cur, _, ⟨hd, rfl⟩, ?_⟩
  rw [if_pos h.observed]
  exact Statements.lift_eq_ok.mpr
    ⟨recordAgain_eq_ok.mpr ⟨rfl, h.expected, row, record, h.outcome, h.decodes, rfl, rfl⟩, rfl⟩

end DurableObservedOutcomeStore

end GeneralExecution
