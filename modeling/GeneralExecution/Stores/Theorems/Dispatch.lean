import GeneralExecution.Stores.Dispatch
import GeneralExecution.Stores.Theorems.CapacityHeads

namespace GeneralExecution

-- The schema versions with which a state is read again.
def DispatchIntentState.Supported (s : DispatchIntentState) : Prop :=
  s.schemaVersion = "ge.dispatch-intent-state.v1" ∧ s.intent.schemaVersion = "ge.dispatch-intent.v1"

@[simp]
theorem intentFromDict_normalize {i i' : DispatchIntent} :
    intentFromDict (normalize (toPy i)) = .ok i' ↔
      i.schemaVersion = "ge.dispatch-intent.v1" ∧ i' = i := by
  have hd : distinctKeys (asdict i) = true := rfl
  change intentFromDict (normalize (.dict (asdict i))) = .ok i' ↔ _
  have hobj : (normalize (.dict (asdict i))).isObj = true := rfl
  simp only [intentFromDict, Py.require, Except.ensure, Field.kwargs, Field.get, Field.getD,
    Field.hasSchema, normalize_get? hd, mem_normalize_keys, hobj]
  by_cases h : i.schemaVersion = "ge.dispatch-intent.v1"
  case pos =>
    have hn := DispatchIntent.new_eq i
    rw [h] at hn
    simpa [asdict, Json.lookup, h, hn] using eq_comm
  case neg => simp [asdict, Json.lookup, h]

@[simp]
theorem dispatchStateFromDict_normalize {s s' : DispatchIntentState} :
    dispatchStateFromDict (normalize (toPy s)) = .ok s' ↔ s.Supported ∧ s' = s := by
  have hd : distinctKeys (asdict s) = true := rfl
  change dispatchStateFromDict (normalize (.dict (asdict s))) = .ok s' ↔ _
  have hobj : (normalize (.dict (asdict s))).isObj = true := rfl
  have hobj' : (normalize (toPy s.intent)).isObj = true := rfl
  simp only [dispatchStateFromDict, Py.require, Except.ensure, Field.kwargs, Field.get, Field.getD,
    Field.hasSchema, normalize_get? hd, mem_normalize_keys, hobj]
  by_cases h : s.schemaVersion = "ge.dispatch-intent-state.v1"
  case pos =>
    have hn := DispatchIntentState.new_eq s
    rw [h] at hn
    simp [asdict, Json.lookup, h, hn, hobj', Option.filter, DispatchIntentState.Supported,
      @eq_comm _ s]
  case neg => simp [asdict, Json.lookup, h, DispatchIntentState.Supported]

theorem deserializeDispatchState_serialize {s s' : DispatchIntentState} :
    deserializeDispatchState (serializeDispatchState s) = .ok s' ↔ s.Supported ∧ s' = s := by
  simp [deserializeDispatchState, serializeDispatchState]

-- The revision counts the statuses gone through.
def DispatchStatus.ordinal : DispatchStatus → Nat
  | .prepared          => 0
  | .submissionUnknown => 1
  | .observed          => 2

theorem DispatchIntentState.revision_eq (s : DispatchIntentState) : s.revision = s.status.ordinal := by
  have he := s.evidence
  unfold DispatchEvidence at he
  cases h : s.status <;> simp only [h] at he <;> simp [DispatchStatus.ordinal, he.left.left]

section Rows

variable [Sha256] {s s' s₁ s₂ : Stores} {state state' cur new : DispatchIntentState}
variable {intent : DispatchIntent} {row : DispatchIntentRow} {id : String}

def intentRow (state : DispatchIntentState) : DispatchIntentRow where
  intentId    := state.intent.intentId
  runnerId    := state.intent.runnerId
  leaseId     := state.intent.leaseId
  stateDigest := state.digest
  revision    := state.revision
  stateJson   := serializeDispatchState state

theorem decodeIntentRow_eq_ok :
    decodeIntentRow row = .ok state ↔
      deserializeDispatchState row.stateJson = .ok state ∧ state.intent.intentId = row.intentId ∧
      state.intent.runnerId = row.runnerId ∧ state.intent.leaseId = row.leaseId ∧
      state.digest = row.stateDigest ∧ state.revision = row.revision := by
  simp only [decodeIntentRow, Except.bind_eq_ok, Py.require_eq_ok, exists_const, Except.pure_eq_ok]
  constructor
  · rintro ⟨_, h, hm, rfl⟩
    exact ⟨h, hm⟩
  · rintro ⟨h, hm⟩
    exact ⟨_, h, hm, rfl⟩

theorem decodeIntentRow_intentRow :
    decodeIntentRow (intentRow state) = .ok state' ↔ state.Supported ∧ state' = state := by
  simp only [decodeIntentRow_eq_ok, intentRow, deserializeDispatchState_serialize]
  constructor
  · exact fun h => h.left
  · rintro ⟨h, rfl⟩
    exact ⟨⟨h, rfl⟩, rfl, rfl, rfl, rfl, rfl⟩

omit [Sha256] in
theorem Stores.intent?_intentId (h : s.intent? id = some row) : row.intentId = id :=
  ((Table.select_eq_some (by simp)).mp h).right

omit [Sha256] in
theorem Stores.mem_dispatchIntents :
    row ∈ s.dispatchIntents.rows ↔ s.intent? row.intentId = some row := by
  rw [intent?, Table.select_eq_some (by simp)]
  simp

-- The store holds `state` for the intent of this id.
def Stores.HoldsIntent (s : Stores) (id : String) (state : DispatchIntentState) : Prop :=
  ∃ row, s.intent? id = some row ∧ decodeIntentRow row = .ok state

namespace Stores.HoldsIntent

theorem intentId (h : s.HoldsIntent id state) : state.intent.intentId = id := by
  have ⟨row, hr, hd⟩ := h
  rw [(decodeIntentRow_eq_ok.mp hd).right.left, Stores.intent?_intentId hr]

theorem unique (h : s.HoldsIntent id state) (h' : s.HoldsIntent id state') : state = state' := by
  have ⟨row, hr, hd⟩ := h
  have ⟨row', hr', hd'⟩ := h'
  obtain rfl : row = row' := Option.some.inj <| hr.symm.trans hr'
  exact Except.ok.inj <| hd.symm.trans hd'

theorem congr (h : s.HoldsIntent id state) (hs : s'.intent? id = s.intent? id) :
    s'.HoldsIntent id state :=
  have ⟨row, hr, hd⟩ := h
  ⟨row, hs.trans hr, hd⟩

-- No two intents are for the same lease.
theorem lease_unique {id' : String} (h : s.HoldsIntent id state) (h' : s.HoldsIntent id' state')
    (hl : state.intent.leaseId = state'.intent.leaseId) : id = id' ∧ state = state' := by
  have ⟨row, hr, hd⟩ := h
  have ⟨row', hr', hd'⟩ := h'
  have hm := (Table.select_eq_some (by simp)).mp hr
  have hm' := (Table.select_eq_some (by simp)).mp hr'
  have hrow : row = row' :=
    List.inj_on_of_nodup_map (s.dispatchIntents.unique DispatchIntentRow.leaseId (by simp)) hm.left
      hm'.left <| by
        rw [← (decodeIntentRow_eq_ok.mp hd).right.right.right.left, hl,
          (decodeIntentRow_eq_ok.mp hd').right.right.right.left]
  subst hrow
  exact ⟨hm.right.symm.trans hm'.right, Except.ok.inj <| hd.symm.trans hd'⟩

end Stores.HoldsIntent

-- The only change from `s` to `s'` is that `state` is now the state of its intent.
structure Stores.WritesIntent (s s' : Stores) (state : DispatchIntentState) : Prop where
  intent   : ∀ id, s'.intent? id =
    if id = state.intent.intentId then some (intentRow state) else s.intent? id
  heads    : s'.capacityHeads = s.capacityHeads
  outcomes : s'.observedOutcomes = s.observedOutcomes

namespace Stores.WritesIntent

theorem holds (h : s.WritesIntent s' state) (hs : state.Supported) :
    s'.HoldsIntent state.intent.intentId state :=
  ⟨_, (h.intent _).trans <| if_pos rfl, decodeIntentRow_intentRow.mpr ⟨hs, rfl⟩⟩

theorem holds_of_ne (h : s.WritesIntent s' state) (hi : id ≠ state.intent.intentId) :
    s'.HoldsIntent id state' ↔ s.HoldsIntent id state' := by
  have := (h.intent id).trans <| if_neg hi
  exact ⟨(·.congr this.symm), (·.congr this)⟩

end Stores.WritesIntent

-- The next state of an intent, which carries the digest of the state it replaces.
structure DispatchIntentState.Follows (cur new : DispatchIntentState) : Prop where
  intent   : new.intent = cur.intent
  revision : new.revision = cur.revision + 1
  previous : new.previousStateDigest = some cur.digest

namespace DispatchIntentStore

-- The statements of an update that replaces `cur` by `new`.
theorem updateRow_eq_ok {message : String} {u : Unit} {s₀ : Stores}
    (h : updateRow s cur new message s₀ = .ok (u, s')) (hc : s.HoldsIntent id cur)
    (hn : new.intent = cur.intent) : s.WritesIntent s' new := by
  have ⟨row, hr, hd⟩ := hc
  have ⟨_, h₁, h₂, h₃, h₄, h₅⟩ := decodeIntentRow_eq_ok.mp hd
  simp only [updateRow, Statements.bind_eq_ok, Statements.lift_eq_ok, Py.require_eq_ok,
    Statements.set_eq_ok] at h
  obtain ⟨_, _, _, rfl⟩ := h
  refine ⟨fun id' => ?_, rfl, rfl⟩
  rw [Stores.intent?, Table.select_update (by simp)]
  change (s.intent? id').map _ = _
  split
  case isTrue hid =>
    obtain rfl : id' = id := by rw [hid, hn, hc.intentId]
    rw [hr, Option.map_some]
    simp [intentRow, hn, h₁, h₂, h₃, h₄, h₅]
  case isFalse hid =>
    cases hi : s.intent? id'
    case none => rfl
    case some r =>
      have : r.intentId ≠ cur.intent.intentId := by rwa [Stores.intent?_intentId hi, ← hn]
      simp [this]

theorem updateRow_of_current {message : String} (s₀ : Stores) (hc : s.HoldsIntent id cur) :
    ∃ s', updateRow s cur new message s₀ = .ok ((), s') := by
  have ⟨row, hr, hd⟩ := hc
  have ⟨_, h₁, h₂, h₃, h₄, h₅⟩ := decodeIntentRow_eq_ok.mp hd
  have hcount : s.dispatchIntents.count (fun r => r.intentId = cur.intent.intentId ∧
      r.runnerId = cur.intent.runnerId ∧ r.leaseId = cur.intent.leaseId ∧
      r.stateDigest = cur.digest ∧ r.revision = cur.revision) = 1 :=
    (Table.count_eq_one (by simp)
      fun r h => (of_decide_eq_true h).left.trans hc.intentId).mpr
      ⟨row, hr, by simp [h₁, h₂, h₃, h₄, h₅]⟩
  simp only [updateRow, Statements.bind_eq_ok, Statements.lift_eq_ok, Py.require_eq_ok,
    Statements.set_eq_ok]
  exact ⟨_, (), _, ⟨hcount, rfl⟩, rfl⟩

theorem commitStatements_eq_ok (h : commitStatements cur new s = .ok (state, s'))
    (hn : new.intent = cur.intent) :
    s.HoldsIntent cur.intent.intentId cur ∧ state = new ∧ s.WritesIntent s' new := by
  simp only [commitStatements, Statements.bind_eq_ok, Statements.get_eq_ok, Statements.lift_eq_ok,
    Py.ofOption_eq_ok, Py.require_eq_ok, Statements.pure_eq_ok] at h
  obtain ⟨_, _, ⟨rfl, rfl⟩, row, _, ⟨hr, rfl⟩, _, _, ⟨hd, rfl⟩, _, _, ⟨he, rfl⟩, _, _, hu, rfl,
    rfl⟩ := h
  have hc : s.HoldsIntent cur.intent.intentId cur := ⟨row, hr, he ▸ hd⟩
  exact ⟨hc, rfl, updateRow_eq_ok hu hc hn⟩

theorem commitStatements_of_current (hc : s.HoldsIntent cur.intent.intentId cur) :
    ∃ s', commitStatements cur new s = .ok (new, s') := by
  have ⟨row, hr, hd⟩ := hc
  have ⟨s', hu⟩ : ∃ s', updateRow s cur new "durable dispatch compare-and-swap failed" s =
      .ok ((), s') := updateRow_of_current s hc
  simp only [commitStatements, Statements.bind_eq_ok, Statements.get_eq_ok, Statements.lift_eq_ok,
    Py.ofOption_eq_ok, Py.require_eq_ok, Statements.pure_eq_ok]
  exact ⟨s', _, _, ⟨rfl, rfl⟩, row, _, ⟨hr, rfl⟩, cur, _, ⟨hd, rfl⟩, (), _, ⟨rfl, rfl⟩, (), _, hu,
    trivial, rfl⟩

theorem initializeStatements_eq_ok (h : initializeStatements intent s = .ok (state, s')) :
    state = initialDispatchState intent ∧
      (s.HoldsIntent intent.intentId state ∧ s' = s ∨
        (s.intent? intent.intentId = none ∧
          s.dispatchIntents.select DispatchIntentRow.leaseId intent.leaseId = none) ∧
        s.WritesIntent s' state) := by
  simp only [initializeStatements, Statements.bind_eq_ok, Statements.get_eq_ok] at h
  obtain ⟨_, _, ⟨rfl, rfl⟩, h⟩ := h
  cases hr : s.intent? intent.intentId
  case some row =>
    simp only [hr, Statements.bind_eq_ok, Statements.lift_eq_ok, Py.require_eq_ok,
      Statements.pure_eq_ok] at h
    obtain ⟨_, _, ⟨hd, rfl⟩, _, _, ⟨rfl, rfl⟩, rfl, rfl⟩ := h
    exact ⟨rfl, .inl ⟨⟨row, hr, hd⟩, rfl⟩⟩
  case none =>
    simp only [hr, Statements.bind_eq_ok, Statements.lift_eq_ok, Py.require_eq_ok,
      Py.ofOption_eq_ok, Statements.set_eq_ok, Statements.pure_eq_ok] at h
    obtain ⟨_, _, ⟨hl, rfl⟩, intents, _, ⟨hi, rfl⟩, _, _, rfl, rfl, rfl⟩ := h
    refine ⟨rfl, .inr ⟨⟨rfl, Option.isNone_iff_eq_none.mp hl⟩, fun id => ?_, rfl, rfl⟩⟩
    refine (Table.select_insert hi (by simp)).trans ?_
    simp only [eq_comm (b := id)]
    rfl

-- A new intent of a lease that has none is accepted.
theorem initializeStatements_of_fresh (hi : s.intent? intent.intentId = none)
    (hl : s.dispatchIntents.select DispatchIntentRow.leaseId intent.leaseId = none) :
    ∃ s', initializeStatements intent s = .ok (initialDispatchState intent, s') := by
  have ⟨t, ht⟩ := Table.insert?_of_fresh (t := s.dispatchIntents)
    (r := intentRow (initialDispatchState intent)) (by simpa using ⟨hi, hl⟩)
  simp only [initializeStatements, Statements.bind_eq_ok, Statements.get_eq_ok]
  refine ⟨{ s with dispatchIntents := t }, s, s, ⟨rfl, rfl⟩, ?_⟩
  simp only [hi, Statements.bind_eq_ok, Statements.lift_eq_ok, Py.require_eq_ok, Py.ofOption_eq_ok,
    Statements.set_eq_ok, Statements.pure_eq_ok]
  exact ⟨(), _, ⟨by simp [hl], rfl⟩, t, _, ⟨ht, rfl⟩, (), _, rfl, trivial, rfl⟩

end DispatchIntentStore

-- Every row was written by the store, though perhaps with a schema that it does not read again.
def Stores.IntentRows (s : Stores) : Prop :=
  ∀ id row, s.intent? id = some row → ∃ state, row = intentRow state

-- Every row was written by the store and is read again.
def Stores.IntentsDecode (s : Stores) : Prop :=
  ∀ id row, s.intent? id = some row → ∃ state, state.Supported ∧ row = intentRow state

-- What an accepted initialization does.
structure Stores.Prepares (s s' : Stores) (intent : DispatchIntent) : Prop where
  effect : s.HoldsIntent intent.intentId (initialDispatchState intent) ∧ s' = s ∨
    (s.intent? intent.intentId = none ∧
      s.dispatchIntents.select DispatchIntentRow.leaseId intent.leaseId = none) ∧
    s.WritesIntent s' (initialDispatchState intent)

-- What an accepted transition does.
structure Stores.Moves (s s' : Stores) (cur new : DispatchIntentState) : Prop where
  current : s.HoldsIntent cur.intent.intentId cur
  follows : cur.Follows new
  version : new.schemaVersion = "ge.dispatch-intent-state.v1"
  writes  : s.WritesIntent s' new

namespace Stores

theorem IntentsDecode.rows (h : s.IntentsDecode) : s.IntentRows := by
  intro id row hr
  have ⟨state, _, he⟩ := h id row hr
  exact ⟨state, he⟩

theorem IntentRows.supported (h : s.IntentRows) (hs : s.HoldsIntent id state) : state.Supported := by
  have ⟨row, hr, hd⟩ := hs
  obtain ⟨state', rfl⟩ := h id row hr
  obtain ⟨hs, rfl⟩ := decodeIntentRow_intentRow.mp hd
  exact hs

theorem IntentsDecode.decode (h : s.IntentsDecode) (hr : s.intent? id = some row) :
    ∃ state, s.HoldsIntent id state := by
  have ⟨state, hs, he⟩ := h id row hr
  exact ⟨state, row, hr, he ▸ decodeIntentRow_intentRow.mpr ⟨hs, rfl⟩⟩

theorem IntentRows.write (h : s.IntentRows) (hw : s.WritesIntent s' state) : s'.IntentRows := by
  intro id row hr
  rw [hw.intent] at hr
  split at hr
  · exact ⟨state, (Option.some.inj hr).symm⟩
  · exact h id row hr

theorem IntentsDecode.write (h : s.IntentsDecode) (hw : s.WritesIntent s' state)
    (hs : state.Supported) : s'.IntentsDecode := by
  intro id row hr
  rw [hw.intent] at hr
  split at hr
  · exact ⟨state, hs, (Option.some.inj hr).symm⟩
  · exact h id row hr

omit [Sha256] in
theorem intent?_of_intents (h : s'.dispatchIntents = s.dispatchIntents) (id : String) :
    s'.intent? id = s.intent? id := by
  rw [intent?, intent?, h]

theorem IntentsDecode.of_intents (hd : s.IntentsDecode)
    (h : s'.dispatchIntents = s.dispatchIntents) : s'.IntentsDecode :=
  fun id row hr => hd id row <| (intent?_of_intents h id).symm.trans hr

theorem Prepares.rows (h : s.Prepares s' intent) (hr : s.IntentRows) : s'.IntentRows := by
  rcases h.effect with ⟨_, rfl⟩ | ⟨_, hw⟩
  · exact hr
  · exact hr.write hw

theorem Prepares.decode (h : s.Prepares s' intent) (hd : s.IntentsDecode)
    (hs : intent.schemaVersion = "ge.dispatch-intent.v1") : s'.IntentsDecode := by
  rcases h.effect with ⟨_, rfl⟩ | ⟨_, hw⟩
  · exact hd
  · exact hd.write hw ⟨rfl, hs⟩

theorem Moves.supported (h : s.Moves s' cur new) (hr : s.IntentRows) : new.Supported :=
  ⟨h.version, h.follows.intent ▸ (hr.supported h.current).right⟩

theorem Moves.decode (h : s.Moves s' cur new) (hd : s.IntentsDecode) : s'.IntentsDecode :=
  hd.write h.writes (h.supported hd.rows)

-- One access moves each intent by one state at most, and a new one is prepared.
structure IntentsStep (s s' : Stores) : Prop where
  held : ∀ id state, s.HoldsIntent id state →
    ∃ state', s'.HoldsIntent id state' ∧ (state' = state ∨ state.Follows state')
  new  : ∀ id state, s'.HoldsIntent id state → s.intent? id = none → state.status = .prepared

-- Intents are kept, and move on along their states only.
def IntentsAdvance (s s' : Stores) : Prop :=
  ∀ id state, s.HoldsIntent id state →
    ∃ state', s'.HoldsIntent id state' ∧ Relation.ReflTransGen DispatchIntentState.Follows state state'

theorem IntentsStep.refl : s.IntentsStep s where
  held _ state h   := ⟨state, h, .inl rfl⟩
  new _ _ h hn     := by
    have ⟨_, hr, _⟩ := h
    rw [hn] at hr
    contradiction

theorem IntentsStep.of_intents (h : s'.dispatchIntents = s.dispatchIntents) : s.IntentsStep s' := by
  have hi := intent?_of_intents h
  refine ⟨fun id state hs => ⟨state, hs.congr (hi id), .inl rfl⟩, fun id state hs hn => ?_⟩
  have ⟨_, hr, _⟩ := hs
  rw [hi, hn] at hr
  contradiction

theorem IntentsStep.advance (h : s.IntentsStep s') : s.IntentsAdvance s' := by
  intro id state hs
  have ⟨state', hs', hf⟩ := h.held id state hs
  rcases hf with rfl | hf
  · exact ⟨state', hs', .refl⟩
  · exact ⟨state', hs', .single hf⟩

theorem IntentsAdvance.refl : s.IntentsAdvance s :=
  fun _ state h => ⟨state, h, .refl⟩

theorem IntentsAdvance.trans (h : s.IntentsAdvance s₁) (h' : s₁.IntentsAdvance s₂) :
    s.IntentsAdvance s₂ := by
  intro id state hs
  have ⟨state₁, hs₁, hf₁⟩ := h id state hs
  have ⟨state₂, hs₂, hf₂⟩ := h' id state₁ hs₁
  exact ⟨state₂, hs₂, hf₁.trans hf₂⟩

theorem Prepares.step (h : s.Prepares s' intent) : s.IntentsStep s' := by
  rcases h.effect with ⟨_, rfl⟩ | ⟨⟨hi, _⟩, hw⟩
  · exact .refl
  · refine ⟨fun id state hs => ?_, fun id state hs hn => ?_⟩
    · have hs' := hs
      obtain ⟨_, hr, _⟩ := hs'
      refine ⟨state, (hw.holds_of_ne fun he => ?_).mpr hs, .inl rfl⟩
      rw [he] at hr
      simp [initialDispatchState, hi] at hr
    · obtain ⟨row, hr, hd⟩ := hs
      rw [hw.intent] at hr
      split at hr
      case isTrue =>
        obtain rfl := Option.some.inj hr
        obtain ⟨_, rfl⟩ := decodeIntentRow_intentRow.mp hd
        rfl
      case isFalse => simp [hn] at hr

theorem Moves.step (h : s.Moves s' cur new) (hr : s.IntentRows) : s.IntentsStep s' := by
  have hid : new.intent.intentId = cur.intent.intentId := by rw [h.follows.intent]
  refine ⟨fun id state hs => ?_, fun id state hs hn => ?_⟩
  · by_cases hi : id = new.intent.intentId
    case neg => exact ⟨state, (h.writes.holds_of_ne hi).mpr hs, .inl rfl⟩
    case pos =>
      rw [hi] at hs ⊢
      obtain rfl := hs.unique (hid ▸ h.current)
      exact ⟨new, h.writes.holds (h.supported hr), .inr h.follows⟩
  · have ⟨row, hr', hd⟩ := hs
    have ⟨row', hc, _⟩ := h.current
    rw [h.writes.intent, hid] at hr'
    split at hr'
    case isTrue hi => simp [← hi, hn] at hc
    case isFalse   => simp [hn] at hr'

end Stores

end Rows

end GeneralExecution
