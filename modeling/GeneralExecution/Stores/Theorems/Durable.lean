import GeneralExecution.Stores.Durable
import GeneralExecution.Objects.Theorems.Operations

namespace GeneralExecution

-- The schema versions with which a snapshot is read again.
def CapacityTransition.Supported (t : CapacityTransition) : Prop :=
  t.schemaVersion = "ge.capacity-transition.v1" ∧
  (∀ l ∈ t.lease, l.schemaVersion = "ge.capacity-lease.v1") ∧
  ∀ r ∈ t.release, r.schemaVersion = "ge.capacity-release.v1"

def RunnerCapacityState.Supported (s : RunnerCapacityState) : Prop :=
  s.schemaVersion = "ge.runner-capacity-state.v1" ∧ ∀ t ∈ s.transitions, t.Supported

theorem Read.list_normalize_eq_ok {α : Type} {read : Json → Py α} {write : α → PyValue}
    {ok : α → Prop} (h : ∀ x x', read (normalize (write x)) = .ok x' ↔ ok x ∧ x' = x)
    {xs xs' : List α} :
    (normalizeAll (xs.map write)).mapM read = .ok xs' ↔ (∀ x ∈ xs, ok x) ∧ xs' = xs := by
  rw [normalizeAll_eq_map, List.map_map]
  induction xs generalizing xs'
  case nil => simp [pure, Except.pure, eq_comm]
  case cons x xs ih =>
    simp only [List.map_cons, List.mapM_cons, Function.comp_apply, Except.bind_eq_ok, h, ih,
      Except.pure_eq_ok, List.forall_mem_cons]
    constructor
    · rintro ⟨_, ⟨hx, rfl⟩, _, ⟨hxs, rfl⟩, rfl⟩
      exact ⟨⟨hx, hxs⟩, rfl⟩
    · rintro ⟨⟨hx, hxs⟩, rfl⟩
      exact ⟨x, ⟨hx, rfl⟩, xs, ⟨hxs, rfl⟩, rfl⟩

@[simp]
theorem leaseFromDict_normalize {l l' : CapacityLease} :
    leaseFromDict (normalize (.dict (asdict l))) = .ok l' ↔
      l.schemaVersion = "ge.capacity-lease.v1" ∧ l' = l := by
  have hd : distinctKeys (asdict l) = true := rfl
  simp only [leaseFromDict, requireSchema, Py.require, Except.ensure, Field.kwargs, Field.get,
    Field.getD, Field.hasSchema, normalize_get? hd, mem_normalize_keys]
  by_cases h : l.schemaVersion = "ge.capacity-lease.v1"
  case pos =>
    have hn := CapacityLease.new_eq l
    rw [h] at hn
    simpa [asdict, Json.lookup, h, hn] using eq_comm
  case neg => simp [asdict, Json.lookup, h]

@[simp]
theorem releaseFromDict_normalize {r r' : CapacityRelease} :
    releaseFromDict (normalize (.dict (asdict r))) = .ok r' ↔
      r.schemaVersion = "ge.capacity-release.v1" ∧ r' = r := by
  have hd : distinctKeys (asdict r) = true := rfl
  simp only [releaseFromDict, requireSchema, Py.require, Except.ensure, Field.kwargs, Field.get,
    Field.getD, Field.hasSchema, normalize_get? hd, mem_normalize_keys]
  by_cases h : r.schemaVersion = "ge.capacity-release.v1"
  case pos =>
    have hn := CapacityRelease.new_eq r
    rw [h] at hn
    simpa [asdict, Json.lookup, h, hn] using eq_comm
  case neg => simp [asdict, Json.lookup, h]

theorem Read.ifObject_normalize_eq_ok {α : Type} [AsDict α] {read : Json → Py α} {ok : α → Prop}
    (h : ∀ a a', read (normalize (.dict (asdict a))) = .ok a' ↔ ok a ∧ a' = a) {o o' : Option α} :
    Read.ifObject read (normalize (toPy o)) = .ok o' ↔ (∀ a ∈ o, ok a) ∧ o' = o := by
  cases o
  case none => simp [toPy, normalize, Read.ifObject, pure, Except.pure, @eq_comm _ none]
  case some a =>
    change (do return some (← read (normalize (.dict (asdict a))))) = _ ↔ _
    simp only [Except.bind_eq_ok, h, Except.pure_eq_ok, Option.mem_some_iff, forall_eq']
    constructor
    · rintro ⟨_, ⟨ha, rfl⟩, rfl⟩
      exact ⟨ha, rfl⟩
    · rintro ⟨ha, rfl⟩
      exact ⟨a, ⟨ha, rfl⟩, rfl⟩

@[simp]
theorem transitionFromDict_normalize {t t' : CapacityTransition} :
    transitionFromDict (normalize (toPy t)) = .ok t' ↔ t.Supported ∧ t' = t := by
  have hd : distinctKeys (asdict t) = true := rfl
  change transitionFromDict (normalize (.dict (asdict t))) = .ok t' ↔ _
  simp only [transitionFromDict, requireSchema, Py.require, Except.ensure, Field.kwargs, Field.get,
    Field.getD, Field.hasSchema, normalize_get? hd, mem_normalize_keys]
  by_cases h : t.schemaVersion = "ge.capacity-transition.v1"
  case pos =>
    have hn := CapacityTransition.new_eq t
    rw [h] at hn
    simp [asdict, Json.lookup, h, Read.ifObject_normalize_eq_ok fun _ _ => leaseFromDict_normalize,
      Read.ifObject_normalize_eq_ok fun _ _ => releaseFromDict_normalize, hn,
      CapacityTransition.Supported, and_assoc, @eq_comm _ t]
  case neg => simp [asdict, Json.lookup, h, CapacityTransition.Supported]

@[simp]
theorem capacityStateFromDict_normalize {s s' : RunnerCapacityState} :
    capacityStateFromDict (normalize (toPy s)) = .ok s' ↔ s.Supported ∧ s' = s := by
  have hd : distinctKeys (asdict s) = true := rfl
  change capacityStateFromDict (normalize (.dict (asdict s))) = .ok s' ↔ _
  simp only [capacityStateFromDict, requireSchema, Py.require, Except.ensure, Field.kwargs,
    Field.get, Field.getD, Field.hasSchema, normalize_get? hd, mem_normalize_keys]
  by_cases h : s.schemaVersion = "ge.runner-capacity-state.v1"
  case pos =>
    have hn := RunnerCapacityState.new_eq s
    rw [h] at hn
    have ht (ts : List CapacityTransition) :
        transitionsFromJson (some (normalize (toPy s.transitions))) = .ok ts ↔
          (∀ t ∈ s.transitions, t.Supported) ∧ ts = s.transitions :=
      Read.list_normalize_eq_ok fun _ _ => transitionFromDict_normalize
    simp [asdict, Json.lookup, h, ht, hn, RunnerCapacityState.Supported, @eq_comm _ s]
  case neg => simp [asdict, Json.lookup, h, RunnerCapacityState.Supported]

section Snapshots

variable [Sha256] {s s' : RunnerCapacityState} {runner : RunnerCapabilities} {digest : String}

def snapshotDigest (s : RunnerCapacityState) : String :=
  sha256Digest (.dict (snapshotPayload s))

-- A snapshot is read back exactly when all records in it have the supported schemas and the state
-- replays for the runner.
theorem deserializeCapacitySnapshot_serialize :
    deserializeCapacitySnapshot (serializeCapacitySnapshot s) runner = .ok (s', digest) ↔
      s.Supported ∧ verifyCapacityState s runner ∧ s' = s ∧ digest = snapshotDigest s := by
  have hd : distinctKeys (capacitySnapshot s) = true := rfl
  simp only [deserializeCapacitySnapshot, serializeCapacitySnapshot, loads_canonicalJson,
    requireSchema, Except.bind_eq_ok, Py.ofOption_eq_ok, Option.some.injEq, exists_eq_left',
    Py.require_eq_ok, exists_const, Except.pure_eq_ok]
  have hk (k : String) : k ∈ (normalize (.dict (capacitySnapshot s))).keys ↔
      k ∈ ["schema_version", "state", "state_digest", "snapshot_digest"] :=
    mem_normalize_keys
  have he : sha256Digest (ofJson ((normalize (.dict (capacitySnapshot s))).erase
      "snapshot_digest")) = snapshotDigest s := by
    rw [normalize_erase hd, sha256Digest_ofJson_normalize]
    rfl
  have hschema : (normalize (.dict (capacitySnapshot s))).get? "schema_version" =
      some (.str snapshotSchema) := normalize_get? hd _
  have hstate : (normalize (.dict (capacitySnapshot s))).get? "state" =
      some (normalize (toPy s)) := normalize_get? hd _
  have hdigest : (normalize (.dict (capacitySnapshot s))).get? "state_digest" =
      some (.str s.digest) := normalize_get? hd _
  have hsnapshot : (normalize (.dict (capacitySnapshot s))).get? "snapshot_digest" =
      some (.str (snapshotDigest s)) := normalize_get? hd _
  have hobj : (normalize (.dict (capacitySnapshot s))).isObj = true := rfl
  have hobj' : (normalize (toPy s)).isObj = true := rfl
  generalize normalize (.dict (capacitySnapshot s)) = data at *
  simp only [Field.hasSchema, Json.string?, hschema, hstate, hdigest, hsnapshot, he, hobj, hobj',
    List.subset_def, hk, Option.filter, if_true, Option.some.injEq, exists_eq_left',
    capacityStateFromDict_normalize, decide_true, imp_self, implies_true, and_self, true_and,
    Prod.mk.injEq]
  constructor
  · rintro ⟨_, ⟨hs, rfl⟩, _, hv, rfl, rfl⟩
    exact ⟨hs, hv, rfl, rfl⟩
  · rintro ⟨hs, hv, rfl, rfl⟩
    exact ⟨s', ⟨hs, rfl⟩, rfl, hv, rfl, rfl⟩

-- What a snapshot is read as does not depend on the runner it is read for.
theorem deserializeCapacitySnapshot_state {text : String} {runner' : RunnerCapabilities}
    {digest' : String} (h : deserializeCapacitySnapshot text runner = .ok (s, digest))
    (h' : deserializeCapacitySnapshot text runner' = .ok (s', digest')) : s = s' := by
  simp only [deserializeCapacitySnapshot, Except.bind_eq_ok, Py.ofOption_eq_ok, Except.pure_eq_ok,
    Prod.mk.injEq] at h h'
  obtain ⟨j, hj, _, _, _, _, _, _, _, _, _, _, d, hd, st, hs, _, _, _, _, rfl, _⟩ := h
  obtain ⟨j', hj', _, _, _, _, _, _, _, _, _, _, d', hd', st', hs', _, _, _, _, rfl, _⟩ := h'
  obtain rfl : j = j' := Option.some.inj <| hj.symm.trans hj'
  obtain rfl : d = d' := Option.some.inj <| hd.symm.trans hd'
  exact Except.ok.inj <| hs.symm.trans hs'

theorem deserializeCapacitySnapshot_verified {text : String}
    (h : deserializeCapacitySnapshot text runner = .ok (s, digest)) :
    verifyCapacityState s runner = true := by
  simp only [deserializeCapacitySnapshot, Except.bind_eq_ok, Py.require_eq_ok, Except.pure_eq_ok,
    Prod.mk.injEq] at h
  obtain ⟨_, _, _, _, _, _, _, _, _, _, _, _, _, _, _, _, _, _, _, hv, rfl, _⟩ := h
  exact hv

end Snapshots

section Heads

open RunnerCapacityState (Reachable verifyCapacityState_iff_reachable)

variable [Sha256] {state state' : RunnerCapacityState} {runner runner' : RunnerCapabilities}
variable {s s' : Stores} {row : CapacityHeadRow} {head : DurableCapacityHead}

def headRow (state : RunnerCapacityState) : CapacityHeadRow where
  runnerId               := state.runnerId
  runnerCapabilityDigest := state.runnerCapabilityDigest
  stateDigest            := state.digest
  generation             := state.generation
  snapshotDigest         := snapshotDigest state
  snapshotJson           := serializeCapacitySnapshot state

theorem decodeHeadRow_eq_ok :
    decodeHeadRow row runner = .ok (state, head) ↔
      row.runnerCapabilityDigest = runner.digest ∧
      deserializeCapacitySnapshot row.snapshotJson runner = .ok (state, row.snapshotDigest) ∧
      state.digest = row.stateDigest ∧ state.generation = row.generation ∧
      head = headOf state row.snapshotDigest := by
  simp only [decodeHeadRow, Except.bind_eq_ok, Py.require_eq_ok, exists_const, Prod.exists,
    Except.pure_eq_ok, Prod.mk.injEq]
  constructor
  · rintro ⟨h, _, _, hd, ⟨h₁, h₂, rfl⟩, rfl, rfl⟩
    exact ⟨h, hd, h₁, h₂, rfl⟩
  · rintro ⟨h, hd, h₁, h₂, rfl⟩
    exact ⟨h, _, _, hd, ⟨h₁, h₂, rfl⟩, rfl, rfl⟩

-- The store holds `state` as the head of the runner.
def Stores.HoldsHead (s : Stores) (runner : RunnerCapabilities) (state : RunnerCapacityState) :
    Prop :=
  ∃ row, s.head? runner.runnerId = some row ∧
    decodeHeadRow row runner = .ok (state, headOf state row.snapshotDigest)

namespace Stores.HoldsHead

theorem of_decode (hr : s.head? runner.runnerId = some row)
    (hd : decodeHeadRow row runner = .ok (state, head)) : s.HoldsHead runner state :=
  ⟨row, hr, by rwa [(decodeHeadRow_eq_ok.mp hd).right.right.right.right] at hd⟩

theorem verified (h : s.HoldsHead runner state) : verifyCapacityState state runner = true :=
  have ⟨_, _, hd⟩ := h
  deserializeCapacitySnapshot_verified (decodeHeadRow_eq_ok.mp hd).right.left

theorem reachable (h : s.HoldsHead runner state) : Reachable runner state :=
  verifyCapacityState_iff_reachable.mp h.verified

theorem unique (h : s.HoldsHead runner state) (h' : s.HoldsHead runner' state')
    (hr : runner.runnerId = runner'.runnerId) : state = state' := by
  have ⟨row, hs, hd⟩ := h
  have ⟨row', hs', hd'⟩ := h'
  obtain rfl : row = row' := Option.some.inj <| hs.symm.trans <| hr ▸ hs'
  exact deserializeCapacitySnapshot_state (decodeHeadRow_eq_ok.mp hd).right.left
    (decodeHeadRow_eq_ok.mp hd').right.left

theorem congr (h : s.HoldsHead runner state) (hs : s'.head? runner.runnerId = s.head? runner.runnerId) :
    s'.HoldsHead runner state :=
  have ⟨row, hr, hd⟩ := h
  ⟨row, hs.trans hr, hd⟩

end Stores.HoldsHead

theorem decodeHeadRow_headRow (hs : state.Supported)
    (hv : verifyCapacityState state runner = true) :
    decodeHeadRow (headRow state) runner = .ok (state, headOf state (snapshotDigest state)) := by
  have hb := (verifyCapacityState_iff_reachable.mp hv).boundTo
  simp only [boundTo, decide_eq_true_eq] at hb
  exact decodeHeadRow_eq_ok.mpr
    ⟨hb.right.left, deserializeCapacitySnapshot_serialize.mpr ⟨hs, hv, rfl, rfl⟩, rfl, rfl, rfl⟩

-- The only change from `s` to `s'` is that `state` is now the head of its runner.
structure Stores.WritesHead (s s' : Stores) (state : RunnerCapacityState) : Prop where
  head     : ∀ id, s'.head? id = if id = state.runnerId then some (headRow state) else s.head? id
  intents  : s'.dispatchIntents = s.dispatchIntents
  outcomes : s'.observedOutcomes = s.observedOutcomes

namespace Stores.WritesHead

theorem holds (h : s.WritesHead s' state) (hs : state.Supported)
    (hv : verifyCapacityState state runner = true) : s'.HoldsHead runner state := by
  have hb := (verifyCapacityState_iff_reachable.mp hv).boundTo
  simp only [boundTo, decide_eq_true_eq] at hb
  exact .of_decode ((h.head _).trans <| if_pos hb.left.symm) (decodeHeadRow_headRow hs hv)

theorem holds_of_ne (h : s.WritesHead s' state) (hr : runner.runnerId ≠ state.runnerId) :
    s'.HoldsHead runner state' ↔ s.HoldsHead runner state' := by
  have := (h.head runner.runnerId).trans <| if_neg hr
  exact ⟨(·.congr this.symm), (·.congr this)⟩

end Stores.WritesHead

-- `new` is `cur` with one more transition.
structure RunnerCapacityState.Succeeds (new cur : RunnerCapacityState) : Prop where
  generation : new.generation = cur.generation + 1
  previous   : new.previousStateDigest = some cur.digest
  history    : new.transitions.dropLast = cur.transitions

namespace RunnerCapacityState

variable {cur new : RunnerCapacityState} {t : CapacityTransition}

theorem Succeeds.isPrefix (h : new.Succeeds cur) : cur.transitions <+: new.transitions :=
  h.history ▸ List.dropLast_prefix _

theorem extend_succeeds : (cur.extend t).Succeeds cur where
  generation := rfl
  previous   := rfl
  history    := by simp

-- A verified successor is the result of one accepted transition.
theorem Succeeds.exists_step (h : new.Succeeds cur) (hc : Reachable runner cur)
    (hn : Reachable runner new) :
    ∃ t, applyTransitionUnchecked cur t = .ok new ∧ new.transitions = cur.transitions ++ [t] := by
  have hne : new.transitions ≠ [] := fun he => by
    have := new.counted
    simp [h.generation, he] at this
  have hl := List.dropLast_append_getLast hne
  rw [h.history] at hl
  have hr := hn.replays
  rw [← hl, List.foldlM_append, hc.replays, Except.ok_bind, List.foldlM_cons] at hr
  refine ⟨new.transitions.getLast hne, ?_, hl.symm⟩
  simpa using hr

end RunnerCapacityState

omit [Sha256] in
theorem Stores.head?_runnerId {id : String} (h : s.head? id = some row) : row.runnerId = id :=
  ((Table.select_eq_some (by simp)).mp h).right

namespace CapacityHeadStore

variable {expected : String}

theorem commitStatements_eq_ok
    (h : commitStatements runner expected state s = .ok (head, s'))
    (hv : verifyCapacityState state runner = true) :
    ∃ cur, s.HoldsHead runner cur ∧ cur.digest = expected ∧ state.Succeeds cur ∧
      state.Supported ∧ head = headOf state (snapshotDigest state) ∧ s.WritesHead s' state := by
  have hb := (verifyCapacityState_iff_reachable.mp hv).boundTo
  simp only [boundTo, decide_eq_true_eq] at hb
  simp only [commitStatements, Statements.bind_eq_ok, Statements.get_eq_ok, Statements.lift_eq_ok,
    Py.ofOption_eq_ok, Py.require_eq_ok, Statements.set_eq_ok, Statements.pure_eq_ok] at h
  obtain ⟨_, _, ⟨rfl, rfl⟩, row, _, ⟨hr, rfl⟩, ⟨cur, _⟩, _, ⟨hd, rfl⟩, _, _, ⟨rfl, rfl⟩, _, _,
    ⟨hg, rfl⟩, _, _, ⟨hp, rfl⟩, _, _, ⟨ht, rfl⟩, ⟨_, d⟩, _, ⟨hser, rfl⟩, _, _, ⟨_, rfl⟩, _, _, rfl,
    rfl, rfl⟩ := h
  obtain ⟨hs, _, _, rfl⟩ := deserializeCapacitySnapshot_serialize.mp hser
  obtain ⟨_, _, hd', hg', _⟩ := decodeHeadRow_eq_ok.mp hd
  refine ⟨cur, .of_decode hr hd, rfl, ⟨hg, hp, ht⟩, hs, rfl, ?_, rfl, rfl⟩
  intro id
  rw [Stores.head?, Table.select_update (by simp)]
  change (s.head? id).map _ = _
  split
  case isTrue hid =>
    rw [hid, hb.left, hr, Option.map_some]
    simp [Stores.head?_runnerId hr, hd', hg', headRow, hb.left]
  case isFalse hid =>
    cases hi : s.head? id
    case none => rfl
    case some r =>
      have : r.runnerId ≠ runner.runnerId := by rwa [Stores.head?_runnerId hi, ← hb.left]
      simp [this]

-- A commit on the current head succeeds.
theorem commitStatements_of_current {cur : RunnerCapacityState} (hc : s.HoldsHead runner cur)
    (hn : state.Succeeds cur) (hs : state.Supported) (hv : verifyCapacityState state runner = true) :
    ∃ s', commitStatements runner cur.digest state s =
      .ok (headOf state (snapshotDigest state), s') := by
  have ⟨row, hr, hd⟩ := hc
  have ⟨_, _, hd', hg', _⟩ := decodeHeadRow_eq_ok.mp hd
  have hcount : s.capacityHeads.count (fun r => r.runnerId = runner.runnerId ∧
      r.stateDigest = cur.digest ∧ r.generation = cur.generation) = 1 :=
    (Table.count_eq_one (c := CapacityHeadRow.runnerId) (by simp)
      fun r h => (of_decide_eq_true h).left).mpr
      ⟨row, hr, by simp [Stores.head?_runnerId hr, hd', hg']⟩
  have hser := deserializeCapacitySnapshot_serialize.mpr ⟨hs, hv, rfl, rfl⟩
  simp only [commitStatements, Statements.bind_eq_ok, Statements.get_eq_ok, Statements.lift_eq_ok,
    Py.ofOption_eq_ok, Py.require_eq_ok, Statements.set_eq_ok, Statements.pure_eq_ok]
  exact ⟨_, _, _, ⟨rfl, rfl⟩, row, _, ⟨hr, rfl⟩, _, _, ⟨hd, rfl⟩, (), _, ⟨rfl, rfl⟩, (), _,
    ⟨hn.generation, rfl⟩, (), _, ⟨hn.previous, rfl⟩, (), _, ⟨hn.history, rfl⟩, _, _, ⟨hser, rfl⟩,
    (), _, ⟨hcount, rfl⟩, (), _, rfl, rfl, rfl⟩

theorem initializeStatements_eq_ok
    (h : initializeStatements runner state (snapshotDigest state) s = .ok (head, s'))
    (hv : verifyCapacityState state runner = true) :
    s.HoldsHead runner state ∧ s' = s ∨
      s.head? runner.runnerId = none ∧ s.WritesHead s' state := by
  have hb := (verifyCapacityState_iff_reachable.mp hv).boundTo
  simp only [boundTo, decide_eq_true_eq] at hb
  simp only [initializeStatements, Statements.bind_eq_ok, Statements.get_eq_ok] at h
  obtain ⟨_, _, ⟨rfl, rfl⟩, h⟩ := h
  cases hr : s.head? runner.runnerId
  case some row =>
    simp only [hr, Statements.bind_eq_ok, Statements.lift_eq_ok, Py.require_eq_ok,
      Statements.pure_eq_ok] at h
    obtain ⟨⟨_, _⟩, _, ⟨hd, rfl⟩, _, _, ⟨rfl, rfl⟩, _, rfl⟩ := h
    exact .inl ⟨.of_decode hr hd, rfl⟩
  case none =>
    simp only [hr, Statements.bind_eq_ok, Statements.lift_eq_ok, Py.ofOption_eq_ok,
      Statements.set_eq_ok, Statements.pure_eq_ok] at h
    obtain ⟨heads, _, ⟨hi, rfl⟩, _, _, rfl, _, rfl⟩ := h
    refine .inr ⟨rfl, ?_, rfl, rfl⟩
    intro id
    refine (Table.select_insert hi (by simp)).trans ?_
    simp only [eq_comm (b := id)]
    rfl

end CapacityHeadStore

end Heads

section Alone

open RunnerCapacityState (verifyCapacityState_iff_reachable)

variable [Sha256] {s : Stores} {capacity cur new : RunnerCapacityState} {runner : RunnerCapabilities}
variable {auth : PhysicalAttemptAuthorization}

theorem initializeCapacityState_supported : (initializeCapacityState runner).Supported :=
  ⟨rfl, by simp [initializeCapacityState]⟩

-- What the program itself appends is read again.

theorem RunnerCapacityState.Supported.extend {transition : CapacityTransition}
    (h : capacity.Supported) (ht : transition.Supported) :
    (capacity.extend transition).Supported := by
  refine ⟨rfl, fun t hm => ?_⟩
  cases List.mem_append.mp hm
  case inl hm => exact h.right t hm
  case inr hm => exact List.mem_singleton.mp hm ▸ ht

theorem reservedState_supported {slot : Nat} (h : capacity.Supported) :
    (reservedState capacity runner auth slot).Supported := by
  refine h.extend ⟨rfl, fun l hl => ?_, fun r hr => ?_⟩
  · exact Option.mem_some_iff.mp hl ▸ rfl
  · exact absurd hr (by simp [CapacityTransition.release, ReservationLog.Entry.released?])

theorem releasedState_supported {release : CapacityRelease} (h : capacity.Supported)
    (hr : release.schemaVersion = "ge.capacity-release.v1") :
    (releasedState capacity release).Supported := by
  refine h.extend ⟨rfl, fun l hl => ?_, fun r hr' => ?_⟩
  · exact absurd hl (by simp [CapacityTransition.lease, ReservationLog.Entry.reserved?])
  · exact Option.mem_some_iff.mp hr' ▸ hr

-- Calls that run alone and succeed.

omit [Sha256] in
theorem StoreCall.query_run {α : Type} (f : Stores → α) :
    (StoreCall.query f).run s = (.ok (f s), s) :=
  rfl

namespace CapacityHeadStore

theorem initializeHead_run (hn : s.head? runner.runnerId = none) (hs : capacity.Supported)
    (hv : verifyCapacityState capacity runner = true) :
    ∃ s', (initializeHead runner capacity).run s = (.ok (headOf capacity (snapshotDigest capacity)), s') ∧
      s.WritesHead s' capacity := by
  have hd := deserializeCapacitySnapshot_serialize.mpr ⟨hs, hv, rfl, rfl⟩
  have hb := (verifyCapacityState_iff_reachable.mp hv).boundTo
  simp only [boundTo, decide_eq_true_eq] at hb
  obtain ⟨t, ht⟩ : ∃ t, s.capacityHeads.insert? (headRow capacity) = some t := by
    apply Table.insert?_of_fresh
    simp only [List.mem_singleton, forall_eq]
    exact (congrArg s.head? hb.left).trans hn
  have hstmt : initializeStatements runner capacity (snapshotDigest capacity) s =
      .ok (headOf capacity (snapshotDigest capacity), { s with capacityHeads := t }) := by
    simp only [headRow] at ht
    simp only [initializeStatements, Statements.bind_eq_ok, Statements.get_eq_ok]
    refine ⟨s, s, ⟨rfl, rfl⟩, ?_⟩
    simp only [hn, Statements.bind_eq_ok, Statements.lift_eq_ok, Py.ofOption_eq_ok,
      Statements.set_eq_ok, Statements.pure_eq_ok]
    exact ⟨t, s, ⟨ht, rfl⟩, (), _, rfl, trivial, rfl⟩
  refine ⟨{ s with capacityHeads := t }, ?_, ?_⟩
  · simp only [initializeHead, Program.bind_run_ok, Program.lift_run, Prod.mk.injEq,
      Py.require_eq_ok, Program.transaction_run_ok]
    exact ⟨(), s, ⟨hv, rfl⟩, _, s, ⟨hd, rfl⟩, hstmt⟩
  · rcases initializeStatements_eq_ok hstmt hv with ⟨⟨_, hr, _⟩, _⟩ | ⟨_, hw⟩
    · simp [hn] at hr
    · exact hw

theorem commit_run (hc : s.HoldsHead runner cur) (hn : new.Succeeds cur) (hs : new.Supported)
    (hv : verifyCapacityState new runner = true) :
    ∃ s', (commit runner cur.digest new).run s = (.ok (headOf new (snapshotDigest new)), s') ∧
      s.WritesHead s' new := by
  have ⟨s', h⟩ := commitStatements_of_current hc hn hs hv
  have ⟨_, _, _, _, _, _, hw⟩ := commitStatements_eq_ok h hv
  refine ⟨s', ?_, hw⟩
  simp only [commit, Program.bind_run_ok, Program.lift_run, Prod.mk.injEq, Py.require_eq_ok,
    Program.transaction_run_ok]
  exact ⟨(), s, ⟨hv, rfl⟩, h⟩

theorem load_run (hc : s.HoldsHead runner capacity) :
    ∃ head, (load runner).run s = (.ok (capacity, head), s) := by
  have ⟨row, hr, hd⟩ := hc
  refine ⟨headOf capacity row.snapshotDigest, ?_⟩
  rw [load, Program.bind_run, StoreCall.query_run]
  simp only [hr]
  rw [hd, Program.lift_run]

-- A runner's first lease is committed.
theorem exists_firstReserved (runner : RunnerCapabilities) (request : AdapterDispatchRequest) :
    ∃ s₁ s₂ head₁ head₂,
      (initializeHead runner (initializeCapacityState runner)).run .empty = (.ok head₁, s₁) ∧
      (commit runner (initializeCapacityState runner).digest (firstReserved runner request)).run s₁ =
        (.ok head₂, s₂) ∧
      s₂.HoldsHead runner (firstReserved runner request) ∧
      s₂.dispatchIntents = .empty ∧ s₂.observedOutcomes = .empty := by
  have hv : verifyCapacityState (initializeCapacityState runner) runner = true :=
    verifyCapacityState_iff_reachable.mpr .initial
  have hv' : verifyCapacityState (firstReserved runner request) runner = true :=
    verifyCapacityState_iff_reachable.mpr <| firstReserved_reachable ..
  have hs : (firstReserved runner request).Supported :=
    reservedState_supported initializeCapacityState_supported
  have ⟨s₁, h₁, hw₁⟩ := initializeHead_run (s := .empty) rfl initializeCapacityState_supported hv
  have hc := hw₁.holds initializeCapacityState_supported hv
  have ⟨s₂, h₂, hw₂⟩ := commit_run hc RunnerCapacityState.extend_succeeds hs hv'
  exact ⟨s₁, s₂, _, _, h₁, h₂, hw₂.holds hs hv', hw₂.intents.trans hw₁.intents,
    hw₂.outcomes.trans hw₁.outcomes⟩

end CapacityHeadStore

end Alone

end GeneralExecution
