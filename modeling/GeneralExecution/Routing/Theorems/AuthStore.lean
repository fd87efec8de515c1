import GeneralExecution.Primitives.KeyedLog
import GeneralExecution.Routing.AuthStore

namespace GeneralExecution

-- What is written is read back.

@[simp]
theorem authLeaseFromDict_normalize [IsoFormat] (l : ProviderAuthLease) :
    authLeaseFromDict (normalize (toPy l)) = .ok l := by
  have hd : distinctKeys (asdict l) = true := rfl
  change authLeaseFromDict (normalize (.dict (asdict l))) = _
  simp only [authLeaseFromDict, Py.require, Except.ensure, Field.kwargs, Field.get, Field.getD,
    normalize_get? hd, mem_normalize_keys]
  simp [asdict, Json.lookup, ProviderAuthLease.new_eq l, Py.wrap]

@[simp]
theorem queueItemFromDict_normalize (i : ProviderAuthQueueItem) :
    queueItemFromDict (normalize (toPy i)) = .ok i := by
  have hd : distinctKeys (asdict i) = true := rfl
  change queueItemFromDict (normalize (.dict (asdict i))) = _
  simp only [queueItemFromDict, Py.require, Except.ensure, Field.kwargs, Field.get, Field.getD,
    normalize_get? hd, mem_normalize_keys]
  simp [asdict, Json.lookup, ProviderAuthQueueItem.new_eq i, Py.wrap]

@[simp]
theorem queueRecordOfFields_normalize (r : ProviderAuthQueueRecord) :
    queueRecordOfFields r.item (normalize (toPy r)) = .ok r := by
  have hd : distinctKeys (asdict r) = true := rfl
  change queueRecordOfFields r.item (normalize (.dict (asdict r))) = _
  simp only [queueRecordOfFields, Py.require, Except.ensure, Field.kwargs, Field.getD,
    normalize_get? hd, mem_normalize_keys]
  simp [asdict, Json.lookup, ProviderAuthQueueRecord.new_eq r]

@[simp]
theorem queueRecordFromDict_normalize (r : ProviderAuthQueueRecord) :
    queueRecordFromDict (normalize (toPy r)) = .ok r := by
  have hd : distinctKeys (asdict r) = true := rfl
  have ho : (normalize (toPy r.item)).isObj = true := rfl
  have hr : (normalize (toPy r)).get? "item" = some (normalize (toPy r.item)) := by
    change (normalize (.dict (asdict r))).get? _ = _
    rw [normalize_get? hd]
    simp [asdict, Json.lookup]
  simp [queueRecordFromDict, hr, ho, Option.filter, Py.ofOption, Except.ofOption, Py.wrap]

theorem PyLiteral.spelling_injective {α : Type} [PyLiteral α] :
    Function.Injective (PyLiteral.spelling (α := α)) := by
  intro a b h
  have ha := PyLiteral.parse_spelling a
  rw [h, PyLiteral.parse_spelling b, Option.some.injEq] at ha
  exact ha.symm

variable [Sha256] {s s' : ProviderAuthState} {record : ProviderAuthQueueRecord}
variable {item : ProviderAuthQueueItem} {queueRow : AuthQueueRow} {id : String}

@[simp]
theorem decodeQueue_row : decodeQueue (authQueueRow record) = .ok record := by
  simp [decodeQueue, authQueueRow, Py.ofOption, Except.ofOption, Py.require, Except.ensure]

section

variable [IsoFormat] {lease cur next : ProviderAuthLease} {row : AuthLeaseRow}

@[simp]
theorem decodeLease_row : decodeLease (authLeaseRow lease) = .ok lease := by
  simp [decodeLease, authLeaseRow, Py.ofOption, Except.ofOption, Py.require, Except.ensure]

-- The leases of the providers and their surfaces, each the outcome of the observations of it.
def authLeases :
    KeyedLog (String × AuthSurface) ProviderAuthObservation PyError ProviderAuthLease where
  key observation := (observation.providerId, observation.surface)
  next
    | none,     observation => initializeAuthLease observation
    | some cur, observation => applyAuthObservation cur observation

end

-- What an accepted observation says is what the lease says.
structure ProviderAuthLease.Tells [IsoFormat] (lease : ProviderAuthLease)
    (observation : ProviderAuthObservation) : Prop where
  key            : (lease.providerId, lease.surface) = authLeases.key observation
  state          : lease.state = stateForOutcome observation.outcome
  observedAt     : lease.lastObservedAt = observation.observedAt
  evidenceRef    : lease.lastEvidenceRef = observation.evidenceRef
  evidenceDigest : lease.lastEvidenceDigest = observation.evidenceDigest

theorem ProviderAuthLease.Tells.primaryKey [IsoFormat] {lease : ProviderAuthLease}
    {observation : ProviderAuthObservation} (h : lease.Tells observation) :
    (authLeaseRow lease).primaryKey =
      (observation.providerId, PyLiteral.spelling observation.surface) :=
  congrArg (fun k : String × AuthSurface => (k.1, PyLiteral.spelling k.2)) h.key

-- The time of the second lease is not before the time of the first.
def ProviderAuthLease.NotAfter [IsoFormat] (cur next : ProviderAuthLease) : Prop :=
  ∃ t t', authTime cur.lastObservedAt "last_observed_at" = .ok t ∧
    authTime next.lastObservedAt "last_observed_at" = .ok t' ∧ t ≤ t'

-- The lease that an observation makes of the one before it.
structure ProviderAuthLease.Follows [IsoFormat] (cur next : ProviderAuthLease) : Prop where
  key         : (next.providerId, next.surface) = (cur.providerId, cur.surface)
  generation  : next.generation = cur.generation + 1
  predecessor : next.previousLeaseDigest = some cur.digest
  notAfter    : cur.NotAfter next

section

variable [IsoFormat] {lease cur : ProviderAuthLease} {observation : ProviderAuthObservation}

omit [Sha256] in
theorem authTime_eq_ok {value field : String} {t : Int} :
    authTime value field = .ok t ↔ ¬Text.Blank value ∧
      ∃ d, IsoFormat.fromisoformat? (replaceZulu (Text.stripped value).toList) = some d ∧ d.Aware ∧
        (0 ≤ d.instant ∧ d.instant ≤ Datetime.maxInstant) ∧ d.instant = t := by
  simp [authTime, authNonempty]

omit [Sha256] in
-- The name of the field only stands in the message.
theorem authTime_congr {value : String} (field field' : String) {t : Int}
    (h : authTime value field = .ok t) : authTime value field' = .ok t :=
  authTime_eq_ok.mpr (authTime_eq_ok.mp h)

omit [Sha256] in
theorem ProviderAuthLease.new_eq_ok {providerId lastObservedAt ref digest schemaVersion : String}
    {surface : AuthSurface} {state : AuthLeaseState} {generation : Nat} {previous : Option String}
    {credentials cookies tokens authority : Bool}
    (h : new providerId surface state generation lastObservedAt ref digest previous credentials
      cookies tokens authority schemaVersion = .ok lease) :
    lease.providerId = providerId ∧ lease.surface = surface ∧ lease.state = state ∧
      lease.generation = generation ∧ lease.lastObservedAt = lastObservedAt ∧
      lease.lastEvidenceRef = ref ∧ lease.lastEvidenceDigest = digest ∧
      lease.previousLeaseDigest = previous := by
  simp only [new, Except.bind_eq_ok, Except.pure_eq_ok] at h
  obtain ⟨_, _, _, _, _, _, _, _, _, _, _, _, _, _, _, _, _, _, rfl⟩ := h
  exact ⟨rfl, rfl, rfl, rfl, rfl, rfl, rfl, rfl⟩

theorem initializeAuthLease_eq_ok (h : initializeAuthLease observation = .ok lease) :
    lease.Tells observation ∧ lease.generation = 0 ∧ lease.previousLeaseDigest = none := by
  obtain ⟨hp, hs, hstate, hg, ht, hr, hd, hprev⟩ := ProviderAuthLease.new_eq_ok h
  exact ⟨⟨Prod.ext hp hs, hstate, ht, hr, hd⟩, hg, hprev⟩

theorem applyAuthObservation_eq_ok (h : applyAuthObservation cur observation = .ok lease) :
    lease.Tells observation ∧ cur.Follows lease := by
  simp only [applyAuthObservation, Except.bind_eq_ok, Py.require_eq_ok, exists_const] at h
  obtain ⟨hp, hs, t', ht', t, ht, hle, h⟩ := h
  obtain ⟨hlp, hls, hstate, hg, hto, hr, hd, hprev⟩ := ProviderAuthLease.new_eq_ok h
  have hkey : (lease.providerId, lease.surface) = (cur.providerId, cur.surface) := Prod.ext hlp hls
  refine ⟨⟨hkey.trans (Prod.ext hp hs).symm, hstate, hto, hr, hd⟩, hkey, hg, hprev, t, t', ht, ?_, hle⟩
  rw [hto]
  exact authTime_congr _ _ ht'

end

inductive AuthQueueOperation
  | enqueue (item : ProviderAuthQueueItem)
  | markDrained (queueId expectedItemDigest evidenceRef evidenceDigest : String)

def queuedRecord (item : ProviderAuthQueueItem) : ProviderAuthQueueRecord where
  item                := item
  status              := .queued
  drainEvidenceRef    := none
  drainEvidenceDigest := none
  version             := rfl
  evidence            := ⟨rfl, rfl⟩

-- The records of the queue, each the outcome of what has been asked under its id.
def authQueue : KeyedLog String AuthQueueOperation PyError ProviderAuthQueueRecord where
  key
    | .enqueue item           => item.queueId
    | .markDrained queueId .. => queueId
  next
    | none,     .enqueue item => return queuedRecord item
    | none,     .markDrained .. =>
      Py.raise .persistentAuthLeaseError "provider queue item does not exist"
    | some cur, .enqueue item => do
      Py.require (cur.item = item) .persistentAuthLeaseError
        "queue_id already bound to a different provider work item"
      return cur
    | some cur, .markDrained _ expectedItemDigest evidenceRef evidenceDigest => do
      Py.require (cur.item.digest = expectedItemDigest) .persistentAuthLeaseError
        "provider queue item digest mismatch"
      if cur.status = .drained then return cur
      else
        ProviderAuthQueueRecord.new cur.item .drained (some evidenceRef) (some evidenceDigest)
          "ge.provider-auth-queue-record.v1"

omit [Sha256] in
theorem ProviderAuthQueueRecord.new_eq_ok {status : QueueStatus} {ref digest : Option String}
    {schemaVersion : String} (h : new item status ref digest schemaVersion = .ok record) :
    record.item = item ∧ record.status = status ∧ record.drainEvidenceRef = ref ∧
      record.drainEvidenceDigest = digest := by
  simp only [new, Except.bind_eq_ok, Except.pure_eq_ok] at h
  obtain ⟨_, _, _, _, rfl⟩ := h
  exact ⟨rfl, rfl, rfl, rfl⟩

-- A call has asked for the drain of a record, and has named its item.
def ProviderAuthQueueRecord.DrainedBy (record : ProviderAuthQueueRecord)
    (operation : AuthQueueOperation) : Prop :=
  ∃ evidenceRef evidenceDigest,
    operation = .markDrained record.item.queueId record.item.digest evidenceRef evidenceDigest ∧
      record.drainEvidenceRef = some evidenceRef ∧
      record.drainEvidenceDigest = some evidenceDigest

theorem authQueue_next_none {operation : AuthQueueOperation} {record : ProviderAuthQueueRecord}
    (h : authQueue.next none operation = .ok record) :
    ∃ item, operation = .enqueue item ∧ record = queuedRecord item := by
  cases operation
  case enqueue item => exact ⟨item, rfl, (Except.ok.inj h).symm⟩
  case markDrained  => cases h

-- What is made of a record is the record itself, or the one that a drain makes of it.
theorem authQueue_next_some {operation : AuthQueueOperation} {cur record : ProviderAuthQueueRecord}
    (hid : cur.item.queueId = authQueue.key operation)
    (h : authQueue.next (some cur) operation = .ok record) :
    record.item = cur.item ∧ (record = cur ∨ cur.status = .queued ∧ record.status = .drained ∧
      record.DrainedBy operation) := by
  cases operation
  case enqueue item =>
    simp only [authQueue, Except.bind_eq_ok, Py.require_eq_ok, Except.pure_eq_ok, exists_const] at h
    exact ⟨by rw [h.right], .inl h.right.symm⟩
  case markDrained queueId expectedItemDigest evidenceRef evidenceDigest =>
    simp only [authQueue, Except.bind_eq_ok, Py.require_eq_ok, exists_const] at h
    obtain ⟨hd, h⟩ := h
    by_cases hq : cur.status = .drained
    case pos =>
      rw [if_pos hq] at h
      cases Except.ok.inj h
      exact ⟨rfl, .inl rfl⟩
    case neg =>
      rw [if_neg hq] at h
      obtain ⟨hitem, hstatus, href, hdigest⟩ := ProviderAuthQueueRecord.new_eq_ok h
      refine ⟨hitem, .inr ⟨?_, hstatus, evidenceRef, evidenceDigest, ?_, href, hdigest⟩⟩
      case refine_1 => cases hs : cur.status <;> simp_all
      case refine_2 =>
        rw [hitem, hid, hd]
        rfl

namespace ProviderAuthState

def record? (s : ProviderAuthState) (queueId : String) : Option ProviderAuthQueueRecord :=
  (s.queueRow? queueId).bind fun row => (decodeQueue row).toOption

theorem record?_of_row (h : s.queueRow? id = some (authQueueRow record)) :
    s.record? id = some record := by
  rw [record?, h, Option.bind_some, decodeQueue_row]
  rfl

-- A store of which one record has been written.
theorem record?_of_rows
    (h : ∀ id, s'.queueRow? id =
      if record.item.queueId = id then some (authQueueRow record) else s.queueRow? id)
    (id : String) :
    s'.record? id = if record.item.queueId = id then some record else s.record? id := by
  by_cases hid : record.item.queueId = id
  case pos =>
    rw [if_pos hid]
    exact record?_of_row <| (h id).trans (if_pos hid)
  case neg => rw [if_neg hid, record?, record?, h, if_neg hid]

variable [IsoFormat] {lease : ProviderAuthLease} {row : AuthLeaseRow} {k : String × AuthSurface}

-- The lease of a provider and a surface.
def lease? (s : ProviderAuthState) (k : String × AuthSurface) : Option ProviderAuthLease :=
  (s.leaseRow? k.1 (PyLiteral.spelling k.2)).bind fun row => (decodeLease row).toOption

theorem lease?_of_row
    (h : s.leaseRow? k.1 (PyLiteral.spelling k.2) = some (authLeaseRow lease)) :
    s.lease? k = some lease := by
  rw [lease?, h, Option.bind_some, decodeLease_row]
  rfl

-- A store of which one lease has been written.
theorem lease?_of_rows
    (h : ∀ p u, s'.leaseRow? p u =
      if (authLeaseRow lease).primaryKey = (p, u) then some (authLeaseRow lease)
      else s.leaseRow? p u) (k : String × AuthSurface) :
    s'.lease? k = if (lease.providerId, lease.surface) = k then some lease else s.lease? k := by
  by_cases hk : (lease.providerId, lease.surface) = k
  case pos =>
    subst hk
    rw [if_pos rfl]
    exact lease?_of_row <| (h _ _).trans (if_pos rfl)
  case neg =>
    have hne : ¬(authLeaseRow lease).primaryKey = (k.1, PyLiteral.spelling k.2) := by
      intro he
      simp only [AuthLeaseRow.primaryKey, authLeaseRow, Prod.mk.injEq] at he
      exact hk <| Prod.ext he.left (PyLiteral.spelling_injective he.right)
    rw [if_neg hk, lease?, lease?, h, if_neg hne]

-- Every row is the row of a lease or of a record.
structure Kept (s : ProviderAuthState) : Prop where
  leases : ∀ row ∈ s.leases.rows, ∃ lease, row = authLeaseRow lease
  queue  : ∀ row ∈ s.queue.rows, ∃ record, row = authQueueRow record

theorem Kept.empty : Kept .empty where
  leases := by simp [ProviderAuthState.empty, Table.empty]
  queue  := by simp [ProviderAuthState.empty, Table.empty]

namespace Kept

theorem leaseRow? (hs : s.Kept) (k : String × AuthSurface) :
    s.leaseRow? k.1 (PyLiteral.spelling k.2) = (s.lease? k).map authLeaseRow := by
  cases hr : s.leaseRow? k.1 (PyLiteral.spelling k.2)
  case none     => rw [lease?, hr]; rfl
  case some row =>
    obtain ⟨lease, rfl⟩ := hs.leases row <| List.mem_of_find?_eq_some hr
    rw [lease?_of_row hr, Option.map_some]

theorem key_of_lease? (hs : s.Kept) (h : s.lease? k = some lease) :
    (lease.providerId, lease.surface) = k := by
  have hr := hs.leaseRow? k
  rw [h, Option.map_some] at hr
  have hk := ((Table.select_eq_some (by simp)).mp hr).right
  simp only [AuthLeaseRow.primaryKey, authLeaseRow, Prod.mk.injEq] at hk
  exact Prod.ext hk.left (PyLiteral.spelling_injective hk.right)

theorem queueRow? (hs : s.Kept) (id : String) :
    s.queueRow? id = (s.record? id).map authQueueRow := by
  cases hr : s.queueRow? id
  case none     => rw [record?, hr]; rfl
  case some row =>
    obtain ⟨record, rfl⟩ := hs.queue row <| List.mem_of_find?_eq_some hr
    rw [record?_of_row hr, Option.map_some]

theorem queueId_of_record? (hs : s.Kept) (h : s.record? id = some record) :
    record.item.queueId = id := by
  have hr := hs.queueRow? id
  rw [h, Option.map_some] at hr
  exact ((Table.select_eq_some (by simp)).mp hr).right

end Kept

end ProviderAuthState

open ProviderAuthState

namespace SqliteProviderAuthStateStore

section

variable [IsoFormat] {lease cur : ProviderAuthLease} {observation : ProviderAuthObservation}

-- A transaction on a lease makes the next entry of it, and touches nothing else.
structure Observes (s s' : ProviderAuthState) (observation : ProviderAuthObservation)
    (lease : ProviderAuthLease) : Prop where
  kept   : s'.Kept
  leases : ∀ k, s'.lease? k = if authLeases.key observation = k then some lease else s.lease? k
  queue  : s'.queue = s.queue

theorem observeStatements_of_new (hs : s.Kept) (hn : s.lease? (authLeases.key observation) = none)
    (h : initializeAuthLease observation = .ok lease) :
    ∃ s', observeStatements observation s = .ok (lease, s') ∧ Observes s s' observation lease := by
  have ⟨htells, _⟩ := initializeAuthLease_eq_ok h
  have hrow : s.leaseRow? observation.providerId (PyLiteral.spelling observation.surface) = none := by
    have hrow := hs.leaseRow? (authLeases.key observation)
    rwa [hn] at hrow
  have hfresh : ∀ c ∈ [AuthLeaseRow.primaryKey],
      s.leases.select c (c (authLeaseRow lease)) = none := by
    rw [List.forall_mem_singleton, htells.primaryKey]
    exact hrow
  obtain ⟨leases, hi⟩ := Table.insert?_of_fresh hfresh
  refine ⟨{ s with leases := leases }, ?_, ?_, ?_, rfl⟩
  case refine_1 =>
    simp only [observeStatements, Statements.get_bind_eq_ok, hrow, Statements.lift_bind_eq_ok,
      Py.ofOption_eq_ok, Statements.set_bind_eq_ok, Statements.pure_eq_ok]
    exact ⟨lease, h, leases, hi, rfl, rfl⟩
  case refine_2 =>
    refine ⟨fun row hr => ?_, hs.queue⟩
    rw [(Table.insert?_eq_some.mp hi).right, List.mem_append, List.mem_singleton] at hr
    exact hr.elim (hs.leases row) fun he => ⟨lease, he⟩
  case refine_3 =>
    rw [← htells.key]
    exact lease?_of_rows fun p u => Table.select_insert hi (by simp)

theorem observeStatements_of_known (hs : s.Kept)
    (hn : s.lease? (authLeases.key observation) = some cur)
    (h : applyAuthObservation cur observation = .ok lease) :
    ∃ s', observeStatements observation s = .ok (lease, s') ∧ Observes s s' observation lease := by
  have ⟨htells, hfollows⟩ := applyAuthObservation_eq_ok h
  have hrow : s.leaseRow? observation.providerId (PyLiteral.spelling observation.surface) =
      some (authLeaseRow cur) := by
    have hrow := hs.leaseRow? (authLeases.key observation)
    rwa [hn] at hrow
  have hself : observed cur (authLeaseRow cur) = true := by simp [observed, authLeaseRow]
  have hkey (row : AuthLeaseRow) (hp : observed cur row = true) : row.primaryKey =
      (observation.providerId, PyLiteral.spelling observation.surface) := by
    have ⟨hpid, hsurface, _⟩ := of_decide_eq_true hp
    have hk := hs.key_of_lease? hn
    simp only [authLeases, Prod.mk.injEq] at hk
    exact Prod.ext (hpid.trans hk.left) (hsurface.trans (congrArg _ hk.right))
  have hp (row : AuthLeaseRow) (hr : row ∈ s.leases.rows) :
      observed cur row = true ↔ row = authLeaseRow cur := by
    refine ⟨fun hpr => ?_, fun he => he ▸ hself⟩
    have hselect := (Table.select_eq_some (t := s.leases) (by simp)).mpr ⟨hr, hkey row hpr⟩
    exact Option.some.inj <| hselect.symm.trans hrow
  have hnext : observedRow lease (authLeaseRow cur) = authLeaseRow lease := by
    have he := hfollows.key
    simp only [Prod.mk.injEq] at he
    simp [observedRow, authLeaseRow, he.left, he.right]
  refine ⟨{ s with
    leases := s.leases.update (observed cur) (observedRow lease) (observedRow_unique lease) }, ?_, ?_,
    ?_, rfl⟩
  case refine_1 =>
    have hcount := (Table.count_eq_one (t := s.leases) (by simp) hkey).mpr ⟨_, hrow, hself⟩
    simp only [observeStatements, Statements.get_bind_eq_ok, hrow, Statements.lift_bind_eq_ok,
      decodeLease_row, Py.require_eq_ok, Statements.set_bind_eq_ok, Statements.pure_eq_ok]
    exact ⟨cur, rfl, lease, h, (), hcount, rfl, rfl⟩
  case refine_2 =>
    refine ⟨fun row hr => ?_, hs.queue⟩
    exact (Table.mem_update_one (h := observedRow_unique lease) hp hr).elim (hs.leases row) fun he =>
      ⟨lease, he.trans hnext⟩
  case refine_3 =>
    have hselect := Table.select_update_one (h := observedRow_unique lease) (by simp) hrow hp
    rw [hnext] at hselect
    rw [← htells.key]
    exact lease?_of_rows fun p u => htells.primaryKey ▸ hselect (p, u)

theorem observeStatements_of_error {e : PyError} (hs : s.Kept)
    (h : authLeases.next (s.lease? (authLeases.key observation)) observation = .error e) :
    observeStatements observation s = .error e := by
  have hrow : s.leaseRow? observation.providerId (PyLiteral.spelling observation.surface) = _ :=
    hs.leaseRow? (authLeases.key observation)
  cases hn : s.lease? (authLeases.key observation)
  case none =>
    rw [hn] at h hrow
    have hi : initializeAuthLease observation = .error e := h
    simp only [observeStatements, Statements.get_bind, hrow, Option.map_none, Statements.lift_bind, hi]
    rfl
  case some cur =>
    rw [hn] at h hrow
    have ha : applyAuthObservation cur observation = .error e := h
    simp only [observeStatements, Statements.get_bind, hrow, Option.map_some, Statements.lift_bind,
      decodeLease_row, Except.ok_bind, ha]
    rfl

-- An observation makes the next lease, or is refused and changes nothing.
theorem observe_run {r : Py ProviderAuthLease} (hs : s.Kept)
    (h : (observe observation).run s = (r, s')) :
    r = authLeases.next (s.lease? (authLeases.key observation)) observation ∧
      (∀ lease, r = .ok lease → Observes s s' observation lease) ∧ ∀ e, r = .error e → s' = s := by
  rw [observe, Program.transaction_run] at h
  cases hl : authLeases.next (s.lease? (authLeases.key observation)) observation
  case ok lease =>
    obtain ⟨s₁, hrun, ho⟩ : ∃ s₁, observeStatements observation s = .ok (lease, s₁) ∧
        Observes s s₁ observation lease := by
      cases hn : s.lease? (authLeases.key observation)
      all_goals rw [hn] at hl
      case none     => exact observeStatements_of_new hs hn hl
      case some cur => exact observeStatements_of_known hs hn hl
    rw [hrun] at h
    cases h
    exact ⟨rfl, fun lease' he => (by cases he; exact ho), fun e he => by cases he⟩
  case error e =>
    rw [observeStatements_of_error hs hl] at h
    cases h
    exact ⟨rfl, fun lease' he => (by cases he), fun e he => rfl⟩

variable {queueId expectedItemDigest evidenceRef evidenceDigest : String}
variable {operation : AuthQueueOperation}

-- A transaction on a record makes the next entry of it, and touches nothing else.
structure Queues (s s' : ProviderAuthState) (record : ProviderAuthQueueRecord) : Prop where
  kept    : s'.Kept
  records : ∀ id, s'.record? id = if record.item.queueId = id then some record else s.record? id
  leases  : s'.leases = s.leases

theorem Queues.refl (hs : s.Kept) (h : s.record? id = some record) : Queues s s record where
  kept       := hs
  records id' := by
    have hid := hs.queueId_of_record? h
    by_cases he : record.item.queueId = id'
    case pos => rw [if_pos he, ← he, hid, h]
    case neg => rw [if_neg he]
  leases     := rfl

-- The statements of an operation on the queue.
def queueStatements : AuthQueueOperation → AuthTransaction ProviderAuthQueueRecord
  | .enqueue item => enqueueStatements item
  | .markDrained queueId expectedItemDigest evidenceRef evidenceDigest =>
    markDrainedStatements queueId expectedItemDigest evidenceRef evidenceDigest

theorem queueStatements_of_new (hs : s.Kept) (hn : s.record? item.queueId = none) :
    ∃ s', queueStatements (.enqueue item) s = .ok (queuedRecord item, s') ∧
      Queues s s' (queuedRecord item) := by
  have hrow : s.queueRow? item.queueId = none := by rw [hs.queueRow?, hn]; rfl
  have hfresh : ∀ c ∈ [AuthQueueRow.queueId],
      s.queue.select c (c (authQueueRow (queuedRecord item))) = none :=
    List.forall_mem_singleton.mpr hrow
  obtain ⟨queue, hi⟩ := Table.insert?_of_fresh hfresh
  refine ⟨{ s with queue := queue }, ?_, ⟨hs.leases, fun row hr => ?_⟩, ?_, rfl⟩
  case refine_1 =>
    simp only [queueStatements, enqueueStatements, Statements.lift_bind_eq_ok,
      Statements.get_bind_eq_ok]
    refine ⟨queuedRecord item, ProviderAuthQueueRecord.new_eq (queuedRecord item), ?_⟩
    simp only [hrow, Statements.lift_bind_eq_ok, Py.ofOption_eq_ok, Statements.set_bind_eq_ok,
      Statements.pure_eq_ok]
    exact ⟨queue, hi, trivial, rfl⟩
  case refine_2 =>
    rw [(Table.insert?_eq_some.mp hi).right, List.mem_append, List.mem_singleton] at hr
    exact hr.elim (hs.queue row) fun he => ⟨_, he⟩
  case refine_3 => exact record?_of_rows fun id => Table.select_insert hi (by simp)

-- What is known under its id already is compared, and returned.
theorem enqueueStatements_of_known {cur : ProviderAuthQueueRecord} (hs : s.Kept)
    (hn : s.record? item.queueId = some cur) :
    enqueueStatements item s =
      authQueue.next (some cur) (.enqueue item) >>= fun record => .ok (record, s) := by
  have hrow : s.queueRow? item.queueId = some (authQueueRow cur) := by rw [hs.queueRow?, hn]; rfl
  have hnew : ProviderAuthQueueRecord.new item .queued none none
    "ge.provider-auth-queue-record.v1" = _ := ProviderAuthQueueRecord.new_eq (queuedRecord item)
  rw [enqueueStatements, hnew, Statements.lift_bind, Except.ok_bind, Statements.get_bind, hrow]
  simp only [Statements.lift_bind, decodeQueue_row, Except.ok_bind, authQueue]
  by_cases hi : cur.item = item
  case pos => rw [Py.require_of hi]; rfl
  case neg => rw [Py.require_of_not hi]; rfl

theorem markDrainedStatements_of_missing (hs : s.Kept) (hn : s.record? queueId = none) :
    markDrainedStatements queueId expectedItemDigest evidenceRef evidenceDigest s =
      Py.raise .persistentAuthLeaseError "provider queue item does not exist" := by
  have hrow : s.queueRow? queueId = none := by rw [hs.queueRow?, hn]; rfl
  rw [markDrainedStatements, Statements.get_bind, hrow]
  rfl

-- The store after a record has been drained.
def drainedState (s : ProviderAuthState) (queueId : String) (cur next : ProviderAuthQueueRecord) :
    ProviderAuthState :=
  { s with queue := s.queue.update (drainable queueId cur) (drainedRow next) (drainedRow_unique next) }

section

variable {cur : ProviderAuthQueueRecord}

theorem drainable_iff (hs : s.Kept) (hn : s.record? queueId = some cur) (hq : cur.status ≠ .drained) :
    ∀ row ∈ s.queue.rows, drainable queueId cur row = true ↔ row = authQueueRow cur := by
  have hrow : s.queueRow? queueId = some (authQueueRow cur) := by rw [hs.queueRow?, hn]; rfl
  intro row hr
  constructor
  case mp =>
    intro hp
    have hselect := (Table.select_eq_some (t := s.queue) (by simp)).mpr ⟨hr, (of_decide_eq_true hp).left⟩
    exact Option.some.inj <| hselect.symm.trans hrow
  case mpr =>
    rintro rfl
    have hstatus : cur.status = .queued := by cases h : cur.status <;> simp_all
    simp [drainable, authQueueRow, hs.queueId_of_record? hn, hstatus, PyLiteral.spelling]

theorem markDrainedStatements_of_known (hs : s.Kept) (hn : s.record? queueId = some cur) :
    markDrainedStatements queueId expectedItemDigest evidenceRef evidenceDigest s =
      authQueue.next (some cur) (.markDrained queueId expectedItemDigest evidenceRef evidenceDigest) >>=
        fun record => .ok (record, if cur.status = .drained then s else drainedState s queueId cur record) := by
  have hrow : s.queueRow? queueId = some (authQueueRow cur) := by rw [hs.queueRow?, hn]; rfl
  rw [markDrainedStatements, Statements.get_bind, hrow]
  simp only [Py.ofOption, Except.ofOption, Statements.lift_bind, decodeQueue_row, Except.ok_bind,
    authQueue]
  by_cases hd : cur.item.digest = expectedItemDigest
  case neg => rw [Py.require_of_not hd]; rfl
  case pos =>
    rw [Py.require_of hd]
    by_cases hq : cur.status = .drained
    case pos => simp only [Except.ok_bind, if_pos hq]; rfl
    case neg =>
      have hkey (row : AuthQueueRow) (hp : drainable queueId cur row = true) :
          row.queueId = queueId := (of_decide_eq_true hp).left
      have hm := ((Table.select_eq_some (t := s.queue) (by simp)).mp hrow).left
      have hself := (drainable_iff hs hn hq _ hm).mpr rfl
      have hcount := (Table.count_eq_one (t := s.queue) (by simp) hkey).mpr ⟨_, hrow, hself⟩
      simp only [Except.ok_bind, if_neg hq, Statements.lift_bind, Statements.set_bind,
        Py.require_of hcount]
      rfl

theorem drainedState_queues (hs : s.Kept) (hn : s.record? queueId = some cur)
    (hq : cur.status ≠ .drained) (hitem : record.item = cur.item) :
    Queues s (drainedState s queueId cur record) record := by
  have hrow : s.queueRow? queueId = some (authQueueRow cur) := by rw [hs.queueRow?, hn]; rfl
  have hp := drainable_iff hs hn hq
  have hnext : drainedRow record (authQueueRow cur) = authQueueRow record := by
    simp [drainedRow, authQueueRow, hitem]
  constructor
  case kept =>
    refine ⟨hs.leases, fun row hr => ?_⟩
    exact (Table.mem_update_one (h := drainedRow_unique record) hp hr).elim (hs.queue row) fun he =>
      ⟨record, he.trans hnext⟩
  case records =>
    have hselect := Table.select_update_one (h := drainedRow_unique record) (by simp) hrow hp
    rw [hnext] at hselect
    refine record?_of_rows fun id => ?_
    rw [hitem, hs.queueId_of_record? hn]
    exact hselect id
  case leases => rfl

end

theorem queueStatements_eq (hs : s.Kept) : ∃ w : ProviderAuthQueueRecord → ProviderAuthState,
    (queueStatements operation s =
        authQueue.next (s.record? (authQueue.key operation)) operation >>= fun record =>
          .ok (record, w record)) ∧
      ∀ record, authQueue.next (s.record? (authQueue.key operation)) operation = .ok record →
        Queues s (w record) record := by
  cases operation
  case enqueue item =>
    cases hn : s.record? (authQueue.key (.enqueue item))
    case none =>
      obtain ⟨s', hrun, hq⟩ := queueStatements_of_new hs hn
      refine ⟨fun _ => s', hrun, fun record h => ?_⟩
      cases Except.ok.inj h
      exact hq
    case some cur =>
      refine ⟨fun _ => s, enqueueStatements_of_known hs hn, fun record h => ?_⟩
      simp only [authQueue, Except.bind_eq_ok, Py.require_eq_ok, Except.pure_eq_ok,
        exists_const] at h
      exact h.right ▸ .refl hs hn
  case markDrained queueId expectedItemDigest evidenceRef evidenceDigest =>
    cases hn : s.record? (authQueue.key
      (.markDrained queueId expectedItemDigest evidenceRef evidenceDigest))
    case none =>
      exact ⟨fun _ => s, markDrainedStatements_of_missing hs hn, fun record h => by cases h⟩
    case some cur =>
      refine ⟨_, markDrainedStatements_of_known hs hn, fun record h => ?_⟩
      simp only [authQueue, Except.bind_eq_ok, Py.require_eq_ok, exists_const] at h
      obtain ⟨_, h⟩ := h
      by_cases hq : cur.status = .drained
      case pos =>
        rw [if_pos hq] at h ⊢
        cases Except.ok.inj h
        exact .refl hs hn
      case neg =>
        rw [if_neg hq] at h ⊢
        exact drainedState_queues hs hn hq (ProviderAuthQueueRecord.new_eq_ok h).left

-- An operation on the queue makes the next record, or is refused and changes nothing.
theorem queueTransaction_run {r : Py ProviderAuthQueueRecord} (hs : s.Kept)
    (h : (Program.transaction (queueStatements operation)).run s = (r, s')) :
    r = authQueue.next (s.record? (authQueue.key operation)) operation ∧
      (∀ record, r = .ok record → Queues s s' record) ∧ ∀ e, r = .error e → s' = s := by
  obtain ⟨w, hrun, hw⟩ := @queueStatements_eq _ s _ operation hs
  rw [Program.transaction_run, hrun] at h
  cases hr : authQueue.next (s.record? (authQueue.key operation)) operation
  all_goals
    rw [hr] at h
    cases h
  case ok record =>
    exact ⟨rfl, fun record' he => (by cases he; exact hw record hr), fun e he => by cases he⟩
  case error e => exact ⟨rfl, fun record he => (by cases he), fun e' he => rfl⟩

end

end SqliteProviderAuthStateStore

end GeneralExecution
