import GeneralExecution.Primitives.Raising
import GeneralExecution.Routing.Theorems.AuthLease
import GeneralExecution.Routing.Theorems.AuthStore

namespace GeneralExecution

namespace ProviderAuthState

variable [Sha256] {s s' : ProviderAuthState} {record : ProviderAuthQueueRecord}
variable {items : List ProviderAuthQueueItem} {id : String}

omit [Sha256] in
theorem queuedRecord_of_status (h : record.status = .queued) : record = queuedRecord record.item := by
  obtain ⟨item, status, ref, digest, schemaVersion, version, evidence⟩ := record
  subst h version
  obtain ⟨rfl, rfl⟩ := evidence
  rfl

-- The items of a provider that wait to be drained, in the order in which they are.
structure Waiting (s : ProviderAuthState) (providerId : String) (items : List ProviderAuthQueueItem) :
    Prop where
  mem    : ∀ item, item ∈ items ↔
    s.record? item.queueId = some (queuedRecord item) ∧ item.providerId = providerId
  unique : (items.map ProviderAuthQueueItem.queueId).Nodup
  sorted : items.Pairwise fun a b => a.key ≤ b.key

variable [IsoFormat] {leases : List ProviderAuthLease} {lease : ProviderAuthLease}
variable {providerId : Option String}

-- The leases of a provider, or those of all.
structure Loaded (s : ProviderAuthState) (providerId : Option String)
    (leases : List ProviderAuthLease) : Prop where
  mem    : ∀ lease, lease ∈ leases ↔
    s.lease? (lease.providerId, lease.surface) = some lease ∧ ∀ id ∈ providerId, lease.providerId = id
  unique : (leases.map fun lease => (lease.providerId, lease.surface)).Nodup

omit [Sha256] [IsoFormat] in
theorem leaseRows_perm :
    (s.leaseRows providerId).Perm (s.leases.rows.filter fun row => ∀ id ∈ providerId, row.providerId = id) := by
  cases providerId
  case none    => simpa [leaseRows] using List.mergeSort_perm _ _
  case some id => simpa [leaseRows] using List.mergeSort_perm _ _

namespace Kept

theorem mem_leases (hs : s.Kept) :
    authLeaseRow lease ∈ s.leases.rows ↔ s.lease? (lease.providerId, lease.surface) = some lease := by
  constructor
  case mp =>
    exact fun hm => lease?_of_row <| (Table.select_eq_some (by simp)).mpr ⟨hm, rfl⟩
  case mpr =>
    intro h
    have hr := hs.leaseRow? (lease.providerId, lease.surface)
    rw [h, Option.map_some] at hr
    exact ((Table.select_eq_some (by simp)).mp hr).left

theorem mem_queue (hs : s.Kept) :
    authQueueRow record ∈ s.queue.rows ↔ s.record? record.item.queueId = some record := by
  constructor
  case mp =>
    exact fun hm => record?_of_row <| (Table.select_eq_some (by simp)).mpr ⟨hm, rfl⟩
  case mpr =>
    intro h
    have hr := hs.queueRow? record.item.queueId
    rw [h, Option.map_some] at hr
    exact ((Table.select_eq_some (by simp)).mp hr).left

-- Every stored lease is read back, and no other one.
theorem exists_loaded (hs : s.Kept) (providerId : Option String) :
    ∃ leases, (s.leaseRows providerId).mapM decodeLease = .ok leases ∧ s.Loaded providerId leases := by
  have hperm : (s.leaseRows providerId).Perm _ := leaseRows_perm
  have hrows : ∀ row ∈ s.leaseRows providerId, ∃ lease, row = authLeaseRow lease := fun row hr =>
    hs.leases row (List.mem_filter.mp <| hperm.mem_iff.mp hr).left
  obtain ⟨leases, hread, hmap⟩ := Except.exists_mapM_map (fun lease => decodeLease_row) hrows
  rw [← hmap] at hperm
  refine ⟨leases, hread, fun lease => ?_, ?_⟩
  case refine_1 =>
    have hinj : authLeaseRow lease ∈ leases.map authLeaseRow ↔ lease ∈ leases :=
      List.mem_map_of_injective fun l l' he => by simpa using congrArg decodeLease he
    rw [← hinj, hperm.mem_iff, List.mem_filter, hs.mem_leases, decide_eq_true_eq]
    rfl
  case refine_2 =>
    have hkeys := (hperm.map AuthLeaseRow.primaryKey).nodup_iff.mpr <|
      (s.leases.unique _ (by simp)).sublist (List.filter_sublist.map _)
    rw [List.map_map] at hkeys
    refine List.Nodup.of_map (fun k => (k.1, PyLiteral.spelling k.2)) ?_
    rw [List.map_map]
    exact hkeys

-- Every item that has not been drained is read back, and no other one.
theorem exists_waiting (hs : s.Kept) (id : String) :
    ∃ records, (s.queuedRows id).mapM decodeQueue = .ok records ∧
      s.Waiting id ((records.mergeSort fun a b => a.item.key ≤ b.item.key).map
        ProviderAuthQueueRecord.item) := by
  have hrows : ∀ row ∈ s.queuedRows id, ∃ record, row = authQueueRow record := fun row hr =>
    hs.queue row (List.mem_filter.mp hr).left
  obtain ⟨records, hread, hmap⟩ := Except.exists_mapM_map (fun record => decodeQueue_row) hrows
  have hperm := List.mergeSort_perm records fun a b => a.item.key ≤ b.item.key
  have hmem (record : ProviderAuthQueueRecord) : record ∈ records ↔
      s.record? record.item.queueId = some record ∧ record.item.providerId = id ∧
        record.status = .queued := by
    have hinj : authQueueRow record ∈ records.map authQueueRow ↔ record ∈ records :=
      List.mem_map_of_injective fun r r' he => by simpa using congrArg decodeQueue he
    have hstatus : (authQueueRow record).status = "queued" ↔ record.status = .queued :=
      PyLiteral.spelling_injective.eq_iff (b := QueueStatus.queued)
    rw [← hinj, hmap, queuedRows, List.mem_filter, hs.mem_queue, decide_eq_true_eq, hstatus]
    rfl
  refine ⟨records, hread, fun item => ?_, ?_, ?_⟩
  case refine_1 =>
    rw [List.mem_map]
    simp only [hperm.mem_iff, hmem]
    constructor
    case mp =>
      rintro ⟨record, ⟨hr, hp, hq⟩, rfl⟩
      exact ⟨hr.trans <| congrArg some (queuedRecord_of_status hq), hp⟩
    case mpr =>
      rintro ⟨hr, hp⟩
      exact ⟨queuedRecord item, ⟨hr, hp, rfl⟩, rfl⟩
  case refine_2 =>
    rw [List.map_map, (hperm.map _).nodup_iff]
    have hids := (s.queue.unique AuthQueueRow.queueId (by simp)).sublist
      ((List.filter_sublist (p := fun row => row.providerId = id ∧ row.status = "queued")).map _)
    rw [show s.queue.rows.filter _ = records.map authQueueRow from hmap.symm, List.map_map] at hids
    exact hids
  case refine_3 =>
    rw [List.pairwise_map]
    exact List.pairwise_sortBy (fun record => record.item.key) records

end Kept

end ProviderAuthState

open ProviderAuthState

-- The calls of the clients of one store.
inductive AuthCall [IsoFormat]
  | observe (observation : ProviderAuthObservation)
  | loadLeases (providerId : Option String)
  | enqueue (item : ProviderAuthQueueItem)
  | queued (providerId : String)
  | markDrained (queueId expectedItemDigest evidenceRef evidenceDigest : String)
  | planDrain (providerId : String) (maxItems : Int) (now : Option String)
      (evidenceStaleAfterSeconds : Option Int)

-- What a call returns.
inductive AuthAnswer [IsoFormat]
  | lease (lease : ProviderAuthLease)
  | leases (leases : List ProviderAuthLease)
  | record (record : ProviderAuthQueueRecord)
  | items (items : List ProviderAuthQueueItem)
  | plan (plan : ProviderDrainPlan)

variable [Sha256] [IsoFormat] {s s' : ProviderAuthState} {observation : ProviderAuthObservation}
variable {operation : AuthQueueOperation}

namespace AuthCall

def call : AuthCall → AuthProgram AuthAnswer
  | observe observation => do
    return .lease (← SqliteProviderAuthStateStore.observe observation)
  | loadLeases providerId => do
    return .leases (← SqliteProviderAuthStateStore.loadLeases providerId)
  | enqueue item => do
    return .record (← SqliteProviderAuthStateStore.enqueue item)
  | queued providerId => do
    return .items (← SqliteProviderAuthStateStore.queued providerId)
  | markDrained queueId expectedItemDigest evidenceRef evidenceDigest => do
    return .record (← SqliteProviderAuthStateStore.markDrained queueId expectedItemDigest evidenceRef
      evidenceDigest)
  | planDrain providerId maxItems now evidenceStaleAfterSeconds => do
    return .plan (← SqliteProviderAuthStateStore.planDrain providerId maxItems now
      evidenceStaleAfterSeconds)

-- What a call asks of the leases.
def observation? : AuthCall → Option ProviderAuthObservation
  | observe observation => some observation
  | _                   => none

-- What a call asks of the queue.
def operation? : AuthCall → Option AuthQueueOperation
  | enqueue item => some (.enqueue item)
  | markDrained queueId expectedItemDigest evidenceRef evidenceDigest =>
    some (.markDrained (Text.stripped queueId) expectedItemDigest evidenceRef evidenceDigest)
  | _ => none

-- A call that has raised before its first access.
def Refused (made : List (ProviderAuthState × ProviderAuthState)) (r : Py AuthAnswer) : Prop :=
  made = [] ∧ r.isOk = false

-- What a call has done that has asked for an operation on the queue.
def Queues (operation : AuthQueueOperation) (made : List (ProviderAuthState × ProviderAuthState))
    (r : Py AuthAnswer) : Prop :=
  ∃ s s' result, made = [(s, s')] ∧ authQueue.Performed record? operation s s' result ∧
    r = result.map .record

-- What a call has done that has ended.
def Does : AuthCall → List (ProviderAuthState × ProviderAuthState) → Py AuthAnswer →
    ProviderAuthState → Prop
  | observe observation, made, r, _ =>
    ∃ s s' result, made = [(s, s')] ∧ authLeases.Performed lease? observation s s' result ∧
      r = result.map .lease
  | loadLeases providerId, made, r, _ =>
    Refused made r ∨ ∃ s leases, made = [(s, s)] ∧ s.Loaded (providerId.map Text.stripped) leases ∧
      r = .ok (.leases leases)
  | enqueue item, made, r, _ => Queues (.enqueue item) made r
  | queued providerId, made, r, _ =>
    Refused made r ∨ ∃ s items, made = [(s, s)] ∧ s.Waiting (Text.stripped providerId) items ∧
      r = .ok (.items items)
  | markDrained queueId expectedItemDigest evidenceRef evidenceDigest, made, r, _ =>
    Refused made r ∨ Queues
      (.markDrained (Text.stripped queueId) expectedItemDigest evidenceRef evidenceDigest) made r
  | planDrain providerId maxItems now evidenceStaleAfterSeconds, made, r, _ =>
    Refused made r ∨ ∃ s s' leases items, made = [(s, s), (s', s')] ∧
      s.Loaded (some (Text.stripped providerId)) leases ∧
      s'.Waiting (Text.stripped providerId) items ∧
      r = (planProviderDrain providerId leases items maxItems now evidenceStaleAfterSeconds).map .plan

end AuthCall

-- No lease is lost, and none goes back to an earlier generation.
def ProviderAuthState.Grows (s s' : ProviderAuthState) : Prop :=
  ∀ k lease, s.lease? k = some lease →
    ∃ next, s'.lease? k = some next ∧ lease.generation ≤ next.generation

theorem ProviderAuthState.Grows.trans {s₁ s₂ s₃ : ProviderAuthState} (h : s₁.Grows s₂)
    (h' : s₂.Grows s₃) : s₁.Grows s₃ := by
  intro k lease hl
  have ⟨lease', hl', hle⟩ := h k lease hl
  have ⟨lease'', hl'', hle'⟩ := h' k lease' hl'
  exact ⟨lease'', hl'', hle.trans hle'⟩

theorem ProviderAuthState.Grows.of_advances {o : Option ProviderAuthObservation}
    (h : authLeases.Advances lease? s s' o) : s.Grows s' := by
  intro k lease hl
  refine h.grows (R := fun cur next => cur.generation ≤ next.generation) (fun _ => le_rfl)
    (fun o cur next hn => ?_) hl
  rw [(applyAuthObservation_eq_ok hn).right.generation]
  exact Nat.le_succ _

-- The clients of one store. Each access makes the next lease, or the next record, of its key.
def providerAuth : Protocol AuthCall ProviderAuthState where
  inv            := ProviderAuthState.Kept
  rely           := Grows
  guar call s s' :=
    authLeases.Advances lease? s s' call.observation? ∧
      authQueue.Advances record? s s' call.operation?
  refl _         := fun _ lease hl => ⟨lease, hl, le_rfl⟩
  trans          := .trans
  idle _ _       := ⟨.refl, .refl⟩
  agree h        := .of_advances h.left

omit [IsoFormat] in
theorem ProviderAuthState.record?_congr (h : s'.queue = s.queue) : s'.record? = s.record? := by
  funext id
  rw [record?, record?, queueRow?, queueRow?, h]

theorem ProviderAuthState.lease?_congr (h : s'.leases = s.leases) : s'.lease? = s.lease? := by
  funext k
  rw [lease?, lease?, leaseRow?, leaseRow?, h]

namespace SqliteProviderAuthStateStore

theorem observe_performed {r : Py ProviderAuthLease} (hs : s.Kept)
    (h : (observe observation).run s = (r, s')) :
    s'.Kept ∧ s'.record? = s.record? ∧ authLeases.Performed lease? observation s s' r := by
  have ⟨hr, ho, he⟩ := observe_run hs h
  cases r
  case ok lease =>
    have hlease := ho lease rfl
    refine ⟨hlease.kept, record?_congr hlease.queue, hr, fun a ha => ?_, by simp⟩
    cases ha
    exact hlease.leases
  case error e =>
    cases he e rfl
    exact ⟨hs, rfl, hr, by simp, fun _ _ => rfl⟩

theorem queueTransaction_performed {r : Py ProviderAuthQueueRecord} (hs : s.Kept)
    (h : (Program.transaction (queueStatements operation)).run s = (r, s')) :
    s'.Kept ∧ s'.lease? = s.lease? ∧ authQueue.Performed record? operation s s' r := by
  have ⟨hr, ho, he⟩ := queueTransaction_run hs h
  cases r
  case ok record =>
    have hrecord := ho record rfl
    have hid : record.item.queueId = authQueue.key operation := by
      cases hn : s.record? (authQueue.key operation)
      case none =>
        obtain ⟨item, rfl, rfl⟩ := authQueue_next_none (hn ▸ hr.symm)
        rfl
      case some cur =>
        have hcur := hs.queueId_of_record? hn
        exact (congrArg _ (authQueue_next_some hcur (hn ▸ hr.symm)).left).trans hcur
    refine ⟨hrecord.kept, lease?_congr hrecord.leases, hr, fun a ha => ?_, by simp⟩
    cases ha
    exact hid ▸ hrecord.records
  case error e =>
    cases he e rfl
    exact ⟨hs, rfl, hr, by simp, fun _ _ => rfl⟩

omit [Sha256] [IsoFormat] in
theorem authNonempty_of {value : String} (field : String) (hb : ¬Text.Blank value) :
    authNonempty value field = .ok (Text.stripped value) :=
  authNonempty_eq_ok.mpr ⟨hb, rfl⟩

omit [Sha256] [IsoFormat] in
theorem authNonempty_of_blank {value : String} (field : String) (hb : Text.Blank value) :
    ∃ e, authNonempty value field = .error e := by
  rw [authNonempty, Py.require_of_not (not_not.mpr hb)]
  exact ⟨_, rfl⟩

theorem loadLeases_eq {providerId : Option String} (hb : ∀ id ∈ providerId, ¬Text.Blank id) :
    loadLeases providerId = (do
      let rows ← Program.query (ProviderAuthState.leaseRows (providerId.map Text.stripped))
      (rows.mapM decodeLease : Py _)) := by
  cases providerId
  case none    => rfl
  case some id =>
    have hid := authNonempty_of "provider_id" (hb id rfl)
    simp only [loadLeases, hid]
    rfl

theorem loadLeases_of_blank {id : String} (hb : Text.Blank id) :
    ∃ e, loadLeases (some id) = .done (.error e) := by
  have ⟨e, he⟩ := authNonempty_of_blank "provider_id" hb
  refine ⟨e, ?_⟩
  simp only [loadLeases, he]
  rfl

omit [IsoFormat] in
theorem queued_eq {id : String} (hb : ¬Text.Blank id) :
    queued id = (do
      let rows ← Program.query (ProviderAuthState.queuedRows (Text.stripped id))
      let records ← (rows.mapM decodeQueue : Py _)
      return (records.mergeSort fun a b => a.item.key ≤ b.item.key).map
        ProviderAuthQueueRecord.item) := by
  have hid := authNonempty_of "provider_id" hb
  simp only [queued, hid]
  rfl

omit [IsoFormat] in
theorem queued_of_blank {id : String} (hb : Text.Blank id) :
    ∃ e, queued id = .done (.error e) := by
  have ⟨e, he⟩ := authNonempty_of_blank "provider_id" hb
  refine ⟨e, ?_⟩
  simp only [queued, he]
  rfl

-- A plan of a client that runs alone.
theorem planDrain_run {providerId : String} (hs : s.Kept) (hb : ¬Text.Blank providerId)
    (maxItems : Int) (now : Option String) (stale : Option Int) :
    ∃ leases items, s.Loaded (some (Text.stripped providerId)) leases ∧
      s.Waiting (Text.stripped providerId) items ∧
      (planDrain providerId maxItems now stale).run s =
        (planProviderDrain providerId leases items maxItems now stale, s) := by
  obtain ⟨leases, hleases, hl⟩ := hs.exists_loaded (some (Text.stripped providerId))
  obtain ⟨records, hrecords, hw⟩ := hs.exists_waiting (Text.stripped providerId)
  refine ⟨leases, _, hl, hw, ?_⟩
  have hload : (loadLeases (some providerId)).run s = (.ok leases, s) := by
    rw [loadLeases_eq (by simpa using hb), Program.bind_run, Program.query_run]
    exact congrArg (fun r => (r, s)) hleases
  have hqueue : (queued providerId).run s = (.ok ((records.mergeSort fun a b =>
      a.item.key ≤ b.item.key).map ProviderAuthQueueRecord.item), s) := by
    rw [queued_eq hb, Program.bind_run, Program.query_run]
    simp only [hrecords]
    rfl
  simp only [planDrain, Program.bind_run, hload, hqueue, Program.lift_run]

omit [IsoFormat] in
theorem markDrained_cases (queueId expectedItemDigest evidenceRef evidenceDigest : String) :
    (∃ e, markDrained queueId expectedItemDigest evidenceRef evidenceDigest = .done (.error e)) ∨
      markDrained queueId expectedItemDigest evidenceRef evidenceDigest =
        .transaction (queueStatements <|
          .markDrained (Text.stripped queueId) expectedItemDigest evidenceRef evidenceDigest) := by
  by_cases hq : Text.Blank queueId
  case pos =>
    have ⟨e, he⟩ := authNonempty_of_blank "queue_id" hq
    refine .inl ⟨e, ?_⟩
    simp only [markDrained, he]
    rfl
  case neg =>
    simp only [markDrained, authNonempty_of "queue_id" hq]
    cases authDigest [("expected_item_digest", expectedItemDigest)]
    case error e => exact .inl ⟨e, rfl⟩
    case ok _    =>
      cases authNonempty evidenceRef "evidence_ref"
      case error e => exact .inl ⟨e, rfl⟩
      case ok _    =>
        cases authDigest [("evidence_digest", evidenceDigest)]
        case error e => exact .inl ⟨e, rfl⟩
        case ok _    => exact .inr rfl

omit [IsoFormat] in
-- A mark that names what it has to is one transaction.
theorem markDrained_eq {queueId expectedItemDigest evidenceRef evidenceDigest : String}
    (hq : ¬Text.Blank queueId) (hi : Guard.StrippedSha256 expectedItemDigest)
    (hr : ¬Text.Blank evidenceRef) (hd : Guard.StrippedSha256 evidenceDigest) :
    markDrained queueId expectedItemDigest evidenceRef evidenceDigest =
      .transaction (queueStatements <|
        .markDrained (Text.stripped queueId) expectedItemDigest evidenceRef evidenceDigest) := by
  have hi : ∀ x ∈ [("expected_item_digest", expectedItemDigest)], Guard.StrippedSha256 x.2 := by
    simpa using hi
  have hd : ∀ x ∈ [("evidence_digest", evidenceDigest)], Guard.StrippedSha256 x.2 := by
    simpa using hd
  simp only [markDrained, authNonempty_of _ hq, authNonempty_of _ hr, authDigest_of hi,
    authDigest_of hd]
  rfl

variable {D : Discipline ProviderAuthState} {made : List (ProviderAuthState × ProviderAuthState)}

-- A read finds every lease of the provider at once.
theorem loadLeases_respects {providerId : Option String} (hi : ∀ s, D.inv s → s.Kept)
    (hb : ∀ id ∈ providerId, ¬Text.Blank id)
    {post : List (ProviderAuthState × ProviderAuthState) → Py (List ProviderAuthLease) →
      ProviderAuthState → Prop}
    (ho : ∀ s₁ s₂ leases, s₁.Loaded (providerId.map Text.stripped) leases →
      post (made ++ [(s₁, s₁)]) (.ok leases) s₂) :
    (loadLeases providerId).Respects D post made s := by
  rw [loadLeases_eq hb]
  refine .bind <| .query fun s₁ s₂ hs₁ _ _ _ => .lift fun s₃ _ _ => ?_
  obtain ⟨leases, hread, hloaded⟩ := (hi s₁ hs₁).exists_loaded (providerId.map Text.stripped)
  rw [hread]
  exact ho s₁ s₃ leases hloaded

-- A read finds every item of the provider at once that has not been drained.
theorem queued_respects {id : String} (hi : ∀ s, D.inv s → s.Kept) (hb : ¬Text.Blank id)
    {post : List (ProviderAuthState × ProviderAuthState) → Py (List ProviderAuthQueueItem) →
      ProviderAuthState → Prop}
    (ho : ∀ s₁ s₂ items, s₁.Waiting (Text.stripped id) items →
      post (made ++ [(s₁, s₁)]) (.ok items) s₂) :
    (queued id).Respects D post made s := by
  rw [queued_eq hb]
  refine .bind <| .query fun s₁ s₂ hs₁ _ _ _ => ?_
  obtain ⟨records, hread, hwaiting⟩ := (hi s₁ hs₁).exists_waiting (Text.stripped id)
  refine .lift_bind (fun records' he => ?_) fun e s₃ he => ?_
  case refine_1 =>
    cases hread.symm.trans he
    exact fun s₃ _ _ => ho s₁ s₃ _ hwaiting
  case refine_2 => cases hread.symm.trans he

end SqliteProviderAuthStateStore

open SqliteProviderAuthStateStore

namespace AuthCall

theorem respects_of_refused {call : AuthCall} {p : AuthProgram AuthAnswer}
    (h : ∃ e, p = .done (.error e))
    (hr : ∀ made r s, Refused made r → call.Does made r s) :
    p.Respects (providerAuth.of call) call.Does [] s := by
  obtain ⟨e, rfl⟩ := h
  exact fun s' _ _ => hr _ _ _ ⟨rfl, rfl⟩

theorem queueTransaction_respects {call : AuthCall} (hl : call.observation? = none)
    (ho : call.operation? = some operation) :
    (Program.transaction (queueStatements operation)).Respects (providerAuth.of call)
      (fun made r _ => Queues operation made (r.map .record)) [] s := by
  refine .transaction_run fun s₁ s₂ r hs₁ _ hrun => ?_
  obtain ⟨hs₂, hleases, hr⟩ := queueTransaction_performed hs₁ hrun
  refine ⟨hs₂, ⟨?_, ?_⟩, fun s₃ _ _ => ⟨s₁, s₂, r, rfl, hr, rfl⟩⟩
  case refine_1 =>
    rw [hl]
    exact hleases
  case refine_2 =>
    rw [ho]
    exact hr.advances

theorem call_respects (call : AuthCall) (s : ProviderAuthState) (_ : providerAuth.inv s) :
    call.call.Respects (providerAuth.of call) call.Does [] s := by
  have hi : ∀ s, (providerAuth.of call).inv s → s.Kept := fun _ h => h
  cases call
  case observe observation =>
    refine .map <| .transaction_run fun s₁ s₂ r hs₁ _ hrun => ?_
    obtain ⟨hs₂, hqueue, hr⟩ := observe_performed hs₁ hrun
    exact ⟨hs₂, ⟨hr.advances, hqueue⟩, fun s₃ _ _ => ⟨s₁, s₂, r, rfl, hr, rfl⟩⟩
  case loadLeases providerId =>
    by_cases hb : ∀ id ∈ providerId, ¬Text.Blank id
    case pos =>
      exact .map <| loadLeases_respects hi hb fun s₁ s₂ leases hl => .inr ⟨s₁, leases, rfl, hl, rfl⟩
    case neg =>
      push Not at hb
      obtain ⟨id, rfl, hb⟩ := hb
      obtain ⟨e, he⟩ := loadLeases_of_blank hb
      exact respects_of_refused ⟨e, by rw [call, he]; rfl⟩ fun _ _ _ => .inl
  case enqueue item => exact .map <| queueTransaction_respects rfl rfl
  case queued providerId =>
    by_cases hb : Text.Blank providerId
    case pos =>
      obtain ⟨e, he⟩ := queued_of_blank hb
      exact respects_of_refused ⟨e, by rw [call, he]; rfl⟩ fun _ _ _ => .inl
    case neg =>
      exact .map <| queued_respects hi hb fun s₁ s₂ items hw => .inr ⟨s₁, items, rfl, hw, rfl⟩
  case markDrained queueId expectedItemDigest evidenceRef evidenceDigest =>
    rcases markDrained_cases queueId expectedItemDigest evidenceRef evidenceDigest with ⟨e, he⟩ | he
    case inl => exact respects_of_refused ⟨e, by rw [call, he]; rfl⟩ fun _ _ _ => .inl
    case inr =>
      rw [call, he]
      exact .map <| (queueTransaction_respects rfl rfl).mono fun _ _ _ _ => .inr
  case planDrain providerId maxItems now evidenceStaleAfterSeconds =>
    by_cases hb : Text.Blank providerId
    case pos =>
      obtain ⟨e, he⟩ := @loadLeases_of_blank _ _ _ hb
      exact respects_of_refused ⟨e, by rw [call, SqliteProviderAuthStateStore.planDrain, he]; rfl⟩ fun _ _ _ => .inl
    case neg =>
      refine .map <| .bind <| loadLeases_respects hi (by simpa using hb) fun s₁ s₂ leases hl => ?_
      refine .bind <| queued_respects hi hb fun s₃ s₄ items hw => .lift fun s₅ _ _ => ?_
      exact .inr ⟨s₁, s₃, leases, items, rfl, hl, hw, rfl⟩

end AuthCall

end GeneralExecution
