import GeneralExecution.Primitives.HashChain
import GeneralExecution.Routing.Theorems.AuthCalls

namespace GeneralExecution

open ProviderAuthState SqliteProviderAuthStateStore

-- The entries of a surface, and those of an id.

section Entries

variable [Sha256] [IsoFormat] {k : String × AuthSurface} {id : String}
variable {leases : List (ProviderAuthObservation × ProviderAuthLease)}
variable {records : List (AuthQueueOperation × ProviderAuthQueueRecord)}

omit [Sha256] in
theorem ProviderAuthLease.NotAfter.trans {l₁ l₂ l₃ : ProviderAuthLease} (h : l₁.NotAfter l₂)
    (h' : l₂.NotAfter l₃) : l₁.NotAfter l₃ := by
  obtain ⟨t₁, t₂, h₁, h₂, hle⟩ := h
  obtain ⟨t₂', t₃, h₂', h₃, hle'⟩ := h'
  obtain rfl : t₂ = t₂' := Except.ok.inj <| h₂.symm.trans h₂'
  exact ⟨t₁, t₃, h₁, h₃, hle.trans hle'⟩

-- Every lease names the one before it.
def leaseChain : HashChain (ProviderAuthObservation × ProviderAuthLease) (Option String) where
  genesis    := none
  previous x := x.2.previousLeaseDigest
  hash x     := some x.2.digest

-- The leases of one surface, the first one first, each with the observation that it is about.
structure LeaseLineage (k : String × AuthSurface)
    (leases : List (ProviderAuthObservation × ProviderAuthLease)) : Prop where
  tells       : ∀ x ∈ leases, authLeases.key x.1 = k ∧ x.2.Tells x.1
  generations : leases.map (·.2.generation) = List.range leases.length
  linked      : leaseChain.Linked leases
  ordered     : leases.Pairwise fun x y => x.2.NotAfter y.2

namespace LeaseLineage

theorem generations_of_grown (h : authLeases.Grown k leases) :
    leases.map (·.2.generation) = List.range leases.length := by
  induction h
  case nil => rfl
  case append es o a hes _ hn ih =>
    have hg : a.generation = es.length := by
      cases es using List.reverseRecOn
      case nil                     => exact (initializeAuthLease_eq_ok hn).right.left
      case append_singleton es x _ =>
        rw [List.getLast?_concat] at hn
        rw [List.map_append, List.length_append, List.length_singleton, List.range_succ] at ih
        have hlast : [x.2.generation] = [es.length] := (List.append_inj' ih rfl).right
        rw [(applyAuthObservation_eq_ok hn).right.generation, List.length_append,
          List.length_singleton, List.singleton_inj.mp hlast]
    rw [List.map_append, ih, List.length_append, List.length_singleton, List.range_succ, List.map_singleton,
      hg]

theorem linked_of_grown (h : authLeases.Grown k leases) : leaseChain.Linked leases := by
  induction h
  case nil => exact .nil
  case append es o a hes _ hn ih =>
    refine .append ih ?_
    cases es using List.reverseRecOn
    case nil                     => exact (initializeAuthLease_eq_ok hn).right.right
    case append_singleton es x _ =>
      rw [List.getLast?_concat] at hn
      rw [HashChain.head_append_singleton]
      exact (applyAuthObservation_eq_ok hn).right.predecessor

theorem of_grown (h : authLeases.Grown k leases) : LeaseLineage k leases where
  tells       := h.induct (fun _ _ hk hn => ⟨hk, (initializeAuthLease_eq_ok hn).left⟩)
    fun _ _ _ _ hk _ hn => ⟨hk, (applyAuthObservation_eq_ok hn).left⟩
  generations := generations_of_grown h
  linked      := linked_of_grown h
  ordered     :=
    h.pairwise (fun h h' => h.trans h')
      fun _ _ _ _ _ hn => (applyAuthObservation_eq_ok hn).right.notAfter

end LeaseLineage

omit [IsoFormat]

-- The records of one id, the first one first: the item stays, a drain is asked for with the digest of
-- the item, and it is final.
structure RecordLineage (id : String)
    (records : List (AuthQueueOperation × ProviderAuthQueueRecord)) : Prop where
  queueId : ∀ x ∈ records, x.2.item.queueId = id
  opened  : ∀ x ∈ records.head?, x.1 = .enqueue x.2.item ∧ x.2 = queuedRecord x.2.item
  kept    : records.Pairwise fun x y => y.2.item = x.2.item
  final   : records.Pairwise fun x y => x.2.status = .drained → y.2 = x.2
  drained : ∀ x ∈ records, x.2.status = .drained → ∃ y ∈ records, y.2 = x.2 ∧ y.2.DrainedBy y.1

namespace RecordLineage

theorem queueId_of_grown (h : authQueue.Grown id records) :
    ∀ x ∈ records, x.2.item.queueId = id := by
  refine h.induct (fun o a hk hn => ?_) fun o a o' a' hk hid hn => ?_
  case refine_1 =>
    obtain ⟨item, rfl, rfl⟩ := authQueue_next_none hn
    exact hk
  case refine_2 =>
    exact (congrArg _ (authQueue_next_some (hid.trans hk.symm) hn).left).trans hid

theorem opened_of_grown (h : authQueue.Grown id records) :
    ∀ x ∈ records.head?, x.1 = .enqueue x.2.item ∧ x.2 = queuedRecord x.2.item := by
  induction h
  case nil => simp
  case append es o a hes _ hn ih =>
    cases es
    case nil =>
      obtain ⟨item, rfl, rfl⟩ := authQueue_next_none hn
      simp [queuedRecord]
    case cons x es => simpa using ih

theorem drained_of_grown (h : authQueue.Grown id records) :
    ∀ x ∈ records, x.2.status = .drained → ∃ y ∈ records, y.2 = x.2 ∧ y.2.DrainedBy y.1 := by
  induction h
  case nil => simp
  case append es o a hes hk hn ih =>
    intro x hx hd
    rcases List.mem_append.mp hx with hx | hx
    case inl =>
      obtain ⟨y, hy, hyx⟩ := ih x hx hd
      exact ⟨y, List.mem_append_left _ hy, hyx⟩
    case inr =>
      obtain rfl := List.mem_singleton.mp hx
      cases es using List.reverseRecOn
      case nil =>
        obtain ⟨item, rfl, rfl⟩ := authQueue_next_none hn
        cases hd
      case append_singleton es z _ =>
        rw [List.getLast?_concat] at hn
        have hid : z.2.item.queueId = authQueue.key o :=
          (queueId_of_grown hes z (by simp)).trans hk.symm
        obtain ⟨_, rfl | ⟨_, _, hby⟩⟩ := authQueue_next_some hid hn
        case inl =>
          obtain ⟨y, hy, hyz⟩ := ih z (by simp) hd
          exact ⟨y, List.mem_append_left _ hy, hyz⟩
        case inr => exact ⟨_, List.mem_append_right _ (List.mem_singleton_self _), rfl, hby⟩

theorem of_grown (h : authQueue.Grown id records) : RecordLineage id records where
  queueId := queueId_of_grown h
  opened  := opened_of_grown h
  kept    := by
    refine h.pairwise (fun {x y z} h h' => ?_) fun x hx o a hk hn => ?_
    case refine_1 => exact h'.trans h
    case refine_2 =>
      exact (authQueue_next_some ((queueId_of_grown h x hx).trans hk.symm) hn).left
  final   := by
    refine h.pairwise (fun {x y z} h h' hd => ?_) fun x hx o a hk hn hd => ?_
    case refine_1 => exact (h' (h hd ▸ hd)).trans (h hd)
    case refine_2 =>
      have ⟨_, hr⟩ := authQueue_next_some ((queueId_of_grown h x hx).trans hk.symm) hn
      exact hr.resolve_right fun hq => by simp [hd] at hq
  drained := drained_of_grown h

end RecordLineage

end Entries

-- One access in a run.
abbrev AuthEvent [IsoFormat] :=
  Event AuthCall ProviderAuthState

-- A run of any number of clients of one store, which starts empty, with the history of its accesses.
abbrev AuthRun [IsoFormat] :=
  Config (ProviderAuthState × List AuthEvent) PyError (AuthCall × Py AuthAnswer)

section Histories

variable [Sha256] [IsoFormat] {c : AuthRun} {es : List AuthEvent} {call : AuthCall}
variable {r : Py AuthAnswer} {x : ProviderAuthState × List AuthEvent}
variable {made : List ((ProviderAuthState × List AuthEvent) × (ProviderAuthState × List AuthEvent))}

-- The observations of a history that have made a lease.
def observations (es : List AuthEvent) : List ProviderAuthObservation :=
  KeyedLog.operations AuthCall.observation? es

-- The operations of a history that have changed the queue.
def queueOperations (es : List AuthEvent) : List AuthQueueOperation :=
  KeyedLog.operations AuthCall.operation? es

namespace AuthRun

def Reached (c : AuthRun) : Prop :=
  Config.Reachable (Protocol.LoggedStarts (Protocol.Clients AuthCall.call)) (.initial (.empty, [])) c

theorem recorded_empty : providerAuth.Recorded .empty (.empty, []) :=
  ⟨.empty, .nil, by simp⟩

-- A store holds the last entries that its history has made.
theorem lease?_eq (h : providerAuth.Recorded .empty x) (k : String × AuthSurface) :
    x.1.lease? k = authLeases.entry k (observations x.2) :=
  KeyedLog.entry_of_recorded h (fun _ => rfl) (fun _ _ _ hg => hg.left) k

theorem record?_eq (h : providerAuth.Recorded .empty x) (id : String) :
    x.1.record? id = authQueue.entry id (queueOperations x.2) :=
  KeyedLog.entry_of_recorded h (fun _ => rfl) (fun _ _ _ hg => hg.right) id

theorem Reached.recorded (h : c.Reached) : providerAuth.Recorded .empty c.store :=
  (Protocol.clients_sound AuthCall.call_respects .empty h).inv

theorem Reached.answered (h : c.Reached) (hr : ⟨.ok (call, r), made⟩ ∈ c.returned) :
    providerAuth.Answered .empty AuthCall.Does call r made c.store :=
  Protocol.answered_of_returned AuthCall.call_respects .empty h hr

theorem Reached.observed {o : ProviderAuthObservation} (h : c.Reached)
    (hr : ⟨.ok (.observe o, r), made⟩ ∈ c.returned) :
    ∃ m result, made = [m] ∧ r = result.map .lease ∧
      authLeases.Performed lease? o m.1.1 m.2.1 result ∧
      authLeases.Linearized AuthCall.observation? c.store.2 ⟨.observe o, m.1.1, m.2.1⟩ o result := by
  have ha := h.answered hr
  obtain ⟨_, _, _, s, s', result, hmade, hp, rfl⟩ := ha.post
  obtain ⟨m, rfl, hm⟩ := List.map_eq_singleton_iff.mp hmade
  cases hm
  refine ⟨m, result, rfl, rfl, hp, ?_⟩
  exact KeyedLog.Performed.linearized hp h.recorded (fun _ => rfl) (fun _ _ _ hg => hg.left)
    (ha.inHistory m (List.mem_singleton_self _)).event rfl

theorem Reached.linearized_of_queues {operation : AuthQueueOperation} (h : c.Reached)
    (hr : ⟨.ok (call, r), made⟩ ∈ c.returned) (ho : call.operation? = some operation)
    (hq : AuthCall.Queues operation (Protocol.stores made) r) :
    ∃ m result, made = [m] ∧ r = result.map .record ∧
      authQueue.Performed record? operation m.1.1 m.2.1 result ∧
      authQueue.Linearized AuthCall.operation? c.store.2 ⟨call, m.1.1, m.2.1⟩ operation result := by
  have ha := h.answered hr
  obtain ⟨s, s', result, hmade, hp, rfl⟩ := hq
  obtain ⟨m, rfl, hm⟩ := List.map_eq_singleton_iff.mp hmade
  cases hm
  refine ⟨m, result, rfl, rfl, hp, ?_⟩
  exact KeyedLog.Performed.linearized hp h.recorded (fun _ => rfl) (fun _ _ _ hg => hg.right)
    (ha.inHistory m (List.mem_singleton_self _)).event ho

end AuthRun

-- A store is what its accepted operations have made of the empty one, and a call that has ended has
-- asked for its operation at one point of the history.
structure AuthHistory (c : AuthRun) : Prop where
  kept     : c.store.1.Kept
  leases   : ∀ k, c.store.1.lease? k = authLeases.entry k (observations c.store.2)
  records  : ∀ id, c.store.1.record? id = authQueue.entry id (queueOperations c.store.2)
  observed : ∀ {o r made}, ⟨.ok (.observe o, r), made⟩ ∈ c.returned →
    ∃ m result, made = [m] ∧ r = result.map .lease ∧
      authLeases.Linearized AuthCall.observation? c.store.2 ⟨.observe o, m.1.1, m.2.1⟩ o result
  queued   : ∀ {call operation r made}, ⟨.ok (call, r), made⟩ ∈ c.returned →
    AuthCall.operation? call = some operation →
    (made = [] ∧ r.isOk = false) ∨ ∃ m result, made = [m] ∧ r = result.map .record ∧
      authQueue.Linearized AuthCall.operation? c.store.2 ⟨call, m.1.1, m.2.1⟩ operation result

theorem authHistory (h : c.Reached) : AuthHistory c where
  kept        := h.recorded.inv
  leases      := AuthRun.lease?_eq h.recorded
  records     := AuthRun.record?_eq h.recorded
  observed hr := by
    obtain ⟨m, result, hm, he, _, hl⟩ := h.observed hr
    exact ⟨m, result, hm, he, hl⟩
  queued {call operation r made} hr ho := by
    obtain ⟨_, _, _, hpost⟩ := (h.answered hr).post
    have hdoes : AuthCall.Refused (Protocol.stores made) r ∨
        AuthCall.Queues operation (Protocol.stores made) r := by
      cases call
      case enqueue item => cases ho; exact .inr hpost
      case markDrained  => cases ho; exact hpost
      all_goals cases ho
    rcases hdoes with ⟨hmade, hr'⟩ | hq
    case inl => exact .inl ⟨List.map_eq_nil_iff.mp hmade, hr'⟩
    case inr =>
      obtain ⟨m, result, hm, he, _, hl⟩ := h.linearized_of_queues hr ho hq
      exact .inr ⟨m, result, hm, he, hl⟩

-- What the observations of a run have made of one surface.
structure LeaseHistory (c : AuthRun) (k : String × AuthSurface) : Prop where
  lineage    : LeaseLineage k (authLeases.entries k (observations c.store.2))
  told       : ∀ {o lease made}, ⟨.ok (.observe o, .ok (.lease lease)), made⟩ ∈ c.returned →
    authLeases.key o = k → (o, lease) ∈ authLeases.entries k (observations c.store.2)
  noneLost   : c.returned.Pairwise fun a b => ∀ o o' lease lease',
    a.result = .ok (.observe o, .ok (.lease lease)) →
    b.result = .ok (.observe o', .ok (.lease lease')) → authLeases.key o = k →
    authLeases.key o' = k → lease.generation ≠ lease'.generation

-- The lease of a surface has come to a generation.
def Past (i : (String × AuthSurface) × Nat) (s : ProviderAuthState) : Prop :=
  ∃ lease, s.lease? i.1 = some lease ∧ i.2 ≤ lease.generation

theorem Past.grows {i : (String × AuthSurface) × Nat} {s s' : ProviderAuthState} (h : Past i s)
    (hg : s.Grows s') : Past i s' := by
  obtain ⟨lease, hl, hle⟩ := h
  obtain ⟨next, hn, hle'⟩ := hg _ lease hl
  exact ⟨next, hn, hle.trans hle'⟩

-- An accepted observation makes a lease that the store has not had before.
theorem sets_past_of_performed {s s' : ProviderAuthState} {o : ProviderAuthObservation}
    {lease : ProviderAuthLease} (h : authLeases.Performed lease? o s s' (.ok lease)) :
    ¬Past (authLeases.key o, lease.generation) s ∧ Past (authLeases.key o, lease.generation) s' := by
  constructor
  case left =>
    rintro ⟨cur, hcur, hle⟩
    have hn := h.result
    rw [hcur] at hn
    rw [(applyAuthObservation_eq_ok hn.symm).right.generation] at hle
    exact absurd hle (Nat.not_succ_le_self _)
  case right => exact ⟨lease, (h.accepted lease rfl _).trans (if_pos rfl), le_rfl⟩

namespace AuthRun.Reached

theorem observed_lease {o : ProviderAuthObservation} {lease : ProviderAuthLease} (h : c.Reached)
    (hr : ⟨.ok (.observe o, .ok (.lease lease)), made⟩ ∈ c.returned) :
    ∃ m, made = [m] ∧ authLeases.Performed lease? o m.1.1 m.2.1 (.ok lease) ∧
      (o, lease) ∈ authLeases.entries (authLeases.key o) (observations c.store.2) := by
  obtain ⟨m, result, hm, he, hp, hl⟩ := h.observed hr
  cases result
  case error => cases he
  cases he
  obtain ⟨o', hmem, hsame⟩ := hl.accepted lease rfl
  refine ⟨m, hm, hp, ?_⟩
  have hne : m.2.1 ≠ m.1.1 := fun hs => by
    have hsets := sets_past_of_performed hp
    exact hsets.left (hs ▸ hsets.right)
  cases hsame hne
  exact hmem

end AuthRun.Reached

theorem leaseHistory (h : c.Reached) (k : String × AuthSurface) : LeaseHistory c k where
  lineage := .of_grown KeyedLog.entries_grown
  told {o lease made} hr hk := by
    obtain ⟨m, _, _, hmem⟩ := h.observed_lease hr
    exact hk ▸ hmem
  noneLost := by
    have hp := Config.Reachable.setters_pairwise Protocol.logged_mutual
      (fun i x y hg (hpast : Past i x.1) => hpast.grows hg.left)
      (Protocol.clients_respects AuthCall.call_respects) AuthRun.recorded_empty h
    refine hp.imp_of_mem fun {a b} ha hb hn o o' lease lease' hra hrb hk hk' he => ?_
    obtain ⟨ra, made⟩ := a
    obtain ⟨rb, made'⟩ := b
    cases hra
    cases hrb
    obtain ⟨m, rfl, hm, _⟩ := h.observed_lease ha
    obtain ⟨m', rfl, hm', _⟩ := h.observed_lease hb
    have hsets := sets_past_of_performed hm
    have hsets' := sets_past_of_performed hm'
    rw [hk] at hsets
    rw [hk', ← he] at hsets'
    exact hn (k, lease.generation) ⟨⟨m, List.mem_singleton_self _, hsets⟩, m',
      List.mem_singleton_self _, hsets'⟩

-- What the operations of a run have made of one id: what has been enqueued under it stays, and so
-- does what has been drained.
structure QueueHistory (c : AuthRun) (id : String) : Prop where
  lineage  : RecordLineage id (authQueue.entries id (queueOperations c.store.2))
  enqueued : ∀ {item record made},
    ⟨.ok (.enqueue item, .ok (.record record)), made⟩ ∈ c.returned → item.queueId = id →
    record.item = item ∧ ∃ last, c.store.1.record? id = some last ∧ last.item = item
  marked   : ∀ {queueId expectedItemDigest evidenceRef evidenceDigest record made},
    ⟨.ok (.markDrained queueId expectedItemDigest evidenceRef evidenceDigest, .ok (.record record)),
      made⟩ ∈ c.returned → Text.stripped queueId = id →
    record.status = .drained ∧ record.item.digest = expectedItemDigest ∧
      c.store.1.record? id = some record

section

omit [IsoFormat]

variable {cur? : Option ProviderAuthQueueRecord} {record : ProviderAuthQueueRecord}

theorem authQueue_enqueue {item : ProviderAuthQueueItem}
    (h : authQueue.next cur? (.enqueue item) = .ok record) : record.item = item := by
  cases cur?
  case none     => cases Except.ok.inj h; rfl
  case some cur =>
    simp only [authQueue, Except.bind_eq_ok, Py.require_eq_ok, Except.pure_eq_ok, exists_const] at h
    exact h.right ▸ h.left

theorem authQueue_markDrained {queueId expectedItemDigest evidenceRef evidenceDigest : String}
    (h : authQueue.next cur?
      (.markDrained queueId expectedItemDigest evidenceRef evidenceDigest) = .ok record) :
    record.status = .drained ∧ record.item.digest = expectedItemDigest := by
  cases cur?
  case none     => cases h
  case some cur =>
    simp only [authQueue, Except.bind_eq_ok, Py.require_eq_ok, exists_const] at h
    obtain ⟨hd, h⟩ := h
    by_cases hq : cur.status = .drained
    case pos =>
      rw [if_pos hq] at h
      cases Except.ok.inj h
      exact ⟨hq, hd⟩
    case neg =>
      rw [if_neg hq] at h
      obtain ⟨hitem, hstatus, _⟩ := ProviderAuthQueueRecord.new_eq_ok h
      exact ⟨hstatus, hitem ▸ hd⟩

end

omit [IsoFormat] in
-- The last record of an id is the last one that is made of any of its records.
theorem RecordLineage.exists_last {id : String} {y : AuthQueueOperation × ProviderAuthQueueRecord}
    {records : List (AuthQueueOperation × ProviderAuthQueueRecord)} (h : RecordLineage id records)
    (hy : y ∈ records) : ∃ last, records.getLast? = some last ∧ last.2.item = y.2.item ∧
      (y.2.status = .drained → last.2 = y.2) := by
  cases records using List.reverseRecOn
  case nil                        => simp at hy
  case append_singleton records z _ =>
    refine ⟨z, List.getLast?_concat, ?_⟩
    rcases List.mem_append.mp hy with hy | hy
    case inl =>
      have hz : z ∈ [z] := List.mem_singleton_self z
      exact ⟨(List.pairwise_append.mp h.kept).right.right y hy z hz,
        (List.pairwise_append.mp h.final).right.right y hy z hz⟩
    case inr =>
      cases List.mem_singleton.mp hy
      exact ⟨rfl, fun _ => rfl⟩

-- A call on the queue that returns has got a record, of which the last one of its id is made.
theorem AuthRun.Reached.queued {operation : AuthQueueOperation} {record : ProviderAuthQueueRecord}
    (h : c.Reached) (hr : ⟨.ok (call, .ok (.record record)), made⟩ ∈ c.returned)
    (ho : call.operation? = some operation) :
    (∃ cur?, authQueue.next cur? operation = .ok record) ∧
      ∃ last, c.store.1.record? (authQueue.key operation) = some last ∧ last.item = record.item ∧
        (record.status = .drained → last = record) := by
  rcases (authHistory h).queued hr ho with ⟨_, he⟩ | ⟨m, result, _, he, hl⟩
  case inl => cases he
  case inr =>
    cases result
    case error => cases he
    cases he
    obtain ⟨es, _, hn⟩ := hl.result
    obtain ⟨o, hmem, _⟩ := hl.accepted record rfl
    obtain ⟨last, hlast, hkept⟩ := (RecordLineage.of_grown KeyedLog.entries_grown).exists_last hmem
    refine ⟨⟨_, hn.symm⟩, last.2, ?_, hkept⟩
    rw [AuthRun.record?_eq h.recorded, KeyedLog.entry, queueOperations, hlast]
    rfl

theorem queueHistory (h : c.Reached) (id : String) : QueueHistory c id where
  lineage := .of_grown KeyedLog.entries_grown
  enqueued {item record made} hr hid := by
    obtain ⟨⟨_, hn⟩, last, hlast, hitem, _⟩ := h.queued hr rfl
    have hrecord := authQueue_enqueue hn
    exact ⟨hrecord, last, hid ▸ hlast, hitem.trans hrecord⟩
  marked {queueId expectedItemDigest evidenceRef evidenceDigest record made} hr hid := by
    obtain ⟨⟨_, hn⟩, last, hlast, _, hsame⟩ := h.queued hr rfl
    have ⟨hstatus, hdigest⟩ := authQueue_markDrained hn
    exact ⟨hstatus, hdigest, hid ▸ hsame hstatus ▸ hlast⟩

-- What a plan may drain: work that waits for the provider when the queue is read, the first items
-- first, if the provider has authenticated when the leases are read.
structure PlanHistory (providerId : String) (maxItems : Int) (now : Option String)
    (stale : Option Int) (plan : ProviderDrainPlan) (first second : List AuthEvent) : Prop where
  bounded       : (plan.selectedQueueIds.length : Int) ≤ maxItems
  waiting       : ∀ id ∈ plan.selectedQueueIds, ∃ item : ProviderAuthQueueItem, item.queueId = id ∧
    item.providerId = providerId ∧
    authQueue.entry id (queueOperations second) = some (queuedRecord item) ∧
    ∀ x ∈ authQueue.entries id (queueOperations second), x.2 = queuedRecord item
  ordered       : ∀ item item' : ProviderAuthQueueItem, item.queueId ∈ plan.selectedQueueIds →
    authQueue.entry item.queueId (queueOperations second) = some (queuedRecord item) →
    authQueue.entry item'.queueId (queueOperations second) = some (queuedRecord item') →
    item'.providerId = providerId → item'.key ≤ item.key → item'.queueId ∈ plan.selectedQueueIds
  authenticated : plan.selectedQueueIds ≠ [] → plan.disposition = .useAuth
  evidence      : plan.disposition = .useAuth → ∃ o lease,
    (authLeases.entries (authLeases.key o) (observations first)).getLast? = some (o, lease) ∧
      o.providerId = Text.stripped providerId ∧ o.outcome = .authSuccess ∧ Available now stale lease

section

omit [Sha256]

variable {now : Option String} {stale : Option Int} {lease : ProviderAuthLease}

theorem Available.state (h : Available now stale lease) : lease.state = .authAvailable := by
  cases stale
  case none    => exact Except.ok.inj h
  case some =>
    by_contra hs
    exact hs <| Except.ok.inj <| (if_pos hs).symm.trans h

theorem authSuccess_of_available {o : ProviderAuthObservation}
    (h : Available now stale lease) (ht : lease.state = stateForOutcome o.outcome) :
    o.outcome = .authSuccess := by
  rw [h.state] at ht
  cases ho : o.outcome <;> simp_all [stateForOutcome]

end

omit [Sha256] [IsoFormat] in
-- The ids that a plan selects are those of the items that come first.
theorem queueId_mem_firstIds {providerId : String} {items : List ProviderAuthQueueItem}
    {maxItems : Int} {item item' : ProviderAuthQueueItem}
    (hi : item.queueId ∈ firstIds providerId items maxItems) (hm : item' ∈ items)
    (hp : item'.providerId = providerId) (hle : item'.key ≤ item.key)
    (hu : (items.map ProviderAuthQueueItem.queueId).Nodup) (hitem : item ∈ items) :
    item'.queueId ∈ firstIds providerId items maxItems := by
  have hm' : item' ∈ queueOf providerId items := mem_queueOf.mpr ⟨hm, hp⟩
  rw [← List.take_append_drop maxItems.toNat (queueOf providerId items), List.mem_append] at hm'
  rcases hm' with hm' | hm'
  case inl => exact List.mem_map_of_mem hm'
  case inr =>
    obtain ⟨first, hfirst, hid⟩ := List.mem_map.mp hi
    have hfi := (mem_queueOf.mp (List.mem_of_mem_take hfirst)).left
    obtain rfl : first = item := List.inj_on_of_nodup_map hu hfi hitem hid
    -- The items are in order, so that the two have one key, and with it one id.
    have hs : (queueOf providerId items).Pairwise fun a b => a.key ≤ b.key :=
      List.pairwise_sortBy ProviderAuthQueueItem.key _
    rw [← List.take_append_drop maxItems.toNat (queueOf providerId items)] at hs
    have hge := (List.pairwise_append.mp hs).right.right first hfirst item' hm'
    have hk : item'.key = first.key := le_antisymm hle hge
    have hid' : item'.queueId = first.queueId := congrArg (fun k => (ofLex k).2) hk
    exact hid' ▸ hi

omit [IsoFormat] in
theorem RecordLineage.forall_queued {id : String} {item : ProviderAuthQueueItem}
    {records : List (AuthQueueOperation × ProviderAuthQueueRecord)} (h : RecordLineage id records)
    (hl : records.getLast?.map Prod.snd = some (queuedRecord item)) :
    ∀ x ∈ records, x.2 = queuedRecord item := by
  intro x hx
  obtain ⟨last, hlast, hitem, hfinal⟩ := h.exists_last hx
  rw [hlast, Option.map_some, Option.some.injEq] at hl
  have hq : x.2.status = .queued := by
    cases hs : x.2.status
    case queued  => rfl
    case drained =>
      have he := (hfinal hs).symm.trans hl
      rw [he] at hs
      cases hs
  rw [queuedRecord_of_status hq, ← hitem, hl]
  rfl

theorem planHistory {providerId : String} {maxItems : Int} {now : Option String} {stale : Option Int}
    {plan : ProviderDrainPlan} (h : c.Reached)
    (hr : ⟨.ok (.planDrain providerId maxItems now stale, .ok (.plan plan)), made⟩ ∈ c.returned) :
    ∃ m m', made = [m, m'] ∧ m.1.2 <+: c.store.2 ∧ m'.1.2 <+: c.store.2 ∧
      PlanHistory providerId maxItems now stale plan m.1.2 m'.1.2 := by
  have ha := h.answered hr
  obtain ⟨_, _, _, ⟨_, he⟩ | ⟨s, s', leases, items, hmade, hl, hw, he⟩⟩ := ha.post
  case inl => cases he
  cases hplan : planProviderDrain providerId leases items maxItems now stale
  all_goals
    rw [hplan] at he
    cases he
  obtain ⟨m, made, rfl, hm, hmade⟩ := List.map_eq_cons_iff.mp hmade
  obtain ⟨m', rfl, hm'⟩ := List.map_eq_singleton_iff.mp hmade
  rw [Prod.mk.injEq] at hm hm'
  obtain ⟨rfl, -⟩ := hm
  obtain ⟨rfl, -⟩ := hm'
  have hin := ha.inHistory m (by simp)
  have hin' := ha.inHistory m' (by simp)
  have hrecord := AuthRun.record?_eq hin'.recorded
  obtain ⟨hn, auth, hauth, _, hdisp, hids⟩ := planProviderDrain_selects hplan
  obtain ⟨hprovider, hselects⟩ := selects_of hauth
  have hsel {id : String} (hid : id ∈ plan.selectedQueueIds) :
      plan.selectedQueueIds = firstIds providerId items maxItems := by
    rw [hids] at hid ⊢
    split at hid
    case isTrue hu => rw [if_pos hu]
    case isFalse   => simp at hid
  refine ⟨m, m', rfl, hin.kept, hin'.kept, ?_, ?_, ?_, ?_, ?_⟩
  case refine_1 =>
    have hlen : (firstIds providerId items maxItems).length ≤ maxItems.toNat := by
      rw [firstIds, List.length_map]
      exact List.length_take_le _ _
    rw [hids]
    split
    case isTrue  => omega
    case isFalse => simpa using hn
  case refine_2 =>
    intro id hid
    obtain ⟨item, hitem, hp, rfl⟩ := mem_firstIds (hsel hid ▸ hid)
    have hentry := (hrecord _).symm.trans ((hw.mem item).mp hitem).left
    exact ⟨item, rfl, hp, hentry,
      (RecordLineage.of_grown KeyedLog.entries_grown).forall_queued hentry⟩
  case refine_3 =>
    intro item item' hid hitem hitem' hp' hle
    have hs := hsel hid
    rw [hs] at hid ⊢
    obtain ⟨item₀, hm, hp, hid₀⟩ := mem_firstIds hid
    obtain ⟨hwait, hstripped⟩ := (hw.mem item₀).mp hm
    rw [hrecord, hid₀, hitem, Option.some.injEq] at hwait
    obtain rfl : item = item₀ := congrArg ProviderAuthQueueRecord.item hwait
    have hm' : item' ∈ items :=
      (hw.mem item').mpr ⟨(hrecord _).trans hitem', hp'.trans (hp.symm.trans hstripped)⟩
    exact queueId_mem_firstIds hid hm' hp' hle hw.unique hm
  case refine_4 =>
    intro hne
    by_contra hd
    rw [hids, if_neg (hdisp ▸ hd)] at hne
    exact hne rfl
  case refine_5 =>
    intro hd
    obtain ⟨lease, hlease, hbinds, hav, _⟩ := hselects.bound (hdisp.symm.trans hd)
    obtain ⟨hkept, hp⟩ := (hl.mem lease).mp hlease
    rw [AuthRun.lease?_eq hin.recorded, KeyedLog.entry, Option.map_eq_some_iff] at hkept
    obtain ⟨⟨o, _⟩, hlast, rfl⟩ := hkept
    obtain ⟨hk, htells⟩ := (LeaseLineage.of_grown KeyedLog.entries_grown).tells _
      (List.mem_of_getLast? hlast)
    refine ⟨o, _, hk ▸ hlast, ?_, authSuccess_of_available hav htells.state, hav⟩
    exact (congrArg Prod.fst hk).trans (hp _ rfl)

-- A run in which a provider has authenticated and an item has been enqueued.
structure EnqueuedRun (c : AuthRun) (o : ProviderAuthObservation) (lease : ProviderAuthLease)
    (item : ProviderAuthQueueItem) : Prop where
  reached  : c.Reached
  observed : ∃ made, ⟨.ok (.observe o, .ok (.lease lease)), made⟩ ∈ c.returned
  enqueued : ∃ made, ⟨.ok (.enqueue item, .ok (.record (queuedRecord item))), made⟩ ∈ c.returned
  leases   : ∀ k lease', c.store.1.lease? k = some lease' ↔ authLeases.key o = k ∧ lease' = lease
  records  : ∀ id record,
    c.store.1.record? id = some record ↔ item.queueId = id ∧ record = queuedRecord item

theorem exists_enqueuedRun {o : ProviderAuthObservation} {lease : ProviderAuthLease}
    (h : initializeAuthLease o = .ok lease) (item : ProviderAuthQueueItem) :
    ∃ c, EnqueuedRun c o lease item := by
  obtain ⟨s₁, hrun₁, ho⟩ := observeStatements_of_new .empty rfl h
  have hcall₁ : (AuthCall.observe o).call.run .empty = (.ok (.lease lease), s₁) :=
    Program.bind_run_ok.mpr ⟨lease, s₁, Program.transaction_run_ok.mpr hrun₁, rfl⟩
  obtain ⟨c₁, made₁, hc₁, hs₁, _, hret₁, _⟩ := Protocol.exists_performed .refl rfl hcall₁
  have hnone : ∀ id, s₁.record? id = none := fun id => congrFun (record?_congr ho.queue) id
  obtain ⟨s₂, hrun₂, hq⟩ := queueStatements_of_new ho.kept (hnone item.queueId)
  have hcall₂ : (AuthCall.enqueue item).call.run s₁ = (.ok (.record (queuedRecord item)), s₂) :=
    Program.bind_run_ok.mpr ⟨_, s₂, Program.transaction_run_ok.mpr hrun₂, rfl⟩
  obtain ⟨c₂, made₂, hc₂, hs₂, _, hret₂, _⟩ := Protocol.exists_performed hc₁ hs₁ hcall₂
  refine ⟨c₂, hc₂, ⟨made₁, by simp [hret₂, hret₁]⟩, ⟨made₂, by simp [hret₂]⟩, fun k lease' => ?_,
    fun id record => ?_⟩
  case refine_1 =>
    have hl : s₂.lease? k = if authLeases.key o = k then some lease else none :=
      (congrFun (lease?_congr hq.leases) k).trans (ho.leases k)
    rw [hs₂, hl, Option.ite_none_right_eq_some, Option.some.injEq, eq_comm (a := lease)]
  case refine_2 =>
    have hr : s₂.record? id = if item.queueId = id then some (queuedRecord item) else none :=
      hnone id ▸ hq.records id
    rw [hs₂, hr, Option.ite_none_right_eq_some, Option.some.injEq, eq_comm (a := queuedRecord item)]

namespace EnqueuedRun

variable {o : ProviderAuthObservation} {lease : ProviderAuthLease} {item : ProviderAuthQueueItem}

-- What a client finds that reads the leases, or the queue, of the provider.
theorem loaded_eq {leases : List ProviderAuthLease} (h : EnqueuedRun c o lease item)
    (hl : c.store.1.Loaded (some lease.providerId) leases) : leases = [lease] := by
  have hkey := h.reached.recorded.inv.key_of_lease? <| (h.leases _ lease).mpr ⟨rfl, rfl⟩
  refine List.perm_singleton.mp <| (List.perm_ext_iff_of_nodup hl.unique.of_map
    (List.nodup_singleton _)).mpr fun lease' => ?_
  rw [hl.mem, h.leases, List.mem_singleton]
  constructor
  case mp  => exact fun he => he.left.right
  case mpr =>
    rintro rfl
    exact ⟨⟨hkey.symm, rfl⟩, by simp⟩

theorem waiting_eq {items : List ProviderAuthQueueItem} (h : EnqueuedRun c o lease item)
    (hw : c.store.1.Waiting item.providerId items) : items = [item] := by
  refine List.perm_singleton.mp <| (List.perm_ext_iff_of_nodup hw.unique.of_map
    (List.nodup_singleton _)).mpr fun item' => ?_
  rw [hw.mem, h.records, List.mem_singleton]
  constructor
  case mp  => exact fun he => congrArg ProviderAuthQueueRecord.item he.left.right
  case mpr =>
    rintro rfl
    exact ⟨⟨rfl, rfl⟩, rfl⟩

-- The run goes on with a plan.
theorem exists_planned {plan : ProviderDrainPlan} (h : EnqueuedRun c o lease item)
    (hs : Text.stripped item.providerId = item.providerId) (hi : lease.providerId = item.providerId)
    (hp : planProviderDrain item.providerId [lease] [item] 1 none none = .ok plan) :
    ∃ (c' : AuthRun)
      (made : List ((ProviderAuthState × List AuthEvent) × (ProviderAuthState × List AuthEvent))),
      c'.Reached ∧
        ⟨.ok (.planDrain item.providerId 1 none none, .ok (.plan plan)), made⟩ ∈ c'.returned := by
  have hb : ¬Text.Blank item.providerId := hi ▸ lease.providerId_not_blank
  obtain ⟨leases, items, hleases, hitems, hrun⟩ := planDrain_run h.reached.recorded.inv hb 1 none none
  rw [hs] at hleases hitems
  rw [← hi] at hleases
  rw [h.loaded_eq hleases, h.waiting_eq hitems, hp] at hrun
  have hcall : (AuthCall.planDrain item.providerId 1 none none).call.run c.store.1 =
      (.ok (.plan plan), c.store.1) := Program.bind_run_ok.mpr ⟨plan, _, hrun, rfl⟩
  obtain ⟨c', made, hc', _, _, hret, _⟩ := Protocol.exists_performed h.reached rfl hcall
  exact ⟨c', made, hc', by simp [hret]⟩

-- The run goes on with the drain of the item.
theorem exists_marked {evidenceRef evidenceDigest : String} (h : EnqueuedRun c o lease item)
    (hs : Text.stripped item.queueId = item.queueId) (hr : ¬Text.Blank evidenceRef)
    (hd : Guard.StrippedSha256 evidenceDigest) :
    ∃ (c' : AuthRun) (record : ProviderAuthQueueRecord)
      (made : List ((ProviderAuthState × List AuthEvent) × (ProviderAuthState × List AuthEvent))),
      c'.Reached ∧ ⟨.ok (.markDrained item.queueId item.digest evidenceRef evidenceDigest,
        .ok (.record record)), made⟩ ∈ c'.returned := by
  let record : ProviderAuthQueueRecord := {
    item                := item
    status              := .drained
    drainEvidenceRef    := some evidenceRef
    drainEvidenceDigest := some evidenceDigest
    version             := rfl
    evidence            := ⟨hr, hd⟩ }
  have hn : authQueue.next (some (queuedRecord item))
      (.markDrained item.queueId item.digest evidenceRef evidenceDigest) = .ok record := by
    refine (congrArg (· >>= _) <| Py.require_of (rfl : item.digest = item.digest) _ _).trans ?_
    exact ProviderAuthQueueRecord.new_eq record
  have hkept : c.store.1.Kept := h.reached.recorded.inv
  have hq : ¬Text.Blank item.queueId := item.nonempty ("queue_id", item.queueId) (by simp)
  obtain ⟨w, hw, _⟩ := @queueStatements_eq _ _ _
    (.markDrained item.queueId item.digest evidenceRef evidenceDigest) hkept
  have hcur : c.store.1.record? item.queueId = some (queuedRecord item) :=
    (h.records _ _).mpr ⟨rfl, rfl⟩
  rw [show authQueue.key (.markDrained item.queueId item.digest evidenceRef evidenceDigest) =
    item.queueId from rfl, hcur, hn] at hw
  have hcall : (AuthCall.markDrained item.queueId item.digest evidenceRef evidenceDigest).call.run
      c.store.1 = (.ok (.record record), w record) := by
    refine Program.bind_run_ok.mpr ⟨record, w record, ?_, rfl⟩
    have hi : Guard.StrippedSha256 item.digest := Guard.strippedSha256_sha256Digest _
    rw [markDrained_eq hq hi hr hd, hs]
    exact Program.transaction_run_ok.mpr hw
  obtain ⟨c', made, hc', _, _, hret, _⟩ := Protocol.exists_performed h.reached rfl hcall
  exact ⟨c', record, made, hc', by simp [hret]⟩

end EnqueuedRun

end Histories

section Noon

variable [Sha256]

@[reducible]
def noonObservation : @ProviderAuthObservation IsoFormat.hours :=
  letI := IsoFormat.hours
  { providerId     := "vercel"
    surface        := .connectorApi
    outcome        := .authSuccess
    observedAt     := "2026-01-01T12:00:00+00:00"
    evidenceRef    := "evidence://login"
    evidenceDigest := "sha256:" ++ .ofList (List.replicate 64 'a')
    version        := rfl
    nonempty       := by decide
    observed       := by decide
    isSha256       := by decide
    noSecrets      := unset₃
    noAuthority    := rfl }

omit [Sha256] in
theorem initialize_noon :
    letI := IsoFormat.hours
    initializeAuthLease noonObservation = .ok noonLease :=
  letI := IsoFormat.hours
  ProviderAuthLease.new_eq noonLease

theorem exists_noonRun :
    letI := IsoFormat.hours
    ∃ c, EnqueuedRun c noonObservation noonLease firstQueueItem :=
  letI := IsoFormat.hours
  exists_enqueuedRun initialize_noon firstQueueItem

omit [Sha256] in
-- The history of a run in which a provider has authenticated and an item has been enqueued.
theorem authHistory_enqueued :
    letI := Sha256.blind
    letI := IsoFormat.hours
    ∃ c : AuthRun, AuthHistory c ∧ c.store.1.lease? ("vercel", .connectorApi) = some noonLease ∧
      c.store.1.record? "queue-1" = some (queuedRecord firstQueueItem) := by
  let := Sha256.blind
  let := IsoFormat.hours
  obtain ⟨c, h⟩ := exists_noonRun
  exact ⟨c, authHistory h.reached, (h.leases _ _).mpr ⟨rfl, rfl⟩, (h.records _ _).mpr ⟨rfl, rfl⟩⟩

omit [Sha256] in
theorem leaseHistory_noon :
    letI := Sha256.blind
    letI := IsoFormat.hours
    ∃ c : AuthRun, LeaseHistory c ("vercel", .connectorApi) ∧
      (noonObservation, noonLease) ∈
        authLeases.entries ("vercel", .connectorApi) (observations c.store.2) := by
  let := Sha256.blind
  let := IsoFormat.hours
  obtain ⟨c, h⟩ := exists_noonRun
  obtain ⟨made, hr⟩ := h.observed
  have hhistory := leaseHistory h.reached ("vercel", .connectorApi)
  exact ⟨c, hhistory, hhistory.told hr rfl⟩

omit [Sha256] in
theorem queueHistory_drained :
    letI := Sha256.blind
    letI := IsoFormat.hours
    ∃ (c : AuthRun) (record : ProviderAuthQueueRecord), QueueHistory c "queue-1" ∧
      c.store.1.record? "queue-1" = some record ∧ record.status = .drained := by
  let := Sha256.blind
  let := IsoFormat.hours
  obtain ⟨c, h⟩ := exists_noonRun
  have hd : Guard.StrippedSha256 noonObservation.evidenceDigest :=
    noonObservation.isSha256 ("evidence_digest", _) (List.mem_singleton_self _)
  have hr : ¬Text.Blank noonObservation.evidenceRef :=
    noonObservation.nonempty ("evidence_ref", _) (by simp)
  obtain ⟨c', record, made, hc', hret⟩ := h.exists_marked rfl hr hd
  have hhistory := queueHistory hc' "queue-1"
  have ⟨hstatus, _, hrecord⟩ := hhistory.marked hret rfl
  exact ⟨c', record, hhistory, hrecord, hstatus⟩

omit [Sha256] in
theorem planHistory_noon :
    letI := Sha256.blind
    letI := IsoFormat.hours
    ∃ (plan : ProviderDrainPlan) (first second : List AuthEvent),
      PlanHistory "vercel" 1 none none plan first second ∧ plan.selectedQueueIds = ["queue-1"] := by
  let := Sha256.blind
  let := IsoFormat.hours
  obtain ⟨c, h⟩ := exists_noonRun
  have hids : firstIds "vercel" [firstQueueItem] 1 = ["queue-1"] := by
    simp [firstIds, queueOf, firstQueueItem]
  obtain ⟨plan, hp⟩ : ∃ plan,
      planProviderDrain "vercel" [noonLease] [firstQueueItem] 1 none none = .ok plan :=
    exists_plan_of_available (by decide) (by decide) rfl rfl (by rw [hids]; decide)
  obtain ⟨c', made, hc', hret⟩ := h.exists_planned rfl rfl hp
  obtain ⟨m, m', _, _, _, hplan⟩ := planHistory hc' hret
  obtain ⟨_, auth, hauth, _, _, hselected⟩ := planProviderDrain_selects hp
  obtain ⟨hprovider, hselects⟩ := selects_of hauth
  have hprovider' : "vercel" = auth.providerId := hprovider.symm
  have hu : auth.disposition = .useAuth := hselects.available.mpr
    ⟨noonLease, List.mem_filter.mpr ⟨List.mem_singleton_self _, decide_eq_true hprovider'⟩, rfl⟩
  rw [if_pos hu, hids] at hselected
  exact ⟨plan, _, _, hplan, hselected⟩

end Noon

end GeneralExecution
