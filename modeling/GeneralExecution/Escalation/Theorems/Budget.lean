import GeneralExecution.Escalation.Theorems.Rows

namespace GeneralExecution

open WorkEscalations SqliteWorkEscalationStore

instance : DecidableEq UnattendedAuthorityEnvelope :=
  fun _ _ => decidable_of_iff _ UnattendedAuthorityEnvelope.ext_iff.symm

instance : DecidableEq WorkInvocationAuthority :=
  fun _ _ => decidable_of_iff _ WorkInvocationAuthority.ext_iff.symm

theorem WorkEscalationRequest.new_eq_ok
    {workId objective repository sourceRevision authorityRef envelopeDigest workItemDigest
      routingDecisionDigest selectedExecutorDigest authorityDigest schemaVersion : String}
    {requiredCapabilities requestedActions : List String} {maxWorkInvocations : Nat}
    {authorityCreated executionTriggered : Bool} {r : WorkEscalationRequest}
    (h : WorkEscalationRequest.new workId objective repository sourceRevision authorityRef
      envelopeDigest workItemDigest routingDecisionDigest selectedExecutorDigest
      requiredCapabilities requestedActions maxWorkInvocations authorityDigest authorityCreated
      executionTriggered schemaVersion = .ok r) :
    r.authorityRef = authorityRef ∧ r.envelopeDigest = envelopeDigest ∧
      r.authorityDigest = authorityDigest ∧ r.maxWorkInvocations = maxWorkInvocations := by
  simp only [WorkEscalationRequest.new, Except.bind_eq_ok, Except.pure_eq_ok] at h
  obtain ⟨_, _, _, _, _, _, _, _, _, _, _, _, _, _, _, _, rfl⟩ := h
  exact ⟨rfl, rfl, rfl, rfl⟩

variable [Sha256] {s s' : WorkEscalations}

-- What a request takes over from what it is prepared with.
structure WorkEscalationRequest.PreparedFrom (request : WorkEscalationRequest)
    (envelope : UnattendedAuthorityEnvelope) (authority : WorkInvocationAuthority) : Prop where
  authorityRef       : request.authorityRef = envelope.authorityRef
  sameAuthorityRef   : authority.authorityRef = envelope.authorityRef
  envelopeDigest     : request.envelopeDigest = envelope.digest
  authorityDigest    : request.authorityDigest = authority.digest
  maxWorkInvocations :
    request.maxWorkInvocations = min envelope.maxWorkInvocations authority.maxInvocations

theorem prepareWorkEscalationRequest_eq_ok {envelope : UnattendedAuthorityEnvelope}
    {work : UnattendedWorkItem} {decision : WorkSparseControllerDecision}
    {authority : WorkInvocationAuthority} {request : WorkEscalationRequest}
    (h : prepareWorkEscalationRequest envelope work decision authority = .ok request) :
    request.PreparedFrom envelope authority := by
  simp only [prepareWorkEscalationRequest, Except.bind_eq_ok, Py.require_eq_ok, exists_const] at h
  obtain ⟨_, _, _, _, _, _, hw, ha, _, _, _, hn⟩ := h
  obtain ⟨hr, he, had, hm⟩ := WorkEscalationRequest.new_eq_ok hn
  exact ⟨hr.trans hw, ha, he, had, hm⟩

-- A reservation, with the envelope and the authority that its request is bound to.
structure WorkReservation where
  envelope  : UnattendedAuthorityEnvelope
  authority : WorkInvocationAuthority
  request   : WorkEscalationRequest
  prepared  : request.PreparedFrom envelope authority

-- The calls of any clients. Each of them makes at most one transaction, so that calls of several
-- clients run one after the other.
inductive WorkEscalationCall
  | reserve (envelope : UnattendedAuthorityEnvelope) (work : UnattendedWorkItem)
      (decision : WorkSparseControllerDecision) (authority : WorkInvocationAuthority)
  | compareAndSwap (previous next : WorkEscalationState)

namespace WorkEscalationCall

def perform : WorkEscalationCall → EscalationProgram WorkEscalationState
  | .reserve envelope work decision authority => do
    let request ← (prepareWorkEscalationRequest envelope work decision authority : Py _)
    SqliteWorkEscalationStore.reserve request
  | .compareAndSwap previous next => SqliteWorkEscalationStore.compareAndSwap previous next

-- What a call reserves that is not reserved yet.
def reserves (s : WorkEscalations) : WorkEscalationCall → Option WorkReservation
  | .reserve envelope work decision authority =>
    match h : prepareWorkEscalationRequest envelope work decision authority with
    | .error _    => none
    | .ok request =>
      if s.row? request.requestId = none ∧
          ((SqliteWorkEscalationStore.reserve request).run s).1.isOk = true then
        some ⟨envelope, authority, request, prepareWorkEscalationRequest_eq_ok h⟩
      else none
  | .compareAndSwap _ _ => none

-- The table and the reservations after some calls.
def ledgerAfter (calls : List WorkEscalationCall) : WorkEscalations × List WorkReservation :=
  calls.foldl (fun x call => ((call.perform.run x.1).2, x.2 ++ (call.reserves x.1).toList))
    (.empty, [])

def storeAfter (calls : List WorkEscalationCall) : WorkEscalations :=
  (ledgerAfter calls).1

def reservations (calls : List WorkEscalationCall) : List WorkReservation :=
  (ledgerAfter calls).2

variable {calls before : List WorkEscalationCall} {call : WorkEscalationCall}

theorem storeAfter_concat : storeAfter (calls ++ [call]) = (call.perform.run (storeAfter calls)).2 := by
  simp [storeAfter, ledgerAfter]

theorem reservations_concat :
    reservations (calls ++ [call]) = reservations calls ++ (call.reserves (storeAfter calls)).toList := by
  simp [reservations, storeAfter, ledgerAfter]

end WorkEscalationCall

-- The columns of a row that no swap changes.
def WorkEscalations.keys (s : WorkEscalations) : List (String × String × String) :=
  s.rows.map fun row => (row.requestId, row.authorityRef, row.envelopeDigest)

omit [Sha256] in
theorem WorkEscalations.slots_length {ref digest : String} :
    (s.slots ref digest).length = s.keys.countP fun k => k.2.1 = ref ∧ k.2.2 = digest := by
  rw [slots, List.length_map, ← List.countP_eq_length_filter, keys, List.countP_map]
  rfl

def WorkReservation.key (r : WorkReservation) : String × String × String :=
  (r.request.requestId, r.request.authorityRef, r.request.envelopeDigest)

namespace SqliteWorkEscalationStore

theorem swap_keys {previous next : WorkEscalationState} :
    keys (s.update (swapped previous) (swappedRow next) (swappedRow_unique next)) = s.keys := by
  simp only [keys, Table.update, List.map_map]
  refine List.map_congr_left fun row _ => ?_
  by_cases hp : swapped previous row = true <;> simp [hp, swappedRow]

-- A reservation replays a known request, is rejected, or inserts a row for a new one.
theorem reserve_run (hs : s.Slotted) (request : WorkEscalationRequest) :
    (∃ row r, s.row? request.requestId = some row ∧ (reserve request).run s = (r, s)) ∨
      (s.row? request.requestId = none ∧
        request.maxWorkInvocations ≤ (s.slots request.authorityRef request.envelopeDigest).length ∧
        ∃ e, (reserve request).run s = (.error e, s)) ∨
      s.row? request.requestId = none ∧ ∃ hl s',
        (reserve request).run s = (.ok (reservedState s request hl), s') ∧
          s'.rows = s.rows ++ [escalationRow (reservedState s request hl)] := by
  rw [reserve, Program.transaction_run]
  cases hr : s.row? request.requestId
  case some row =>
    refine .inl ⟨row, ?_⟩
    cases h : reserveStatements request s
    case error e => exact ⟨.error e, rfl, rfl⟩
    case ok r =>
      obtain ⟨state, s'⟩ := r
      rcases reserveStatements_eq_ok hs h with ⟨_, _, _, _, rfl⟩ | ⟨_, hn, _⟩
      · exact ⟨.ok state, rfl, rfl⟩
      · simp [hn] at hr
  case none =>
    by_cases hl : (s.slots request.authorityRef request.envelopeDigest).length <
        request.maxWorkInvocations
    case pos =>
      have ⟨s', hrows, hok⟩ := reserveStatements_of_fresh hs hr hl
      exact .inr <| .inr ⟨rfl, hl, s', by rw [hok], hrows⟩
    case neg =>
      refine .inr <| .inl ⟨rfl, Nat.le_of_not_lt hl, ?_⟩
      cases h : reserveStatements request s
      case error e => exact ⟨e, rfl⟩
      case ok r =>
        obtain ⟨state, s'⟩ := r
        rcases reserveStatements_eq_ok hs h with ⟨_, hn, _⟩ | ⟨hl', _⟩
        · simp [hn] at hr
        · exact absurd hl' hl

theorem compareAndSwap_run (previous next : WorkEscalationState) :
    ((compareAndSwap previous next).run s).2 = s ∨
      ((compareAndSwap previous next).run s).2 =
        s.update (swapped previous) (swappedRow next) (swappedRow_unique next) := by
  cases h : (compareAndSwap previous next).run s
  case mk r s' =>
    cases r
    case ok state =>
      simp only [compareAndSwap, Program.bind_run_ok, Program.lift_run, Prod.mk.injEq,
        Py.require_eq_ok, Program.transaction_run_ok] at h
      obtain ⟨_, _, ⟨_, rfl⟩, _, _, ⟨_, rfl⟩, _, _, ⟨_, rfl⟩, _, _, ⟨_, rfl⟩, h⟩ := h
      exact .inr (swapStatements_eq_ok.mp h).right.right
    case error e => exact .inl (compareAndSwap_run_error h)

end SqliteWorkEscalationStore

-- The table holds one row for each reservation, in the same order.
structure WorkEscalations.Books (s : WorkEscalations) (rs : List WorkReservation) : Prop where
  slotted : s.Slotted
  keys    : s.keys = rs.map WorkReservation.key

namespace WorkEscalationCall

variable {envelope : UnattendedAuthorityEnvelope} {work : UnattendedWorkItem}
variable {decision : WorkSparseControllerDecision} {authority : WorkInvocationAuthority}
variable {request : WorkEscalationRequest} {rs : List WorkReservation}

theorem reserves_of_error {e : PyError}
    (h : prepareWorkEscalationRequest envelope work decision authority = .error e) :
    reserves s (.reserve envelope work decision authority) = none := by
  rw [reserves]
  split
  case h_1 => rfl
  case h_2 hp => simp [hp] at h

-- A request is reserved when it is new and its group is below the limit of the request.
theorem reserves_of_ok (hs : s.Slotted)
    (h : prepareWorkEscalationRequest envelope work decision authority = .ok request) :
    reserves s (.reserve envelope work decision authority) =
      if s.row? request.requestId = none ∧
          (s.slots request.authorityRef request.envelopeDigest).length < request.maxWorkInvocations
        then some ⟨envelope, authority, request, prepareWorkEscalationRequest_eq_ok h⟩
      else none := by
  rw [reserves]
  split
  case h_1 he => simp [he] at h
  case h_2 request' hp =>
    obtain rfl : request' = request := Except.ok.inj <| hp.symm.trans h
    refine if_congr (and_congr_right fun hr => ?_) rfl rfl
    rcases reserve_run hs request' with ⟨row, _, hrow, _⟩ | ⟨_, hl, e, hrun⟩ | ⟨_, hl, _, hrun, _⟩
    · simp [hrow] at hr
    · simpa [hrun, Except.isOk, Except.toBool] using hl
    · simpa [hrun, Except.isOk, Except.toBool] using hl

theorem perform_reserve_run
    (h : prepareWorkEscalationRequest envelope work decision authority = .ok request) :
    (perform (.reserve envelope work decision authority)).run s =
      (SqliteWorkEscalationStore.reserve request).run s := by
  rw [perform, h, Program.bind_run]
  rfl

-- Each call keeps the books.
theorem perform_books (hb : s.Books rs) (call : WorkEscalationCall) :
    (call.perform.run s).2.Books (rs ++ (call.reserves s).toList) := by
  cases call
  case compareAndSwap previous next =>
    rw [reserves, Option.toList_none, List.append_nil, perform]
    cases compareAndSwap_run (s := s) previous next
    case inl h => exact h.symm ▸ hb
    case inr h =>
      rw [h]
      refine ⟨fun ref digest => ?_, swap_keys.trans hb.keys⟩
      rw [swap_slots]
      exact hb.slotted ref digest
  case reserve envelope work decision authority =>
    cases h : prepareWorkEscalationRequest envelope work decision authority
    case error e =>
      rw [reserves_of_error h, Option.toList_none, List.append_nil, perform, h, Program.bind_run]
      exact hb
    case ok request =>
      rw [reserves_of_ok hb.slotted h, perform_reserve_run h]
      rcases reserve_run hb.slotted request with
        ⟨row, _, hrow, hrun⟩ | ⟨_, hl, e, hrun⟩ | ⟨hr, hl, s', hrun, hrows⟩
      · rw [hrun, if_neg (by simp [hrow])]
        simpa using hb
      · rw [hrun, if_neg (by simp [hl])]
        simpa using hb
      · rw [hrun, if_pos ⟨hr, hl⟩]
        refine ⟨reservedState_slotted hb.slotted hrows, ?_⟩
        have hk := hb.keys
        rw [WorkEscalations.keys] at hk ⊢
        simp [hrows, hk, escalationRow, SqliteWorkEscalationStore.reservedState, WorkReservation.key]

theorem books (calls : List WorkEscalationCall) : (storeAfter calls).Books (reservations calls) := by
  induction calls using List.reverseRecOn
  case nil => exact ⟨fun _ _ => rfl, rfl⟩
  case append_singleton calls call ih =>
    rw [storeAfter_concat, reservations_concat]
    exact perform_books ih call

end WorkEscalationCall

namespace WorkEscalations.Books

variable {rs : List WorkReservation} {p : WorkReservation → Bool}

-- The reservations are distinct.
theorem requestIds_nodup (hb : s.Books rs) : (rs.map (·.request.requestId)).Nodup := by
  have hu := s.unique WorkEscalationRow.primaryKey (by simp)
  have hk := congrArg (List.map Prod.fst) hb.keys
  simp only [WorkEscalations.keys, List.map_map] at hk
  rw [show (rs.map (·.request.requestId)) = s.rows.map (·.requestId) from hk.symm]
  refine (List.nodup_map_iff (Sum.inl_injective (β := String × String × Nat))).mp ?_
  rw [List.map_map]
  exact hu

-- No group has more reservations than slots.
theorem countP_le (hb : s.Books rs) (ref digest : String)
    (hp : ∀ r ∈ rs, p r = true → r.request.authorityRef = ref ∧ r.request.envelopeDigest = digest) :
    rs.countP p ≤ (s.slots ref digest).length := by
  rw [slots_length, hb.keys, List.countP_map]
  exact List.countP_mono_left fun r hr h => decide_eq_true (hp r hr h)

end WorkEscalations.Books

namespace WorkEscalationCall

-- In no state of the run has an envelope or an authority more reservations than it allows. An
-- authority is told apart by all that it says, of which its digest is taken.
structure WithinBudgets (calls : List WorkEscalationCall) : Prop where
  envelope : ∀ before, before <+: calls → ∀ e,
    (reservations before).countP (·.envelope = e) ≤ e.maxWorkInvocations
  authority : ∀ before, before <+: calls → ∀ a,
    (reservations before).countP (·.authority = a) ≤ a.maxInvocations

-- Whenever a request is new and its group has a slot left for it, all that its authority has
-- reserved is in that group, or the authority has some of its own budget left.
def AuthoritySpared (calls : List WorkEscalationCall) : Prop :=
  ∀ before envelope work decision authority request,
    before ++ [.reserve envelope work decision authority] <+: calls →
    prepareWorkEscalationRequest envelope work decision authority = .ok request →
    (storeAfter before).row? request.requestId = none →
    ((storeAfter before).slots request.authorityRef request.envelopeDigest).length <
      request.maxWorkInvocations →
    (∀ r ∈ reservations before, r.authority = authority →
        r.request.envelopeDigest = request.envelopeDigest) ∨
      (reservations before).countP (·.authority = authority) < authority.maxInvocations

variable {calls before : List WorkEscalationCall} {call : WorkEscalationCall} {r : WorkReservation}

-- What is known of a call that adds a reservation.
structure Adds (before : List WorkEscalationCall) (call : WorkEscalationCall)
    (r : WorkReservation) : Prop where
  call : ∃ work decision, call = .reserve r.envelope work decision r.authority ∧
    prepareWorkEscalationRequest r.envelope work decision r.authority = .ok r.request
  fresh : (storeAfter before).row? r.request.requestId = none
  slot : ((storeAfter before).slots r.request.authorityRef r.request.envelopeDigest).length <
    r.request.maxWorkInvocations

theorem reserves_eq_some : call.reserves (storeAfter before) = some r ↔ Adds before call r := by
  have hs := (books before).slotted
  cases call
  case compareAndSwap previous next =>
    refine iff_of_false (by simp [reserves]) fun h => ?_
    obtain ⟨_, _, hc, _⟩ := h.call
    contradiction
  case reserve envelope work decision authority =>
    cases h : prepareWorkEscalationRequest envelope work decision authority
    case error e =>
      refine iff_of_false (by simp [reserves_of_error h]) fun ha => ?_
      obtain ⟨_, _, hc, hp⟩ := ha.call
      obtain ⟨rfl, rfl, rfl, rfl⟩ := reserve.inj hc
      simp [h] at hp
    case ok request =>
      rw [reserves_of_ok hs h]
      constructor
      · intro hr
        split at hr
        case isTrue hc =>
          obtain rfl := Option.some.inj hr
          exact ⟨⟨work, decision, rfl, h⟩, hc.left, hc.right⟩
        case isFalse => contradiction
      · intro ha
        obtain ⟨_, _, hc, hp⟩ := ha.call
        obtain ⟨rfl, rfl, rfl, rfl⟩ := reserve.inj hc
        obtain rfl : request = r.request := Except.ok.inj <| h.symm.trans hp
        exact if_pos ⟨ha.fresh, ha.slot⟩

-- What holds of the reservations so far and is not broken by one more holds of all of them.
theorem countP_le_of_adds {p : WorkReservation → Bool} {n : Nat}
    (h : ∀ before call r, before ++ [call] <+: calls → Adds before call r → p r = true →
      (reservations before).countP p < n) :
    (reservations calls).countP p ≤ n := by
  induction calls using List.reverseRecOn
  case nil => exact Nat.zero_le n
  case append_singleton calls call ih =>
    rw [reservations_concat, List.countP_append]
    have hle : (reservations calls).countP p ≤ n :=
      ih fun before call' r hp => h before call' r (hp.trans (List.prefix_append _ _))
    cases hr : call.reserves (storeAfter calls)
    case none   => simpa using hle
    case some r =>
      by_cases hp : p r = true
      case pos =>
        have := h calls call r (List.prefix_refl _) (reserves_eq_some.mp hr) hp
        simpa [hp] using this
      case neg => simpa [hp] using hle

-- A reservation adds to the group that its envelope and its authority reference make up.
theorem Adds.envelope_countP (h : Adds before call r) :
    (reservations before).countP (·.envelope = r.envelope) < r.envelope.maxWorkInvocations := by
  have hle : (reservations before).countP (·.envelope = r.envelope) ≤ _ :=
    (books before).countP_le r.request.authorityRef r.request.envelopeDigest
      fun r' _ he => by
        have he : r'.envelope = r.envelope := of_decide_eq_true he
        rw [r'.prepared.authorityRef, r'.prepared.envelopeDigest, r.prepared.authorityRef,
          r.prepared.envelopeDigest, he]
        exact ⟨rfl, rfl⟩
  have hmax := r.prepared.maxWorkInvocations
  have hslot := h.slot
  omega

theorem Adds.authority_countP (h : Adds before call r)
    (hg : ∀ r' ∈ reservations before, r'.authority = r.authority →
      r'.request.envelopeDigest = r.request.envelopeDigest) :
    (reservations before).countP (·.authority = r.authority) < r.authority.maxInvocations := by
  have hle : (reservations before).countP (·.authority = r.authority) ≤ _ :=
    (books before).countP_le r.request.authorityRef r.request.envelopeDigest
      fun r' hm he => by
        have he : r'.authority = r.authority := of_decide_eq_true he
        refine ⟨?_, hg r' hm he⟩
        rw [r'.prepared.authorityRef, ← r'.prepared.sameAuthorityRef, he,
          r.prepared.sameAuthorityRef, r.prepared.authorityRef]
  have hmax := r.prepared.maxWorkInvocations
  have hslot := h.slot
  omega

-- The budget of an envelope is kept in every run.
theorem envelope_withinBudget (calls : List WorkEscalationCall) (e : UnattendedAuthorityEnvelope) :
    (reservations calls).countP (·.envelope = e) ≤ e.maxWorkInvocations := by
  refine countP_le_of_adds fun before call r _ ha he => ?_
  have he : r.envelope = e := of_decide_eq_true he
  exact he ▸ ha.envelope_countP

end WorkEscalationCall

open WorkEscalationCall in
theorem workInvocations_withinBudgets_iff (calls : List WorkEscalationCall) :
    WithinBudgets calls ↔ AuthoritySpared calls := by
  constructor
  · intro h before envelope work decision authority request hp hr hn hl
    let r : WorkReservation := ⟨envelope, authority, request, prepareWorkEscalationRequest_eq_ok hr⟩
    have ha : Adds before (.reserve envelope work decision authority) r :=
      ⟨⟨work, decision, rfl, hr⟩, hn, hl⟩
    have hb := h.authority _ hp authority
    rw [reservations_concat, reserves_eq_some.mpr ha, List.countP_append] at hb
    refine .inr ?_
    simpa [r] using hb
  · intro h
    refine ⟨fun before _ => envelope_withinBudget before, fun before hb a => ?_⟩
    refine countP_le_of_adds fun before' call r hp ha he => ?_
    obtain rfl : r.authority = a := of_decide_eq_true he
    obtain ⟨work, decision, rfl, hr⟩ := ha.call
    cases h before' _ work decision _ _ (hp.trans hb) hr ha.fresh ha.slot
    case inl hg => exact ha.authority_countP hg
    case inr hc => exact hc

-- One authority for one invocation, used under two envelopes that both allow one.
section Overdrawn

def soleAuthority : WorkInvocationAuthority where
  actor             := "operator"
  authorityRef      := "authority"
  authorityBoundary := "boundary"
  grantedScopes     := ["executor_activation", "work_invocation"]
  maxInvocations    := 1
  version           := rfl
  nonempty          := by decide
  canonical         := by decide
  required          := List.Subset.refl _
  positive          := Nat.one_pos
  noAuthority       := rfl

def workEnvelope (id : String) (h : ¬Text.Blank id) : UnattendedAuthorityEnvelope where
  envelopeId          := id
  authorityRef        := "authority"
  allowedRepositories := ["repository"]
  allowedActions      := ["action"]
  forbiddenActions    := []
  maxWorkInvocations  := 1
  version             := rfl
  nonempty            := by
    have ha : ¬Text.Blank "authority" := by decide
    simp [h, ha]
  unique              := by decide
  disjoint            := by simp
  noAuthority         := rfl

def workItem (id : String) (h : ¬Text.Blank id) : UnattendedWorkItem where
  workId               := id
  objective            := "objective"
  repository           := "repository"
  sourceRevision       := "revision"
  authorityRef         := "authority"
  requiredCapabilities := ["capability"]
  requestedActions     := ["action"]
  version              := rfl
  nonempty             := by
    have hr : ∀ x ∈ [("objective", "objective"), ("repository", "repository"),
      ("source_revision", "revision"), ("authority_ref", "authority")], ¬Text.Blank x.2 := by decide
    exact List.forall_mem_cons.mpr ⟨h, hr⟩
  unique               := by decide
  optional             := by decide

def workExecutor : ExecutorCapability where
  executorId   := "work"
  capabilities := ["capability"]
  costRank     := 0
  requiresWork := true
  version      := rfl
  nonempty     := by decide
  unique       := by decide
  noAuthority  := rfl
  free _       := rfl

variable {eid wid : String} (he : ¬Text.Blank eid) (hw : ¬Text.Blank wid)

def workDecision : WorkSparseControllerDecision :=
  decideWorkSparseRoute (workEnvelope eid he) (workItem wid hw) [workExecutor] {}

theorem workDecision_eq :
    workDecision he hw = finalizeDecision (workItem wid hw) (workEnvelope eid he) .dispatch
      ["cheapest_admissible_executor", "work_required_by_capability"] workExecutor := by
  simp [workDecision, decideWorkSparseRoute, workEnvelope, workItem, workExecutor,
    Typed.difference, budgetRejection]

def workRequest : WorkEscalationRequest where
  workId                 := wid
  objective              := "objective"
  repository             := "repository"
  sourceRevision         := "revision"
  authorityRef           := "authority"
  envelopeDigest         := (workEnvelope eid he).digest
  workItemDigest         := (workItem wid hw).digest
  routingDecisionDigest  := (workDecision he hw).decisionDigest
  selectedExecutorDigest := workExecutor.digest
  requiredCapabilities   := ["capability"]
  requestedActions       := ["action"]
  maxWorkInvocations     := 1
  authorityDigest        := soleAuthority.digest
  version                := rfl
  nonempty               := (workItem wid hw).nonempty
  isSha256               := by
    simp only [List.mem_cons, List.not_mem_nil, or_false, forall_eq_or_imp, forall_eq,
      workDecision_eq]
    exact ⟨Guard.strippedSha256_sha256Digest _, Guard.strippedSha256_sha256Digest _,
      Guard.strippedSha256_sha256Digest _, Guard.strippedSha256_sha256Digest _,
      Guard.strippedSha256_sha256Digest _⟩
  supplied               := by decide
  unique                 := by decide
  positive               := Nat.one_pos
  noAuthority            := rfl
  noExecution            := rfl

theorem prepare_workRequest :
    prepareWorkEscalationRequest (workEnvelope eid he) (workItem wid hw) (workDecision he hw)
      soleAuthority = .ok (workRequest he hw) := by
  have hd : (workDecision he hw).selectedExecutorDigest.getD "" = workExecutor.digest := by
    rw [workDecision_eq]
    rfl
  have hs : Text.stripped workExecutor.digest = workExecutor.digest := Guard.stripped_sha256Digest _
  simp only [prepareWorkEscalationRequest, Except.bind_eq_ok, Py.require_eq_ok, exists_const, hd, hs]
  refine ⟨?_, ⟨?_, ?_⟩, ⟨?_, ?_⟩, ?_, ?_, ?_, rfl, rfl, Nat.one_pos, Nat.one_pos,
    Guard.strippedSha256_sha256Digest _, WorkEscalationRequest.new_eq (workRequest he hw)⟩
  all_goals rw [workDecision_eq]; rfl

namespace WorkEscalationCall

def workCall : WorkEscalationCall :=
  .reserve (workEnvelope eid he) (workItem wid hw) (workDecision he hw) soleAuthority

def workReservation : WorkReservation where
  envelope  := workEnvelope eid he
  authority := soleAuthority
  request   := workRequest he hw
  prepared  := prepareWorkEscalationRequest_eq_ok (prepare_workRequest he hw)

theorem reservations_workCall (before : List WorkEscalationCall)
    (h : ∀ r ∈ reservations before, r.request.requestId ≠ (workRequest he hw).requestId ∧
      r.request.envelopeDigest ≠ (workEnvelope eid he).digest) :
    reservations (before ++ [workCall he hw]) = reservations before ++ [workReservation he hw] := by
  have hk := (books before).keys
  have ha : Adds before (workCall he hw) (workReservation he hw) := by
    refine ⟨⟨_, _, rfl, prepare_workRequest he hw⟩, ?_, ?_⟩
    · cases hr : (storeAfter before).row? (workRequest he hw).requestId
      case none => exact hr
      case some row =>
        obtain ⟨hm, hid⟩ := row?_eq_some.mp hr
        have hmem : (row.requestId, row.authorityRef, row.envelopeDigest) ∈ (storeAfter before).keys :=
          List.mem_map_of_mem hm
        rw [hk] at hmem
        obtain ⟨r, hr, hrk⟩ := List.mem_map.mp hmem
        exact absurd ((congrArg Prod.fst hrk).trans hid) (h r hr).left
    · have hz : ((storeAfter before).slots "authority" (workEnvelope eid he).digest).length = 0 := by
        rw [slots_length, hk, List.countP_map, List.countP_eq_zero]
        intro r hr hd
        exact (h r hr).right (of_decide_eq_true hd).right
      exact hz ▸ Nat.one_pos
  rw [reservations_concat, reserves_eq_some.mpr ha]
  rfl

end WorkEscalationCall

end Overdrawn

-- A digest that tells the second envelope and the second work item from the first ones.
def rankOfSecond (j : Option Json) : Nat :=
  if j.bind (·.string? "envelope_id") = some "envelope-2" ∨
    j.bind (·.string? "work_id") = some "work-2" then 1 else 0

omit [Sha256] in
theorem rankOfSecond_envelope (e : UnattendedAuthorityEnvelope) :
    rankOfSecond (normalize (toPy e)) = if e.envelopeId = "envelope-2" then 1 else 0 := by
  have hd : distinctKeys (asdict e) = true := rfl
  have hi : (normalize (toPy e)).get? "envelope_id" = some (.str e.envelopeId) :=
    (normalize_get? hd _).trans rfl
  have hw : (normalize (toPy e)).get? "work_id" = none := (normalize_get? hd _).trans rfl
  simp [rankOfSecond, Json.string?, hi, hw]

omit [Sha256] in
theorem rankOfSecond_request (r : WorkEscalationRequest) :
    rankOfSecond (normalize (toPy r)) = if r.workId = "work-2" then 1 else 0 := by
  have hd : distinctKeys (asdict r) = true := rfl
  have hi : (normalize (toPy r)).get? "envelope_id" = none := (normalize_get? hd _).trans rfl
  have hw : (normalize (toPy r)).get? "work_id" = some (.str r.workId) :=
    (normalize_get? hd _).trans rfl
  simp [rankOfSecond, Json.string?, hi, hw]

omit [Sha256] in
open WorkEscalationCall in
theorem workInvocations_notWithinBudgets : let _ := Sha256.ofRank rankOfSecond
    ∃ calls, ¬WithinBudgets calls := by
  intro _
  have he₁ : ¬Text.Blank "envelope-1" := by decide
  have he₂ : ¬Text.Blank "envelope-2" := by decide
  have hw₁ : ¬Text.Blank "work-1" := by decide
  have hw₂ : ¬Text.Blank "work-2" := by decide
  refine ⟨[workCall he₁ hw₁, workCall he₂ hw₂], fun h => ?_⟩
  have hid : (workRequest he₁ hw₁).requestId ≠ (workRequest he₂ hw₂).requestId :=
    stableId_ne_of_rank "gewr" <| by
      rw [rankOfSecond_request, rankOfSecond_request]
      simp [workRequest]
  have hd : (workEnvelope "envelope-1" he₁).digest ≠ (workEnvelope "envelope-2" he₂).digest :=
    sha256Digest_ne_of_rank <| by
      rw [rankOfSecond_envelope, rankOfSecond_envelope]
      simp [workEnvelope]
  have h₁ : reservations [workCall he₁ hw₁] = [workReservation he₁ hw₁] :=
    reservations_workCall he₁ hw₁ [] (by simp [reservations, ledgerAfter])
  have h₂ : reservations [workCall he₁ hw₁, workCall he₂ hw₂] =
      [workReservation he₁ hw₁, workReservation he₂ hw₂] := by
    have hr := reservations_workCall he₂ hw₂ [workCall he₁ hw₁] <| by
      simp only [h₁, List.mem_singleton, forall_eq]
      exact ⟨hid, hd⟩
    rwa [h₁] at hr
  have hle := h.authority _ (List.prefix_refl _) soleAuthority
  rw [h₂] at hle
  simp [workReservation, soleAuthority] at hle

end GeneralExecution
