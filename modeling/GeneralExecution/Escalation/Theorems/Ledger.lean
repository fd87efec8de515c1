import GeneralExecution.Escalation.Theorems.Budget

namespace GeneralExecution

theorem WorkEscalationState.new_eq_ok {request : WorkEscalationRequest} {slotIndex revision : Nat}
    {status : WorkEscalationStatus}
    {previousStateDigest platformObservationDigest nativeExecutionRef conditionRef failureReason :
      Option String} {authorityCreated : Bool} {schemaVersion : String} {s : WorkEscalationState}
    (h : WorkEscalationState.new request slotIndex status revision previousStateDigest
      platformObservationDigest nativeExecutionRef conditionRef failureReason authorityCreated
      schemaVersion = .ok s) :
    s.request = request ∧ s.slotIndex = slotIndex ∧ s.revision = revision ∧
      s.previousStateDigest = previousStateDigest := by
  simp only [WorkEscalationState.new, Except.bind_eq_ok, Except.pure_eq_ok] at h
  obtain ⟨_, _, _, _, _, _, _, _, _, _, rfl⟩ := h
  exact ⟨rfl, rfl, rfl, rfl⟩

-- What a later state of a reservation keeps of an earlier one.
structure WorkEscalationState.Advances (cur next : WorkEscalationState) : Prop where
  request  : next.request = cur.request
  slot     : next.slotIndex = cur.slotIndex
  revision : cur.revision ≤ next.revision
  same     : next.revision = cur.revision → next = cur
  terminal : cur.status.terminal = true → next = cur

namespace WorkEscalationState.Advances

variable {cur mid next : WorkEscalationState}

theorem refl : Advances cur cur :=
  ⟨rfl, rfl, le_refl _, fun _ => rfl, fun _ => rfl⟩

theorem trans (h : Advances cur mid) (h' : Advances mid next) : Advances cur next where
  request  := h'.request.trans h.request
  slot     := h'.slot.trans h.slot
  revision := h.revision.trans h'.revision
  same hr  := by
    have hle := h.revision
    have hle' := h'.revision
    have hm : mid = cur := h.same (by omega)
    exact (h'.same (by omega)).trans hm
  terminal ht := by
    have hm := h.terminal ht
    exact (h'.terminal (hm ▸ ht)).trans hm

end WorkEscalationState.Advances

variable [Sha256] {s s' : WorkEscalations} {cur state previous next : WorkEscalationState}
variable {request : WorkEscalationRequest} {row : WorkEscalationRow} {id : String}

-- What a recorded observation makes of a state.
structure WorkEscalationState.Follows (cur next : WorkEscalationState) : Prop where
  request     : next.request = cur.request
  slot        : next.slotIndex = cur.slotIndex
  revision    : next.revision = cur.revision + 1
  predecessor : next.previousStateDigest = some cur.digest
  live        : cur.status.terminal = false

theorem WorkEscalationState.Follows.advances (h : cur.Follows next) : cur.Advances next where
  request     := h.request
  slot        := h.slot
  revision    := by have := h.revision; omega
  same hr     := by have := h.revision; omega
  terminal ht := by simp [h.live] at ht

theorem recordWorkPlatformObservation_eq_ok [FromIsoFormat]
    {platformRequest : WorkPlatformActivationRequest} {observation : WorkPlatformObservation}
    (h : recordWorkPlatformObservation state platformRequest observation = .ok next) :
    state.Follows next := by
  simp only [recordWorkPlatformObservation, Except.bind_eq_ok, Py.require_eq_ok, exists_const] at h
  obtain ⟨hl, _, _, _, _, _, _, h⟩ := h
  cases ho : observation.outcome <;> simp only [ho] at h
  all_goals
    obtain ⟨hr, hs, hv, hp⟩ := WorkEscalationState.new_eq_ok h
    exact ⟨hr, hs, hv, hp, hl⟩

namespace WorkEscalations

-- The state that the row of a request stores.
def durable? (s : WorkEscalations) (requestId : String) : Option WorkEscalationState :=
  (s.row? requestId).bind fun row => (decodeEscalationRow row).toOption

-- Every row is the row of a state.
def Kept (s : WorkEscalations) : Prop :=
  ∀ row ∈ s.rows, ∃ state, row = escalationRow state

theorem durable?_of_row (h : s.row? id = some (escalationRow state)) :
    s.durable? id = some state := by
  rw [durable?, h, Option.bind_some, decodeEscalationRow_row]
  rfl

theorem durable?_eq_none (h : s.row? id = none) : s.durable? id = none := by
  rw [durable?, h, Option.bind_none]

namespace Kept

theorem row?_of_row (hs : s.Kept) (h : s.row? id = some row) :
    ∃ state, row = escalationRow state ∧ state.request.requestId = id ∧ s.durable? id = some state := by
  have ⟨hm, hid⟩ := row?_eq_some.mp h
  obtain ⟨state, rfl⟩ := hs row hm
  exact ⟨state, rfl, hid, durable?_of_row h⟩

theorem row?_of_durable (hs : s.Kept) (h : s.durable? id = some state) :
    s.row? id = some (escalationRow state) ∧ state.request.requestId = id := by
  cases hr : s.row? id
  case none => simp [durable?_eq_none hr] at h
  case some row =>
    obtain ⟨state', rfl, hid, hd⟩ := hs.row?_of_row hr
    obtain rfl : state' = state := Option.some.inj <| hd.symm.trans h
    exact ⟨rfl, hid⟩

theorem row?_eq_none (hs : s.Kept) (h : s.durable? id = none) : s.row? id = none := by
  cases hr : s.row? id
  case none => rfl
  case some row =>
    have ⟨_, _, _, hd⟩ := hs.row?_of_row hr
    simp [h] at hd

end Kept

-- A reservation of a request that is not in the table, in the next slot of its group.
structure Reserves (s s' : WorkEscalations) (state : WorkEscalationState) : Prop where
  fresh    : s.durable? state.request.requestId = none
  reserved : state.status = .reserved
  revision : state.revision = 0
  slot     : state.slotIndex =
    (s.slots state.request.authorityRef state.request.envelopeDigest).length + 1
  durable  : ∀ id, s'.durable? id =
    if id = state.request.requestId then some state else s.durable? id

-- A swap of the state of one request.
structure Swaps (s s' : WorkEscalations) (cur next : WorkEscalationState) : Prop where
  follows : cur.Follows next
  current : s.durable? cur.request.requestId = some cur
  durable : ∀ id, s'.durable? id = if id = cur.request.requestId then some next else s.durable? id

-- What one access may do.
inductive Moves (s : WorkEscalations) : WorkEscalations → Prop
  | unchanged : Moves s s
  | reserves {t : WorkEscalations} {state : WorkEscalationState} : s.Reserves t state → Moves s t
  | swaps {t : WorkEscalations} {cur next : WorkEscalationState} : s.Swaps t cur next → Moves s t

-- What all clients may rely on.
def Advance (s s' : WorkEscalations) : Prop :=
  ∀ id cur, s.durable? id = some cur → ∃ next, s'.durable? id = some next ∧ cur.Advances next

theorem Advance.refl (s : WorkEscalations) : s.Advance s :=
  fun _ cur h => ⟨cur, h, .refl⟩

theorem Advance.trans {s₁ s₂ s₃ : WorkEscalations} (h : s₁.Advance s₂) (h' : s₂.Advance s₃) :
    s₁.Advance s₃ := by
  intro id cur hc
  have ⟨mid, hm, ha⟩ := h id cur hc
  have ⟨next, hn, ha'⟩ := h' id mid hm
  exact ⟨next, hn, ha.trans ha'⟩

theorem Moves.advance (h : s.Moves s') : s.Advance s' := by
  cases h
  case unchanged => exact .refl s
  case reserves state h =>
    intro id cur hc
    have hne : id ≠ state.request.requestId := by
      rintro rfl
      simp [h.fresh] at hc
    exact ⟨cur, (h.durable id).trans <| (if_neg hne).trans hc, .refl⟩
  case swaps cur next h =>
    intro id cur' hc
    by_cases hid : id = cur.request.requestId
    case pos =>
      obtain rfl : cur' = cur := Option.some.inj <| hc.symm.trans <| hid ▸ h.current
      exact ⟨next, (h.durable id).trans (if_pos hid), h.follows.advances⟩
    case neg => exact ⟨cur', (h.durable id).trans <| (if_neg hid).trans hc, .refl⟩

-- The invariant of the table.
structure Inv (s : WorkEscalations) : Prop where
  kept    : s.Kept
  slotted : s.Slotted

theorem Inv.empty : Inv .empty :=
  ⟨by simp [Kept, Table.empty], fun _ _ => rfl⟩

end WorkEscalations

open WorkEscalations

namespace SqliteWorkEscalationStore

-- What a reservation does: it returns the state of a request that is known, or reserves the next
-- slot for it.
theorem reserveStatements_run (hs : s.Inv) (h : reserveStatements request s = .ok (state, s')) :
    s'.Inv ∧ state.request = request ∧ s'.durable? request.requestId = some state ∧
      (s' = s ∨ s.Reserves s' state) := by
  rcases reserveStatements_eq_ok hs.slotted h with ⟨row, hr, hd, hi, rfl⟩ | ⟨hl, hr, hst, hrows⟩
  · obtain ⟨state', rfl, _, hd'⟩ := hs.kept.row?_of_row hr
    obtain rfl : state' = state := by simpa using hd
    exact ⟨hs, hi, hd', .inl rfl⟩
  · have hi : state.request = request := hst ▸ rfl
    have hrow (id : String) : s'.row? id =
        if id = state.request.requestId then some (escalationRow state) else s.row? id := by
      have hf : s'.row? id = (s.row? id).or
          ([escalationRow state].find? fun r => r.primaryKey = .inl id) := by
        rw [row?, row?, Table.select, Table.select, hrows, List.find?_append]
      rw [hf]
      by_cases hid : id = state.request.requestId
      case pos => simp [hid, hi, hr, WorkEscalationRow.primaryKey, escalationRow]
      case neg => simp [hid, Ne.symm hid, WorkEscalationRow.primaryKey, escalationRow]
    have hdur (id : String) : s'.durable? id =
        if id = state.request.requestId then some state else s.durable? id := by
      by_cases hid : id = state.request.requestId
      case pos =>
        rw [if_pos hid]
        exact durable?_of_row <| (hrow id).trans (if_pos hid)
      case neg => rw [if_neg hid, durable?, hrow, if_neg hid, durable?]
    have hk : s'.Kept := by
      intro row hm
      rw [hrows, List.mem_append, List.mem_singleton] at hm
      cases hm
      case inl hm => exact hs.kept row hm
      case inr hm => exact ⟨state, hm⟩
    have hsl : s'.Slotted := reservedState_slotted hs.slotted (hst ▸ hrows)
    refine ⟨⟨hk, hsl⟩, hi, ?_, .inr ⟨?_, ?_, ?_, ?_, hdur⟩⟩
    · rw [hdur, if_pos (hi ▸ rfl)]
    · exact durable?_eq_none (hi ▸ hr)
    · exact hst ▸ rfl
    · exact hst ▸ rfl
    · exact hst ▸ rfl

-- A request that is known is replayed.
theorem reserve_of_durable (hs : s.Inv) (h : s.durable? request.requestId = some cur)
    (hr : cur.request = request) : (reserve request).run s = (.ok cur, s) := by
  have ⟨hrow, _⟩ := hs.kept.row?_of_durable h
  refine Program.transaction_run_ok.mpr ?_
  simp only [reserveStatements, Statements.get_bind, hrow]
  exact Statements.lift_bind_eq_ok.mpr ⟨cur, decodeEscalationRow_row,
    Statements.lift_bind_eq_ok.mpr ⟨(), Py.require_eq_ok.mpr hr, rfl⟩⟩

-- A swap from a state that the table held before, to one that follows it. It is accepted only if the
-- table still holds that state: a later one has another revision.
theorem swapStatements_run (hs : s.Inv) (hf : previous.Follows next)
    (hc : ∃ cur, s.durable? previous.request.requestId = some cur ∧ previous.Advances cur)
    (h : swapStatements previous next s = .ok (state, s')) :
    state = next ∧ s'.Inv ∧ s.Swaps s' previous next := by
  obtain ⟨rfl, ⟨row, hr, hm⟩, rfl⟩ := swapStatements_eq_ok.mp h
  obtain ⟨cur, hd, ha⟩ := hc
  obtain ⟨cur', rfl, _, hd'⟩ := hs.kept.row?_of_row hr
  obtain rfl : cur' = cur := Option.some.inj <| hd'.symm.trans hd
  obtain rfl : cur' = previous := ha.same (of_decide_eq_true hm).right.right
  have hrow : swappedRow state (escalationRow cur') = escalationRow state := by
    simp [swappedRow, escalationRow, hf.request, hf.slot]
  have hupd (row : WorkEscalationRow) (hrow' : row ∈ s.rows) (hp : swapped cur' row = true) :
      row = escalationRow cur' := by
    have hid : row.requestId = cur'.request.requestId := (of_decide_eq_true hp).left
    have h' : s.row? cur'.request.requestId = some row := row?_eq_some.mpr ⟨hrow', hid⟩
    exact Option.some.inj <| h'.symm.trans hr
  refine ⟨rfl, ⟨?_, fun ref digest => ?_⟩, hf, hd, fun id => ?_⟩
  · intro row hm'
    obtain ⟨old, ho, rfl⟩ := List.mem_map.mp hm'
    by_cases hp : swapped cur' old = true
    case pos => exact ⟨state, by simp [hupd old ho hp, hm, hrow]⟩
    case neg => simpa [hp] using hs.kept old ho
  · rw [swap_slots]
    exact hs.slotted ref digest
  · by_cases hid : id = cur'.request.requestId
    case pos =>
      rw [if_pos hid, hid]
      refine durable?_of_row ?_
      rw [row?, Table.select_update (by simp), ← row?, hr, Option.map_some, if_pos hm, hrow]
    case neg =>
      rw [if_neg hid, durable?, row?, Table.select_update (by simp), ← row?, durable?]
      cases hr' : s.row? id
      case none => rfl
      case some row' =>
        have hne : swapped cur' row' = false := by
          have := (row?_eq_some.mp hr').right
          simp [swapped, this, hid]
        simp [hne]

-- What the table holds is loaded, and a state that follows it is accepted.
theorem load_of_durable (hs : s.Inv) (h : s.durable? id = some cur) (hb : ¬Text.Blank id)
    (hid : Text.stripped id = id) : (load id).run s = (.ok cur, s) := by
  have ⟨hrow, _⟩ := hs.kept.row?_of_durable h
  refine Program.bind_run_ok.mpr ⟨(), s, ?_, Program.bind_run_ok.mpr
    ⟨_, s, Program.query_run _ _, ?_⟩⟩
  · exact congrArg (·, s) <| Py.require_eq_ok.mpr hb
  · rw [hid, hrow]
    exact congrArg (·, s) decodeEscalationRow_row

theorem compareAndSwap_of_durable (hs : s.Inv) (h : s.durable? cur.request.requestId = some cur)
    (hf : cur.Follows next) : ∃ s', (compareAndSwap cur next).run s = (.ok next, s') := by
  have ⟨hrow, _⟩ := hs.kept.row?_of_durable h
  have hm : swapped cur (escalationRow cur) = true := by simp [swapped, escalationRow]
  simp only [compareAndSwap, Program.bind_run_ok, Program.lift_run, Prod.mk.injEq,
    Py.require_eq_ok, Program.transaction_run_ok]
  exact ⟨_, (), s, ⟨hf.request.symm, rfl⟩, (), s, ⟨hf.slot.symm, rfl⟩, (), s,
    ⟨hf.predecessor, rfl⟩, (), s, ⟨hf.revision, rfl⟩, swapStatements_eq_ok.mpr
      ⟨rfl, ⟨_, hrow, hm⟩, rfl⟩⟩

end SqliteWorkEscalationStore

variable [FromIsoFormat]

-- The calls of the clients: reserving a slot, and recording an observation on a state that has been
-- loaded. Between the load and the swap any other client may run.
inductive WorkLedgerCall
  | reserve (request : WorkEscalationRequest)
  | observe (requestId : String) (platformRequest : WorkPlatformActivationRequest)
      (observation : WorkPlatformObservation)

namespace WorkLedgerCall

def perform : WorkLedgerCall → EscalationProgram WorkEscalationState
  | .reserve request => SqliteWorkEscalationStore.reserve request
  | .observe requestId platformRequest observation => do
    let state ← SqliteWorkEscalationStore.load requestId
    let next ← (recordWorkPlatformObservation state platformRequest observation : Py _)
    SqliteWorkEscalationStore.compareAndSwap state next

def Starts (call : WorkLedgerCall) (p : EscalationProgram WorkEscalationState) : Prop :=
  p = call.perform

def protocol : Protocol WorkLedgerCall WorkEscalations where
  inv      := Inv
  rely     := Advance
  guar _   := Moves
  refl     := .refl
  trans    := .trans
  idle _ _ := .unchanged
  agree h  := Moves.advance h

-- One of the accesses swaps `cur` for `next`.
def SwapMade (made : List (WorkEscalations × WorkEscalations)) (cur next : WorkEscalationState) :
    Prop :=
  ∃ m ∈ made, m.1.Swaps m.2 cur next

-- What a call has done when it returns `state`.
structure Served (call : WorkLedgerCall) (made : List (WorkEscalations × WorkEscalations))
    (state : WorkEscalationState) (s : WorkEscalations) : Prop where
  durable : ∃ cur, s.durable? state.request.requestId = some cur ∧ state.Advances cur
  result : match call with
    | .reserve request => state.request = request
    | .observe _ platformRequest observation => ∃ cur,
        recordWorkPlatformObservation cur platformRequest observation = .ok state ∧
          SwapMade made cur state

def Post (call : WorkLedgerCall) (made : List (WorkEscalations × WorkEscalations))
    (r : Py WorkEscalationState) (s : WorkEscalations) : Prop :=
  match r with
  | .ok state => call.Served made state s
  | .error _  => ∀ m ∈ made, m.2 = m.1

variable {made : List (WorkEscalations × WorkEscalations)}

theorem reserve_respects (request : WorkEscalationRequest) :
    (perform (.reserve request)).Respects (protocol.of (.reserve request)) (Post (.reserve request))
      [] s := by
  refine .transaction (fun s₁ s₂ state hi _ h => ?_) fun s₁ s₂ e _ _ _ _ _ => ?_
  · have ⟨hi', hr, hd, hm⟩ := SqliteWorkEscalationStore.reserveStatements_run hi h
    have hmoves : s₁.Moves s₂ := by
      cases hm
      case inl h => exact h ▸ .unchanged
      case inr h => exact .reserves h
    refine ⟨hi', hmoves, fun s₃ _ hg => ⟨?_, hr⟩⟩
    exact hg _ state (hr ▸ hd)
  · simp [Post]

-- The load gives the state that the table holds, under the stripped identity.
theorem load_respects {call : WorkLedgerCall} {requestId : String}
    {post : List (WorkEscalations × WorkEscalations) → Py WorkEscalationState →
      WorkEscalations → Prop}
    (ho : ∀ s₁ s₂ state, s₁.durable? state.request.requestId = some state → s₁.Advance s₂ →
      post [(s₁, s₁)] (.ok state) s₂)
    (he : ∀ made e s, (∀ m ∈ made, m.2 = m.1) → post made (.error e) s) :
    (SqliteWorkEscalationStore.load requestId).Respects (protocol.of call) post [] s := by
  refine .lift_bind (fun _ _ => ?_) fun _ _ _ _ _ => he _ _ _ (by simp)
  refine .bind <| .query fun s₁ s₂ h₁ _ _ hg₂ => ?_
  cases hr : s₁.row? (Text.stripped requestId)
  case none => exact fun s₃ _ _ => he _ _ _ (by simp)
  case some row =>
    obtain ⟨state, rfl, hid, hd⟩ := h₁.kept.row?_of_row hr
    refine Program.Respects.lift fun s₃ _ hg₃ => ?_
    rw [decodeEscalationRow_row]
    exact ho s₁ s₃ state (hid ▸ hd) (hg₂.trans hg₃)

theorem observe_respects (requestId : String) (platformRequest : WorkPlatformActivationRequest)
    (observation : WorkPlatformObservation) :
    (perform (.observe requestId platformRequest observation)).Respects
      (protocol.of (.observe requestId platformRequest observation))
      (Post (.observe requestId platformRequest observation)) [] s := by
  refine .bind <| load_respects (fun s₁ s₂ state hd hg => ?_) fun _ _ _ hm => hm
  refine .lift_bind (fun next hn => ?_) fun _ _ _ _ _ => by simp [Post]
  have hf := recordWorkPlatformObservation_eq_ok hn
  iterate 4 refine .lift_bind (fun _ _ => ?_) fun _ _ _ _ _ => by simp [Post]
  refine .transaction (fun s₃ s₄ state' hi hg₃ h => ?_) fun s₃ s₄ e _ _ _ _ _ => by simp [Post]
  have hc := (hg.trans hg₃) _ state hd
  obtain ⟨rfl, hi', hsw⟩ := SqliteWorkEscalationStore.swapStatements_run hi hf hc h
  refine ⟨hi', .swaps hsw, fun s₅ _ hg₅ => ⟨?_, state, hn, (s₃, s₄), by simp, hsw⟩⟩
  refine hg₅ _ state' ?_
  rw [hsw.durable, if_pos (hf.request ▸ rfl)]

theorem starts_respects (call : WorkLedgerCall) (p : EscalationProgram WorkEscalationState)
    (hp : call.Starts p) (s : WorkEscalations) (_ : protocol.inv s) :
    p.Respects (protocol.of call) call.Post [] s := by
  obtain rfl := hp
  cases call
  case reserve request => exact reserve_respects request
  case observe requestId platformRequest observation =>
    exact observe_respects requestId platformRequest observation

-- What holds at any point of a run, with the accesses of the run so far.
structure LedgerSafe
    (c : Config (WorkEscalations × List (Event WorkLedgerCall WorkEscalations)) PyError
      WorkEscalationState) : Prop where
  -- The slots of a group are 1, .., k.
  slots : ∀ ref digest,
    c.store.1.slots ref digest = List.range' 1 (c.store.1.slots ref digest).length
  -- Reserving a request again returns its current state, and changes nothing.
  replayed : ∀ id cur, c.store.1.durable? id = some cur →
    (SqliteWorkEscalationStore.reserve cur.request).run c.store.1 = (.ok cur, c.store.1)
  -- No access does more than to reserve the next slot or to swap one state for one that follows it,
  -- and what it leaves is kept but for its revision.
  moves : ∀ e ∈ c.store.2, e.before.Moves e.after
  kept : ∀ e ∈ c.store.2, ∀ id cur, e.after.durable? id = some cur →
    ∃ state, c.store.1.durable? id = some state ∧ cur.Advances state
  -- Each state is swapped at most once, whichever calls try.
  swappedOnce : c.store.2.Pairwise fun e e' =>
    ∀ cur next next', ¬(e.before.Swaps e.after cur next ∧ e'.before.Swaps e'.after cur next')
  succeedsOnce : c.returned.Pairwise fun a b => ∀ cur next next',
    ¬(SwapMade (Protocol.stores a.made) cur next ∧ SwapMade (Protocol.stores b.made) cur next')
  -- A call that returns a state has done what it is for, and one that raises has changed nothing.
  served : ∀ a ∈ c.returned, ∀ state, a.result = .ok state →
    ∃ call : WorkLedgerCall, call.Served (Protocol.stores a.made) state c.store.1 ∧
      ∀ m ∈ a.made, ⟨call, m.1.1, m.2.1⟩ ∈ c.store.2
  raised : ∀ a ∈ c.returned, ∀ e, a.result = .error e →
    ∀ m ∈ Protocol.stores a.made, m.2 = m.1

theorem Served.mono {call : WorkLedgerCall} (h : call.Served made state s) (hg : s.Advance s') :
    call.Served made state s' where
  durable := by
    have ⟨cur, hd, ha⟩ := h.durable
    have ⟨cur', hd', ha'⟩ := hg _ cur hd
    exact ⟨cur', hd', ha.trans ha'⟩
  result  := h.result

-- The request of `cur` has left it behind.
def Left (cur : WorkEscalationState) (s : WorkEscalations) : Prop :=
  ∃ state, s.durable? cur.request.requestId = some state ∧ cur.revision < state.revision

omit [FromIsoFormat] in
theorem Left.advance (h : Left cur s) (hg : s.Advance s') : Left cur s' := by
  have ⟨state, hd, hlt⟩ := h
  have ⟨state', hd', ha⟩ := hg _ state hd
  exact ⟨state', hd', hlt.trans_le ha.revision⟩

omit [FromIsoFormat] in
theorem left_of_swaps (h : s.Swaps s' cur next) : ¬Left cur s ∧ Left cur s' := by
  constructor
  · rintro ⟨state, hd, hlt⟩
    obtain rfl : state = cur := Option.some.inj <| hd.symm.trans h.current
    exact lt_irrefl _ hlt
  · refine ⟨next, (h.durable _).trans (if_pos rfl), ?_⟩
    have := h.follows.revision
    omega

end WorkLedgerCall

open WorkLedgerCall in
theorem workEscalation_ledgerSafe
    {c : Config (WorkEscalations × List (Event WorkLedgerCall WorkEscalations)) PyError
      WorkEscalationState}
    (h : Config.Reachable (Protocol.LoggedStarts Starts) (.initial (.empty, [])) c) :
    LedgerSafe c := by
  have hc := Protocol.logged_sound starts_respects Inv.empty h
  have hpost (a) (ha : a ∈ c.returned) :
      ∃ call : WorkLedgerCall, ∃ s, s.Advance c.store.1 ∧
        call.Post (Protocol.stores a.made) a.result s ∧
        ∀ m ∈ a.made, ⟨call, m.1.1, m.2.1⟩ ∈ c.store.2 := by
    have ⟨x, _, ⟨hg, hx⟩, call, hp⟩ := hc.returned a ha
    exact ⟨call, x.1, hg, hp.post, fun m hm => hx.subset (hp.inHistory m hm).event⟩
  have hmoves (e) (he : e ∈ c.store.2) : e.before.Moves e.after := (hc.inv.admits e he).guar
  constructor
  case slots => exact hc.inv.inv.slotted
  case replayed =>
    intro id cur hd
    have ⟨_, hid⟩ := hc.inv.inv.kept.row?_of_durable hd
    exact SqliteWorkEscalationStore.reserve_of_durable hc.inv.inv (hid ▸ hd) rfl
  case moves => exact hmoves
  case kept =>
    intro e he id cur hd
    have hk : e.after.Advance c.store.1 := hc.inv.history.kept_after Advance.refl Advance.trans
      (fun e he => (hmoves e he).advance) he
    exact hk id cur hd
  case swappedOnce =>
    have hp := hc.inv.history.pairwise Advance.refl Advance.trans
      fun e he => (hmoves e he).advance
    refine hp.imp fun hg cur next next' ⟨hs, hs'⟩ => ?_
    exact (left_of_swaps hs').left <| (left_of_swaps hs).right.advance hg
  case succeedsOnce =>
    have h₀ : protocol.Recorded .empty (.empty, []) := ⟨Inv.empty, .nil, by simp⟩
    have hf : c.returned.Pairwise fun a b => ∀ cur : WorkEscalationState,
        ¬(Config.Sets (fun x => Left cur x.1) a.made ∧ Config.Sets (fun x => Left cur x.1) b.made) :=
      h.setters_pairwise Protocol.logged_mutual (fun _ _ _ hg hl => hl.advance hg.left)
        (Protocol.logged_respects starts_respects) h₀
    refine hf.imp fun hn cur next next' ⟨⟨m, hm, hs⟩, ⟨m', hm', hs'⟩⟩ => hn cur ?_
    exact ⟨Protocol.sets_stores.mp ⟨m, hm, left_of_swaps hs⟩,
      Protocol.sets_stores.mp ⟨m', hm', left_of_swaps hs'⟩⟩
  case served =>
    intro a ha state hr
    have ⟨call, s, hg, hp, hm⟩ := hpost a ha
    rw [hr] at hp
    exact ⟨call, Served.mono hp hg, hm⟩
  case raised =>
    intro a ha e hr
    have ⟨call, s, hg, hp, _⟩ := hpost a ha
    rw [hr] at hp
    exact hp

-- One slot that is reserved and then accepted by the platform.
section Accepted

def firstRequest : WorkEscalationRequest :=
  workRequest (show ¬Text.Blank "envelope-1" by decide) (show ¬Text.Blank "work-1" by decide)

omit [FromIsoFormat] in
theorem firstRequest_id_not_blank : ¬Text.Blank firstRequest.requestId :=
  stableId_not_blank (show "gewr".toList = 'g' :: ['e', 'w', 'r'] from rfl) (by decide) _

omit [Sha256] in
theorem first_evidence : EscalationEvidence .reserved 0 none none none none none := by
  simp [EscalationEvidence]

def firstState : WorkEscalationState where
  request     := firstRequest
  slotIndex   := 1
  status      := .reserved
  revision    := 0
  version     := rfl
  positive    := Nat.one_pos
  budget      := Nat.one_pos
  noAuthority := rfl
  evidence    := first_evidence

def firstPlatformRequest : WorkPlatformActivationRequest where
  workRequestId       := firstRequest.requestId
  workRequestDigest   := firstRequest.digest
  reservationDigest   := firstState.reservationDigest
  slotIndex           := 1
  launchReceiptId     := "gelr-1"
  launchReceiptDigest := sha256Digest .none
  dispatchIdentity    := "ged-1"
  repository          := "repository"
  sourceRevision      := "revision"
  authorityRef        := "authority"
  objective           := "objective"
  version             := rfl
  nonempty            := by
    have hr : ∀ x ∈ [("launch_receipt_id", "gelr-1"), ("dispatch_identity", "ged-1"),
      ("repository", "repository"), ("source_revision", "revision"),
      ("authority_ref", "authority"), ("objective", "objective")], ¬Text.Blank x.2 := by decide
    exact List.forall_mem_cons.mpr ⟨firstRequest_id_not_blank, hr⟩
  isSha256            := by
    simp only [List.mem_cons, List.not_mem_nil, or_false, forall_eq_or_imp, forall_eq]
    exact ⟨Guard.strippedSha256_sha256Digest _, Guard.strippedSha256_sha256Digest _,
      Guard.strippedSha256_sha256Digest _⟩
  positive            := Nat.one_pos
  noExecution         := rfl
  noAuthority         := rfl

def firstObservation (hz : ZonedTime "2026-01-01T00:00:00Z") : WorkPlatformObservation where
  platformRequestId     := firstPlatformRequest.platformRequestId
  platformRequestDigest := firstPlatformRequest.digest
  dispatchIdentity      := "ged-1"
  outcome               := .platformAccepted
  observedAt            := "2026-01-01T00:00:00Z"
  evidenceRef           := "evidence"
  evidenceDigest        := sha256Digest .none
  nativeExecutionRef    := some "run-1"
  version               := rfl
  nonempty              := by
    have hr : ∀ x ∈ [("dispatch_identity", "ged-1"), ("evidence_ref", "evidence")],
      ¬Text.Blank x.2 := by decide
    refine List.forall_mem_cons.mpr ⟨?_, hr⟩
    exact stableId_not_blank (show "gewp".toList = 'g' :: ['e', 'w', 'p'] from rfl) (by decide) _
  isSha256              := by
    simp only [List.mem_cons, List.not_mem_nil, or_false, forall_eq_or_imp, forall_eq]
    exact ⟨Guard.strippedSha256_sha256Digest _, Guard.strippedSha256_sha256Digest _⟩
  zoned                 := hz
  noSecrets             := unset₃
  noAuthority           := rfl
  evidence              := by decide

def acceptedState (observation : WorkPlatformObservation) : WorkEscalationState where
  request                   := firstRequest
  slotIndex                 := 1
  status                    := .platformAccepted
  revision                  := 1
  previousStateDigest       := some firstState.digest
  platformObservationDigest := some observation.digest
  nativeExecutionRef        := some "run-1"
  version                   := rfl
  positive                  := Nat.one_pos
  budget                    := Nat.one_pos
  noAuthority               := rfl
  evidence                  := by
    have hp : ProviderEvidence .platformAccepted (some "run-1") none none := by decide
    exact ⟨⟨Guard.strippedSha256_sha256Digest _, Guard.strippedSha256_sha256Digest _⟩, hp⟩

theorem record_firstObservation (hz : ZonedTime "2026-01-01T00:00:00Z") :
    recordWorkPlatformObservation firstState firstPlatformRequest (firstObservation hz) =
      .ok (acceptedState (firstObservation hz)) := by
  simp only [recordWorkPlatformObservation, Except.bind_eq_ok, Py.require_eq_ok, exists_const]
  exact ⟨rfl, rfl, rfl, rfl, rfl, rfl, rfl,
    WorkEscalationState.new_eq (acceptedState (firstObservation hz))⟩

-- The format of the one time that is read.
@[reducible]
def FromIsoFormat.utc : FromIsoFormat where
  hasTimezone? cs := if cs = "2026-01-01T00:00:00+00:00".toList then some true else none

end Accepted

omit [Sha256] [FromIsoFormat] in
open WorkLedgerCall SqliteWorkEscalationStore in
theorem workEscalation_ledgerSafe_accepted :
    let _ := Sha256.blind
    let _ := FromIsoFormat.utc
    ∃ c, Config.Reachable (Protocol.LoggedStarts Starts) (.initial (.empty, [])) c ∧
      (∃ a ∈ c.returned, ∃ state, a.result = .ok state ∧ state.status = .platformAccepted) ∧
      LedgerSafe c := by
  intro _ _
  have hz : ZonedTime "2026-01-01T00:00:00Z" := by decide
  let observation := firstObservation hz
  let reserveCall : WorkLedgerCall := .reserve firstRequest
  let observeCall : WorkLedgerCall := .observe firstRequest.requestId firstPlatformRequest observation
  let c₁ := (Config.initial (.empty, [])).perform (reserveCall.perform.logged reserveCall)
  let c₂ := c₁.perform (observeCall.perform.logged observeCall)
  have h₁ : Config.Reachable (Protocol.LoggedStarts Starts) (.initial (.empty, [])) c₁ :=
    Config.reachable_perform ⟨reserveCall, _, rfl, rfl⟩
  have h₂ : Config.Reachable (Protocol.LoggedStarts Starts) (.initial (.empty, [])) c₂ :=
    h₁.trans <| Config.reachable_perform ⟨observeCall, _, rfl, rfl⟩
  have ⟨s₁, hr⟩ : ∃ s₁, reserveStatements firstRequest .empty = .ok (firstState, s₁) := by
    have ⟨s₁, _, hr⟩ := reserveStatements_of_fresh Inv.empty.slotted
      (rfl : WorkEscalations.row? .empty firstRequest.requestId = none) Nat.one_pos
    exact ⟨s₁, hr⟩
  have ⟨hi, _, hd, _⟩ := reserveStatements_run Inv.empty hr
  have hl : (load firstRequest.requestId).run s₁ = (.ok firstState, s₁) :=
    load_of_durable hi hd firstRequest_id_not_blank <| Guard.stripped_stableId (by decide) _
  have hn : recordWorkPlatformObservation firstState firstPlatformRequest observation = _ :=
    record_firstObservation hz
  have ⟨s₂, hs⟩ := compareAndSwap_of_durable hi hd (recordWorkPlatformObservation_eq_ok hn)
  have ho : observeCall.perform.run s₁ = (.ok (acceptedState observation), s₂) :=
    Program.bind_run_ok.mpr ⟨firstState, s₁, hl, Program.bind_run_ok.mpr
      ⟨acceptedState observation, s₁, congrArg (·, s₁) hn, hs⟩⟩
  have hstore : c₁.store.1 = s₁ := by
    have hrun : reserveCall.perform.run .empty = (.ok firstState, s₁) :=
      Program.transaction_run_ok.mpr hr
    exact Config.perform_logged_store.trans <| congrArg Prod.snd hrun
  have ⟨a, ha, hresult⟩ := Config.perform_logged_returned (c := c₁) (p := observeCall.perform)
    (l := observeCall)
  refine ⟨c₂, h₂, ⟨a, ha, acceptedState observation, ?_, rfl⟩, workEscalation_ledgerSafe h₂⟩
  rw [hresult, hstore, ho]

end GeneralExecution
