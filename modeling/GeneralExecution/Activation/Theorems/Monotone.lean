import GeneralExecution.Activation.Theorems.Rows

namespace GeneralExecution

open ExecutorActivations

-- What a swap of the durable status may be.
inductive ActivationStatus.Moves : ActivationStatus → ActivationStatus → Prop
  | begin : Moves .prepared .activationUnknown
  | observe {status : ActivationStatus} : status.terminal = true → Moves .activationUnknown status

theorem ActivationStatus.Moves.ordinal {status status' : ActivationStatus}
    (h : status.Moves status') : status'.ordinal = status.ordinal + 1 := by
  cases h
  case begin      => rfl
  case observe ht => rw [terminal_iff.mp ht, ActivationStatus.ordinal]

theorem ActivationStatus.moves_of_ordinal {status status' : ActivationStatus}
    (h : status'.ordinal = status.ordinal + 1) : status.Moves status' := by
  cases status <;> cases status' <;> simp [ActivationStatus.ordinal] at h
  case prepared.activationUnknown => exact .begin
  all_goals exact .observe rfl

theorem ActivationStatus.eq_of_ordinal {status status' : ActivationStatus}
    (h : status.ordinal = status'.ordinal) (ht : status.terminal = false) : status = status' := by
  cases status <;> cases status' <;> simp_all [ActivationStatus.ordinal, ActivationStatus.terminal]

variable [Sha256] {s s' : ExecutorActivations} {cur state previous next : ExecutorActivationState}
variable {intent : ExecutorActivationIntent} {id : String}

-- What an accepted initialization of a new identity does.
structure ExecutorActivations.Creates (s s' : ExecutorActivations)
    (intent : ExecutorActivationIntent) : Prop where
  fresh   : s.durable? intent.dispatchIdentity = none
  durable : ∀ id, s'.durable? id =
    if id = intent.dispatchIdentity then some (initialActivationState intent) else s.durable? id
  kept    : s'.Kept

-- What an accepted swap does. The state `cur` that it replaces agrees with `previous` in all that the
-- store compares.
structure ExecutorActivations.Swaps (s s' : ExecutorActivations)
    (previous next cur : ExecutorActivationState) : Prop where
  intent      : previous.intent = next.intent
  predecessor : next.previousStateDigest = some previous.digest
  current     : s.durable? next.intent.dispatchIdentity = some cur
  digest      : cur.digest = previous.digest
  revision    : cur.revision = previous.revision
  durable     : ∀ id, s'.durable? id =
    if id = next.intent.dispatchIdentity then some next else s.durable? id
  kept        : s'.Kept

namespace ExecutorActivationStore

theorem initializeActivation_run (intent : ExecutorActivationIntent) (hs : s.Kept) :
    ((initializeActivation intent).run s).2 = s ∨
      s.Creates ((initializeActivation intent).run s).2 intent := by
  rw [initializeActivation, Program.transaction_run]
  cases h : initializeStatements intent s
  case error e => exact .inl rfl
  case ok r =>
    obtain ⟨state, s'⟩ := r
    rcases initializeStatements_eq_ok h with ⟨_, _, _, _, rfl⟩ | ⟨hr, rfl, hw⟩
    · exact .inl rfl
    · refine .inr ⟨durable?_eq_none hr, fun id => ?_, hw.kept hs keeps_activationRow⟩
      exact hw.durable? keeps_activationRow id

theorem compareAndSwap_run_ok (hs : s.Kept)
    (h : (compareAndSwap previous next).run s = (.ok state, s')) :
    state = next ∧ ∃ cur, s.Swaps s' previous next cur := by
  simp only [compareAndSwap, Program.bind_run_ok, Program.lift_run, Prod.mk.injEq,
    Py.require_eq_ok, Program.transaction_run_ok] at h
  obtain ⟨_, _, ⟨hi, rfl⟩, _, _, ⟨hp, rfl⟩, h⟩ := h
  obtain ⟨rfl, ⟨row, hr, hm⟩, rfl⟩ := swapStatements_eq_ok.mp h
  obtain ⟨cur, hk⟩ := hs _ row hr
  have hw : s.WritesRow _ (swappedRow state row) := writesRow_update hr hm
  obtain ⟨hid, hd, hv⟩ := of_decide_eq_true hm
  have hk' : (swappedRow state row).Keeps state := ⟨hid.trans (hi ▸ rfl), rfl, rfl, rfl⟩
  refine ⟨rfl, cur, hi, hp, ?_, hk.stateDigest ▸ hd, hk.revision ▸ hv, fun id => ?_, hw.kept hs hk'⟩
  · exact hi ▸ durable?_of_keeps hr hk
  · exact hw.durable? hk' id

theorem compareAndSwap_run_error {e : PyError}
    (h : (compareAndSwap previous next).run s = (.error e, s')) : s' = s := by
  refine Program.lift_bind_rollback (fun _ _ _ _ h => ?_) h
  refine Program.lift_bind_rollback (fun _ _ _ _ h => ?_) h
  exact Program.transaction_rollback h

-- The store accepts any state that names the durable one as its predecessor.
theorem compareAndSwap_of_durable (hs : s.Kept)
    (h : s.durable? next.intent.dispatchIdentity = some cur) (hi : cur.intent = next.intent)
    (hp : next.previousStateDigest = some cur.digest) :
    ∃ s', (compareAndSwap cur next).run s = (.ok next, s') := by
  have ⟨row, hr, hk⟩ := hs.exists_row h
  have hm : swapped cur row = true := by
    simp [swapped, hk.dispatchIdentity, hk.stateDigest, hk.revision]
  have hw : swapStatements cur next s = _ := swapStatements_of_row (hi ▸ hr) hm
  simp only [compareAndSwap, Program.bind_run_ok, Program.lift_run, Prod.mk.injEq,
    Py.require_eq_ok, Program.transaction_run_ok]
  exact ⟨_, (), s, ⟨hi, rfl⟩, (), s, ⟨hp, rfl⟩, hw⟩

end ExecutorActivationStore

-- The calls that change the store, by any client and with any states.
inductive ActivationStoreCall
  | initializeActivation (intent : ExecutorActivationIntent)
  | compareAndSwap (previous next : ExecutorActivationState)

namespace ActivationStoreCall

def perform : ActivationStoreCall → ActivationCall ExecutorActivationState
  | .initializeActivation intent   => ExecutorActivationStore.initializeActivation intent
  | .compareAndSwap previous next => ExecutorActivationStore.compareAndSwap previous next

-- The store after some calls. Each of them is one transaction, so that calls of several clients run
-- one after the other.
def storeAfter (calls : List ActivationStoreCall) : ExecutorActivations :=
  (Config.after .empty (calls.map perform)).store

theorem storeAfter_nil : storeAfter [] = .empty :=
  rfl

theorem storeAfter_concat {calls : List ActivationStoreCall} {call : ActivationStoreCall} :
    storeAfter (calls ++ [call]) = (call.perform.run (storeAfter calls)).2 := by
  simp [storeAfter, Config.after, Config.perform]

-- What a call does to the store.
theorem perform_cases (hs : s.Kept) (call : ActivationStoreCall) :
    (call.perform.run s).2 = s ∨
      (∃ intent, call = .initializeActivation intent ∧ s.Creates (call.perform.run s).2 intent) ∨
      ∃ previous next cur, call = .compareAndSwap previous next ∧
        (call.perform.run s).1 = .ok next ∧ s.Swaps (call.perform.run s).2 previous next cur := by
  cases call
  case initializeActivation intent =>
    cases ExecutorActivationStore.initializeActivation_run intent hs
    case inl h => exact .inl h
    case inr h => exact .inr (.inl ⟨intent, rfl, h⟩)
  case compareAndSwap previous next =>
    cases h : (ExecutorActivationStore.compareAndSwap previous next).run s
    case mk r s' =>
      cases r
      case error e => exact .inl <| (congrArg Prod.snd h).trans <|
        ExecutorActivationStore.compareAndSwap_run_error h
      case ok state =>
        have ⟨he, cur, hc⟩ := ExecutorActivationStore.compareAndSwap_run_ok hs h
        refine .inr <| .inr ⟨previous, next, cur, rfl, ?_⟩
        simpa [perform, h, he] using hc

theorem storeAfter_kept (calls : List ActivationStoreCall) : (storeAfter calls).Kept := by
  induction calls using List.reverseRecOn
  case nil => simp [storeAfter_nil, Kept, row?]
  case append_singleton calls call ih =>
    rw [storeAfter_concat]
    rcases perform_cases ih call with h | ⟨_, _, h⟩ | ⟨_, _, _, _, _, h⟩
    · exact h.symm ▸ ih
    · exact h.kept
    · exact h.kept

-- The status of one identity before and after a call.
inductive Moved : Option ExecutorActivationState → Option ExecutorActivationState → Prop
  | absent : Moved none none
  | created {s : ExecutorActivationState} : s.status = .prepared → Moved none (some s)
  | unmoved {s s' : ExecutorActivationState} : s'.status = s.status → Moved (some s) (some s')
  | moved {s s' : ExecutorActivationState} : s.status.Moves s'.status → Moved (some s) (some s')

-- In a run of these calls the status of each identity only moves on, its revision never decreases,
-- and an outcome is never replaced.
structure Monotone (calls : List ActivationStoreCall) : Prop where
  status : ∀ before call, before ++ [call] <+: calls → ∀ id,
    Moved ((storeAfter before).durable? id) ((storeAfter (before ++ [call])).durable? id)
  revision : ∀ before after, before <+: after → after <+: calls → ∀ id cur,
    (storeAfter before).durable? id = some cur →
      ∃ state, (storeAfter after).durable? id = some state ∧ cur.revision ≤ state.revision
  outcome : ∀ before after, before <+: after → after <+: calls → ∀ id cur,
    (storeAfter before).durable? id = some cur → cur.status.terminal = true →
      (storeAfter after).durable? id = some cur

-- Every swap that the store accepts goes to the next revision, stays at `activation_unknown`, or
-- writes what is stored already.
def SwapsInOrder (calls : List ActivationStoreCall) : Prop :=
  ∀ before previous next, before ++ [.compareAndSwap previous next] <+: calls →
    ((ExecutorActivationStore.compareAndSwap previous next).run (storeAfter before)).1 = .ok next →
      next.revision = previous.revision + 1 ∨ previous.revision = 1 ∧ next.revision = 1 ∨
        (storeAfter before).durable? next.intent.dispatchIdentity = some next

-- What one call may do to the state of one identity.
structure Advances (cur state : ExecutorActivationState) : Prop where
  moved    : state.status = cur.status ∨ cur.status.Moves state.status
  revision : cur.revision ≤ state.revision
  outcome  : cur.status.terminal = true → state = cur

omit [Sha256] in
theorem Advances.refl : Advances cur cur :=
  ⟨.inl rfl, le_refl _, fun _ => rfl⟩

-- A swap advances its identity exactly when it is in order.
theorem advances_iff (h : s.Swaps s' previous next cur) :
    Advances cur next ↔ next.revision = previous.revision + 1 ∨
      previous.revision = 1 ∧ next.revision = 1 ∨
        s.durable? next.intent.dispatchIdentity = some next := by
  rw [h.current, Option.some.injEq, ← h.revision]
  have hc := cur.revision_eq
  have hn := next.revision_eq
  have hp := next.revision_of_previous h.predecessor
  constructor
  · rintro ⟨hm | hm, _, ho⟩
    · cases ht : cur.status.terminal
      case true => exact .inr <| .inr (ho ht).symm
      case false =>
        rw [hm, ← hc] at hn
        have hne : cur.revision ≠ 2 := hc ▸ mt ActivationStatus.terminal_iff.mpr (by simp [ht])
        have hle : cur.revision ≤ 2 := hc ▸ by cases cur.status <;> simp [ActivationStatus.ordinal]
        omega
    · rw [hm.ordinal, ← hc] at hn
      exact .inl hn
  · rintro (hr | ⟨h₁, h₂⟩ | rfl)
    · have hle : next.revision ≤ 2 := hn ▸ by cases next.status <;> simp [ActivationStatus.ordinal]
      refine ⟨.inr <| ActivationStatus.moves_of_ordinal (hn ▸ hc ▸ hr), by omega, fun ht => ?_⟩
      have := ActivationStatus.terminal_iff.mp ht
      omega
    · have hf : next.status.terminal = false := by
        by_contra ht
        have := ActivationStatus.terminal_iff.mp (by simpa using ht)
        omega
      refine ⟨.inl <| ActivationStatus.eq_of_ordinal (by omega) hf, by omega, fun ht => ?_⟩
      have := ActivationStatus.terminal_iff.mp ht
      omega
    · exact .refl

variable {calls before after : List ActivationStoreCall} {call : ActivationStoreCall}

-- One call of a run whose swaps are in order.
theorem SwapsInOrder.step (h : SwapsInOrder calls) (hp : before ++ [call] <+: calls) (id : String)
    (hc : (storeAfter before).durable? id = some cur) :
    ∃ state, (storeAfter (before ++ [call])).durable? id = some state ∧ Advances cur state := by
  rw [storeAfter_concat]
  rcases perform_cases (storeAfter_kept before) call with he | ⟨intent, _, he⟩ |
    ⟨previous, next, cur', rfl, hr, he⟩
  · exact ⟨cur, he.symm ▸ hc, .refl⟩
  · refine ⟨cur, ?_, .refl⟩
    rw [he.durable id, if_neg fun hid => ?_, hc]
    rw [hid, he.fresh] at hc
    contradiction
  · by_cases hid : id = next.intent.dispatchIdentity
    case pos =>
      obtain rfl : cur' = cur := Option.some.inj <| he.current.symm.trans (hid ▸ hc)
      exact ⟨next, (he.durable id).trans (if_pos hid), (advances_iff he).mpr (h _ _ _ hp hr)⟩
    case neg => exact ⟨cur, ((he.durable id).trans (if_neg hid)).trans hc, .refl⟩

theorem created_of_fresh (hc : (storeAfter before).durable? id = none)
    (hn : (storeAfter (before ++ [call])).durable? id = some state) : state.status = .prepared := by
  rw [storeAfter_concat] at hn
  rcases perform_cases (storeAfter_kept before) call with he | ⟨intent, _, he⟩ |
    ⟨previous, next, cur', rfl, hr, he⟩
  · rw [he, hc] at hn
    contradiction
  · rw [he.durable id, hc] at hn
    split at hn
    case isTrue  => exact Option.some.inj hn ▸ rfl
    case isFalse => contradiction
  · rw [he.durable id, hc] at hn
    split at hn
    case isTrue hid => rw [hid, he.current] at hc; contradiction
    case isFalse    => contradiction

-- What is kept from any point of the run to any later one.
theorem SwapsInOrder.kept (h : SwapsInOrder calls) (hb : before <+: after) (ha : after <+: calls)
    (id : String) (hc : (storeAfter before).durable? id = some cur) :
    ∃ state, (storeAfter after).durable? id = some state ∧ cur.revision ≤ state.revision ∧
      (cur.status.terminal = true → state = cur) := by
  obtain ⟨more, rfl⟩ := hb
  induction more using List.reverseRecOn
  case nil => exact ⟨cur, by simpa using hc, le_refl _, fun _ => rfl⟩
  case append_singleton more call ih =>
    rw [← List.append_assoc] at ha ⊢
    have ⟨mid, hm, hr, ho⟩ := ih <| (List.prefix_append _ _).trans ha
    have ⟨state, hs, had⟩ := h.step ha id hm
    refine ⟨state, hs, hr.trans had.revision, fun ht => ?_⟩
    rw [had.outcome (ho ht ▸ ht), ho ht]

theorem Monotone.advances (h : Monotone calls) (hp : before ++ [call] <+: calls)
    (hc : (storeAfter before).durable? id = some cur)
    (hn : (storeAfter (before ++ [call])).durable? id = some next) : Advances cur next := by
  have hm := h.status before call hp id
  have ⟨state, hs, hr⟩ := h.revision _ _ (List.prefix_append _ _) hp id cur hc
  have ho := h.outcome _ _ (List.prefix_append _ _) hp id cur hc
  rw [hc, hn] at hm
  obtain rfl : next = state := Option.some.inj <| hn.symm.trans hs
  refine ⟨?_, hr, fun ht => Option.some.inj <| hn.symm.trans (ho ht)⟩
  cases hm
  case unmoved hm => exact .inl hm
  case moved hm   => exact .inr hm

end ActivationStoreCall

open ActivationStoreCall in
theorem activationStore_monotone_iff (calls : List ActivationStoreCall) :
    Monotone calls ↔ SwapsInOrder calls := by
  constructor
  · intro h before previous next hp hr
    have hrun : (ExecutorActivationStore.compareAndSwap previous next).run (storeAfter before) =
        (.ok next, (storeAfter (before ++ [.compareAndSwap previous next]))) := by
      rw [storeAfter_concat]
      exact Prod.ext hr rfl
    have ⟨_, cur, hc⟩ := ExecutorActivationStore.compareAndSwap_run_ok (storeAfter_kept before) hrun
    refine (advances_iff hc).mp <| h.advances hp hc.current ?_
    rw [hc.durable, if_pos rfl]
  · intro h
    refine ⟨fun before call hp id => ?_, fun _ _ hb ha id cur hc => ?_,
      fun _ _ hb ha id cur hc ht => ?_⟩
    · cases hc : (storeAfter before).durable? id
      case none =>
        cases hn : (storeAfter (before ++ [call])).durable? id
        case none       => exact .absent
        case some state => exact .created (created_of_fresh hc hn)
      case some cur =>
        have ⟨state, hs, ha⟩ := h.step hp id hc
        rw [hs]
        cases ha.moved
        case inl hm => exact .unmoved hm
        case inr hm => exact .moved hm
    · have ⟨state, hs, hr, _⟩ := h.kept hb ha id hc
      exact ⟨state, hs, hr⟩
    · have ⟨state, hs, _, ho⟩ := h.kept hb ha id hc
      rw [hs, ho ht]

-- A run in which an outcome is stored over `prepared`, and another one over it.
section Overwritten

def referenceActivationIntent : ExecutorActivationIntent where
  receiptId              := "gelr-1"
  receiptDigest          := sha256Digest .none
  orderDigest            := sha256Digest .none
  workstreamId           := "workstream-1"
  launchId               := "gel-1"
  dispatchIdentity       := "ged-1"
  owner                  := "owner"
  repository             := "owner/repository"
  executor               := "executor"
  authorityRef           := none
  authorityBindingDigest := none
  capabilityDigest       := sha256Digest .none
  version                := rfl
  nonempty               := by decide
  isSha256               := by simp [isSha256_sha256Digest]
  optional               := by simp [Guard.OptionalSha256]
  noAuthority            := rfl

def acceptedAfter (state : ExecutorActivationState) : ExecutorActivationState where
  intent              := state.intent
  status              := .executorAccepted
  revision            := 2
  previousStateDigest := some state.digest
  observationDigest   := some (sha256Digest .none)
  nativeExecutionRef  := some "run-1"
  version             := rfl
  noAuthority         := rfl
  evidence            := by
    have hp : Text.Present (some "run-1") := by decide
    simp [ActivationEvidence, isSha256_sha256Digest, hp]

def failedAfter (state : ExecutorActivationState) : ExecutorActivationState where
  intent              := state.intent
  status              := .failedActivation
  revision            := 2
  previousStateDigest := some state.digest
  observationDigest   := some (sha256Digest .none)
  failureReason       := some "lost"
  version             := rfl
  noAuthority         := rfl
  evidence            := by
    have hp : Text.Present (some "lost") := by decide
    simp [ActivationEvidence, isSha256_sha256Digest, hp]

namespace ActivationStoreCall

def overwritten : List ActivationStoreCall :=
  let prepared := initialActivationState referenceActivationIntent
  [.initializeActivation referenceActivationIntent, .compareAndSwap prepared (acceptedAfter prepared),
    .compareAndSwap (acceptedAfter prepared) (failedAfter (acceptedAfter prepared))]

theorem storeAfter_initialize (intent : ExecutorActivationIntent) :
    (storeAfter [.initializeActivation intent]).durable? intent.dispatchIdentity =
      some (initialActivationState intent) := by
  have hn : row? .empty intent.dispatchIdentity = none := rfl
  have ⟨s', _, hs⟩ := ExecutorActivationStore.initializeStatements_of_fresh hn rfl
  have hr : (ExecutorActivationStore.initializeActivation intent).run .empty = (.ok _, s') :=
    Program.transaction_run_ok.mpr hs
  have he : storeAfter [.initializeActivation intent] = s' :=
    congrArg Prod.snd hr
  rcases ExecutorActivationStore.initializeStatements_eq_ok hs with ⟨_, h, _⟩ | ⟨_, _, hw⟩
  · contradiction
  · rw [he, hw.durable? keeps_activationRow]
    exact if_pos rfl

theorem storeAfter_swap {calls : List ActivationStoreCall} (next : ExecutorActivationState)
    (h : (storeAfter calls).durable? next.intent.dispatchIdentity = some cur)
    (hi : cur.intent = next.intent) (hp : next.previousStateDigest = some cur.digest) :
    (storeAfter (calls ++ [.compareAndSwap cur next])).durable? next.intent.dispatchIdentity =
      some next := by
  have ⟨s', hr⟩ := ExecutorActivationStore.compareAndSwap_of_durable (storeAfter_kept calls) h hi hp
  have ⟨_, _, hc⟩ := ExecutorActivationStore.compareAndSwap_run_ok (storeAfter_kept calls) hr
  have he : storeAfter (calls ++ [.compareAndSwap cur next]) = s' :=
    storeAfter_concat.trans <| congrArg Prod.snd hr
  rw [he, hc.durable, if_pos rfl]

theorem not_monotone_overwritten : ¬Monotone overwritten := by
  intro h
  let prepared := initialActivationState referenceActivationIntent
  let accepted := acceptedAfter prepared
  have h₁ : (storeAfter [.initializeActivation referenceActivationIntent]).durable?
      accepted.intent.dispatchIdentity = some prepared := storeAfter_initialize _
  have h₂ := storeAfter_swap accepted h₁ rfl rfl
  have h₃ : (storeAfter overwritten).durable? accepted.intent.dispatchIdentity =
      some (failedAfter accepted) := storeAfter_swap (failedAfter accepted) h₂ rfl rfl
  have hf := h.outcome _ overwritten ⟨[_], rfl⟩ List.prefix_rfl _ accepted h₂ rfl
  rw [h₃, Option.some.injEq] at hf
  exact nomatch congrArg ExecutorActivationState.status hf

end ActivationStoreCall

end Overwritten

omit [Sha256] in
theorem activationStore_notMonotone :
    ¬∃ _ : Sha256, ActivationStoreCall.Monotone ActivationStoreCall.overwritten :=
  fun ⟨_, h⟩ => ActivationStoreCall.not_monotone_overwritten h

end GeneralExecution
