import GeneralExecution.Activation.Theorems.Monotone

namespace GeneralExecution

open ExecutorActivations ExecutorActivationStore

variable [Sha256] {s s' : ExecutorActivations} {cur state previous next : ExecutorActivationState}
variable {intent : ExecutorActivationIntent} {observation : NativeActivationObservation}

-- A store with one row.
namespace ExecutorActivationStore

theorem row?_single (h : s.rows = [activationRow cur]) :
    s.row? cur.intent.dispatchIdentity = some (activationRow cur) := by
  rw [row?, Table.select_eq_some (by simp), h]
  simp [activationRow]

theorem initializeActivation_single (h : s.rows = [activationRow cur]) :
    (initializeActivation cur.intent).run s = (.ok cur, s) := by
  refine Program.transaction_run_ok.mpr ?_
  simp only [initializeStatements, Statements.get_bind, row?_single h]
  exact Statements.lift_bind_eq_ok.mpr ⟨cur, decodeActivationRow_row,
    Statements.lift_bind_eq_ok.mpr ⟨(), Py.require_eq_ok.mpr rfl, rfl⟩⟩

theorem load_single (h : s.rows = [activationRow cur]) :
    (load cur.intent.dispatchIdentity).run s = (.ok cur, s) := by
  refine Program.bind_run_ok.mpr ⟨_, s, Program.query_run _ _, ?_⟩
  rw [row?_single h]
  exact congrArg (·, s) decodeActivationRow_row

-- The checks of a swap that fits make no access.
theorem compareAndSwap_eq (hi : previous.intent = next.intent)
    (hp : next.previousStateDigest = some previous.digest) :
    compareAndSwap previous next = .transaction (swapStatements previous next) := by
  have h₁ : Py.require (previous.intent = next.intent) .executorActivationError
      "activation transition changed immutable intent" = .ok () := Py.require_eq_ok.mpr hi
  have h₂ : Py.require (next.previousStateDigest = some previous.digest) .executorActivationError
      "activation transition predecessor mismatch" = .ok () := Py.require_eq_ok.mpr hp
  rw [compareAndSwap, h₁, h₂]
  rfl

theorem compareAndSwap_single (h : s.rows = [activationRow cur]) (hi : cur.intent = next.intent)
    (hp : next.previousStateDigest = some cur.digest) :
    ∃ s', (compareAndSwap cur next).run s = (.ok next, s') ∧ s'.rows = [activationRow next] := by
  have hm : swapped cur (activationRow cur) = true := by simp [swapped, activationRow]
  have hw : swapStatements cur next s = _ := swapStatements_of_row (row?_single h) hm
  refine ⟨s.update (swapped cur) (swappedRow next) (swappedRow_unique next), ?_, ?_⟩
  · rw [compareAndSwap_eq hi hp]
    exact Program.transaction_run_ok.mpr hw
  · change s.rows.map (fun row => if swapped cur row then swappedRow next row else row) = _
    rw [h, List.map_singleton, if_pos hm]
    simp [swappedRow, activationRow, hi]

-- A swap from a revision that the row has left is a conflict.
theorem compareAndSwap_stale (h : s.rows = [activationRow cur])
    (hr : cur.revision ≠ previous.revision) (hi : previous.intent = next.intent)
    (hp : next.previousStateDigest = some previous.digest) :
    (compareAndSwap previous next).run s =
      (.error ⟨.executorActivationError, "executor activation compare-and-swap conflict"⟩, s) := by
  have hn : s.count (swapped previous) ≠ 1 := by
    simp [Table.count, h, swapped, activationRow, hr]
  have hs : swapStatements previous next s =
      .error ⟨.executorActivationError, "executor activation compare-and-swap conflict"⟩ := by
    have he : Py.require (s.count (swapped previous) = 1) .executorActivationError
        "executor activation compare-and-swap conflict" =
          .error ⟨.executorActivationError, "executor activation compare-and-swap conflict"⟩ :=
      Except.ensure_eq_error.mpr ⟨hn, rfl⟩
    rw [swapStatements, Statements.get_bind, Statements.set_bind, Statements.lift_bind, he]
    rfl
  rw [compareAndSwap_eq hi hp, Program.transaction_run, hs]

end ExecutorActivationStore

-- The states that one activation goes through.
namespace Activation

def unknownState (intent : ExecutorActivationIntent) : ExecutorActivationState :=
  activationUnknownState (initialActivationState intent)

def outcomeState (intent : ExecutorActivationIntent) (observation : NativeActivationObservation) :
    ExecutorActivationState :=
  observedActivationState (unknownState intent) observation

theorem outcomeState_terminal : (outcomeState intent observation).status.terminal = true :=
  ActivationStatus.terminal_iff.mpr <| (ExecutorActivationState.revision_eq _).symm

def stateAt (intent : ExecutorActivationIntent) (observation : NativeActivationObservation) :
    Nat → ExecutorActivationState
  | 0 | 1 => initialActivationState intent
  | 2     => unknownState intent
  | _     => outcomeState intent observation

-- How far the activation has come: nothing is stored, or the state with one revision less.
def stage (s : ExecutorActivations) : Nat :=
  match s.rows with
  | []       => 0
  | row :: _ => row.revision + 1

-- The store holds the state of its stage, and nothing else.
def Inv (intent : ExecutorActivationIntent) (observation : NativeActivationObservation)
    (s : ExecutorActivations) : Prop :=
  s.rows = [] ∨ ∃ n, 1 ≤ n ∧ n ≤ 3 ∧ s.rows = [activationRow (stateAt intent observation n)]

theorem stateAt_intent (n : Nat) : (stateAt intent observation n).intent = intent := by
  unfold stateAt
  split <;> rfl

theorem stateAt_revision {n : Nat} (h : 1 ≤ n) (h' : n ≤ 3) :
    (stateAt intent observation n).revision + 1 = n := by
  obtain rfl | rfl | rfl : n = 1 ∨ n = 2 ∨ n = 3 := by omega
  all_goals rfl

theorem stateAt_previous {n : Nat} (h : 1 ≤ n) (h' : n ≤ 2) :
    (stateAt intent observation (n + 1)).previousStateDigest =
      some (stateAt intent observation n).digest := by
  obtain rfl | rfl : n = 1 ∨ n = 2 := by omega
  all_goals rfl

theorem stage_of_rows {n : Nat} (h : 1 ≤ n) (h' : n ≤ 3)
    (hs : s.rows = [activationRow (stateAt intent observation n)]) : stage s = n := by
  rw [stage, hs]
  exact stateAt_revision h h'

omit [Sha256] in
theorem stage_of_nil (h : s.rows = []) : stage s = 0 := by
  rw [stage, h]

namespace Inv

theorem rows (h : Inv intent observation s) (hs : 1 ≤ stage s) :
    stage s ≤ 3 ∧ s.rows = [activationRow (stateAt intent observation (stage s))] := by
  cases h
  case inl h => rw [stage_of_nil h] at hs; contradiction
  case inr h =>
    have ⟨n, h₁, h₂, hr⟩ := h
    rw [stage_of_rows h₁ h₂ hr]
    exact ⟨h₂, hr⟩

theorem nil (h : Inv intent observation s) (hs : stage s = 0) : s.rows = [] := by
  cases h
  case inl h => exact h
  case inr h =>
    have ⟨n, h₁, h₂, hr⟩ := h
    rw [stage_of_rows h₁ h₂ hr] at hs
    omega

theorem of_rows {n : Nat} (h : 1 ≤ n) (h' : n ≤ 3)
    (hs : s.rows = [activationRow (stateAt intent observation n)]) : Inv intent observation s :=
  .inr ⟨n, h, h', hs⟩

-- An initialization returns the state that is stored, which it stores first if nothing is.
theorem initialize_run (h : Inv intent observation s) :
    ∃ s', (initializeActivation intent).run s =
        (.ok (stateAt intent observation (max 1 (stage s))), s') ∧
      Inv intent observation s' ∧ stage s' = max 1 (stage s) := by
  cases hs : stage s
  case zero =>
    have hn := h.nil hs
    have hrow : s.row? intent.dispatchIdentity = none := by simp [row?, Table.select, hn]
    have hid : s.select ExecutorActivationRow.activationId intent.activationId = none := by
      simp [Table.select, hn]
    obtain ⟨s', hi, hr⟩ := initializeStatements_of_fresh hrow hid
    obtain ⟨_, hrows⟩ := Table.insert?_eq_some.mp hi
    have hrows' : s'.rows = [activationRow (stateAt intent observation 1)] := by
      rw [hrows, hn]
      rfl
    exact ⟨s', Program.transaction_run_ok.mpr hr, .of_rows (by omega) (by omega) hrows',
      stage_of_rows (by omega) (by omega) hrows'⟩
  case succ n =>
    have h₁ : 1 ≤ stage s := hs ▸ Nat.succ_pos n
    obtain ⟨_, hrows⟩ := h.rows h₁
    have hi := initializeActivation_single hrows
    rw [stateAt_intent, hs] at hi
    rw [show max 1 (n + 1) = n + 1 by omega]
    exact ⟨s, hi, h, hs⟩

-- The swap to the next stage is accepted at its own stage and a conflict at any later one.
theorem swap_run {n : Nat} (h : Inv intent observation s) (hn : 1 ≤ n) (hn' : n ≤ 2)
    (hs : stage s = n) :
    ∃ s', (compareAndSwap (stateAt intent observation n) (stateAt intent observation (n + 1))).run s =
        (.ok (stateAt intent observation (n + 1)), s') ∧
      Inv intent observation s' ∧ stage s' = n + 1 := by
  have h₁ : 1 ≤ stage s := hs ▸ hn
  have ⟨_, hrows⟩ := h.rows h₁
  rw [hs] at hrows
  have hi : (stateAt intent observation n).intent = (stateAt intent observation (n + 1)).intent := by
    rw [stateAt_intent, stateAt_intent]
  have ⟨s', hr, hrows'⟩ := compareAndSwap_single hrows hi (stateAt_previous hn hn')
  exact ⟨s', hr, .of_rows (by omega) (by omega) hrows',
    stage_of_rows (by omega) (by omega) hrows'⟩

theorem swap_stale {n : Nat} (h : Inv intent observation s) (hn : 1 ≤ n) (hn' : n ≤ 2)
    (hs : n < stage s) :
    (compareAndSwap (stateAt intent observation n) (stateAt intent observation (n + 1))).run s =
      (.error ⟨.executorActivationError, "executor activation compare-and-swap conflict"⟩, s) := by
  have h₁ : 1 ≤ stage s := by omega
  have ⟨hle, hrows⟩ := h.rows h₁
  have hr : (stateAt intent observation (stage s)).revision ≠
      (stateAt intent observation n).revision := by
    have h₂ : (stateAt intent observation n).revision + 1 = n := stateAt_revision hn (by omega)
    have h₃ : (stateAt intent observation (stage s)).revision + 1 = stage s :=
      stateAt_revision h₁ hle
    omega
  refine compareAndSwap_stale hrows hr ?_ (stateAt_previous hn hn')
  rw [stateAt_intent, stateAt_intent]

theorem empty : Inv intent observation .empty :=
  .inl rfl

end Inv

-- Every access keeps the store at a stage and never goes back to an earlier one.
def protocol (intent : ExecutorActivationIntent) (observation : NativeActivationObservation) :
    Protocol Unit ExecutorActivations where
  inv         := Inv intent observation
  rely s s'   := stage s ≤ stage s'
  guar _ s s' := stage s ≤ stage s' ∧ (Inv intent observation s → Inv intent observation s')
  refl _      := le_refl _
  trans       := le_trans
  idle _ _    := ⟨le_refl _, id⟩
  agree h     := h.left

-- What a call has done when it returns.
def Done (intent : ExecutorActivationIntent) (observation : NativeActivationObservation)
    (made : List (ExecutorActivations × ExecutorActivations)) (r : Py ExecutorActivationResult)
    (s : ExecutorActivations) : Prop :=
  ∀ result, r = .ok result → result.state = outcomeState intent observation ∧ 3 ≤ stage s ∧
    (result.replayStatus = .created → Config.Sets (2 ≤ stage ·) made)

theorem done_error {made : List (ExecutorActivations × ExecutorActivations)} {e : PyError} :
    Done intent observation made (.error e) s := by
  intro result h
  contradiction

theorem done_ok {made : List (ExecutorActivations × ExecutorActivations)}
    {status : ReplayStatus} (hs : 3 ≤ stage s)
    (hc : status = .created → Config.Sets (2 ≤ stage ·) made) :
    Done intent observation made (.ok ⟨outcomeState intent observation, status⟩) s := by
  intro result h
  obtain rfl := Except.ok.inj h
  exact ⟨rfl, hs, hc⟩

section Respects

variable {made : List (ExecutorActivations × ExecutorActivations)} {n : Nat}
variable {status : ReplayStatus}

theorem swap_respects {post : List (ExecutorActivations × ExecutorActivations) →
      Py ExecutorActivationState → ExecutorActivations → Prop}
    (hn : 1 ≤ n) (hn' : n ≤ 2) (hs : n ≤ stage s)
    (ho : ∀ s₁ s₂ s₃, stage s₁ = n → stage s₂ = n + 1 → Inv intent observation s₃ →
      stage s₂ ≤ stage s₃ → post (made ++ [(s₁, s₂)]) (.ok (stateAt intent observation (n + 1))) s₃)
    (he : ∀ s₁ s₂, n < stage s₁ → Inv intent observation s₂ → stage s₁ ≤ stage s₂ →
      post (made ++ [(s₁, s₁)])
        (.error ⟨.executorActivationError, "executor activation compare-and-swap conflict"⟩) s₂) :
    (compareAndSwap (stateAt intent observation n) (stateAt intent observation (n + 1))).Respects
      ((protocol intent observation).of ()) post made s := by
  have hi : (stateAt intent observation n).intent = (stateAt intent observation (n + 1)).intent := by
    rw [stateAt_intent, stateAt_intent]
  rw [compareAndSwap_eq hi (stateAt_previous hn hn')]
  refine .transaction_run fun s₁ s₂ r h₁ hg hr => ?_
  rw [← compareAndSwap_eq hi (stateAt_previous hn hn')] at hr
  have hle : n ≤ stage s₁ := hs.trans hg
  cases Nat.lt_or_eq_of_le hle
  case inl hlt =>
    rw [Inv.swap_stale h₁ hn hn' hlt, Prod.mk.injEq] at hr
    obtain ⟨rfl, rfl⟩ := hr
    exact ⟨h₁, ⟨le_refl _, id⟩, fun s₃ h₃ hg₃ => he s₁ s₃ hlt h₃ hg₃⟩
  case inr heq =>
    have ⟨s', hrun, h₂, hst⟩ := Inv.swap_run h₁ hn hn' heq.symm
    rw [hrun, Prod.mk.injEq] at hr
    obtain ⟨rfl, rfl⟩ := hr
    exact ⟨h₂, ⟨by omega, fun _ => h₂⟩, fun s₃ h₃ hg₃ => ho s₁ s' s₃ heq.symm hst h₃ hg₃⟩

theorem load_respects {post : List (ExecutorActivations × ExecutorActivations) →
      Py ExecutorActivationState → ExecutorActivations → Prop} (hs : 3 ≤ stage s)
    (ho : ∀ s₁ s₂, 3 ≤ stage s₂ →
      post (made ++ [(s₁, s₁)]) (.ok (outcomeState intent observation)) s₂) :
    (load intent.dispatchIdentity).Respects
      ((protocol intent observation).of ()) post made s := by
  refine .bind <| .query fun s₁ s₂ h₁ hg₁ h₂ hg₂ => ?_
  have hle : 3 ≤ stage s₁ := hs.trans hg₁
  have h₁' : 1 ≤ stage s₁ := by omega
  have ⟨hle', hrows⟩ := Inv.rows h₁ h₁'
  rw [show stage s₁ = 3 by omega] at hrows
  have hrow : s₁.row? intent.dispatchIdentity = _ := row?_single hrows
  rw [hrow]
  refine Program.Respects.lift fun s₃ _ hg₃ => ?_
  rw [decodeActivationRow_row]
  exact ho s₁ s₃ <| hle.trans <| le_trans hg₂ hg₃

-- From the unknown state on, a call ends in the outcome, whoever commits it.
theorem finish_respects (hs : 2 ≤ stage s)
    (hc : status = .created → Config.Sets (2 ≤ stage ·) made) :
    (do
      let observed ← (observeActivation (unknownState intent) observation : Py _)
      commitObserved (unknownState intent) observed intent.dispatchIdentity status :
        ActivationCall ExecutorActivationResult).Respects
      ((protocol intent observation).of ()) (Done intent observation) made s := by
  have hsets (m : ExecutorActivations × ExecutorActivations) (hst : status = .created) :
      Config.Sets (2 ≤ stage ·) (made ++ [m]) := Config.sets_append.mpr <| .inl <| hc hst
  refine .lift_bind (fun observed ho => ?_) fun _ _ _ _ _ => done_error
  obtain rfl : observed = outcomeState intent observation := by
    simp only [observeActivation, Except.bind_eq_ok, Py.require_eq_ok, Except.pure_eq_ok] at ho
    exact ho.choose_spec.right.choose_spec.right.choose_spec.right.choose_spec.right.symm
  refine .tryCatch <| .bind <| swap_respects (by omega) (le_refl 2) hs
    (fun s₁ s₂ s₃ h₁ h₂ h₃ hg₃ => ?_) fun s₁ s₂ h₁ h₂ hg₂ => ?_
  · intro s₄ h₄ hg₄
    have hle : stage s₂ ≤ stage s₄ := hg₃.trans hg₄
    exact done_ok (by omega) (hsets (s₁, s₂))
  · -- The row has moved on, to the outcome.
    have hst : 3 ≤ stage s₂ := le_trans h₁ hg₂
    simp only [ErrorClass.IsA, true_or, if_true]
    refine .bind <| load_respects hst fun s₃ s₄ hs₄ => ?_
    simp only [if_true]
    exact fun s₅ _ hg₅ => done_ok (hs₄.trans hg₅) fun hr => by cases hr

-- A new activation is begun by one call; the others find it begun.
theorem beginOrRecover_respects {post : List (ExecutorActivations × ExecutorActivations) →
      Py (ExecutorActivationState × ReplayStatus) → ExecutorActivations → Prop}
    (hn : 1 ≤ n) (hn' : n ≤ 2) (hs : n ≤ stage s)
    (ho : ∀ made' status s₁, 2 ≤ stage s₁ →
      (status = .created → Config.Sets (2 ≤ stage ·) made') →
        post made' (.ok (unknownState intent, status)) s₁)
    (he : ∀ made' e s₁, post made' (.error e) s₁) :
    (beginOrRecover (stateAt intent observation n)).Respects
      ((protocol intent observation).of ()) post made s := by
  obtain rfl | rfl : n = 1 ∨ n = 2 := by omega
  · refine .lift_bind (fun next hb => ?_) fun e s₁ _ _ _ => he made e s₁
    obtain rfl : next = unknownState intent := (Except.ok.inj hb).symm
    refine .bind <| swap_respects (le_refl 1) (by omega) hs
      (fun s₁ s₂ s₃ h₁ h₂ h₃ hg₃ => ?_) fun s₁ s₂ _ _ _ => he _ _ s₂
    intro s₄ h₄ hg₄
    have hle : stage s₂ ≤ stage s₄ := hg₃.trans hg₄
    have hset : ¬2 ≤ stage s₁ ∧ 2 ≤ stage s₂ := by omega
    exact ho _ _ s₄ (by omega) fun _ => Config.sets_append.mpr <| .inr hset
  · intro s₁ _ hg₁
    exact ho made _ s₁ (hs.trans hg₁) nofun

theorem activate_respects {receipt : ExecutionLaunchReceipt}
    {capability : ExecutorActivationCapability} {adapter : ExecutorActivationAdapter}
    (hi : ∀ i, prepareExecutorActivation receipt capability = .ok i →
      intent = i ∧ observation = activationObservation i capability adapter) :
    (activateOrReconcileExecutor receipt capability adapter).Respects
      ((protocol intent observation).of ()) (Done intent observation) made s := by
  refine .lift_bind (fun _ _ => ?_) fun _ _ _ _ _ => done_error
  refine .lift_bind (fun i hp => ?_) fun _ _ _ _ _ => done_error
  obtain ⟨rfl, rfl⟩ := hi i hp
  refine .bind <| .transaction_run fun s₁ s₂ r h₁ hg₁ hr => ?_
  have ⟨s', hrun, h₂, hst⟩ := Inv.initialize_run h₁
  obtain ⟨rfl, rfl⟩ := Prod.mk.inj <| hr.symm.trans hrun
  refine ⟨h₂, ⟨by omega, fun _ => h₂⟩, fun s₃ h₃ hg₃ => ?_⟩
  have hle : stage s₂ ≤ stage s₃ := hg₃
  have ⟨hmax, _⟩ := Inv.rows h₂ (by omega)
  rw [← hst]
  generalize stage s₂ = n at hle hmax hst
  have hn : 1 ≤ n := by omega
  obtain rfl | hn' : n = 3 ∨ n ≤ 2 := by omega
  · -- The outcome is stored already.
    simp only [stateAt, outcomeState_terminal, if_true]
    exact fun s₄ _ hg₄ => done_ok (hle.trans hg₄) nofun
  · have ht : (stateAt intent (activationObservation intent capability adapter) n).status.terminal
        = false := by
      obtain rfl | rfl : n = 1 ∨ n = 2 := by omega
      all_goals rfl
    simp only [ht, Bool.false_eq_true, if_false]
    refine .bind <| beginOrRecover_respects hn hn' hle (fun made' status s₄ hs₄ hc => ?_)
      fun _ _ _ => done_error
    exact finish_respects hs₄ hc

end Respects

namespace Inv

variable {id : String}

theorem durable (h : Inv intent observation s) (hd : s.durable? id = some state) :
    1 ≤ stage s ∧ stage s ≤ 3 ∧ id = intent.dispatchIdentity ∧
      state = stateAt intent observation (stage s) := by
  cases hr : s.row? id
  case none => simp [durable?_eq_none hr] at hd
  case some row =>
    have ⟨hm, hid⟩ := (Table.select_eq_some (by simp)).mp hr
    have hst : 1 ≤ stage s := by
      rw [Nat.one_le_iff_ne_zero]
      intro hz
      simp [h.nil hz] at hm
    have ⟨hle, hrows⟩ := h.rows hst
    obtain rfl : row = activationRow (stateAt intent observation (stage s)) := by
      simpa [hrows] using hm
    have hi : (stateAt intent observation (stage s)).intent = intent := stateAt_intent _
    refine ⟨hst, hle, ?_, ?_⟩
    · rw [← hid, activationRow, hi]
    · exact Option.some.inj <| hd.symm.trans <| durable?_of_keeps hr keeps_activationRow

theorem durable_outcome (h : Inv intent observation s) (hs : 3 ≤ stage s) :
    s.durable? intent.dispatchIdentity = some (outcomeState intent observation) := by
  have h₁ : 1 ≤ stage s := by omega
  have ⟨hle, hrows⟩ := h.rows h₁
  rw [show stage s = 3 by omega] at hrows
  exact durable?_of_keeps (row?_single hrows) keeps_activationRow

end Inv

-- The outcome of the identity is stored by this access.
def Observes (id : String) (e : Event Unit ExecutorActivations) : Prop :=
  ∃ state, state.status.terminal = true ∧ e.after.durable? id = some state ∧
    e.before.durable? id ≠ some state

theorem stage_of_observes {id : String} {e : Event Unit ExecutorActivations}
    (ha : (protocol intent observation).Admits e) (h : Observes id e) :
    stage e.before < 3 ∧ 3 ≤ stage e.after := by
  have ⟨state, ht, hd, hn⟩ := h
  have ⟨_, hia⟩ := ha.guar
  have ⟨h₁, h₃, hid, hs⟩ := (hia ha.before).durable hd
  have hst : stage e.after = 3 := by
    have hr : (stateAt intent observation (stage e.after)).revision + 1 = stage e.after :=
      stateAt_revision h₁ h₃
    rw [← hs, state.revision_eq, ActivationStatus.terminal_iff.mp ht] at hr
    exact hr.symm
  refine ⟨Nat.lt_of_not_le fun hle => hn ?_, hst.ge⟩
  rw [hid, Inv.durable_outcome ha.before hle, hs, hst]
  rfl

theorem conditionWait_boundTo {capability : ExecutorActivationCapability} :
    (conditionWaitObservation intent capability).BoundTo intent :=
  ⟨rfl, rfl, rfl⟩

theorem observeActivation_unknown (hb : observation.BoundTo intent) :
    observeActivation (unknownState intent) observation = .ok (outcomeState intent observation) := by
  simp only [observeActivation, Except.bind_eq_ok, Py.require_eq_ok, Except.pure_eq_ok]
  exact ⟨(), rfl, (), hb.left, (), hb.right.left, (), hb.right.right, rfl⟩

-- From any stage on, a call that runs alone ends in the outcome.
section Alone

variable (status : ReplayStatus)

theorem commitObserved_run (h : Inv intent observation s) (hs : stage s = 2) :
    ∃ s', (commitObserved (unknownState intent) (outcomeState intent observation)
      intent.dispatchIdentity status).run s =
        (.ok ⟨outcomeState intent observation, status⟩, s') := by
  have ⟨s', hr, _⟩ := Inv.swap_run h (by omega) (le_refl 2) hs
  have hrun : (do return ⟨← compareAndSwap (unknownState intent) (outcomeState intent observation),
      status⟩ : ActivationCall ExecutorActivationResult).run s =
        (.ok ⟨outcomeState intent observation, status⟩, s') :=
    Program.bind_run_ok.mpr ⟨_, s', hr, rfl⟩
  exact ⟨s', by rw [commitObserved, Program.tryCatch_run, hrun]⟩

theorem finish_run (h : Inv intent observation s) (hs : stage s = 2)
    (hb : observation.BoundTo intent) :
    ∃ s', (do
      let observed ← (observeActivation (unknownState intent) observation : Py _)
      commitObserved (unknownState intent) observed intent.dispatchIdentity status :
        ActivationCall ExecutorActivationResult).run s =
        (.ok ⟨outcomeState intent observation, status⟩, s') := by
  have ⟨s', hr⟩ := commitObserved_run status h hs
  refine ⟨s', Program.bind_run_ok.mpr ⟨_, s, ?_, hr⟩⟩
  rw [Program.lift_run, observeActivation_unknown hb]

theorem beginOrRecover_run {n : Nat} (h : Inv intent observation s) (hn : 1 ≤ n) (hn' : n ≤ 2)
    (hs : stage s = n) :
    ∃ status s', (beginOrRecover (stateAt intent observation n)).run s =
      (.ok (unknownState intent, status), s') ∧ Inv intent observation s' ∧ stage s' = 2 := by
  obtain rfl | rfl : n = 1 ∨ n = 2 := by omega
  · have ⟨s', hr, hi, hst⟩ := Inv.swap_run h hn hn' hs
    refine ⟨.created, s', ?_, hi, hst⟩
    exact Program.bind_run_ok.mpr ⟨_, s, rfl, Program.bind_run_ok.mpr ⟨_, s', hr, rfl⟩⟩
  · exact ⟨.recovered, s, rfl, h, hs⟩

theorem activate_run {receipt : ExecutionLaunchReceipt} {capability : ExecutorActivationCapability}
    {adapter : ExecutorActivationAdapter} (h : Inv intent observation s)
    (hc : adapter.capability = capability)
    (hp : prepareExecutorActivation receipt capability = .ok intent)
    (ho : observation = activationObservation intent capability adapter)
    (hb : observation.BoundTo intent) :
    ∃ status s', (activateOrReconcileExecutor receipt capability adapter).run s =
      (.ok ⟨outcomeState intent observation, status⟩, s') := by
  obtain ⟨s₁, hr, h₁, hst⟩ := h.initialize_run
  obtain ⟨hmax, _⟩ := h₁.rows (by omega)
  rw [← hst] at hr
  have hreq : Py.require (adapter.capability = capability) .executorActivationError
      "adapter capability binding mismatch" = .ok () := Py.require_eq_ok.mpr hc
  suffices hrest : ∃ status s', (if (stateAt intent observation (stage s₁)).status.terminal then
      pure ⟨stateAt intent observation (stage s₁), .alreadyRecorded⟩
    else do
      let begun ← beginOrRecover (stateAt intent observation (stage s₁))
      let observed ←
        (observeActivation begun.1 (activationObservation intent capability adapter) : Py _)
      commitObserved begun.1 observed intent.dispatchIdentity begun.2 :
        ActivationCall ExecutorActivationResult).run s₁ =
      (.ok ⟨outcomeState intent observation, status⟩, s') by
    obtain ⟨status, s', hrest⟩ := hrest
    exact ⟨status, s', Program.bind_run_ok.mpr ⟨(), s, by rw [Program.lift_run, hreq],
      Program.bind_run_ok.mpr ⟨intent, s, by rw [Program.lift_run, hp],
        Program.bind_run_ok.mpr ⟨_, s₁, hr, hrest⟩⟩⟩⟩
  generalize hn : stage s₁ = n at hst hmax
  have hn₁ : 1 ≤ n := by omega
  obtain rfl | hn₂ : n = 3 ∨ n ≤ 2 := by omega
  · exact ⟨.alreadyRecorded, s₁, by simp only [stateAt, outcomeState_terminal, if_true]; rfl⟩
  · have ht : (stateAt intent observation n).status.terminal = false := by
      obtain rfl | rfl : n = 1 ∨ n = 2 := by omega
      all_goals rfl
    obtain ⟨status, s₂, hb₂, h₂, hst₂⟩ := beginOrRecover_run h₁ hn₁ hn₂ hn
    obtain ⟨s', hf⟩ := finish_run status h₂ hst₂ hb
    refine ⟨status, s', ?_⟩
    simp only [ht, Bool.false_eq_true, if_false]
    exact Program.bind_run_ok.mpr ⟨_, s₂, hb₂, ho ▸ hf⟩

end Alone

-- The call has begun the activation.
def Created (r : Return (ExecutorActivations × List (Event Unit ExecutorActivations)) PyError
    ExecutorActivationResult) : Prop :=
  ∃ result, r.result = .ok result ∧ result.replayStatus = .created

-- Any number of clients that activate the executor for one receipt.
def Starts (receipt : ExecutionLaunchReceipt) (capability : ExecutorActivationCapability)
    (adapter : ExecutorActivationAdapter) :
    Program (ExecutorActivations × List (Event Unit ExecutorActivations)) PyError
      ExecutorActivationResult → Prop :=
  Protocol.LoggedStarts fun (_ : Unit) p => p = activateOrReconcileExecutor receipt capability adapter

end Activation

-- What holds of one activation in any run of its clients.
structure SingleOutcome (receipt : ExecutionLaunchReceipt)
    (capability : ExecutorActivationCapability) (adapter : ExecutorActivationAdapter)
    (c : Config (ExecutorActivations × List (Event Unit ExecutorActivations)) PyError
      ExecutorActivationResult) : Prop where
  sameState : ∀ a ∈ c.returned, ∀ b ∈ c.returned, ∀ r r', a.result = .ok r → b.result = .ok r' →
    r.state = r'.state
  terminal : ∀ a ∈ c.returned, ∀ r, a.result = .ok r → r.state.status.terminal = true ∧
    c.store.1.durable? r.state.intent.dispatchIdentity = some r.state
  observedOnce : ∀ id, c.store.2.Pairwise fun e e' =>
    ¬(Activation.Observes id e ∧ Activation.Observes id e')
  createdOnce : c.returned.Pairwise fun a b => ¬(Activation.Created a ∧ Activation.Created b)
  recovers : ∀ intent, adapter.capability = capability →
    prepareExecutorActivation receipt capability = .ok intent →
      (capability.available = true → (adapter.activate intent).BoundTo intent) →
        ∃ result s', (activateOrReconcileExecutor receipt capability adapter).run c.store.1 =
            (.ok result, s') ∧
          result.state.status.terminal = true ∧
          ∀ a ∈ c.returned, ∀ r, a.result = .ok r → r.state = result.state

section

open Activation

variable {receipt : ExecutionLaunchReceipt} {capability : ExecutorActivationCapability}
variable {adapter : ExecutorActivationAdapter}

-- The intent of the receipt with what its adapter answers. A receipt that is not accepted makes no
-- access, so that any intent describes its runs.
theorem exists_activation (receipt : ExecutionLaunchReceipt)
    (capability : ExecutorActivationCapability) (adapter : ExecutorActivationAdapter) :
    ∃ intent observation, ∀ i, prepareExecutorActivation receipt capability = .ok i →
      intent = i ∧ observation = activationObservation i capability adapter := by
  cases h : prepareExecutorActivation receipt capability
  case ok i =>
    refine ⟨i, activationObservation i capability adapter, fun j hj => ?_⟩
    obtain rfl := Except.ok.inj hj
    exact ⟨rfl, rfl⟩
  case error e =>
    let intent := referenceActivationIntent
    exact ⟨intent, conditionWaitObservation intent capability, nofun⟩

theorem activation_singleOutcome
    {c : Config (ExecutorActivations × List (Event Unit ExecutorActivations)) PyError
      ExecutorActivationResult}
    (h : Config.Reachable (Starts receipt capability adapter) (.initial (.empty, [])) c) :
    SingleOutcome receipt capability adapter c := by
  have ⟨intent, observation, hi⟩ := exists_activation receipt capability adapter
  have hs (l : Unit) (q : ActivationCall ExecutorActivationResult)
      (hq : q = activateOrReconcileExecutor receipt capability adapter) (s : ExecutorActivations)
      (_ : (protocol intent observation).inv s) :
      q.Respects ((protocol intent observation).of l) (Done intent observation) [] s :=
    hq ▸ activate_respects hi
  have hc := Protocol.logged_sound hs Inv.empty h
  have hdone (a) (ha : a ∈ c.returned) (r) (hr : a.result = .ok r) :
      r.state = outcomeState intent observation ∧ 3 ≤ stage c.store.1 := by
    have ⟨_, _, ⟨hg, _⟩, _, hp⟩ := hc.returned a ha
    have ⟨hst, h₃, _⟩ := hp.post r hr
    exact ⟨hst, h₃.trans hg⟩
  constructor
  case sameState =>
    intro a ha b hb r r' hr hr'
    rw [(hdone a ha r hr).left, (hdone b hb r' hr').left]
  case terminal =>
    intro a ha r hr
    have ⟨hst, h₃⟩ := hdone a ha r hr
    rw [hst]
    exact ⟨outcomeState_terminal, Inv.durable_outcome hc.inv.inv h₃⟩
  case observedOnce =>
    intro id
    have hp := hc.inv.history.pairwise (R := fun s s' => stage s ≤ stage s') (fun _ => le_refl _)
      le_trans fun e he => (hc.inv.admits e he).guar.left
    refine hp.imp_of_mem fun {e e'} he he' hle ⟨ho, ho'⟩ => ?_
    have h₁ := stage_of_observes (hc.inv.admits e he) ho
    have h₂ := stage_of_observes (hc.inv.admits e' he') ho'
    omega
  case createdOnce =>
    have hsets (a) (ha : a ∈ c.returned) (h : Created a) :
        Config.Sets (fun x => 2 ≤ stage x.1) a.made := by
      have ⟨r, hr, hst⟩ := h
      have ⟨_, _, _, _, hp⟩ := hc.returned a ha
      have ⟨_, _, hset⟩ := hp.post r hr
      exact Protocol.sets_stores.mp (hset hst)
    have h₀ : (protocol intent observation).Recorded .empty (.empty, []) :=
      ⟨Inv.empty, .nil, by simp⟩
    have hf : c.returned.Pairwise fun a b => ∀ _ : Unit,
        ¬(Config.Sets (fun x => 2 ≤ stage x.1) a.made ∧
          Config.Sets (fun x => 2 ≤ stage x.1) b.made) :=
      h.setters_pairwise Protocol.logged_mutual (fun _ _ _ hg hle => le_trans hle hg.left)
        (Protocol.logged_respects hs) h₀
    exact hf.imp_of_mem fun ha hb hn ⟨hca, hcb⟩ => hn () ⟨hsets _ ha hca, hsets _ hb hcb⟩
  case recovers =>
    intro intent' hcap hp hb
    obtain ⟨rfl, rfl⟩ := hi intent' hp
    have hbound : (activationObservation intent capability adapter).BoundTo intent := by
      unfold activationObservation
      split
      case isTrue ha  => exact hb ha
      case isFalse ha => exact conditionWait_boundTo
    have ⟨status, s', hr⟩ := activate_run hc.inv.inv hcap hp rfl hbound
    exact ⟨_, s', hr, outcomeState_terminal, fun a ha r hr => (hdone a ha r hr).left⟩

end

-- A launch that its executor accepts.
section Launched

def launchReceipt : ExecutionLaunchReceipt where
  receiptId              := "gelr-1"
  orderId                := "gelo-1"
  orderDigest            := sha256Digest .none
  disposition            := .admitted
  dispositionReason      := "admitted"
  workstreamId           := "workstream-1"
  owner                  := some "owner"
  repository             := some "owner/repository"
  executor               := some "executor"
  launchId               := some "gel-1"
  dispatchIdentity       := some "ged-1"
  firstArtifactRef       := none
  authorityRef           := none
  authorityBindingDigest := none
  executorBindingDigest  := none
  recoveryRequired       := false
  version                := rfl
  nonempty               := by decide
  isSha256               := isLowerSha256_sha256Digest _
  optional               := by simp [OptionalLowerSha256]
  inert                  := ⟨rfl, rfl⟩
  identity               := by decide

def launchCapability : ExecutorActivationCapability where
  executor       := "executor"
  adapterId      := "adapter"
  adapterVersion := "1"
  evidenceRef    := "evidence"
  evidenceDigest := sha256Digest .none
  version        := rfl
  nonempty       := by decide
  isSha256       := by simp [isSha256_sha256Digest]
  idempotent     := ⟨rfl, rfl⟩
  noAuthority    := rfl

def launchIntent : ExecutorActivationIntent where
  receiptId              := "gelr-1"
  receiptDigest          := launchReceipt.digest
  orderDigest            := sha256Digest .none
  workstreamId           := "workstream-1"
  launchId               := "gel-1"
  dispatchIdentity       := "ged-1"
  owner                  := "owner"
  repository             := "owner/repository"
  executor               := "executor"
  authorityRef           := none
  authorityBindingDigest := none
  capabilityDigest       := launchCapability.digest
  version                := rfl
  nonempty               := referenceActivationIntent.nonempty
  isSha256               := by
    simp [isSha256_sha256Digest, ExecutionLaunchReceipt.digest, ExecutorActivationCapability.digest]
  optional               := referenceActivationIntent.optional
  noAuthority            := rfl

-- The adapter answers each intent with the same native run.
def acceptingAdapter : ExecutorActivationAdapter where
  capability   := launchCapability
  activate i   := {
    activationId       := i.activationId
    dispatchIdentity   := i.dispatchIdentity
    executor           := i.executor
    outcome            := .executorAccepted
    evidenceRef        := "evidence"
    evidenceDigest     := sha256Digest .none
    nativeExecutionRef := some "run-1"
    version            := rfl
    nonempty           := by
      have h := (conditionWaitObservation i launchCapability).nonempty
      have he : ¬Text.Blank "evidence" := by decide
      simp only [conditionWaitObservation, List.mem_cons, List.not_mem_nil, or_false,
        forall_eq_or_imp, forall_eq] at h ⊢
      exact ⟨h.left, h.right.left, h.right.right.left, he⟩
    isSha256           := by simp [isSha256_sha256Digest]
    idempotent         := rfl
    noAuthority        := rfl
    evidence           := by decide }

theorem prepare_launchReceipt :
    prepareExecutorActivation launchReceipt launchCapability = .ok launchIntent := by
  simp only [prepareExecutorActivation, Except.bind_eq_ok, Py.require_eq_ok]
  refine ⟨(), rfl, (), rfl, (), ?_, (), rfl, ExecutorActivationIntent.new_eq launchIntent⟩
  simp [launchReceipt, Text.truthy_some]

end Launched

omit [Sha256] in
theorem activation_singleOutcome_launched : let _ := Sha256.blind
    ∃ c, Config.Reachable (Activation.Starts launchReceipt launchCapability acceptingAdapter)
        (.initial (.empty, [])) c ∧
      (∃ a ∈ c.returned, ∃ r, a.result = .ok r ∧ r.state.status = .executorAccepted) ∧
      SingleOutcome launchReceipt launchCapability acceptingAdapter c := by
  intro _
  let p := activateOrReconcileExecutor launchReceipt launchCapability acceptingAdapter
  let c := (Config.initial (.empty, [])).perform (p.logged ())
  have hc : Config.Reachable (Activation.Starts launchReceipt launchCapability acceptingAdapter)
      (.initial (.empty, [])) c := Config.reachable_perform ⟨(), p, rfl, rfl⟩
  have hb : (acceptingAdapter.activate launchIntent).BoundTo launchIntent := ⟨rfl, rfl, rfl⟩
  let outcome := Activation.outcomeState launchIntent (acceptingAdapter.activate launchIntent)
  have ⟨status, s', hr⟩ : ∃ status s', p.run .empty = (.ok ⟨outcome, status⟩, s') :=
    Activation.activate_run Activation.Inv.empty rfl prepare_launchReceipt rfl hb
  refine ⟨c, hc, ⟨_, List.mem_singleton_self _, ⟨outcome, status⟩, ?_, rfl⟩,
    activation_singleOutcome hc⟩
  exact (congrArg Prod.fst <| Program.logged_run p .empty []).trans <| congrArg Prod.fst hr

end GeneralExecution
