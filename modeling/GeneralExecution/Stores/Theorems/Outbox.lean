import GeneralExecution.Stores.Theorems.Alone

namespace GeneralExecution

variable [Sha256] {s s' s₁ s₂ : Stores} {state cur new : DispatchIntentState}
variable {intent : DispatchIntent} {id intentId expected : String} {runner : RunnerCapabilities}

-- How the calls of the store run among the calls of other clients.
namespace DispatchIntentStore

variable {D : Discipline Stores} {made : List (Stores × Stores)}

theorem initializeIntent_respects
    {post : List (Stores × Stores) → Py DispatchIntentState → Stores → Prop}
    (ho : ∀ s₁ s₂, D.inv s₁ → D.rely s s₁ → s₁.Prepares s₂ intent →
      D.inv s₂ ∧ D.guar s₁ s₂ ∧ ∀ s₃, D.inv s₃ → D.rely s₂ s₃ →
        post (made ++ [(s₁, s₂)]) (.ok (initialDispatchState intent)) s₃)
    (he : ∀ made' e s₁, Quiet made made' → D.inv s₁ → D.rely s s₁ → post made' (.error e) s₁) :
    (initializeIntent intent).Respects D post made s := by
  refine .transaction (fun s₁ s₂ state hi hg hc => ?_) fun s₁ s₂ e hi hg _ hi' hg' =>
    he _ e s₂ (.single s₁) hi' (D.trans hg hg')
  obtain ⟨rfl, h⟩ := initializeStatements_eq_ok hc
  exact ho s₁ s₂ hi hg ⟨h⟩

theorem load_respects {post : List (Stores × Stores) → Py DispatchIntentState → Stores → Prop}
    (ho : ∀ s₁ s₂ state, D.inv s₁ → D.rely s s₁ → s₁.HoldsIntent id state → D.inv s₂ →
      D.rely s₁ s₂ → post (made ++ [(s₁, s₁)]) (.ok state) s₂)
    (he : ∀ made' e s₁, Quiet made made' → D.inv s₁ → D.rely s s₁ → post made' (.error e) s₁) :
    (load id).Respects D post made s := by
  refine .bind <| StoreCall.query_respects fun s₁ s₂ hi hg hi₂ hg₂ => ?_
  cases hr : s₁.intent? id
  case none =>
    exact fun s₃ hi₃ hg₃ => he _ _ s₃ (.single s₁) hi₃ (D.trans hg <| D.trans hg₂ hg₃)
  case some row =>
    refine Program.Respects.lift fun s₃ hi₃ hg₃ => ?_
    cases hd : decodeIntentRow row
    case error e  => exact he _ e s₃ (.single s₁) hi₃ (D.trans hg <| D.trans hg₂ hg₃)
    case ok state => exact ho s₁ s₃ state hi hg ⟨row, hr, hd⟩ hi₃ (D.trans hg₂ hg₃)

theorem commit_respects {post : List (Stores × Stores) → Py DispatchIntentState → Stores → Prop}
    (hv : new.schemaVersion = "ge.dispatch-intent-state.v1")
    (ho : ∀ s₁ s₂, D.inv s₁ → D.rely s s₁ → s₁.Moves s₂ cur new →
      D.inv s₂ ∧ D.guar s₁ s₂ ∧ ∀ s₃, D.inv s₃ → D.rely s₂ s₃ →
        post (made ++ [(s₁, s₂)]) (.ok new) s₃)
    (he : ∀ made' e s₁, Quiet made made' → D.inv s₁ → D.rely s s₁ → post made' (.error e) s₁) :
    (commit cur new).Respects D post made s := by
  refine .lift_bind (fun _ hn => ?_) fun e s₁ _ hi hg => he made e s₁ .refl hi hg
  replace hn := Py.require_eq_ok.mp hn
  refine .lift_bind (fun _ hp => ?_) fun e s₁ _ hi hg => he made e s₁ .refl hi hg
  have ⟨hr, hp⟩ := Py.require_eq_ok.mp hp
  refine .transaction (fun s₁ s₂ state hi hg hc => ?_) fun s₁ s₂ e hi hg _ hi' hg' =>
    he _ e s₂ (.single s₁) hi' (D.trans hg hg')
  obtain ⟨hcur, rfl, hw⟩ := commitStatements_eq_ok hc hn
  exact ho s₁ s₂ hi hg ⟨hcur, ⟨hn, hr, hp⟩, hv, hw⟩

theorem capacityHead_respects
    {post : List (Stores × Stores) → Py RunnerCapacityState → Stores → Prop}
    (ho : ∀ s₁ s₂ state, D.inv s₁ → D.rely s s₁ → s₁.HoldsHead runner state → D.inv s₂ →
      D.rely s₁ s₂ → post (made ++ [(s₁, s₁)]) (.ok state) s₂)
    (he : ∀ made' e s₁, Quiet made made' → D.inv s₁ → D.rely s s₁ → post made' (.error e) s₁) :
    (capacityHead runner).Respects D post made s := by
  refine .tryCatch <| .bind <| CapacityHeadStore.load_respects
    (fun s₁ s₂ state _ hi hg hh hi₂ hg₂ => ?_) fun made' e s₁ hq hi hg => ?_
  · exact fun s₃ hi₃ hg₃ => ho s₁ s₃ state hi hg hh hi₃ (D.trans hg₂ hg₃)
  · exact fun s₂ hi₂ hg₂ => he made' _ s₂ hq hi₂ (D.trans hg hg₂)

-- A submission has read the prepared intent, and since then a head that backs it.
structure Begins (s s₁ s₂ : Stores) (intentId expected : String) (runner : RunnerCapabilities)
    (rely : Stores → Stores → Prop) (cur : DispatchIntentState) : Prop where
  intentId : cur.intent.intentId = intentId
  expected : cur.digest = expected
  prepared : cur.status = .prepared
  moves    : s₁.Moves s₂ cur (submissionUnknownState cur)
  backed   : ∃ s₀ capacity lease, rely s s₀ ∧ rely s₀ s₁ ∧ s₀.HoldsHead runner capacity ∧
    validateIntentAgainstCapacity cur.intent capacity runner = .ok lease

theorem beginSubmission_respects
    {post : List (Stores × Stores) → Py (DispatchIntentState × DispatchPermit) → Stores → Prop}
    (ho : ∀ made' s₁ s₂ cur permit, Quiet made made' → D.inv s₁ → D.rely s s₁ →
      Begins s s₁ s₂ intentId expected runner D.rely cur →
      dispatchPermit (submissionUnknownState cur) = .ok permit →
        D.inv s₂ ∧ D.guar s₁ s₂ ∧ ∀ s₃, D.inv s₃ → D.rely s₂ s₃ →
          post (made' ++ [(s₁, s₂)]) (.ok (submissionUnknownState cur, permit)) s₃)
    (he : ∀ made' e s₁, Quiet made made' → D.inv s₁ → D.rely s s₁ → post made' (.error e) s₁) :
    (beginSubmission intentId expected runner).Respects D post made s := by
  refine .bind <| load_respects (fun s₁ s₂ cur hi hg hc hi₂ hg₂ => ?_) he
  have hq₁ : Quiet made (made ++ [(s₁, s₁)]) := .single s₁
  replace hg₂ := D.trans hg hg₂
  refine .lift_bind (fun _ hd => ?_) fun e s₃ _ hi hg => he _ e s₃ hq₁ hi (D.trans hg₂ hg)
  replace hd := Py.require_eq_ok.mp hd
  refine .lift_bind (fun _ hp => ?_) fun e s₃ _ hi hg => he _ e s₃ hq₁ hi (D.trans hg₂ hg)
  replace hp := Py.require_eq_ok.mp hp
  refine .bind <| capacityHead_respects (fun s₃ s₄ capacity _ hg₃ hh _ hg₄ => ?_)
    fun made' e s₃ hq hi hg => he _ e s₃ (hq₁.trans hq) hi (D.trans hg₂ hg)
  have hq₂ : Quiet made (made ++ [(s₁, s₁)] ++ [(s₃, s₃)]) := hq₁.trans (.single s₃)
  replace hg₃ := D.trans hg₂ hg₃
  have hg₄' := D.trans hg₃ hg₄
  refine .lift_bind (fun lease hv => ?_) fun e s₅ _ hi hg => he _ e s₅ hq₂ hi (D.trans hg₄' hg)
  refine .bind <| commit_respects rfl (fun s₅ s₆ hi₅ hg₅ hm => ?_)
    fun made' e s₅ hq hi hg => he _ e s₅ (hq₂.trans hq) hi (D.trans hg₄' hg)
  have hb : Begins s s₅ s₆ intentId expected runner D.rely cur :=
    ⟨hc.intentId, hd, hp, hm, s₃, capacity, lease, hg₃, D.trans hg₄ hg₅, hh, hv⟩
  have hpermit := ho _ s₅ s₆ cur _ hq₂ hi₅ (D.trans hg₄' hg₅) hb rfl
  refine ⟨hpermit.left, hpermit.right.left, fun s₇ hi₇ hg₇ => ?_⟩
  exact fun s₈ hi₈ hg₈ => hpermit.right.right s₈ hi₈ (D.trans hg₇ hg₈)

theorem recordObserved_respects {spec : ExecutionSpec} {registry : RunnerRegistry}
    {plan : DispatchPlan} {session : ExecutionSession} {outcome : PhysicalOutcomeBundle}
    {post : List (Stores × Stores) → Py DispatchIntentState → Stores → Prop}
    (ho : ∀ made' s₁ s₂ cur, Quiet made made' → D.inv s₁ → D.rely s s₁ →
      cur.status = .submissionUnknown → s₁.Moves s₂ cur (observedState cur outcome) →
        D.inv s₂ ∧ D.guar s₁ s₂ ∧ ∀ s₃, D.inv s₃ → D.rely s₂ s₃ →
          post (made' ++ [(s₁, s₂)]) (.ok (observedState cur outcome)) s₃)
    (he : ∀ made' e s₁, Quiet made made' → D.inv s₁ → D.rely s s₁ → post made' (.error e) s₁) :
    (recordObserved intentId expected spec registry plan session runner outcome).Respects
      D post made s := by
  refine .bind <| load_respects (fun s₁ s₂ cur hi hg hc hi₂ hg₂ => ?_) he
  have hq₁ : Quiet made (made ++ [(s₁, s₁)]) := .single s₁
  replace hg₂ := D.trans hg hg₂
  refine .lift_bind (fun _ _ => ?_) fun e s₃ _ hi hg => he _ e s₃ hq₁ hi (D.trans hg₂ hg)
  refine .lift_bind (fun _ hp => ?_) fun e s₃ _ hi hg => he _ e s₃ hq₁ hi (D.trans hg₂ hg)
  replace hp := Py.require_eq_ok.mp hp
  refine .lift_bind (fun _ _ => ?_) fun e s₃ _ hi hg => he _ e s₃ hq₁ hi (D.trans hg₂ hg)
  refine .lift_bind (fun _ _ => ?_) fun e s₃ _ hi hg => he _ e s₃ hq₁ hi (D.trans hg₂ hg)
  exact commit_respects rfl
    (fun s₅ s₆ hi₅ hg₅ hm => ho _ s₅ s₆ cur hq₁ hi₅ (D.trans hg₂ hg₅) hp hm)
    fun made' e s₅ hq hi hg => he _ e s₅ (hq₁.trans hq) hi (D.trans hg₂ hg)

end DispatchIntentStore

-- Any number of clients of one outbox, and of the capacity heads that it consults.
inductive OutboxCall
  | initializeIntent (capacity : RunnerCapacityState) (runner : RunnerCapabilities)
      (lease : CapacityLease) (authorization : PhysicalAttemptAuthorization)
  | beginSubmission (intentId expected : String) (runner : RunnerCapabilities)
  | recordObserved (intentId expected : String) (spec : ExecutionSpec) (registry : RunnerRegistry)
      (plan : DispatchPlan) (session : ExecutionSession) (runner : RunnerCapabilities)
      (outcome : PhysicalOutcomeBundle)
  | heads (call : HeadCall)

namespace OutboxCall

open DispatchIntentStore

-- A call, returning the permit that it hands out.
def perform : OutboxCall → StoreCall (Option DispatchPermit)
  | .initializeIntent capacity runner lease authorization => do
    let intent ← (prepareDispatchIntent capacity runner lease authorization : Py _)
    let _ ← DispatchIntentStore.initializeIntent intent
    return none
  | .beginSubmission intentId expected runner => do
    return some (← DispatchIntentStore.beginSubmission intentId expected runner).2
  | .recordObserved intentId expected spec registry plan session runner outcome => do
    let _ ← DispatchIntentStore.recordObserved intentId expected spec registry plan session runner
      outcome
    return none
  | .heads call => do
    let _ ← call.perform
    return none

def Starts (p : StoreCall (Option DispatchPermit)) : Prop :=
  ∃ call, p = perform call

def discipline : Discipline Stores where
  inv     := Stores.IntentsDecode
  rely    := Stores.IntentsAdvance
  guar    := Stores.IntentsStep
  refl _  := .refl
  trans   := .trans
  idle _  := .refl

theorem discipline_mutual : discipline.Mutual :=
  fun _ _ h => h.advance

-- The intent has left the prepared state.
def Submitted (intentId : String) (s : Stores) : Prop :=
  ∃ state, s.HoldsIntent intentId state ∧ 1 ≤ state.revision

theorem Submitted.advance (h : Submitted id s) (hs : s.IntentsAdvance s') : Submitted id s' := by
  have ⟨state, hh, hr⟩ := h
  have ⟨state', hh', hf⟩ := hs id state hh
  refine ⟨state', hh', ?_⟩
  clear hh'
  induction hf
  case refl         => exact hr
  case tail hf ih   => exact hf.revision ▸ Nat.le_add_left _ _

-- What a call has done when it returns.
def Done (made : List (Stores × Stores)) (result : Py (Option DispatchPermit)) (_ : Stores) : Prop :=
  match result with
  | .error _          => ∀ m ∈ made, m.2 = m.1
  | .ok none          => True
  | .ok (some permit) => Config.Sets (Submitted permit.intentId) made

theorem prepareDispatchIntent_version {capacity : RunnerCapacityState} {lease : CapacityLease}
    {authorization : PhysicalAttemptAuthorization}
    (h : prepareDispatchIntent capacity runner lease authorization = .ok intent) :
    intent.schemaVersion = "ge.dispatch-intent.v1" := by
  simp only [prepareDispatchIntent, DispatchIntent.new, Except.bind_eq_ok, Except.pure_eq_ok] at h
  obtain ⟨_, _, _, _, _, _, _, _, _, _, _, _, rfl⟩ := h
  rfl

theorem moves_sets {made : List (Stores × Stores)} (h : s₁.Moves s₂ cur new) (hr : s₁.IntentRows)
    (hp : cur.status = .prepared) :
    Config.Sets (Submitted cur.intent.intentId) (made ++ [(s₁, s₂)]) := by
  refine Config.sets_append.mpr <| .inr ⟨?_, new, ?_, ?_⟩
  · rintro ⟨state, hs, h₁⟩
    obtain rfl := hs.unique h.current
    rw [state.revision_eq, hp] at h₁
    exact absurd h₁ (by decide)
  · exact h.follows.intent ▸ h.writes.holds (h.supported hr)
  · exact h.follows.revision ▸ Nat.le_add_left _ _

theorem perform_respects (call : OutboxCall) (s : Stores) :
    (perform call).Respects discipline Done [] s := by
  cases call
  case initializeIntent capacity runner lease authorization =>
    refine .lift_bind (fun intent hp => ?_) fun _ _ _ _ _ => by simp [Done]
    refine .bind <| initializeIntent_respects (fun s₁ s₂ hi hg h => ?_) fun made e s₁ hq hi hg =>
      hq.of_nil
    exact ⟨h.decode hi (prepareDispatchIntent_version hp), h.step, fun _ _ _ _ _ _ => trivial⟩
  case beginSubmission intentId expected runner =>
    refine .bind <| beginSubmission_respects (fun made s₁ s₂ cur permit hq hi hg h hp => ?_)
      fun made e s₁ hq hi hg => hq.of_nil
    refine ⟨h.moves.decode hi, h.moves.step hi.rows, fun _ _ _ _ _ _ => ?_⟩
    obtain rfl := Except.ok.inj hp
    change Config.Sets (Submitted cur.intent.intentId) _
    exact moves_sets h.moves hi.rows h.prepared
  case recordObserved intentId expected spec registry plan session runner outcome =>
    refine .bind <| recordObserved_respects (fun made s₁ s₂ cur hq hi hg _ h => ?_)
      fun made e s₁ hq hi hg => hq.of_nil
    exact ⟨h.decode hi, h.step hi.rows, fun _ _ _ _ _ _ => trivial⟩
  case heads call =>
    refine .bind <| call.perform_frame (fun s₁ s₂ hi h _ _ => ?_) (fun _ _ _ _ _ _ _ => trivial)
      fun made e s₁ hq hi hg => hq.of_nil
    exact ⟨hi.of_intents h, .of_intents h⟩

theorem starts_respects (p : StoreCall (Option DispatchPermit)) (hp : Starts p) (s : Stores)
    (_ : discipline.inv s) : p.Respects discipline Done [] s := by
  obtain ⟨call, rfl⟩ := hp
  exact call.perform_respects s

theorem intentsDecode_empty : Stores.empty.IntentsDecode := by
  simp [Stores.IntentsDecode, Stores.empty, Stores.intent?]

variable {c : Config Stores PyError (Option DispatchPermit)}

theorem sound (h : Config.Reachable Starts (.initial .empty) c) :
    c.Sound discipline Done .empty :=
  h.sound discipline_mutual starts_respects intentsDecode_empty

-- The call has returned a permit for the intent.
def Permitted (intentId : String) (r : Return Stores PyError (Option DispatchPermit)) : Prop :=
  ∃ permit, r.result = .ok (some permit) ∧ permit.intentId = intentId

theorem sets_of_permitted (hc : c.Sound discipline Done s)
    {r : Return Stores PyError (Option DispatchPermit)} (hr : r ∈ c.returned)
    (h : Permitted intentId r) : Config.Sets (Submitted intentId) r.made := by
  have ⟨permit, he, hi⟩ := h
  have ⟨_, _, _, hd⟩ := hc.returned r hr
  rw [he] at hd
  exact hi ▸ hd

theorem atMostOne (h : Config.Reachable Starts (.initial .empty) c) (intentId : String) :
    c.returned.Pairwise fun a b => ¬(Permitted intentId a ∧ Permitted intentId b) := by
  have hc := sound h
  have hp := h.setters_pairwise discipline_mutual
    (fun i s s' hg (hp : Submitted i s) => hp.advance hg) starts_respects intentsDecode_empty
  refine hp.imp_of_mem fun ha hb hn ⟨hpa, hpb⟩ => ?_
  exact hn intentId ⟨sets_of_permitted hc ha hpa, sets_of_permitted hc hb hpb⟩

end OutboxCall

-- What holds of one outbox in any run of its clients.
structure OutboxLinear (c : Config Stores PyError (Option DispatchPermit)) : Prop where
  decodes     : ∀ id row, c.store.intent? id = some row → ∃ state, decodeIntentRow row = .ok state
  revision    : ∀ id state, c.store.HoldsIntent id state → state.revision = state.status.ordinal
  step        : ∀ c', Config.Step OutboxCall.Starts c c' → c.store.IntentsStep c'.store
  kept        : ∀ c', Config.Reachable OutboxCall.Starts c c' → c.store.IntentsAdvance c'.store
  oneForLease : ∀ id id' state state', c.store.HoldsIntent id state →
    c.store.HoldsIntent id' state' → state.intent.leaseId = state'.intent.leaseId → id = id'
  atMostOne   : ∀ intentId, c.returned.Pairwise fun a b =>
    ¬(OutboxCall.Permitted intentId a ∧ OutboxCall.Permitted intentId b)
  raised      : ∀ e made, ⟨.error e, made⟩ ∈ c.returned → ∀ m ∈ made, m.2 = m.1

theorem outbox_linear {c : Config Stores PyError (Option DispatchPermit)}
    (h : Config.Reachable OutboxCall.Starts (.initial .empty) c) : OutboxLinear c where
  decodes id row hr := by
    have ⟨state, row', hr', hd⟩ := (OutboxCall.sound h).inv.decode hr
    obtain rfl := Option.some.inj <| hr.symm.trans hr'
    exact ⟨state, hd⟩
  revision _ state _ := state.revision_eq
  step _ hs          := hs.guar (OutboxCall.sound h)
  kept _ hr          :=
    hr.kept OutboxCall.discipline_mutual OutboxCall.starts_respects (OutboxCall.sound h)
  oneForLease _ _ _ _ hs hs' hl := (hs.lease_unique hs' hl).left
  atMostOne := OutboxCall.atMostOne h
  raised e made hr := by
    have ⟨_, _, _, hd⟩ := (OutboxCall.sound h).returned _ hr
    exact hd

theorem FirstSubmission.outboxRun {request : AdapterDispatchRequest} {permit : DispatchPermit}
    {s₃ : Stores} (h : FirstSubmission runner request intent permit s₁ s₂ s₃ s) :
    ∃ c, Config.Reachable OutboxCall.Starts (.initial .empty) c ∧ c.store = s := by
  have ⟨_, hg⟩ := h.genesis
  have ⟨_, hr⟩ := h.reserved
  have h₁ : ∃ c, Config.Reachable OutboxCall.Starts (.initial .empty) c ∧ c.store = s₁ :=
    Config.Reachable.perform ⟨_, .refl, rfl⟩ ⟨.heads (.initializeHead _ _), rfl⟩ <|
      Program.bind_run_ok.mpr ⟨_, _, Program.bind_run_ok.mpr ⟨_, _, hg, rfl⟩, rfl⟩
  have h₂ := Config.Reachable.perform h₁ ⟨.heads (.commit _ _ _), rfl⟩ <|
    Program.bind_run_ok.mpr ⟨_, _, Program.bind_run_ok.mpr ⟨_, _, hr, rfl⟩, rfl⟩
  have h₃ := Config.Reachable.perform h₂ ⟨.initializeIntent _ _ _ _, rfl⟩ <|
    Program.bind_run_ok.mpr ⟨_, _, Program.lift_run .. ▸ congrArg (·, _) h.prepared,
      Program.bind_run_ok.mpr ⟨_, _, h.initialized, rfl⟩⟩
  exact Config.Reachable.perform h₃ ⟨.beginSubmission _ _ _, rfl⟩ <|
    Program.bind_run_ok.mpr ⟨_, _, h.submitted, rfl⟩

omit [Sha256] in
theorem outbox_linear_first : let _ := Sha256.blind
    ∃ c, Config.Reachable OutboxCall.Starts (.initial .empty) c ∧
      (∃ id state, c.store.HoldsIntent id state ∧ state.status = .submissionUnknown) ∧
      OutboxLinear c := by
  intro _
  have ⟨_, _, _, _, _, _, h⟩ :=
    exists_firstSubmission (referenceRequest "gei-1" (by decide)) requestOf_verified
  have ⟨c, hc, hs⟩ := h.outboxRun
  exact ⟨c, hc, ⟨_, _, hs ▸ h.holds, rfl⟩, outbox_linear hc⟩

end GeneralExecution
