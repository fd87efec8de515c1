import GeneralExecution.Stores.DispatchRecovery
import GeneralExecution.Stores.Theorems.Outbox

namespace GeneralExecution

variable [Sha256] {s s' : Stores} {state : DispatchIntentState} {intent : DispatchIntent}
variable {id runnerId : String}

-- The item of a state is always one that may be reported.
def recoveryItemOf (state : DispatchIntentState) : DispatchRecoveryItem where
  intentId       := state.intent.intentId
  stateDigest    := state.digest
  status         := state.status
  invocationId   := state.intent.invocationId
  requestDigest  := state.intent.requestDigest
  runnerId       := state.intent.runnerId
  leaseId        := state.intent.leaseId
  recoveryAction := state.status.recoveryAction
  noResubmission := rfl
  noInference    := rfl
  actionOfStatus := rfl

theorem dispatchRecoveryItem_eq : dispatchRecoveryItem state = .ok (recoveryItemOf state) :=
  DispatchRecoveryItem.new_eq (recoveryItemOf state)

theorem Stores.Prepares.holds (h : s.Prepares s' intent)
    (hv : intent.schemaVersion = "ge.dispatch-intent.v1") :
    s'.HoldsIntent intent.intentId (initialDispatchState intent) := by
  rcases h.effect with ⟨hs, rfl⟩ | ⟨_, hw⟩
  · exact hs
  · exact hw.holds ⟨rfl, hv⟩

namespace DispatchIntentStore

theorem loadForRunner_run (h : s.IntentsDecode) (runnerId : String) :
    ∃ states, (loadForRunner runnerId).run s = (.ok states, s) ∧
      ∀ state ∈ states, state.intent.runnerId = runnerId := by
  have ⟨states, hm⟩ : ∃ states, (s.dispatchIntents.rows.mergeSort
      fun a b => a.intentId ≤ b.intentId).mapM decodeIntentRow = .ok states := by
    apply Except.exists_mapM.mpr
    intro row hr
    have hr' : s.intent? row.intentId = some row :=
      Stores.mem_dispatchIntents.mp <| List.mem_mergeSort.mp hr
    have ⟨state, row', hrow, hd⟩ := h.decode hr'
    obtain rfl := Option.some.inj <| hr'.symm.trans hrow
    exact ⟨state, hd⟩
  refine ⟨states.filter (·.intent.runnerId = runnerId), ?_, fun state hs => ?_⟩
  · rw [loadForRunner, Program.bind_run, StoreCall.query_run]
    simp only [hm]
    rfl
  · simpa using (List.mem_filter.mp hs).right

theorem loadForRunner_respects {D : Discipline Stores} {made : List (Stores × Stores)}
    {post : List (Stores × Stores) → Py (List DispatchIntentState) → Stores → Prop}
    (h : ∀ made' r s₁, D.inv s₁ → D.rely s s₁ → post made' r s₁) :
    (loadForRunner runnerId).Respects D post made s := by
  refine .bind <| StoreCall.query_respects fun s₁ s₂ _ hg _ hg₂ => ?_
  replace hg₂ := D.trans hg hg₂
  refine .lift_bind (fun _ _ => ?_) fun e s₃ _ hi₃ hg₃ => h _ _ s₃ hi₃ (D.trans hg₂ hg₃)
  exact fun s₃ hi₃ hg₃ => h _ _ s₃ hi₃ (D.trans hg₂ hg₃)

end DispatchIntentStore

theorem recoverDispatchAfterRestart_run (h : s.IntentsDecode) (runnerId : String) :
    ∃ report, (recoverDispatchAfterRestart runnerId).run s = (.ok report, s) := by
  have ⟨states, hl, hr⟩ := DispatchIntentStore.loadForRunner_run h runnerId
  have ⟨items, hm⟩ : ∃ items, states.mapM dispatchRecoveryItem = .ok items :=
    Except.exists_mapM.mpr fun state _ => ⟨_, dispatchRecoveryItem_eq⟩
  have hrunner : ∀ item ∈ items, item.runnerId = runnerId := by
    intro item hi
    have ⟨state, hs, he⟩ := Except.mem_mapM hm item hi
    rw [← Except.ok.inj <| dispatchRecoveryItem_eq.symm.trans he]
    exact hr state hs
  let report : DispatchRecoveryReport := {
    runnerId               := runnerId
    items                  := items
    preparedCount          := countStatus .prepared items
    submissionUnknownCount := countStatus .submissionUnknown items
    observedCount          := countStatus .observed items
    noResubmission         := rfl
    noInference            := rfl
    reconciled             := ⟨rfl, rfl, rfl⟩
    oneRunner              := hrunner }
  refine ⟨report, Program.bind_run_ok.mpr ⟨states, s, hl, ?_⟩⟩
  refine Program.bind_run_ok.mpr ⟨items, s, congrArg (·, s) hm, ?_⟩
  exact congrArg (·, s) report.new_eq

-- What is loaded has the schema that is read again.
theorem DispatchIntentStore.load_run_version
    (h : (load intent.intentId).run s = (.ok state, s'))
    (hs : s.intent? intent.intentId = some (intentRow (initialDispatchState intent))) :
    intent.schemaVersion = "ge.dispatch-intent.v1" := by
  rw [load, Program.bind_run, StoreCall.query_run] at h
  simp only [hs] at h
  have hd := decodeIntentRow_intentRow.mp <| congrArg Prod.fst h
  exact hd.left.right

-- One row that cannot be read hides the rows of every runner.
theorem DispatchIntentStore.loadForRunner_run_version {states : List DispatchIntentState}
    (h : (loadForRunner runnerId).run s = (.ok states, s'))
    (hs : s.intent? intent.intentId = some (intentRow (initialDispatchState intent))) :
    intent.schemaVersion = "ge.dispatch-intent.v1" := by
  rw [loadForRunner, Program.bind_run, StoreCall.query_run] at h
  obtain ⟨decoded, _, hd, _⟩ := Program.bind_run_ok.mp h
  have hrow : intentRow (initialDispatchState intent) ∈ s.dispatchIntents.rows :=
    Stores.mem_dispatchIntents.mpr hs
  have ⟨state, hd⟩ := Except.exists_mapM.mp ⟨decoded, congrArg Prod.fst hd⟩ _ <|
    List.mem_mergeSort.mpr hrow
  exact (decodeIntentRow_intentRow.mp hd).left.right

-- Any number of clients of one outbox, who may prepare intents from `Allowed` and read what is kept.
inductive IntentCall
  | initializeIntent (intent : DispatchIntent)
  | load (intentId : String)
  | loadForRunner (runnerId : String)
  | recover (runnerId : String)
  | beginSubmission (intentId expected : String) (runner : RunnerCapabilities)
  | recordObserved (intentId expected : String) (spec : ExecutionSpec) (registry : RunnerRegistry)
      (plan : DispatchPlan) (session : ExecutionSession) (runner : RunnerCapabilities)
      (outcome : PhysicalOutcomeBundle)
  | heads (call : HeadCall)

namespace IntentCall

-- A call, returning the intent that it has initialized.
def perform : IntentCall → StoreCall (Option DispatchIntent)
  | .initializeIntent intent => do
    let _ ← DispatchIntentStore.initializeIntent intent
    return some intent
  | .load intentId => do
    let _ ← DispatchIntentStore.load intentId
    return none
  | .loadForRunner runnerId => do
    let _ ← DispatchIntentStore.loadForRunner runnerId
    return none
  | .recover runnerId => do
    let _ ← recoverDispatchAfterRestart runnerId
    return none
  | .beginSubmission intentId expected runner => do
    let _ ← DispatchIntentStore.beginSubmission intentId expected runner
    return none
  | .recordObserved intentId expected spec registry plan session runner outcome => do
    let _ ← DispatchIntentStore.recordObserved intentId expected spec registry plan session runner
      outcome
    return none
  | .heads call => do
    let _ ← call.perform
    return none

def Within (Allowed : DispatchIntent → Prop) : IntentCall → Prop
  | .initializeIntent intent => Allowed intent
  | _                        => True

def Starts (Allowed : DispatchIntent → Prop) (p : StoreCall (Option DispatchIntent)) : Prop :=
  ∃ call, call.Within Allowed ∧ p = perform call

open DispatchIntentStore

variable {Allowed : DispatchIntent → Prop} {c c' : Config Stores PyError (Option DispatchIntent)}

-- What a call has done when it returns.
def Done (_ : List (Stores × Stores)) (result : Py (Option DispatchIntent)) (s : Stores) : Prop :=
  ∀ intent, result = .ok (some intent) → ∃ state, s.HoldsIntent intent.intentId state

theorem perform_respects {call : IntentCall} (hc : call.Within Allowed)
    (hv : ∀ intent, Allowed intent → intent.schemaVersion = "ge.dispatch-intent.v1") (s : Stores) :
    (perform call).Respects OutboxCall.discipline Done [] s := by
  cases call
  case initializeIntent intent =>
    refine .bind <| initializeIntent_respects (fun s₁ s₂ hi hg h => ?_) fun made e s₁ _ _ _ => ?_
    · have hi₂ := h.decode hi (hv intent hc)
      refine ⟨hi₂, h.step, fun s₃ hi₃ hg₃ s₄ hi₄ hg₄ intent' he => ?_⟩
      obtain rfl := Option.some.inj <| Except.ok.inj he
      have ⟨state, hs, _⟩ := (hg₃.trans hg₄) _ _ <| h.holds (hv intent hc)
      exact ⟨state, hs⟩
    · simp [Done]
  case load intentId =>
    refine .bind <| load_respects (fun _ _ _ _ _ _ _ _ => ?_) fun made e s₁ _ _ _ => by simp [Done]
    exact fun _ _ _ => by simp [Done]
  case loadForRunner runnerId =>
    refine .bind <| loadForRunner_respects fun made r s₁ _ _ => ?_
    cases r
    case error => simp [Done]
    case ok    => exact fun _ _ _ => by simp [Done]
  case recover runnerId =>
    refine .bind <| .bind <| loadForRunner_respects fun made r s₁ _ _ => ?_
    cases r
    case error => simp [Done]
    case ok states =>
      refine .lift_bind (fun items _ => ?_) fun e s₂ _ _ _ => by simp [Done]
      refine Program.Respects.lift fun s₂ _ _ => ?_
      split
      · exact fun _ _ _ => by simp [Done]
      · simp [Done]
  case beginSubmission intentId expected runner =>
    refine .bind <| beginSubmission_respects (fun made s₁ s₂ cur permit hq hi hg h hp => ?_)
      fun made e s₁ hq hi hg => by simp [Done]
    exact ⟨h.moves.decode hi, h.moves.step hi.rows, fun _ _ _ _ _ _ => by simp [Done]⟩
  case recordObserved intentId expected spec registry plan session runner outcome =>
    refine .bind <| recordObserved_respects (fun made s₁ s₂ cur hq hi hg _ h => ?_)
      fun made e s₁ hq hi hg => by simp [Done]
    exact ⟨h.decode hi, h.step hi.rows, fun _ _ _ _ _ _ => by simp [Done]⟩
  case heads call =>
    refine .bind <| call.perform_frame (fun s₁ s₂ hi h _ _ => ?_)
      (fun _ _ _ _ _ _ _ => by simp [Done]) fun made e s₁ hq hi hg => by simp [Done]
    exact ⟨hi.of_intents h, .of_intents h⟩

theorem starts_respects
    (hv : ∀ intent, Allowed intent → intent.schemaVersion = "ge.dispatch-intent.v1")
    (p : StoreCall (Option DispatchIntent)) (hp : Starts Allowed p) (s : Stores)
    (_ : OutboxCall.discipline.inv s) : p.Respects OutboxCall.discipline Done [] s := by
  obtain ⟨call, hw, rfl⟩ := hp
  exact perform_respects hw hv s

theorem sound (hv : ∀ intent, Allowed intent → intent.schemaVersion = "ge.dispatch-intent.v1")
    (h : Config.Reachable (Starts Allowed) (.initial .empty) c) :
    c.Sound OutboxCall.discipline Done .empty :=
  h.sound OutboxCall.discipline_mutual (starts_respects hv) OutboxCall.intentsDecode_empty

-- The call has returned normally from initializing the intent.
def Initialized (intent : DispatchIntent) (c : Config Stores PyError (Option DispatchIntent)) :
    Prop :=
  ∃ r ∈ c.returned, r.result = .ok (some intent)

end IntentCall

-- Once an intent has been initialized, it is loaded again, and so are the states of every runner.
structure ReadAgain (Allowed : DispatchIntent → Prop)
    (c : Config Stores PyError (Option DispatchIntent)) : Prop where
  load : ∀ intent, IntentCall.Initialized intent c →
    ∀ c', Config.Reachable (IntentCall.Starts Allowed) c c' →
      ∃ state, ((DispatchIntentStore.load intent.intentId).run c'.store).1 = .ok state
  loadForRunner : ∀ intent, IntentCall.Initialized intent c →
    ∀ c', Config.Reachable (IntentCall.Starts Allowed) c c' →
      ∀ runnerId, ∃ states, ((DispatchIntentStore.loadForRunner runnerId).run c'.store).1 = .ok states
  recover : ∀ intent, IntentCall.Initialized intent c →
    ∀ c', Config.Reachable (IntentCall.Starts Allowed) c c' →
      ∀ runnerId, ∃ report, ((recoverDispatchAfterRestart runnerId).run c'.store).1 = .ok report

open IntentCall

theorem readAgain_of_version {Allowed : DispatchIntent → Prop}
    {c : Config Stores PyError (Option DispatchIntent)}
    (hv : ∀ intent, Allowed intent → intent.schemaVersion = "ge.dispatch-intent.v1")
    (h : Config.Reachable (Starts Allowed) (.initial .empty) c) : ReadAgain Allowed c where
  load intent hi c' hc := by
    have ⟨r, hr, he⟩ := hi
    have ⟨s, _, hs, hd⟩ := (sound hv h).returned r hr
    have ⟨state, hh⟩ := hd intent he
    have hk := hc.kept OutboxCall.discipline_mutual (starts_respects hv) (sound hv h)
    have ⟨state', hh', _⟩ := (hs.trans hk) _ _ hh
    exact ⟨state', by rw [DispatchIntentStore.load_run hh']⟩
  loadForRunner _ _ c' hc runnerId := by
    have ⟨states, hr, _⟩ :=
      DispatchIntentStore.loadForRunner_run (sound hv (h.trans hc)).inv runnerId
    exact ⟨states, by rw [hr]⟩
  recover _ _ c' hc runnerId := by
    have ⟨report, hr⟩ := recoverDispatchAfterRestart_run (sound hv (h.trans hc)).inv runnerId
    exact ⟨report, by rw [hr]⟩

-- The run of a single client that initializes the intent.
theorem exists_initialized (Allowed : DispatchIntent → Prop) (intent : DispatchIntent)
    (ha : Allowed intent) :
    ∃ c, Config.Reachable (Starts Allowed) (.initial .empty) c ∧ Initialized intent c ∧
      c.store.intent? intent.intentId = some (intentRow (initialDispatchState intent)) := by
  have ⟨s, hr, hw⟩ : ∃ s, (DispatchIntentStore.initializeIntent intent).run .empty =
      (.ok (initialDispatchState intent), s) ∧
      Stores.empty.WritesIntent s (initialDispatchState intent) :=
    DispatchIntentStore.initializeIntent_run rfl rfl
  let call : StoreCall (Option DispatchIntent) := perform (.initializeIntent intent)
  have hp : call.run Stores.empty = (.ok (some intent), s) :=
    Program.bind_run_ok.mpr ⟨_, s, hr, rfl⟩
  refine ⟨(Config.initial .empty).perform call, Config.reachable_perform
    ⟨.initializeIntent intent, ha, rfl⟩, ⟨⟨.ok (some intent), call.trace .empty⟩, ?_, rfl⟩, ?_⟩
  · simp [Config.perform, Config.initial, hp]
  · simp [Config.perform, Config.initial, hp, hw.intent, initialDispatchState]

-- Every run reads again what it has accepted exactly if it only accepts the schema that it reads.
theorem intents_readAgain_iff {Allowed : DispatchIntent → Prop} :
    (∀ c, Config.Reachable (Starts Allowed) (.initial .empty) c → ReadAgain Allowed c) ↔
      ∀ intent, Allowed intent → intent.schemaVersion = "ge.dispatch-intent.v1" := by
  constructor
  · intro h intent ha
    have ⟨c, hc, hi, hr⟩ := exists_initialized Allowed intent ha
    have ⟨state, hl⟩ := (h c hc).load intent hi c .refl
    exact DispatchIntentStore.load_run_version (Prod.ext hl rfl) hr
  · exact fun hv c hc => readAgain_of_version hv hc

-- An intent of another schema, which its constructor accepts.
def otherSchemaIntent : DispatchIntent where
  runnerId               := "runner-1"
  runnerCapabilityDigest := "capability-1"
  leaseId                := "lease-1"
  leaseDigest            := "lease-digest-1"
  slot                   := 0
  sessionId              := "session-1"
  logicalAttempt         := 1
  authorizationId        := "authorization-1"
  authorizationDigest    := "authorization-digest-1"
  invocationId           := "invocation-1"
  requestDigest          := "request-1"
  physicalAttempt        := 1
  capacityStateDigest    := "capacity-1"
  schemaVersion          := "ge.dispatch-intent.v2"
  hasAttempts            := by decide
  nonempty               := by decide

omit [Sha256] in
theorem otherSchemaIntent_hides_every_runner : let _ := Sha256.blind
    ∃ c, Config.Reachable (Starts fun _ => True) (.initial .empty) c ∧
      Initialized otherSchemaIntent c ∧
      (∀ state, ((DispatchIntentStore.load otherSchemaIntent.intentId).run c.store).1 ≠
        .ok state) ∧
      ∀ runnerId, (∀ states, ((DispatchIntentStore.loadForRunner runnerId).run c.store).1 ≠
          .ok states) ∧
        ∀ report, ((recoverDispatchAfterRestart runnerId).run c.store).1 ≠ .ok report := by
  intro _
  have hv : otherSchemaIntent.schemaVersion ≠ "ge.dispatch-intent.v1" := by decide
  have ⟨c, hc, hi, hr⟩ := exists_initialized (fun _ => True) otherSchemaIntent trivial
  refine ⟨c, hc, hi, fun state hl => ?_, fun runnerId => ⟨fun states hl => ?_, fun report hl => ?_⟩⟩
  · exact hv <| DispatchIntentStore.load_run_version (Prod.ext hl rfl) hr
  · exact hv <| DispatchIntentStore.loadForRunner_run_version (Prod.ext hl rfl) hr
  · have ⟨states, _, hl, _⟩ := Program.bind_run_ok.mp (Prod.ext hl rfl)
    exact hv <| DispatchIntentStore.loadForRunner_run_version hl hr

end GeneralExecution
