import GeneralExecution.Stores.Theorems.Observed

namespace GeneralExecution

variable [Sha256] {s s' s₁ s₂ : Stores} {state cur new : DispatchIntentState}
variable {intent : DispatchIntent} {outcome : PhysicalOutcomeBundle}
variable {record : DurableObservedOutcome} {row : ObservedOutcomeRow}
variable {id intentId expected outcomeJson : String}

-- The outcome row of an observed intent, and what it decodes to.
structure Stores.HoldsOutcome (s : Stores) (id : String) (state : DispatchIntentState)
    (row : ObservedOutcomeRow) (record : DurableObservedOutcome) : Prop where
  intent   : s.HoldsIntent id state
  observed : state.status = .observed
  stored   : s.outcome? id = some row
  decodes  : decodeOutcomeRow row state = .ok record
  written  : serializePhysicalOutcome record.outcome = .ok row.outcomeJson

-- Outcome rows and observed intents go together.
structure Stores.Lockstep (s : Stores) : Prop where
  rows     : s.IntentRows
  outcome  : ∀ id row, s.outcome? id = some row → ∃ state record, s.HoldsOutcome id state row record
  observed : ∀ id state, s.HoldsIntent id state → state.status = .observed →
    ∃ row, s.outcome? id = some row

-- Outcome rows are never taken back.
def Stores.OutcomesKept (s s' : Stores) : Prop :=
  ∀ id row, s.outcome? id = some row → s'.outcome? id = some row

theorem DispatchIntentState.Follows.not_observed (h : cur.Follows new) : cur.status ≠ .observed := by
  intro ho
  have hr := h.revision
  rw [cur.revision_eq, new.revision_eq, ho] at hr
  cases hn : new.status <;> simp [hn, DispatchStatus.ordinal] at hr

-- An observed intent stays as it is.
theorem Stores.IntentsAdvance.observed (h : s.IntentsAdvance s') (hs : s.HoldsIntent id state)
    (ho : state.status = .observed) : s'.HoldsIntent id state := by
  have ⟨state', hs', hf⟩ := h id state hs
  cases hf using Relation.ReflTransGen.head_induction_on
  case refl      => exact hs'
  case head hf _ => exact absurd ho hf.not_observed

namespace Stores

omit [Sha256] in
theorem OutcomesKept.refl : s.OutcomesKept s :=
  fun _ _ h => h

omit [Sha256] in
theorem OutcomesKept.trans (h : s.OutcomesKept s₁) (h' : s₁.OutcomesKept s₂) : s.OutcomesKept s₂ :=
  fun id row hr => h' id row (h id row hr)

omit [Sha256] in
theorem outcome?_of_outcomes (h : s'.observedOutcomes = s.observedOutcomes) (id : String) :
    s'.outcome? id = s.outcome? id := by
  rw [outcome?, outcome?, h]

omit [Sha256] in
theorem OutcomesKept.of_outcomes (h : s'.observedOutcomes = s.observedOutcomes) :
    s.OutcomesKept s' :=
  fun id _ hr => (outcome?_of_outcomes h id).trans hr

theorem HoldsOutcome.kept (h : s.HoldsOutcome id state row record) (hi : s.IntentsAdvance s')
    (ho : s.OutcomesKept s') : s'.HoldsOutcome id state row record :=
  { h with intent := hi.observed h.intent h.observed, stored := ho id row h.stored }

-- A step that leaves the outcomes alone and makes no intent observed keeps the rows together.
theorem Lockstep.step (h : s.Lockstep) (hr : s'.IntentRows) (hi : s.IntentsStep s')
    (ho : s'.observedOutcomes = s.observedOutcomes)
    (hn : ∀ id state, s'.HoldsIntent id state → state.status = .observed →
      s.HoldsIntent id state) : s'.Lockstep where
  rows := hr
  outcome id row hrow := by
    have ⟨state, record, hs⟩ := h.outcome id row ((outcome?_of_outcomes ho id).symm.trans hrow)
    exact ⟨state, record, hs.kept hi.advance (.of_outcomes ho)⟩
  observed id state hs hobs := by
    have ⟨row, hrow⟩ := h.observed id state (hn id state hs hobs) hobs
    exact ⟨row, (outcome?_of_outcomes ho id).trans hrow⟩

-- Writing a state that is not observed makes no intent observed.
theorem WritesIntent.not_observed (hw : s.WritesIntent s' new) (hn : new.status ≠ .observed)
    (h : s'.HoldsIntent id state) (ho : state.status = .observed) : s.HoldsIntent id state := by
  by_cases hi : id = new.intent.intentId
  case neg => exact (hw.holds_of_ne hi).mp h
  case pos =>
    have ⟨row, hr, hd⟩ := h
    rw [hw.intent, if_pos hi, Option.some.injEq] at hr
    obtain ⟨_, rfl⟩ := decodeIntentRow_intentRow.mp (hr ▸ hd)
    contradiction

theorem Lockstep.prepares (h : s.Lockstep) (hp : s.Prepares s' intent) : s'.Lockstep := by
  rcases hp.effect with ⟨_, rfl⟩ | ⟨_, hw⟩
  · exact h
  · exact h.step (hp.rows h.rows) hp.step hw.outcomes fun _ _ hs ho =>
      hw.not_observed (by simp [initialDispatchState]) hs ho

theorem Lockstep.moves (h : s.Lockstep) (hm : s.Moves s' cur new) (hn : new.status ≠ .observed) :
    s'.Lockstep :=
  h.step (h.rows.write hm.writes) (hm.step h.rows) hm.writes.outcomes fun _ _ hs ho =>
    hm.writes.not_observed hn hs ho

theorem Lockstep.of_heads (h : s.Lockstep) (hi : s'.dispatchIntents = s.dispatchIntents)
    (ho : s'.observedOutcomes = s.observedOutcomes) : s'.Lockstep := by
  have hn := intent?_of_intents hi
  refine h.step (fun id row hr => h.rows id row <| (hn id).symm.trans hr) (.of_intents hi) ho ?_
  exact fun id _ hs _ => hs.congr (hn id).symm

namespace Records

variable (h : s.Records s' cur record outcomeJson)

include h

theorem recordIntentId : record.intentId = cur.intent.intentId :=
  (durableRecord_eq_ok (decodeOutcomeRow_eq_ok.mp h.reads).right.left).right.intentId

theorem outcome_row (id : String) :
    s'.outcome? id = if id = cur.intent.intentId then some (observedRow record outcomeJson)
      else s.outcome? id :=
  h.recordIntentId ▸ DurableObservedOutcomeStore.outcome?_insert h.inserts id

theorem kept : s.OutcomesKept s' := by
  intro id row hr
  rw [h.outcome_row, if_neg, hr]
  rintro rfl
  rw [h.fresh] at hr
  contradiction

theorem step (hr : s.IntentRows) : s.IntentsStep s' :=
  let hs := h.moves.step hr
  { held id state hi := hs.held id state hi
    new id state hi  := hs.new id state hi }

theorem holds (hr : s.IntentRows) :
    s'.HoldsIntent cur.intent.intentId (observedState cur record.outcome) :=
  h.moves.writes.holds (h.moves.supported hr)

theorem holdsOutcome (hr : s.IntentRows)
    (hj : serializePhysicalOutcome record.outcome = .ok outcomeJson) :
    s'.HoldsOutcome cur.intent.intentId (observedState cur record.outcome)
      (observedRow record outcomeJson) record :=
  ⟨h.holds hr, rfl, (h.outcome_row _).trans <| if_pos rfl, h.reads, hj⟩

theorem lockstep (hl : s.Lockstep)
    (hj : serializePhysicalOutcome record.outcome = .ok outcomeJson) : s'.Lockstep where
  rows id row hi := (hl.rows.write h.moves.writes) id row hi
  outcome id row hr := by
    rw [h.outcome_row] at hr
    split at hr
    case isTrue hid =>
      obtain rfl := Option.some.inj hr
      exact ⟨_, _, hid ▸ h.holdsOutcome hl.rows hj⟩
    case isFalse =>
      have ⟨state, record', ho⟩ := hl.outcome id row hr
      exact ⟨state, record', ho.kept (h.step hl.rows).advance h.kept⟩
  observed id state hs ho := by
    by_cases hid : id = cur.intent.intentId
    case pos => exact ⟨_, (h.outcome_row id).trans <| if_pos hid⟩
    case neg =>
      have hs' : s.HoldsIntent id state := (h.moves.writes.holds_of_ne hid).mp hs
      have ⟨row, hr⟩ := hl.observed id state hs' ho
      exact ⟨row, h.kept id row hr⟩

end Records

end Stores

namespace DurableObservedOutcomeStore

variable {spec : ExecutionSpec} {registry : RunnerRegistry} {plan : DispatchPlan}
variable {session : ExecutionSession} {runner : RunnerCapabilities}
variable {D : Discipline Stores} {made : List (Stores × Stores)}

-- Either way in which an outcome's being recorded succeeds.
inductive Accepts (s s' : Stores) (intentId expected : String) (outcome : PhysicalOutcomeBundle)
    (outcomeJson : String) : DispatchIntentState → Prop
  | again {st : DispatchIntentState} {rec : DurableObservedOutcome} {r : ObservedOutcomeRow} :
    s.Recorded st expected rec r → rec.outcome = outcome → r.outcomeJson = outcomeJson →
      s' = s → st.intent.intentId = intentId →
        Accepts s s' intentId expected outcome outcomeJson st
  | new {st : DispatchIntentState} {rec : DurableObservedOutcome} :
    s.Records s' st rec outcomeJson → st.digest = expected → rec.outcome = outcome →
      st.intent.intentId = intentId →
        Accepts s s' intentId expected outcome outcomeJson (observedState st outcome)

theorem recordStatements_accepts
    (h : recordStatements intentId expected outcome outcomeJson s = .ok (state, s')) :
    Accepts s s' intentId expected outcome outcomeJson state := by
  rcases recordStatements_eq_ok h with ⟨_, _, h₁, h₂, h₃, h₄, h₅⟩ | ⟨_, _, h₁, h₂, h₃, rfl, h₄⟩
  · exact .again h₁ h₂ h₃ h₄ h₅
  · exact .new h₁ h₂ h₃ h₄

theorem recordObserved_respects
    {post : List (Stores × Stores) → Py DispatchIntentState → Stores → Prop}
    (ho : ∀ s₁ s₂ state outcomeJson, D.inv s₁ → D.rely s s₁ →
      verifyPhysicalOutcome spec registry plan session runner outcome = true →
      serializePhysicalOutcome outcome = .ok outcomeJson →
      Accepts s₁ s₂ intentId expected outcome outcomeJson state →
        D.inv s₂ ∧ D.guar s₁ s₂ ∧ ∀ s₃, D.inv s₃ → D.rely s₂ s₃ →
          post (made ++ [(s₁, s₂)]) (.ok state) s₃)
    (he : ∀ made' e s₁, Quiet made made' → D.inv s₁ → D.rely s s₁ → post made' (.error e) s₁) :
    (recordObserved intentId expected spec registry plan session runner outcome).Respects
      D post made s := by
  refine .lift_bind (fun _ hv => ?_) fun e s₁ _ hi hg => he _ e s₁ .refl hi hg
  refine .lift_bind (fun outcomeJson hj => ?_) fun e s₁ _ hi hg => he _ e s₁ .refl hi hg
  refine .tryCatch <| .transaction (fun s₁ s₂ state hi hg hc => ?_) fun s₁ s₂ e hi hg _ hi' hg' => ?_
  · exact ho s₁ s₂ state outcomeJson hi hg (Py.require_eq_ok.mp hv) hj (recordStatements_accepts hc)
  · exact fun s₃ hi₃ hg₃ => he _ _ s₃ (.single s₁) hi₃ (D.trans hg <| D.trans hg' hg₃)

-- What a call that runs alone does.
def RecordDone (s : Stores) (intentId expected : String) (outcome : PhysicalOutcomeBundle)
    (r : Py DispatchIntentState) (s' : Stores) : Prop :=
  match r with
  | .error _  => s' = s
  | .ok state => ∃ outcomeJson, serializePhysicalOutcome outcome = .ok outcomeJson ∧
    Accepts s s' intentId expected outcome outcomeJson state

theorem recordObserved_run {r : Py DispatchIntentState}
    (h : (recordObserved intentId expected spec registry plan session runner outcome).run s =
      (r, s')) : RecordDone s intentId expected outcome r s' := by
  have hr : (recordObserved intentId expected spec registry plan session runner outcome).Respects
      (.alone fun _ => True) (fun _ r s' => RecordDone s intentId expected outcome r s') [] s := by
    refine recordObserved_respects (fun s₁ s₂ state outcomeJson _ hs _ hj ha => ?_)
      fun _ _ s₁ _ _ hs => Eq.symm hs
    obtain rfl : s = s₁ := hs
    refine ⟨trivial, trivial, fun s₃ _ hs => ?_⟩
    obtain rfl : s₂ = s₃ := hs
    exact ⟨outcomeJson, hj, ha⟩
  simpa [h] using (hr.run trivial).right

theorem recordObserved_run_ok
    (hv : verifyPhysicalOutcome spec registry plan session runner outcome = true)
    (hj : serializePhysicalOutcome outcome = .ok outcomeJson)
    (hs : recordStatements intentId expected outcome outcomeJson s = .ok (state, s')) :
    (recordObserved intentId expected spec registry plan session runner outcome).run s =
      (.ok state, s') := by
  have ht : (Program.transaction
      (recordStatements intentId expected outcome outcomeJson)).run s = (.ok state, s') :=
    Program.transaction_run_ok.mpr hs
  simp only [recordObserved, Program.bind_run_ok, Program.lift_run, Prod.mk.injEq,
    Py.require_eq_ok]
  refine ⟨(), s, ⟨hv, rfl⟩, outcomeJson, s, ⟨hj, rfl⟩, ?_⟩
  rw [Program.tryCatch_run, ht]

end DurableObservedOutcomeStore

-- Any number of clients of one store of observed outcomes, and of the capacity heads that it
-- consults.
inductive ObservedCall
  | initializeIntent (intent : DispatchIntent)
  | beginSubmission (intentId expected : String) (runner : RunnerCapabilities)
  | recordObserved (intentId expected : String) (spec : ExecutionSpec) (registry : RunnerRegistry)
      (plan : DispatchPlan) (session : ExecutionSession) (runner : RunnerCapabilities)
      (outcome : PhysicalOutcomeBundle)
  | heads (call : HeadCall)

namespace ObservedCall

open DispatchIntentStore DurableObservedOutcomeStore

-- A call, returning its arguments along with the state that it returns.
def perform (call : ObservedCall) : StoreCall (ObservedCall × Option DispatchIntentState) := do
  match call with
  | .initializeIntent intent => return (call, some (← DispatchIntentStore.initializeIntent intent))
  | .beginSubmission intentId expected runner =>
    return (call, some (← DispatchIntentStore.beginSubmission intentId expected runner).1)
  | .recordObserved intentId expected spec registry plan session runner outcome =>
    return (call, some (← DurableObservedOutcomeStore.recordObserved intentId expected spec registry
      plan session runner outcome))
  | .heads headCall =>
    let _ ← headCall.perform
    return (call, none)

def Starts (p : StoreCall (ObservedCall × Option DispatchIntentState)) : Prop :=
  ∃ call, p = perform call

def discipline : Discipline Stores where
  inv          := Stores.Lockstep
  rely s s'    := s.IntentsAdvance s' ∧ s.OutcomesKept s'
  guar s s'    := s.IntentsStep s' ∧ s.OutcomesKept s'
  refl _       := ⟨.refl, .refl⟩
  trans h h'   := ⟨h.left.trans h'.left, h.right.trans h'.right⟩
  idle _       := ⟨.refl, .refl⟩

theorem discipline_mutual : discipline.Mutual :=
  fun _ _ h => ⟨h.left.advance, h.right⟩

-- What a call has done when it returns, and what is still so at `s`.
def Done (made : List (Stores × Stores))
    (result : Py (ObservedCall × Option DispatchIntentState)) (s : Stores) : Prop :=
  match result with
  | .error _ => ∀ m ∈ made, m.2 = m.1
  | .ok (.recordObserved intentId _ spec registry plan session runner outcome, some state) =>
    verifyPhysicalOutcome spec registry plan session runner outcome = true ∧
      ∃ row record, s.HoldsOutcome intentId state row record ∧ record.outcome = outcome
  | .ok _ => True

theorem accepts_kept (hl : s.Lockstep) (hj : serializePhysicalOutcome outcome = .ok outcomeJson)
    (h : Accepts s s' intentId expected outcome outcomeJson state) :
    s'.Lockstep ∧ (s.IntentsStep s' ∧ s.OutcomesKept s') ∧
      ∃ row record, s'.HoldsOutcome intentId state row record ∧ record.outcome = outcome := by
  rcases h with ⟨h, ho, hrow, hs, hid⟩ | ⟨h, _, ho, hid⟩
  · subst hs ho hrow hid
    exact ⟨hl, ⟨.refl, .refl⟩, _, _, ⟨h.current, h.observed, h.outcome, h.decodes, hj⟩, rfl⟩
  · subst ho hid
    exact ⟨h.lockstep hl hj, ⟨h.step hl.rows, h.kept⟩, _, _, h.holdsOutcome hl.rows hj, rfl⟩

theorem perform_respects (call : ObservedCall) (s : Stores) :
    (perform call).Respects discipline Done [] s := by
  cases call
  case initializeIntent intent =>
    refine .bind <| initializeIntent_respects (fun s₁ s₂ hi hg h => ?_) fun made e s₁ hq hi hg =>
      hq.of_nil
    have ho : s₂.observedOutcomes = s₁.observedOutcomes := by
      rcases h.effect with ⟨_, rfl⟩ | ⟨_, hw⟩
      · rfl
      · exact hw.outcomes
    exact ⟨hi.prepares h, ⟨h.step, .of_outcomes ho⟩, fun _ _ _ _ _ _ => trivial⟩
  case beginSubmission intentId expected runner =>
    refine .bind <| beginSubmission_respects (fun made s₁ s₂ cur permit hq hi hg h hp => ?_)
      fun made e s₁ hq hi hg => hq.of_nil
    exact ⟨hi.moves h.moves (by simp [submissionUnknownState]),
      ⟨h.moves.step hi.rows, .of_outcomes h.moves.writes.outcomes⟩, fun _ _ _ _ _ _ => trivial⟩
  case recordObserved intentId expected spec registry plan session runner outcome =>
    refine .bind <| recordObserved_respects (fun s₁ s₂ state outcomeJson hi hg hv hj h => ?_)
      fun made e s₁ hq hi hg => hq.of_nil
    obtain ⟨hl, hgu, row, record, ho, hro⟩ := accepts_kept hi hj h
    refine ⟨hl, hgu, fun s₃ _ hg₃ s₄ _ hg₄ => ?_⟩
    have hk := discipline.trans hg₃ hg₄
    exact ⟨hv, row, record, ho.kept hk.left hk.right, hro⟩
  case heads headCall =>
    refine .bind <| headCall.perform_frame (fun s₁ s₂ hi h h' _ => ?_)
      (fun _ _ _ _ _ _ _ => trivial) fun made e s₁ hq hi hg => hq.of_nil
    exact ⟨hi.of_heads h h', .of_intents h, .of_outcomes h'⟩

theorem starts_respects (p : StoreCall (ObservedCall × Option DispatchIntentState)) (hp : Starts p)
    (s : Stores) (_ : discipline.inv s) : p.Respects discipline Done [] s := by
  obtain ⟨call, rfl⟩ := hp
  exact call.perform_respects s

theorem lockstep_empty : Stores.empty.Lockstep := by
  constructor <;> simp [Stores.IntentRows, Stores.HoldsIntent, Stores.empty, Stores.intent?,
    Stores.outcome?]

variable {c : Config Stores PyError (ObservedCall × Option DispatchIntentState)}

theorem sound (h : Config.Reachable Starts (.initial .empty) c) :
    c.Sound discipline Done .empty :=
  h.sound discipline_mutual starts_respects lockstep_empty

end ObservedCall

-- The columns of an outcome's row say what the state of its intent says.
structure ObservedOutcomeRow.Agrees (row : ObservedOutcomeRow) (state : DispatchIntentState) :
    Prop where
  dispatchStateDigest : row.dispatchStateDigest = state.digest
  outcomeDigest       : state.outcomeDigest = some row.outcomeDigest
  observationDigest   : state.observationDigest = some row.observationDigest
  receiptDigest       : state.receiptDigest = some row.receiptDigest
  leaseDigest         : row.leaseDigest = state.intent.leaseDigest
  authorizationDigest : row.authorizationDigest = state.intent.authorizationDigest
  requestDigest       : row.requestDigest = state.intent.requestDigest
  transportStatus     : state.transportStatus.map PyLiteral.spelling = some row.transportStatus

theorem decodeOutcomeRow_agrees (h : decodeOutcomeRow row state = .ok record) :
    row.Agrees state := by
  have ⟨_, hr, hrow⟩ := decodeOutcomeRow_eq_ok.mp h
  have ⟨_, hs⟩ := durableRecord_eq_ok hr
  have hv := hs.verified
  simp only [verifyOutcomeAgainstDispatch, decide_eq_true_eq] at hv
  obtain ⟨_, _, _, _, _, _, _, _, _, _, _, ho, hd, hc, ht⟩ := hv
  obtain ⟨_, _, _, _, _, _, hdo, hdd, hdc, hdt⟩ := record.describes
  rw [hrow]
  exact {
    dispatchStateDigest := hs.dispatchStateDigest
    outcomeDigest       := hc.trans <| congrArg some hdo.symm
    observationDigest   := ho.trans <| congrArg some hdd.symm
    receiptDigest       := hd.trans <| congrArg some hdc.symm
    leaseDigest         := hs.leaseDigest
    authorizationDigest := hs.authorizationDigest
    requestDigest       := hs.requestDigest
    transportStatus     := by rw [ht, ← hdt]; rfl }

-- What holds of the outcomes of one store in any run of its clients.
structure OutcomesAtomic
    (c : Config Stores PyError (ObservedCall × Option DispatchIntentState)) : Prop where
  lockstep : ∀ id, (∃ row, c.store.outcome? id = some row) ↔
    ∃ state, c.store.HoldsIntent id state ∧ state.status = .observed
  decodes : ∀ id row state, c.store.outcome? id = some row → c.store.HoldsIntent id state →
    row.Agrees state ∧ ∃ record, decodeOutcomeRow row state = .ok record
  recorded : ∀ intentId expected spec registry plan session runner outcome state s',
    (DurableObservedOutcomeStore.recordObserved intentId expected spec registry plan session runner
      outcome).run c.store = (.ok state, s') →
        ∃ row record, s'.HoldsOutcome intentId state row record ∧ record.outcome = outcome
  returned : ∀ intentId expected spec registry plan session runner outcome state made,
    ⟨.ok (.recordObserved intentId expected spec registry plan session runner outcome, some state),
      made⟩ ∈ c.returned →
        verifyPhysicalOutcome spec registry plan session runner outcome = true ∧
          ∃ row record, c.store.HoldsOutcome intentId state row record ∧ record.outcome = outcome
  repeated : ∀ id state row record, c.store.HoldsOutcome id state row record →
    ∀ expected, expected = state.digest ∨ some expected = state.previousStateDigest →
    ∀ spec registry plan session runner,
      verifyPhysicalOutcome spec registry plan session runner record.outcome = true →
        (DurableObservedOutcomeStore.recordObserved id expected spec registry plan session runner
          record.outcome).run c.store = (.ok state, c.store)
  different : ∀ id state row record, c.store.HoldsOutcome id state row record →
    ∀ expected spec registry plan session runner outcome, outcome ≠ record.outcome →
      ∃ e, (DurableObservedOutcomeStore.recordObserved id expected spec registry plan session runner
        outcome).run c.store = (.error e, c.store)
  raised : ∀ e made, ⟨.error e, made⟩ ∈ c.returned → ∀ m ∈ made, m.2 = m.1

namespace Stores.HoldsOutcome

variable {spec : ExecutionSpec} {registry : RunnerRegistry} {plan : DispatchPlan}
variable {session : ExecutionSession} {runner : RunnerCapabilities}

open DurableObservedOutcomeStore

theorem repeated (h : s.HoldsOutcome id state row record)
    (he : expected = state.digest ∨ some expected = state.previousStateDigest)
    (hv : verifyPhysicalOutcome spec registry plan session runner record.outcome = true) :
    (recordObserved id expected spec registry plan session runner record.outcome).run s =
      (.ok state, s) := by
  obtain rfl := h.intent.intentId
  exact recordObserved_run_ok hv h.written <|
    recordStatements_of_observed ⟨h.intent, h.observed, he, h.stored, h.decodes⟩

theorem unique {st st' : DispatchIntentState} {r r' : ObservedOutcomeRow}
    {rec rec' : DurableObservedOutcome} (h : s.HoldsOutcome id st r rec)
    (h' : s.HoldsOutcome id st' r' rec') : rec = rec' := by
  obtain rfl := h.intent.unique h'.intent
  obtain rfl := Option.some.inj <| h.stored.symm.trans h'.stored
  exact Except.ok.inj <| h.decodes.symm.trans h'.decodes

-- Nothing but the outcome that an intent is observed with is accepted for it.
theorem different (hl : s.Lockstep) (h : s.HoldsOutcome id state row record)
    (ho : outcome ≠ record.outcome) :
    ∃ e, (recordObserved id expected spec registry plan session runner outcome).run s =
      (.error e, s) := by
  cases hr : (recordObserved id expected spec registry plan session runner outcome).run s
  case mk result s' =>
    have hd := recordObserved_run hr
    cases result
    case error e => exact ⟨e, hd ▸ rfl⟩
    case ok st =>
      have ⟨_, hj, ha⟩ := hd
      have ⟨_, ⟨hi, hk⟩, row', record', ho', hro⟩ := ObservedCall.accepts_kept hl hj ha
      have he := (h.kept hi.advance hk).unique ho'
      exact absurd (hro.symm.trans <| congrArg _ he.symm) ho

end Stores.HoldsOutcome

theorem outcomes_atomic {c : Config Stores PyError (ObservedCall × Option DispatchIntentState)}
    (h : Config.Reachable ObservedCall.Starts (.initial .empty) c) : OutcomesAtomic c where
  lockstep id := by
    have hl := (ObservedCall.sound h).inv
    constructor
    · rintro ⟨row, hr⟩
      have ⟨state, _, ho⟩ := hl.outcome id row hr
      exact ⟨state, ho.intent, ho.observed⟩
    · rintro ⟨state, hs, ho⟩
      exact hl.observed id state hs ho
  decodes id row state hr hs := by
    have ⟨state', record, ho⟩ := (ObservedCall.sound h).inv.outcome id row hr
    obtain rfl := hs.unique ho.intent
    exact ⟨decodeOutcomeRow_agrees ho.decodes, record, ho.decodes⟩
  recorded intentId expected spec registry plan session runner outcome state s' hr := by
    have ⟨_, hj, ha⟩ := DurableObservedOutcomeStore.recordObserved_run hr
    exact (ObservedCall.accepts_kept (ObservedCall.sound h).inv hj ha).right.right
  returned intentId expected spec registry plan session runner outcome state made hr := by
    have ⟨s', _, hg, hv, row, record, ho, hro⟩ := (ObservedCall.sound h).returned _ hr
    exact ⟨hv, row, record, ho.kept hg.left hg.right, hro⟩
  repeated _ _ _ _ ho _ he _ _ _ _ _ hv := ho.repeated he hv
  different _ _ _ _ ho _ _ _ _ _ _ _ hn := ho.different (ObservedCall.sound h).inv hn
  raised e made hr := by
    have ⟨_, _, _, hd⟩ := (ObservedCall.sound h).returned _ hr
    exact hd

-- The same submission by clients of any store that makes these calls among others.
theorem FirstSubmission.runOf {α : Type} {Starts : StoreCall α → Prop}
    {runner : RunnerCapabilities} {request : AdapterDispatchRequest} {permit : DispatchPermit}
    {s₃ : Stores} (h : FirstSubmission runner request intent permit s₁ s₂ s₃ s)
    (call : ObservedCall → StoreCall α) (hs : ∀ oc, Starts (call oc))
    (hr : ∀ oc s, ((call oc).run s).2 = (oc.perform.run s).2) :
    ∃ c, Config.Reachable Starts (.initial .empty) c ∧ c.store = s := by
  have hrun : ∀ {oc : ObservedCall} {t t' : Stores} {r : ObservedCall × Option DispatchIntentState},
      oc.perform.run t = (.ok r, t') → (call oc).run t = (((call oc).run t).1, t') :=
    fun {oc t t' r} ho => Prod.ext rfl <| (hr oc t).trans <| congrArg Prod.snd ho
  have ⟨_, hg⟩ := h.genesis
  have ⟨_, hc⟩ := h.reserved
  have h₁ : ∃ c, Config.Reachable Starts (.initial .empty) c ∧ c.store = s₁ :=
    Config.Reachable.perform ⟨_, .refl, rfl⟩ (hs (.heads (.initializeHead _ _))) <| hrun <|
      Program.bind_run_ok.mpr ⟨_, _, Program.bind_run_ok.mpr ⟨_, _, hg, rfl⟩, rfl⟩
  have h₂ := Config.Reachable.perform h₁ (hs (.heads (.commit _ _ _))) <| hrun <|
    Program.bind_run_ok.mpr ⟨_, _, Program.bind_run_ok.mpr ⟨_, _, hc, rfl⟩, rfl⟩
  have h₃ := Config.Reachable.perform h₂ (hs (.initializeIntent _)) <| hrun <|
    Program.bind_run_ok.mpr ⟨_, _, h.initialized, rfl⟩
  exact Config.Reachable.perform h₃ (hs (.beginSubmission _ _ _)) <| hrun <|
    Program.bind_run_ok.mpr ⟨_, _, h.submitted, rfl⟩

theorem FirstSubmission.observedRun {runner : RunnerCapabilities} {request : AdapterDispatchRequest}
    {permit : DispatchPermit} {s₃ : Stores}
    (h : FirstSubmission runner request intent permit s₁ s₂ s₃ s) :
    ∃ c, Config.Reachable ObservedCall.Starts (.initial .empty) c ∧ c.store = s :=
  h.runOf ObservedCall.perform (fun oc => ⟨oc, rfl⟩) fun _ _ => rfl

omit [Sha256] in
theorem outcomes_atomic_first : let _ := Sha256.blind
    ∃ c, Config.Reachable ObservedCall.Starts (.initial .empty) c ∧
      (∃ id state, c.store.HoldsIntent id state ∧ state.status = .submissionUnknown) ∧
      OutcomesAtomic c := by
  intro _
  have ⟨_, _, _, _, _, _, h⟩ :=
    exists_firstSubmission (referenceRequest "gei-1" (by decide)) requestOf_verified
  have ⟨c, hc, hs⟩ := h.observedRun
  exact ⟨c, hc, ⟨_, _, hs ▸ h.holds, rfl⟩, outcomes_atomic hc⟩

end GeneralExecution
