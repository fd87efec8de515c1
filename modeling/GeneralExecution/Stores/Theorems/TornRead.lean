import GeneralExecution.Objects.Theorems.Codec
import GeneralExecution.Stores.Theorems.Recordable
import GeneralExecution.Stores.Theorems.Release

namespace GeneralExecution

variable [Sha256] {s s' s₁ s₂ : Stores} {state : DispatchIntentState}
variable {record : DurableObservedOutcome} {id : String}

-- The two ways in which a store without an outcome for an intent is reported.
def NoOutcome (e : PyError) : Prop :=
  e = ⟨.dispatchIntentError, "durable dispatch intent does not exist"⟩ ∨
    e = ⟨.dispatchIntentError, "dispatch intent has no observed physical outcome"⟩

omit [Sha256] in
theorem intentFromDict_unsupported {i : DispatchIntent}
    (h : i.schemaVersion ≠ "ge.dispatch-intent.v1") :
    intentFromDict (normalize (toPy i)) =
      .error ⟨.dispatchIntentError, "unsupported dispatch intent schema"⟩ := by
  have hd : distinctKeys (asdict i) = true := rfl
  have hobj : (normalize (.dict (asdict i))).isObj = true := rfl
  change intentFromDict (normalize (.dict (asdict i))) = _
  simp only [intentFromDict, Py.require, Except.ensure, Field.hasSchema, normalize_get? hd, hobj]
  simp [asdict, Json.lookup, h]

-- A row whose schema is not supported is reported as such.
theorem decodeIntentRow_unsupported (h : ¬state.Supported) :
    ∃ e, decodeIntentRow (intentRow state) = .error e ∧ ¬NoOutcome e := by
  have hd : distinctKeys (asdict state) = true := rfl
  have hobj : (normalize (.dict (asdict state))).isObj = true := rfl
  have hobj' : (normalize (toPy state.intent)).isObj = true := rfl
  simp only [decodeIntentRow, deserializeDispatchState, serializeDispatchState, intentRow]
  rw [loads_canonicalJson]
  change ∃ e, (dispatchStateFromDict (normalize (.dict (asdict state))) >>= _) = _ ∧ _
  simp only [dispatchStateFromDict, Py.require, Except.ensure, Field.hasSchema, normalize_get? hd,
    hobj]
  by_cases hv : state.schemaVersion = "ge.dispatch-intent-state.v1"
  case neg =>
    simp only [asdict, Json.lookup]
    simp [hv, NoOutcome]
  case pos =>
    have hi := intentFromDict_unsupported fun hi => h ⟨hv, hi⟩
    simp [asdict, Json.lookup, hv, Option.filter, hobj', hi, Py.ofOption, Except.ofOption, NoOutcome]

namespace DurableObservedOutcomeStore

variable {D : Discipline Stores} {made : List (Stores × Stores)}

-- The two reads of a load, and what they come to.
theorem loadObservedOutcome_reads
    {post : List (Stores × Stores) → Py DurableObservedOutcome → Stores → Prop}
    (hn : ∀ s₁ s₂, D.inv s₁ → D.rely s s₁ → D.rely s₁ s₂ → s₁.intent? id = none →
      post (made ++ [(s₁, s₁)])
        (.error ⟨.dispatchIntentError, "durable dispatch intent does not exist"⟩) s₂)
    (hd : ∀ s₁ s₂ row e, D.inv s₁ → D.rely s s₁ → D.rely s₁ s₂ → s₁.intent? id = some row →
      decodeIntentRow row = .error e → post (made ++ [(s₁, s₁)]) (.error e) s₂)
    (ho : ∀ s₁ s₂ s₃ state, D.inv s₁ → D.rely s s₁ → D.inv s₂ → D.rely s₁ s₂ → D.rely s₂ s₃ →
      s₁.HoldsIntent id state →
      post (made ++ [(s₁, s₁), (s₂, s₂)]) (loadedOutcome state (s₂.outcome? id)) s₃) :
    (loadObservedOutcome id).Respects D post made s := by
  refine .bind <| StoreCall.query_respects fun s₁ s₁' hi hg _ hg' => ?_
  cases hr : s₁.intent? id
  case none =>
    exact .lift_bind (fun _ h => by simp at h) fun e s₂ he _ hg₂ => by
      obtain rfl := Except.error.inj he
      exact hn s₁ s₂ hi hg (D.trans hg' hg₂) hr
  case some row =>
    refine .lift_bind (fun row' h => ?_) fun e s₂ he _ _ => nomatch he
    obtain rfl := Option.some.inj <| Py.ofOption_eq_ok.mp h
    refine .lift_bind (fun state hs => ?_) fun e s₂ he _ hg₂ =>
      hd s₁ s₂ row e hi hg (D.trans hg' hg₂) hr he
    refine .bind <| StoreCall.query_respects fun s₂ s₂' hi₂ hg₂ _ hg₂' => ?_
    refine Program.Respects.lift fun s₃ _ hg₃ => ?_
    have := ho s₁ s₂ s₃ state hi hg hi₂ (D.trans hg' hg₂) (D.trans hg₂' hg₃) ⟨row, hr, hs⟩
    simpa using this

theorem loadedOutcome_of_unobserved (h : state.status ≠ .observed)
    (row? : Option ObservedOutcomeRow) :
    loadedOutcome state row? = .error ⟨.dispatchIntentError,
      if row?.isSome then "non-observed dispatch state has durable outcome bytes"
      else "dispatch intent has no observed physical outcome"⟩ := by
  simp [loadedOutcome, Py.require, Except.ensure, h]

end DurableObservedOutcomeStore

theorem Stores.IntentRows.supported_row {row : DispatchIntentRow} (h : s.IntentRows)
    (hs : s.HoldsIntent id state) (hr : s.intent? id = some row) :
    ∃ state, state.Supported ∧ row = intentRow state := by
  obtain ⟨state', rfl⟩ := h id row hr
  have ⟨row', hr', hd⟩ := hs
  obtain rfl := Option.some.inj <| hr.symm.trans hr'
  exact ⟨state', (decodeIntentRow_intentRow.mp hd).left, rfl⟩

-- An intent that is not observed has no outcome.
theorem Stores.Lockstep.outcome?_of_unobserved (h : s.Lockstep) (hs : s.HoldsIntent id state)
    (hn : state.status ≠ .observed) : s.outcome? id = none := by
  cases hr : s.outcome? id
  case none => rfl
  case some row =>
    have ⟨state', _, ho⟩ := h.outcome id row hr
    obtain rfl := hs.unique ho.intent
    exact absurd ho.observed hn

theorem Stores.Lockstep.holdsOutcome (h : s.Lockstep) (hs : s.HoldsIntent id state)
    (ho : state.status = .observed) : ∃ row record, s.HoldsOutcome id state row record := by
  have ⟨row, hr⟩ := h.observed id state hs ho
  have ⟨state', record, hh⟩ := h.outcome id row hr
  obtain rfl := hs.unique hh.intent
  exact ⟨row, record, hh⟩

-- The accesses of a load find the intent with a schema that is supported, and no outcome of it is
-- committed between them.
structure Untorn (id : String) (made : List (Stores × Stores)) : Prop where
  supported : ∀ m ∈ made, ∀ row, m.1.intent? id = some row →
    ∃ state, state.Supported ∧ row = intentRow state
  settled   : ∀ m ∈ made, ∀ m' ∈ made, m.1.outcome? id = m'.1.outcome? id

-- The answer is the record that the store holds, or that there is none.
def Answered (s : Stores) (id : String) : Py DurableObservedOutcome → Prop
  | .ok record => ∃ state row, s.HoldsOutcome id state row record
  | .error e   => NoOutcome e

-- The writers of one store of observed outcomes, and clients that load what these have written.
inductive LoadCall
  | stores (call : ObservedCall)
  | load (intentId : String)

namespace LoadCall

open DurableObservedOutcomeStore

-- A call, returning what a load has answered, be it a record or an error.
def perform : LoadCall → StoreCall (Option (String × Py DurableObservedOutcome))
  | .stores call   => do
    let _ ← call.perform
    return none
  | .load intentId => do
    return some (intentId, ← (loadObservedOutcome intentId).attempt)

def Starts (p : StoreCall (Option (String × Py DurableObservedOutcome))) : Prop :=
  ∃ call, p = perform call

-- What a load has answered when it returns, and what is still so at `s`.
def Done (made : List (Stores × Stores))
    (result : Py (Option (String × Py DurableObservedOutcome))) (s : Stores) : Prop :=
  ∀ id answer, result = .ok (some (id, answer)) →
    (Answered s id answer ↔ Untorn id made) ∧ ∀ record, answer = .ok record → Answered s id answer

theorem done_some {made : List (Stores × Stores)} {answer : Py DurableObservedOutcome}
    (h : Answered s id answer ↔ Untorn id made)
    (ho : ∀ record, answer = .ok record → Answered s id answer) :
    Done made (.ok (some (id, answer))) s := by
  intro id' answer' he
  obtain ⟨rfl, rfl⟩ := Prod.mk.inj <| Option.some.inj <| Except.ok.inj he
  exact ⟨h, ho⟩

theorem done_absent (hn : s₁.intent? id = none) :
    Done [(s₁, s₁)]
      (.ok (some (id, .error ⟨.dispatchIntentError, "durable dispatch intent does not exist"⟩))) s := by
  refine done_some ⟨fun _ => ⟨?_, ?_⟩, fun _ => .inl rfl⟩ fun _ he => by cases he
  · simp [hn]
  · simp

theorem done_unsupported {row : DispatchIntentRow} {e : PyError} (hl : s₁.Lockstep)
    (hr : s₁.intent? id = some row) (hd : decodeIntentRow row = .error e) :
    Done [(s₁, s₁)] (.ok (some (id, .error e))) s := by
  refine done_some ⟨fun ha => ?_, fun hu => ?_⟩ fun _ he => by cases he
  · obtain ⟨state, rfl⟩ := hl.rows id row hr
    have hs : ¬state.Supported := by
      intro hs
      rw [decodeIntentRow_intentRow.mpr ⟨hs, rfl⟩] at hd
      contradiction
    have ⟨e', he', hn⟩ := decodeIntentRow_unsupported hs
    obtain rfl := Except.error.inj <| hd.symm.trans he'
    exact absurd ha hn
  · have ⟨state, hs, he⟩ := hu.supported _ (List.mem_singleton_self _) row hr
    rw [he, decodeIntentRow_intentRow.mpr ⟨hs, rfl⟩] at hd
    contradiction

theorem done_loaded {s₃ : Stores} (hl : s₁.Lockstep) (hl₂ : s₂.Lockstep)
    (hr : ObservedCall.discipline.rely s₁ s₂) (hr₃ : ObservedCall.discipline.rely s₂ s₃)
    (hs : s₁.HoldsIntent id state) :
    Done [(s₁, s₁), (s₂, s₂)] (.ok (some (id, loadedOutcome state (s₂.outcome? id)))) s₃ := by
  have hsup : ∀ m ∈ [(s₁, s₁), (s₂, s₂)], ∀ row, m.1.intent? id = some row →
      ∃ state, state.Supported ∧ row = intentRow state := by
    obtain ⟨state₂, hs₂, _⟩ := hr.left id state hs
    simp only [List.mem_cons, List.not_mem_nil, or_false, forall_eq_or_imp, forall_eq]
    exact ⟨fun row => hl.rows.supported_row hs, fun row => hl₂.rows.supported_row hs₂⟩
  by_cases ho : state.status = .observed
  case pos =>
    obtain ⟨row, record, hh⟩ := hl.holdsOutcome hs ho
    have hh₂ := hh.kept hr.left hr.right
    have hload : loadedOutcome state (s₂.outcome? id) = .ok record :=
      loadedOutcome_eq_ok.mpr ⟨ho, row, hh₂.stored, hh.decodes⟩
    have ha : Answered s₃ id (loadedOutcome state (s₂.outcome? id)) := by
      rw [hload]
      exact ⟨state, row, hh₂.kept hr₃.left hr₃.right⟩
    refine done_some ⟨fun _ => ⟨hsup, ?_⟩, fun _ => ha⟩ fun _ _ => ha
    simp [hh.stored, hh₂.stored]
  case neg =>
    have hn := hl.outcome?_of_unobserved hs ho
    rw [loadedOutcome_of_unobserved ho]
    refine done_some ⟨fun ha => ⟨hsup, ?_⟩, fun hu => ?_⟩ fun _ he => by cases he
    · cases hr₂ : s₂.outcome? id
      case none     => simp [hn, hr₂]
      case some row => simp [Answered, NoOutcome, hr₂] at ha
    · have he := hu.settled (s₁, s₁) (by simp) (s₂, s₂) (by simp)
      rw [← he, hn]
      exact .inr rfl

theorem perform_respects (call : LoadCall) (s : Stores) :
    (perform call).Respects ObservedCall.discipline Done [] s := by
  cases call
  case stores call =>
    refine .bind <| (call.perform_respects s).mono fun made r s₁ _ _ => ?_
    cases r
    case error => intro _ _ he; contradiction
    case ok    => intro _ _ _ _ _ he; simp at he
  case load id =>
    refine .bind <| .attempt <| loadObservedOutcome_reads (fun s₁ s₂ _ _ _ hn => ?_)
      (fun s₁ s₂ row e hi _ _ hr hd => ?_) fun s₁ s₂ s₃ state hi _ hi₂ hg hg₂ hs => ?_
    · exact fun _ _ _ => done_absent hn
    · exact fun _ _ _ => done_unsupported hi hr hd
    · exact fun _ _ hg₃ => done_loaded hi hi₂ hg (ObservedCall.discipline.trans hg₂ hg₃) hs

theorem starts_respects (p : StoreCall (Option (String × Py DurableObservedOutcome)))
    (hp : Starts p) (s : Stores) (_ : ObservedCall.discipline.inv s) :
    p.Respects ObservedCall.discipline Done [] s := by
  obtain ⟨call, rfl⟩ := hp
  exact call.perform_respects s

variable {c : Config Stores PyError (Option (String × Py DurableObservedOutcome))}

theorem sound (h : Config.Reachable Starts (.initial .empty) c) :
    c.Sound ObservedCall.discipline Done .empty :=
  h.sound ObservedCall.discipline_mutual starts_respects ObservedCall.lockstep_empty

-- What is left of a load after its first read.
def secondRead (intentId : String) (stateRow : Option DispatchIntentRow) :
    StoreCall DurableObservedOutcome := do
  let stateRow ← (Py.ofOption .dispatchIntentError "durable dispatch intent does not exist" stateRow :
    Py _)
  let state ← (decodeIntentRow stateRow : Py _)
  let outcomeRow ← StoreCall.query (·.outcome? intentId)
  (loadedOutcome state outcomeRow : Py _)

theorem secondRead_run (hs : s.HoldsIntent id state) :
    (secondRead id (s.intent? id)).run s' = (loadedOutcome state (s'.outcome? id), s') := by
  have ⟨row, hr, hd⟩ := hs
  rw [hr]
  simp only [secondRead, Program.bind_run, Program.lift_run, Py.ofOption, Except.ofOption, hd,
    StoreCall.query_run]

theorem reachable_firstRead (id : String) :
    Config.Reachable Starts c ⟨c.store, ⟨do
      return some (id, ← (secondRead id (c.store.intent? id)).attempt), [(c.store, c.store)]⟩ ::
        c.running, c.returned⟩ := by
  refine .tail (.single (.start ⟨.load id, rfl⟩)) ?_
  exact @Config.Step.access _ _ _ Starts c.store [] _ _ _ _ _

end LoadCall

-- In any run, a load answers as it should exactly if nothing is committed between its reads.
theorem load_answered_iff_untorn
    {c : Config Stores PyError (Option (String × Py DurableObservedOutcome))}
    (h : Config.Reachable LoadCall.Starts (.initial .empty) c) (id : String)
    (answer : Py DurableObservedOutcome) (made : List (Stores × Stores))
    (hr : ⟨.ok (some (id, answer)), made⟩ ∈ c.returned) :
    Answered c.store id answer ↔ Untorn id made := by
  have ⟨s, _, hk, hd⟩ := (LoadCall.sound h).returned _ hr
  have ⟨hi, ho⟩ := hd id answer rfl
  cases answer
  case error e    => exact hi
  case ok record  =>
    have ha := ho record rfl
    have ⟨state, row, hh⟩ := ha
    exact ⟨fun _ => hi.mp ha, fun _ => ⟨state, row, hh.kept hk.left hk.right⟩⟩

-- The attempt of a submission times out, and this is recorded.
theorem FirstSubmission.recordTimedOut {spec : ExecutionSpec} {registry : RunnerRegistry}
    {plan : DispatchPlan} {session : ExecutionSession} {runner : RunnerCapabilities}
    {request : AdapterDispatchRequest} {intent : DispatchIntent} {permit : DispatchPermit}
    {s₃ : Stores} (h : FirstSubmission runner request intent permit s₁ s₂ s₃ s)
    (hr : verifyDispatchRequest spec registry plan session runner request = true)
    (hv : request.schemaVersion = "ge.adapter-dispatch.v1")
    (hs : request.spec.schemaVersion = "ge.execution-spec.v1") :
    let cur := submissionUnknownState (initialDispatchState intent)
    ∃ s', (DurableObservedOutcomeStore.recordObserved intent.intentId cur.digest spec registry plan
      session runner (timedOut (firstAttempt request))).run s =
        (.ok (observedState cur (timedOut (firstAttempt request))), s') := by
  intro cur
  obtain ⟨c, hc, he⟩ := h.observedRun
  have hb : cur.intent.Backed := ObservedCall.submissionsBacked hc intent.intentId cur
    (he ▸ h.holds) (by simp [cur, submissionUnknownState])
  have ha : (timedOut (firstAttempt request)).authorization = firstAttempt request := rfl
  obtain ⟨ho, hsession⟩ := h.belongs hr ha
  have hver : verifyPhysicalOutcome spec registry plan session runner
      (timedOut (firstAttempt request)) = true :=
    verifyPhysicalOutcome_iff.mpr ⟨hr, verifyIntrinsicOutcome_timedOut⟩
  refine DurableObservedOutcomeStore.run_of_recordable h.holds rfl (he ▸ (ObservedCall.sound hc).inv)
    hb hver ho ⟨hsession, (timedOut_defaultVersions rfl hv hs).supported, rfl, ?_⟩
  simp [h.outcomes, Table.empty]

-- A load reads the intent of the submission, the outcome is recorded, and the load reads on.
theorem FirstSubmission.tornRead {spec : ExecutionSpec} {registry : RunnerRegistry}
    {plan : DispatchPlan} {session : ExecutionSession} {runner : RunnerCapabilities}
    {request : AdapterDispatchRequest} {intent : DispatchIntent} {permit : DispatchPermit}
    {s₃ : Stores} (h : FirstSubmission runner request intent permit s₁ s₂ s₃ s)
    (hr : verifyDispatchRequest spec registry plan session runner request = true)
    (hv : request.schemaVersion = "ge.adapter-dispatch.v1")
    (hs : request.spec.schemaVersion = "ge.execution-spec.v1") :
    ∃ c made, Config.Reachable LoadCall.Starts (.initial .empty) c ∧
      ⟨.ok (some (intent.intentId, .error ⟨.dispatchIntentError,
        "non-observed dispatch state has durable outcome bytes"⟩)), made⟩ ∈ c.returned := by
  let cur := submissionUnknownState (initialDispatchState intent)
  have ⟨s', hrec⟩ := h.recordTimedOut hr hv hs
  obtain ⟨c, hc, rfl⟩ : ∃ c, Config.Reachable LoadCall.Starts (.initial .empty) c ∧ c.store = s :=
    h.runOf (fun oc => LoadCall.perform (.stores oc)) (fun oc => ⟨.stores oc, rfl⟩)
      fun oc t => Program.bind_pure_store oc.perform (fun _ => none) t
  have ⟨row, hout⟩ : ∃ row, s'.outcome? intent.intentId = some row := by
    have ⟨_, hj, ha⟩ := DurableObservedOutcomeStore.recordObserved_run hrec
    have ⟨_, _, row, _, hh, _⟩ := ObservedCall.accepts_kept (LoadCall.sound hc).inv hj ha
    exact ⟨row, hh.stored⟩
  let record : StoreCall (Option (String × Py DurableObservedOutcome)) :=
    LoadCall.perform (.stores (.recordObserved intent.intentId cur.digest spec registry plan session
      runner (timedOut (firstAttempt request))))
  have hrecord : (record.run c.store).2 = s' := by
    refine (Program.bind_pure_store (ObservedCall.perform _) (fun _ => none) c.store).trans ?_
    refine (Program.bind_pure_store (DurableObservedOutcomeStore.recordObserved _ _ _ _ _ _ _ _)
      (fun state => _) c.store).trans ?_
    rw [hrec]
  have hfirst := LoadCall.reachable_firstRead (c := c) intent.intentId
  have hsecond := hc.trans hfirst |>.trans <| Config.reachable_perform (p := record) ⟨_, rfl⟩
  refine ⟨_, _, hsecond.trans Config.reachable_run, List.mem_append_right _ <|
    List.mem_singleton.mpr <| congrArg (Return.mk · _) ?_⟩
  change _ = (Program.run _ (record.run c.store).2).1
  rw [hrecord, Program.bind_run, Program.attempt_run, LoadCall.secondRead_run h.holds, hout]
  rfl

omit [Sha256] in
theorem load_answered_iff_untorn_first : let _ := Sha256.blind
    ∃ (c : Config Stores PyError (Option (String × Py DurableObservedOutcome))) (id : String)
      (answer : Py DurableObservedOutcome) (made : List (Stores × Stores)),
      ⟨.ok (some (id, answer)), made⟩ ∈ c.returned ∧
        (Answered c.store id answer ↔ Untorn id made) := by
  intro _
  have ⟨_, _, _, _, _, _, h⟩ :=
    exists_firstSubmission (referenceRequest "gei-1" (by decide)) requestOf_verified
  have ⟨c, made, hc, hm⟩ := h.tornRead requestOf_verified rfl rfl
  exact ⟨c, _, _, made, hm, load_answered_iff_untorn hc _ _ _ hm⟩

omit [Sha256] in
-- Outcome bytes that were committed between the two reads are reported as a corruption.
theorem load_tornRead : let _ := Sha256.blind
    ∃ (c : Config Stores PyError (Option (String × Py DurableObservedOutcome))) (id : String)
      (made : List (Stores × Stores)),
      Config.Reachable LoadCall.Starts (.initial .empty) c ∧
        ⟨.ok (some (id, .error ⟨.dispatchIntentError,
          "non-observed dispatch state has durable outcome bytes"⟩)), made⟩ ∈ c.returned := by
  intro _
  have ⟨_, _, _, _, _, _, h⟩ :=
    exists_firstSubmission (referenceRequest "gei-1" (by decide)) requestOf_verified
  have ⟨c, made, hc, hm⟩ := h.tornRead requestOf_verified rfl rfl
  exact ⟨c, _, made, hc, hm⟩

end GeneralExecution
