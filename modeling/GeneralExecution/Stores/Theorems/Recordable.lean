import GeneralExecution.Stores.Theorems.Lockstep

namespace GeneralExecution

variable [Sha256] {s s' s₁ s₂ : Stores} {state cur new : DispatchIntentState}
variable {intent : DispatchIntent} {outcome : PhysicalOutcomeBundle}
variable {record : DurableObservedOutcome} {id expected outcomeJson : String}
variable {spec : ExecutionSpec} {registry : RunnerRegistry} {plan : DispatchPlan}
variable {session : ExecutionSession} {runner : RunnerCapabilities}

-- What the intent of a submission carries, because a lease has backed it.
structure DispatchIntent.Backed (intent : DispatchIntent) : Prop where
  runnerId    : ¬Text.Blank intent.runnerId
  leaseId     : ¬Text.Blank intent.leaseId
  leaseDigest : IsSha256 intent.leaseDigest

theorem findDispatchLease_eq_ok {capacity : RunnerCapacityState} {lease : CapacityLease}
    {leaseId leaseDigest : String} (h : findDispatchLease capacity leaseId leaseDigest = .ok lease) :
    lease ∈ capacity.activeLeases ∧ lease.leaseId = leaseId ∧ lease.digest = leaseDigest := by
  rw [findDispatchLease] at h
  split at h
  case h_1 l hl =>
    obtain rfl := Except.pure_eq_ok.mp h
    have hm := List.mem_singleton_self l
    rw [← hl] at hm
    simpa using hm
  case h_2 => simp at h

theorem validateIntentAgainstCapacity_backed {capacity : RunnerCapacityState}
    {lease : CapacityLease} (h : validateIntentAgainstCapacity intent capacity runner = .ok lease) :
    intent.Backed := by
  simp only [validateIntentAgainstCapacity, Except.bind_eq_ok, Py.require_eq_ok,
    Except.pure_eq_ok] at h
  obtain ⟨_, _, _, ⟨hr, _⟩, lease, hl, _⟩ := h
  obtain ⟨_, hi, hd⟩ := findDispatchLease_eq_ok hl
  exact {
    runnerId    := hr ▸ runner.runnerId_not_blank
    leaseId     := hi ▸ stableId_not_blank rfl (by decide) _
    leaseDigest := hd ▸ isSha256_sha256Digest _ }

-- Every intent whose submission has begun is backed.
def Stores.SubmissionsBacked (s : Stores) : Prop :=
  ∀ id state, s.HoldsIntent id state → state.status ≠ .prepared → state.intent.Backed

namespace Stores

theorem SubmissionsBacked.of_intents (h : s.SubmissionsBacked)
    (hi : s'.dispatchIntents = s.dispatchIntents) : s'.SubmissionsBacked :=
  fun id state hs => h id state <| hs.congr (intent?_of_intents hi id).symm

theorem SubmissionsBacked.write (h : s.SubmissionsBacked) (hw : s.WritesIntent s' new)
    (hn : new.status ≠ .prepared → new.intent.Backed) : s'.SubmissionsBacked := by
  intro id state hs hp
  by_cases hi : id = new.intent.intentId
  case neg => exact h id state ((hw.holds_of_ne hi).mp hs) hp
  case pos =>
    have ⟨row, hr, hd⟩ := hs
    rw [hw.intent, if_pos hi, Option.some.injEq] at hr
    obtain ⟨_, rfl⟩ := decodeIntentRow_intentRow.mp (hr ▸ hd)
    exact hn hp

theorem SubmissionsBacked.prepares (h : s.SubmissionsBacked) (hp : s.Prepares s' intent) :
    s'.SubmissionsBacked := by
  rcases hp.effect with ⟨_, rfl⟩ | ⟨_, hw⟩
  · exact h
  · exact h.write hw fun hn => absurd rfl hn

theorem SubmissionsBacked.records (h : s.SubmissionsBacked)
    (hr : s.Records s' cur record outcomeJson) : s'.SubmissionsBacked := by
  have hb := h _ _ hr.moves.current (by simp [hr.unknown])
  exact (h.write hr.moves.writes fun _ => hb).of_intents rfl

end Stores

namespace ObservedCall

open DispatchIntentStore DurableObservedOutcomeStore

def backing : Discipline Stores :=
  .shared Stores.SubmissionsBacked (fun _ _ => True) (fun _ => trivial) fun _ _ => trivial

theorem perform_backing (call : ObservedCall) (s : Stores) :
    (perform call).Respects backing (fun _ _ _ => True) [] s := by
  cases call
  case initializeIntent intent =>
    refine .bind <| initializeIntent_respects (fun s₁ s₂ hi _ h => ?_) fun _ _ _ _ _ _ => trivial
    exact ⟨hi.prepares h, trivial, fun _ _ _ _ _ _ => trivial⟩
  case beginSubmission intentId expected runner =>
    refine .bind <| beginSubmission_respects (fun _ s₁ s₂ cur permit _ hi _ h _ => ?_)
      fun _ _ _ _ _ _ => trivial
    have ⟨_, capacity, lease, _, _, _, hv⟩ := h.backed
    refine ⟨hi.write h.moves.writes fun _ => ?_, trivial, fun _ _ _ _ _ _ => trivial⟩
    exact validateIntentAgainstCapacity_backed hv
  case recordObserved intentId expected spec registry plan session runner outcome =>
    refine .bind <| recordObserved_respects (fun s₁ s₂ state outcomeJson hi _ _ _ h => ?_)
      fun _ _ _ _ _ _ => trivial
    refine ⟨?_, trivial, fun _ _ _ _ _ _ => trivial⟩
    rcases h with ⟨_, _, _, rfl, _⟩ | ⟨h, _, _, _⟩
    · exact hi
    · exact hi.records h
  case heads headCall =>
    refine .bind <| headCall.perform_frame (fun s₁ s₂ hi h _ _ => ?_) (fun _ _ _ _ _ _ _ => trivial)
      fun _ _ _ _ _ _ => trivial
    exact ⟨hi.of_intents h, trivial⟩

theorem submissionsBacked {c : Config Stores PyError (ObservedCall × Option DispatchIntentState)}
    (h : Config.Reachable Starts (.initial .empty) c) : c.store.SubmissionsBacked := by
  have hc : c.Sound backing (fun _ _ _ => True) .empty := by
    refine h.sound Discipline.shared_mutual (fun p hp s _ => ?_) ?_
    · obtain ⟨call, rfl⟩ := hp
      exact call.perform_backing s
    · intro id state hs
      have ⟨_, hr, _⟩ := hs
      simp [Stores.empty, Stores.intent?] at hr
  exact hc.inv

end ObservedCall

-- What an outcome must meet, beyond belonging to the intent, for the store to keep it: its wire form
-- is read again as the outcome itself, and no other outcome has its names.
structure Recordable (s : Stores) (intent : DispatchIntent) (outcome : PhysicalOutcomeBundle) :
    Prop where
  session   : intent.sessionId = outcome.authorization.request.sessionId ∧
    intent.logicalAttempt = outcome.authorization.request.attempt
  supported : outcome.Supported
  version   : outcome.schemaVersion = "ge.physical-outcome.v1"
  fresh     : ∀ row ∈ s.observedOutcomes.rows,
    row.authorizationId ≠ outcome.authorization.authorizationId ∧
      row.invocationId ≠ outcome.authorization.request.invocationId

theorem verifyOutcomeAgainstDispatch_observedState :
    verifyOutcomeAgainstDispatch (observedState cur outcome) outcome = true ↔
      belongsToIntent cur.intent outcome ∧
        cur.intent.sessionId = outcome.authorization.request.sessionId ∧
        cur.intent.logicalAttempt = outcome.authorization.request.attempt := by
  simp only [verifyOutcomeAgainstDispatch, belongsToIntent, observedState, decide_eq_true_eq]
  constructor
  · rintro ⟨_, h₁, h₂, h₃, h₄, h₅, h₆, h₇, h₈, h₉, _⟩
    exact ⟨⟨h₁.symm, h₂.symm, h₃.symm, h₄.symm, h₅.symm, h₆.symm, h₉.symm⟩, h₇, h₈⟩
  · rintro ⟨⟨h₁, h₂, h₃, h₄, h₅, h₆, h₉⟩, h₇, h₈⟩
    exact ⟨trivial, h₁.symm, h₂.symm, h₃.symm, h₄.symm, h₅.symm, h₆.symm, h₇, h₈, h₉.symm, trivial,
      trivial, trivial, trivial, trivial⟩

-- A backed intent has a record with each outcome that belongs to it.
theorem durableRecord_of_backed (hb : cur.intent.Backed)
    (hv : verifyOutcomeAgainstDispatch (observedState cur outcome) outcome = true) :
    ∃ record, durableRecord (observedState cur outcome) outcome = .ok record := by
  obtain ⟨⟨h₁, h₂, h₃, h₄, h₅, _, _⟩, _⟩ := verifyOutcomeAgainstDispatch_observedState.mp hv
  have hintent : (observedState cur outcome).intent = cur.intent := rfl
  have hnonempty : ∀ x ∈ [("intent_id", cur.intent.intentId), ("runner_id", cur.intent.runnerId),
      ("lease_id", cur.intent.leaseId), ("authorization_id", cur.intent.authorizationId),
      ("invocation_id", cur.intent.invocationId),
      ("transport_status", PyLiteral.spelling outcome.receipt.transportStatus)],
      ¬Text.Blank x.2 := by
    simp only [List.mem_cons, List.not_mem_nil, or_false, forall_eq_or_imp, forall_eq]
    refine ⟨stableId_not_blank rfl (by decide) _, hb.runnerId, hb.leaseId, ?_, ?_, ?_⟩
    · exact h₁ ▸ stableId_not_blank rfl (by decide) _
    · exact h₃ ▸ outcome.authorization.request.invocationId_not_blank
    · cases outcome.receipt.transportStatus <;> decide
  have hsha : ∀ x ∈ [("dispatch_state_digest", (observedState cur outcome).digest),
      ("lease_digest", cur.intent.leaseDigest),
      ("authorization_digest", cur.intent.authorizationDigest),
      ("request_digest", cur.intent.requestDigest), ("outcome_digest", outcome.digest),
      ("observation_digest", outcome.observation.digest),
      ("receipt_digest", outcome.receipt.digest)], IsSha256 x.2 := by
    simp only [List.mem_cons, List.not_mem_nil, or_false, forall_eq_or_imp, forall_eq]
    exact ⟨isSha256_sha256Digest _, hb.leaseDigest, h₂ ▸ isSha256_sha256Digest _,
      h₄ ▸ isSha256_sha256Digest _, isSha256_sha256Digest _, isSha256_sha256Digest _,
      isSha256_sha256Digest _⟩
  simp only [durableRecord, DurableObservedOutcome.new, Except.bind_eq_ok, Py.require_eq_ok, hintent]
  exact ⟨_, (), hv, _, Py.check_of outcome.authorization.hasAttempt, _, checkNonempty_of hnonempty, _, checkSha256_of hsha,
    _, Py.check_of ⟨h₅.symm, h₁.symm, h₂.symm, h₃.symm, h₄.symm, rfl, rfl, rfl, rfl, rfl⟩, rfl⟩

theorem decodeOutcomeRow_observedRow :
    decodeOutcomeRow (observedRow record outcomeJson) state = .ok record ↔
      deserializePhysicalOutcome outcomeJson = .ok record.outcome ∧
        durableRecord state record.outcome = .ok record := by
  rw [decodeOutcomeRow_eq_ok]
  exact ⟨fun h => ⟨h.left, h.right.left⟩, fun h => ⟨h.left, h.right, rfl⟩⟩

theorem Stores.Records.recordable (h : s.Records s' cur record outcomeJson)
    (hj : serializePhysicalOutcome record.outcome = .ok outcomeJson) :
    Recordable s cur.intent record.outcome := by
  have ⟨hd, hr, _⟩ := decodeOutcomeRow_eq_ok.mp h.reads
  have ⟨hs, hw⟩ := (deserializePhysicalOutcome_serialize hj).mp hd
  have ⟨_, hof⟩ := durableRecord_eq_ok hr
  refine ⟨(verifyOutcomeAgainstDispatch_observedState.mp hof.verified).right, hs, ?_, ?_⟩
  · rw [hw]
    rfl
  · intro row hrow
    have ⟨hi, _⟩ := Table.insert?_eq_some.mp h.inserts
    have ha := hi ObservedOutcomeRow.authorizationId (by simp)
    have hn := hi ObservedOutcomeRow.invocationId (by simp)
    rw [Table.select_eq_none] at ha hn
    have hm := record.describes
    exact ⟨hm.right.left ▸ ha row hrow, hm.right.right.right.left ▸ hn row hrow⟩

namespace DurableObservedOutcomeStore

variable (hc : s.HoldsIntent id cur) (hu : cur.status = .submissionUnknown)

include hc hu

theorem recordable_of_run (hr : (recordObserved id cur.digest spec registry plan session runner
    outcome).run s = (.ok state, s')) :
    Recordable s cur.intent outcome ∧ state = observedState cur outcome := by
  have ⟨_, hj, ha⟩ := recordObserved_run hr
  rcases ha with ⟨h, _, _, _, hid⟩ | ⟨h, _, rfl, hid⟩
  · have he := hc.unique <| hid ▸ h.current
    exact absurd (he ▸ h.observed) (by simp [hu])
  · obtain rfl := hc.unique <| hid ▸ h.moves.current
    exact ⟨h.recordable hj, rfl⟩

theorem run_of_recordable (hl : s.Lockstep) (hb : cur.intent.Backed)
    (hv : verifyPhysicalOutcome spec registry plan session runner outcome = true)
    (ho : belongsToIntent cur.intent outcome) (h : Recordable s cur.intent outcome) :
    ∃ s', (recordObserved id cur.digest spec registry plan session runner outcome).run s =
      (.ok (observedState cur outcome), s') := by
  obtain rfl := hc.intentId
  have hi : verifyIntrinsicOutcome outcome = true := by
    simp only [verifyPhysicalOutcome, decide_eq_true_eq] at hv
    exact hv.right
  obtain ⟨outcomeJson, hj⟩ : ∃ outcomeJson, serializePhysicalOutcome outcome = .ok outcomeJson :=
    ⟨_, serializePhysicalOutcome_eq_ok.mpr ⟨hi, rfl⟩⟩
  obtain ⟨record, hr⟩ := durableRecord_of_backed hb <|
    verifyOutcomeAgainstDispatch_observedState.mpr ⟨ho, h.session⟩
  obtain ⟨rfl, hof⟩ := durableRecord_eq_ok hr
  have hw : record.outcome = record.outcome.onWire :=
    PhysicalOutcomeBundle.ext rfl rfl rfl rfl h.version
  have hd := (deserializePhysicalOutcome_serialize hj).mpr ⟨h.supported, hw⟩
  have hreads := decodeOutcomeRow_observedRow.mpr ⟨hd, hr⟩
  -- No row has the id of the intent, for the intent is not observed.
  have hn : s.outcome? cur.intent.intentId = none := by
    cases ho : s.outcome? cur.intent.intentId
    case none => rfl
    case some row =>
      obtain ⟨state, _, hs⟩ := hl.outcome _ row ho
      obtain rfl := hs.intent.unique hc
      exact absurd hs.observed (by simp [hu])
  have hins : ∃ t, s.observedOutcomes.insert? (observedRow record outcomeJson) = some t := by
    apply Table.insert?_of_fresh
    have hid : record.intentId = cur.intent.intentId := hof.intentId
    simp only [List.mem_cons, List.not_mem_nil, or_false, forall_eq_or_imp, forall_eq, observedRow,
      hid]
    refine ⟨hn, ?_, ?_⟩
    · exact Table.select_eq_none.mpr fun row hr he =>
        (h.fresh row hr).left <| he.trans record.describes.right.left
    · exact Table.select_eq_none.mpr fun row hr he =>
        (h.fresh row hr).right <| he.trans record.describes.right.right.right.left
  obtain ⟨s', hs⟩ := recordStatements_of_unknown hc (hl.rows.supported hc).right hu hn ho hreads hins
  exact ⟨s', recordObserved_run_ok hv hj hs⟩

end DurableObservedOutcomeStore

-- In any run, an admitted outcome of a submission is kept exactly when it is recordable.
theorem record_observed_iff_recordable
    {c : Config Stores PyError (ObservedCall × Option DispatchIntentState)}
    (h : Config.Reachable ObservedCall.Starts (.initial .empty) c) (cur : DispatchIntentState)
    (spec : ExecutionSpec) (registry : RunnerRegistry) (plan : DispatchPlan)
    (session : ExecutionSession) (runner : RunnerCapabilities) (outcome : PhysicalOutcomeBundle)
    (hc : c.store.HoldsIntent cur.intent.intentId cur) (hu : cur.status = .submissionUnknown)
    (hv : verifyPhysicalOutcome spec registry plan session runner outcome = true)
    (ho : belongsToIntent cur.intent outcome) :
    (∃ s', (DurableObservedOutcomeStore.recordObserved cur.intent.intentId cur.digest spec registry
        plan session runner outcome).run c.store = (.ok (observedState cur outcome), s')) ↔
      Recordable c.store cur.intent outcome := by
  constructor
  · rintro ⟨s', hr⟩
    exact (DurableObservedOutcomeStore.recordable_of_run hc hu hr).left
  · have hb := ObservedCall.submissionsBacked h _ cur hc (by simp [hu])
    exact DurableObservedOutcomeStore.run_of_recordable hc hu (ObservedCall.sound h).inv hb hv ho

theorem FirstSubmission.belongs {request : AdapterDispatchRequest} {permit : DispatchPermit}
    {s₃ : Stores} (h : FirstSubmission runner request intent permit s₁ s₂ s₃ s)
    (hr : verifyDispatchRequest spec registry plan session runner request = true)
    (ho : outcome.authorization = firstAttempt request) :
    belongsToIntent intent outcome ∧ intent.sessionId = outcome.authorization.request.sessionId ∧
      intent.logicalAttempt = outcome.authorization.request.attempt := by
  have hl : (firstLease runner request).Of runner (firstAttempt request) := proposedLease_of hr
  rw [belongsToIntent, ho]
  exact ⟨⟨hl.authorizationId.symm.trans h.isFor.authorizationId.symm,
    hl.authorizationDigest.symm.trans h.isFor.authorizationDigest.symm,
    hl.invocationId.symm.trans h.isFor.invocationId.symm, h.isFor.requestDigest.symm,
    hl.requestRunnerId.trans <| hl.runnerId.symm.trans h.isFor.runnerId.symm,
    hl.requestCapabilityDigest.trans <| hl.capabilityDigest.symm.trans h.isFor.capabilityDigest.symm,
    hl.physicalAttempt.symm.trans h.isFor.physicalAttempt.symm⟩,
    h.isFor.sessionId.trans hl.sessionId, h.isFor.logicalAttempt.trans hl.logicalAttempt⟩

-- A submission of the reference runner, and an outcome of it.
theorem exists_referenceOutcome (spec : ExecutionSpec) :
    ∃ (c : Config Stores PyError (ObservedCall × Option DispatchIntentState)) (intent : DispatchIntent)
      (outcome : PhysicalOutcomeBundle),
      let cur := submissionUnknownState (initialDispatchState intent)
      Config.Reachable ObservedCall.Starts (.initial .empty) c ∧
        c.store.HoldsIntent intent.intentId cur ∧
        verifyPhysicalOutcome spec referenceRegistry (referencePlan spec) (referenceSession spec)
          referenceRunner outcome = true ∧
        belongsToIntent cur.intent outcome ∧ outcome.authorization.request.spec = spec := by
  have ⟨intent, _, _, _, _, _, h⟩ :=
    exists_firstSubmission (requestOf spec "gei-1" (by decide)) requestOf_verified
  have ⟨c, hc, hs⟩ := h.observedRun
  have ⟨_, outcome, _, ha, _, hv⟩ :=
    exists_failed (firstAttempt (requestOf spec "gei-1" (by decide))) requestOf_verified
  exact ⟨c, intent, outcome, hc, hs ▸ h.holds, hv, (h.belongs requestOf_verified ha).left,
    congrArg (·.request.spec) ha⟩

omit [Sha256] in
theorem record_observed_iff_recordable_first : let _ := Sha256.blind
    ∃ (c : Config Stores PyError (ObservedCall × Option DispatchIntentState)) (intent : DispatchIntent)
      (outcome : PhysicalOutcomeBundle),
      let cur := submissionUnknownState (initialDispatchState intent)
      c.store.HoldsIntent intent.intentId cur ∧
        ((∃ s', (DurableObservedOutcomeStore.recordObserved intent.intentId cur.digest referenceSpec
            referenceRegistry (referencePlan referenceSpec) (referenceSession referenceSpec)
            referenceRunner outcome).run c.store = (.ok (observedState cur outcome), s')) ↔
          Recordable c.store intent outcome) := by
  intro _
  have ⟨c, intent, outcome, hc, hs, hv, ho, _⟩ := exists_referenceOutcome referenceSpec
  exact ⟨c, intent, outcome, hs, record_observed_iff_recordable hc _ _ _ _ _ _ _ hs rfl hv ho⟩

omit [Sha256] in
-- An outcome for a spec of another schema is admitted, but the store does not read it again.
theorem record_observed_foreignSchema :
    ¬∀ (_ : Sha256) (c : Config Stores PyError (ObservedCall × Option DispatchIntentState))
      (cur : DispatchIntentState) (spec : ExecutionSpec) (registry : RunnerRegistry)
      (plan : DispatchPlan) (session : ExecutionSession) (runner : RunnerCapabilities)
      (outcome : PhysicalOutcomeBundle),
      Config.Reachable ObservedCall.Starts (.initial .empty) c →
      c.store.HoldsIntent cur.intent.intentId cur → cur.status = .submissionUnknown →
      verifyPhysicalOutcome spec registry plan session runner outcome = true →
      belongsToIntent cur.intent outcome →
      ∃ s', (DurableObservedOutcomeStore.recordObserved cur.intent.intentId cur.digest spec registry
        plan session runner outcome).run c.store = (.ok (observedState cur outcome), s') := by
  intro h
  let _ := Sha256.blind
  let spec := { referenceSpec with schemaVersion := "ge.execution-spec.v2" }
  have ⟨c, intent, outcome, hc, hs, hv, ho, hspec⟩ := exists_referenceOutcome spec
  have ⟨s', hr⟩ := h _ c _ _ _ _ _ _ _ hc hs rfl hv ho
  have hrec := (DurableObservedOutcomeStore.recordable_of_run hs rfl hr).left
  have hschema := hrec.supported.authorization.right.right
  rw [hspec] at hschema
  exact absurd hschema (by decide)

end GeneralExecution
