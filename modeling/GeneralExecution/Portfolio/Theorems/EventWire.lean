import GeneralExecution.Portfolio.Runtime
import GeneralExecution.Portfolio.Theorems.Snapshots

namespace GeneralExecution

-- A record is rebuilt from its own fields.

theorem TransitionRule.new_eq (r : TransitionRule) :
    new r.ruleId (PyLiteral.spelling r.fromState) (PyLiteral.spelling r.event)
      (PyLiteral.spelling r.toState) r.nextActionRef (PyLiteral.spelling r.effect)
      r.requiredEvidence (PyLiteral.spelling r.authorityMode) r.authorityBoundary r.schemaVersion =
        .ok r := by
  simp only [new, Py.check_of r.version, Py.ofOption, PyLiteral.parse?, PyLiteral.parse_spelling,
    Except.ofOption, Guard.nonempty_of r.nonempty, Guard.uniqueNonempty_of r.unique,
    Guard.optionalNonempty_of r.optional, Py.check_of r.ruleOk, Except.ok_bind]
  rfl

theorem TransitionPolicy.new_eq (p : TransitionPolicy) :
    new p.policyId p.revision p.rules p.defaultDisposition p.schemaVersion = .ok p := by
  simp only [new, Py.check_of p.version, Guard.nonempty_of p.nonempty, Py.check_of p.stops,
    Py.check_of p.hasRule, Py.check_of p.ruleIds, Py.check_of p.sorted, Py.check_of p.unambiguous,
    Except.ok_bind]
  rfl

theorem TransitionAuthorityGrant.new_eq (g : TransitionAuthorityGrant) :
    new g.policyDigest g.ruleDigest g.authorityBoundary g.authorityRef g.authorityDigest
      g.schemaVersion = .ok g := by
  simp only [new, Py.check_of g.version, Guard.sha256_of g.bound, Guard.nonempty_of g.nonempty,
    Guard.sha256_of g.isSha256, Except.ok_bind]
  rfl

theorem PassiveWakeAdmission.new_eq (a : PassiveWakeAdmission) :
    new a.portfolioId a.portfolioGeneration a.portfolioStateDigest a.workId a.wakeConditionDigest
      a.policyDigest a.ruleDigest a.evidence a.nextActionRef a.authorityGrant a.schemaVersion =
        .ok a := by
  simp only [new, Py.check_of a.version, Guard.nonempty_of a.nonempty, Guard.sha256_of a.isSha256,
    Py.check_of a.evident, Py.check_of a.sorted, Py.check_of a.distinct, Except.ok_bind]
  rfl

theorem ResumeTickObservation.new_eq (o : ResumeTickObservation) :
    new o.portfolioId o.expectedGeneration o.expectedStateDigest o.policyDigest o.event o.evidence
      o.actionRef o.observedAt o.summary o.canonicalRefs o.uncertainties o.wakeAdmission
      o.authorityGrant o.schemaVersion = .ok o := by
  simp only [new, Py.check_of o.version, Guard.nonempty_of o.nonempty, Guard.sha256_of o.isSha256,
    Py.check_of o.evident, Py.check_of o.distinct, Py.check_of o.hasRefs, Py.check_of o.refs,
    Py.check_of o.unique, Except.ok_bind]
  rfl

theorem ExternalTriggerEvidence.new_eq (e : ExternalTriggerEvidence) :
    new e.source e.eventId e.eventKind e.payloadDigest e.observationDigest e.admissionRef =
      .ok e := by
  have hn : checkProvenance "missing trigger provenance" [("source", e.source),
      ("event_id", e.eventId), ("event_kind", e.eventKind), ("admission_ref", e.admissionRef)] =
        .ok ⟨e.nonempty⟩ := Guard.each_of e.nonempty
  simp only [new, hn, checkTriggerDigests, Guard.each_of e.isSha256, Except.ok_bind]
  rfl

theorem TriggerContract.new_eq (c : TriggerContract) :
    new c.source c.eventKind c.portfolioId c.policyDigest c.transitionEvent = .ok c := by
  have hn : checkProvenance "incomplete trigger contract" [("source", c.source),
      ("event_kind", c.eventKind), ("portfolio_id", c.portfolioId),
      ("transition_event", c.transitionEvent)] = .ok ⟨c.nonempty⟩ := Guard.each_of c.nonempty
  simp only [new, hn, checkTriggerDigests, Guard.each_of c.isSha256, Except.ok_bind]
  rfl

instance : AsDict TriggerContract where
  asdict c := [
    ("source", toPy c.source),
    ("event_kind", toPy c.eventKind),
    ("portfolio_id", toPy c.portfolioId),
    ("policy_digest", toPy c.policyDigest),
    ("transition_event", toPy c.transitionEvent)]

instance : AsDict TransitionBody where
  asdict b := [
    ("policy", toPy b.policy),
    ("contract", toPy b.contract),
    ("trigger", toPy b.trigger),
    ("observation", toPy b.observation)]

-- What is written is read back.

@[simp]
theorem ruleFromDict_normalize (r : TransitionRule) :
    ruleFromDict (normalize (toPy r)) = .ok r := by
  have hd : distinctKeys (asdict r) = true := rfl
  change ruleFromDict (normalize (.dict (asdict r))) = _
  simp only [ruleFromDict, Typed.exactFields, Py.require, Except.ensure, Field.get,
    isObj_normalize, normalize_get? hd, List.subset_def, mem_normalize_keys]
  simp [asdict, Json.lookup, TransitionRule.new_eq r]

@[simp]
theorem transitionPolicyFromDict_normalize (p : TransitionPolicy) :
    transitionPolicyFromDict (normalize (toPy p)) = .ok p := by
  have hd : distinctKeys (asdict p) = true := rfl
  have hr : Typed.list .transitionPolicyError "rules must be a list" ruleFromDict
      (normalize (toPy p.rules)) = .ok p.rules :=
    Typed.list_normalize fun r _ => ruleFromDict_normalize r
  change transitionPolicyFromDict (normalize (.dict (asdict p))) = _
  simp only [transitionPolicyFromDict, Typed.exactFields, Py.require, Except.ensure, Field.get,
    isObj_normalize, normalize_get? hd, List.subset_def, mem_normalize_keys]
  simp [asdict, Json.lookup, hr, TransitionPolicy.new_eq p]

namespace PersistentRuntime

@[simp]
theorem checkpointEvidence_normalize (e : CheckpointEvidence) :
    checkpointEvidence (normalize (toPy e)) = .ok e := by
  have hd : distinctKeys (asdict e) = true := rfl
  change checkpointEvidence (normalize (.dict (asdict e))) = _
  simp only [checkpointEvidence, exact, evidenceOfFields, Typed.exactFields, Py.require,
    Except.ensure, Field.get, isObj_normalize, normalize_get? hd, List.subset_def,
    mem_normalize_keys]
  simp [asdict, Json.lookup, CheckpointEvidence.new_eq e]

@[simp]
theorem authorityGrant_normalize (o : Option TransitionAuthorityGrant) :
    authorityGrant (normalize (toPy o)) = .ok o := by
  cases o
  case none   => rfl
  case some g =>
    have hd : distinctKeys (asdict g) = true := rfl
    change authorityGrant (normalize (.dict (asdict g))) = _
    rw [authorityGrant]
    · simp only [exact, Typed.exactFields, Py.require, Except.ensure, Field.get, isObj_normalize,
        normalize_get? hd, List.subset_def, mem_normalize_keys]
      simp [asdict, Json.lookup, TransitionAuthorityGrant.new_eq g]
    · exact fun h => by cases h

@[simp]
theorem wakeAdmission_normalize (o : Option PassiveWakeAdmission) :
    wakeAdmission (normalize (toPy o)) = .ok o := by
  cases o
  case none   => rfl
  case some a =>
    have hd : distinctKeys (asdict a) = true := rfl
    have he : Typed.list .persistentRuntimeError "wake_admission.evidence must be a list"
        checkpointEvidence (normalize (toPy a.evidence)) = .ok a.evidence :=
      Typed.list_normalize fun e _ => checkpointEvidence_normalize e
    change wakeAdmission (normalize (.dict (asdict a))) = _
    rw [wakeAdmission]
    · simp only [exact, Typed.exactFields, Py.require, Except.ensure, Field.get, isObj_normalize,
        normalize_get? hd, List.subset_def, mem_normalize_keys]
      simp [asdict, Json.lookup, he, PassiveWakeAdmission.new_eq a]
    · exact fun h => by cases h

@[simp]
theorem observation_normalize (o : ResumeTickObservation) :
    observation (normalize (toPy o)) = .ok o := by
  have hd : distinctKeys (asdict o) = true := rfl
  have he : Typed.list .persistentRuntimeError "observation.evidence must be a list"
      checkpointEvidence (normalize (toPy o.evidence)) = .ok o.evidence :=
    Typed.list_normalize fun e _ => checkpointEvidence_normalize e
  have ht (cls cls' : ErrorClass) (message message' : String) (xs : List String) :
      Typed.list cls message (Typed.string cls' message') (normalize (toPy xs)) = .ok xs :=
    Typed.list_normalize fun _ _ => rfl
  change observation (normalize (.dict (asdict o))) = _
  simp only [observation, exact, Typed.exactFields, Py.require, Except.ensure, Field.get,
    isObj_normalize, normalize_get? hd, List.subset_def, mem_normalize_keys]
  simp [asdict, Json.lookup, he, ht, ResumeTickObservation.new_eq o]

@[simp]
theorem trigger_normalize (e : ExternalTriggerEvidence) :
    trigger (normalize (toPy e)) = .ok e := by
  have hd : distinctKeys (asdict e) = true := rfl
  change trigger (normalize (.dict (asdict e))) = _
  simp only [trigger, exact, Typed.exactFields, Py.require, Except.ensure, Field.get,
    isObj_normalize, normalize_get? hd, List.subset_def, mem_normalize_keys]
  simp [asdict, Json.lookup, ExternalTriggerEvidence.new_eq e]

@[simp]
theorem contract_normalize (c : TriggerContract) : contract (normalize (toPy c)) = .ok c := by
  have hd : distinctKeys (asdict c) = true := rfl
  change contract (normalize (.dict (asdict c))) = _
  simp only [contract, exact, Typed.exactFields, Py.require, Except.ensure, Field.get,
    isObj_normalize, normalize_get? hd, List.subset_def, mem_normalize_keys]
  simp [asdict, Json.lookup, TriggerContract.new_eq c]

-- What a transition event may say.
structure Sendable (eventId : String) (body : TransitionBody) : Prop where
  eventId     : body.trigger.eventId = eventId
  noAuthority : body.observation.authorityGrant = none

theorem transitionBody_normalize {eventId : String} {body : TransitionBody}
    (h : Sendable eventId body) : transitionBody eventId (normalize (toPy body)) = .ok body := by
  have hd : distinctKeys (asdict body) = true := rfl
  change transitionBody eventId (normalize (.dict (asdict body))) = _
  simp only [transitionBody, exact, Typed.exactFields, Py.require, Except.ensure, Field.get,
    isObj_normalize, normalize_get? hd, List.subset_def, mem_normalize_keys]
  simp [asdict, Json.lookup, h.eventId, h.noAuthority]

-- An object is accepted that has the members that are expected.
theorem exact_normalize {label : String} {expected : List String} {fields : PyDict}
    (h : fields.map Prod.fst = expected) : exact label expected (normalize (.dict fields)) = .ok () := by
  have hkeys : (normalize (.dict fields)).keys ⊆ expected ∧
      expected ⊆ (normalize (.dict fields)).keys := by
    simp only [List.subset_def, mem_normalize_keys, h]
    exact ⟨fun h => h, fun h => h⟩
  rw [exact, Typed.exactFields, Py.require_of (isObj_normalize fields), Except.ok_bind]
  exact Py.require_of hkeys _ _

-- The payload of an event.
def payload (eventId operation : String) (body : PyDict) : Json :=
  normalize <| .dict [
    ("schema_version", toPy "ge.persistent-runtime-event.v1"),
    ("event_id", toPy eventId),
    ("operation", toPy operation),
    ("body", .dict body)]

theorem envelope_payload {eventId operation : String} {body : PyDict} (hid : ¬Text.Blank eventId)
    (ho : operation ∈ ["bootstrap", "transition"]) :
    envelope (payload eventId operation body) =
      .ok (eventId, operation, normalize (.dict body)) := by
  let fields : PyDict := [("schema_version", toPy "ge.persistent-runtime-event.v1"),
    ("event_id", toPy eventId), ("operation", toPy operation), ("body", .dict body)]
  have hd : distinctKeys fields = true := rfl
  have hn : Guard.nonempty .persistentRuntimeError [("event_id", eventId)] = .ok _ :=
    Guard.nonempty_of (List.forall_mem_singleton.mpr hid)
  change envelope (normalize (.dict fields)) = _
  simp only [envelope, exact, Typed.exactFields, Py.require, Except.ensure, Field.get,
    Field.hasSchema, isObj_normalize, normalize_get? hd, List.subset_def, mem_normalize_keys]
  simp only [List.mem_cons, List.not_mem_nil, or_false] at ho
  simp [fields, Json.lookup, hn, ho]

end PersistentRuntime

variable [Sha256] {eventId digest : String} {body : TransitionBody}
variable {requirement : CoreVerificationRequirement} {verification : CoreVerificationReceipt}
variable {report : CoreRehearsalReport}

-- A transition event is processed as the transition that it carries.
theorem processPersistentRuntimeEvent_payload (hid : ¬Text.Blank eventId)
    (h : PersistentRuntime.Sendable eventId body) :
    processPersistentRuntimeEvent (PersistentRuntime.payload eventId "transition" (asdict body))
      (some digest) (some requirement) (some verification) (some report) =
        transitionEvent eventId body ⟨digest, requirement, verification, report⟩ := by
  have he : PersistentRuntime.envelope
      (PersistentRuntime.payload eventId "transition" (asdict body)) = _ :=
    PersistentRuntime.envelope_payload hid (by simp)
  have hx : PersistentRuntime.exact "transition body"
      ["policy", "contract", "trigger", "observation"] (normalize (.dict (asdict body))) =
        .ok () := PersistentRuntime.exact_normalize rfl
  have hb : PersistentRuntime.transitionBody eventId (normalize (.dict (asdict body))) = .ok body :=
    PersistentRuntime.transitionBody_normalize h
  rw [processPersistentRuntimeEvent, he]
  change ((liftM (PersistentRuntime.exact _ _ _) : PortfolioCall Unit) >>= fun _ => _) = _
  rw [hx]
  change ((liftM (PersistentRuntime.transitionBody _ _) : PortfolioCall TransitionBody) >>= _) = _
  rw [hb]
  rfl

end GeneralExecution
