import GeneralExecution.Portfolio.Theorems.AuthorityStops
import GeneralExecution.Portfolio.Theorems.EventReports
import GeneralExecution.Portfolio.Theorems.EventWire

namespace GeneralExecution

open Portfolios

section Bound

variable [Sha256] {state cur : PortfolioState} {policy : TransitionPolicy}
variable {o : ResumeTickObservation} {event : ExternalTriggerEvidence}
variable {requirement : CoreVerificationRequirement} {receipt : CoreVerificationReceipt}
variable {t : PortfolioTransitionResult} {call : TransitionCall} {refs : List String}

-- The observation that the trigger binds.
def ResumeTickObservation.boundTo (o : ResumeTickObservation) (event : ExternalTriggerEvidence) :
    ResumeTickObservation where
  __            := o
  canonicalRefs :=
    (o.canonicalRefs ++ [event.admissionRef, "trigger:" ++ event.digest]).dedup.mergeSort
  hasRefs       := by
    refine List.ne_nil_of_mem (a := event.admissionRef) ?_
    rw [List.mem_mergeSort]
    simp
  refs          := by
    constructor
    case left  =>
      intro ref hr
      rw [List.mem_mergeSort, List.mem_dedup] at hr
      simp only [List.mem_append, List.mem_cons, List.not_mem_nil, or_false] at hr
      rcases hr with hr | rfl | rfl
      · exact o.refs.left ref hr
      · exact event.nonempty ("admission_ref", event.admissionRef) (by simp)
      · exact Text.not_blank_of_head (String.toList_append ..) (by decide)
    case right => exact (List.mergeSort_perm ..).nodup_iff.mpr (List.nodup_dedup _)

theorem boundObservation_eq : boundObservation event o = .ok (o.boundTo event) :=
  (o.boundTo event).new_eq

-- The references of a transition do not decide whether it is accepted.
theorem TransitionCall.apply_refs (h : call.apply state = .ok t)
    (hs : { call with canonicalRefs := refs }.Sound) :
    ∃ t, { call with canonicalRefs := refs }.apply state = .ok t := by
  simp only [TransitionCall.apply, applyActiveTransition, Except.bind_eq_ok, Py.require_eq_ok,
    exists_const] at h
  obtain ⟨_, hn, _, rule, hr, hw, _, he, digest, ha, slots, hslots, newState, hnew, _, _, ht⟩ := h
  obtain ⟨hevident, hdistinct, _⟩ := verifyEvidence_eq_ok.mp he
  obtain ⟨c, hc, hbinds⟩ := transitionCheckpoint_eq_ok state newState rule hs ⟨hevident, hdistinct⟩
  simp only [PortfolioTransitionResult.new, Except.bind_eq_ok, Except.pure_eq_ok] at ht
  obtain ⟨⟨h₁⟩, _, ⟨h₂⟩, _, ⟨h₃⟩, _, ⟨h₄⟩, _, ⟨h₅⟩, _, ⟨h₆⟩, _, _⟩ := ht
  have h₇ : c.portfolioId = newState.portfolioId ∧ c.portfolioGeneration = newState.generation ∧
      c.portfolioStateDigest = newState.digest :=
    ⟨hbinds.portfolioId, hbinds.generation, hbinds.stateDigest⟩
  obtain ⟨t, hresult⟩ : ∃ t, PortfolioTransitionResult.new state.digest call.policy.digest rule.digest
      rule.effect newState c slots.replacementWorkId digest slots.wakeAdmissionDigest = .ok t := by
    simp only [PortfolioTransitionResult.new, Guard.sha256_of h₁, Guard.optionalNonempty_of h₂,
      Guard.optionalSha256_of h₃, Py.check_of h₄, Py.check_of h₅, Py.check_of h₆, Py.check_of h₇,
      Except.ok_bind]
    exact ⟨_, rfl⟩
  refine ⟨t, ?_⟩
  simp only [TransitionCall.apply, applyActiveTransition, Except.bind_eq_ok, Py.require_eq_ok,
    exists_const]
  exact ⟨_, hn, hs.hasRefs, rule, hr, hw, (), he, digest, ha, slots, hslots, newState, hnew, c, hc,
    hresult⟩

theorem TickTransition.boundTo (h : TickTransition policy o requirement receipt cur t)
    (event : ExternalTriggerEvidence) :
    ∃ t, TickTransition policy (o.boundTo event) requirement receipt cur t := by
  let call : TransitionCall := {
    policy         := policy
    event          := o.event
    evidence       := o.evidence
    actionRef      := o.actionRef
    observedAt     := o.observedAt
    summary        := o.summary
    canonicalRefs  := tickRefs o requirement receipt
    uncertainties  := o.uncertainties
    replacement    := none
    wakeAdmission  := o.wakeAdmission
    authorityGrant := o.authorityGrant }
  let refs := tickRefs (o.boundTo event) requirement receipt
  have hs : { call with canonicalRefs := refs }.Sound := by
    have hn := o.nonempty
    constructor
    case nonempty      => simp_all [call]
    case hasRefs       => simp [refs, tickRefs]
    case refs          =>
      intro ref hr
      simp only [refs, tickRefs, List.mem_append, List.mem_cons, List.not_mem_nil, or_false] at hr
      rcases hr with hr | rfl | rfl | rfl
      · exact (o.boundTo event).refs.left ref hr
      · exact Text.not_blank_of_head (String.toList_append ..) (by decide)
      · exact Text.not_blank_of_head (String.toList_append ..) (by decide)
      · exact Text.not_blank_of_head (String.toList_append ..) (by decide)
    case uncertainties => exact o.unique
  obtain ⟨t, ht⟩ := @TransitionCall.apply_refs _ cur _ call refs h.transition hs
  exact ⟨t, ht, h.generation, h.stateDigest, h.portfolioId, h.policy⟩

end Bound

section Deliveries

variable [Sha256] {s s' s₁ s₂ : Portfolios} {event : ExternalTriggerEvidence}
variable {bound : ResumeTickObservation} {policy : TransitionPolicy} {cur before after : PortfolioState}
variable {requirement : CoreVerificationRequirement} {receipt : CoreVerificationReceipt}
variable {t : PortfolioTransitionResult} {latest latest' : Option ExecutionCheckpoint}
variable {result : ResumeTickResult} {eventId : String} {body : TransitionBody}
variable {gates : TransitionGates}

theorem bindStatements_fresh (hn : s.binding? event.identity = none) :
    ∃ s', bindStatements event bound s = .ok ((), s') ∧ s'.Bound event bound := by
  let row : TriggerBindingRow := ⟨event.identity, event.digest, bound.digest⟩
  have hfresh : ∀ column ∈ [TriggerBindingRow.identity],
      s.triggerBindings.select column (column row) = none := List.forall_mem_singleton.mpr hn
  have ⟨bindings, hi⟩ := Table.insert?_of_fresh hfresh
  refine ⟨{ s with triggerBindings := bindings }, ?_, ?_⟩
  case refine_1 =>
    rw [bindStatements, Statements.get_bind_eq_ok]
    simp only [hn, Statements.lift_bind_eq_ok, Py.ofOption_eq_ok, Statements.set_eq_ok]
    exact ⟨bindings, hi, rfl⟩
  case refine_2 =>
    rw [Bound, binding?, Table.select_insert hi (by simp)]
    simp [row]

-- The first delivery of a trigger to a new portfolio.
theorem consumeBound_run_first (hs : s.Consistent) (hh : s.Holds cur none)
    (he : s.checkpoints = .empty) (hn : s.binding? event.identity = none)
    (hg : gateOpen receipt requirement = true)
    (ht : TickTransition policy bound requirement receipt cur t)
    (hd : t.newState.digest ≠ cur.digest) :
    ∃ (r : ResumeTickResult) (s' : Portfolios),
      (consumeBound cur.portfolioId event bound policy requirement receipt).run s = (.ok r, s') ∧
      r.disposition = .committed ∧ s'.Consistent ∧ s'.Holds t.newState (some t.checkpoint) ∧
      s'.Bound event bound ∧
      checkpointPayloads cur.portfolioId s' = [serializeCheckpoint t.checkpoint] := by
  obtain ⟨s₁, hbind, hbound⟩ := @bindStatements_fresh _ s event bound hn
  have ⟨hb, _⟩ := bindStatements_eq_ok hbind
  have he₁ : s₁.checkpoints = .empty := hb.checkpoints.trans he
  have hs₁ := hb.consistent hs
  have hh₁ : s₁.Holds cur none := hh.congr (by rw [head?, head?, hb.heads])
    (by rw [checkpoint?, checkpoint?, hb.checkpoints])
  have hf : s₁.Fresh t.checkpoint := by
    intro column _
    rw [he₁]
    rfl
  obtain ⟨r, s', hrun, hr, hc⟩ := resumeTick_run_of hs₁ hh₁ hg ht rfl hf hd
  rw [ht.portfolioId] at hrun
  have hpayloads : checkpointPayloads cur.portfolioId s₁ = [] := by
    simp [checkpointPayloads, he₁, Table.empty]
  have hpayloads' : checkpointPayloads cur.portfolioId s' = [serializeCheckpoint t.checkpoint] := by
    have hi := hc.inserts
    have hid : t.checkpoint.portfolioId = cur.portfolioId := hc.binds.portfolioId.trans hc.portfolioId
    rw [he₁, Table.insert?, dif_pos (by simp [Table.empty]), Option.some.injEq] at hi
    simp [checkpointPayloads, ← hi, Table.empty, portfolioCheckpointRow, hid]
  refine ⟨r, s', ?_, hr, hc.consistent hs₁, hc.holds, ?_, hpayloads'⟩
  case refine_2 => rwa [Bound, binding?, hc.bindings]
  simp only [consumeBound, Program.bind_run_ok]
  refine ⟨_, s, recoverPortfolio_run hs hh, (), s₁, Program.transaction_run_ok.mpr hbind, _, s₁, rfl, ?_⟩
  rw [hpayloads]
  simp only [findApplied, Program.lift_run]
  exact ⟨none, s₁, rfl, hrun⟩

-- The delivery of a trigger that another client has delivered first.
theorem consumeBound_run_again {cp : ExecutionCheckpoint} (hs : s.Consistent)
    (hh : s.Holds cur latest) (hb : s.Bound event bound)
    (he : checkpointPayloads cur.portfolioId s = [serializeCheckpoint cp])
    (hm : bound.checkpointRef ∈ cp.canonicalRefs) :
    ∃ r, (consumeBound cur.portfolioId event bound policy requirement receipt).run s = (.ok r, s) ∧
      r.disposition = .alreadyApplied := by
  have hp := cur.nonempty ("portfolio_id", cur.portfolioId) (by simp)
  refine ⟨{ idleResult cur.portfolioId .alreadyApplied (some bound.digest) cur
    (portfolioRecoveryReport hh.latest) with checkpointDigest := some cp.digest }, ?_, rfl⟩
  simp only [consumeBound, Program.bind_run_ok]
  refine ⟨_, s, recoverPortfolio_run hs hh, (), s, ?_, _, s, rfl, ?_⟩
  case refine_1 => exact Program.transaction_run_ok.mpr (bindStatements_again hb)
  case refine_2 =>
    rw [he]
    simp only [findApplied, deserializeCheckpoint_serialize, Except.ok_bind, if_pos hm,
      Program.lift_run]
    exact ⟨some cp, s, rfl, congrArg (·, s) (idleResult_valid hp cp).checked⟩

omit [Sha256] in
theorem PersistentRuntimeEventReport.checked_of {r : PersistentRuntimeEventReport}
    (hn : ∀ x ∈ [("event_id", r.eventId), ("portfolio_id", r.portfolioId)], ¬Text.Blank x.2)
    (ho : r.operation ∈ ["bootstrap", "transition"])
    (hs : ∀ x ∈ [("status", r.status)], ¬Text.Blank x.2)
    (hd : ∀ x ∈ [("pre_state_digest", r.preStateDigest), ("post_state_digest", r.postStateDigest)],
      "sha256:".toList <+: x.2.toList) : r.checked = .ok r := by
  have hdigests : Guard.each .persistentRuntimeError ("sha256:".toList <+: ·.toList)
      (fun name _ => name ++ " must be a digest")
      [("pre_state_digest", r.preStateDigest), ("post_state_digest", r.postStateDigest)] =
        .ok ⟨hd⟩ := Guard.each_of hd
  simp only [checked, Guard.nonempty_of hn, Guard.nonempty_of hs, hdigests, Py.require,
    Except.ensure, if_pos ho, Except.ok_bind]
  rfl

-- What a transition event does after its first recovery, which may be outdated by then.
theorem exists_transitionRest (hid : ¬Text.Blank eventId)
    (hadm : admitTrigger body.contract body.trigger body.observation body.policy
      gates.authenticatedTriggerDigest gates.coreRequirement gates.coreVerification
      gates.coreReport = .ok ()) :
    ∃ rest, transitionEvent eventId body gates =
        recoverPortfolioAfterRestart body.contract.portfolioId >>= rest ∧
      ∀ before latest recovery s s' result after latest',
        (consumeBound body.contract.portfolioId body.trigger
          (body.observation.boundTo body.trigger) body.policy gates.coreRequirement
          gates.coreVerification).run s = (.ok result, s') → s'.Consistent →
        s'.Holds after latest' → body.contract.portfolioId = after.portfolioId →
        ∃ report, (rest (before, latest, recovery)).run s = (.ok report, s') ∧
          report.eventId = eventId ∧ report.Reads before after latest' result.disposition := by
  refine ⟨_, rfl, ?_⟩
  intro before latest recovery s s' result after latest' hc hs' hh' hp
  let humanRequired :=
    result.humanRequired || latest'.any ExecutionCheckpoint.authorityStop ||
      after.active.state = .humanGate
  let report : PersistentRuntimeEventReport := {
    eventId            := eventId
    operation          := "transition"
    status             := PyLiteral.spelling result.disposition
    portfolioId        := after.portfolioId
    preGeneration      := before.generation
    postGeneration     := after.generation
    preStateDigest     := before.digest
    postStateDigest    := after.digest
    checkpointDigest   := latest'.map ExecutionCheckpoint.digest
    humanRequired      := humanRequired
    requestedActionRef :=
      if Text.Truthy result.requestedActionRef then result.requestedActionRef
      else if humanRequired then some after.active.nextActionRef
      else none }
  have hreport : report.checked = .ok report := by
    refine PersistentRuntimeEventReport.checked_of ?_ (by simp [report]) ?_ ?_
    case refine_1 =>
      have hn := after.nonempty ("portfolio_id", after.portfolioId) (by simp)
      simpa [report] using ⟨hid, hn⟩
    case refine_2 =>
      refine List.forall_mem_singleton.mpr ?_
      change ¬Text.Blank (PyLiteral.spelling result.disposition)
      cases result.disposition <;> decide
    case refine_3 =>
      simp only [List.mem_cons, List.not_mem_nil, or_false, forall_eq_or_imp, forall_eq]
      exact ⟨before.isSha256_digest.left, after.isSha256_digest.left⟩
  refine ⟨report, ?_, rfl, ⟨rfl, rfl, rfl, rfl, rfl, rfl, rfl⟩⟩
  have hrecover := recoverPortfolio_run hs' hh'
  rw [← hp] at hrecover
  simp only [consumeExternalTrigger, Program.bind_run_ok, Program.lift_run]
  exact ⟨result, s', ⟨(), s, congrArg (·, s) hadm, _, s, congrArg (·, s) boundObservation_eq, hc⟩,
    _, s', hrecover, congrArg (·, s') hreport⟩

end Deliveries

section Redelivery

variable [Sha256]

def enterTrigger (rule : TransitionRule) : ExternalTriggerEvidence where
  source            := "source"
  eventId           := "event"
  eventKind         := "kind"
  payloadDigest     := sha256Digest .none
  observationDigest := (enterObservation rule).digest
  admissionRef      := "admission"
  nonempty          := by decide
  isSha256          := by
    simp only [List.mem_cons, List.not_mem_nil, or_false, forall_eq_or_imp, forall_eq]
    exact ⟨isLowerSha256_sha256Digest _, isLowerSha256_sha256Digest _⟩

def enterContract (rule : TransitionRule) : TriggerContract where
  source          := "source"
  eventKind       := "kind"
  portfolioId     := "portfolio"
  policyDigest    := (singlePolicy rule).digest
  transitionEvent := "execution_started"
  isSha256        := List.forall_mem_singleton.mpr (isLowerSha256_sha256Digest _)
  nonempty        := by decide

def enterBody (rule : TransitionRule) : TransitionBody where
  policy      := singlePolicy rule
  contract    := enterContract rule
  trigger     := enterTrigger rule
  observation := enterObservation rule

def enterGates (rule : TransitionRule) : TransitionGates where
  authenticatedTriggerDigest := (enterTrigger rule).digest
  coreRequirement            := coreRequirement
  coreVerification           := coreReceipt
  coreReport                 := ⟨coreReceipt.targetRevision, coreReceipt.digest, true⟩

theorem enterBody_admitted (rule : TransitionRule) :
    admitTrigger (enterBody rule).contract (enterBody rule).trigger (enterBody rule).observation
      (enterBody rule).policy (enterGates rule).authenticatedTriggerDigest
      (enterGates rule).coreRequirement (enterGates rule).coreVerification
      (enterGates rule).coreReport = .ok () := by
  have hd : ∀ x ∈ [("authenticated_admission_digest", (enterTrigger rule).digest)],
      IsLowerSha256 x.2 := List.forall_mem_singleton.mpr (isLowerSha256_sha256Digest _)
  simp only [admitTrigger, Except.bind_eq_ok, Py.require_eq_ok, exists_const]
  exact ⟨⟨hd⟩, Guard.each_of hd, rfl, ⟨rfl, rfl⟩, ⟨⟨rfl, rfl, rfl⟩, rfl⟩, rfl, ⟨rfl, rfl, rfl⟩,
    ⟨⟨rfl, rfl, rfl⟩, le_rfl⟩, rfl⟩

-- Two clients of one store deliver the same event.
structure Redelivered (c : Config Portfolios PyError (Option PersistentRuntimeEventReport))
    (report report' : PersistentRuntimeEventReport)
    (made made' : List (Portfolios × Portfolios)) : Prop where
  reachable : Config.Reachable PortfolioClient.Starts (.initial .empty) c
  first     : ⟨.ok (some report), made⟩ ∈ c.returned
  second    : ⟨.ok (some report'), made'⟩ ∈ c.returned
  committed : report.status = "committed" ∧ report.preGeneration = 0 ∧ report.postGeneration = 1
  applied   :
    report'.status = "already_applied" ∧ report'.preGeneration = 0 ∧ report'.postGeneration = 1

-- The second delivery has recovered the portfolio before the first one commits.
theorem exists_redelivered {rule : TransitionRule} {t : PortfolioTransitionResult}
    (ht : TickTransition (singlePolicy rule)
      ((enterObservation rule).boundTo (enterTrigger rule)) coreRequirement coreReceipt enterState t)
    (hd : t.newState.digest ≠ enterState.digest) :
    ∃ c report report' made made', Redelivered c report report' made made' := by
  let body := enterBody rule
  let gates := enterGates rule
  let call : PortfolioCall (Option PersistentRuntimeEventReport) := PortfolioClient.perform <|
    .event (PersistentRuntime.payload "event" "transition" (asdict body))
      (some gates.authenticatedTriggerDigest) (some gates.coreRequirement)
      (some gates.coreVerification) (some gates.coreReport)
  obtain ⟨rest, hevent, hrest⟩ := @exists_transitionRest _ "event" body gates (by decide)
    (enterBody_admitted rule)
  have hcall : call = recoverPortfolioAfterRestart "portfolio" >>= fun recovered =>
      rest recovered >>= fun report => pure (some report) := by
    have hp := @processPersistentRuntimeEvent_payload _ "event" gates.authenticatedTriggerDigest body
      gates.coreRequirement gates.coreVerification gates.coreReport (by decide) ⟨rfl, rfl⟩
    refine Eq.trans ?_ (Program.bind_assoc _ _ _)
    exact congrArg (· >>= fun report => pure (some report)) (hp.trans hevent)
  obtain ⟨head, s, hinit, hcreates⟩ := initializePortfolio_run_of empty_consistent
    (rfl : enterState.generation = 0) rfl
  have hs := hcreates.consistent empty_consistent
  have hh := hcreates.holds empty_consistent
  have hg : gateOpen coreReceipt coreRequirement = true := by
    simp [gateOpen, coreReceipt, coreRequirement]
  have hfresh : s.binding? (enterTrigger rule).identity = none := by
    rw [binding?, hcreates.bindings]
    rfl
  obtain ⟨r, s', hrun, hr, hs', hh', hbound, hpayloads⟩ :=
    consumeBound_run_first hs hh hcreates.checkpoints hfresh hg ht hd
  have hid : t.newState.portfolioId = "portfolio" := ht.precedes.portfolioId
  have hgen : t.newState.generation = 1 := ht.precedes.generation
  obtain ⟨r', hrun', hr'⟩ : ∃ r', (consumeBound "portfolio" body.trigger
      (body.observation.boundTo body.trigger) body.policy gates.coreRequirement
      gates.coreVerification).run s' = (.ok r', s') ∧ r'.disposition = .alreadyApplied :=
    hid ▸ consumeBound_run_again hs' hh' hbound (hid ▸ hpayloads) (checkpointRef_mem ht.transition)
  obtain ⟨report, hreport, _, hreads⟩ := hrest enterState none (portfolioRecoveryReport hh.latest) s s' r
    _ _ hrun hs' hh' hid.symm
  obtain ⟨report', hreport', _, hreads'⟩ := hrest enterState none (portfolioRecoveryReport hh.latest) s' s'
    r' _ _ hrun' hs' hh' hid.symm
  have hrecover : (recoverPortfolioAfterRestart "portfolio").run s = _ := recoverPortfolio_run hs hh
  have hfirst : call.run s = (.ok (some report), s') := by
    rw [hcall]
    simp only [Program.bind_run_ok]
    exact ⟨_, s, hrecover, report, s', hreport, rfl⟩
  obtain ⟨c, hc, rfl⟩ : ∃ c, Config.Reachable PortfolioClient.Starts (.initial .empty) c ∧
      c.store = s := by
    refine Config.Reachable.perform ⟨_, .refl, rfl⟩ ⟨.create enterState, rfl⟩
      (Program.bind_run_ok.mpr ⟨head, s, hinit, rfl⟩)
  have hstart : Config.Reachable PortfolioClient.Starts c
      ⟨c.store, ⟨call, []⟩ :: c.running, c.returned⟩ := .single <| .start ⟨_, rfl⟩
  have hpaused := hstart
  rw [hcall] at hpaused
  replace hpaused := hpaused.trans (Config.reachable_bind hrecover)
  have hreached := (hc.trans hpaused).trans <| Config.reachable_perform (p := call) ⟨_, rfl⟩
  simp only [Config.perform, hfirst] at hreached
  have hsecond : (rest (enterState, none, portfolioRecoveryReport hh.latest) >>= fun report =>
      pure (some report)).run s' = (.ok (some report'), s') :=
    Program.bind_run_ok.mpr ⟨report', s', hreport', rfl⟩
  replace hreached := hreached.trans Config.reachable_run
  rw [hsecond] at hreached
  refine ⟨_, report, report', _, _, ⟨hreached,
    List.mem_append_left _ <| List.mem_append_right _ <| List.mem_singleton_self _,
    List.mem_append_right _ <| List.mem_singleton_self _, ?_, ?_⟩⟩
  case refine_1 =>
    rw [hreads.status, hreads.preGeneration, hreads.postGeneration, hr, hgen]
    exact ⟨rfl, rfl, rfl⟩
  case refine_2 =>
    rw [hreads'.status, hreads'.preGeneration, hreads'.postGeneration, hr', hgen]
    exact ⟨rfl, rfl, rfl⟩

omit [Sha256] in
-- The transition of the delivered observation, which moves the portfolio to another digest.
theorem exists_boundSlip :
    let _ := Sha256.byGeneration
    ∃ t, TickTransition (singlePolicy slipRule)
        ((enterObservation slipRule).boundTo (enterTrigger slipRule)) coreRequirement coreReceipt
        enterState t ∧ t.newState.digest ≠ enterState.digest := by
  have ht : ∀ [Sha256], ∃ t, TickTransition (singlePolicy slipRule)
      ((enterObservation slipRule).boundTo (enterTrigger slipRule)) coreRequirement coreReceipt
      enterState t := by
    intro _
    have ⟨t, ht⟩ := exists_slipped
    exact ht.boundTo (enterTrigger slipRule)
  let _ := Sha256.byGeneration
  have ⟨t, ht⟩ := ht
  refine ⟨t, ht, sha256Digest_ne_of_rank ?_⟩
  rw [rankOfGeneration_state, rankOfGeneration_state, ht.precedes.generation]
  decide

omit [Sha256] in
theorem exists_redelivered_byGeneration :
    let _ := Sha256.byGeneration
    ∃ c report report' made made', Redelivered c report report' made made' := by
  intro _
  have ⟨_, ht, hd⟩ := exists_boundSlip
  exact exists_redelivered ht hd

omit [Sha256] in
-- A client whose event another one has committed reports that it has been applied already, with the
-- generation of before and the generation of after.
theorem eventReport_redelivered :
    let _ := Sha256.byGeneration
    ∃ (c : Config Portfolios PyError (Option PersistentRuntimeEventReport))
      (report : PersistentRuntimeEventReport) (made : List (Portfolios × Portfolios)),
      Config.Reachable PortfolioClient.Starts (.initial .empty) c ∧
        ⟨.ok (some report), made⟩ ∈ c.returned ∧ report.status = "already_applied" ∧
        report.preGeneration = 0 ∧ report.postGeneration = 1 := by
  intro _
  have ⟨c, _, report, _, made, h⟩ := exists_redelivered_byGeneration
  exact ⟨c, report, made, h.reachable, h.second, h.applied⟩

omit [Sha256] in
theorem eventReport_coherent_iff_redelivered :
    let _ := Sha256.byGeneration
    ∃ (report report' : PersistentRuntimeEventReport) (made made' : List (Portfolios × Portfolios)),
      (report.Coherent made ↔ Undisturbed report.portfolioId made) ∧
        (report'.Coherent made' ↔ Undisturbed report'.portfolioId made') ∧
        report.status = "committed" ∧ report'.status = "already_applied" := by
  intro _
  have ⟨c, report, report', made, made', h⟩ := exists_redelivered_byGeneration
  exact ⟨report, report', made, made', eventReport_coherent_iff h.reachable report made h.first,
    eventReport_coherent_iff h.reachable report' made' h.second, h.committed.left, h.applied.left⟩

end Redelivery

end GeneralExecution
