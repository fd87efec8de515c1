import GeneralExecution.Portfolio.Theorems.BurstHost
import GeneralExecution.Portfolio.Theorems.BurstWire

namespace GeneralExecution

open Portfolios

section History

variable [Sha256]

-- One access in a run of bursts and other clients.
abbrev BurstAccess := Event BurstClient Portfolios

-- A run of any number of bursts and other clients of one store, which starts empty, with the history
-- of its accesses.
abbrev BurstRun :=
  Config (Portfolios × List BurstAccess) PyError (BurstClient × Py BurstAnswer)

namespace BurstRun

def Starts : Program (Portfolios × List BurstAccess) PyError (BurstClient × Py BurstAnswer) → Prop :=
  Protocol.LoggedStarts (Protocol.Clients BurstClient.call)

def Reached (c : BurstRun) : Prop :=
  Config.Reachable Starts (.initial (.empty, [])) c

variable {c : BurstRun} {client : BurstClient} {r : Py BurstAnswer}
variable {made : List ((Portfolios × List BurstAccess) × (Portfolios × List BurstAccess))}

theorem Reached.recorded (h : c.Reached) : bursts.Recorded .empty c.store :=
  (Protocol.clients_sound BurstClient.call_respects empty_consistent h).inv

theorem Reached.answered (h : c.Reached) (hr : ⟨.ok (client, r), made⟩ ∈ c.returned) :
    bursts.Answered .empty BurstClient.Does client r made c.store :=
  Protocol.answered_of_returned BurstClient.call_respects empty_consistent h hr

end BurstRun

-- What the bursts of a run have done, whether they have returned, raised or are still going on.
structure BurstHistory (c : BurstRun) : Prop where
  commits  : ∀ e ∈ c.store.2, ∀ manifest gates cur latest new cp, e.label = .burst manifest gates →
    e.before.Commits e.after cur latest new cp → cur.portfolioId = manifest.portfolioId ∧
      ∃ ref body bound t, BurstTransition manifest gates ref body bound ∧
        e.before.Bound body.trigger bound ∧ bound.authorityGrant = none ∧
        TickTransition body.policy bound gates.coreRequirement gates.coreVerification cur t ∧
        new = t.newState ∧ cp = t.checkpoint
  budget   : ∀ manifest gates r made, ⟨.ok (.burst manifest gates, r), made⟩ ∈ c.returned →
    Accesses.gained (progress manifest.portfolioId) (Protocol.stores made) ≤ manifest.maxTransitions
  reported : ∀ manifest gates report made,
    ⟨.ok (.burst manifest gates, .ok (.burst report)), made⟩ ∈ c.returned →
      report.Accounts manifest gates (Protocol.stores made)

variable {c : BurstRun} {manifest : PersistentBurstManifest} {gates : BurstGates}
variable {report : PersistentBurstExecutionReport} {ref : PersistentBurstEventRef}
variable {body : TransitionBody} {bound : ResumeTickObservation}
variable {made : List ((Portfolios × List BurstAccess) × (Portfolios × List BurstAccess))}

theorem BurstTransition.ungranted (h : BurstTransition manifest gates ref body bound) :
    bound.authorityGrant = none := by
  obtain ⟨event, _, eventId, _, data, _, hbody⟩ := h.event
  simp only [PersistentRuntime.transitionBody, Except.bind_eq_ok, Py.require_eq_ok,
    Except.pure_eq_ok, exists_const] at hbody
  obtain ⟨_, _, _, _, _, _, _, _, _, _, _, hn, rfl⟩ := hbody
  have hbound := h.admitted.bound
  simp only [boundObservation, ResumeTickObservation.new, Except.bind_eq_ok, Except.pure_eq_ok]
    at hbound
  obtain ⟨_, _, _, _, _, _, _, _, _, _, _, _, _, _, _, _, rfl⟩ := hbound
  exact Option.isNone_iff_eq_none.mp hn

theorem burstHistory (h : c.Reached) : BurstHistory c where
  commits e he manifest gates cur latest new cp hl hc := by
    have hmoves := (h.recorded.admits e he).guar.right
    rw [hl] at hmoves
    rcases hmoves with _ | hb | ⟨ht, hb, htick, hc'⟩
    case keeps   => exact absurd hb.checkpoints hc.ne_checkpoints
    case applies =>
      obtain ⟨rfl, rfl, rfl, rfl⟩ := hc.unique hc'
      exact ⟨htick.portfolioId.symm.trans ht.portfolioId, _, _, _, _, ht, hb, ht.ungranted, htick, rfl,
        rfl⟩
  budget manifest gates r made hr := by
    obtain ⟨s, _, _, result, hended, _, _⟩ := (h.answered hr).post
    exact hended.gained_le
  reported manifest gates report made hr := by
    obtain ⟨s, _, _, result, hended, he, hchained⟩ := (h.answered hr).post
    cases result
    case error e   => cases he
    case ok report =>
      cases he
      exact hended.accounts hchained.rely

-- The report of a burst is of contiguous states, exactly if no other client has moved the head of the
-- portfolio meanwhile.
theorem burstReport_contiguous_iff (h : c.Reached)
    (hr : ⟨.ok (.burst manifest gates, .ok (.burst report)), made⟩ ∈ c.returned) :
    report.Contiguous ↔ Undisturbed manifest.portfolioId (Protocol.stores made) := by
  obtain ⟨s, _, _, result, hended, he, hchained⟩ := (h.answered hr).post
  cases result
  case error e   => cases he
  case ok report =>
    cases he
    exact hended.contiguous_iff hchained.rely fun m hm => (hchained.guar m hm).left

end History

section Entering

variable [Sha256]

def enterPayload : PyValue :=
  .dict [
    ("schema_version", toPy "ge.persistent-runtime-event.v1"),
    ("event_id", toPy "event"),
    ("operation", toPy "transition"),
    ("body", .dict (asdict (enterBody slipRule)))]

theorem enterPayload_distinct : distinctNames enterPayload = true := rfl

theorem enterPayload_inert : ∀ k ∈ memberNames enterPayload, ¬CredentialShaped k := by
  have hall : (memberNames enterPayload).all (fun k => ¬CredentialShaped k) = true := rfl
  simpa using hall

def enterRef : PersistentBurstEventRef where
  path          := "burst-events/event.json"
  contentDigest := contentDigest (canonicalJson enterPayload)
  version       := rfl
  nonempty      := by decide
  isSha256      := List.forall_mem_singleton.mpr (isLowerSha256_contentDigest _)
  relative      := by decide
  located       := by decide
  json          := by decide

def enterManifest : PersistentBurstManifest where
  burstId                  := "burst"
  portfolioId              := "portfolio"
  sourceKind               := .heartbeat
  expectedStartGeneration  := 0
  expectedStartStateDigest := enterState.digest
  maxTransitions           := 1
  eventRefs                := [enterRef]
  createdAt                := "created"
  version                  := rfl
  nonempty                 := by decide
  isSha256                 := List.forall_mem_singleton.mpr (isLowerSha256_sha256Digest _)
  bounded                  := ⟨le_rfl, by decide⟩
  hasEvents                := List.cons_ne_nil _ _
  fits                     := le_rfl
  unique                   := List.nodup_singleton _
  inert                    := rfl

def enterBurst : BurstGates where
  load             := fun _ => .ok (.text (canonicalJson enterPayload))
  coreRequirement  := coreRequirement
  coreVerification := coreReceipt
  coreReport       := ⟨coreReceipt.targetRevision, coreReceipt.digest, true⟩

theorem loadBurstPayload_enter : loadBurstPayload enterBurst.load enterRef =
    .ok (PersistentRuntime.payload "event" "transition" (asdict (enterBody slipRule))) := by
  have hparse : (Json.loads (canonicalJson enterPayload)).map Json.asDicts =
      some (normalize enterPayload) := by
    rw [loads_canonicalJson]
    exact congrArg some <| asDicts_normalize enterPayload enterPayload_distinct
  simp only [loadBurstPayload, Except.bind_eq_ok]
  refine ⟨.text (canonicalJson enterPayload), rfl, ?_⟩
  simp only [Except.bind_eq_ok, Py.require_eq_ok, exists_const, Py.ofOption_eq_ok]
  exact ⟨rfl, hparse⟩

theorem loadBurstEvent_enter : loadBurstEvent enterManifest enterBurst.load [] enterRef =
    .ok {
      payload       := PersistentRuntime.payload "event" "transition" (asdict (enterBody slipRule))
      eventId       := "event"
      triggerDigest := (enterBody slipRule).trigger.digest } := by
  have hname : PosixPath.name "burst-events/event.json" = "event" ++ ".json" := by decide
  refine loadBurstEvent_payload ⟨rfl, rfl⟩ (by decide) loadBurstPayload_enter (fun k hk => ?_) hname
    List.not_mem_nil rfl
  exact enterPayload_inert k <| memberNames_of_normalize enterPayload hk

theorem burstStep_enter {before after : PortfolioState} {latest : Option ExecutionCheckpoint}
    {result : PersistentRuntimeEventReport} (hid : result.eventId = "event")
    (hr : result.Reads before after latest .committed) (hg : before.generation ≤ after.generation) :
    ∃ step, burstStep 0 enterRef result = .ok step ∧ step.status = "committed" := by
  have hn : ¬Text.Blank "burst-events/event.json" ∧ ¬Text.Blank "event" ∧ ¬Text.Blank "committed" := by
    decide
  refine ⟨_, PersistentBurstStep.checked_of ?_ ?_ ?_, hr.status⟩
  case refine_1 =>
    rw [hid, hr.status]
    simp only [List.mem_cons, List.not_mem_nil, or_false, forall_eq_or_imp, forall_eq]
    exact hn
  case refine_2 =>
    rw [hr.preStateDigest, hr.postStateDigest]
    simp only [List.mem_cons, List.not_mem_nil, or_false, forall_eq_or_imp, forall_eq]
    exact ⟨isLowerSha256_contentDigest _, isLowerSha256_sha256Digest _, isLowerSha256_sha256Digest _,
      isLowerSha256_sha256Digest _⟩
  case refine_3 =>
    rw [hr.preGeneration, hr.postGeneration]
    exact hg

variable {t : PortfolioTransitionResult}

theorem slipped_state {o : ResumeTickObservation}
    (ht : TickTransition (singlePolicy slipRule) o coreRequirement coreReceipt enterState t)
    (ho : o.event = "execution_started") : t.newState.active.state = .humanGate := by
  have ⟨rule, hrule⟩ := tickTransition_eq_ok ht.transition
  have hmatched := hrule.matched
  rw [ho] at hmatched
  cases Except.ok.inj <| hmatched.symm.trans match_slipRule
  have ⟨slots, hslots, hfill⟩ := hrule.slots
  have ⟨_, _, ha⟩ := transitionSlots_staying hslots hfill (by decide)
  exact (continuedActive_eq_ok ha).state

section Running

variable {s : Portfolios} (hs : s.Consistent) (hh : s.Holds enterState none)
variable (he : s.checkpoints = .empty) (hn : s.binding? (enterTrigger slipRule).identity = none)
variable (ht : TickTransition (singlePolicy slipRule)
  ((enterObservation slipRule).boundTo (enterTrigger slipRule)) coreRequirement coreReceipt enterState t)
variable (hd : t.newState.digest ≠ enterState.digest)

include hs hh he hn ht hd

theorem processPersistentRuntimeEvent_run_enter :
    ∃ result s', (processPersistentRuntimeEvent
        (PersistentRuntime.payload "event" "transition" (asdict (enterBody slipRule)))
        (some (enterBody slipRule).trigger.digest) (some enterBurst.coreRequirement)
        (some enterBurst.coreVerification) (some enterBurst.coreReport)).run s = (.ok result, s') ∧
      result.eventId = "event" ∧
      result.Reads enterState t.newState (some t.checkpoint) .committed ∧ s'.Consistent ∧
      s'.Holds t.newState (some t.checkpoint) := by
  have hg : gateOpen coreReceipt coreRequirement = true := by
    simp [gateOpen, coreReceipt, coreRequirement]
  obtain ⟨r, s', hrun, hr, hs', hh', _, _⟩ := consumeBound_run_first hs hh he hn hg ht hd
  obtain ⟨rest, hevent, hrest⟩ := @exists_transitionRest _ "event" (enterBody slipRule)
    (enterGates slipRule) (by decide) (enterBody_admitted slipRule)
  have hid : t.newState.portfolioId = "portfolio" := ht.precedes.portfolioId
  obtain ⟨result, hresult, heventId, hreads⟩ := hrest enterState none
    (portfolioRecoveryReport hh.latest) s s' r _ _ hrun hs' hh' hid.symm
  have hprocess := @processPersistentRuntimeEvent_payload _ "event"
    (enterBody slipRule).trigger.digest (enterBody slipRule) enterBurst.coreRequirement
    enterBurst.coreVerification enterBurst.coreReport (by decide) ⟨rfl, rfl⟩
  refine ⟨result, s', ?_, heventId, hr ▸ hreads, hs', hh'⟩
  refine (congrArg (·.run s) (hprocess.trans hevent)).trans ?_
  exact Program.bind_run_ok.mpr ⟨_, s, recoverPortfolio_run hs hh, hresult⟩

-- A burst that commits the one event of its manifest, which leads to the gate.
theorem executePersistentBurst_run_enter :
    ∃ report s', (executePersistentBurst enterManifest enterBurst).run s = (.ok report, s') ∧
      committedSteps report.steps = 1 := by
  obtain ⟨result, s', hprocess, heventId, hreads, hs', hh'⟩ :=
    processPersistentRuntimeEvent_run_enter hs hh he hn ht hd
  have hid : t.newState.portfolioId = "portfolio" := ht.precedes.portfolioId
  have hle : enterState.generation ≤ t.newState.generation := Nat.zero_le _
  have hrecover : (recoverPortfolioAfterRestart "portfolio").run s = _ := recoverPortfolio_run hs hh
  have hrecover' : (recoverPortfolioAfterRestart "portfolio").run s' = _ :=
    hid ▸ recoverPortfolio_run hs' hh'
  obtain ⟨step, hstep, hstatus⟩ := burstStep_enter heventId hreads hle
  have hfound : t.newState.generation = result.postGeneration ∧
      t.newState.digest = result.postStateDigest :=
    ⟨hreads.postGeneration.symm, hreads.postStateDigest.symm⟩
  have hstop : burstStop result t.newState = some (.stopped, "HUMAN_GATE") := by
    have hcommitted : result.status = "committed" := hreads.status
    rw [burstStop, if_neg (not_not_intro hcommitted), if_pos (.inr <| slipped_state ht rfl)]
  obtain ⟨report, hreport, hsteps⟩ := @burstReport_of _ enterManifest enterState t.newState [step]
    .stopped "HUMAN_GATE" (by decide) hle
  refine ⟨report, s', ?_, by rw [hsteps, committedSteps]; simp [hstatus]⟩
  have hbudget : ¬enterManifest.maxTransitions ≤ 0 := Nat.not_succ_le_zero 0
  simp only [executePersistentBurst, Program.bind_run_ok]
  refine ⟨_, s, hrecover, ?_⟩
  rw [if_pos ⟨rfl, rfl⟩]
  change (burstFrom enterManifest enterBurst enterState 0 [enterRef] [] [] enterState).run s = _
  rw [burstFrom, if_neg hbudget]
  simp only [Program.bind_run_ok, Program.lift_run]
  refine ⟨_, s, congrArg (·, s) loadBurstEvent_enter, result, s', hprocess, step, s',
    congrArg (·, s') hstep, _, s', hrecover', (), s', congrArg (·, s') (Py.require_of hfound _ _), ?_⟩
  simp only [hstop]
  exact congrArg (·, s') hreport

end Running

theorem exists_enteredBurst
    (ht : TickTransition (singlePolicy slipRule)
      ((enterObservation slipRule).boundTo (enterTrigger slipRule)) coreRequirement coreReceipt
      enterState t)
    (hd : t.newState.digest ≠ enterState.digest) :
    ∃ (c : BurstRun) (report : PersistentBurstExecutionReport)
      (made : List ((Portfolios × List BurstAccess) × (Portfolios × List BurstAccess))),
      c.Reached ∧ ⟨.ok (.burst enterManifest enterBurst, .ok (.burst report)), made⟩ ∈ c.returned ∧
        committedSteps report.steps = 1 := by
  obtain ⟨head, s, hinit, hcreates⟩ := initializePortfolio_run_of empty_consistent
    (rfl : enterState.generation = 0) rfl
  have hcreate : (BurstClient.call (.other (.create enterState))).run .empty =
      (.ok (.other (.head head)), s) :=
    Program.bind_run_ok.mpr ⟨_, s, Program.bind_run_ok.mpr ⟨head, s, hinit, rfl⟩, rfl⟩
  have hfresh : s.binding? (enterTrigger slipRule).identity = none := by
    rw [binding?, hcreates.bindings]
    rfl
  obtain ⟨report, s', hburst, hsteps⟩ :=
    executePersistentBurst_run_enter (hcreates.consistent empty_consistent)
      (hcreates.holds empty_consistent) hcreates.checkpoints hfresh ht hd
  have hcall : (BurstClient.call (.burst enterManifest enterBurst)).run s =
      (.ok (.burst report), s') := Program.bind_run_ok.mpr ⟨report, s', hburst, rfl⟩
  obtain ⟨c, _, hc, hc', _⟩ := Protocol.exists_performed .refl rfl hcreate
  obtain ⟨c', made, hc'', _, _, hreturned, _⟩ := Protocol.exists_performed hc hc' hcall
  exact ⟨c', report, made, hc'', by simp [hreturned], hsteps⟩

omit [Sha256] in
theorem exists_enteredBurst_byGeneration :
    let _ := Sha256.byGeneration
    ∃ (c : BurstRun) (report : PersistentBurstExecutionReport)
      (made : List ((Portfolios × List BurstAccess) × (Portfolios × List BurstAccess))),
      c.Reached ∧ ⟨.ok (.burst enterManifest enterBurst, .ok (.burst report)), made⟩ ∈ c.returned ∧
        committedSteps report.steps = 1 := by
  intro _
  have ⟨_, ht, hd⟩ := exists_boundSlip
  exact exists_enteredBurst ht hd

omit [Sha256] in
-- The history of a burst that has committed the event of its manifest.
theorem burstHistory_committed :
    let _ := Sha256.byGeneration
    ∃ (c : BurstRun) (report : PersistentBurstExecutionReport)
      (made : List ((Portfolios × List BurstAccess) × (Portfolios × List BurstAccess))),
      BurstHistory c ∧ report.Accounts enterManifest enterBurst (Protocol.stores made) ∧
        Accesses.gained (progress "portfolio") (Protocol.stores made) = 1 := by
  intro _
  have ⟨c, report, made, hc, hr, hs⟩ := exists_enteredBurst_byGeneration
  have h := burstHistory hc
  have ha := h.reported _ _ _ _ hr
  exact ⟨c, report, made, h, ha, ha.committed.trans hs⟩

omit [Sha256] in
theorem burstReport_contiguous_iff_committed :
    let _ := Sha256.byGeneration
    ∃ (report : PersistentBurstExecutionReport)
      (made : List ((Portfolios × List BurstAccess) × (Portfolios × List BurstAccess))),
      (report.Contiguous ↔ Undisturbed "portfolio" (Protocol.stores made)) ∧
        committedSteps report.steps = 1 := by
  intro _
  have ⟨c, report, made, hc, hr, hs⟩ := exists_enteredBurst_byGeneration
  exact ⟨report, made, burstReport_contiguous_iff hc hr, hs⟩

end Entering

end GeneralExecution
