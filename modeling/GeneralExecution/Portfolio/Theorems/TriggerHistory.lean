import GeneralExecution.Portfolio.Theorems.EventRuns
import GeneralExecution.Portfolio.Theorems.TickHistory

namespace GeneralExecution

open Portfolios

section Redelivery

variable [Sha256] {s s' : Portfolios} {id ref : String} {evidence : ExternalTriggerEvidence}
variable {observation bound : ResumeTickObservation} {policy : TransitionPolicy}
variable {requirement : CoreVerificationRequirement} {receipt : CoreVerificationReceipt}
variable {cp : ExecutionCheckpoint} {contract : TriggerContract} {digest : String}
variable {report : CoreRehearsalReport} {D : Discipline Portfolios}

omit [Sha256] in
theorem Portfolios.Advances.mem_checkpoints {row : PortfolioCheckpointRow} (h : s.Advances s')
    (hr : row ∈ s.checkpoints.rows) : row ∈ s'.checkpoints.rows :=
  (checkpoint?_eq_some.mp <| h.checkpoints _ _ _ <| checkpoint?_eq_some.mpr ⟨hr, rfl, rfl⟩).left

-- The trigger has been bound to this observation, which a checkpoint carries.
structure Portfolios.Spent (s : Portfolios) (id : String) (evidence : ExternalTriggerEvidence)
    (bound : ResumeTickObservation) : Prop where
  binds   : s.Bound evidence bound
  carried : ∃ cp, s.Carries id bound.checkpointRef cp

theorem Portfolios.Spent.advances (h : s.Spent id evidence bound) (ha : s.Advances s') :
    s'.Spent id evidence bound where
  binds   := h.binds.advances ha
  carried := by
    obtain ⟨cp, hc⟩ := h.carried
    exact ⟨cp, ha.mem_checkpoints hc.row, hc.portfolioId, hc.mem⟩

theorem Portfolios.Spent.head (hs : s.Consistent) (h : s.Spent id evidence bound) :
    ∃ row, s.head? id = some row := by
  obtain ⟨cp, hc⟩ := h.carried
  have hrow := checkpoint?_eq_some.mpr ⟨hc.row, hc.portfolioId, rfl⟩
  obtain ⟨row, hhead, _⟩ := (hs.counted _ _).mp ⟨_, hrow⟩
  exact ⟨row, hhead⟩

-- What the delivery of a spent trigger does.
def Spends (made : List (Portfolios × Portfolios)) (r : Py ResumeTickResult) : Prop :=
  ∃ result, r = .ok result ∧ result.disposition = .alreadyApplied ∧ ∀ m ∈ made, m.2 = m.1

theorem consumeBound_respects_spent (hD : PortfolioDiscipline D) (hs : s.Spent id evidence bound) :
    (consumeBound id evidence bound policy requirement receipt).Respects D
      (fun made r _ => Spends made r) [] s := by
  have hspent {s' : Portfolios} (hr : D.rely s s') : s'.Spent id evidence bound :=
    hs.advances (hD.advances _ _ hr)
  refine .bind <| recoverPortfolio_respects hD.consistent
    (fun s₁ s₂ state latest hi hr hh hp hi₂ hr₂ => ?_) fun made' e s₁ s₂ _ hi hr hn _ _ => ?_
  case refine_2 =>
    obtain ⟨row, hrow⟩ := (hspent hr).head (hD.consistent _ hi)
    rw [hn] at hrow
    cases hrow
  have hagain {s₃ : Portfolios} (hr₃ : D.rely s₂ s₃) :
      bindStatements evidence bound s₃ = .ok ((), s₃) :=
    bindStatements_again (hspent <| D.trans hr <| D.trans hr₂ hr₃).binds
  refine .bind <| .transaction (fun s₃ s₄ u hi₃ hr₃ ht => ?_) fun s₃ s₄ e hi₃ hr₃ ht _ _ => ?_
  case refine_2 =>
    rw [hagain hr₃] at ht
    cases ht
  cases ht.symm.trans (hagain hr₃)
  refine ⟨hi₃, D.idle _, fun s₅ hi₅ hr₅ => .bind <| .query fun s₆ s₇ hi₆ hr₆ hi₇ hr₇ => ?_⟩
  obtain ⟨applied, hfind, _, hnone⟩ :=
    @findApplied_eq _ s₆ id bound.checkpointRef (hD.consistent s₆ hi₆)
  refine .lift_bind (fun applied' hfind' => ?_) fun e s₈ he => ?_
  case refine_2 =>
    rw [hfind] at he
    cases he
  cases Except.ok.inj <| hfind.symm.trans hfind'
  cases applied
  case none =>
    obtain ⟨cp, hc⟩ := (hspent <| D.trans hr <| D.trans hr₂ <| D.trans hr₃ <|
      D.trans hr₅ hr₆).carried
    exact absurd hc (hnone rfl cp)
  case some cp _ =>
    have hn := state.nonempty ("portfolio_id", state.portfolioId) (by simp)
    rw [hp] at hn
    refine Program.Respects.lift fun s₈ _ _ => ?_
    rw [(idleResult_valid hn cp).checked]
    exact ⟨_, rfl, rfl, by simp⟩

-- An admitted trigger is delivered.
theorem consumeExternalTrigger_eq (h : AdmittedTrigger contract evidence observation policy digest
    requirement receipt report bound) :
    consumeExternalTrigger contract evidence observation policy digest requirement receipt report =
      consumeBound contract.portfolioId evidence bound policy requirement receipt := by
  rw [consumeExternalTrigger, h.admitted, h.bound]
  rfl

theorem consumeBound_atomic (hid : ¬Text.Blank id) :
    ∃ w n, consumeBound id evidence bound policy requirement receipt = .atomic w n := by
  have hn : ∀ x ∈ [("portfolio_id", id)], ¬Text.Blank x.2 := List.forall_mem_singleton.mpr hid
  rw [consumeBound, recoverPortfolioAfterRestart, PortfolioHeadStore.loadRecoverySnapshot,
    Guard.nonempty_of hn]
  exact ⟨_, _, rfl⟩

namespace PortfolioClient

-- What a delivery does whose trigger has been spent before it starts.
def Redelivers : PortfolioClient → List (Portfolios × Portfolios) → Py PortfolioAnswer → Prop
  | trigger contract evidence observation policy digest requirement receipt report, made, r =>
    ∀ bound, AdmittedTrigger contract evidence observation policy digest requirement receipt report
      bound → made ≠ [] ∧ ∀ m ∈ made.head?, m.1.Spent contract.portfolioId evidence bound →
        ∃ result, Spends made result ∧ r = result.map .tick
  | _, _, _ => True

theorem call_respects_redelivers (client : PortfolioClient) (s : Portfolios) (hs : portfolios.inv s) :
    client.call.Respects (portfolios.of client) (fun made r _ => client.Redelivers made r) [] s := by
  cases client
  case trigger contract evidence observation policy digest requirement receipt report =>
    by_cases hadm : ∃ bound, AdmittedTrigger contract evidence observation policy digest requirement
        receipt report bound
    case neg =>
      exact (call_respects _ s hs).mono fun _ _ _ _ _ bound hb => absurd ⟨bound, hb⟩ hadm
    case pos =>
      obtain ⟨bound, hb⟩ := hadm
      have hcall : call (.trigger contract evidence observation policy digest requirement receipt
          report) = consumeBound contract.portfolioId evidence bound policy requirement receipt >>=
            fun r => pure (PortfolioAnswer.tick r) := by
        change (consumeExternalTrigger contract evidence observation policy digest requirement receipt
          report >>= fun r => pure (PortfolioAnswer.tick r)) = _
        rw [consumeExternalTrigger_eq hb]
      obtain ⟨w, n, hatomic⟩ := @consumeBound_atomic _ contract.portfolioId evidence bound policy
        requirement receipt (contract.nonempty ("portfolio_id", contract.portfolioId) (by simp))
      have hlater := @Program.Respects.later _ _ _ _ _ _ _
        (fun made r _ => ∃ result, Spends made result ∧ r = result.map .tick)
        (fun s => s.Spent contract.portfolioId evidence bound) (call_respects _ s hs)
        fun s' _ _ hspent => by
          rw [hcall]
          refine .map <| (consumeBound_respects_spent portfolios_discipline hspent).mono
            fun made r _ _ hspends => ⟨r, hspends, rfl⟩
      refine (hlater.opens ⟨w, _, by rw [hcall, hatomic]; rfl⟩).mono
        fun made r _ _ ⟨hne, _, hpost⟩ bound' hb' => ?_
      cases Except.ok.inj <| hb'.bound.symm.trans hb.bound
      exact ⟨hne, hpost⟩
  all_goals exact (call_respects _ s hs).mono fun _ _ _ _ _ => trivial

end PortfolioClient

end Redelivery

section History

variable [Sha256] {c : PortfolioRun} {e : PortfolioEvent} {evidence : ExternalTriggerEvidence}
variable {observation bound : ResumeTickObservation} {policy : TransitionPolicy}
variable {requirement : CoreVerificationRequirement} {receipt : CoreVerificationReceipt}
variable {contract : TriggerContract} {digest : String} {report : CoreRehearsalReport}
variable {r : Py PortfolioAnswer} {result : ResumeTickResult}
variable {made : List ((Portfolios × List PortfolioEvent) × (Portfolios × List PortfolioEvent))}

-- The call delivers a trigger, which has been bound to the observation.
inductive PortfolioClient.Consumes (s : Portfolios) :
    PortfolioClient → ExternalTriggerEvidence → ResumeTickObservation → Prop
  | trigger {contract evidence o policy digest requirement receipt report bound} :
    AdmittedTrigger contract evidence o policy digest requirement receipt report bound →
    s.Bound evidence bound →
    Consumes s (.trigger contract evidence o policy digest requirement receipt report) evidence bound
  | event {payload digest requirement receipt report body gates bound} :
    PersistentRuntime.Asks payload body → AdmittedBody body gates bound →
    s.Bound body.trigger bound →
    Consumes s (.event payload digest requirement receipt report) body.trigger bound

theorem PortfolioClient.Consumes.binds {client : PortfolioClient} {s : Portfolios}
    (h : client.Consumes s evidence bound) : s.Bound evidence bound := by
  cases h <;> assumption

theorem PortfolioClient.Delivers.of_trigger {s : Portfolios}
    (h : (PortfolioClient.trigger contract evidence observation policy digest requirement receipt
      report).Delivers s bound) :
    AdmittedTrigger contract evidence observation policy digest requirement receipt report bound ∧
      s.Bound evidence bound := by
  cases h
  case trigger hb hadm => exact ⟨hadm, hb⟩

theorem PortfolioClient.Consumes.delivers {client : PortfolioClient} {s : Portfolios}
    (h : client.Consumes s evidence bound) : client.Delivers s bound := by
  cases h
  case trigger ha hb   => exact .trigger ha hb
  case event hp ha hb  => exact .event hp ha hb

-- The access commits the transition of the trigger.
def PortfolioEvent.Consumes (e : PortfolioEvent) (evidence : ExternalTriggerEvidence)
    (bound : ResumeTickObservation) : Prop :=
  ∃ policy requirement receipt cur latest t, e.label.Consumes e.before evidence bound ∧
    TickTransition policy bound requirement receipt cur t ∧
    e.before.Commits e.after cur latest t.newState t.checkpoint

theorem PortfolioEvent.Consumes.applies (h : e.Consumes evidence bound) : e.Applies bound := by
  obtain ⟨policy, requirement, receipt, cur, latest, t, hl, ht, hc⟩ := h
  exact ⟨policy, requirement, receipt, cur, latest, t, hl.delivers, ht, hc⟩

theorem PortfolioEvent.Consumes.spent (h : e.Consumes evidence bound) :
    e.after.Spent bound.portfolioId evidence bound := by
  obtain ⟨policy, requirement, receipt, cur, latest, t, hl, ht, hc⟩ := h
  refine ⟨?_, t.checkpoint, ?_, ?_, checkpointRef_mem ht.transition⟩
  case refine_1 =>
    have hb := hl.binds
    rwa [Bound, binding?, ← hc.bindings] at hb
  case refine_2 =>
    rw [(Table.insert?_eq_some.mp hc.inserts).right]
    exact List.mem_append_right _ (List.mem_singleton_self _)
  case refine_3 =>
    exact hc.binds.portfolioId.trans (hc.portfolioId.trans ht.portfolioId.symm)

-- What the deliveries of the triggers of a run have done.
structure TriggerHistory (c : PortfolioRun) : Prop where
  atMostOnce : ∀ d, ObservationsDistinct c.store.2 d → c.store.2.Pairwise fun e e' =>
    ∀ evidence evidence' bound bound', e.Consumes evidence bound → e'.Consumes evidence' bound' →
      bound.digest = d → evidence.identity ≠ evidence'.identity
  committed : ∀ {contract evidence observation policy digest requirement receipt report bound result
      made}, ⟨.ok (.trigger contract evidence observation policy digest requirement receipt report,
        .ok (.tick result)), made⟩ ∈ c.returned → boundObservation evidence observation = .ok bound →
      c.store.1.Bound evidence bound ∧
        (result.disposition = .committed → ∃ e ∈ c.store.2, e.Consumes evidence bound)
  again : ∀ {contract evidence observation policy digest requirement receipt report bound r made},
    ⟨.ok (.trigger contract evidence observation policy digest requirement receipt report, r), made⟩ ∈
      c.returned →
    AdmittedTrigger contract evidence observation policy digest requirement receipt report bound →
    ∃ m ∈ made.head?, (∃ e ∈ m.1.2, PortfolioEvent.Consumes e evidence bound) →
      ∃ result, r = .ok (.tick result) ∧ result.disposition = .alreadyApplied ∧
        ∀ m ∈ Protocol.stores made, m.2 = m.1
  rejected : ∀ {contract evidence observation policy digest requirement receipt report row r made},
    ⟨.ok (.trigger contract evidence observation policy digest requirement receipt report, r), made⟩ ∈
      c.returned →
    c.store.1.binding? evidence.identity = some row →
    (∀ bound, AdmittedTrigger contract evidence observation policy digest requirement receipt report
      bound → row ≠ ⟨evidence.identity, evidence.digest, bound.digest⟩) →
    r.isOk = false ∧ ∀ m ∈ Protocol.stores made, m.2 = m.1

-- What an access of a call has left is found at the end of the run.
theorem PortfolioRun.Reached.advances {client : PortfolioClient} (h : c.Reached)
    (hr : ⟨.ok (client, r), made⟩ ∈ c.returned) {m : Portfolios × Portfolios}
    (hm : m ∈ Protocol.stores made) : m.2.Advances c.store.1 := by
  obtain ⟨m', hm', rfl⟩ := List.mem_map.mp hm
  exact PortfolioRun.advances_of_mem h.recorded ((h.answered hr).inHistory m' hm').event

-- A delivery that returns has bound its trigger, for good.
theorem PortfolioRun.Reached.binds (h : c.Reached)
    (hr : ⟨.ok (.trigger contract evidence observation policy digest requirement receipt report, r),
      made⟩ ∈ c.returned)
    (hadm : AdmittedTrigger contract evidence observation policy digest requirement receipt report
      bound) :
    (r.isOk = false ∧ ∀ m ∈ Protocol.stores made, m.2 = m.1) ∨ c.store.1.Bound evidence bound := by
  obtain ⟨s, _, _, ⟨hmade, he⟩ | ⟨bound', result, hadm', hd, he⟩⟩ := (h.answered hr).post
  case inl => exact .inl ⟨he, by simp [hmade]⟩
  cases Except.ok.inj <| hadm'.bound.symm.trans hadm.bound
  have hbound {s₂ s₃ : Portfolios} (hb : bindStatements evidence bound s₂ = .ok ((), s₃))
      (hm : (s₂, s₃) ∈ Protocol.stores made) : c.store.1.Bound evidence bound :=
    (bindStatements_eq_ok hb).right.advances (h.advances hr hm)
  generalize Protocol.stores made = stores at hd hbound
  cases hd
  case refused hq      => exact .inl ⟨he ▸ rfl, hq⟩
  case applied hb _ _  => exact .inr <| hbound hb (by simp)
  case ticked hb _ _   => exact .inr <| hbound hb (by simp)

-- A commit of a delivery consumes its trigger.
theorem PortfolioRun.Reached.consumes_of_commits (h : c.Reached) (he : e ∈ c.store.2)
    (hl : e.label = .trigger contract evidence observation policy digest requirement receipt report)
    (hb : boundObservation evidence observation = .ok bound) {cur new : PortfolioState}
    {latest : Option ExecutionCheckpoint} {cp : ExecutionCheckpoint}
    (hc : e.before.Commits e.after cur latest new cp) : e.Consumes evidence bound := by
  have hmoves := (h.recorded.admits e he).guar.right
  rw [hl] at hmoves
  rcases hmoves with hk | hk | ⟨hd, ht, hc'⟩
  case keeps   => exact absurd hk.checkpoints hc.ne_checkpoints
  case creates => exact absurd hk.checkpoints hc.ne_checkpoints
  case applies =>
    have ⟨hadm, hbound⟩ := hd.of_trigger
    cases Except.ok.inj <| hadm.bound.symm.trans hb
    exact ⟨_, _, _, _, _, _, hl ▸ .trigger hadm hbound, ht, hc'⟩

-- A delivery that returns `committed` has committed the transition of its trigger.
theorem PortfolioRun.Reached.consumes (h : c.Reached)
    (hr : ⟨.ok (.trigger contract evidence observation policy digest requirement receipt report,
      .ok (.tick result)), made⟩ ∈ c.returned) (hd : result.disposition = .committed)
    (hb : boundObservation evidence observation = .ok bound) :
    ∃ e ∈ c.store.2, e.Consumes evidence bound := by
  have ha := h.answered hr
  obtain ⟨s, _, _, ⟨_, he⟩ | ⟨bound', result', hadm, hdel, he⟩⟩ := ha.post
  case inl => cases he
  cases result'
  case error => cases he
  cases he
  generalize hm : Protocol.stores made = stores at hdel
  cases hdel
  case applied hr' => exact absurd (hr'.disposition.symm.trans hd) (by decide)
  case ticked s₁ s₂ s₃ s₄ made' _ _ ht =>
    cases ht
    case idle hd'      => exact absurd hd hd'
    case applied hr'   => exact absurd (hr'.disposition.symm.trans hd) (by decide)
    case recovered hr' => exact absurd (hr'.disposition.symm.trans hd) (by decide)
    case committed made'' s₅ s₆ s₇ cur latest t receipt' o _ _ _ _ _ hc _ _ _ =>
      have hmem : (s₅, s₆) ∈ Protocol.stores made := by simp [hm]
      obtain ⟨m, hm', he⟩ := List.mem_map.mp hmem
      cases he
      exact ⟨_, (ha.inHistory m hm').event, h.consumes_of_commits (ha.inHistory m hm').event rfl hb hc⟩

theorem triggerHistory (h : c.Reached) : TriggerHistory c where
  atMostOnce d hd := by
    have hpairs := (PortfolioRun.pairwise_advances h.recorded).and <|
      (tickHistory h).atMostOnce d hd
    refine hpairs.imp fun {e e'} hp evidence evidence' bound bound' hc hc' hbd hid => ?_
    have hb : e'.before.Bound evidence bound := hc.spent.binds.advances hp.left
    have hb' : e'.before.Bound evidence' bound' := by
      obtain ⟨_, _, _, _, _, _, hl, _⟩ := hc'
      exact hl.binds
    rw [Bound, hid, show e'.before.binding? evidence'.identity = _ from hb'] at hb
    have hbd' : bound'.digest = bound.digest := congrArg TriggerBindingRow.observationDigest <|
      Option.some.inj hb
    exact hp.right bound bound' hc.applies hc'.applies ⟨hbd, hbd'.trans hbd⟩
  committed {contract evidence observation policy digest requirement receipt report bound result
      made} hr hb := by
    obtain ⟨s, _, _, ⟨_, he⟩ | ⟨bound', result', hadm, _⟩⟩ := (h.answered hr).post
    case inl => cases he
    cases Except.ok.inj <| hadm.bound.symm.trans hb
    exact ⟨(h.binds hr hadm).resolve_left fun hn => Bool.noConfusion hn.left, fun hd =>
      h.consumes hr hd hb⟩
  again {contract evidence observation policy digest requirement receipt report bound r made} hr hadm := by
    have ha := Protocol.answered_of_returned PortfolioClient.call_respects_redelivers empty_consistent
      h hr
    obtain ⟨s, _, _, hpost⟩ := ha.post
    obtain ⟨hne, hspent⟩ := hpost bound hadm
    cases made
    case nil => exact absurd rfl hne
    case cons m made =>
      refine ⟨m, rfl, fun hm => ?_⟩
      obtain ⟨e, he, hconsumes⟩ := hm
      have hrec := (ha.inHistory m (List.mem_cons_self ..)).recorded
      obtain ⟨r', ⟨result, rfl, hd, hq⟩, rfl⟩ := hspent (m.1.1, m.2.1) rfl <|
        hadm.portfolioId ▸ hconsumes.spent.advances (PortfolioRun.advances_of_mem hrec he)
      exact ⟨result, rfl, hd, hq⟩
  rejected {contract evidence observation policy digest requirement receipt report row r made} hr hrow
      hne := by
    by_cases hadm : ∃ bound, AdmittedTrigger contract evidence observation policy digest requirement
        receipt report bound
    case pos =>
      obtain ⟨bound, hadm⟩ := hadm
      refine (h.binds hr hadm).resolve_right fun hb => hne bound hadm ?_
      exact Option.some.inj <| hrow.symm.trans hb
    case neg =>
      obtain ⟨s, _, _, ⟨hmade, he⟩ | ⟨bound, _, hb, _⟩⟩ := (h.answered hr).post
      case inl => exact ⟨he, by simp [hmade]⟩
      case inr => exact absurd ⟨bound, hb⟩ hadm

def enterDelivery (rule : TransitionRule) : PortfolioClient :=
  .trigger (enterContract rule) (enterTrigger rule) (enterObservation rule) (singlePolicy rule)
    (enterTrigger rule).digest coreRequirement coreReceipt
    ⟨coreReceipt.targetRevision, coreReceipt.digest, true⟩

-- A run that delivers one trigger twice.
theorem exists_deliveredTwice {rule : TransitionRule} {t : PortfolioTransitionResult}
    (ht : TickTransition (singlePolicy rule)
      ((enterObservation rule).boundTo (enterTrigger rule)) coreRequirement coreReceipt enterState t)
    (hd : t.newState.digest ≠ enterState.digest) :
    ∃ (c : PortfolioRun) (result result' : ResumeTickResult)
      (made made' : List ((Portfolios × List PortfolioEvent) × (Portfolios × List PortfolioEvent))),
      c.Reached ∧ ⟨.ok (enterDelivery rule, .ok (.tick result)), made⟩ ∈ c.returned ∧
        ⟨.ok (enterDelivery rule, .ok (.tick result')), made'⟩ ∈ c.returned ∧
        result.disposition = .committed ∧ result'.disposition = .alreadyApplied := by
  obtain ⟨head, s, hinit, hcreates⟩ := initializePortfolio_run_of empty_consistent
    (rfl : enterState.generation = 0) rfl
  have hcreate : (PortfolioClient.call (.create enterState)).run .empty = (.ok (.head head), s) :=
    Program.bind_run_ok.mpr ⟨head, s, hinit, rfl⟩
  obtain ⟨c, _, hc, hs, _⟩ := Protocol.exists_performed .refl rfl hcreate
  have hg : gateOpen coreReceipt coreRequirement = true := by
    simp [gateOpen, coreReceipt, coreRequirement]
  have hfresh : s.binding? (enterTrigger rule).identity = none := by
    rw [binding?, hcreates.bindings]
    rfl
  obtain ⟨r, s₁, hrun, hr, hs₁, hh₁, hbound, hpayloads⟩ :=
    consumeBound_run_first (hcreates.consistent empty_consistent) (hcreates.holds empty_consistent)
      hcreates.checkpoints hfresh hg ht hd
  have hid : t.newState.portfolioId = enterState.portfolioId := ht.precedes.portfolioId
  obtain ⟨r', hrun', hr'⟩ : ∃ r', (consumeBound enterState.portfolioId (enterTrigger rule)
      ((enterObservation rule).boundTo (enterTrigger rule)) (singlePolicy rule) coreRequirement
      coreReceipt).run s₁ = (.ok r', s₁) ∧ r'.disposition = .alreadyApplied :=
    hid ▸ consumeBound_run_again hs₁ hh₁ hbound (hid ▸ hpayloads) (checkpointRef_mem ht.transition)
  have hadm : AdmittedTrigger (enterContract rule) (enterTrigger rule) (enterObservation rule)
      (singlePolicy rule) (enterTrigger rule).digest coreRequirement coreReceipt
      ⟨coreReceipt.targetRevision, coreReceipt.digest, true⟩
      ((enterObservation rule).boundTo (enterTrigger rule)) :=
    ⟨enterBody_admitted rule, boundObservation_eq⟩
  have hdeliver {s s' : Portfolios} {r : ResumeTickResult}
      (h : (consumeBound enterState.portfolioId (enterTrigger rule)
        ((enterObservation rule).boundTo (enterTrigger rule)) (singlePolicy rule) coreRequirement
        coreReceipt).run s = (.ok r, s')) :
      (enterDelivery rule).call.run s = (.ok (.tick r), s') := by
    refine Program.bind_run_ok.mpr ⟨r, s', ?_, rfl⟩
    rw [consumeExternalTrigger_eq hadm]
    exact h
  obtain ⟨c₁, made, hc₁, hs₁', _, hret, _⟩ := Protocol.exists_performed hc hs (hdeliver hrun)
  obtain ⟨c₂, made', hc₂, _, _, hret', _⟩ := Protocol.exists_performed hc₁ hs₁' (hdeliver hrun')
  refine ⟨c₂, r, r', made, made', hc₂, ?_, ?_, hr, hr'⟩
  case refine_1 => simp [hret', hret]
  case refine_2 => simp [hret']

omit [Sha256] in
-- The history of a trigger that has been delivered twice.
theorem triggerHistory_deliveredTwice :
    let _ := Sha256.byGeneration
    ∃ (c : PortfolioRun) (e : PortfolioEvent) (evidence : ExternalTriggerEvidence)
      (bound : ResumeTickObservation), TriggerHistory c ∧ e ∈ c.store.2 ∧
        e.Consumes evidence bound ∧ c.store.1.Bound evidence bound := by
  intro _
  have ⟨t, ht, hd⟩ := exists_boundSlip
  obtain ⟨c, r, r', made, made', hc, hret, _, hr, _⟩ := exists_deliveredTwice ht hd
  have h := triggerHistory hc
  have ⟨hbound, hcommitted⟩ := h.committed hret boundObservation_eq
  obtain ⟨e, he, hconsumes⟩ := hcommitted hr
  exact ⟨c, e, _, _, h, he, hconsumes, hbound⟩

end History

end GeneralExecution
