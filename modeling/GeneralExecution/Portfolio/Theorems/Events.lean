import GeneralExecution.Portfolio.Runtime
import GeneralExecution.Portfolio.Theorems.Alone

namespace GeneralExecution

open Portfolios

variable [Sha256] {s s' : Portfolios} {id : String} {event : ExternalTriggerEvidence}
variable {bound : ResumeTickObservation} {policy : TransitionPolicy} {result : ResumeTickResult}
variable {requirement : CoreVerificationRequirement} {receipt : CoreVerificationReceipt}
variable {report : PersistentRuntimeEventReport} {eventId ref : String}
variable {cur : PortfolioState} {latest : Option ExecutionCheckpoint} {cp : ExecutionCheckpoint}
variable {recovery : PortfolioRecoveryReport}

-- What the binding of a trigger does.
structure Portfolios.BindsTrigger (s s' : Portfolios) : Prop where
  heads       : s'.heads = s.heads
  checkpoints : s'.checkpoints = s.checkpoints
  bindings    : ∀ identity row, s.binding? identity = some row → s'.binding? identity = some row

namespace Portfolios.BindsTrigger

omit [Sha256] in
theorem advances (h : s.BindsTrigger s') : s.Advances s' where
  heads id row hr         := ⟨row, by rwa [head?, h.heads], .inl rfl⟩
  checkpoints id n row hr := by rwa [checkpoint?, h.checkpoints]
  bindings                := h.bindings

theorem consistent (hs : s.Consistent) (h : s.BindsTrigger s') : s'.Consistent where
  holds id row hr := by
    rw [head?, h.heads] at hr
    obtain ⟨state, latest, hp, hh⟩ := hs.holds id row hr
    exact ⟨state, latest, hp, hh.congr (by rw [head?, head?, h.heads])
      (by rw [checkpoint?, checkpoint?, h.checkpoints])⟩
  checkpoints row hr := hs.checkpoints row (h.checkpoints ▸ hr)
  counted id n := by
    rw [checkpoint?, head?, h.checkpoints, h.heads]
    exact hs.counted id n

theorem respects (hs : s.Consistent) (h : s.BindsTrigger s') :
    discipline.inv s' ∧ discipline.guar s s' :=
  ⟨h.consistent hs, h.advances⟩

end Portfolios.BindsTrigger

theorem Portfolios.Initializes.respects {state : PortfolioState} (hs : s.Consistent)
    (h : s.Initializes s' state) : discipline.inv s' ∧ discipline.guar s s' := by
  cases h
  case inl h => exact ⟨h.right.symm ▸ hs, h.right.symm ▸ .refl⟩
  case inr h => exact ⟨h.consistent hs, h.advances⟩

-- The trigger has been delivered with this observation.
def Portfolios.Bound (s : Portfolios) (event : ExternalTriggerEvidence)
    (bound : ResumeTickObservation) : Prop :=
  s.binding? event.identity = some ⟨event.identity, event.digest, bound.digest⟩

theorem Portfolios.Bound.advances (h : s.Bound event bound) (ha : s.Advances s') :
    s'.Bound event bound :=
  ha.bindings _ _ h

theorem bindStatements_eq_ok {u : Unit} (h : bindStatements event bound s = .ok (u, s')) :
    s.BindsTrigger s' ∧ s'.Bound event bound := by
  rw [bindStatements, Statements.get_bind_eq_ok] at h
  cases hr : s.binding? event.identity
  case some row =>
    simp only [hr, Statements.lift_eq_ok, Py.require_eq_ok] at h
    obtain ⟨⟨ha, ho⟩, rfl⟩ := h
    refine ⟨⟨rfl, rfl, fun _ _ => id⟩, ?_⟩
    have hid : row.identity = event.identity :=
      ((Table.select_eq_some (by simp)).mp hr).right
    rw [Bound, hr, ← ha, ← ho, ← hid]
  case none =>
    simp only [hr, Statements.lift_bind_eq_ok, Py.ofOption_eq_ok, Statements.set_eq_ok] at h
    obtain ⟨bindings, hi, rfl⟩ := h
    refine ⟨⟨rfl, rfl, fun identity row hrow => ?_⟩, ?_⟩
    case refine_1 =>
      rw [binding?, Table.select_insert hi (by simp)]
      by_cases he : event.identity = identity
      case pos => rw [← he, hr] at hrow; contradiction
      case neg => rwa [if_neg he]
    case refine_2 =>
      rw [Bound, binding?, Table.select_insert hi (by simp)]
      simp

theorem bindStatements_again (hb : s.Bound event bound) :
    bindStatements event bound s = .ok ((), s) := by
  rw [bindStatements, Statements.get_bind_eq_ok]
  simp only [show s.binding? event.identity = _ from hb, Statements.lift_eq_ok, Py.require_eq_ok]
  simp

-- A checkpoint of the portfolio carries the reference.
structure Portfolios.Carries (s : Portfolios) (id ref : String) (cp : ExecutionCheckpoint) :
    Prop where
  row         : portfolioCheckpointRow cp ∈ s.checkpoints.rows
  portfolioId : cp.portfolioId = id
  mem         : ref ∈ cp.canonicalRefs

omit [Sha256] in
theorem findApplied_serialize (cps : List ExecutionCheckpoint) :
    findApplied ref (cps.map serializeCheckpoint) =
      .ok (cps.find? fun c => decide (ref ∈ c.canonicalRefs)) := by
  induction cps
  case nil            => rfl
  case cons c cps ih =>
    rw [List.map_cons, findApplied, deserializeCheckpoint_serialize, Except.ok_bind, ih,
      List.find?_cons]
    by_cases hm : ref ∈ c.canonicalRefs
    case pos => simp only [hm, if_true, decide_true]; rfl
    case neg => simp only [hm, if_false, decide_false]

theorem Portfolios.Consistent.checkpointPayloads_eq (hs : s.Consistent) :
    ∃ cps : List ExecutionCheckpoint, checkpointPayloads id s = cps.map serializeCheckpoint ∧
      ∀ c, c ∈ cps ↔ portfolioCheckpointRow c ∈ s.checkpoints.rows ∧ c.portfolioId = id := by
  have hrows : ∀ row ∈ (s.checkpoints.rows.filter (·.portfolioId = id)).mergeSort
      (fun a b => a.generation ≤ b.generation), row ∈ Set.range portfolioCheckpointRow := by
    intro row hr
    rw [List.mem_mergeSort, List.mem_filter] at hr
    have ⟨c, hc⟩ := hs.checkpoints row hr.left
    exact ⟨c, hc.symm⟩
  rw [← Set.mem_ofPred (p := fun rows => ∀ row ∈ rows, row ∈ Set.range portfolioCheckpointRow),
    ← Set.range_list_map] at hrows
  obtain ⟨cps, hcps⟩ := hrows
  refine ⟨cps, ?_, fun c => ?_⟩
  case refine_1 =>
    rw [checkpointPayloads, ← hcps, List.map_map]
    rfl
  case refine_2 =>
    have hinj : Function.Injective portfolioCheckpointRow := fun _ _ => portfolioCheckpointRow_inj
    rw [← List.mem_map_of_injective hinj, hcps, List.mem_mergeSort, List.mem_filter,
      decide_eq_true_iff]
    rfl

-- The scan finds a checkpoint that carries the reference if there is one.
theorem findApplied_eq (hs : s.Consistent) :
    ∃ applied, findApplied ref (checkpointPayloads id s) = .ok applied ∧
      (∀ cp ∈ applied, s.Carries id ref cp) ∧
        (applied = none → ∀ cp, ¬s.Carries id ref cp) := by
  obtain ⟨cps, hcps, hmem⟩ := @Portfolios.Consistent.checkpointPayloads_eq _ s id hs
  refine ⟨_, hcps ▸ findApplied_serialize cps, fun cp hcp => ?_, fun hn cp hcp => ?_⟩
  case refine_1 =>
    have ⟨hrow, hid⟩ := (hmem cp).mp (List.mem_of_find?_eq_some hcp)
    exact ⟨hrow, hid, by simpa using List.find?_some hcp⟩
  case refine_2 =>
    have hcps := (hmem cp).mpr ⟨hcp.row, hcp.portfolioId⟩
    exact List.find?_eq_none.mp hn cp hcps (decide_eq_true hcp.mem)

-- The access leaves the head of the portfolio as it is.
def Portfolios.Still (id : String) (m : Portfolios × Portfolios) : Prop :=
  m.2.head? id = m.1.head? id

omit [Sha256] in
theorem Portfolios.still_of_quiet {made : List (Portfolios × Portfolios)}
    (h : ∀ m ∈ made, m.2 = m.1) : ∀ m ∈ made, Still id m :=
  fun m hm => congrArg (head? · id) (h m hm)

-- What the delivery of a trigger has done when it returns.
inductive Consumed (id : String) : List (Portfolios × Portfolios) → ResumeTickResult → Prop
  | still {made r} : (∀ m ∈ made, Still id m) → r.disposition ≠ .committed → Consumed id made r
  | committed {made made' s₁ s₂ cur latest new cp r} : s₁.Commits s₂ cur latest new cp →
    cur.portfolioId = id → (∀ m ∈ made ++ made', Still id m) → r.disposition = .committed →
    Consumed id (made ++ (s₁, s₂) :: made') r

theorem Consumed.prepend {made made' : List (Portfolios × Portfolios)}
    (h : Consumed id made' result) (hm : ∀ m ∈ made, Still id m) :
    Consumed id (made ++ made') result := by
  cases h
  case still hs hd => exact .still (List.forall_mem_append.mpr ⟨hm, hs⟩) hd
  case committed made₁ made₂ s₁ s₂ cur latest new cp hc hid hs hd =>
    rw [← List.append_assoc]
    refine .committed hc hid ?_ hd
    rw [List.append_assoc]
    exact List.forall_mem_append.mpr ⟨hm, hs⟩

theorem Ticked.consumed {made : List (Portfolios × Portfolios)} {o : ResumeTickObservation}
    (ho : o.portfolioId = id) (h : Ticked id policy (some o) requirement made (.ok result)) :
    Consumed id made result := by
  cases h
  case idle hm _ _ hd => exact .still (still_of_quiet hm) hd
  case applied hr =>
    refine .still ?_ fun hd => absurd (hr.disposition.symm.trans hd) nofun
    simp [Still]
  case recovered made s₁ state cp o' he hp hm hu hh hid href hr =>
    refine .still ?_ fun hd => absurd (hr.disposition.symm.trans hd) nofun
    refine still_of_quiet (List.forall_mem_append.mpr ⟨hm, ?_⟩)
    simp
  case committed made s₁ s₂ s₃ cur latest t receipt o' he hp hm hu ht hc _ _ hr =>
    cases he
    refine .committed hc (ht.portfolioId.symm.trans ho) ?_ hr.disposition
    refine still_of_quiet (List.forall_mem_append.mpr ⟨hm, ?_⟩)
    simp

-- What a delivery that has opened the store has done.
inductive Delivered (id : String) (policy : TransitionPolicy) (event : ExternalTriggerEvidence)
    (bound : ResumeTickObservation) (requirement : CoreVerificationRequirement) :
    List (Portfolios × Portfolios) → Py ResumeTickResult → Prop
  | refused {made e} : (∀ m ∈ made, m.2 = m.1) →
    Delivered id policy event bound requirement made (.error e)
  | applied {s₁ s₂ s₃ s₄ cur latest cp r} : s₁.Holds cur latest → cur.portfolioId = id →
    bindStatements event bound s₂ = .ok ((), s₃) → s₄.Carries id bound.checkpointRef cp →
    r.Reports .alreadyApplied cur cp →
    Delivered id policy event bound requirement [(s₁, s₁), (s₂, s₃), (s₄, s₄)] (.ok r)
  | ticked {s₁ s₂ s₃ s₄ made r} : bindStatements event bound s₂ = .ok ((), s₃) →
    (∀ cp, ¬s₄.Carries id bound.checkpointRef cp) → Ticked id policy (some bound) requirement made r →
    Delivered id policy event bound requirement ([(s₁, s₁), (s₂, s₃), (s₄, s₄)] ++ made) r

theorem Delivered.consumed {made : List (Portfolios × Portfolios)} (hid : bound.portfolioId = id)
    (h : Delivered id policy event bound requirement made (.ok result)) :
    Consumed id made result := by
  have hstill {s₁ s₂ s₃ s₄ : Portfolios} (hb : bindStatements event bound s₂ = .ok ((), s₃)) :
      ∀ m ∈ [(s₁, s₁), (s₂, s₃), (s₄, s₄)], Still id m := by
    have ⟨hbinds, _⟩ := bindStatements_eq_ok hb
    simp [Still, head?, hbinds.heads]
  cases h
  case applied hb _ hr =>
    refine .still (hstill hb) fun hd => ?_
    cases hr.disposition.symm.trans hd
  case ticked hb _ ht => exact (ht.consumed hid).prepend (hstill hb)

-- The observation that an admitted trigger delivers.
structure AdmittedTrigger (contract : TriggerContract) (event : ExternalTriggerEvidence)
    (observation : ResumeTickObservation) (policy : TransitionPolicy) (digest : String)
    (requirement : CoreVerificationRequirement) (receipt : CoreVerificationReceipt)
    (coreReport : CoreRehearsalReport) (bound : ResumeTickObservation) : Prop where
  admitted : admitTrigger contract event observation policy digest requirement receipt coreReport =
    .ok ()
  bound : boundObservation event observation = .ok bound

section Respects

variable {made : List (Portfolios × Portfolios)} {D : Discipline Portfolios}
variable {contract : TriggerContract} {observation : ResumeTickObservation} {digest : String}
variable {coreReport : CoreRehearsalReport}

-- What a discipline lets the delivery of a trigger do.
structure LetsDeliver (D : Discipline Portfolios) (policy : TransitionPolicy)
    (event : ExternalTriggerEvidence) (bound : ResumeTickObservation)
    (requirement : CoreVerificationRequirement) (receipt : CoreVerificationReceipt) : Prop where
  binds : ∀ s₁ s₂, D.inv s₁ → s₁.BindsTrigger s₂ → D.inv s₂ ∧ D.guar s₁ s₂
  commits : ∀ s₁ s₂ cur latest t, D.inv s₁ → s₁.Bound event bound →
    gateOpen receipt requirement = true → TickTransition policy bound requirement receipt cur t →
    s₁.Commits s₂ cur latest t.newState t.checkpoint → D.inv s₂ ∧ D.guar s₁ s₂

theorem discipline_letsDeliver :
    LetsDeliver discipline policy event bound requirement receipt where
  binds _ _ hi hb               := hb.respects hi
  commits _ _ _ _ _ hi _ _ _ hc := hc.respects hi

theorem consumeBound_respects {post : List (Portfolios × Portfolios) → Py ResumeTickResult →
      Portfolios → Prop}
    (hD : PortfolioDiscipline D) (hm : D.Mutual)
    (hl : LetsDeliver D policy event bound requirement receipt)
    (ho : ∀ more r s', D.inv s' → D.rely s s' →
      Delivered id policy event bound requirement more r → post (made ++ more) r s') :
    (consumeBound id event bound policy requirement receipt).Respects D post made s := by
  have hrefused (more : List (Portfolios × Portfolios)) (e : PyError) (s' : Portfolios)
      (hq : ∀ m ∈ more, m.2 = m.1) (hi : D.inv s') (hr : D.rely s s') :
      post (made ++ more) (.error e) s' := ho more _ s' hi hr (.refused hq)
  refine .bind <| recoverPortfolio_respects hD.consistent
    (fun s₁ s₂ state latest hi hr hh hp hi₂ hr₂ => ?_) fun made' e s₁ s₂ hq hi hr _ hi₂ hr₂ => ?_
  case refine_2 =>
    obtain ⟨more, rfl, hmore⟩ := hq
    exact hrefused more e s₂ hmore hi₂ (D.trans hr hr₂)
  refine .bind <| .transaction (fun s₃ s₄ u hi₃ hr₃ ht => ?_) fun s₃ s₄ e hi₃ hr₃ _ hi₄ hr₄ => ?_
  case refine_2 =>
    rw [List.append_assoc]
    exact hrefused _ e s₄ (by simp) hi₄ (D.trans hr <| D.trans hr₂ <| D.trans hr₃ hr₄)
  have ⟨hbinds, hbound⟩ := bindStatements_eq_ok ht
  obtain ⟨hi₄, hg₄⟩ := hl.binds s₃ s₄ hi₃ hbinds
  refine ⟨hi₄, hg₄, fun s₅ hi₅ hr₅ => .bind <| .query fun s₆ s₇ hi₆ hr₆ hi₇ hr₇ => ?_⟩
  have hrely : D.rely s s₇ := D.trans hr <| D.trans hr₂ <| D.trans hr₃ <|
    D.trans (hm _ _ hg₄) <| D.trans hr₅ <| D.trans hr₆ hr₇
  obtain ⟨applied, hfind, hsome, hnone⟩ :=
    @findApplied_eq _ s₆ id bound.checkpointRef (hD.consistent s₆ hi₆)
  refine .lift_bind (fun applied' hfind' => ?_) fun e s₈ he => ?_
  case refine_2 =>
    rw [hfind] at he
    cases he
  cases Except.ok.inj <| hfind.symm.trans hfind'
  rw [List.append_assoc, List.append_assoc]
  cases applied
  case some cp =>
    have hn := state.nonempty ("portfolio_id", state.portfolioId) (by simp)
    rw [hp] at hn
    refine Program.Respects.lift fun s₈ hi₈ hr₈ => ho _ _ s₈ hi₈ (D.trans hrely hr₈) ?_
    rw [(idleResult_valid hn cp).checked]
    exact .applied hh hp ht (hsome cp rfl) ⟨rfl, rfl, rfl, rfl⟩
  case none =>
    refine resumeTick_respects hD (fun o receipt' s₈ s₉ cur latest' t ho hi₈ hr₈ hf ht hc => ?_) hm
      fun more r s₈ hi₈ hr₈ ht' => ?_
    case refine_1 =>
      cases ho
      have ⟨hreceipt, hgate⟩ := Option.filter_eq_some_iff.mp hf
      cases hreceipt
      have ha : s₄.Advances s₈ := hD.advances _ _ <| D.trans hr₅ <| D.trans hr₆ <| D.trans hr₇ hr₈
      exact hl.commits s₈ s₉ cur latest' t hi₈ (hbound.advances ha) hgate ht hc
    case refine_2 =>
      rw [List.append_assoc]
      exact ho _ r s₈ hi₈ (D.trans hrely hr₈) (.ticked ht (hnone rfl) ht')

theorem admitTrigger_portfolioId {u : Unit}
    (h : admitTrigger contract event observation policy digest requirement receipt coreReport =
      .ok u) : observation.portfolioId = contract.portfolioId := by
  simp only [admitTrigger, Except.bind_eq_ok, Py.require_eq_ok, exists_const] at h
  obtain ⟨_, _, _, _, h, _⟩ := h
  exact h.left.left

theorem boundObservation_portfolioId (h : boundObservation event observation = .ok bound) :
    bound.portfolioId = observation.portfolioId := by
  simp only [boundObservation, ResumeTickObservation.new, Except.bind_eq_ok, Except.pure_eq_ok] at h
  obtain ⟨_, _, _, _, _, _, _, _, _, _, _, _, _, _, _, _, rfl⟩ := h
  rfl

theorem AdmittedTrigger.portfolioId
    (h : AdmittedTrigger contract event observation policy digest requirement receipt coreReport
      bound) : bound.portfolioId = contract.portfolioId :=
  (boundObservation_portfolioId h.bound).trans (admitTrigger_portfolioId h.admitted)

theorem consumeExternalTrigger_respects
    {post : List (Portfolios × Portfolios) → Py ResumeTickResult → Portfolios → Prop}
    (hD : PortfolioDiscipline D) (hm : D.Mutual)
    (hl : ∀ bound, AdmittedTrigger contract event observation policy digest requirement receipt
      coreReport bound → LetsDeliver D policy event bound requirement receipt)
    (ho : ∀ bound more r s', AdmittedTrigger contract event observation policy digest requirement
        receipt coreReport bound → D.inv s' → D.rely s s' →
      Delivered contract.portfolioId policy event bound requirement more r →
        post (made ++ more) r s')
    (he : ∀ e s', D.inv s' → D.rely s s' → post made (.error e) s') :
    (consumeExternalTrigger contract event observation policy digest requirement receipt
      coreReport).Respects D post made s := by
  refine .lift_bind (fun _ hadm => ?_) fun e s₁ _ => he e s₁
  refine .lift_bind (fun bound hbound => ?_) fun e s₁ _ => he e s₁
  have ha : AdmittedTrigger contract event observation policy digest requirement receipt coreReport
      bound := ⟨hadm, hbound⟩
  exact consumeBound_respects hD hm (hl bound ha) fun more r s' => ho bound more r s' ha

-- What the report of a transition says of the heads that were read before and after it.
structure PersistentRuntimeEventReport.Reads (report : PersistentRuntimeEventReport)
    (before after : PortfolioState) (latest : Option ExecutionCheckpoint)
    (disposition : TickDisposition) : Prop where
  status           : report.status = PyLiteral.spelling disposition
  portfolioId      : report.portfolioId = after.portfolioId
  preGeneration    : report.preGeneration = before.generation
  postGeneration   : report.postGeneration = after.generation
  preStateDigest   : report.preStateDigest = before.digest
  postStateDigest  : report.postStateDigest = after.digest
  checkpointDigest : report.checkpointDigest = latest.map ExecutionCheckpoint.digest

-- What an event has done when its report is returned.
inductive Reported (report : PersistentRuntimeEventReport) : List (Portfolios × Portfolios) → Prop
  | bootstrapped {s₁ s₂ s₃ state} : s₂.Holds state none → s₃.Holds state none →
    report.status = "bootstrapped" → report.portfolioId = state.portfolioId →
    report.preGeneration = 0 → report.postGeneration = 0 →
    report.preStateDigest = state.digest → report.postStateDigest = state.digest →
    Reported report [(s₁, s₂), (s₃, s₃)]
  | transition {s₁ s₂ before latest after latest' made result} : s₁.Holds before latest →
    s₂.Holds after latest' → before.portfolioId = after.portfolioId →
    Consumed after.portfolioId made result → report.Reads before after latest' result.disposition →
    Reported report ((s₁, s₁) :: made ++ [(s₂, s₂)])

omit [Sha256] in
theorem PersistentRuntimeEventReport.checked_eq_ok {report' : PersistentRuntimeEventReport}
    (h : report.checked = .ok report') : report' = report := by
  simp only [checked, Except.bind_eq_ok, Except.pure_eq_ok] at h
  obtain ⟨_, _, _, _, _, _, _, _, rfl⟩ := h
  rfl

section Events

variable {post : List (Portfolios × Portfolios) → Py PersistentRuntimeEventReport → Portfolios → Prop}

-- What a discipline lets the initialization of a portfolio do.
def LetsInitialize (D : Discipline Portfolios) (state : PortfolioState) : Prop :=
  ∀ s₁ s₂, D.inv s₁ → s₁.Initializes s₂ state → D.inv s₂ ∧ D.guar s₁ s₂

theorem discipline_letsInitialize {state : PortfolioState} : LetsInitialize discipline state :=
  fun _ _ hi hinit => hinit.respects hi

theorem bootstrapEvent_respects {state : PortfolioState} (hD : PortfolioDiscipline D)
    (hl : LetsInitialize D state)
    (ho : ∀ more r s', Reported r more → post (made ++ more) (.ok r) s')
    (he : ∀ made' e s', post made' (.error e) s') :
    (bootstrapEvent eventId state).Respects D post made s := by
  refine .bind <| PortfolioHeadStore.initializePortfolio_respects hD.consistent
    (fun s₁ s₂ hi hr hinit => ?_) fun _ _ _ _ _ _ => he _ _ _
  have ⟨hi₂, hg₂⟩ := hl s₁ s₂ hi hinit
  refine ⟨hi₂, hg₂, fun s₃ head hi₃ hr₃ hz hhead => ?_⟩
  have hh₂ : s₂.Holds state none := by
    cases hinit
    case inl h => exact h.right ▸ h.left
    case inr h => exact h.holds (hD.consistent s₁ hi)
  refine .bind <| recoverPortfolio_respects hD.consistent
    (fun s₄ s₅ state' latest hi₄ hr₄ hh hp hi₅ hr₅ => ?_) fun made' e s₁ s₂ _ _ _ _ _ _ => he _ _ _
  refine .lift_bind (fun _ hn => ?_) fun e s₈ _ _ _ => he _ _ _
  have hnone : latest = none := Option.isNone_iff_eq_none.mp (Py.require_eq_ok.mp hn)
  subst hnone
  have hstate : state = state' := by
    rcases hh₂.eq_or_lt hh (hD.advances _ _ (D.trans hr₃ hr₄)) hp.symm with h | h
    · exact h.left
    · have := hh.latest.absent.mp rfl
      omega
  subst hstate
  refine Program.Respects.lift fun s₆ hi₆ hr₆ => ?_
  rw [List.append_assoc]
  cases hc : PersistentRuntimeEventReport.checked _
  case error e => exact he _ _ _
  case ok r    =>
    have hr := PersistentRuntimeEventReport.checked_eq_ok hc
    subst hr
    exact ho _ _ s₆ (.bootstrapped hh₂ hh rfl rfl rfl hhead rfl rfl)

-- The observation that an admitted event delivers.
def AdmittedBody (body : TransitionBody) (gates : TransitionGates) (bound : ResumeTickObservation) :
    Prop :=
  AdmittedTrigger body.contract body.trigger body.observation body.policy
    gates.authenticatedTriggerDigest gates.coreRequirement gates.coreVerification gates.coreReport
    bound

theorem transitionEvent_respects {body : TransitionBody} {gates : TransitionGates}
    (hD : PortfolioDiscipline D) (hm : D.Mutual)
    (hl : ∀ bound, AdmittedBody body gates bound → LetsDeliver D body.policy body.trigger bound
      gates.coreRequirement gates.coreVerification)
    (ho : ∀ more r s', Reported r more → post (made ++ more) (.ok r) s')
    (he : ∀ made' e s', post made' (.error e) s') :
    (transitionEvent eventId body gates).Respects D post made s := by
  refine .bind <| recoverPortfolio_respects hD.consistent
    (fun s₁ s₂ before latest hi hr hh hp hi₂ hr₂ => ?_) fun made' e s₁ s₂ _ _ _ _ _ _ => he _ _ _
  refine .bind <| consumeExternalTrigger_respects hD hm hl
    (fun bound more result s₃ ha _ _ hd => ?_) fun _ _ _ _ => he _ _ _
  cases result
  case error e   => exact he _ _ _
  case ok result =>
    have hc := hd.consumed ha.portfolioId
    refine .bind <| recoverPortfolio_respects hD.consistent
      (fun s₄ s₅ after latest' hi₄ hr₄ hh' hp' hi₅ hr₅ => ?_) fun made' e s₁ s₂ _ _ _ _ _ _ =>
        he _ _ _
    refine Program.Respects.lift fun s₆ hi₆ hr₆ => ?_
    rw [List.append_assoc, List.append_assoc]
    cases hchecked : PersistentRuntimeEventReport.checked _
    case error e => exact he _ _ _
    case ok r    =>
      have hr := PersistentRuntimeEventReport.checked_eq_ok hchecked
      subst hr
      exact ho _ _ s₆ <| .transition hh hh' (hp.trans hp'.symm) (hp'.symm ▸ hc)
        ⟨rfl, rfl, rfl, rfl, rfl, rfl, rfl⟩

-- The transition that an event asks for.
def PersistentRuntime.Asks (payload : Json) (body : TransitionBody) : Prop :=
  ∃ eventId operation data, PersistentRuntime.envelope payload = .ok (eventId, operation, data) ∧
    PersistentRuntime.transitionBody eventId data = .ok body

theorem processPersistentRuntimeEvent_respects {payload : Json} {digest : Option String}
    {requirement : Option CoreVerificationRequirement}
    {verification : Option CoreVerificationReceipt} {coreReport : Option CoreRehearsalReport}
    (hD : PortfolioDiscipline D) (hm : D.Mutual) (hi : ∀ state, LetsInitialize D state)
    (hl : ∀ body gates bound, PersistentRuntime.Asks payload body → AdmittedBody body gates bound →
      LetsDeliver D body.policy body.trigger bound gates.coreRequirement gates.coreVerification)
    (ho : ∀ more r s', Reported r more → post (made ++ more) (.ok r) s')
    (he : ∀ made' e s', post made' (.error e) s') :
    (processPersistentRuntimeEvent payload digest requirement verification coreReport).Respects D
      post made s := by
  refine .lift_bind (fun envelope henvelope => ?_) fun e s₁ _ _ _ => he _ _ _
  obtain ⟨eventId, operation, body⟩ := envelope
  by_cases hop : operation = "bootstrap"
  case pos =>
    simp only [if_pos hop]
    refine .lift_bind (fun _ _ => ?_) fun e s₁ _ _ _ => he _ _ _
    refine .lift_bind (fun state _ => ?_) fun e s₁ _ _ _ => he _ _ _
    exact bootstrapEvent_respects hD (hi state) ho he
  case neg =>
    simp only [if_neg hop]
    refine .lift_bind (fun _ _ => ?_) fun e s₁ _ _ _ => he _ _ _
    split
    case h_1 =>
      refine .lift_bind (fun body hbody => ?_) fun e s₁ _ _ _ => he _ _ _
      exact transitionEvent_respects hD hm
        (fun bound => hl body _ bound ⟨eventId, operation, _, henvelope, hbody⟩) ho he
    case h_2 => exact fun s₁ _ _ => he _ _ _

end Events

end Respects

end GeneralExecution
