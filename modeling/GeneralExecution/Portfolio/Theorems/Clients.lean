import GeneralExecution.Portfolio.Theorems.EventReports

namespace GeneralExecution

open Portfolios

-- What a call returns.
inductive PortfolioAnswer
  | event (report : PersistentRuntimeEventReport)
  | tick (result : ResumeTickResult)
  | decision (result : HumanGateDecisionResult)
  | head (head : DurablePortfolioHead)

variable [Sha256] {s s' : Portfolios}

namespace PortfolioClient

def call : PortfolioClient → PortfolioCall PortfolioAnswer
  | event payload digest requirement verification report => do
    return .event (← processPersistentRuntimeEvent payload digest requirement verification report)
  | trigger contract evidence observation policy digest requirement verification report => do
    return .tick (← consumeExternalTrigger contract evidence observation policy digest requirement
      verification report)
  | tick portfolioId policy observation requirement verification => do
    return .tick (← resumeTick portfolioId policy observation requirement verification)
  | decide decision providerActor decisionRef => do
    return .decision (← consumeHumanGateDecision decision providerActor decisionRef)
  | create state => do
    return .head (← PortfolioHeadStore.initializePortfolio state)
  | commit portfolioId expected new checkpoint => do
    return .head (← PortfolioHeadStore.commit portfolioId expected new checkpoint)

-- The observation that a call may commit to a store. That of a trigger is bound to it by then.
inductive Delivers (s : Portfolios) : PortfolioClient → ResumeTickObservation → Prop
  | tick {id policy o requirement verification} :
    Delivers s (.tick id policy (some o) requirement verification) o
  | trigger {contract evidence o policy digest requirement receipt report bound} :
    AdmittedTrigger contract evidence o policy digest requirement receipt report bound →
    s.Bound evidence bound →
    Delivers s (.trigger contract evidence o policy digest requirement receipt report) bound
  | event {payload digest requirement receipt report body gates bound} :
    PersistentRuntime.Asks payload body → AdmittedBody body gates bound →
    s.Bound body.trigger bound → Delivers s (.event payload digest requirement receipt report) bound

-- What an access of a call does to the heads and the checkpoints.
inductive Moves (s s' : Portfolios) : PortfolioClient → Prop
  | keeps {client} : s.BindsTrigger s' → Moves s s' client
  | creates {client state} : s.Creates s' state → Moves s s' client
  | applies {client policy o requirement receipt cur latest t} : Delivers s client o →
    TickTransition policy o requirement receipt cur t →
    s.Commits s' cur latest t.newState t.checkpoint → Moves s s' client
  | decides {decision providerActor decisionRef cur latest new cp} :
    DecisionTransition cur latest decision decisionRef new cp → s.Commits s' cur latest new cp →
    Moves s s' (.decide decision providerActor decisionRef)
  | commits {portfolioId expected cur latest new cp} : s.Commits s' cur latest new cp →
    cur.digest = expected → Moves s s' (.commit portfolioId expected new cp)

-- What a call has done that has ended.
def Does : PortfolioClient → List (Portfolios × Portfolios) → Py PortfolioAnswer → Portfolios → Prop
  | event .., made, r, _ => ∀ report, r = .ok (.event report) → Reported report made
  | trigger contract evidence observation policy digest requirement receipt report, made, r, _ =>
    (made = [] ∧ r.isOk = false) ∨ ∃ bound result,
      AdmittedTrigger contract evidence observation policy digest requirement receipt report bound ∧
      Delivered contract.portfolioId policy evidence bound requirement made result ∧
      r = result.map .tick
  | tick portfolioId policy observation requirement _, made, r, _ =>
    ∃ result, Ticked portfolioId policy observation requirement made result ∧ r = result.map .tick
  | decide decision _ decisionRef, made, r, _ =>
    ∃ result, Decided decision decisionRef made result ∧ r = result.map .decision
  | create state, made, r, _ =>
    if r.isOk then ∃ m, made = [m] ∧ m.1.Initializes m.2 state else ∀ m ∈ made, m.2 = m.1
  | commit _ expected new cp, made, r, _ =>
    if r.isOk then
      ∃ m cur latest, made = [m] ∧ m.1.Commits m.2 cur latest new cp ∧ cur.digest = expected
    else ∀ m ∈ made, m.2 = m.1

end PortfolioClient

omit [Sha256] in
theorem Portfolios.BindsTrigger.refl : s.BindsTrigger s :=
  ⟨rfl, rfl, fun _ _ => id⟩

-- The clients of one store, which all keep it consistent and take nothing back.
def portfolios : Protocol PortfolioClient Portfolios where
  inv              := Consistent
  rely             := Advances
  guar client s s' := s.Advances s' ∧ client.Moves s s'
  refl _           := .refl
  trans            := .trans
  idle _ _         := ⟨.refl, .keeps .refl⟩
  agree h          := h.left

variable {client : PortfolioClient}

theorem portfolios_discipline : PortfolioDiscipline (portfolios.of client) where
  consistent _ h := h
  advances _ _ h := h

theorem portfolios_mutual : (portfolios.of client).Mutual :=
  fun _ _ h => h.left

theorem portfolios_letsInitialize {state : PortfolioState} :
    LetsInitialize (portfolios.of client) state := by
  intro s₁ s₂ hi hinit
  refine ⟨(hinit.respects hi).left, (hinit.respects hi).right, ?_⟩
  cases hinit
  case inl h => exact h.right ▸ .keeps .refl
  case inr h => exact .creates h

theorem portfolios_letsDeliver {policy : TransitionPolicy} {event : ExternalTriggerEvidence}
    {bound : ResumeTickObservation} {requirement : CoreVerificationRequirement}
    {receipt : CoreVerificationReceipt}
    (hd : ∀ s, s.Bound event bound → client.Delivers s bound) :
    LetsDeliver (portfolios.of client) policy event bound requirement receipt where
  binds _ _ hi hb                := ⟨hb.consistent hi, hb.advances, .keeps hb⟩
  commits s₁ _ _ _ _ hi hb _ ht hc :=
    ⟨hc.consistent hi, hc.advances hi, .applies (hd s₁ hb) ht hc⟩

namespace PortfolioClient

theorem call_respects (client : PortfolioClient) (s : Portfolios) (_ : portfolios.inv s) :
    client.call.Respects (portfolios.of client) client.Does [] s := by
  cases client
  case event payload digest requirement verification report =>
    refine .map <| processPersistentRuntimeEvent_respects portfolios_discipline portfolios_mutual
      (fun _ => portfolios_letsInitialize)
      (fun _ _ _ hasks hadm => portfolios_letsDeliver fun s hb => .event hasks hadm hb)
      (fun more r s' hr report he => ?_) fun _ _ _ _ he => by cases he
    cases he
    exact hr
  case trigger contract evidence observation policy digest requirement verification report =>
    refine .map <| consumeExternalTrigger_respects portfolios_discipline portfolios_mutual
      (fun bound hadm => portfolios_letsDeliver fun s hb => .trigger hadm hb)
      (fun bound more r s' hadm _ _ hd => .inr ⟨bound, r, hadm, hd, rfl⟩)
      fun e s' _ _ => .inl ⟨rfl, rfl⟩
  case tick portfolioId policy observation requirement verification =>
    refine .map <| resumeTick_respects portfolios_discipline
      (fun o receipt s₁ s₂ cur latest t ho hi _ _ ht hc => ?_) portfolios_mutual
      fun more r s' _ _ ht => ⟨r, ht, rfl⟩
    subst ho
    exact ⟨hc.consistent hi, hc.advances hi, .applies .tick ht hc⟩
  case decide decision providerActor decisionRef =>
    refine .map <| consumeHumanGateDecision_respects portfolios_discipline
      (fun s₁ s₂ cur latest new cp hi _ ht hc => ?_) portfolios_mutual
      fun more r s' _ _ hd => ⟨r, hd, rfl⟩
    exact ⟨hc.consistent hi, hc.advances hi, .decides ht hc⟩
  case create state =>
    refine .map <| PortfolioHeadStore.initializePortfolio_respects portfolios_discipline.consistent
      (fun s₁ s₂ hi _ hinit => ?_) fun made e s₁ hq _ _ => hq.of_nil
    have ⟨hi₂, hg₂⟩ := portfolios_letsInitialize s₁ s₂ hi hinit
    exact ⟨hi₂, hg₂, fun s₃ head _ _ _ _ => ⟨(s₁, s₂), rfl, hinit⟩⟩
  case commit portfolioId expected new checkpoint =>
    refine .map <| PortfolioHeadStore.commit_respects portfolios_discipline.consistent
      (fun s₁ s₂ cur latest hi _ hc he => ?_) fun made e s₁ hq _ _ => hq.of_nil
    exact ⟨hc.consistent hi, ⟨hc.advances hi, .commits hc he⟩, fun s₃ head _ _ =>
      ⟨(s₁, s₂), cur, latest, rfl, hc, he⟩⟩

variable {state new : PortfolioState} {latest : Option ExecutionCheckpoint}

-- The checkpoints that an access leaves are those it has found, and the one that it commits.
theorem Moves.checkpoints {row : PortfolioCheckpointRow} (h : client.Moves s s')
    (hr : row ∈ s'.checkpoints.rows) :
    row ∈ s.checkpoints.rows ∨ ∃ cur latest new cp, s.Commits s' cur latest new cp ∧
      row = portfolioCheckpointRow cp := by
  have hcommits {cur new : PortfolioState} {latest : Option ExecutionCheckpoint}
      {cp : ExecutionCheckpoint} (hc : s.Commits s' cur latest new cp) :
      row ∈ s.checkpoints.rows ∨ ∃ cur latest new cp, s.Commits s' cur latest new cp ∧
        row = portfolioCheckpointRow cp := by
    rw [(Table.insert?_eq_some.mp hc.inserts).right, List.mem_append, List.mem_singleton] at hr
    exact hr.imp_right fun he => ⟨cur, latest, new, cp, hc, he⟩
  rcases h with hb | hc | ⟨_, _, hc⟩ | ⟨_, hc⟩ | ⟨hc, _⟩
  case keeps   => exact .inl (hb.checkpoints ▸ hr)
  case creates => exact .inl (hc.checkpoints ▸ hr)
  all_goals exact hcommits hc

-- The heads that an access leaves hold what they have held, or what it creates or commits.
theorem Moves.holds (hs : s.Consistent) (h : client.Moves s s') (hh : s'.Holds state latest) :
    s.Holds state latest ∨ state.generation = 0 ∨
      ∃ cur latest' cp, s.Commits s' cur latest' state cp := by
  have hcommits {cur new : PortfolioState} {latest' : Option ExecutionCheckpoint}
      {cp : ExecutionCheckpoint} (hc : s.Commits s' cur latest' new cp) :
      s.Holds state latest ∨ state.generation = 0 ∨
        ∃ cur latest' cp, s.Commits s' cur latest' state cp := by
    cases hc.holds_cases hh
    case inl he => exact .inr <| .inr ⟨cur, latest', cp, he.left ▸ hc⟩
    case inr hh => exact .inl hh
  rcases h with hb | hc | ⟨_, _, hc⟩ | ⟨_, hc⟩ | ⟨hc, _⟩
  case keeps   =>
    exact .inl <| hh.congr (by rw [head?, head?, hb.heads])
      (by rw [checkpoint?, checkpoint?, hb.checkpoints])
  case creates =>
    cases hc.holds_cases hs hh
    case inl he => exact .inr <| .inl <| he.left ▸ hc.genesis
    case inr hh => exact .inl hh
  all_goals exact hcommits hc

end PortfolioClient

-- One access in a run.
abbrev PortfolioEvent := Event PortfolioClient Portfolios

-- A run of any number of clients of one store, which starts empty, with the history of its accesses.
abbrev PortfolioRun :=
  Config (Portfolios × List PortfolioEvent) PyError (PortfolioClient × Py PortfolioAnswer)

namespace PortfolioRun

def Starts : Program (Portfolios × List PortfolioEvent) PyError (PortfolioClient × Py PortfolioAnswer) →
    Prop :=
  Protocol.LoggedStarts (Protocol.Clients PortfolioClient.call)

def Reached (c : PortfolioRun) : Prop :=
  Config.Reachable Starts (.initial (.empty, [])) c

variable {c : PortfolioRun} {e : PortfolioEvent} {state new cur : PortfolioState}
variable {latest : Option ExecutionCheckpoint} {r : Py PortfolioAnswer}
variable {made : List ((Portfolios × List PortfolioEvent) × (Portfolios × List PortfolioEvent))}
variable {x : Portfolios × List PortfolioEvent}

theorem recorded_empty : portfolios.Recorded .empty (.empty, []) :=
  ⟨empty_consistent, .nil, by simp⟩

namespace Reached

theorem sound (h : c.Reached) : c.Sound (portfolios.logged .empty)
    (portfolios.AnsweredPost .empty PortfolioClient.Does) (.empty, []) :=
  Protocol.clients_sound PortfolioClient.call_respects empty_consistent h

theorem recorded (h : c.Reached) : portfolios.Recorded .empty c.store :=
  h.sound.inv

theorem answered (h : c.Reached) (hr : ⟨.ok (client, r), made⟩ ∈ c.returned) :
    portfolios.Answered .empty PortfolioClient.Does client r made c.store :=
  Protocol.answered_of_returned PortfolioClient.call_respects empty_consistent h hr

end Reached

-- Every checkpoint of the store has been committed.
theorem committed_of_checkpoint (hx : portfolios.Recorded .empty x) :
    ∀ row ∈ x.1.checkpoints.rows, ∃ e ∈ x.2, ∃ cur latest new cp,
      e.before.Commits e.after cur latest new cp ∧ row = portfolioCheckpointRow cp := by
  refine hx.induct (motive := fun s es => ∀ row ∈ s.checkpoints.rows, ∃ e ∈ es, ∃ cur latest new cp,
    e.before.Commits e.after cur latest new cp ∧ row = portfolioCheckpointRow cp)
    (by simp [Portfolios.empty, Table.empty]) fun s es l s' _ hl ih row hr => ?_
  rcases hl.guar.right.checkpoints hr with hr | ⟨cur, latest, new, cp, hc, he⟩
  case inl =>
    obtain ⟨e, he, hcommits⟩ := ih row hr
    exact ⟨e, List.mem_append_left _ he, hcommits⟩
  case inr => exact ⟨⟨l, s, s'⟩, by simp, cur, latest, new, cp, hc, he⟩

-- Every state of a head has been committed, or is the first of its portfolio.
theorem committed_of_holds (hx : portfolios.Recorded .empty x) :
    ∀ state latest, x.1.Holds state latest → state.generation = 0 ∨
      ∃ e ∈ x.2, ∃ cur latest cp, e.before.Commits e.after cur latest state cp := by
  refine hx.induct (motive := fun s es => ∀ state latest, s.Holds state latest →
    state.generation = 0 ∨
      ∃ e ∈ es, ∃ cur latest cp, e.before.Commits e.after cur latest state cp)
    (fun state latest hh => ?_) fun s es l s' _ hl ih state latest hh => ?_
  case refine_1 => cases hh.head
  case refine_2 =>
    rcases hl.guar.right.holds hl.before hh with hh | hg | ⟨cur, latest', cp, hc⟩
    case inl =>
      refine (ih state latest hh).imp_right ?_
      exact fun ⟨e, he, hcommits⟩ => ⟨e, List.mem_append_left _ he, hcommits⟩
    case inr.inl => exact .inl hg
    case inr.inr => exact .inr ⟨⟨l, s, s'⟩, by simp, cur, latest', cp, hc⟩

-- An access that comes later finds what an earlier one has left, or a later store.
theorem pairwise_advances (hx : portfolios.Recorded .empty x) :
    x.2.Pairwise fun e e' => e.after.Advances e'.before :=
  hx.history.pairwise (fun _ => .refl) .trans fun e he => (hx.admits e he).guar.left

theorem advances_of_mem (hx : portfolios.Recorded .empty x) (he : e ∈ x.2) :
    e.after.Advances x.1 :=
  hx.history.kept_after (fun _ => .refl) .trans (fun e he => (hx.admits e he).guar.left) he

-- The commits to one portfolio are to growing generations.
theorem pairwise_generations (hx : portfolios.Recorded .empty x) :
    x.2.Pairwise fun e e' => ∀ cur latest new cp cur' latest' new' cp',
      e.before.Commits e.after cur latest new cp →
      e'.before.Commits e'.after cur' latest' new' cp' → new.portfolioId = new'.portfolioId →
        new.generation ≤ cur'.generation := by
  refine (pairwise_advances hx).imp fun {e e'} ha cur latest new cp cur' latest' new' cp' hc hc' hp => ?_
  rcases hc.holds.eq_or_lt hc'.current ha (hp.trans hc'.portfolioId) with ⟨he, _⟩ | hlt
  · exact he ▸ le_rfl
  · exact hlt.le

end PortfolioRun

end GeneralExecution
