import GeneralExecution.Portfolio.Theorems.BurstEvents
import GeneralExecution.Portfolio.Theorems.TriggerHistory

namespace Program

variable {σ ε α : Type}

-- A discipline that asks less of the accesses of a call.
theorem Respects.weaken {D D' : Discipline σ} {post : List (σ × σ) → Except ε α → σ → Prop}
    {p : Program σ ε α} {made : List (σ × σ)} {s : σ} (h : p.Respects D post made s)
    (hi : ∀ s, D.inv s ↔ D'.inv s) (hr : ∀ s s', D'.rely s s' → D.rely s s')
    (hg : ∀ s s', D.guar s s' → D'.guar s s') : p.Respects D' post made s := by
  induction p generalizing made s
  case done r        => exact fun s' hs' hr' => h s' ((hi s').mpr hs') (hr s s' hr')
  case atomic w n ih =>
    intro s' hs' hr'
    have ⟨h₁, h₂, h₃⟩ := h s' ((hi s').mpr hs') (hr s s' hr')
    exact ⟨(hi _).mp h₁, hg _ _ h₂, ih s' h₃⟩

end Program

namespace GeneralExecution

open Portfolios

section Bursts

variable [Sha256]

-- A transition that a burst may commit: that of an event which its manifest lists, by the digest of
-- its text, and which its own trigger and the gates of the burst admit.
structure BurstTransition (manifest : PersistentBurstManifest) (gates : BurstGates)
    (ref : PersistentBurstEventRef) (body : TransitionBody) (bound : ResumeTickObservation) : Prop where
  listed   : ref ∈ manifest.eventRefs
  event    : ∃ event, LoadsEvent manifest gates.load ref event ∧
    PersistentRuntime.Asks event.payload body
  admitted : AdmittedBody body
    ⟨body.trigger.digest, gates.coreRequirement, gates.coreVerification, gates.coreReport⟩ bound

-- A client of a store: a burst, or any other call.
inductive BurstClient
  | burst (manifest : PersistentBurstManifest) (gates : BurstGates)
  | other (client : PortfolioClient)

inductive BurstAnswer
  | burst (report : PersistentBurstExecutionReport)
  | other (answer : PortfolioAnswer)

def BurstClient.call : BurstClient → PortfolioCall BurstAnswer
  | burst manifest gates => do return .burst (← executePersistentBurst manifest gates)
  | other client         => do return .other (← client.call)

-- What an access of a call does to the heads and the checkpoints.
inductive BurstClient.Moves (s s' : Portfolios) : BurstClient → Prop
  | other {client} : client.Moves s s' → Moves s s' (.other client)
  | keeps {manifest gates} : s.BindsTrigger s' → Moves s s' (.burst manifest gates)
  | applies {manifest gates ref body bound cur latest t} :
    BurstTransition manifest gates ref body bound → s.Bound body.trigger bound →
    TickTransition body.policy bound gates.coreRequirement gates.coreVerification cur t →
    s.Commits s' cur latest t.newState t.checkpoint → Moves s s' (.burst manifest gates)

theorem BurstClient.Moves.refl {s : Portfolios} {client : BurstClient} : client.Moves s s := by
  cases client
  case burst => exact .keeps .refl
  case other => exact .other (.keeps .refl)

def bursts : Protocol BurstClient Portfolios where
  inv              := Consistent
  rely             := Advances
  guar client s s' := s.Advances s' ∧ client.Moves s s'
  refl _           := .refl
  trans            := .trans
  idle _ _         := ⟨.refl, .refl⟩
  agree h          := h.left

theorem bursts_discipline {client : BurstClient} : PortfolioDiscipline (bursts.of client) where
  consistent _ h := h
  advances _ _ h := h

theorem bursts_mutual {client : BurstClient} : (bursts.of client).Mutual :=
  fun _ _ h => h.left

-- One event of a burst, from its processing to the state that is found afterwards.
structure BurstStepped (manifest : PersistentBurstManifest) (gates : BurstGates) (index : Nat)
    (ref : PersistentBurstEventRef) (report : PersistentRuntimeEventReport)
    (step : PersistentBurstStep) (state : PortfolioState) (made : List (Portfolios × Portfolios)) :
    Prop where
  loaded      : ∃ event, LoadsEvent manifest gates.load ref event
  made        : ∃ more s latest, TransitionReported manifest.portfolioId report more ∧
    s.Holds state latest ∧ made = more ++ [(s, s)]
  portfolioId : state.portfolioId = manifest.portfolioId
  step        : burstStep index ref report = .ok step
  found       : state.generation = report.postGeneration ∧ state.digest = report.postStateDigest

-- The portfolio is as the manifest of a burst expects it.
def PersistentBurstManifest.Expects (manifest : PersistentBurstManifest) (generation : Nat)
    (digest : String) : Prop :=
  generation = manifest.expectedStartGeneration ∧ digest = manifest.expectedStartStateDigest

-- A burst that has found its portfolio as its manifest expects it, with the steps that it has made,
-- the state that it has found last and why it is to stop there, if it is.
inductive BurstRan (manifest : PersistentBurstManifest) (gates : BurstGates)
    (initial : PortfolioState) : List (Portfolios × Portfolios) → List PersistentBurstStep →
      PortfolioState → Option (BurstExecutionDisposition × String) → Prop
  | starts {s latest} : s.Holds initial latest → initial.portfolioId = manifest.portfolioId →
    manifest.Expects initial.generation initial.digest →
    BurstRan manifest gates initial [(s, s)] [] initial none
  | goes {made steps state ref made' report step state'} :
    BurstRan manifest gates initial made steps state none →
    manifest.eventRefs[steps.length]? = some ref →
    BurstStepped manifest gates steps.length ref report step state' made' →
    BurstRan manifest gates initial (made ++ made') (steps ++ [step]) state'
      (burstStop report state')

-- What a burst has done when it ends.
inductive BurstEnded (manifest : PersistentBurstManifest) (gates : BurstGates) :
    List (Portfolios × Portfolios) → Py PersistentBurstExecutionReport → Prop
  | refused {made e} : (∀ m ∈ made, m.2 = m.1) → BurstEnded manifest gates made (.error e)
  | mismatched {s state latest report} : s.Holds state latest →
    state.portfolioId = manifest.portfolioId → ¬manifest.Expects state.generation state.digest →
    burstReport manifest state state [] .startStateMismatch "START_STATE_MISMATCH" = .ok report →
    BurstEnded manifest gates [(s, s)] (.ok report)
  | stopped {initial made steps state disposition reason report} :
    BurstRan manifest gates initial made steps state (some (disposition, reason)) →
    burstReport manifest initial state steps disposition reason = .ok report →
    BurstEnded manifest gates made (.ok report)
  | exhausted {initial made steps state report} :
    BurstRan manifest gates initial made steps state none →
    steps.length = manifest.eventRefs.length →
    burstReport manifest initial state steps .stopped "MANIFEST_EXHAUSTED_REQUIRES_FRESH_EVIDENCE" =
      .ok report → BurstEnded manifest gates made (.ok report)
  | raised {initial made steps state more e} :
    BurstRan manifest gates initial made steps state none →
    steps.length + Accesses.gained (progress manifest.portfolioId) more ≤ manifest.eventRefs.length →
    BurstEnded manifest gates (made ++ more) (.error e)

variable {s s' : Portfolios} {manifest : PersistentBurstManifest} {gates : BurstGates}
variable {ref : PersistentBurstEventRef} {body : TransitionBody} {bound : ResumeTickObservation}
variable {initial state : PortfolioState} {steps : List PersistentBurstStep} {index : Nat}
variable {made more : List (Portfolios × Portfolios)} {report : PersistentRuntimeEventReport}
variable {step : PersistentBurstStep} {stop : Option (BurstExecutionDisposition × String)}
variable {r : Py PersistentBurstExecutionReport}

theorem BurstTransition.portfolioId (h : BurstTransition manifest gates ref body bound) :
    bound.portfolioId = manifest.portfolioId := by
  obtain ⟨event, hl, hasks⟩ := h.event
  have ⟨_, hp, _⟩ := hasks.eq_of_tells hl.tells
  exact (AdmittedTrigger.portfolioId h.admitted).trans hp

theorem BurstRan.length_le (h : BurstRan manifest gates initial made steps state stop) :
    steps.length ≤ manifest.eventRefs.length := by
  cases h
  case starts     => exact Nat.zero_le _
  case goes hr hg =>
    have ⟨hlt, _⟩ := List.getElem?_eq_some_iff.mp hr
    rw [List.length_append]
    exact hlt

theorem burstFrom_respects {refs : List PersistentBurstEventRef} {seen : List String}
    (h : BurstRan manifest gates initial made steps state none) (hi : index = steps.length)
    (hr : manifest.eventRefs.drop index = refs) :
    (burstFrom manifest gates initial index refs seen steps state).Respects
      (bursts.of (.burst manifest gates)) (fun made r _ => BurstEnded manifest gates made r) made s := by
  have hraised {made : List (Portfolios × Portfolios)} {steps : List PersistentBurstStep}
      {state : PortfolioState} (h : BurstRan manifest gates initial made steps state none)
      (e : PyError) : BurstEnded manifest gates made (.error e) := by
    have hended : BurstEnded manifest gates (made ++ []) (.error e) := .raised h h.length_le
    rwa [List.append_nil] at hended
  induction refs generalizing made steps state index seen s
  case nil            =>
    refine Program.Respects.lift fun s' _ _ => ?_
    cases hreport : burstReport _ _ _ _ _ _
    case error e   => exact hraised h e
    case ok report =>
      have hlen : steps.length = manifest.eventRefs.length :=
        h.length_le.antisymm <| hi ▸ List.drop_eq_nil_iff.mp hr
      exact .exhausted h hlen hreport
  case cons ref refs ih =>
    have hlt : index < manifest.eventRefs.length := by
      have hlen := congrArg List.length hr
      rw [List.length_drop, List.length_cons] at hlen
      omega
    have href : manifest.eventRefs[index]? = some ref := by
      rw [← List.head?_drop, hr]
      rfl
    have hbudget : ¬manifest.maxTransitions ≤ index := by
      have := manifest.fits
      omega
    rw [burstFrom, if_neg hbudget]
    refine .lift_bind (fun event hevent => ?_) fun e s' _ _ _ => hraised h e
    have ⟨hloads, _⟩ := loadBurstEvent_eq_ok hevent
    have herror {more : List (Portfolios × Portfolios)} (e : PyError)
        (hg : Accesses.gained (progress manifest.portfolioId) more ≤ 1) :
        BurstEnded manifest gates (made ++ more) (.error e) := .raised h (by omega)
    have htells {body : TransitionBody} (hasks : PersistentRuntime.Asks event.payload body) :=
      hasks.eq_of_tells hloads.tells
    refine .bind <| processPersistentRuntimeEvent_respects_reported bursts_discipline bursts_mutual
      (fun body bound hasks hadm => ?_) (fun body hasks => (htells hasks).right.left)
      (fun more report s' hreported => ?_) fun more e s' hg => herror e hg
    case refine_1 =>
      have ht : BurstTransition manifest gates ref body bound := by
        refine ⟨List.mem_of_getElem? href, ⟨event, hloads, hasks⟩, ?_⟩
        rw [(htells hasks).right.right]
        exact hadm
      exact {
        binds _ _ hi hb               := ⟨hb.consistent hi, hb.advances, .keeps hb⟩
        commits _ _ _ _ _ hi hb _ ht' hc := ⟨hc.consistent hi, hc.advances hi, .applies ht hb ht' hc⟩ }
    have hgained := hreported.gained_le
    refine .lift_bind (fun step hstep => ?_) fun e s'' _ _ _ => herror e hgained
    refine .bind <| recoverPortfolio_respects bursts_discipline.consistent
      (fun s₁ s₂ state' latest _ _ hh hp _ _ => ?_) fun made' e s₁ s₂ hq _ _ _ _ _ => ?_
    case refine_2 =>
      obtain ⟨quiet, rfl, hq⟩ := hq
      rw [List.append_assoc]
      refine herror e ?_
      rwa [Accesses.gained_append, gained_of_quiet hq]
    have hgained' : Accesses.gained (progress manifest.portfolioId) (more ++ [(s₁, s₁)]) ≤ 1 := by
      rwa [Accesses.gained_append, @gained_of_quiet _ [(s₁, s₁)] (by simp)]
    rw [List.append_assoc]
    refine .lift_bind (fun _ hfound => ?_) fun e s'' _ _ _ => herror e hgained'
    have hstepped : BurstStepped manifest gates steps.length ref report step state'
        (more ++ [(s₁, s₁)]) :=
      ⟨⟨event, hloads⟩, ⟨more, s₁, latest, hreported, hh, rfl⟩, hp, hi ▸ hstep,
        Py.require_eq_ok.mp hfound⟩
    have hgoes := h.goes (hi ▸ href) hstepped
    split
    case h_1 disposition reason hstop =>
      rw [hstop] at hgoes
      refine Program.Respects.lift fun s'' _ _ => ?_
      cases hreport : burstReport _ _ _ _ _ _
      case error e   => exact herror e hgained'
      case ok report => exact .stopped hgoes hreport
    case h_2 hstop                    =>
      rw [hstop] at hgoes
      refine ih hgoes (by rw [List.length_append, hi]; rfl) ?_
      rw [← List.drop_drop, hr]
      rfl

theorem executePersistentBurst_respects :
    (executePersistentBurst manifest gates).Respects (bursts.of (.burst manifest gates))
      (fun made r _ => BurstEnded manifest gates made r) [] s := by
  refine .bind <| recoverPortfolio_respects bursts_discipline.consistent
    (fun s₁ s₂ state latest _ _ hh hp _ _ => ?_) fun made' e s₁ s₂ hq _ _ _ _ _ =>
      .refused hq.of_nil
  by_cases hstart : state.generation = manifest.expectedStartGeneration ∧
      state.digest = manifest.expectedStartStateDigest
  case pos =>
    simp only [if_pos hstart]
    exact burstFrom_respects (.starts hh hp hstart) rfl rfl
  case neg =>
    simp only [if_neg hstart]
    refine Program.Respects.lift fun s₃ _ _ => ?_
    cases hreport : burstReport _ _ _ _ _ _
    case error e   => exact .refused (by simp)
    case ok report => exact .mismatched hh hp hstart hreport

namespace BurstClient

-- What a call has done that has ended, with no other access than its own between two of a burst's.
def Does : BurstClient → List (Portfolios × Portfolios) → Py BurstAnswer → Portfolios → Prop
  | burst manifest gates, made, r, s =>
    ∃ result, BurstEnded manifest gates made result ∧ r = result.map .burst ∧
      Program.Chained (bursts.of (.burst manifest gates)) made s
  | other client, made, r, s => ∃ result, client.Does made result s ∧ r = result.map .other

theorem call_respects (client : BurstClient) (s : Portfolios) (hs : bursts.inv s) :
    client.call.Respects (bursts.of client) client.Does [] s := by
  cases client
  case burst manifest gates =>
    refine .map <| (executePersistentBurst_respects.chained .nil).mono fun made r s _ h => ?_
    exact ⟨r, h.left, rfl, h.right⟩
  case other client         =>
    have hcall : client.call.Respects (bursts.of (.other client)) client.Does [] s :=
      (client.call_respects s hs).weaken (fun _ => .rfl) (fun _ _ h => h)
        fun _ _ h => ⟨h.left, .other h.right⟩
    exact .map <| hcall.mono fun _ r _ _ h => ⟨r, h, rfl⟩

end BurstClient

section Accounts

omit [Sha256] in
theorem PersistentBurstStep.checked_eq_ok {step' : PersistentBurstStep}
    (h : step.checked = .ok step') : step' = step := by
  simp only [checked, Except.bind_eq_ok, Except.pure_eq_ok] at h
  obtain ⟨_, _, _, _, _, _, rfl⟩ := h
  rfl

omit [Sha256] in
theorem PersistentBurstExecutionReport.checked_eq_ok {r r' : PersistentBurstExecutionReport}
    (h : r.checked = .ok r') : r' = r := by
  simp only [checked, Except.bind_eq_ok, Except.pure_eq_ok] at h
  obtain ⟨_, _, _, _, _, _, _, _, rfl⟩ := h
  rfl

omit [Sha256] in
theorem burstStop_eq_none (h : burstStop report state = none) :
    report.status = "committed" ∧ report.humanRequired = false := by
  rw [burstStop] at h
  split at h
  case isTrue     => cases h
  case isFalse hs =>
    split at h
    case isTrue     => cases h
    case isFalse hh => exact ⟨not_ne_iff.mp hs, by simpa using (not_or.mp hh).left⟩

omit [Sha256] in
theorem burstStop_disposition {disposition : BurstExecutionDisposition} {reason : String}
    (h : burstStop report state = some (disposition, reason)) :
    disposition = .stopped ∨ disposition = .completed := by
  rw [burstStop] at h
  split at h
  case isTrue  =>
    cases h
    exact .inl rfl
  case isFalse =>
    split at h
    case isTrue  =>
      cases h
      exact .inl rfl
    case isFalse =>
      split at h
      case h_1 =>
        obtain ⟨rfl, _⟩ := Prod.mk.inj (Option.some.inj h)
        split
        case isTrue  => exact .inr rfl
        case isFalse => exact .inl rfl
      case h_2 =>
        split at h
        case isTrue  => cases h
        case isFalse =>
          cases h
          exact .inl rfl

omit [Sha256] in
theorem burstStop_completed {reason : String}
    (h : burstStop report state = some (.completed, reason)) : state.active.state = .complete := by
  rw [burstStop] at h
  split at h
  case isTrue  => cases h
  case isFalse =>
    split at h
    case isTrue  => cases h
    case isFalse =>
      split at h
      case h_1 =>
        by_contra hc
        rw [if_neg hc] at h
        cases h
      case h_2 => split at h <;> cases h

theorem TransitionReported.gained {id : String} (h : TransitionReported id report made) :
    Accesses.gained (progress id) made = if report.status = "committed" then 1 else 0 := by
  cases h
  case reads s₁ s₂ before latest after latest' made result hh hp hc hh' hp' hr =>
    rw [Accesses.gained_append, Accesses.gained_cons, Nat.sub_self, Nat.zero_add,
      @gained_of_quiet _ [(s₂, s₂)] (by simp), hc.gained, hr.status, Nat.add_zero]
    simp only [spelling_committed]

-- The steps that have committed their events.
def committedSteps (steps : List PersistentBurstStep) : Nat :=
  (steps.filter (·.status = "committed")).length

theorem BurstStepped.gained (h : BurstStepped manifest gates index ref report step state made) :
    Accesses.gained (progress manifest.portfolioId) made = committedSteps [step] := by
  obtain ⟨more, s, latest, hreported, _, rfl⟩ := h.made
  rw [Accesses.gained_append, hreported.gained, @gained_of_quiet _ [(s, s)] (by simp),
    PersistentBurstStep.checked_eq_ok h.step, committedSteps]
  by_cases hs : report.status = "committed" <;> simp [hs]

-- The generations that the steps have found and left, after the one that the burst has found.
def generations (initial : Nat) (steps : List PersistentBurstStep) : List Nat :=
  initial :: steps.flatMap fun step => [step.preGeneration, step.postGeneration]

omit [Sha256] in
theorem generations_append {n : Nat} :
    generations n (steps ++ [step]) =
      generations n steps ++ [step.preGeneration, step.postGeneration] := by
  simp [generations]

namespace BurstRan

theorem gained (h : BurstRan manifest gates initial made steps state stop) :
    Accesses.gained (progress manifest.portfolioId) made = committedSteps steps := by
  induction h
  case starts                     => exact gained_of_quiet (by simp)
  case goes made' _ _ hr hs ih =>
    rw [Accesses.gained_append, ih, hs.gained, committedSteps, committedSteps, committedSteps,
      List.filter_append, List.length_append]

theorem listed (h : BurstRan manifest gates initial made steps state stop) :
    steps.map (fun step => (step.eventPath, step.eventContentDigest)) =
      (manifest.eventRefs.take steps.length).map fun ref => (ref.path, ref.contentDigest) := by
  induction h
  case starts => rfl
  case goes _ hr hs ih =>
    rw [List.map_append, ih, List.length_append, List.length_singleton, List.take_add_one, hr,
      List.map_append, PersistentBurstStep.checked_eq_ok hs.step]
    rfl

theorem indexed (h : BurstRan manifest gates initial made steps state stop) :
    steps.map PersistentBurstStep.index = List.range steps.length := by
  induction h
  case starts => rfl
  case goes _ hr hs ih =>
    rw [List.map_append, ih, List.length_append, List.length_singleton, List.range_succ,
      PersistentBurstStep.checked_eq_ok hs.step]
    rfl

theorem loaded (h : BurstRan manifest gates initial made steps state stop) :
    ∀ step ∈ steps, ∃ event text, gates.load step.eventPath = .ok (.text text) ∧
      contentDigest text = step.eventContentDigest ∧
      (Json.loads text).map Json.asDicts = some event ∧ ∀ k, NamesMember event k → ¬CredentialShaped k := by
  induction h
  case starts => simp
  case goes _ hr hs ih =>
    refine List.forall_mem_append.mpr ⟨ih, List.forall_mem_singleton.mpr ?_⟩
    obtain ⟨event, hl⟩ := hs.loaded
    obtain ⟨text, hload, hdigest, hparse⟩ := hl.text
    rw [PersistentBurstStep.checked_eq_ok hs.step]
    exact ⟨event.payload, text, hload, hdigest, hparse, hl.inert⟩

theorem unstopped (h : BurstRan manifest gates initial made steps state stop) (hs : stop = none) :
    ∀ step ∈ steps, step.status = "committed" ∧ step.humanRequired = false := by
  induction h
  case starts => simp
  case goes _ hr hstep ih =>
    refine List.forall_mem_append.mpr ⟨ih rfl, List.forall_mem_singleton.mpr ?_⟩
    rw [PersistentBurstStep.checked_eq_ok hstep.step]
    exact burstStop_eq_none hs

theorem unstopped_before (h : BurstRan manifest gates initial made steps state stop) :
    ∀ step ∈ steps.dropLast, step.status = "committed" ∧ step.humanRequired = false := by
  cases h
  case starts    => simp
  case goes hr hg hs =>
    rw [List.dropLast_concat]
    exact hr.unstopped rfl

theorem completed {reason : String}
    (h : BurstRan manifest gates initial made steps state (some (.completed, reason))) :
    state.active.state = .complete := by
  generalize hs : some (BurstExecutionDisposition.completed, reason) = stop at h
  cases h
  case starts => cases hs
  case goes   => exact burstStop_completed hs.symm

theorem first (h : BurstRan manifest gates initial made steps state stop) :
    ∃ s latest more, s.Holds initial latest ∧ made = (s, s) :: more := by
  induction h
  case starts s latest hh _ _ => exact ⟨s, latest, [], hh, rfl⟩
  case goes ih                =>
    obtain ⟨s, latest, more, hh, rfl⟩ := ih
    exact ⟨s, latest, _, hh, rfl⟩

theorem last (h : BurstRan manifest gates initial made steps state stop) :
    ∃ s latest more, s.Holds state latest ∧ made = more ++ [(s, s)] := by
  cases h
  case starts s latest hh _ _ => exact ⟨s, latest, [], hh, rfl⟩
  case goes hr hg hs          =>
    obtain ⟨more, s, latest, _, hh, rfl⟩ := hs.made
    exact ⟨s, latest, _, hh, (List.append_assoc ..).symm⟩

theorem portfolioId (h : BurstRan manifest gates initial made steps state stop) :
    initial.portfolioId = manifest.portfolioId ∧ state.portfolioId = manifest.portfolioId := by
  induction h
  case starts hp _   => exact ⟨hp, hp⟩
  case goes hr hs ih => exact ⟨ih.left, hs.portfolioId⟩

-- The head has moved as far as the burst has committed steps, exactly if no other client moved it.
theorem contiguous_iff (h : BurstRan manifest gates initial made steps state stop)
    (hr : made.IsChain fun m m' => m.2.Advances m'.1) (hg : ∀ m ∈ made, m.1.Advances m.2) :
    state.generation = initial.generation + committedSteps steps ↔
      Undisturbed manifest.portfolioId made := by
  have hgained := h.gained
  have ⟨hp, hp'⟩ := h.portfolioId
  obtain ⟨s, latest, more, hh, hfirst⟩ := h.first
  obtain ⟨s', latest', more', hh', hlast⟩ := h.last
  have h₁ := hh.progress
  have h₂ := hh'.progress
  rw [hp] at h₁
  rw [hp'] at h₂
  rw [← hgained]
  cases more'
  case nil            =>
    subst hlast
    cases hfirst
    rw [gained_of_quiet (by simp)]
    refine iff_of_true ?_ (.singleton _)
    omega
  case cons m more' =>
    subst hlast
    cases hfirst
    have hprogress := Accesses.eq_gained_iff (P := fun s s' => s'.head? manifest.portfolioId =
      s.head? manifest.portfolioId) (hr.imp fun m m' h => h.progress) fun m hm => (hg m hm).progress.left
    rw [h₁, h₂] at hprogress
    rw [Undisturbed, ← hprogress.right]
    omega

end BurstRan

theorem Portfolios.Holds.eq_of_head {state' : PortfolioState}
    {latest latest' : Option ExecutionCheckpoint} (h : s.Holds state latest)
    (h' : s'.Holds state' latest') (ha : s.Advances s') (hp : state.portfolioId = state'.portfolioId)
    (he : s'.head? state.portfolioId = s.head? state.portfolioId) : state = state' := by
  rcases h.eq_or_lt h' ha hp with ⟨he, _⟩ | hlt
  case inl => exact he
  case inr =>
    have h₁ := h.progress
    have h₂ := h'.progress
    rw [Portfolios.progress, ← hp, he, ← Portfolios.progress, h₁] at h₂
    omega

-- Where a burst goes on, from the state that it has found last.
theorem BurstStepped.opens (h : BurstStepped manifest gates index ref report step state made) :
    ∃ s before latest more, s.Holds before latest ∧ before.portfolioId = manifest.portfolioId ∧
      made = (s, s) :: more ∧ step.preGeneration = before.generation ∧
      step.preStateDigest = before.digest := by
  obtain ⟨more, s, latest, hreported, _, rfl⟩ := h.made
  rw [PersistentBurstStep.checked_eq_ok h.step]
  cases hreported
  case reads hh hp hc hh' hp' hr =>
    exact ⟨_, _, _, _, hh, hp, rfl, hr.preGeneration, hr.preStateDigest⟩

omit [Sha256] in
theorem PersistentBurstStep.checked_ascends {step' : PersistentBurstStep}
    (h : step.checked = .ok step') : step.preGeneration ≤ step.postGeneration := by
  simp only [checked, Except.bind_eq_ok, Py.require_eq_ok] at h
  obtain ⟨_, _, _, _, _, h, _⟩ := h
  exact h

-- Each step starts where the one before it has ended.
def Linked (initial : Nat × String) (steps : List PersistentBurstStep) : Prop :=
  steps.map (fun step => (step.preGeneration, step.preStateDigest)) =
    (initial :: steps.map fun step => (step.postGeneration, step.postStateDigest)).dropLast

namespace BurstRan

theorem last_found (h : BurstRan manifest gates initial made steps state stop) :
    ((initial.generation, initial.digest) ::
      steps.map fun step => (step.postGeneration, step.postStateDigest)).getLast? =
        some (state.generation, state.digest) := by
  cases h
  case starts    => rfl
  case goes hr hg hs =>
    have ⟨hgen, hdig⟩ := hs.found
    rw [PersistentBurstStep.checked_eq_ok hs.step, hgen, hdig, List.map_append, ← List.cons_append]
    exact List.getLast?_concat

-- What a burst finds when it goes on is what it has found last, or a later state.
theorem goes_on {step' : PersistentBurstStep} {report' : PersistentRuntimeEventReport}
    {state' : PortfolioState} {made' : List (Portfolios × Portfolios)}
    (h : BurstRan manifest gates initial made steps state stop)
    (hs : BurstStepped manifest gates index ref report' step' state' made')
    (hr : (made ++ made').IsChain fun m m' => m.2.Advances m'.1) :
    state.generation ≤ step'.preGeneration ∧ (Undisturbed manifest.portfolioId (made ++ made') →
      (step'.preGeneration, step'.preStateDigest) = (state.generation, state.digest)) := by
  obtain ⟨s, latest, more, hh, rfl⟩ := h.last
  obtain ⟨s', before, latest', more', hh', hp', rfl, hgen, hdig⟩ := hs.opens
  have hp := h.portfolioId.right
  have ha : s.Advances s' := (List.isChain_append.mp hr).right.right (s, s) (by simp) (s', s') (by simp)
  rw [hgen, hdig]
  constructor
  case left  =>
    rcases hh.eq_or_lt hh' ha (hp.trans hp'.symm) with ⟨he, _⟩ | hlt
    · exact he ▸ le_rfl
    · exact hlt.le
  case right =>
    intro hu
    have he := (List.isChain_append.mp hu).right.right (s, s) (by simp) (s', s') (by simp)
    rw [hh.eq_of_head hh' ha (hp.trans hp'.symm) (hp.symm ▸ he)]

theorem ascending (h : BurstRan manifest gates initial made steps state stop)
    (hr : made.IsChain fun m m' => m.2.Advances m'.1) :
    (generations initial.generation steps).IsChain (· ≤ ·) ∧
      (generations initial.generation steps).getLast? = some state.generation := by
  induction h
  case starts => exact ⟨.singleton _, rfl⟩
  case goes made' report step state' hran hg hs ih =>
    have ⟨hchain, hlast⟩ := ih hr.left_of_append
    have hascends : step.preGeneration ≤ step.postGeneration := by
      have hchecked := hs.step
      rw [PersistentBurstStep.checked_eq_ok hs.step]
      exact PersistentBurstStep.checked_ascends hchecked
    rw [generations_append]
    constructor
    case left  =>
      refine hchain.append (List.isChain_pair.mpr hascends) fun n hn n' hn' => ?_
      rw [hlast] at hn
      cases hn
      cases hn'
      exact (hran.goes_on hs hr).left
    case right =>
      rw [List.getLast?_append, hs.found.left, PersistentBurstStep.checked_eq_ok hs.step]
      rfl

theorem linked (h : BurstRan manifest gates initial made steps state stop)
    (hr : made.IsChain fun m m' => m.2.Advances m'.1) (hu : Undisturbed manifest.portfolioId made) :
    Linked (initial.generation, initial.digest) steps := by
  induction h
  case starts => rfl
  case goes hran hg hs ih =>
    have hstep := (hran.goes_on hs hr).right hu
    have hlast := hran.last_found
    replace ih := ih hr.left_of_append (hu.left_of_append)
    rw [Linked] at ih ⊢
    rw [List.map_append, List.map_append, ih, List.map_singleton, List.map_singleton, hstep,
      ← List.cons_append, List.dropLast_concat]
    exact (List.dropLast_append_getLast? _ hlast)

theorem expected (h : BurstRan manifest gates initial made steps state stop) :
    manifest.Expects initial.generation initial.digest := by
  induction h
  case starts he  => exact he
  case goes ih    => exact ih

theorem disposition {disposition : BurstExecutionDisposition} {reason : String}
    (h : BurstRan manifest gates initial made steps state (some (disposition, reason))) :
    disposition = .stopped ∨ disposition = .completed := by
  generalize hs : some (disposition, reason) = stop at h
  cases h
  case starts => cases hs
  case goes   => exact burstStop_disposition hs.symm

end BurstRan

-- What a burst's report tells of the burst, however the other clients have interfered with it.
structure PersistentBurstExecutionReport.Accounts (report : PersistentBurstExecutionReport)
    (manifest : PersistentBurstManifest) (gates : BurstGates)
    (made : List (Portfolios × Portfolios)) : Prop where
  identity   : report.burstId = manifest.burstId ∧ report.portfolioId = manifest.portfolioId ∧
    report.manifestDigest = manifest.digest
  listed     : report.steps.map (fun step => (step.eventPath, step.eventContentDigest)) =
    (manifest.eventRefs.take report.steps.length).map fun ref => (ref.path, ref.contentDigest)
  indexed    : report.steps.map PersistentBurstStep.index = List.range report.steps.length
  loaded     : ∀ step ∈ report.steps, ∃ event text,
    gates.load step.eventPath = .ok (.text text) ∧ contentDigest text = step.eventContentDigest ∧
      (Json.loads text).map Json.asDicts = some event ∧
      ∀ k, NamesMember event k → ¬CredentialShaped k
  unstopped  : ∀ step ∈ report.steps.dropLast, step.status = "committed" ∧ step.humanRequired = false
  committed  : Accesses.gained (progress manifest.portfolioId) made = committedSteps report.steps
  ascending  : (generations report.initialGeneration report.steps).IsChain (· ≤ ·) ∧
    (generations report.initialGeneration report.steps).getLast? = some report.finalGeneration
  started    : report.disposition = .startStateMismatch ↔
    ¬manifest.Expects report.initialGeneration report.initialStateDigest
  mismatched : report.disposition = .startStateMismatch → report.steps = []
  unbudgeted : report.disposition ≠ .transitionBudgetExhausted
  completed  : report.disposition = .completed → ∃ m ∈ made.getLast?, ∃ state latest,
    m.2.Holds state latest ∧ state.active.state = .complete ∧ state.digest = report.finalStateDigest

-- What a report says of the head that it has started from and of the one that it has ended with.
structure PersistentBurstExecutionReport.Contiguous (report : PersistentBurstExecutionReport) :
    Prop where
  generations : report.finalGeneration = report.initialGeneration + committedSteps report.steps
  linked      : Linked (report.initialGeneration, report.initialStateDigest) report.steps

namespace BurstRan

variable {disposition : BurstExecutionDisposition} {reason : String}
variable {report : PersistentBurstExecutionReport}

theorem accounts (h : BurstRan manifest gates initial made steps state stop)
    (hr : made.IsChain fun m m' => m.2.Advances m'.1)
    (hreport : burstReport manifest initial state steps disposition reason = .ok report)
    (hd : disposition = .stopped ∨ disposition = .completed)
    (hc : disposition = .completed → state.active.state = .complete) :
    report.Accounts manifest gates made := by
  cases PersistentBurstExecutionReport.checked_eq_ok hreport
  have hd' : disposition ≠ .startStateMismatch := by
    rcases hd with rfl | rfl <;> decide
  obtain ⟨s, latest, more, hh, rfl⟩ := h.last
  exact {
    identity   := ⟨rfl, rfl, rfl⟩
    listed     := h.listed
    indexed    := h.indexed
    loaded     := h.loaded
    unstopped  := h.unstopped_before
    committed  := h.gained
    ascending  := h.ascending hr
    started    := iff_of_false hd' (not_not_intro h.expected)
    mismatched := fun hm => absurd hm hd'
    unbudgeted := by rcases hd with rfl | rfl <;> exact fun hn => by cases hn
    completed  := fun hm => ⟨(s, s), by simp, state, latest, hh, hc hm, rfl⟩ }

theorem contiguous (h : BurstRan manifest gates initial made steps state stop)
    (hr : made.IsChain fun m m' => m.2.Advances m'.1) (hg : ∀ m ∈ made, m.1.Advances m.2)
    (hreport : burstReport manifest initial state steps disposition reason = .ok report) :
    report.Contiguous ↔ Undisturbed manifest.portfolioId made := by
  cases PersistentBurstExecutionReport.checked_eq_ok hreport
  have hiff := h.contiguous_iff hr hg
  exact ⟨fun hc => hiff.mp hc.generations, fun hu => ⟨hiff.mpr hu, h.linked hr hu⟩⟩

end BurstRan

namespace BurstEnded

variable {report : PersistentBurstExecutionReport}

theorem accounts (h : BurstEnded manifest gates made (.ok report))
    (hr : made.IsChain fun m m' => m.2.Advances m'.1) : report.Accounts manifest gates made := by
  rcases h with _ | ⟨hh, hp, hstart, hreport⟩ | ⟨hran, hreport⟩ | ⟨hran, _, hreport⟩ | _
  case mismatched =>
    cases PersistentBurstExecutionReport.checked_eq_ok hreport
    exact {
      identity   := ⟨rfl, rfl, rfl⟩
      listed     := rfl
      indexed    := rfl
      loaded     := by simp
      unstopped  := by simp
      committed  := gained_of_quiet (by simp)
      ascending  := ⟨.singleton _, rfl⟩
      started    := iff_of_true rfl hstart
      mismatched := fun _ => rfl
      unbudgeted := fun hn => by cases hn
      completed  := fun hn => by cases hn }
  case stopped    =>
    refine hran.accounts hr hreport hran.disposition fun hd => ?_
    subst hd
    exact hran.completed
  case exhausted  => exact hran.accounts hr hreport (.inl rfl) fun hd => by cases hd

theorem contiguous_iff (h : BurstEnded manifest gates made (.ok report))
    (hr : made.IsChain fun m m' => m.2.Advances m'.1) (hg : ∀ m ∈ made, m.1.Advances m.2) :
    report.Contiguous ↔ Undisturbed manifest.portfolioId made := by
  rcases h with _ | ⟨hh, hp, hstart, hreport⟩ | ⟨hran, hreport⟩ | ⟨hran, _, hreport⟩ | _
  case mismatched =>
    cases PersistentBurstExecutionReport.checked_eq_ok hreport
    exact iff_of_true ⟨rfl, rfl⟩ (.singleton _)
  case stopped    => exact hran.contiguous hr hg hreport
  case exhausted  => exact hran.contiguous hr hg hreport

-- A burst commits no more than its manifest allows, also when it raises.
theorem gained_le (h : BurstEnded manifest gates made r) :
    Accesses.gained (progress manifest.portfolioId) made ≤ manifest.maxTransitions := by
  have hran {initial state : PortfolioState} {made : List (Portfolios × Portfolios)}
      {steps : List PersistentBurstStep} {stop : Option (BurstExecutionDisposition × String)}
      (h : BurstRan manifest gates initial made steps state stop) :
      Accesses.gained (progress manifest.portfolioId) made ≤ steps.length :=
    h.gained.trans_le (List.length_filter_le ..)
  have hfits := manifest.fits
  rcases h with hm | _ | ⟨h, _⟩ | ⟨h, _, _⟩ | ⟨h, hle⟩
  case refused    => exact (gained_of_quiet hm).trans_le (Nat.zero_le _)
  case mismatched => exact (gained_of_quiet (by simp)).trans_le (Nat.zero_le _)
  case stopped    => exact (hran h).trans <| h.length_le.trans hfits
  case exhausted  => exact (hran h).trans <| h.length_le.trans hfits
  case raised     =>
    have := hran h
    rw [Accesses.gained_append]
    omega

end BurstEnded

end Accounts

end Bursts

end GeneralExecution
