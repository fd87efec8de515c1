import GeneralExecution.Portfolio.AutonomousBurst

namespace GeneralExecution

variable {o current first next : AutonomousBurstObservation}
variable {receipt : AutonomousBurstTransitionReceipt}
variable {receipts : List AutonomousBurstTransitionReceipt}

-- An observation that a transition may be executed on.
structure Cleared (o : AutonomousBurstObservation) : Prop where
  admissible     : o.status = .admissible
  constitutional : o.constitutionalGatePassed = true
  authority      : o.authoritySatisfied = true
  unpaid         : o.paidSpendRequired = false
  credential     : o.credentialGateSatisfied = true

theorem stopReason_ne_none {status : ObservationStatus} (h : status ≠ .admissible) :
    stopReason status ≠ none := by
  cases status <;> simp_all [stopReason]

theorem admissibilityStop_eq_none : admissibilityStop o = none ↔ Cleared o := by
  unfold admissibilityStop
  constructor
  case mp  =>
    intro h
    split_ifs at h with hs hc ha hp hr
    · exact absurd h (stopReason_ne_none hs)
    · exact ⟨not_not.mp hs, hc, ha, Bool.eq_false_iff.mpr hp, hr⟩
  case mpr =>
    intro ⟨hs, hc, ha, hp, hr⟩
    simp [hs, hc, ha, hp, hr]

theorem admissibilityStop_not_blank {stop : String} (h : admissibilityStop o = some stop) :
    ¬Text.Blank stop := by
  unfold admissibilityStop at h
  split_ifs at h
  case pos =>
    revert h
    cases o.status <;> simp only [stopReason] <;> intro h <;> cases h <;> decide
  all_goals
    cases h
    decide

-- The receipts lead from one state to another, each from where the one before it has ended.
inductive ReceiptChain :
    Int → String → List AutonomousBurstTransitionReceipt → Int → String → Prop
  | nil {generation : Int} {stateDigest : String} :
      ReceiptChain generation stateDigest [] generation stateDigest
  | cons {receipt : AutonomousBurstTransitionReceipt}
      {receipts : List AutonomousBurstTransitionReceipt} {generation : Int} {stateDigest : String} :
      ReceiptChain receipt.postGeneration receipt.postStateDigest receipts generation stateDigest →
      ReceiptChain receipt.preGeneration receipt.preStateDigest (receipt :: receipts) generation
        stateDigest

namespace ReceiptChain

variable {g g' : Int} {d d' : String}

theorem append (h : ReceiptChain g d receipts receipt.preGeneration receipt.preStateDigest) :
    ReceiptChain g d (receipts ++ [receipt]) receipt.postGeneration receipt.postStateDigest := by
  generalize hg : receipt.preGeneration = g₁ at h
  generalize hd : receipt.preStateDigest = d₁ at h
  induction h with
  | nil       => exact hg ▸ hd ▸ .cons .nil
  | cons _ ih => exact .cons (ih hg hd)

theorem generation_eq (h : ReceiptChain g d receipts g' d') : g' = g + receipts.length := by
  induction h with
  | nil                    => simp
  | @cons receipt rs _ _ _ ih =>
    rw [ih, receipt.advances, List.length_cons]
    omega

end ReceiptChain

theorem checkReceipt_eq_ok {u : Unit} : checkReceipt current receipt = .ok u ↔
    receipt.portfolioId = current.portfolioId ∧ some receipt.actionRef = current.nextActionRef ∧
      receipt.preGeneration = current.generation ∧
        receipt.preStateDigest = current.stateDigest := by
  simp [checkReceipt]

theorem checkSuccessor_eq_ok {u : Unit} : checkSuccessor receipt next = .ok u ↔
    next.generation = receipt.postGeneration ∧ next.stateDigest = receipt.postStateDigest := by
  simp [checkSuccessor]

-- The receipts of a burst lead from what it has observed first to what it observes now.
structure Accounts (first current : AutonomousBurstObservation)
    (receipts : List AutonomousBurstTransitionReceipt) : Prop where
  chain     :
    ReceiptChain first.generation first.stateDigest receipts current.generation current.stateDigest
  portfolio : ∀ receipt ∈ receipts, receipt.portfolioId = first.portfolioId

theorem Accounts.advance (h : Accounts first current receipts)
    (hp : current.portfolioId = first.portfolioId) (hr : checkReceipt current receipt = .ok ())
    (hn : checkSuccessor receipt next = .ok ()) : Accounts first next (receipts ++ [receipt]) := by
  have ⟨hportfolio, _, hg, hd⟩ := checkReceipt_eq_ok.mp hr
  have ⟨hg', hd'⟩ := checkSuccessor_eq_ok.mp hn
  constructor
  case chain     =>
    rw [hg', hd']
    have hchain := h.chain
    rw [← hg, ← hd] at hchain
    exact hchain.append
  case portfolio =>
    intro r hr
    cases List.mem_append.mp hr
    case inl hr => exact h.portfolio r hr
    case inr hr => exact List.mem_singleton.mp hr ▸ hportfolio.trans hp

-- The calls of a burst in which none has raised.
structure BurstCalls.Made (policy : AutonomousBurstPolicy) (n m : Nat) (s : BurstCalls) : Prop where
  executed : s.executed.length = n
  observed : s.observed = m
  within   : n ≤ policy.maxTransitions
  fresh    : m ≤ n + 1
  cleared  : ∀ o ∈ s.executed, Cleared o

-- The calls that a burst may make, be it that it raises.
structure BurstCalls.Within (policy : AutonomousBurstPolicy) (s : BurstCalls) : Prop where
  executed : s.executed.length ≤ policy.maxTransitions
  observed : s.observed ≤ s.executed.length + 1
  cleared  : ∀ o ∈ s.executed, Cleared o

-- The calls stay within their bounds, and `post` holds of a value that is returned.
def BurstPost {α : Type} (policy : AutonomousBurstPolicy) (post : α → BurstCalls → Prop)
    (x : Py α × BurstCalls) : Prop :=
  x.2.Within policy ∧ ∀ a, x.1 = .ok a → post a x.2

section

variable {Reading α β : Type} {policy : AutonomousBurstPolicy} {s : BurstCalls} {n m : Nat}
variable {post : α → BurstCalls → Prop} {post' : β → BurstCalls → Prop}

theorem BurstCalls.Made.toWithin (h : s.Made policy n m) : s.Within policy where
  executed := h.executed.trans_le h.within
  observed := by
    rw [h.executed, h.observed]
    exact h.fresh
  cleared  := h.cleared

namespace BurstPost

theorem bind {p : Burst α} {f : α → Burst β} (hp : BurstPost policy post (p.run s))
    (hf : ∀ a s', s'.Within policy → post a s' → BurstPost policy post' ((f a).run s')) :
    BurstPost policy post' ((p >>= f).run s) := by
  apply Program.bind_run_of
  case error =>
    intro e s' h
    rw [h] at hp
    exact ⟨hp.left, fun _ he => nomatch he⟩
  case ok    =>
    intro a s' h
    rw [h] at hp
    exact hf a s' hp.left (hp.right a rfl)

theorem pure {a : α} (h : s.Within policy) (ha : post a s) :
    BurstPost policy post ((pure a : Burst α).run s) :=
  ⟨h, fun _ he => Except.ok.inj he ▸ ha⟩

theorem throw {e : PyError} (h : s.Within policy) :
    BurstPost policy post ((throw e : Burst α).run s) :=
  ⟨h, fun _ he => nomatch he⟩

theorem lift {x : Py α} (h : s.Made policy n m) :
    BurstPost policy (fun a s' => x = .ok a ∧ s'.Made policy n m) ((liftM x : Burst α).run s) :=
  ⟨h.toWithin, fun _ ha => ⟨ha, h⟩⟩

variable (env : BurstEnvironment Reading)

theorem callClock (h : s.Made policy n m) :
    BurstPost policy (fun _ s' => s'.Made policy n m) (env.callClock.run s) := by
  have h' : BurstCalls.Made policy n m { s with clocked := s.clocked + 1 } :=
    ⟨h.executed, h.observed, h.within, h.fresh, h.cleared⟩
  exact ⟨h'.toWithin, fun _ _ => h'⟩

theorem callObserve (h : s.Made policy n m) (hm : m ≤ n) :
    BurstPost policy (fun _ s' => s'.Made policy n (m + 1)) (env.callObserve.run s) := by
  have h' : BurstCalls.Made policy n (m + 1) { s with observed := s.observed + 1 } :=
    ⟨h.executed, congrArg (· + 1) h.observed, h.within, Nat.succ_le_succ hm, h.cleared⟩
  exact ⟨h'.toWithin, fun _ _ => h'⟩

theorem callExecuteOne (h : s.Made policy n m) (hn : n < policy.maxTransitions)
    (hc : Cleared current) :
    BurstPost policy (fun _ s' => s'.Made policy (n + 1) m) ((env.callExecuteOne current).run s) := by
  have hlen : (s.executed ++ [current]).length = n + 1 := by
    rw [List.length_append, h.executed, List.length_singleton]
  have hcleared : ∀ o ∈ s.executed ++ [current], Cleared o := by
    intro o ho
    cases List.mem_append.mp ho
    case inl ho => exact h.cleared o ho
    case inr ho => exact List.mem_singleton.mp ho ▸ hc
  have h' : BurstCalls.Made policy (n + 1) m { s with executed := s.executed ++ [current] } :=
    ⟨hlen, h.observed, hn, h.fresh.trans (Nat.le_succ _), hcleared⟩
  exact ⟨h'.toWithin, fun _ _ => h'⟩

end BurstPost

-- A transition that does not raise leaves the loop before its next turn.
theorem burstTransition_post (env : BurstEnvironment Reading) (hs : s.Made policy n (n + 1))
    (hn : n < policy.maxTransitions) (hc : Cleared current) :
    BurstPost policy
      (fun x s' => s'.Made policy (n + 1) (n + 2) ∧ checkReceipt current x.1 = .ok () ∧
        checkSuccessor x.1 x.2 = .ok ())
      ((burstTransition env current).run s) := by
  apply BurstPost.bind (.callExecuteOne env hs hn hc)
  intro receipt s₁ _ h₁
  apply BurstPost.bind (.lift h₁)
  intro _ s₂ _ ⟨hr, h₂⟩
  apply BurstPost.bind (.callObserve env h₂ (Nat.le_refl _))
  intro next s₃ _ h₃
  apply BurstPost.bind (.lift h₃)
  intro _ s₄ hw ⟨hn, h₄⟩
  exact .pure hw ⟨h₄, hr, hn⟩

-- What the loop ends with.
structure BurstEnd.Follows (first : AutonomousBurstObservation) (final : BurstEnd) : Prop where
  accounts : Accounts first final.current final.receipts
  reason   : ¬Text.Blank final.stopReason

theorem burstLoop_post (env : BurstEnvironment Reading) (started : Reading)
    (current : AutonomousBurstObservation) (receipts : List AutonomousBurstTransitionReceipt)
    (hs : s.Made policy receipts.length (receipts.length + 1))
    (ha : Accounts first current receipts) :
    BurstPost policy (fun final _ => final.Follows first)
      ((burstLoop env policy started first.portfolioId current receipts).run s) := by
  induction current, receipts using burstLoop.induct policy first.portfolioId generalizing s with
  | case1 current receipts hp               =>
    rw [burstLoop, if_pos hp]
    exact .throw hs.toWithin
  | case2 current receipts hp stop hstop    =>
    rw [burstLoop, if_neg hp, hstop]
    exact .pure hs.toWithin ⟨ha, admissibilityStop_not_blank hstop⟩
  | case3 current receipts hp hstop hmax    =>
    rw [burstLoop, if_neg hp, hstop]
    simp only [if_pos hmax]
    have hreason : ¬Text.Blank "MAX_TRANSITIONS_REACHED" := by decide
    exact .pure hs.toWithin ⟨ha, hreason⟩
  | case4 current receipts hp hstop hmax ih =>
    rw [burstLoop, if_neg hp, hstop]
    simp only [if_neg hmax]
    apply BurstPost.bind (.callClock env hs)
    intro now s₁ hw h₁
    split
    case isTrue  =>
      have hreason : ¬Text.Blank "BURST_WALL_CLOCK_LEASE_EXHAUSTED" := by decide
      exact .pure hw ⟨ha, hreason⟩
    case isFalse =>
      have hcleared := admissibilityStop_eq_none.mp hstop
      apply BurstPost.bind (burstTransition_post env h₁ (not_le.mp hmax) hcleared)
      intro (receipt, next) s₂ _ ⟨h₂, hr, hn⟩
      apply ih receipt next
      case hs => rwa [List.length_append, List.length_singleton]
      case ha => exact ha.advance (not_not.mp hp) hr hn

theorem burst_post (env : BurstEnvironment Reading) (policy : AutonomousBurstPolicy) :
    BurstPost policy (fun x _ => x.2.Follows x.1) ((burst env policy).run {}) := by
  have hs : BurstCalls.Made policy 0 0 {} :=
    ⟨rfl, rfl, Nat.zero_le _, Nat.zero_le _, fun _ ho => nomatch ho⟩
  apply BurstPost.bind (.callClock env hs)
  intro started s₁ _ h₁
  apply BurstPost.bind (.callObserve env h₁ (Nat.le_refl _))
  intro first s₂ _ h₂
  have ha : Accounts first first [] := ⟨.nil, fun _ hr => nomatch hr⟩
  apply BurstPost.bind (burstLoop_post env started first [] h₂ ha)
  intro final s₃ hw hfinal
  exact .pure hw hfinal

-- The receipts of a result lead from its initial state to its final one, in one portfolio.
structure AutonomousBurstResult.Chains (r : AutonomousBurstResult) : Prop where
  chain     :
    ReceiptChain r.initialGeneration r.initialStateDigest r.transitionReceipts r.finalGeneration
      r.finalStateDigest
  portfolio : ∀ receipt ∈ r.transitionReceipts, receipt.portfolioId = r.portfolioId

variable [Sha256]

theorem burstResult_of_follows {final : BurstEnd} (policy : AutonomousBurstPolicy)
    (trigger : AutonomousBurstTrigger) (h : final.Follows first) :
    ∃ result, burstResult policy trigger first final = .ok result ∧ result.Chains := by
  have hg := h.accounts.chain.generation_eq
  have h₁ : ∀ x ∈ [("trigger_digest", trigger.digest), ("policy_digest", policy.digest)],
      IsSha256 x.2 := by
    simpa using ⟨isSha256_sha256Digest _, isSha256_sha256Digest _⟩
  have h₂ : ∀ x ∈ [("portfolio_id", first.portfolioId)], ¬Text.Blank x.2 := by
    simpa using first.nonempty ("portfolio_id", first.portfolioId) (by simp)
  have h₃ : ∀ x ∈ [("initial_state_digest", first.stateDigest),
      ("final_state_digest", final.current.stateDigest)], IsSha256 x.2 := by
    simpa using ⟨first.isSha256 ("state_digest", first.stateDigest) (by simp),
      final.current.isSha256 ("state_digest", final.current.stateDigest) (by simp)⟩
  have h₄ : ∀ x ∈ [("stop_reason", final.stopReason)], ¬Text.Blank x.2 := by simpa using h.reason
  have h₅ : first.generation ≤ final.current.generation := by omega
  have h₆ : final.current.generation - first.generation = final.receipts.length := by omega
  let result : AutonomousBurstResult := {
    triggerDigest      := trigger.digest
    policyDigest       := policy.digest
    portfolioId        := first.portfolioId
    initialGeneration  := first.generation
    finalGeneration    := final.current.generation
    initialStateDigest := first.stateDigest
    finalStateDigest   := final.current.stateDigest
    transitionReceipts := final.receipts
    disposition        := final.disposition
    stopReason         := final.stopReason
    isSha256           := h₁
    nonempty           := h₂
    stateSha256        := h₃
    hasReason          := h₄
    forward            := h₅
    accounted          := h₆
    noAuthority        := rfl }
  refine ⟨result, ?_, h.accounts.chain, h.accounts.portfolio⟩
  simp only [burstResult, AutonomousBurstResult.new, Guard.sha256_of h₁, Guard.nonempty_of h₂,
    Guard.sha256_of h₃, Guard.nonempty_of h₄, Py.check_of h₅, Py.check_of h₆, Except.ok_bind]
  rfl

-- What a burst has done when it returns or raises.
structure BurstAccounted (env : BurstEnvironment Reading) (policy : AutonomousBurstPolicy)
    (trigger : AutonomousBurstTrigger) (x : Py AutonomousBurstResult × BurstCalls) : Prop where
  executed    : x.2.executed.length ≤ policy.maxTransitions
  observed    : x.2.observed ≤ x.2.executed.length + 1
  cleared     : ∀ o ∈ x.2.executed, Cleared o
  chains      : ∀ result, x.1 = .ok result → result.Chains
  constructed :
    ∀ first final calls, (burst env policy).run {} = (.ok (first, final), calls) →
      ∃ result, burstResult policy trigger first final = .ok result ∧ x = (.ok result, calls)

-- Whatever a burst observes and whatever its transitions report, its result accounts for them.
theorem runAutonomousBurst_accounted (env : BurstEnvironment Reading)
    (policy : AutonomousBurstPolicy) (trigger : AutonomousBurstTrigger) :
    BurstAccounted env policy trigger ((runAutonomousBurst env policy trigger).run {}) := by
  have ⟨hw, hf⟩ := burst_post env policy
  rw [runAutonomousBurst, Program.bind_run]
  cases h : (burst env policy).run {} with
  | mk r calls =>
    rw [h] at hw hf
    cases r with
    | error e => exact ⟨hw.executed, hw.observed, hw.cleared, by simp, by simp [h]⟩
    | ok p    =>
      have (first, final) := p
      have ⟨result, hr, hchains⟩ := burstResult_of_follows policy trigger (hf (first, final) rfl)
      simp only [Program.lift_run, hr]
      refine ⟨hw.executed, hw.observed, hw.cleared, ?_, ?_⟩
      case refine_1 => exact fun _ he => Except.ok.inj he ▸ hchains
      case refine_2 =>
        intro _ _ _ he
        cases h.symm.trans he
        exact ⟨result, hr, rfl⟩

end

end GeneralExecution
