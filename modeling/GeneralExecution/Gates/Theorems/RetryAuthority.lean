import GeneralExecution.Gates.RetryAuthority
import GeneralExecution.Primitives.Raising

namespace GeneralExecution

section Policy

variable (p : RetryPolicy)

-- How many automatic retries the policy has for a failure of a class.
def RetryPolicy.retryLimit : FailureClass → Nat
  | .networkTimeout    => p.networkRetryLimit
  | .providerThrottled => p.throttleRetryLimit
  | _                  => 0

@[simp]
theorem RetryPolicy.retryLimit_networkTimeout :
    p.retryLimit .networkTimeout = p.networkRetryLimit :=
  rfl

@[simp]
theorem RetryPolicy.retryLimit_providerThrottled :
    p.retryLimit .providerThrottled = p.throttleRetryLimit :=
  rfl

@[simp]
theorem RetryPolicy.retryLimit_eq_zero {c : FailureClass} (hn : c ≠ .networkTimeout)
    (ht : c ≠ .providerThrottled) : p.retryLimit c = 0 := by
  cases c <;> simp [retryLimit] at *

def RetryPolicy.backoff (retries : Nat) : Nat :=
  min (p.throttleInitialBackoffSeconds * 2 ^ retries) p.throttleMaxBackoffSeconds

theorem RetryPolicy.retryLimit_le (c : FailureClass) :
    p.retryLimit c ≤ max p.networkRetryLimit p.throttleRetryLimit := by
  cases c <;> simp [retryLimit]

theorem RetryPolicy.initial_le_backoff (retries : Nat) :
    p.throttleInitialBackoffSeconds ≤ p.backoff retries := by
  apply le_min
  · exact Nat.le_mul_of_pos_right _ (Nat.two_pow_pos retries)
  · exact p.capped

theorem RetryPolicy.backoff_le_max (retries : Nat) :
    p.backoff retries ≤ p.throttleMaxBackoffSeconds :=
  min_le_right _ _

theorem RetryPolicy.backoff_mono : Monotone p.backoff := by
  intro n m h
  apply min_le_min_right
  apply Nat.mul_le_mul_left
  exact Nat.pow_le_pow_right Nat.two_pos h

end Policy

namespace RetryDecision

variable {d : RetryDecision}

structure Unauthorizing (d : RetryDecision) : Prop where
  automatic       : d.automaticRetryAuthorized = false
  independent     : d.independentReproductionAuthorized = false
  transport       : d.transportAuthority = false
  authorityRef    : d.authorityRef = none
  authorityDigest : d.authorityDigest = none

-- Without a mechanical authorization, no disposition lets an authority artifact through.
theorem unauthorizing (ha : d.automaticRetryAuthorized = false)
    (hi : d.independentReproductionAuthorized = false) : d.Unauthorizing := by
  have h := d.consistent
  simp only [dispositionChecks] at h
  cases hd : d.disposition
  all_goals
    simp only [hd] at h
    simp [ha, hi] at h
  all_goals
    exact {
      automatic       := ha
      independent     := hi
      transport       := d.noTransport
      authorityRef    := by simp [h]
      authorityDigest := by simp [h] }

end RetryDecision

theorem RetryDecision.exists_new {policyDigest observationDigest : String}
    {disposition : RetryDisposition} {ref : String} {delay : Nat} {a i h : Bool}
    {authorityRef authorityDigest boundary : Option String}
    (hs : ∀ x ∈ [("policy_digest", policyDigest), ("observation_digest", observationDigest)],
      IsSha256 x.2)
    (hr : ¬Text.Blank ref) (ha : Guard.NoneBlank authorityRef)
    (hd : Guard.OptionalSha256 authorityDigest) (hb : Guard.NoneBlank boundary)
    (hc : ∀ c ∈ dispositionChecks disposition delay a i h authorityRef authorityDigest boundary,
      c.1 = true) :
    ∃ d, RetryDecision.new policyDigest observationDigest disposition ref delay a i h authorityRef
        authorityDigest boundary = .ok d ∧
      d.automaticRetryAuthorized = a ∧ d.independentReproductionAuthorized = i ∧
      d.delaySeconds = delay := by
  unfold RetryDecision.new
  rw [Guard.sha256_of hs, Guard.nonempty_of (by simpa using hr),
    Guard.optionalNonempty_of (by simpa using ha), Guard.optionalSha256_of (by simpa using hd),
    Guard.optionalNonempty_of (by simpa using hb), Guard.allHold_of hc]
  exact ⟨_, rfl, rfl, rfl, rfl⟩

theorem RetryPolicy.authorityRef_not_blank (p : RetryPolicy) : ¬Text.Blank p.authorityRef :=
  p.nonempty ("authority_ref", p.authorityRef) (by simp)

theorem RetryPolicy.isSha256_authorityDigest (p : RetryPolicy) : IsSha256 p.authorityDigest :=
  p.isSha256 ("authority_digest", p.authorityDigest) (by simp)

theorem FailureObservation.detail_noneBlank (o : FailureObservation) :
    Guard.NoneBlank o.boundaryDetail :=
  o.detailNonempty ("boundary_detail", o.boundaryDetail) (by simp)

theorem noneBlank_none : Guard.NoneBlank none := by
  simp [Guard.NoneBlank]

-- What a decision authorizes, by the class and the counts of the failure alone.
structure RetryDecision.Answers (d : RetryDecision) (p : RetryPolicy) (o : FailureObservation) :
    Prop where
  automatic :
    d.automaticRetryAuthorized = true ↔ o.automaticRetryCount < p.retryLimit o.failureClass
  independent :
    d.independentReproductionAuthorized = true ↔
      o.failureClass = .unknownFailure ∧ o.independentReproductionCount = 0
  delay :
    o.failureClass = .providerThrottled → d.automaticRetryAuthorized = true →
      d.delaySeconds = p.backoff o.automaticRetryCount

theorem RetryDecision.Answers.unauthorizing {p : RetryPolicy} {o : FailureObservation}
    {d : RetryDecision} (h : d.Answers p o)
    (hc : o.failureClass.IsBoundary ∨ o.failureClass = .deterministicAssertion) :
    d.Unauthorizing := by
  have ⟨hn, ht, hu⟩ : o.failureClass ≠ .networkTimeout ∧ o.failureClass ≠ .providerThrottled ∧
      o.failureClass ≠ .unknownFailure := by
    generalize o.failureClass = c at hc
    cases c <;> simp [FailureClass.IsBoundary, humanBoundaryFailureClasses] at *
  apply RetryDecision.unauthorizing
  · rw [Bool.eq_false_iff]
    intro ha
    have hlt := h.automatic.mp ha
    rw [RetryPolicy.retryLimit_eq_zero p hn ht] at hlt
    exact Nat.not_lt_zero _ hlt
  · rw [Bool.eq_false_iff]
    exact fun hi => hu (h.independent.mp hi).left

section Decide

variable [Sha256] {p : RetryPolicy} {o : FailureObservation}

-- The constructor accepts what `_decision` hands it, once the flags fit the disposition.
theorem exists_retryDecision {disposition : RetryDisposition} {ref : String} {delay : Nat}
    {a i h : Bool} {boundary : Option String} (hr : ¬Text.Blank ref)
    (hb : Guard.NoneBlank boundary)
    (hc : ∀ c ∈ dispositionChecks disposition delay a i h
      (if a || i then some p.authorityRef else none)
      (if a || i then some p.authorityDigest else none) boundary, c.1 = true) :
    ∃ d, retryDecision p o disposition ref delay a i h boundary = .ok d ∧
      d.automaticRetryAuthorized = a ∧ d.independentReproductionAuthorized = i ∧
      d.delaySeconds = delay := by
  apply RetryDecision.exists_new
  case hs => simp [RetryPolicy.digest, FailureObservation.digest, isSha256_sha256Digest]
  case hr => exact hr
  case ha =>
    cases a <;> cases i <;> simp [Guard.NoneBlank, p.authorityRef_not_blank]
  case hd =>
    cases a <;> cases i <;> simp [Guard.OptionalSha256, p.isSha256_authorityDigest]
  case hb => exact hb
  case hc => exact hc

theorem retry_answers {ref : String} {delay : Nat} (hr : ¬Text.Blank ref)
    (hn : o.automaticRetryCount < p.retryLimit o.failureClass)
    (hu : o.failureClass ≠ .unknownFailure)
    (hd : o.failureClass = .providerThrottled → delay = p.backoff o.automaticRetryCount) :
    ∃ d, retryDecision p o .retry ref delay true false false none = .ok d ∧ d.Answers p o := by
  have ⟨d, hok, ha, hi, hdelay⟩ := exists_retryDecision (p := p) (o := o) (h := false) hr
    noneBlank_none (by simp [dispositionChecks] : ∀ c ∈ dispositionChecks .retry delay true false
      false (some p.authorityRef) (some p.authorityDigest) none, c.1 = true)
  refine ⟨d, hok, ?_, ?_, ?_⟩
  · simp [ha, hn]
  · simp [hi, hu]
  · exact fun hc _ => hdelay.trans (hd hc)

-- The dispositions that authorize nothing.
theorem refusal_answers {disposition : RetryDisposition} {ref : String} {human : Bool}
    {boundary : Option String} (hr : ¬Text.Blank ref) (hb : Guard.NoneBlank boundary)
    (hc : ∀ c ∈ dispositionChecks disposition 0 false false human none none boundary, c.1 = true)
    (hn : ¬o.automaticRetryCount < p.retryLimit o.failureClass)
    (hu : o.failureClass = .unknownFailure → o.independentReproductionCount ≠ 0) :
    ∃ d, retryDecision p o disposition ref 0 false false human boundary = .ok d ∧
      d.Answers p o := by
  have ⟨d, hok, ha, hi, _⟩ := exists_retryDecision (p := p) (o := o) hr hb hc
  refine ⟨d, hok, ?_, ?_, ?_⟩
  · simp [ha, hn]
  · simpa [hi] using hu
  · simp [ha]

-- `decide_retry` never raises, case by case.
theorem decideRetry_answers (p : RetryPolicy) (o : FailureObservation) :
    ∃ d, decideRetry p o = .ok d ∧ d.Answers p o := by
  unfold decideRetry
  cases hc : o.failureClass
  case networkTimeout =>
    by_cases hn : o.automaticRetryCount < p.networkRetryLimit
    case pos =>
      rw [if_pos hn]
      exact retry_answers (by decide) (by simpa [hc] using hn) (by simp [hc]) (by simp [hc])
    case neg =>
      rw [if_neg hn]
      apply refusal_answers (by decide) noneBlank_none (by simp [dispositionChecks])
      · simpa [hc] using hn
      · simp [hc]
  case providerThrottled =>
    by_cases hn : o.automaticRetryCount < p.throttleRetryLimit
    case pos =>
      rw [if_pos hn]
      exact retry_answers (by decide) (by simpa [hc] using hn) (by simp [hc]) (fun _ => rfl)
    case neg =>
      rw [if_neg hn]
      apply refusal_answers (by decide) noneBlank_none (by simp [dispositionChecks])
      · simpa [hc] using hn
      · simp [hc]
  case deterministicAssertion =>
    apply refusal_answers (by decide) noneBlank_none (by simp [dispositionChecks]) <;> simp [hc]
  case unknownFailure =>
    by_cases hn : o.independentReproductionCount < p.unknownReproductionLimit
    case pos =>
      rw [if_pos hn]
      rw [p.frozen, Nat.lt_one_iff] at hn
      have ⟨d, hok, ha, hi, _⟩ : ∃ d,
          retryDecision p o .independentReproduction "reproduce://unknown-failure" 0 false true
            false none = .ok d ∧
          d.automaticRetryAuthorized = false ∧ d.independentReproductionAuthorized = true ∧
          d.delaySeconds = 0 :=
        exists_retryDecision (by decide) noneBlank_none (by simp [dispositionChecks])
      refine ⟨d, hok, ?_, ?_, ?_⟩
      · simp [ha, hc]
      · simp [hi, hc, hn]
      · simp [ha]
    case neg =>
      rw [if_neg hn]
      rw [p.frozen, Nat.lt_one_iff] at hn
      apply refusal_answers (by decide) noneBlank_none (by simp [dispositionChecks])
      · simp [hc]
      · exact fun _ => hn
  case costBoundary =>
    apply refusal_answers (by decide) noneBlank_none (by simp [dispositionChecks]) <;> simp [hc]
  case securityBoundary | authorityBoundary =>
    have hb : o.boundaryDetail.isSome := o.boundary.mp (by simp [hc, FailureClass.IsBoundary,
      humanBoundaryFailureClasses])
    apply refusal_answers (by decide) o.detail_noneBlank
    · simp [dispositionChecks, hb]
    · simp [hc]
    · simp [hc]

end Decide

namespace RetryLog

-- An entry that lets a throttled request be made again.
def Throttled (e : FailureObservation × RetryDecision) : Prop :=
  e.1.failureClass = .providerThrottled ∧ e.2.automaticRetryAuthorized = true

instance : DecidablePred Throttled :=
  fun _ => inferInstanceAs <| Decidable (_ ∧ _)

def throttleDelays (log : RetryLog) : List Nat :=
  (log.filter Throttled).map fun e => e.2.delaySeconds

-- The budget of a policy, over the decisions on a whole history of failures.
structure Bounded (p : RetryPolicy) (log : RetryLog) : Prop where
  retries       : log.automaticRetries ≤ max p.networkRetryLimit p.throttleRetryLimit
  reproductions : log.independentReproductions ≤ 1
  delays :
    ∀ d ∈ log.throttleDelays, p.throttleInitialBackoffSeconds ≤ d ∧ d ≤ p.throttleMaxBackoffSeconds
  ascending     : log.throttleDelays.Pairwise (· ≤ ·)
  boundaries :
    ∀ e ∈ log, e.1.failureClass.IsBoundary ∨ e.1.failureClass = .deterministicAssertion →
      e.2.Unauthorizing

-- What the next decision finds: every earlier delay is at most the backoff of the present count.
structure Invariant (p : RetryPolicy) (log : RetryLog) : Prop extends Bounded p log where
  backoff : ∀ d ∈ log.throttleDelays, d ≤ p.backoff log.automaticRetries

theorem Invariant.nil (p : RetryPolicy) : Invariant p [] where
  retries       := Nat.zero_le _
  reproductions := Nat.zero_le _
  delays        := by simp [throttleDelays]
  ascending     := by simp [throttleDelays]
  boundaries    := by simp
  backoff       := by simp [throttleDelays]

section Append

variable {log : RetryLog} {e : FailureObservation × RetryDecision}

theorem automaticRetries_append :
    automaticRetries (log ++ [e]) =
      log.automaticRetries + if e.2.automaticRetryAuthorized then 1 else 0 := by
  simp [automaticRetries, List.countP_append, List.countP_singleton]

theorem independentReproductions_append :
    independentReproductions (log ++ [e]) =
      log.independentReproductions + if e.2.independentReproductionAuthorized then 1 else 0 := by
  simp [independentReproductions, List.countP_append, List.countP_singleton]

theorem throttleDelays_append :
    throttleDelays (log ++ [e]) =
      log.throttleDelays ++ if Throttled e then [e.2.delaySeconds] else [] := by
  by_cases h : Throttled e <;> simp [throttleDelays, h]

end Append

variable {p : RetryPolicy} {o : FailureObservation} {log : RetryLog} {d : RetryDecision}

theorem Invariant.append (h : Invariant p log)
    (ho : o.automaticRetryCount = log.automaticRetries)
    (hi : o.independentReproductionCount = log.independentReproductions)
    (hd : d.Answers p o) : Invariant p (log ++ [(o, d)]) := by
  have hlast : ∀ s ∈ if Throttled (o, d) then [d.delaySeconds] else [],
      s = p.backoff log.automaticRetries := by
    intro s hs
    split at hs
    case isTrue ht => rw [List.mem_singleton.mp hs, hd.delay ht.left ht.right, ho]
    case isFalse   => cases hs
  have hgrows : log.automaticRetries ≤ automaticRetries (log ++ [(o, d)]) := by
    rw [automaticRetries_append]
    exact Nat.le_add_right _ _
  constructor
  case toBounded =>
    constructor
    case retries =>
      rw [automaticRetries_append]
      split
      case isTrue ha =>
        have hlt := hd.automatic.mp ha
        rw [ho] at hlt
        exact Nat.lt_of_lt_of_le hlt (p.retryLimit_le _)
      case isFalse => exact h.retries
    case reproductions =>
      rw [independentReproductions_append]
      split
      case isTrue hr => rw [← hi, (hd.independent.mp hr).right]
      case isFalse   => exact h.reproductions
    case delays =>
      rw [throttleDelays_append, List.forall_mem_append]
      refine ⟨h.delays, fun s hs => ?_⟩
      rw [hlast s hs]
      exact ⟨p.initial_le_backoff _, p.backoff_le_max _⟩
    case ascending =>
      rw [throttleDelays_append, List.pairwise_append]
      refine ⟨h.ascending, by split <;> simp, fun s hs s' hs' => ?_⟩
      rw [hlast s' hs']
      exact h.backoff s hs
    case boundaries =>
      rw [List.forall_mem_append, List.forall_mem_singleton]
      refine ⟨h.boundaries, fun hc => ?_⟩
      exact hd.unauthorizing hc
  case backoff =>
    rw [throttleDelays_append, List.forall_mem_append]
    constructor
    · exact fun s hs => (h.backoff s hs).trans (p.backoff_mono hgrows)
    · exact fun s hs => (hlast s hs).trans_le (p.backoff_mono hgrows)

theorem exists_decideNext [Sha256] (h : Invariant p log) (failure : FailureObservation) :
    ∃ e, decideNext p log failure = .ok (log ++ [e]) ∧
      e.1.withCounts 0 0 = failure.withCounts 0 0 ∧ Invariant p (log ++ [e]) := by
  let o := failure.withCounts log.automaticRetries log.independentReproductions
  have ⟨d, hd, ha⟩ := decideRetry_answers p o
  refine ⟨(o, d), ?_, rfl, h.append rfl rfl ha⟩
  rw [decideNext, hd]
  rfl

-- A log that has taken these failures, whatever counts they came with.
structure Follows (p : RetryPolicy) (failures : List FailureObservation) (log : RetryLog) :
    Prop where
  taken     : (log.map fun e => e.1.withCounts 0 0) = failures.map fun f => f.withCounts 0 0
  invariant : Invariant p log

theorem Follows.nil (p : RetryPolicy) : Follows p [] [] where
  taken     := rfl
  invariant := .nil p

theorem Follows.step [Sha256] (done : List FailureObservation) (log : RetryLog)
    (failure : FailureObservation) (h : Follows p done log) :
    ∃ log', decideNext p log failure = .ok log' ∧ Follows p (done ++ [failure]) log' := by
  have ⟨e, he, hw, hinv⟩ := exists_decideNext h.invariant failure
  refine ⟨log ++ [e], he, ?_, hinv⟩
  rw [List.map_append, List.map_append, h.taken, List.map_singleton, List.map_singleton, hw]

end RetryLog

end GeneralExecution
