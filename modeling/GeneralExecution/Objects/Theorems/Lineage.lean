import GeneralExecution.Objects.Theorems.Operations

namespace GeneralExecution

variable [Sha256]

def CapacityRelease.sessionKey (r : CapacityRelease) : String × Nat :=
  (r.sessionId, r.logicalAttempt)

-- A release after which its session may not be attempted again.
def CapacityRelease.Final (r : CapacityRelease) : Prop :=
  r.releaseKind = .sessionRevoked ∨
    r.releaseKind = .terminalOutcome ∧ r.transportStatus = some .completed

theorem SameIdentity.sessionKey {lease : CapacityLease} {release : CapacityRelease}
    (h : SameIdentity lease release) : release.sessionKey = GeneralExecution.sessionKey lease := by
  rw [CapacityRelease.sessionKey, h.sessionId, h.logicalAttempt, GeneralExecution.sessionKey]

namespace RunnerCapacityState

variable {state : RunnerCapacityState} {runner : RunnerCapabilities}
variable {lease : CapacityLease} {release : CapacityRelease}

-- No session is attempted again once its last lease has been released for good.
def FinalityRespected (state : RunnerCapacityState) : Prop :=
  ∀ log₁ release log₂ lease log₃,
    state.log = log₁ ++ .release release :: log₂ ++ .reserve lease :: log₃ →
      release.Final → sessionKey lease ≠ release.sessionKey

-- No physical attempt of a session is made twice.
def AttemptsDistinct (state : RunnerCapacityState) : Prop :=
  state.leases.Pairwise fun l l' =>
    sessionKey l = sessionKey l' → l.physicalAttempt ≠ l'.physicalAttempt

-- Each reservation is for a later physical attempt than all those its session has already made.
def AttemptsAdvance (state : RunnerCapacityState) : Prop :=
  ∀ log₁ lease log₂, state.log = log₁ ++ .reserve lease :: log₂ →
    ∀ l ∈ ReservationLog.reserved log₁,
      sessionKey l = sessionKey lease → l.physicalAttempt < lease.physicalAttempt

def attemptsOf (state : RunnerCapacityState) (key : String × Nat) : List Nat :=
  (state.leases.filter (sessionKey · = key)).map CapacityLease.physicalAttempt

omit [Sha256] in
theorem mem_attemptsOf {key : String × Nat} {n : Nat} :
    n ∈ state.attemptsOf key ↔ ∃ l ∈ state.leases, sessionKey l = key ∧ l.physicalAttempt = n := by
  simp [attemptsOf, and_assoc]

omit [Sha256] in
theorem predecessorReleased_release {id : String} {a n : Nat} {inv receipt : Option String}
    (h : predecessorReleased state id a n inv receipt = true) (hn : n ≠ 1) :
    ∃ r ∈ state.releases, r.releaseKind = .terminalOutcome ∧ r.sessionKey = (id, a) ∧
      r.physicalAttempt = n - 1 ∧ some r.invocationId = inv ∧ r.receiptDigest = receipt ∧
      r.transportStatus ≠ some .completed := by
  simp only [predecessorReleased, hn, if_false, List.any_eq_true, decide_eq_true_eq] at h
  obtain ⟨r, hr, h₁, h₂, h₃, h₄⟩ := h
  exact ⟨r, hr, h₁, Prod.ext h₂ h₃, h₄⟩

namespace Reachable

-- Each entry of the history was accepted in the state that the entries before it lead to.
theorem exists_prefix {e : ReservationLog.Entry CapacityLease CapacityRelease}
    {log₁ log₂ : List (ReservationLog.Entry CapacityLease CapacityRelease)}
    (h : Reachable runner state) (hl : state.log = log₁ ++ e :: log₂) :
    ∃ s t, Reachable runner s ∧ s.log = log₁ ∧ t.change = e ∧ s.Accepts t := by
  induction h generalizing log₂
  case initial => simp [log, initializeCapacityState] at hl
  case step s t _ hr ha ih =>
    obtain ⟨hg, rfl⟩ := applyTransitionUnchecked_eq_ok.mp ha
    rw [extend_log] at hl
    rcases List.eq_nil_or_concat log₂ with rfl | ⟨log₂, e', rfl⟩
    · obtain ⟨h₁, h₂⟩ := List.append_inj' hl rfl
      exact ⟨s, t, hr, h₁, List.singleton_inj.mp h₂, hg⟩
    · rw [List.concat_eq_append, ← List.cons_append, ← List.append_assoc] at hl
      exact ih (List.append_inj' hl rfl).left

theorem exists_lease (h : Reachable runner state) (hm : release ∈ state.releases) :
    ∃ l ∈ state.leases, release.leaseId = l.leaseId ∧ SameIdentity l release :=
  h.wf.exists_reserved hm

-- A reservation that repeats no attempt of its session makes the next one.
theorem attempt_eq (h : Reachable runner state) (hg : state.CanReserve lease)
    (ha : state.attemptsOf (sessionKey lease) =
      List.range' 1 (state.attemptsOf (sessionKey lease)).length)
    (hn : lease.physicalAttempt ∉ state.attemptsOf (sessionKey lease)) :
    lease.physicalAttempt = (state.attemptsOf (sessionKey lease)).length + 1 := by
  have hp := lease.hasAttempts.right
  by_cases h₁ : lease.physicalAttempt = 1
  case pos =>
    rw [ha, List.mem_range'_1] at hn
    omega
  case neg =>
    have ⟨r, hm, _, hk, hr, _⟩ := predecessorReleased_release hg.predecessor h₁
    have ⟨l, hl, _, hs⟩ := h.exists_lease hm
    have hl' : lease.physicalAttempt - 1 ∈ state.attemptsOf (sessionKey lease) :=
      mem_attemptsOf.mpr ⟨l, hl, hs.sessionKey ▸ hk, hs.physicalAttempt ▸ hr⟩
    rw [ha, List.mem_range'_1] at hn hl'
    omega

omit [Sha256] in
theorem not_mem_attemptsOf (hd : (state.leases ++ [lease]).Pairwise fun l l' =>
    sessionKey l = sessionKey l' → l.physicalAttempt ≠ l'.physicalAttempt) :
    lease.physicalAttempt ∉ state.attemptsOf (sessionKey lease) := by
  intro hm
  have ⟨l, hl, hk, he⟩ := mem_attemptsOf.mp hm
  exact (List.pairwise_append.mp hd).right.right l hl lease (List.mem_singleton_self _) hk he

-- The attempts of a session come in order when none of them is made twice.
theorem attemptsOf_eq (h : Reachable runner state) (hd : state.AttemptsDistinct)
    (key : String × Nat) :
    state.attemptsOf key = List.range' 1 (state.attemptsOf key).length := by
  induction h using stepwise
  case initial => rfl
  case release hc hg ih =>
    simp only [AttemptsDistinct, attemptsOf, extend_leases_release hc] at hd ih ⊢
    exact ih hd
  case reserve s t l hr _ _ hc hg ih =>
    rw [AttemptsDistinct, extend_leases_reserve hc] at hd
    replace ih := ih (List.pairwise_append.mp hd).left
    have hl : (s.extend t).attemptsOf key =
        s.attemptsOf key ++ if sessionKey l = key then [l.physicalAttempt] else [] := by
      simp only [attemptsOf, extend_leases_reserve hc, List.filter_append, List.map_append]
      by_cases hk : sessionKey l = key <;> simp [hk]
    split at hl
    case isFalse => rw [hl, List.append_nil]; exact ih
    case isTrue hk =>
      subst hk
      rw [hl, List.length_append, List.length_singleton, List.range'_1_concat, ← ih,
        hr.attempt_eq hg ih (not_mem_attemptsOf hd), Nat.add_comm]

theorem attempt_le (h : Reachable runner state) (hd : state.AttemptsDistinct)
    (hl : lease ∈ state.leases) :
    lease.physicalAttempt ≤ (state.attemptsOf (sessionKey lease)).length := by
  have hm : lease.physicalAttempt ∈ state.attemptsOf (sessionKey lease) :=
    mem_attemptsOf.mpr ⟨lease, hl, rfl, rfl⟩
  rw [h.attemptsOf_eq hd, List.mem_range'_1] at hm
  omega

-- An active lease is its session's last one.
theorem active_latest (h : Reachable runner state) (hd : state.AttemptsDistinct) :
    ∀ l ∈ state.activeLeases, ∀ l' ∈ state.leases, sessionKey l' = sessionKey l →
      l'.physicalAttempt ≤ l.physicalAttempt := by
  induction h using stepwise
  case initial => simp [activeLeases, leases, log, initializeCapacityState]
  case release hc _ ih =>
    rw [AttemptsDistinct, extend_leases_release hc] at hd
    rw [extend_leases_release hc]
    exact fun l hl => ih hd l <| (activeLeases_release_sublist hc).mem hl
  case reserve s t l hr _ _ hc hg ih =>
    rw [AttemptsDistinct, extend_leases_reserve hc] at hd
    have hs : s.AttemptsDistinct := (List.pairwise_append.mp hd).left
    have he := hr.attempt_eq hg (hr.attemptsOf_eq hs _) (not_mem_attemptsOf hd)
    simp only [hr.activeLeases_reserve hc hg, extend_leases_reserve hc, List.mem_append,
      List.mem_singleton]
    rintro x (hx | rfl) y (hy | rfl) hk
    · exact ih hs x hx y hy hk
    · exact absurd (hk ▸ List.mem_map_of_mem hx) hg.sessionFree
    · have := hr.attempt_le hs hy
      rw [hk] at this
      omega
    · exact Nat.le_refl _

omit [Sha256] in
theorem lease_eq (hd : state.AttemptsDistinct) {l l' : CapacityLease} (hl : l ∈ state.leases)
    (hl' : l' ∈ state.leases) (hk : sessionKey l = sessionKey l')
    (ha : l.physicalAttempt = l'.physicalAttempt) : l = l' := by
  have : Std.Symm fun l l' =>
      sessionKey l = sessionKey l' → l.physicalAttempt ≠ l'.physicalAttempt :=
    ⟨fun _ _ h hk ha => h hk.symm ha.symm⟩
  by_contra hn
  exact hd.forall hl hl' hn hk ha

-- A session that has been released for good makes no further attempt.
theorem final_not_reserved (h : Reachable runner state) (hd : state.AttemptsDistinct)
    (hf : ∀ l ∈ state.leases, sessionKey l = release.sessionKey →
      l.physicalAttempt ≤ release.physicalAttempt)
    (hm : release ∈ state.releases) (hr : release.Final) (hg : state.CanReserve lease)
    (hn : lease.physicalAttempt ∉ state.attemptsOf (sessionKey lease)) :
    sessionKey lease ≠ release.sessionKey := by
  intro hk
  have ha := h.attempt_eq hg (h.attemptsOf_eq hd _) hn
  have ⟨l, hl, hi, hs⟩ := h.exists_lease hm
  have hle := h.attempt_le hd hl
  have hp := l.hasAttempts.right
  rw [← hs.sessionKey, ← hk] at hle
  have ⟨r, hm', hkind, hk', hp', _, _, ht⟩ := predecessorReleased_release hg.predecessor (by omega)
  have ⟨l', hl', hi', hs'⟩ := h.exists_lease hm'
  -- Both releases are of the session's last lease, hence one and the same.
  have hk'' : sessionKey l' = sessionKey l := by
    exact hs'.sessionKey.symm.trans <| hk'.trans <| hk.trans hs.sessionKey
  have hmax := hf l' hl' <| hk''.trans hs.sessionKey.symm
  have hl'' : l' = l := lease_eq hd hl' hl hk'' <| by
    rw [hs.physicalAttempt, ← hs'.physicalAttempt] at hmax
    rw [← hs'.physicalAttempt]
    omega
  have : r = release := h.wf.release_inj hm' hm <| by
    simp only [capacityScheme, hi, hi', hl'']
  subst this
  rcases hr with hr | ⟨_, hr⟩
  · simp [hkind] at hr
  · exact ht hr

-- A lease that has been released for good is its session's last one.
theorem final_latest (h : Reachable runner state) (hd : state.AttemptsDistinct) :
    ∀ r ∈ state.releases, r.Final → ∀ l ∈ state.leases, sessionKey l = r.sessionKey →
      l.physicalAttempt ≤ r.physicalAttempt := by
  induction h using stepwise
  case initial => simp [releases, log, initializeCapacityState]
  case release s t r hr _ _ hc hg ih =>
    rw [AttemptsDistinct, extend_leases_release hc] at hd
    simp only [extend_releases_release hc, extend_leases_release hc, List.mem_append,
      List.mem_singleton]
    rintro x (hx | rfl) hf l hl hk
    · exact ih hd x hx hf l hl hk
    · obtain ⟨l', hl', _, hs⟩ := hg.exists_active
      rw [hs.sessionKey] at hk
      exact hs.physicalAttempt ▸ hr.active_latest hd l' hl' l hl hk
  case reserve s t l hr _ _ hc hg ih =>
    rw [AttemptsDistinct, extend_leases_reserve hc] at hd
    have hs : s.AttemptsDistinct := (List.pairwise_append.mp hd).left
    simp only [extend_releases_reserve hc, extend_leases_reserve hc, List.mem_append,
      List.mem_singleton]
    rintro r hm hf x (hx | rfl) hk
    · exact ih hs r hm hf x hx hk
    · exact absurd hk <| hr.final_not_reserved hs (ih hs r hm hf) hm hf hg (not_mem_attemptsOf hd)

theorem finalityRespected (h : Reachable runner state) (hd : state.AttemptsDistinct) :
    state.FinalityRespected := by
  intro log₁ r log₂ l log₃ hl hf
  have ⟨s, t, hr, hs, hc, ⟨_, hg⟩⟩ := h.exists_prefix hl
  simp only [hc] at hg
  have hd' : (s.leases ++ [l]).Sublist state.leases := by
    rw [leases, leases, hs, hl]
    simp
  replace hd := hd.sublist hd'
  have hd'' : s.AttemptsDistinct := (List.pairwise_append.mp hd).left
  have hm : r ∈ s.releases := by
    rw [releases, hs]
    simp
  exact hr.final_not_reserved hd'' (hr.final_latest hd'' r hm hf) hm hf hg (not_mem_attemptsOf hd)

theorem attemptsAdvance (h : Reachable runner state) (hd : state.AttemptsDistinct) :
    state.AttemptsAdvance := by
  intro log₁ l log₂ hl l' hl' hk
  have ⟨s, t, hr, hs, hc, ⟨_, hg⟩⟩ := h.exists_prefix hl
  simp only [hc] at hg
  have hd' : (s.leases ++ [l]).Sublist state.leases := by
    rw [leases, leases, hs, hl]
    simp
  replace hd := hd.sublist hd'
  have hd'' : s.AttemptsDistinct := (List.pairwise_append.mp hd).left
  have he := hr.attempt_eq hg (hr.attemptsOf_eq hd'' _) (not_mem_attemptsOf hd)
  have hm : l' ∈ s.leases := by rwa [leases, hs]
  have hle := hr.attempt_le hd'' hm
  rw [hk] at hle
  omega

end Reachable

omit [Sha256] in
theorem AttemptsAdvance.distinct (h : state.AttemptsAdvance) : state.AttemptsDistinct :=
  ReservationLog.pairwise_reserved fun log₁ l log₂ hl l' hl' hk =>
    Nat.ne_of_lt <| h log₁ l log₂ hl l' hl' hk

-- One attempt of `prior`'s session retries another.
structure Retries (log : List (ReservationLog.Entry CapacityLease CapacityRelease))
    (priorAt : Nat) (prior : CapacityLease) (releasedAt : Nat) (release : CapacityRelease)
    (leaseAt : Nat) (lease : CapacityLease) : Prop where
  reserved   : log[priorAt]? = some (.reserve prior)
  released   : log[releasedAt]? = some (.release release)
  order      : priorAt < releasedAt ∧ releasedAt < leaseAt
  leaseId    : release.leaseId = prior.leaseId
  identity   : SameIdentity prior release
  session    : GeneralExecution.sessionKey prior = GeneralExecution.sessionKey lease
  attempt    : prior.physicalAttempt + 1 = lease.physicalAttempt
  terminal   : release.releaseKind = .terminalOutcome
  failed     : release.transportStatus ≠ some .completed
  invocation : lease.previousInvocationId = some release.invocationId
  receipt    : lease.previousReceiptDigest = release.receiptDigest

-- The attempts before the lease that `log` reserves at `i`, from the first one on.
def Ancestry (log : List (ReservationLog.Entry CapacityLease CapacityRelease)) (i : Nat)
    (lease : CapacityLease) : Prop :=
  ∃ (reservedAt : Nat → Nat) (leases : Nat → CapacityLease),
    reservedAt lease.physicalAttempt = i ∧ leases lease.physicalAttempt = lease ∧
    ∀ n, 1 ≤ n → n < lease.physicalAttempt →
      (leases n).physicalAttempt = n ∧ sessionKey (leases n) = sessionKey lease ∧
      ∃ releasedAt release,
        Retries log (reservedAt n) (leases n) releasedAt release (reservedAt (n + 1)) (leases (n + 1))

namespace Reachable

-- A lease for a later attempt has a released predecessor in the history before it.
theorem exists_retries (h : Reachable runner state) {i : Nat}
    (hl : state.log[i]? = some (.reserve lease)) (hn : lease.physicalAttempt ≠ 1) :
    ∃ m prior j release, Retries state.log m prior j release i lease := by
  have ⟨hi, hg⟩ := List.getElem?_eq_some_iff.mp hl
  have hs : state.log = state.log.take i ++ .reserve lease :: state.log.drop (i + 1) := by
    rw [← hg, List.getElem_cons_drop, List.take_append_drop]
  have ⟨s, t, hr, ht, hc, ⟨_, hg⟩⟩ := h.exists_prefix hs
  simp only [hc] at hg
  have ⟨r, hm, hk, hkey, hp, hv, hd, hf⟩ := predecessorReleased_release hg.predecessor hn
  have ⟨earlier, later, he⟩ := List.append_of_mem (ReservationLog.mem_released.mp hm)
  have ⟨l, hl', ⟨hid, hsame⟩, _⟩ := (he ▸ hr.wf).existsUnique_reserved
  have ⟨m, hm'⟩ := List.mem_iff_getElem?.mp (ReservationLog.mem_reserved.mp hl')
  have hme : m < earlier.length := (List.getElem?_eq_some_iff.mp hm').choose
  have hei : earlier.length < i := by
    have hlen := congrArg List.length (ht.symm.trans he)
    simp only [List.length_take, List.length_append, List.length_cons] at hlen
    omega
  -- The entries before the reservation are those of the state that accepted it.
  have hlog {k : Nat} (hk : k < i) : state.log[k]? = (earlier ++ .release r :: later)[k]? := by
    rw [← he, ht, List.getElem?_take_of_lt hk]
  have hp' : r.physicalAttempt + 1 = lease.physicalAttempt := by
    have := lease.hasAttempts.right
    omega
  exact ⟨m, l, earlier.length, r, {
    reserved   := by rw [hlog (hme.trans hei), List.getElem?_append_left hme, hm']
    released   := by rw [hlog hei, List.getElem?_append_right (Nat.le_refl _)]; simp
    order      := ⟨hme, hei⟩
    leaseId    := hid
    identity   := hsame
    session    := hsame.sessionKey ▸ hkey
    attempt    := hsame.physicalAttempt ▸ hp'
    terminal   := hk
    failed     := hf
    invocation := hv.symm
    receipt    := hd.symm }⟩

theorem ancestry (h : Reachable runner state) {i : Nat}
    (hl : state.log[i]? = some (.reserve lease)) : Ancestry state.log i lease := by
  induction i using Nat.strongRecOn generalizing lease
  case ind i ih =>
    by_cases hn : lease.physicalAttempt = 1
    case pos => exact ⟨fun _ => i, fun _ => lease, rfl, rfl, by omega⟩
    case neg =>
      have ⟨m, prior, j, release, hr⟩ := h.exists_retries hl hn
      have ⟨reservedAt, leases, hm, hp, ha⟩ := ih m (hr.order.left.trans hr.order.right) hr.reserved
      have hs := hr.attempt
      refine ⟨Function.update reservedAt lease.physicalAttempt i,
        Function.update leases lease.physicalAttempt lease, by simp, by simp, fun n h₁ h₂ => ?_⟩
      rw [Function.update_of_ne h₂.ne, Function.update_of_ne h₂.ne]
      by_cases hl : n = prior.physicalAttempt
      case pos =>
        rw [hl, hs, Function.update_self, Function.update_self, hm, hp]
        exact ⟨rfl, hr.session, j, release, hr⟩
      case neg =>
        rw [Function.update_of_ne (by omega), Function.update_of_ne (by omega), ← hr.session]
        exact ha n h₁ (by omega)

end Reachable

-- Every attempt descends from a first one, attempt by attempt.
theorem retryAncestry (h : verifyCapacityState state runner = true) {i : Nat}
    (hl : state.log[i]? = some (.reserve lease)) : Ancestry state.log i lease :=
  (verifyCapacityState_iff_reachable.mp h).ancestry hl

omit [Sha256] in
theorem retryAncestry_second : let _ := Sha256.byName "gei-2"
    ∃ state lease, verifyCapacityState state referenceRunner = true ∧
      lease.physicalAttempt = 2 ∧ Ancestry state.log 2 lease := by
  intro _
  let first  := referenceRequest "gei-1" (by decide)
  let second := referenceRequest "gei-2" (by decide)
  have ⟨_, outcome, _, ha, ht, _⟩ := exists_failed (firstAttempt first) requestOf_verified
  have hp : retryPredecessorReleased (firstReleased referenceRunner first outcome)
      (retryOf outcome second) = true := retryPredecessorReleased_retryOf ha ht rfl rfl
  have hr := reservedAgain_reachable referenceRunner first outcome (retryOf outcome second)
    (byName_lease_ne rfl (by decide)) (byName_authorization_ne rfl (by decide)) hp
  have hv := verifyCapacityState_iff_reachable.mpr hr
  have h₂ : (retryOf outcome second).physicalAttempt = 2 := by simp [retryOf, ha, firstAttempt]
  exact ⟨_, _, hv, h₂, retryAncestry hv rfl⟩

-- The law of a session holds exactly when each reservation is for a later attempt than all those
-- that its session has made.
theorem finality_iff_attemptsAdvance (h : verifyCapacityState state runner = true) :
    (state.FinalityRespected ∧ state.AttemptsDistinct) ↔ state.AttemptsAdvance := by
  have hr := verifyCapacityState_iff_reachable.mp h
  exact ⟨fun hd => hr.attemptsAdvance hd.right, fun ha => ⟨hr.finalityRespected ha.distinct, ha.distinct⟩⟩

omit [Sha256] in
theorem finality_iff_attemptsAdvance_first : let _ := Sha256.blind
    let state := firstReserved referenceRunner (referenceRequest "gei-1" (by decide))
    verifyCapacityState state referenceRunner = true ∧
      ((state.FinalityRespected ∧ state.AttemptsDistinct) ↔ state.AttemptsAdvance) := by
  intro _ state
  have hv : verifyCapacityState state referenceRunner = true :=
    verifyCapacityState_iff_reachable.mpr <| firstReserved_reachable ..
  exact ⟨hv, finality_iff_attemptsAdvance hv⟩

omit [Sha256] in
-- The first attempt of a completed session may be made again under another name.
theorem finality_notRespected : ¬∀ (_ : Sha256) state runner,
    verifyCapacityState state runner = true → state.FinalityRespected ∧ state.AttemptsDistinct := by
  intro h
  let _ := Sha256.byName "gei-2"
  let first  := referenceRequest "gei-1" (by decide)
  let second := referenceRequest "gei-2" (by decide)
  have ⟨_, outcome, _, _, ht, _⟩ := exists_completed (firstAttempt first) requestOf_verified
  have hr := reservedAgain_reachable referenceRunner first outcome (firstAttempt second)
    (byName_lease_ne rfl (by decide)) (byName_authorization_ne rfl (by decide)) rfl
  have ⟨hf, _⟩ := h _ _ _ (verifyCapacityState_iff_reachable.mpr hr)
  refine hf [_] _ [] _ [] rfl (.inr ⟨rfl, ?_⟩) rfl
  simp [outcomeRelease, ht]

end RunnerCapacityState

end GeneralExecution
