import GeneralExecution.Objects.Theorems.Operations
import GeneralExecution.Stores.Theorems.Recordable

namespace GeneralExecution

open RunnerCapacityState (Reachable)

variable [Sha256] {s s' s₁ s₂ : Stores} {state : DispatchIntentState}
variable {record : DurableObservedOutcome} {row : ObservedOutcomeRow} {id intentId : String}
variable {spec : ExecutionSpec} {registry : RunnerRegistry} {plan : DispatchPlan}
variable {session : ExecutionSession} {runner : RunnerCapabilities}
variable {capacity : RunnerCapacityState} {lease : CapacityLease} {release : CapacityRelease}

-- An outcome is loaded by two reads.
structure Loaded (s₁ s₂ : Stores) (id : String) (record : DurableObservedOutcome) : Prop where
  decodes : ∃ state row, s₁.HoldsIntent id state ∧ state.status = .observed ∧
    s₂.outcome? id = some row ∧ decodeOutcomeRow row state = .ok record

-- What a release has read of the stores since `s`, before it goes on at `s'`.
structure ReleaseReads (rely : Stores → Stores → Prop) (s s' : Stores) (id : String)
    (runner : RunnerCapabilities) (record : DurableObservedOutcome) (capacity : RunnerCapacityState) :
    Prop where
  reads : ∃ s₁ s₂ s₃, rely s s₁ ∧ rely s₁ s₂ ∧ rely s₂ s₃ ∧ rely s₃ s' ∧ Loaded s₁ s₂ id record ∧
    s₃.HoldsHead runner capacity
  runnerId : record.runnerId = runner.runnerId

-- What a release reports.
structure Reports (recovery : ObservedOutcomeReleaseRecovery) (record : DurableObservedOutcome)
    (release : CapacityRelease) : Prop where
  intentId      : recovery.intentId = record.intentId
  outcomeDigest : recovery.outcomeDigest = record.outcomeDigest
  releaseDigest : recovery.releaseDigest = release.digest
  leaseId       : release.leaseId = record.leaseId

theorem loadedOutcome_eq_ok {row? : Option ObservedOutcomeRow} :
    DurableObservedOutcomeStore.loadedOutcome state row? = .ok record ↔
      state.status = .observed ∧ ∃ row, row? = some row ∧ decodeOutcomeRow row state = .ok record := by
  simp only [DurableObservedOutcomeStore.loadedOutcome, Except.bind_eq_ok, Py.require_eq_ok,
    Py.ofOption_eq_ok, exists_const]

theorem matchingActiveLease_eq_ok (h : matchingActiveLease capacity record = .ok (some lease)) :
    lease ∈ capacity.activeLeases ∧ lease.leaseId = record.leaseId := by
  rw [matchingActiveLease] at h
  split at h
  case h_1     => simp at h
  case h_2 l hl =>
    obtain rfl := Option.some.inj <| Except.pure_eq_ok.mp h
    have hm := List.mem_singleton_self l
    rw [← hl, List.mem_filter, decide_eq_true_eq] at hm
    exact ⟨hm.left, hm.right.left⟩
  case h_3     => simp at h

theorem matchingRelease_eq_ok (h : matchingRelease capacity record = .ok (some release)) :
    release ∈ capacity.releases ∧ release.leaseId = record.leaseId := by
  rw [matchingRelease] at h
  split at h
  case h_1     => simp at h
  case h_2 r hr =>
    obtain rfl := Option.some.inj <| Except.pure_eq_ok.mp h
    have hm := List.mem_singleton_self r
    rw [← hr, List.mem_filter, decide_eq_true_eq] at hm
    exact ⟨hm.left, hm.right.left⟩
  case h_3     => simp at h

namespace ObservedOutcomeReleaseRecovery

variable {outcomeDigest releaseDigest committedStateDigest durableHeadDigest : String}
variable {committedGeneration : Nat} {idempotent : Bool} {recovery : ObservedOutcomeReleaseRecovery}

omit [Sha256] in
theorem new_eq_ok (h : new intentId outcomeDigest releaseDigest committedStateDigest
    committedGeneration durableHeadDigest idempotent = .ok recovery) :
    recovery.intentId = intentId ∧ recovery.outcomeDigest = outcomeDigest ∧
      recovery.releaseDigest = releaseDigest ∧ recovery.idempotent = idempotent := by
  simp only [new, Except.bind_eq_ok, Except.pure_eq_ok] at h
  obtain ⟨_, _, _, _, _, _, rfl⟩ := h
  exact ⟨rfl, rfl, rfl, rfl⟩

omit [Sha256] in
theorem new_of (h₁ : ¬Text.Blank intentId) (h₂ : 1 ≤ committedGeneration)
    (h₃ : IsSha256 outcomeDigest ∧ IsSha256 releaseDigest ∧ IsSha256 committedStateDigest ∧
      IsSha256 durableHeadDigest) :
    ∃ recovery, new intentId outcomeDigest releaseDigest committedStateDigest committedGeneration
      durableHeadDigest idempotent = .ok recovery := by
  have h : ∀ x ∈ [("outcome_digest", outcomeDigest), ("release_digest", releaseDigest),
      ("committed_state_digest", committedStateDigest),
      ("durable_head_digest", durableHeadDigest)], IsSha256 x.2 := by
    simpa only [List.mem_cons, List.not_mem_nil, or_false, forall_eq_or_imp, forall_eq] using h₃
  simp only [new, Py.check_of h₁, Py.check_of h₂, checkSha256_of h, Except.ok_bind]
  exact ⟨_, rfl⟩

end ObservedOutcomeReleaseRecovery

theorem idempotentReleaseRecovery_eq_ok {head : DurableCapacityHead}
    {recovery : ObservedOutcomeReleaseRecovery}
    (h : idempotentReleaseRecovery capacity head record = .ok (some recovery)) :
    ∃ release ∈ capacity.releases, Reports recovery record release ∧ recovery.idempotent = true := by
  simp only [idempotentReleaseRecovery, Except.bind_eq_ok] at h
  obtain ⟨release?, hr, h⟩ := h
  cases release?
  case none => simp at h
  case some release =>
    simp only [Except.bind_eq_ok, Except.pure_eq_ok, Option.some.injEq] at h
    obtain ⟨_, hn, rfl⟩ := h
    obtain ⟨h₁, h₂, h₃, h₄⟩ := ObservedOutcomeReleaseRecovery.new_eq_ok hn
    obtain ⟨hm, hl⟩ := matchingRelease_eq_ok hr
    exact ⟨release, hm, ⟨h₁, h₂, h₃, hl⟩, h₄⟩

section

variable {D : Discipline Stores} {made : List (Stores × Stores)}

theorem DurableObservedOutcomeStore.loadObservedOutcome_respects
    {post : List (Stores × Stores) → Py DurableObservedOutcome → Stores → Prop}
    (ho : ∀ made' s₁ s₂ s₃ record, Quiet made made' → D.rely s s₁ → D.rely s₁ s₂ → D.inv s₃ →
      D.rely s₂ s₃ → Loaded s₁ s₂ id record → post made' (.ok record) s₃)
    (he : ∀ made' e s₁, Quiet made made' → D.inv s₁ → D.rely s s₁ → post made' (.error e) s₁) :
    (loadObservedOutcome id).Respects D post made s := by
  refine .bind <| StoreCall.query_respects fun s₁ s₂ _ hg _ hg₂ => ?_
  have hq : Quiet made (made ++ [(s₁, s₁)]) := .single s₁
  have hg₂' := D.trans hg hg₂
  refine .lift_bind (fun stateRow hr => ?_) fun e s₃ _ hi hg => he _ e s₃ hq hi (D.trans hg₂' hg)
  refine .lift_bind (fun state hd => ?_) fun e s₃ _ hi hg => he _ e s₃ hq hi (D.trans hg₂' hg)
  refine .bind <| StoreCall.query_respects fun s₃ s₄ hi₃ hg₃ hi₄ hg₄ => ?_
  have hq' : Quiet made (made ++ [(s₁, s₁)] ++ [(s₃, s₃)]) := hq.trans (.single s₃)
  refine Program.Respects.lift fun s₅ hi₅ hg₅ => ?_
  replace hg₄ := D.trans hg₄ hg₅
  cases hl : loadedOutcome state (s₃.outcome? id)
  case error e => exact he _ e s₅ hq' hi₅ (D.trans hg₂' <| D.trans hg₃ hg₄)
  case ok record =>
    have ⟨hobs, row, hrow, hrec⟩ := loadedOutcome_eq_ok.mp hl
    refine ho _ s₁ s₃ s₅ record hq' hg (D.trans hg₂ hg₃) hi₅ hg₄ ⟨state, row, ?_, hobs, hrow, hrec⟩
    exact ⟨stateRow, Py.ofOption_eq_ok.mp hr, hd⟩

-- After a lost race, the release that another client has made is looked for.
theorem recoverReleased_respects {e : PyError}
    {post : List (Stores × Stores) → Py ObservedOutcomeReleaseRecovery → Stores → Prop}
    (ho : ∀ made' s₁ s₂ capacity release recovery, Quiet made made' → D.inv s₂ → D.rely s s₁ →
      D.rely s₁ s₂ → s₁.HoldsHead runner capacity → release ∈ capacity.releases →
      Reports recovery record release → recovery.idempotent = true → post made' (.ok recovery) s₂)
    (he : ∀ made' e s₁, Quiet made made' → D.inv s₁ → D.rely s s₁ → post made' (.error e) s₁) :
    (recoverReleased runner record e).Respects D post made s := by
  rw [recoverReleased]
  split
  case isFalse => exact fun s₁ hi hg => he _ _ s₁ .refl hi hg
  case isTrue =>
    refine .bind <| CapacityHeadStore.load_respects (fun s₁ s₂ capacity head _ hg hh _ hg₂ => ?_) he
    have hq : Quiet made (made ++ [(s₁, s₁)]) := .single s₁
    have hg₂' := D.trans hg hg₂
    refine .lift_bind (fun recovered hr => ?_) fun e s₃ _ hi hg => he _ e s₃ hq hi (D.trans hg₂' hg)
    cases recovered
    case none => exact fun s₃ hi hg => he _ _ s₃ hq hi (D.trans hg₂' hg)
    case some recovery =>
      have ⟨release, hm, hrep, hidem⟩ := idempotentReleaseRecovery_eq_ok hr
      exact fun s₃ hi₃ hg₃ =>
        ho _ s₁ s₃ capacity release recovery hq hi₃ hg (D.trans hg₂ hg₃) hh hm hrep hidem

theorem releaseObservedCapacityAfterRestart_respects
    {post : List (Stores × Stores) → Py ObservedOutcomeReleaseRecovery → Stores → Prop}
    (hc : ∀ made' s₁ s₂ record capacity lease cur, Quiet made made' → D.inv s₁ →
      ReleaseReads D.rely s s₁ id runner record capacity → lease ∈ capacity.activeLeases →
      lease.leaseId = record.leaseId →
      s₁.Commits s₂ runner capacity.digest
        (releasedState capacity (outcomeRelease capacity lease record.outcome)) cur →
      D.inv s₂ ∧ D.guar s₁ s₂ ∧ ∀ s₃ recovery, D.inv s₃ → D.rely s₂ s₃ →
        Reports recovery record (outcomeRelease capacity lease record.outcome) →
        recovery.idempotent = false → post (made' ++ [(s₁, s₂)]) (.ok recovery) s₃)
    (ho : ∀ made' s₁ record capacity release recovery, Quiet made made' → D.inv s₁ →
      ReleaseReads D.rely s s₁ id runner record capacity → release ∈ capacity.releases →
      Reports recovery record release → recovery.idempotent = true → post made' (.ok recovery) s₁)
    (he : ∀ made' e s₁, Quiet made made' → D.inv s₁ → D.rely s s₁ → post made' (.error e) s₁) :
    (releaseObservedCapacityAfterRestart id spec registry plan session runner).Respects
      D post made s := by
  refine .bind <| DispatchIntentStore.load_respects (fun s₁ s₂ state _ hg _ _ hg₂ => ?_) he
  have hq₁ : Quiet made (made ++ [(s₁, s₁)]) := .single s₁
  replace hg₂ := D.trans hg hg₂
  refine .lift_bind (fun _ _ => ?_) fun e s₃ _ hi hg => he _ e s₃ hq₁ hi (D.trans hg₂ hg)
  refine .bind <| DurableObservedOutcomeStore.loadObservedOutcome_respects
    (fun made' s₃ s₄ s₅ record hq hg₃ hg₄ _ hg₅ hl => ?_)
    fun made' e s₃ hq hi hg => he _ e s₃ (hq₁.trans hq) hi (D.trans hg₂ hg)
  replace hq := hq₁.trans hq
  replace hg₃ := D.trans hg₂ hg₃
  have hg₅' := D.trans hg₃ <| D.trans hg₄ hg₅
  refine .lift_bind (fun _ hv => ?_) fun e s₆ _ hi hg => he _ e s₆ hq hi (D.trans hg₅' hg)
  have hrunner : record.runnerId = runner.runnerId :=
    record.describes.left.trans <| verifyPhysicalOutcome_runnerId (Py.require_eq_ok.mp hv)
  refine .bind <| CapacityHeadStore.load_respects (fun s₆ s₇ capacity head _ hg₆ hh _ hg₇ => ?_)
    fun made'' e s₆ hq' hi hg => he _ e s₆ (hq.trans hq') hi (D.trans hg₅' hg)
  replace hq := hq.trans (.single s₆)
  have hg₇' := D.trans hg₅' <| D.trans hg₆ hg₇
  have hreads : ∀ s₈, D.rely s₇ s₈ → ReleaseReads D.rely s s₈ id runner record capacity :=
    fun s₈ hg₈ => ⟨⟨s₃, s₄, s₆, hg₃, hg₄, D.trans hg₅ hg₆, D.trans hg₇ hg₈, hl, hh⟩, hrunner⟩
  refine .lift_bind (fun _ hver => ?_) fun e s₈ _ hi hg => he _ e s₈ hq hi (D.trans hg₇' hg)
  refine .lift_bind (fun active ha => ?_) fun e s₈ _ hi hg => he _ e s₈ hq hi (D.trans hg₇' hg)
  cases active
  case none =>
    refine .lift_bind (fun recovered hr => ?_) fun e s₈ _ hi hg => he _ e s₈ hq hi (D.trans hg₇' hg)
    cases recovered
    case none => exact fun s₈ hi hg => he _ _ s₈ hq hi (D.trans hg₇' hg)
    case some recovery =>
      have ⟨release, hm, hrep, hidem⟩ := idempotentReleaseRecovery_eq_ok hr
      exact fun s₈ hi₈ hg₈ => ho _ s₈ record capacity release recovery hq hi₈ (hreads s₈ hg₈) hm hrep
        hidem
  case some lease =>
    refine .lift_bind (fun released hr => ?_) fun e s₈ _ hi hg => he _ e s₈ hq hi (D.trans hg₇' hg)
    obtain ⟨newState, grant, transition⟩ := released
    have ⟨_, _, active, hf, hgrant, _, hnew⟩ := releaseCapacityForOutcome_eq_ok hr
    have ⟨hactive, hid⟩ := findActiveLease_mem hf
    replace hid := hid.trans (matchingActiveLease_eq_ok ha).right
    refine .bind <| .attempt <| CapacityHeadStore.commit_respects (fun s₈ s₉ cur hi₈ hg₈ hcm => ?_)
      fun made'' e s₈ hq' hi₈ hg₈ => ?_
    · have ⟨hi₉, hgu, hpost⟩ := hc _ s₈ s₉ record capacity active cur hq hi₈ (hreads s₈ hg₈) hactive
        hid (hnew ▸ hcm)
      refine ⟨hi₉, hgu, fun s₁₀ _ hg₁₀ => Program.Respects.lift fun s₁₁ hi₁₁ hg₁₁ => ?_⟩
      -- What is reported is well formed, so that nothing is raised after the commit.
      have ⟨recovery, hn⟩ : ∃ recovery, ObservedOutcomeReleaseRecovery.new record.intentId
          record.outcomeDigest grant.release.digest newState.digest newState.generation
          (headOf newState (snapshotDigest newState)).digest false = .ok recovery :=
        ObservedOutcomeReleaseRecovery.new_of
          (record.nonempty ("intent_id", record.intentId) (by simp))
          (hcm.succeeds.generation ▸ Nat.le_add_left 1 _)
          ⟨record.isSha256 ("outcome_digest", record.outcomeDigest) (by simp),
            isSha256_sha256Digest _, isSha256_sha256Digest _, isSha256_sha256Digest _⟩
      have ⟨h₁, h₂, h₃, h₄⟩ := ObservedOutcomeReleaseRecovery.new_eq_ok hn
      simp only [hn]
      exact hpost s₁₁ recovery hi₁₁ (D.trans hg₁₀ hg₁₁) ⟨h₁, h₂, hgrant ▸ h₃, hid⟩ h₄
    · replace hq := hq.trans hq'
      have hg₈' := D.trans hg₇' hg₈
      refine recoverReleased_respects
        (fun _ s₉ s₁₀ latest release recovery hq' hi₁₀ hg₉ hg₁₀ hh' hm hrep hidem => ?_)
        fun _ e s₉ hq' hi₉ hg₉ => he _ e s₉ (hq.trans hq') hi₉ (D.trans hg₈' hg₉)
      refine ho _ s₁₀ record latest release recovery (hq.trans hq') hi₁₀ ⟨?_, hrunner⟩ hm hrep hidem
      have hg₅₉ := D.trans hg₅ <| D.trans hg₆ <| D.trans hg₇ <| D.trans hg₈ hg₉
      exact ⟨s₃, s₄, s₉, hg₃, hg₄, hg₅₉, hg₁₀, hl, hh'⟩

end

end GeneralExecution
