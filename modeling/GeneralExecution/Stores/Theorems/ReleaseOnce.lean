import GeneralExecution.Stores.Theorems.Release

namespace GeneralExecution

open RunnerCapacityState (Reachable)

variable [Sha256] {s s' s₁ s₂ : Stores} {record record' : DurableObservedOutcome}
variable {row : ObservedOutcomeRow} {state : DispatchIntentState} {id intentId : String}
variable {runner : RunnerCapabilities} {capacity capacity' cur : RunnerCapacityState}
variable {lease : CapacityLease} {release : CapacityRelease}

omit [Sha256] in
theorem RunnerCapacityState.releases_of_prefix (h : capacity.transitions <+: capacity'.transitions)
    (hm : release ∈ capacity.releases) : release ∈ capacity'.releases := by
  have ⟨ts, ht⟩ := h
  rw [releases, log, ← ht, List.map_append, ReservationLog.released_append]
  exact List.mem_append_left _ hm

omit [Sha256] in
theorem RunnerCapacityState.releases_congr (h : capacity.transitions = capacity'.transitions) :
    capacity.releases = capacity'.releases := by
  rw [releases, log, h]
  rfl

@[simp]
theorem releasedState_transitions : (releasedState capacity release).transitions =
    capacity.transitions ++ [⟨.release release, capacity.digest, "ge.capacity-transition.v1"⟩] :=
  rfl

@[simp]
theorem releasedState_releases :
    (releasedState capacity release).releases = capacity.releases ++ [release] :=
  RunnerCapacityState.extend_releases_release rfl

theorem decodeOutcomeRow_written (h : decodeOutcomeRow row state = .ok record) :
    serializePhysicalOutcome record.outcome = .ok row.outcomeJson := by
  have ⟨hd, _⟩ := decodeOutcomeRow_eq_ok.mp h
  simp only [deserializePhysicalOutcome, Except.bind_eq_ok, Py.require_eq_ok,
    Except.pure_eq_ok] at hd
  obtain ⟨_, _, _, _, _, hs, _, rfl, rfl⟩ := hd
  exact hs

-- What has been loaded stays.
theorem Loaded.holds (h : Loaded s₁ s₂ id record) (hi : s₁.IntentsAdvance s)
    (ho : s₂.OutcomesKept s) : ∃ state row, s.HoldsOutcome id state row record := by
  have ⟨state, row, hs, hobs, hr, hd⟩ := h.decodes
  exact ⟨state, row, hi.observed hs hobs, hobs, ho id row hr, hd, decodeOutcomeRow_written hd⟩

-- The lease has been released in the history of the runner.
def Stores.LeaseReleased (i : String × String) (s : Stores) : Prop :=
  ∃ runner capacity, runner.runnerId = i.1 ∧ s.HoldsHead runner capacity ∧
    i.2 ∈ capacity.releases.map CapacityRelease.leaseId

theorem Stores.LeaseReleased.advance {i : String × String} (h : s.LeaseReleased i)
    (hs : s.HeadsAdvance s') : s'.LeaseReleased i := by
  have ⟨runner, capacity, hr, hh, hm⟩ := h
  have ⟨capacity', hh', hp⟩ := hs runner capacity hh
  have ⟨release, hrel, he⟩ := List.mem_map.mp hm
  exact ⟨runner, capacity', hr, hh', List.mem_map.mpr
    ⟨release, RunnerCapacityState.releases_of_prefix hp hrel, he⟩⟩

-- A release that is committed is the first of its lease.
theorem Stores.Commits.sets_released {made : List (Stores × Stores)}
    (h : s₁.Commits s₂ runner capacity.digest (releasedState capacity release) cur)
    (hl : lease ∈ capacity.activeLeases) (hr : release.leaseId = lease.leaseId) :
    Config.Sets (LeaseReleased (runner.runnerId, lease.leaseId)) (made ++ [(s₁, s₂)]) := by
  refine Config.sets_append.mpr <| .inr ⟨?_, runner, _, rfl, h.holds, by simp [hr]⟩
  rintro ⟨runner', capacity', hid, hh, hm⟩
  obtain rfl := hh.unique h.current hid
  have ht : capacity.transitions = capacity'.transitions := by
    simpa using h.succeeds.history
  rw [← RunnerCapacityState.releases_congr ht] at hm
  exact (RunnerCapacityState.mem_activeLeases.mp hl).right hm

-- Any number of clients of all of the stores, that also release capacity after a restart.
inductive RecoveryCall
  | release (intentId : String) (spec : ExecutionSpec) (registry : RunnerRegistry)
      (plan : DispatchPlan) (session : ExecutionSession) (runner : RunnerCapabilities)
  | stores (call : ObservedCall)

namespace RecoveryCall

open DispatchIntentStore DurableObservedOutcomeStore

def perform (call : RecoveryCall) :
    StoreCall (RecoveryCall × Option ObservedOutcomeReleaseRecovery) := do
  match call with
  | .release intentId spec registry plan session runner =>
    return (call, some (← releaseObservedCapacityAfterRestart intentId spec registry plan session
      runner))
  | .stores observedCall =>
    let _ ← observedCall.perform
    return (call, none)

def Starts (p : StoreCall (RecoveryCall × Option ObservedOutcomeReleaseRecovery)) : Prop :=
  ∃ call, p = perform call

def heads : Discipline Stores :=
  .shared (fun _ => True) Stores.HeadsAdvance (fun _ => .refl) .trans

def discipline : Discipline Stores :=
  ObservedCall.discipline.and heads

theorem discipline_mutual : discipline.Mutual :=
  ObservedCall.discipline_mutual.and Discipline.shared_mutual

end RecoveryCall

theorem ObservedCall.perform_heads (call : ObservedCall) (s : Stores) :
    (perform call).Respects RecoveryCall.heads (fun _ _ _ => True) [] s := by
  cases call
  case initializeIntent intent =>
    refine .bind <| DispatchIntentStore.initializeIntent_respects (fun s₁ s₂ _ _ h => ?_)
      fun _ _ _ _ _ _ => trivial
    have hh : s₂.capacityHeads = s₁.capacityHeads := by
      rcases h.effect with ⟨_, rfl⟩ | ⟨_, hw⟩
      · rfl
      · exact hw.heads
    exact ⟨trivial, .of_heads hh, fun _ _ _ _ _ _ => trivial⟩
  case beginSubmission intentId expected runner =>
    refine .bind <| DispatchIntentStore.beginSubmission_respects (fun _ s₁ s₂ cur permit _ _ _ h _ => ?_)
      fun _ _ _ _ _ _ => trivial
    exact ⟨trivial, .of_heads h.moves.writes.heads, fun _ _ _ _ _ _ => trivial⟩
  case recordObserved intentId expected spec registry plan session runner outcome =>
    refine .bind <| DurableObservedOutcomeStore.recordObserved_respects
      (fun s₁ s₂ state outcomeJson _ _ _ _ h => ?_) fun _ _ _ _ _ _ => trivial
    have hh : s₂.capacityHeads = s₁.capacityHeads := by
      rcases h with ⟨_, _, _, rfl, _⟩ | ⟨h, _, _, _⟩
      · rfl
      · exact h.moves.writes.heads
    exact ⟨trivial, .of_heads hh, fun _ _ _ _ _ _ => trivial⟩
  case heads headCall =>
    refine .bind <| headCall.perform_frame (fun s₁ s₂ _ _ _ h => ?_) (fun _ _ _ _ _ _ _ => trivial)
      fun _ _ _ _ _ _ => trivial
    exact ⟨trivial, h⟩

namespace RecoveryCall

-- The release that a call reports is in the history of the runner.
structure Released (s : Stores) (intentId : String) (runner : RunnerCapabilities)
    (recovery : ObservedOutcomeReleaseRecovery) (record : DurableObservedOutcome) : Prop where
  outcome  : ∃ state row, s.HoldsOutcome intentId state row record
  runnerId : record.runnerId = runner.runnerId
  release  : ∃ capacity, s.HoldsHead runner capacity ∧ ∃ release ∈ capacity.releases,
    Reports recovery record release

-- What a call has done when it returns, and what is still so at `s`.
def Done (made : List (Stores × Stores))
    (result : Py (RecoveryCall × Option ObservedOutcomeReleaseRecovery)) (s : Stores) : Prop :=
  match result with
  | .error _ => ∀ m ∈ made, m.2 = m.1
  | .ok (.release intentId _ _ _ _ runner, some recovery) =>
    ∃ record, Released s intentId runner recovery record ∧
      (recovery.idempotent = false →
        Config.Sets (Stores.LeaseReleased (record.runnerId, record.leaseId)) made)
  | .ok _ => True

variable {recovery recovery' : ObservedOutcomeReleaseRecovery}

theorem Released.kept (h : Released s id runner recovery record) (hr : discipline.rely s s') :
    Released s' id runner recovery record := by
  have ⟨state, row, ho⟩ := h.outcome
  have ⟨capacity, hh, release, hm, hrep⟩ := h.release
  have ⟨capacity', hh', hp⟩ := hr.right runner capacity hh
  exact ⟨⟨state, row, ho.kept hr.left.left hr.left.right⟩, h.runnerId, capacity', hh', release,
    RunnerCapacityState.releases_of_prefix hp hm, hrep⟩

theorem Released.of_reads
    (h : ReleaseReads discipline.rely s s' id runner record capacity)
    (hm : release ∈ capacity.releases) (hr : Reports recovery record release) :
    Released s' id runner recovery record := by
  have ⟨s₁, s₂, s₃, _, h₁₂, h₂₃, h₃, hl, hh⟩ := h.reads
  have h₂ := discipline.trans h₂₃ h₃
  have ⟨capacity', hh', hp⟩ := h₃.right runner capacity hh
  exact ⟨hl.holds (discipline.trans h₁₂ h₂).left.left h₂.left.right, h.runnerId, capacity', hh',
    release, RunnerCapacityState.releases_of_prefix hp hm, hr⟩

theorem perform_respects (call : RecoveryCall) (s : Stores) :
    (perform call).Respects discipline Done [] s := by
  cases call
  case release intentId spec registry plan session runner =>
    refine .bind <| releaseObservedCapacityAfterRestart_respects ?_ ?_ fun _ _ _ hq _ _ => hq.of_nil
    · intro made s₁ s₂ record capacity lease cur hq hi hreads hl hid hc
      have hadvance : discipline.guar s₁ s₂ :=
        ⟨⟨.of_intents hc.writes.intents, .of_outcomes hc.writes.outcomes⟩, hc.advance⟩
      refine ⟨⟨hi.left.of_heads hc.writes.intents hc.writes.outcomes, trivial⟩, hadvance, ?_⟩
      intro s₃ recovery _ hg₃ hrep hidem s₄ _ hg₄
      have ⟨s₅, s₆, s₇, _, h₅₆, h₆₇, h₇, hload, _⟩ := hreads.reads
      have h₄ := discipline.trans (discipline_mutual _ _ hadvance) <| discipline.trans hg₃ hg₄
      have h₆ := discipline.trans h₆₇ <| discipline.trans h₇ h₄
      have ⟨last, hlast, hp⟩ := (discipline.trans hg₃ hg₄).right runner _ hc.holds
      refine ⟨record, ⟨hload.holds (discipline.trans h₅₆ h₆).left.left h₆.left.right, hreads.runnerId,
        last, hlast, _, RunnerCapacityState.releases_of_prefix hp (by simp), hrep⟩, fun _ => ?_⟩
      exact hreads.runnerId ▸ hid ▸ hc.sets_released hl rfl
    · intro made s₁ record capacity release recovery _ _ hreads hm hrep hidem s₂ _ hg₂
      exact ⟨record, (Released.of_reads hreads hm hrep).kept hg₂, by simp [hidem]⟩
  case stores observedCall =>
    have h := (observedCall.perform_respects s).and (observedCall.perform_heads s)
    refine .bind <| h.mono fun made r s₁ _ hd => ?_
    cases r
    case error e => exact hd.left
    case ok a    => exact fun _ _ _ => trivial

theorem starts_respects (p : StoreCall (RecoveryCall × Option ObservedOutcomeReleaseRecovery))
    (hp : Starts p) (s : Stores) (_ : discipline.inv s) : p.Respects discipline Done [] s := by
  obtain ⟨call, rfl⟩ := hp
  exact call.perform_respects s

variable {c : Config Stores PyError (RecoveryCall × Option ObservedOutcomeReleaseRecovery)}

theorem sound (h : Config.Reachable Starts (.initial .empty) c) : c.Sound discipline Done .empty :=
  h.sound discipline_mutual starts_respects ⟨ObservedCall.lockstep_empty, trivial⟩

-- The call has returned this report about the intent.
def Reported (intentId : String) (recovery : ObservedOutcomeReleaseRecovery)
    (r : Return Stores PyError (RecoveryCall × Option ObservedOutcomeReleaseRecovery)) : Prop :=
  ∃ spec registry plan session runner,
    r.result = .ok (.release intentId spec registry plan session runner, some recovery)

theorem done_of_reported (hc : c.Sound discipline Done s)
    {r : Return Stores PyError (RecoveryCall × Option ObservedOutcomeReleaseRecovery)}
    (hr : r ∈ c.returned) (h : Reported intentId recovery r) :
    ∃ runner record, Released c.store intentId runner recovery record ∧
      (recovery.idempotent = false →
        Config.Sets (Stores.LeaseReleased (record.runnerId, record.leaseId)) r.made) := by
  have ⟨_, _, _, _, runner, he⟩ := h
  have ⟨_, _, hg, hd⟩ := hc.returned r hr
  rw [he] at hd
  have ⟨record, hrel, hs⟩ := hd
  exact ⟨runner, record, hrel.kept hg, hs⟩

-- Two reports about one intent are of the same release.
theorem Released.agree {runner' : RunnerCapabilities} (h : Released s id runner recovery record)
    (h' : Released s id runner' recovery' record') :
    record = record' ∧ recovery.releaseDigest = recovery'.releaseDigest ∧
      recovery.outcomeDigest = recovery'.outcomeDigest := by
  have ⟨_, _, ho⟩ := h.outcome
  have ⟨_, _, ho'⟩ := h'.outcome
  obtain rfl := ho.unique ho'
  have ⟨capacity, hh, release, hm, hr⟩ := h.release
  have ⟨capacity', hh', release', hm', hr'⟩ := h'.release
  obtain rfl := hh.unique hh' (h.runnerId.symm.trans h'.runnerId)
  have he : release = release' := hh.reachable.wf.release_inj hm hm' <|
    hr.leaseId.trans hr'.leaseId.symm
  exact ⟨rfl, by rw [hr.releaseDigest, hr'.releaseDigest, he],
    hr.outcomeDigest.trans hr'.outcomeDigest.symm⟩

theorem atMostOne (h : Config.Reachable Starts (.initial .empty) c) (intentId : String) :
    c.returned.Pairwise fun a b => ¬∃ ra rb, Reported intentId ra a ∧ Reported intentId rb b ∧
      ra.idempotent = false ∧ rb.idempotent = false := by
  have hp := h.setters_pairwise discipline_mutual
    (fun i s s' hg (hp : Stores.LeaseReleased i s) => hp.advance hg.right) starts_respects
    ⟨ObservedCall.lockstep_empty, trivial⟩
  refine hp.imp_of_mem fun {a b} ha hb hn ⟨ra, rb, hra, hrb, hia, hib⟩ => ?_
  have ⟨_, record, hrel, hs⟩ := done_of_reported (sound h) ha hra
  have ⟨_, record', hrel', hs'⟩ := done_of_reported (sound h) hb hrb
  obtain rfl := (hrel.agree hrel').left
  exact hn _ ⟨hs hia, hs' hib⟩

end RecoveryCall

-- What holds of the releases of observed capacity in any run.
structure ReleasedOnce
    (c : Config Stores PyError (RecoveryCall × Option ObservedOutcomeReleaseRecovery)) : Prop where
  once : ∀ runner capacity, c.store.HoldsHead runner capacity →
    (capacity.releases.map CapacityRelease.leaseId).Nodup
  reported : ∀ r ∈ c.returned, ∀ intentId recovery, RecoveryCall.Reported intentId recovery r →
    ∃ runner record, RecoveryCall.Released c.store intentId runner recovery record
  atMostOne : ∀ intentId, c.returned.Pairwise fun a b =>
    ¬∃ ra rb, RecoveryCall.Reported intentId ra a ∧ RecoveryCall.Reported intentId rb b ∧
      ra.idempotent = false ∧ rb.idempotent = false
  agree : ∀ a ∈ c.returned, ∀ b ∈ c.returned, ∀ intentId ra rb,
    RecoveryCall.Reported intentId ra a → RecoveryCall.Reported intentId rb b →
      ra.releaseDigest = rb.releaseDigest ∧ ra.outcomeDigest = rb.outcomeDigest
  raised : ∀ e made, ⟨.error e, made⟩ ∈ c.returned → ∀ m ∈ made, m.2 = m.1

theorem released_once
    {c : Config Stores PyError (RecoveryCall × Option ObservedOutcomeReleaseRecovery)}
    (h : Config.Reachable RecoveryCall.Starts (.initial .empty) c) : ReleasedOnce c where
  once _ _ hh := hh.reachable.exclusive.releasedOnce
  reported r hr intentId recovery hrep := by
    have ⟨runner, record, hrel, _⟩ := RecoveryCall.done_of_reported (RecoveryCall.sound h) hr hrep
    exact ⟨runner, record, hrel⟩
  atMostOne := RecoveryCall.atMostOne h
  agree a ha b hb intentId ra rb hra hrb := by
    have ⟨_, _, hrel, _⟩ := RecoveryCall.done_of_reported (RecoveryCall.sound h) ha hra
    have ⟨_, _, hrel', _⟩ := RecoveryCall.done_of_reported (RecoveryCall.sound h) hb hrb
    exact (hrel.agree hrel').right
  raised e made hr := by
    have ⟨_, _, _, hd⟩ := (RecoveryCall.sound h).returned _ hr
    exact hd

theorem FirstSubmission.recoveryRun {request : AdapterDispatchRequest} {intent : DispatchIntent}
    {permit : DispatchPermit} {s₃ : Stores}
    (h : FirstSubmission runner request intent permit s₁ s₂ s₃ s) :
    ∃ c, Config.Reachable RecoveryCall.Starts (.initial .empty) c ∧ c.store = s :=
  h.runOf (fun oc => RecoveryCall.perform (.stores oc)) (fun oc => ⟨.stores oc, rfl⟩)
    fun oc t => Program.bind_pure_store oc.perform (fun _ => (RecoveryCall.stores oc, none)) t

omit [Sha256] in
theorem released_once_first : let _ := Sha256.blind
    ∃ c, Config.Reachable RecoveryCall.Starts (.initial .empty) c ∧
      (∃ id state, c.store.HoldsIntent id state ∧ state.status = .submissionUnknown) ∧
      ReleasedOnce c := by
  intro _
  have ⟨_, _, _, _, _, _, h⟩ :=
    exists_firstSubmission (referenceRequest "gei-1" (by decide)) requestOf_verified
  have ⟨c, hc, hs⟩ := h.recoveryRun
  exact ⟨c, hc, ⟨_, _, hs ▸ h.holds, rfl⟩, released_once hc⟩

end GeneralExecution
