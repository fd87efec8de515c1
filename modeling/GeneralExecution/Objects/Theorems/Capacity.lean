import GeneralExecution.Objects.Capacity

namespace GeneralExecution

variable [Sha256]

-- The fields of a release that identify the lease it releases.
structure SameIdentity (lease : CapacityLease) (release : CapacityRelease) : Prop where
  leaseDigest         : release.leaseDigest = lease.digest
  runnerId            : release.runnerId = lease.runnerId
  sessionId           : release.sessionId = lease.sessionId
  logicalAttempt      : release.logicalAttempt = lease.logicalAttempt
  authorizationId     : release.authorizationId = lease.authorizationId
  authorizationDigest : release.authorizationDigest = lease.authorizationDigest
  invocationId        : release.invocationId = lease.invocationId
  physicalAttempt     : release.physicalAttempt = lease.physicalAttempt

def capacityScheme : ReservationLog.Scheme CapacityLease CapacityRelease String where
  name := CapacityLease.leaseId
  ref  := CapacityRelease.leaseId
  fits := SameIdentity

namespace RunnerCapacityState

variable {state state' : RunnerCapacityState} {runner : RunnerCapabilities}
variable {transition : CapacityTransition} {lease : CapacityLease} {release : CapacityRelease}

omit [Sha256] in
theorem transitions_eq_nil (h : state.generation = 0) : state.transitions = [] :=
  List.eq_nil_of_length_eq_zero <| state.counted.symm.trans h

@[simp]
theorem extend_transitions : (state.extend transition).transitions = state.transitions ++ [transition] :=
  rfl

@[simp]
theorem extend_log : (state.extend transition).log = state.log ++ [transition.change] := by
  simp [log]

@[simp]
theorem extend_runnerId : (state.extend transition).runnerId = state.runnerId :=
  rfl

@[simp]
theorem extend_runnerCapabilityDigest :
    (state.extend transition).runnerCapabilityDigest = state.runnerCapabilityDigest :=
  rfl

@[simp]
theorem extend_maxParallelism : (state.extend transition).maxParallelism = state.maxParallelism :=
  rfl

theorem extend_leases_reserve (hc : transition.change = .reserve lease) :
    (state.extend transition).leases = state.leases ++ [lease] := by
  simp [leases, hc]

theorem extend_leases_release (hc : transition.change = .release release) :
    (state.extend transition).leases = state.leases := by
  simp [leases, hc]

theorem extend_releases_reserve (hc : transition.change = .reserve lease) :
    (state.extend transition).releases = state.releases := by
  simp [releases, hc]

theorem extend_releases_release (hc : transition.change = .release release) :
    (state.extend transition).releases = state.releases ++ [release] := by
  simp [releases, hc]

theorem activeLeases_eq : state.activeLeases = capacityScheme.active state.log :=
  rfl

theorem mem_activeLeases :
    lease ∈ state.activeLeases ↔
      lease ∈ state.leases ∧ lease.leaseId ∉ state.releases.map CapacityRelease.leaseId :=
  ReservationLog.Scheme.mem_active (S := capacityScheme)

-- What a reservation has to meet.
structure CanReserve (state : RunnerCapacityState) (lease : CapacityLease) : Prop where
  snapshot         : lease.expectedStateDigest = state.digest
  runnerId         : lease.runnerId = state.runnerId
  capabilityDigest : lease.runnerCapabilityDigest = state.runnerCapabilityDigest
  inRange          : lease.slot < state.maxParallelism
  hasRoom          : state.activeLeases.length < state.maxParallelism
  slotFree         : lease.slot ∉ state.activeLeases.map CapacityLease.slot
  newId            : lease.leaseId ∉ state.leases.map CapacityLease.leaseId
  newAuthorization :
    lease.authorizationDigest ∉ state.leases.map CapacityLease.authorizationDigest
  sessionFree      : sessionKey lease ∉ state.activeLeases.map sessionKey
  predecessor      : predecessorReleased state lease.sessionId lease.logicalAttempt
    lease.physicalAttempt lease.previousInvocationId lease.previousReceiptDigest = true

-- What a release has to meet.
structure CanRelease (state : RunnerCapacityState) (release : CapacityRelease) : Prop where
  snapshot : release.expectedStateDigest = state.digest
  names    : ∃ lease, (state.activeLeases.filter fun x =>
    x.leaseId = release.leaseId ∧ x.digest = release.leaseDigest) = [lease] ∧
      SameIdentity lease release

-- What a transition has to meet to be accepted.
def Accepts (state : RunnerCapacityState) (transition : CapacityTransition) : Prop :=
  transition.expectedStateDigest = state.digest ∧
  match transition.change with
  | .reserve lease   => state.CanReserve lease
  | .release release => state.CanRelease release

theorem CanRelease.exists_active (h : state.CanRelease release) :
    ∃ lease ∈ state.activeLeases, release.leaseId = lease.leaseId ∧ SameIdentity lease release := by
  have ⟨lease, hl, hs⟩ := h.names
  have hm : lease ∈ [lease] := List.mem_singleton_self _
  rw [← hl, List.mem_filter] at hm
  exact ⟨lease, hm.left, by simp_all, hs⟩

theorem applyTransitionUnchecked_eq_ok :
    applyTransitionUnchecked state transition = .ok state' ↔
      state.Accepts transition ∧ state' = state.extend transition := by
  unfold applyTransitionUnchecked Accepts
  split
  case h_1 lease hc =>
    simp only [Except.bind_eq_ok, Py.require_eq_ok, Except.pure_eq_ok, exists_const, hc]
    constructor
    · rintro ⟨h₁, h₂, ⟨h₃, h₄⟩, h₅, ⟨h₆, h₇⟩, h₈, h₉, h₁₀, rfl⟩
      simp only [not_or] at h₈
      refine ⟨⟨h₁, h₂, h₃, h₄, h₅, h₆, h₇, ?_, ?_, h₉, h₁₀⟩, rfl⟩
      · rintro hm
        obtain ⟨x, hx, he⟩ := List.mem_map.mp hm
        exact (h₈ x hx).left he
      · rintro hm
        obtain ⟨x, hx, he⟩ := List.mem_map.mp hm
        exact (h₈ x hx).right he
    · rintro ⟨⟨h₁, h₂, h₃, h₄, h₅, h₆, h₇, h₈, h₉, h₁₀, h₁₁⟩, rfl⟩
      refine ⟨h₁, h₂, ⟨h₃, h₄⟩, h₅, ⟨h₆, h₇⟩, ?_, h₁₀, h₁₁, rfl⟩
      rintro x hx (he | he)
      · exact h₈ <| he ▸ List.mem_map_of_mem hx
      · exact h₉ <| he ▸ List.mem_map_of_mem hx
  case h_2 release hc =>
    simp only [hc, Except.bind_eq_ok, Py.require_eq_ok, exists_const]
    constructor
    · rintro ⟨h₁, h₂, h₃⟩
      split at h₃
      case h_1 lease hl =>
        simp only [Except.bind_eq_ok, Py.require_eq_ok, Except.pure_eq_ok, exists_const] at h₃
        obtain ⟨⟨i₁, i₂, i₃, i₄, i₅, i₆, i₇⟩, he⟩ := h₃
        have hm : lease ∈ [lease] := List.mem_singleton_self _
        rw [← hl, List.mem_filter] at hm
        have hd : release.leaseDigest = lease.digest := by simp_all
        exact ⟨⟨h₁, h₂, lease, hl, hd, i₁, i₂, i₃, i₄, i₅, i₆, i₇⟩, he.symm⟩
      case h_2 => simp at h₃
    · rintro ⟨⟨h₁, h₂, lease, hl, hs⟩, rfl⟩
      refine ⟨h₁, h₂, ?_⟩
      simp only [hl]
      simp [hs.runnerId, hs.sessionId, hs.logicalAttempt, hs.authorizationId,
        hs.authorizationDigest, hs.invocationId, hs.physicalAttempt]

-- The states that a runner's capacity can get to.
inductive Reachable (runner : RunnerCapabilities) : RunnerCapacityState → Prop
  | initial : Reachable runner (initializeCapacityState runner)
  | step {s t s'} :
    Reachable runner s → applyTransitionUnchecked s t = .ok s' → Reachable runner s'

namespace Reachable

-- Induction over the history, with what each accepted transition has met.
@[elab_as_elim]
theorem stepwise {motive : ∀ s, Reachable runner s → Prop}
    (initial : motive _ .initial)
    (reserve : ∀ {s t l} (h : Reachable runner s) (ha : applyTransitionUnchecked s t = .ok (s.extend t)),
      t.expectedStateDigest = s.digest → t.change = .reserve l → s.CanReserve l →
        motive s h → motive (s.extend t) (h.step ha))
    (release : ∀ {s t r} (h : Reachable runner s) (ha : applyTransitionUnchecked s t = .ok (s.extend t)),
      t.expectedStateDigest = s.digest → t.change = .release r → s.CanRelease r →
        motive s h → motive (s.extend t) (h.step ha)) (h : Reachable runner state) :
    motive state h := by
  induction h
  case initial => exact initial
  case step s t s' hr ha ih =>
    obtain ⟨⟨he, hg⟩, rfl⟩ := applyTransitionUnchecked_eq_ok.mp ha
    cases hc : t.change
    case reserve l => exact reserve hr ha he hc (by simpa [hc] using hg) ih
    case release r => exact release hr ha he hc (by simpa [hc] using hg) ih

theorem boundTo (h : Reachable runner state) : boundTo state runner = true := by
  induction h
  case initial => simp [GeneralExecution.boundTo, initializeCapacityState]
  case step ha ih =>
    have ⟨_, he⟩ := applyTransitionUnchecked_eq_ok.mp ha
    simpa [he, GeneralExecution.boundTo] using ih

theorem replays (h : Reachable runner state) :
    state.transitions.foldlM applyTransitionUnchecked (initializeCapacityState runner) =
      .ok state := by
  induction h
  case initial => rfl
  case step ha ih =>
    have ⟨_, he⟩ := applyTransitionUnchecked_eq_ok.mp ha
    simp [he, ih, ha]

theorem of_replay {transitions : List CapacityTransition} (h : Reachable runner state)
    (hr : transitions.foldlM applyTransitionUnchecked state = .ok state') :
    Reachable runner state' := by
  induction transitions generalizing state
  case nil           => exact (Except.ok.inj hr) ▸ h
  case cons t ts ih  =>
    obtain ⟨s, ha, hr⟩ := Except.bind_eq_ok.mp hr
    exact ih (h.step ha) hr

end Reachable

-- A state is accepted exactly when it can be reached.
theorem verifyCapacityState_iff_reachable :
    verifyCapacityState state runner = true ↔ Reachable runner state := by
  simp only [verifyCapacityState, Bool.and_eq_true]
  constructor
  · rintro ⟨_, hr⟩
    split at hr
    case h_1 current hc => exact of_decide_eq_true hr ▸ Reachable.initial.of_replay hc
    case h_2            => simp at hr
  · intro h
    exact ⟨h.boundTo, by simp [h.replays]⟩

namespace Reachable

theorem wf (h : Reachable runner state) : capacityScheme.Wf state.log := by
  induction h using stepwise
  case initial => exact .nil
  case reserve hc hg ih =>
    rw [extend_log, hc]
    exact ih.reserve hg.newId
  case release hc hg ih =>
    have ⟨lease, hl, hn, hs⟩ := hg.exists_active
    rw [extend_log, hc]
    exact ih.release hl hn hs

theorem activeLeases_reserve (h : Reachable runner state) (hc : transition.change = .reserve lease)
    (hg : state.CanReserve lease) :
    (state.extend transition).activeLeases = state.activeLeases ++ [lease] := by
  rw [activeLeases_eq, extend_log, hc]
  exact h.wf.active_reserve hg.newId

end Reachable

theorem activeLeases_release (hc : transition.change = .release release) :
    (state.extend transition).activeLeases =
      state.activeLeases.filter fun l => l.leaseId ≠ release.leaseId := by
  rw [activeLeases_eq, extend_log, hc]
  exact ReservationLog.Scheme.active_release

theorem activeLeases_release_sublist (hc : transition.change = .release release) :
    (state.extend transition).activeLeases.Sublist state.activeLeases :=
  activeLeases_release hc ▸ List.filter_sublist

-- The law that the capacity of a runner keeps.
structure Exclusive (state : RunnerCapacityState) : Prop where
  atMost         : state.activeLeases.length ≤ state.maxParallelism
  inRange        : ∀ l ∈ state.activeLeases, l.slot < state.maxParallelism
  slots          : (state.activeLeases.map CapacityLease.slot).Nodup
  sessions       : (state.activeLeases.map sessionKey).Nodup
  leaseIds       : (state.leases.map CapacityLease.leaseId).Nodup
  authorizations : (state.leases.map CapacityLease.authorizationDigest).Nodup
  namesOne       : ∀ earlier release later, state.log = earlier ++ .release release :: later →
    ∃ lease ∈ ReservationLog.reserved earlier,
      (release.leaseId = lease.leaseId ∧ SameIdentity lease release) ∧
      ∀ l ∈ ReservationLog.reserved earlier, release.leaseId = l.leaseId → l = lease
  releasedOnce   : (state.releases.map CapacityRelease.leaseId).Nodup
  active         : ∀ l, l ∈ state.activeLeases ↔
    l ∈ state.leases ∧ ∀ r ∈ state.releases, r.leaseId ≠ l.leaseId

namespace Reachable

theorem activeLeases_length_le (h : Reachable runner state) :
    state.activeLeases.length ≤ state.maxParallelism := by
  induction h using stepwise
  case initial => exact Nat.zero_le _
  case reserve hr _ _ hc hg _ =>
    rw [hr.activeLeases_reserve hc hg, List.length_append]
    exact hg.hasRoom
  case release hc _ ih =>
    exact Nat.le_trans (activeLeases_release_sublist hc).length_le ih

theorem slot_lt (h : Reachable runner state) :
    ∀ l ∈ state.activeLeases, l.slot < state.maxParallelism := by
  induction h using stepwise
  case initial => simp [activeLeases, leases, log, initializeCapacityState]
  case reserve hr _ _ hc hg ih =>
    rw [hr.activeLeases_reserve hc hg]
    simp only [List.mem_append, List.mem_singleton, extend_maxParallelism]
    rintro l (hl | rfl)
    · exact ih l hl
    · exact hg.inRange
  case release hc _ ih => exact fun l hl => ih l <| (activeLeases_release_sublist hc).mem hl

-- A field that each reservation takes anew is held by one active lease at most.
theorem active_nodup {β : Type} {f : CapacityLease → β} (h : Reachable runner state)
    (hf : ∀ s l, CanReserve s l → f l ∉ s.activeLeases.map f) :
    (state.activeLeases.map f).Nodup := by
  induction h using stepwise
  case initial => exact List.nodup_nil
  case reserve hr _ _ hc hg ih =>
    rw [hr.activeLeases_reserve hc hg]
    exact ReservationLog.nodup_map_append ih (hf _ _ hg)
  case release hc _ ih => exact ih.sublist <| (activeLeases_release_sublist hc).map f

theorem authorizations_nodup (h : Reachable runner state) :
    (state.leases.map CapacityLease.authorizationDigest).Nodup := by
  induction h using stepwise
  case initial => exact List.nodup_nil
  case reserve hc hg ih =>
    rw [extend_leases_reserve hc]
    exact ReservationLog.nodup_map_append ih hg.newAuthorization
  case release hc _ ih => rwa [extend_leases_release hc]

theorem exclusive (h : Reachable runner state) : Exclusive state where
  atMost             := h.activeLeases_length_le
  inRange            := h.slot_lt
  slots              := h.active_nodup fun _ _ hg => hg.slotFree
  sessions           := h.active_nodup fun _ _ hg => hg.sessionFree
  leaseIds           := h.wf.names_nodup
  authorizations     := h.authorizations_nodup
  namesOne _ _ _ hl  := (hl ▸ h.wf).existsUnique_reserved
  releasedOnce       := h.wf.refs_nodup
  active l           := by simp [mem_activeLeases]

end Reachable

end RunnerCapacityState

end GeneralExecution
