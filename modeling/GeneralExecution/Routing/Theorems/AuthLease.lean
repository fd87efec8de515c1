import GeneralExecution.Routing.AuthLease
import GeneralExecution.Primitives.Raising
import GeneralExecution.Primitives.Sorting

namespace GeneralExecution

theorem ProviderAuthPathDecision.checked_eq {d d' : ProviderAuthPathDecision}
    (h : d.checked = .ok d') : d' = d := by
  simp only [checked, Except.bind_eq_ok, Py.require_eq_ok, Except.pure_eq_ok] at h
  obtain ⟨_, _, _, _, _, _, _, _, _, _, _, _, he⟩ := h
  exact he.symm

theorem ProviderDrainPlan.checked_eq {p p' : ProviderDrainPlan} (h : p.checked = .ok p') :
    p' = p := by
  simp only [checked, Except.bind_eq_ok, Py.require_eq_ok, Except.pure_eq_ok] at h
  obtain ⟨_, _, _, _, _, _, _, _, _, _, _, _, _, _, _, _, _, _, he⟩ := h
  exact he.symm

theorem checkHumanAction_of {required : Bool} {actionRef : Option String} {message : String}
    (hr : required = true → ¬Text.Blank (actionRef.getD ""))
    (hn : required = false → actionRef = none) :
    checkHumanAction required actionRef message = .ok () := by
  cases required
  case false => exact Py.require_of (hn rfl) _ _
  case true  =>
    have h : ∀ x ∈ [("human_action_ref", actionRef.getD "")], ¬Text.Blank x.2 := by
      simpa using hr rfl
    rw [checkHumanAction, if_pos rfl, Guard.nonempty_of h]
    rfl

-- What the constructor of a decision needs.
structure ProviderAuthPathDecision.Valid (d : ProviderAuthPathDecision) : Prop where
  provider    : ¬Text.Blank d.providerId
  lease       : checkSelectedLease d.selectedSurface d.selectedLeaseDigest = .ok ()
  required    : d.humanInteractionRequired = true → ¬Text.Blank (d.humanActionRef.getD "")
  notRequired : d.humanInteractionRequired = false → d.humanActionRef = none
  noSecrets :
    d.credentialsPersisted = false ∧ d.cookiesPersisted = false ∧ d.tokensPersisted = false
  noAuthority : d.authorityCreated = false
  noExecution : d.executionTriggered = false

theorem ProviderAuthPathDecision.Valid.checked {d : ProviderAuthPathDecision} (h : d.Valid) :
    d.checked = .ok d := by
  have hp : ∀ x ∈ [("provider_id", d.providerId)], ¬Text.Blank x.2 := by
    simpa using h.provider
  rw [ProviderAuthPathDecision.checked, Guard.nonempty_of hp, Except.ok_bind, h.lease,
    Except.ok_bind, checkHumanAction_of h.required h.notRequired, Except.ok_bind,
    Py.require_of h.noSecrets, Except.ok_bind, Py.require_of h.noAuthority, Except.ok_bind,
    Py.require_of h.noExecution]
  rfl

structure ProviderDrainPlan.Valid (p : ProviderDrainPlan) : Prop where
  provider    : ¬Text.Blank p.providerId
  digest      : Guard.StrippedSha256 p.authDecisionDigest
  unique      : Guard.Stripped (true, p.selectedQueueIds)
  depth       : p.selectedQueueIds.length ≤ p.queueDepth
  selects     : p.disposition = .useAuth ∨ p.selectedQueueIds = []
  required    : p.humanInteractionRequired = true → ¬Text.Blank (p.humanActionRef.getD "")
  notRequired : p.humanInteractionRequired = false → p.humanActionRef = none
  noSecrets :
    p.credentialsPersisted = false ∧ p.cookiesPersisted = false ∧ p.tokensPersisted = false
  noAuthority : p.authorityCreated = false
  noExecution : p.executionTriggered = false

theorem ProviderDrainPlan.Valid.checked {p : ProviderDrainPlan} (h : p.Valid) :
    p.checked = .ok p := by
  have hp : ∀ x ∈ [("provider_id", p.providerId)], ¬Text.Blank x.2 := by
    simpa using h.provider
  have hd : ∀ x ∈ [("auth_decision_digest", p.authDecisionDigest)], Guard.StrippedSha256 x.2 := by
    simpa using h.digest
  have hu : ∀ x ∈ [("selected_queue_ids", true, p.selectedQueueIds)], Guard.Stripped x.2 := by
    simpa using h.unique
  rw [ProviderDrainPlan.checked, Guard.nonempty_of hp, Except.ok_bind, authDigest_of hd,
    Except.ok_bind, Guard.stripped_of hu, Except.ok_bind, Py.require_of h.depth, Except.ok_bind,
    Py.require_of h.selects, Except.ok_bind, checkHumanAction_of h.required h.notRequired,
    Except.ok_bind, Py.require_of h.noSecrets, Except.ok_bind, Py.require_of h.noAuthority,
    Except.ok_bind, Py.require_of h.noExecution]
  rfl

variable [Sha256] [IsoFormat] {providerId : String} {leases leases' : List ProviderAuthLease}
variable {items items' : List ProviderAuthQueueItem} {maxItems : Int} {now : Option String}
variable {stale : Option Int} {auth : ProviderAuthPathDecision} {plan : ProviderDrainPlan}
variable {lease : ProviderAuthLease}

-- The lease that a decision is about.
structure ProviderAuthPathDecision.Binds (auth : ProviderAuthPathDecision)
    (lease : ProviderAuthLease) : Prop where
  provider : lease.providerId = auth.providerId
  surface  : auth.selectedSurface = some lease.surface
  digest   : auth.selectedLeaseDigest = some lease.digest

structure Finalized (auth : ProviderAuthPathDecision) (providerId : String)
    (disposition : AuthPathDisposition) (lease : Option ProviderAuthLease) : Prop where
  provider    : auth.providerId = providerId
  disposition : auth.disposition = disposition
  surface     : auth.selectedSurface = lease.map ProviderAuthLease.surface
  digest      : auth.selectedLeaseDigest = lease.map ProviderAuthLease.digest

theorem finalized_of {disposition : AuthPathDisposition} {reasons : List String}
    {lease : Option ProviderAuthLease}
    (h : finalizeAuthPath providerId disposition reasons lease = .ok auth) :
    Finalized auth providerId disposition lease := by
  simp only [finalizeAuthPath, Except.bind_eq_ok] at h
  obtain ⟨_, h₁, h₂⟩ := h
  have he₁ := ProviderAuthPathDecision.checked_eq h₁
  have he₂ := ProviderAuthPathDecision.checked_eq h₂
  subst he₁ he₂
  exact ⟨rfl, rfl, rfl, rfl⟩

theorem checkSelectedLease_digest (lease : Option ProviderAuthLease) :
    checkSelectedLease (lease.map ProviderAuthLease.surface)
      (lease.map ProviderAuthLease.digest) = .ok () := by
  cases lease
  case none       => rfl
  case some lease =>
    have hd : Guard.StrippedSha256 lease.digest := Guard.strippedSha256_sha256Digest _
    have h : ∀ x ∈ [("selected_lease_digest", lease.digest)], Guard.StrippedSha256 x.2 := by
      simpa using hd
    rw [Option.map_some, Option.map_some, checkSelectedLease, authDigest_of h]
    rfl

omit [Sha256] [IsoFormat] in
theorem reauthenticate_not_blank (providerId : String) :
    ¬Text.Blank ("auth://" ++ providerId ++ "/reauthenticate") := by
  have hl : ("auth://" ++ providerId ++ "/reauthenticate").toList =
      'a' :: ("uth://".toList ++ providerId.toList ++ "/reauthenticate".toList) := by
    rw [String.toList_append, String.toList_append]
    rfl
  exact Text.not_blank_of_head hl (by decide)

-- Every decision that is made is a valid one.
theorem finalizeAuthPath_valid {disposition : AuthPathDisposition} {reasons : List String}
    {lease : Option ProviderAuthLease} (hp : ¬Text.Blank providerId) :
    ∃ auth, finalizeAuthPath providerId disposition reasons lease = .ok auth ∧ auth.Valid ∧
      Guard.StrippedSha256 auth.decisionDigest := by
  let human := decide (disposition = .humanReauthRequired)
  let provisional : ProviderAuthPathDecision := {
    providerId, disposition, reasons,
    selectedSurface          := lease.map ProviderAuthLease.surface,
    selectedLeaseDigest      := lease.map ProviderAuthLease.digest,
    humanInteractionRequired := human,
    humanActionRef           :=
      if human then some ("auth://" ++ providerId ++ "/reauthenticate") else none }
  have hvalid (digest : String) :
      ({ provisional with decisionDigest := digest } : ProviderAuthPathDecision).Valid := {
    provider    := hp
    lease       := checkSelectedLease_digest lease
    required    := by
      intro h
      simpa [provisional, show human = true from h] using reauthenticate_not_blank providerId
    notRequired := by
      intro h
      simp [provisional, show human = false from h]
    noSecrets   := unset₃
    noAuthority := rfl
    noExecution := rfl }
  refine ⟨{ provisional with decisionDigest := sha256Digest provisional.payload }, ?_, hvalid _,
    Guard.strippedSha256_sha256Digest _⟩
  rw [finalizeAuthPath]
  have h₁ := (hvalid "").checked
  have h₂ := (hvalid (sha256Digest provisional.payload)).checked
  exact (congrArg (· >>= _) h₁).trans h₂

def Available (now : Option String) (stale : Option Int) (lease : ProviderAuthLease) : Prop :=
  effectiveAuthState lease now stale = .ok .authAvailable

omit [Sha256] in
theorem withState_eq_ok {x : ProviderAuthLease × AuthLeaseState} :
    withState now stale lease = .ok x ↔
      x.1 = lease ∧ effectiveAuthState lease now stale = .ok x.2 := by
  simp only [withState, Except.bind_eq_ok, Except.pure_eq_ok]
  constructor
  case mp =>
    rintro ⟨state, hs, rfl⟩
    exact ⟨rfl, hs⟩
  case mpr =>
    rintro ⟨rfl, hs⟩
    exact ⟨x.2, hs, rfl⟩

section States

omit [Sha256]

variable {states states' : List (ProviderAuthLease × AuthLeaseState)} {state : AuthLeaseState}

theorem map_fst_states (h : leases.mapM (withState now stale) = .ok states) :
    states.map Prod.fst = leases :=
  Except.map_mapM h fun _ _ hx => (withState_eq_ok.mp hx).left

theorem mem_leasesIn (h : leases.mapM (withState now stale) = .ok states) :
    lease ∈ leasesIn state states ↔
      lease ∈ leases ∧ effectiveAuthState lease now stale = .ok state := by
  rw [leasesIn, (List.mergeSort_perm ..).mem_iff, List.mem_map]
  constructor
  case mp =>
    rintro ⟨x, hx, rfl⟩
    have ⟨hm, hs⟩ := List.mem_filter.mp hx
    have ⟨l, hl, hok⟩ := Except.mem_mapM h x hm
    have ⟨he, hstate⟩ := withState_eq_ok.mp hok
    exact ⟨he ▸ hl, by rw [he, hstate, of_decide_eq_true hs]⟩
  case mpr =>
    rintro ⟨hl, hs⟩
    rw [← map_fst_states h] at hl
    have ⟨x, hx, he⟩ := List.mem_map.mp hl
    have ⟨l, _, hok⟩ := Except.mem_mapM h x hx
    have ⟨he', hstate⟩ := withState_eq_ok.mp hok
    have hx' : x.2 = state := by
      rw [← he', he, hs] at hstate
      exact (Except.ok.inj hstate).symm
    exact ⟨x, List.mem_filter.mpr ⟨hx, decide_eq_true hx'⟩, he⟩

theorem rank_le_of_leasesIn {rest : List ProviderAuthLease}
    (h : leasesIn state states = lease :: rest) {other : ProviderAuthLease}
    (ho : other ∈ leasesIn state states) : lease.surface.rank ≤ other.surface.rank := by
  have hs := List.pairwise_sortBy ProviderAuthLease.key
    ((states.filter fun x => x.2 = state).map Prod.fst)
  rw [leasesIn] at h ho
  rw [h] at hs ho
  cases List.mem_cons.mp ho
  case inl he => exact he ▸ le_refl _
  case inr hr =>
    have hle := (List.pairwise_cons.mp hs).left other hr
    exact Prod.Lex.monotone_fst _ _ hle

theorem leasesIn_eq_of_perm (hn : (states.map fun x => x.1.key).Nodup) (hp : states.Perm states') :
    leasesIn state states = leasesIn state states' := by
  apply List.sortBy_eq_of_perm
  case hn =>
    rw [List.map_map]
    exact hn.sublist (List.filter_sublist.map _)
  case hp => exact (hp.filter _).map _

end States

section Select

omit [Sha256] in
theorem ProviderAuthLease.providerId_not_blank (lease : ProviderAuthLease) :
    ¬Text.Blank lease.providerId :=
  lease.nonempty ("provider_id", lease.providerId) (by simp)

-- What a decision says of the leases of its provider.
structure Selects (leases : List ProviderAuthLease) (now : Option String) (stale : Option Int)
    (auth : ProviderAuthPathDecision) : Prop where
  available :
    auth.disposition = .useAuth ↔ ∃ lease ∈ leasesOf auth.providerId leases, Available now stale lease
  bound :
    auth.disposition = .useAuth → ∃ lease ∈ leases, auth.Binds lease ∧ Available now stale lease ∧
      ∀ other ∈ leases, other.providerId = lease.providerId → Available now stale other →
        lease.surface.rank ≤ other.surface.rank

-- A decision uses the first available lease if there is one.
theorem authPathAmong_cases {available suspect : List ProviderAuthLease} {rejected : Bool}
    (h : authPathAmong providerId available suspect rejected = .ok auth) :
    auth.providerId = providerId ∧ (available = [] → auth.disposition ≠ .useAuth) ∧
      ∀ selected rest, available = selected :: rest →
        auth.disposition = .useAuth ∧ auth.selectedSurface = some selected.surface ∧
          auth.selectedLeaseDigest = some selected.digest := by
  cases available
  case cons selected rest =>
    rw [authPathAmong] at h
    have hf := finalized_of h
    refine ⟨hf.provider, by simp, fun selected' rest' he => ?_⟩
    obtain ⟨rfl, rfl⟩ := List.cons.inj he
    exact ⟨hf.disposition, hf.surface, hf.digest⟩
  case nil =>
    cases suspect
    case cons selected rest =>
      rw [authPathAmong] at h
      have hf := finalized_of h
      exact ⟨hf.provider, by simp [hf.disposition], by simp⟩
    case nil =>
      rw [authPathAmong] at h
      split at h
      case isTrue =>
        have hf := finalized_of h
        exact ⟨hf.provider, by simp [hf.disposition], by simp⟩
      case isFalse =>
        have hf := finalized_of h
        exact ⟨hf.provider, by simp [hf.disposition], by simp⟩

omit [Sha256] [IsoFormat] in
theorem authNonempty_eq_ok {value field stripped : String} :
    authNonempty value field = .ok stripped ↔ ¬Text.Blank value ∧ Text.stripped value = stripped := by
  simp [authNonempty]

theorem selectProviderAuthPath_eq_ok :
    selectProviderAuthPath providerId leases now stale = .ok auth ↔
      ¬Text.Blank providerId ∧
        (if leasesOf (Text.stripped providerId) leases = [] then
          finalizeAuthPath (Text.stripped providerId) .humanReauthRequired
            ["no_authenticated_provider_capability_evidence"] none = .ok auth
        else ∃ states,
          (leasesOf (Text.stripped providerId) leases).mapM (withState now stale) = .ok states ∧
          authPathAmong (Text.stripped providerId) (leasesIn .authAvailable states)
            (leasesIn .authSuspect states)
            ((leasesOf (Text.stripped providerId) leases).any
              fun lease => lease.state = .humanReauthRequired) = .ok auth) := by
  simp only [selectProviderAuthPath, Except.bind_eq_ok, authNonempty_eq_ok]
  constructor
  case mp =>
    rintro ⟨_, ⟨hb, rfl⟩, h⟩
    refine ⟨hb, ?_⟩
    split at h
    case isTrue hr  => rwa [if_pos hr]
    case isFalse hr =>
      rw [if_neg hr]
      exact Except.bind_eq_ok.mp h
  case mpr =>
    rintro ⟨hb, h⟩
    refine ⟨_, ⟨hb, rfl⟩, ?_⟩
    split at h
    case isTrue hr  => exact (if_pos hr).trans h
    case isFalse hr => exact (if_neg hr).trans (Except.bind_eq_ok.mpr h)

theorem selects_of (h : selectProviderAuthPath providerId leases now stale = .ok auth) :
    auth.providerId = Text.stripped providerId ∧ Selects leases now stale auth := by
  have ⟨_, h⟩ := selectProviderAuthPath_eq_ok.mp h
  split at h
  case isTrue hr =>
    have hf := finalized_of h
    have hd : auth.disposition ≠ .useAuth := by simp [hf.disposition]
    refine ⟨hf.provider, ?_, fun hu => absurd hu hd⟩
    rw [hf.provider, hr]
    simp [hd]
  case isFalse =>
    have ⟨states, hs, hauth⟩ := h
    have ⟨hp, hnone, hsome⟩ := authPathAmong_cases hauth
    refine ⟨hp, ?_⟩
    cases ha : leasesIn .authAvailable states
    case nil =>
      constructor
      case available =>
        rw [hp, iff_false_left (hnone ha)]
        rintro ⟨lease, hl, hav⟩
        have hm := (mem_leasesIn hs).mpr ⟨hl, hav⟩
        rw [ha] at hm
        exact absurd hm List.not_mem_nil
      case bound => exact fun hu => absurd hu (hnone ha)
    case cons selected rest =>
      have ⟨hu, hsurface, hdigest⟩ := hsome selected rest ha
      have ⟨hl, hav⟩ := (mem_leasesIn hs).mp (ha ▸ List.mem_cons_self)
      have ⟨hmem, hid⟩ := List.mem_filter.mp hl
      constructor
      case available => exact iff_of_true hu ⟨selected, hp ▸ hl, hav⟩
      case bound =>
        intro _
        refine ⟨selected, hmem, ⟨?_, hsurface, hdigest⟩, hav, ?_⟩
        · rw [of_decide_eq_true hid, hp]
        · intro other hother hoid hoav
          apply rank_le_of_leasesIn ha
          apply (mem_leasesIn hs).mpr
          refine ⟨List.mem_filter.mpr ⟨hother, ?_⟩, hoav⟩
          rw [hoid]
          exact hid

omit [Sha256] [IsoFormat] in
theorem rank_injective : Function.Injective AuthSurface.rank := by
  intro s s'
  cases s <;> cases s' <;> simp [AuthSurface.rank]

omit [Sha256] in
-- The key of a lease of one provider is its surface.
theorem nodup_keys (hn : (leases.map fun l => (l.providerId, l.surface)).Nodup) :
    ((leasesOf providerId leases).map ProviderAuthLease.key).Nodup := by
  have hinj : Function.Injective
      fun x : String × AuthSurface => (toLex (x.2.rank, x.1) : ℕ ×ₗ String) := by
    intro x x' he
    have ⟨hr, hp⟩ := Prod.mk.inj (toLex.injective he)
    exact Prod.ext hp (rank_injective hr)
  have hpair : ((leasesOf providerId leases).map fun l => (l.providerId, l.surface)).Nodup :=
    hn.sublist (List.filter_sublist.map _)
  have hkeys := hpair.map hinj
  rwa [List.map_map] at hkeys

theorem select_perm (hn : (leases.map fun l => (l.providerId, l.surface)).Nodup)
    (hp : leases.Perm leases') (h : selectProviderAuthPath providerId leases now stale = .ok auth) :
    selectProviderAuthPath providerId leases' now stale = .ok auth := by
  have hof : (leasesOf (Text.stripped providerId) leases).Perm
      (leasesOf (Text.stripped providerId) leases') :=
    hp.filter _
  have ⟨hb, h⟩ := selectProviderAuthPath_eq_ok.mp h
  apply selectProviderAuthPath_eq_ok.mpr
  refine ⟨hb, ?_⟩
  split at h
  case isTrue hr =>
    rw [hr] at hof
    rwa [if_pos hof.symm.eq_nil]
  case isFalse hr =>
    have ⟨states, hs, hauth⟩ := h
    have ⟨states', hs', hperm⟩ := Except.mapM_perm hof hs
    have hkeys : (states.map fun x => x.1.key).Nodup := by
      have hk : ((leasesOf (Text.stripped providerId) leases).map ProviderAuthLease.key).Nodup :=
        nodup_keys hn
      rw [← map_fst_states hs, List.map_map] at hk
      exact hk
    rw [if_neg fun hr' => hr (by rw [hr'] at hof; exact hof.eq_nil)]
    refine ⟨states', hs', ?_⟩
    rw [← leasesIn_eq_of_perm hkeys hperm.symm, ← leasesIn_eq_of_perm hkeys hperm.symm,
      ← hof.any_eq]
    exact hauth

end Select

section Queue

omit [Sha256] [IsoFormat]

variable {item : ProviderAuthQueueItem}

theorem mem_queueOf :
    item ∈ queueOf providerId items ↔ item ∈ items ∧ item.providerId = providerId := by
  rw [queueOf, (List.mergeSort_perm ..).mem_iff, List.mem_filter, decide_eq_true_eq]

theorem queueOf_eq_of_perm (hn : (items.map ProviderAuthQueueItem.queueId).Nodup)
    (hp : items.Perm items') : queueOf providerId items = queueOf providerId items' := by
  apply List.sortBy_eq_of_perm
  case hn =>
    have hids : ((items.filter fun item => item.providerId = providerId).map
        ProviderAuthQueueItem.key).map (fun k => (ofLex k).2) =
        (items.filter fun item => item.providerId = providerId).map
          ProviderAuthQueueItem.queueId := by
      rw [List.map_map]
      rfl
    apply List.Nodup.of_map
    rw [hids]
    exact hn.sublist (List.filter_sublist.map _)
  case hp => exact hp.filter _

-- The ids of the first items of a provider, by priority and id.
def firstIds (providerId : String) (items : List ProviderAuthQueueItem) (maxItems : Int) :
    List String :=
  ((queueOf providerId items).take maxItems.toNat).map ProviderAuthQueueItem.queueId

theorem mem_firstIds {id : String} (h : id ∈ firstIds providerId items maxItems) :
    ∃ item ∈ items, item.providerId = providerId ∧ item.queueId = id := by
  have ⟨item, hm, he⟩ := List.mem_map.mp h
  have ⟨hi, hp⟩ := mem_queueOf.mp (List.mem_of_mem_take hm)
  exact ⟨item, hi, hp, he⟩

theorem firstIds_eq_nil :
    firstIds providerId items maxItems = [] ↔
      maxItems ≤ 0 ∨ ∀ item ∈ items, item.providerId ≠ providerId := by
  rw [firstIds, List.map_eq_nil_iff, List.take_eq_nil_iff, Int.toNat_eq_zero]
  apply or_congr_right
  rw [List.eq_nil_iff_forall_not_mem]
  simp only [mem_queueOf, not_and]

-- The first items of two providers have no id in common.
theorem firstIds_eq_iff {providerId' : String}
    (hn : (items.map ProviderAuthQueueItem.queueId).Nodup) (hne : providerId ≠ providerId') :
    firstIds providerId items maxItems = firstIds providerId' items maxItems ↔
      firstIds providerId items maxItems = [] ∧ firstIds providerId' items maxItems = [] := by
  constructor
  case mpr => exact fun ⟨h, h'⟩ => h.trans h'.symm
  case mp =>
    intro he
    have hnil : firstIds providerId items maxItems = [] := by
      rw [List.eq_nil_iff_forall_not_mem]
      intro id hid
      have ⟨item, hi, hp, hq⟩ := mem_firstIds hid
      have ⟨item', hi', hp', hq'⟩ := mem_firstIds (he ▸ hid)
      have hsame := List.inj_on_of_nodup_map hn hi hi' (hq.trans hq'.symm)
      exact hne (by rw [← hp, ← hp', hsame])
    exact ⟨hnil, he ▸ hnil⟩

end Queue

section Plan

theorem planProviderDrain_selects
    (h : planProviderDrain providerId leases items maxItems now stale = .ok plan) :
    0 ≤ maxItems ∧ ∃ auth, selectProviderAuthPath providerId leases now stale = .ok auth ∧
      plan.authDecisionDigest = auth.decisionDigest ∧ plan.disposition = auth.disposition ∧
      plan.selectedQueueIds =
        if auth.disposition = .useAuth then firstIds providerId items maxItems else [] := by
  simp only [planProviderDrain, Except.bind_eq_ok, Py.require_eq_ok] at h
  obtain ⟨_, hm, auth, ha, _, h₁, h₂⟩ := h
  have he₁ := ProviderDrainPlan.checked_eq h₁
  have he₂ := ProviderDrainPlan.checked_eq h₂
  subst he₁ he₂
  exact ⟨hm, auth, ha, rfl, rfl, rfl⟩

theorem planProviderDrain_perm (hl : (leases.map fun l => (l.providerId, l.surface)).Nodup)
    (hi : (items.map ProviderAuthQueueItem.queueId).Nodup) (hpl : leases.Perm leases')
    (hpi : items.Perm items')
    (h : planProviderDrain providerId leases items maxItems now stale = .ok plan) :
    planProviderDrain providerId leases' items' maxItems now stale = .ok plan := by
  simp only [planProviderDrain, Except.bind_eq_ok] at h ⊢
  obtain ⟨u, hm, auth, ha, hplan⟩ := h
  refine ⟨u, hm, auth, select_perm hl hpl ha, ?_⟩
  rw [← queueOf_eq_of_perm hi hpi]
  exact hplan

variable (providerId leases items maxItems now stale plan)

-- A plan drains the queue of the provider whose authentication it uses.
structure DrainSound : Prop where
  selects : plan.selectedQueueIds ≠ [] → plan.disposition = .useAuth
  authenticated :
    plan.disposition = .useAuth →
      ∃ auth, selectProviderAuthPath providerId leases now stale = .ok auth ∧
        plan.authDecisionDigest = auth.decisionDigest ∧
        ∃ lease ∈ leases, auth.Binds lease ∧ Available now stale lease ∧
          (∀ other ∈ leases, other.providerId = lease.providerId → Available now stale other →
            lease.surface.rank ≤ other.surface.rank) ∧
          plan.selectedQueueIds = firstIds lease.providerId items maxItems
  orderFree :
    ∀ leases' items', leases.Perm leases' → items.Perm items' →
      planProviderDrain providerId leases' items' maxItems now stale = .ok plan

-- The stripped provider is authenticated, and it or the other one has work to be drained.
structure Contested : Prop where
  available :
    ∃ lease ∈ leases, lease.providerId = Text.stripped providerId ∧ Available now stale lease
  bounded   : 0 < maxItems
  queued :
    ∃ item ∈ items, item.providerId = providerId ∨ item.providerId = Text.stripped providerId

variable {providerId leases items maxItems now stale plan}

omit [Sha256] [IsoFormat] in
theorem firstIds_both_nil :
    firstIds providerId items maxItems = [] ∧
        firstIds (Text.stripped providerId) items maxItems = [] ↔
      maxItems ≤ 0 ∨ ∀ item ∈ items,
        item.providerId ≠ providerId ∧ item.providerId ≠ Text.stripped providerId := by
  rw [firstIds_eq_nil, firstIds_eq_nil, ← or_and_left]
  simp only [forall_and]

theorem not_drainSound (hi : (items.map ProviderAuthQueueItem.queueId).Nodup)
    (h : planProviderDrain providerId leases items maxItems now stale = .ok plan)
    (hne : Text.stripped providerId ≠ providerId)
    (hc : Contested providerId leases items maxItems now stale) :
    ¬DrainSound providerId leases items maxItems now stale plan := by
  intro hsound
  have ⟨_, auth, ha, _, hdisp, hids⟩ := planProviderDrain_selects h
  have ⟨hp, hs⟩ := selects_of ha
  have hu : auth.disposition = .useAuth := hs.available.mpr <| by
    have ⟨lease, hlease, hlid, hlav⟩ := hc.available
    exact ⟨lease, List.mem_filter.mpr ⟨hlease, by simpa [hp] using hlid⟩, hlav⟩
  have ⟨auth', ha', _, lease, _, hbinds, _, _, hsel⟩ := hsound.authenticated (hdisp.trans hu)
  obtain rfl : auth = auth' := Except.ok.inj (ha.symm.trans ha')
  rw [hids, if_pos hu, hbinds.provider, hp, firstIds_eq_iff hi hne.symm,
    firstIds_both_nil] at hsel
  have ⟨item, hitem, hid⟩ := hc.queued
  cases hsel
  case inl hle => exact absurd hc.bounded (not_lt.mpr hle)
  case inr hno =>
    cases hid
    case inl hraw      => exact (hno item hitem).left hraw
    case inr hstripped => exact (hno item hitem).right hstripped

theorem drainSound_iff (hl : (leases.map fun l => (l.providerId, l.surface)).Nodup)
    (hi : (items.map ProviderAuthQueueItem.queueId).Nodup)
    (h : planProviderDrain providerId leases items maxItems now stale = .ok plan) :
    DrainSound providerId leases items maxItems now stale plan ↔
      (Text.stripped providerId = providerId ∨
        ¬Contested providerId leases items maxItems now stale) := by
  constructor
  case mp =>
    intro hsound
    by_contra hc
    rw [not_or, not_not] at hc
    exact not_drainSound hi h hc.left hc.right hsound
  case mpr =>
    intro hc
    have ⟨_, auth, ha, hdigest, hdisp, hids⟩ := planProviderDrain_selects h
    have ⟨hp, hs⟩ := selects_of ha
    constructor
    case selects =>
      intro hsel
      by_contra hd
      rw [hids, if_neg (hdisp ▸ hd)] at hsel
      exact hsel rfl
    case authenticated =>
      intro hd
      have hu : auth.disposition = .useAuth := hdisp.symm.trans hd
      have ⟨lease, hlease, hbinds, hav, hrank⟩ := hs.bound hu
      refine ⟨auth, ha, hdigest, lease, hlease, hbinds, hav, hrank, ?_⟩
      rw [hids, if_pos hu, hbinds.provider, hp]
      cases hc
      case inl he => rw [he]
      case inr hno =>
        have hnil : firstIds providerId items maxItems = [] ∧
            firstIds (Text.stripped providerId) items maxItems = [] := firstIds_both_nil.mpr <| by
          by_contra hq
          push Not at hq
          have ⟨hpos, item, hitem, hid⟩ := hq
          apply hno
          refine ⟨⟨lease, hlease, hbinds.provider.trans hp, hav⟩, hpos, item, hitem, ?_⟩
          by_contra hn
          rw [not_or] at hn
          exact hn.right (hid hn.left)
        exact hnil.left.trans hnil.right.symm
    case orderFree => exact fun _ _ hpl hpi => planProviderDrain_perm hl hi hpl hpi h

end Plan

-- A valid decision gives a plan if the selected ids stay different when they are stripped.
theorem exists_plan_of_select (hb : ¬Text.Blank providerId) (hm : 0 ≤ maxItems)
    (ha : selectProviderAuthPath providerId leases now stale = .ok auth) (hv : auth.Valid)
    (hd : Guard.StrippedSha256 auth.decisionDigest)
    (hu : Guard.Stripped (true, firstIds providerId items maxItems)) :
    ∃ plan, planProviderDrain providerId leases items maxItems now stale = .ok plan := by
  let provisional : ProviderDrainPlan := {
    providerId,
    authDecisionDigest       := auth.decisionDigest,
    disposition              := auth.disposition,
    queueDepth               := (queueOf providerId items).length,
    selectedQueueIds         :=
      if auth.disposition = .useAuth then firstIds providerId items maxItems else [],
    humanInteractionRequired := auth.humanInteractionRequired,
    humanActionRef           := auth.humanActionRef }
  have hvalid (digest : String) :
      ({ provisional with planDigest := digest } : ProviderDrainPlan).Valid := {
    provider    := hb
    digest      := hd
    unique      := by
      by_cases hd : auth.disposition = .useAuth
      · simpa [provisional, hd] using hu
      · simp [provisional, hd, Guard.Stripped]
    depth       := by
      by_cases hd : auth.disposition = .useAuth
      · simp [provisional, hd, firstIds]
      · simp [provisional, hd]
    selects     := by
      by_cases hd : auth.disposition = .useAuth
      · exact .inl hd
      · exact .inr (if_neg hd)
    required    := hv.required
    notRequired := hv.notRequired
    noSecrets   := unset₃
    noAuthority := rfl
    noExecution := rfl }
  refine ⟨{ provisional with planDigest := sha256Digest provisional.payload }, ?_⟩
  rw [planProviderDrain, Py.require_of hm, Except.ok_bind, ha, Except.ok_bind]
  have h₁ := (hvalid "").checked
  have h₂ := (hvalid (sha256Digest provisional.payload)).checked
  exact (congrArg (· >>= _) h₁).trans h₂

-- The plan of a provider with one lease, which is available.
theorem exists_plan_of_available (hb : ¬Text.Blank providerId) (hm : 0 ≤ maxItems)
    (hp : lease.providerId = Text.stripped providerId) (hs : lease.state = .authAvailable)
    (hu : Guard.Stripped (true, firstIds providerId items maxItems)) :
    ∃ plan, planProviderDrain providerId [lease] items maxItems none none = .ok plan := by
  have ⟨auth, hauth, hv, hd⟩ : ∃ auth, finalizeAuthPath (Text.stripped providerId) .useAuth
      ["provider_auth_evidence_available",
        if lease.surface = .connectorApi then "connector_first"
        else "reuse_existing_browser_session"] (some lease) = .ok auth ∧ auth.Valid ∧
      Guard.StrippedSha256 auth.decisionDigest :=
    finalizeAuthPath_valid (hp ▸ lease.providerId_not_blank)
  have hone : leasesOf (Text.stripped providerId) [lease] = [lease] := by
    simp [leasesOf, hp]
  have hw : withState none none lease = .ok (lease, .authAvailable) :=
    withState_eq_ok.mpr ⟨rfl, congrArg Except.ok hs⟩
  refine exists_plan_of_select hb hm (selectProviderAuthPath_eq_ok.mpr ⟨hb, ?_⟩) hv hd hu
  rw [hone, if_neg (List.cons_ne_nil _ _)]
  refine ⟨[(lease, .authAvailable)], ?_, ?_⟩
  · rw [List.mapM_cons, hw]
    rfl
  · simpa [leasesIn, authPathAmong] using hauth

@[reducible]
def noonLease : @ProviderAuthLease IsoFormat.hours :=
  letI := IsoFormat.hours
  { providerId         := "vercel"
    surface            := .connectorApi
    state              := .authAvailable
    generation         := 0
    lastObservedAt     := "2026-01-01T12:00:00+00:00"
    lastEvidenceRef    := "evidence://login"
    lastEvidenceDigest := "sha256:" ++ .ofList (List.replicate 64 'a')
    version            := rfl
    nonempty           := by decide
    observed           := by decide
    isSha256           := by decide
    genesis            := by decide
    previous           := by simp
    noSecrets          := unset₃
    noAuthority        := rfl }

def firstQueueItem : ProviderAuthQueueItem where
  queueId              := "queue-1"
  providerId           := "vercel"
  workId               := "work-1"
  repository           := "owner/repository"
  authorityRef         := "authority://1"
  sourceRevision       := "revision-1"
  requestedActions     := ["deploy"]
  requiredCapabilities := ["deployment"]
  version              := rfl
  nonempty             := by decide
  unique               := by decide
  noSecrets            := unset₃
  noAuthority          := rfl

omit [Sha256] [IsoFormat] in
-- The id that the caller hands over is stripped for the leases and not for the items: the work
-- that is queued for the authenticated provider is not found.
theorem paddedProvider_drains_nothing :
    letI := Sha256.blind
    letI := IsoFormat.hours
    ∃ plan, planProviderDrain "vercel " [noonLease] [firstQueueItem] 1 none none = .ok plan ∧
      ¬DrainSound "vercel " [noonLease] [firstQueueItem] 1 none none plan := by
  let := Sha256.blind
  let := IsoFormat.hours
  have hids : firstIds "vercel " [firstQueueItem] 1 = [] := by
    simp [firstIds, queueOf, firstQueueItem]
  have ⟨plan, h⟩ : ∃ plan,
      planProviderDrain "vercel " [noonLease] [firstQueueItem] 1 none none = .ok plan :=
    exists_plan_of_available (by decide) (by decide) rfl rfl (by rw [hids]; decide)
  refine ⟨plan, h, not_drainSound (by decide) h (by decide) ?_⟩
  exact ⟨⟨noonLease, List.mem_cons_self, rfl, rfl⟩, by decide, firstQueueItem,
    List.mem_cons_self, .inr rfl⟩

omit [Sha256] [IsoFormat] in
theorem drainSound_iff_noon :
    letI := Sha256.blind
    letI := IsoFormat.hours
    ∃ plan, planProviderDrain "vercel" [noonLease] [firstQueueItem] 1 none none = .ok plan ∧
      DrainSound "vercel" [noonLease] [firstQueueItem] 1 none none plan := by
  let := Sha256.blind
  let := IsoFormat.hours
  have hids : firstIds "vercel" [firstQueueItem] 1 = ["queue-1"] := by
    simp [firstIds, queueOf, firstQueueItem]
  have ⟨plan, h⟩ : ∃ plan,
      planProviderDrain "vercel" [noonLease] [firstQueueItem] 1 none none = .ok plan :=
    exists_plan_of_available (by decide) (by decide) rfl rfl (by rw [hids]; decide)
  exact ⟨plan, h, (drainSound_iff (by decide) (by decide) h).mpr (.inl rfl)⟩

end GeneralExecution
