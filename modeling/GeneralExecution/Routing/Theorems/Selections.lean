import GeneralExecution.Routing.Symbiosis

namespace GeneralExecution

variable {envelope : UnattendedAuthorityEnvelope} {work : UnattendedWorkItem}
variable {executors : List ExecutorCapability} {usage : ControllerUsage} {e e' : ExecutorCapability}

theorem budgetRejection_eq_none :
    budgetRejection envelope usage e = none ↔
      (e.requiresWork = true → usage.workInvocationsUsed < envelope.maxWorkInvocations) ∧
      (e.paid = true → usage.paidSpendCents + e.estimatedCostCents ≤ envelope.maxPaidSpendCents) := by
  unfold budgetRejection
  split
  case isTrue h  => simp [h]
  case isFalse h =>
    split
    case isTrue h' => simp [h']
    case isFalse h' =>
      simp only [not_and, not_le, not_lt] at h h'
      exact ⟨fun _ => ⟨h, h'⟩, fun _ => rfl⟩

-- The executors that the Work-Sparse selection chooses among.
structure Admits (envelope : UnattendedAuthorityEnvelope) (work : UnattendedWorkItem)
    (executors : List ExecutorCapability) (usage : ControllerUsage) (e : ExecutorCapability) :
    Prop where
  given        : e ∈ executors
  capable      : work.requiredCapabilities ⊆ e.capabilities
  available    : e.available = true
  withinBudget : budgetRejection envelope usage e = none

-- What stands behind the dispatch of an executor.
structure Dispatches (envelope : UnattendedAuthorityEnvelope) (work : UnattendedWorkItem)
    (executors : List ExecutorCapability) (usage : ControllerUsage) (e : ExecutorCapability) :
    Prop extends Admits envelope work executors usage e where
  authorityRef : work.authorityRef = envelope.authorityRef
  repository   : work.repository ∈ envelope.allowedRepositories
  allowed      : work.requestedActions ⊆ envelope.allowedActions
  notForbidden : ∀ a ∈ work.requestedActions, a ∉ envelope.forbiddenActions
  unstarted    : work.existingExecutionRef = none
  least        : ∀ e', Admits envelope work executors usage e' → e.sparseKey ≤ e'.sparseKey

theorem mem_admissible :
    e ∈ ((executors.filter fun e => work.requiredCapabilities ⊆ e.capabilities).filter
        (·.available)).filter (fun e => budgetRejection envelope usage e = none) ↔
      Admits envelope work executors usage e := by
  simp only [List.mem_filter, decide_eq_true_eq]
  exact ⟨fun ⟨⟨⟨hg, hc⟩, ha⟩, hb⟩ => ⟨hg, hc, ha, hb⟩, fun h =>
    ⟨⟨⟨h.given, h.capable⟩, h.available⟩, h.withinBudget⟩⟩

-- What is paid for the executor fits into what the envelope has left.
theorem Admits.affordable (h : Admits envelope work executors usage e) :
    e.estimatedCostCents ≤ envelope.maxPaidSpendCents - usage.paidSpendCents := by
  have hb := (budgetRejection_eq_none.mp h.withinBudget).right
  cases hp : e.paid
  case false =>
    rw [e.free hp]
    exact Nat.zero_le _
  case true =>
    have := hb hp
    omega

section Substitution

variable {predicate : String} {methods : List CapabilityMethod} {allowed authorities : List String}
variable {maxPaid minRank : Nat} {m : CapabilityMethod}

-- The methods that the substitution chooses among.
structure Eligible (predicate : String) (methods : List CapabilityMethod)
    (allowed authorities : List String) (maxPaid minRank : Nat) (m : CapabilityMethod) : Prop where
  given       : m ∈ methods
  permitted   : m.methodId ∈ allowed.map Text.stripped
  covered     : predicate ∈ m.evidencePredicates
  authorized  : m.authorityRefs ⊆ authorities.map Text.stripped
  available   : m.available = true
  affordable  : m.paidSpendCents ≤ maxPaid
  quality     : minRank ≤ m.evidenceQualityRank

theorem mem_eligible :
    m ∈ methods.filter (fun m => methodRejection predicate (allowed.map Text.stripped)
        (authorities.map Text.stripped) maxPaid minRank m = []) ↔
      Eligible predicate methods allowed authorities maxPaid minRank m := by
  simp only [List.mem_filter, decide_eq_true_eq, methodRejection, List.append_eq_nil_iff,
    ite_eq_left_iff, List.cons_ne_nil, imp_false, not_not]
  exact ⟨fun ⟨hg, ⟨⟨⟨⟨ha, hc⟩, hr⟩, hv⟩, hp⟩, hq⟩ => ⟨hg, ha, hc, hr, hv, hp, hq⟩, fun h =>
    ⟨h.given, ⟨⟨⟨⟨h.permitted, h.covered⟩, h.authorized⟩, h.available⟩, h.affordable⟩, h.quality⟩⟩

-- What the arguments of a selection have to satisfy.
structure Selectable (predicate : String) (methods : List CapabilityMethod)
    (allowed authorities : List String) : Prop where
  predicate   : ¬Text.Blank predicate
  allowed     : Guard.Stripped (false, allowed)
  authorities : Guard.Stripped (false, authorities)
  distinct    : (methods.map (·.methodId)).Nodup

-- The method `m` is selected.
structure Substitutes (predicate : String) (methods : List CapabilityMethod)
    (allowed authorities : List String) (maxPaid minRank : Nat) (m : CapabilityMethod) : Prop
    extends Eligible predicate methods allowed authorities maxPaid minRank m where
  least : ∀ m', Eligible predicate methods allowed authorities maxPaid minRank m' →
    m.substituteKey ≤ m'.substituteKey

theorem selectCapabilitySubstitute_eq_ok {d : CapabilitySubstitutionDecision}
    (h : selectCapabilitySubstitute predicate methods allowed authorities maxPaid minRank = .ok d) :
    Selectable predicate methods allowed authorities ∧
      match d.selectedMethodId with
      | none    => ∀ m, ¬Eligible predicate methods allowed authorities maxPaid minRank m
      | some id =>
        ∃ m, Substitutes predicate methods allowed authorities maxPaid minRank m ∧ m.methodId = id := by
  simp only [selectCapabilitySubstitute, Except.bind_eq_ok, Py.require_eq_ok, exists_const,
    Except.pure_eq_ok] at h
  obtain ⟨⟨hp⟩, -, ⟨hs⟩, -, hd, rfl⟩ := h
  constructor
  case left =>
    exact ⟨hp ("predicate", predicate) (by simp), hs ("allowed_method_ids", false, allowed) (by simp),
      hs ("active_authority_refs", false, authorities) (by simp), hd⟩
  case right =>
  dsimp only
  cases hm : (methods.filter fun m => methodRejection predicate (allowed.map Text.stripped)
    (authorities.map Text.stripped) maxPaid minRank m = []).argmin CapabilityMethod.substituteKey
  case none =>
    intro m he
    have := mem_eligible.mpr he
    rw [List.argmin_eq_none.mp hm] at this
    cases this
  case some m =>
    exact ⟨m, ⟨mem_eligible.mp <| List.argmin_mem hm,
      fun m' h' => List.le_of_mem_argmin (mem_eligible.mpr h') hm⟩, rfl⟩

theorem Selectable.select_eq_ok (h : Selectable predicate methods allowed authorities)
    (maxPaid minRank : Nat) :
    ∃ d, selectCapabilitySubstitute predicate methods allowed authorities maxPaid minRank =
      .ok d := by
  have hp : ∀ x ∈ [("predicate", predicate)], ¬Text.Blank x.2 := by
    simpa using h.predicate
  have hs : ∀ x ∈ [("allowed_method_ids", false, allowed),
      ("active_authority_refs", false, authorities)], Guard.Stripped x.2 := by
    simpa using ⟨h.allowed, h.authorities⟩
  simp only [selectCapabilitySubstitute, Guard.nonempty_of hp, Guard.stripped_of hs,
    Except.bind_eq_ok, Py.require_eq_ok, exists_const, Except.ok_bind]
  exact ⟨_, h.distinct, rfl⟩

end Substitution

section Decision

variable [Sha256]

theorem decideWorkSparseRoute_dispatch {d : WorkSparseControllerDecision}
    (hd : decideWorkSparseRoute envelope work executors usage = d) (h : d.disposition = .dispatch) :
    ∃ e, Dispatches envelope work executors usage e ∧ d.selectedExecutorId = some e.executorId := by
  dsimp only [decideWorkSparseRoute] at hd
  split at hd
  case isTrue => subst hd; cases h
  case isFalse hauthority =>
  split at hd
  case isTrue => subst hd; cases h
  case isFalse hrepository =>
  split at hd
  case isTrue => subst hd; cases h
  case isFalse hforbidden =>
  split at hd
  case isTrue => subst hd; cases h
  case isFalse hunknown =>
  split at hd
  case h_1 => subst hd; cases h
  case h_2 hstarted =>
  split at hd
  case isTrue => subst hd; cases h
  case isFalse =>
  split at hd
  case isTrue => subst hd; cases h
  case isFalse =>
  split at hd
  case h_1 => subst hd; cases h
  case h_2 e he =>
    subst hd
    exact ⟨e, {
      toAdmits     := mem_admissible.mp <| List.argmin_mem he
      authorityRef := not_not.mp hauthority
      repository   := not_not.mp hrepository
      allowed      := Typed.difference_eq_nil.mp <| not_not.mp hunknown
      notForbidden := by
        simpa using Typed.sorted_eq_nil.mp <| not_not.mp hforbidden
      unstarted    := hstarted
      least e' h   := List.le_of_mem_argmin (mem_admissible.mpr h) he }, rfl⟩

end Decision

section Composition

variable {predicate authorityRef : String} {hp : ¬Text.Blank predicate} {ha : ¬Text.Blank authorityRef}

-- What the substitution compares of the executors.
def ExecutorCapability.substituteKey (e : ExecutorCapability) : ℕ ×ₗ ℕ ×ₗ String :=
  toLex (e.estimatedCostCents, toLex (e.penalizedRank, e.executorId))

theorem methodForExecutor_key_le :
    (methodForExecutor predicate authorityRef hp ha e).substituteKey ≤
        (methodForExecutor predicate authorityRef hp ha e').substituteKey ↔
      e.substituteKey ≤ e'.substituteKey := by
  simp [CapabilityMethod.substituteKey, ExecutorCapability.substituteKey, methodForExecutor,
    Prod.Lex.toLex_le_toLex]

-- The executors that the substitution chooses among. It has their identifiers stripped, but not
-- those of the methods that it looks up among them.
structure Substitutable (envelope : UnattendedAuthorityEnvelope)
    (executors : List ExecutorCapability) (usage : ControllerUsage) (e : ExecutorCapability) :
    Prop where
  given      : e ∈ executors
  unpadded   : Text.stripped e.executorId = e.executorId
  available  : e.available = true
  affordable : e.estimatedCostCents ≤ envelope.maxPaidSpendCents - usage.paidSpendCents

-- The substitution selects the executor `e` as well.
structure SelectorsAgree (envelope : UnattendedAuthorityEnvelope)
    (executors : List ExecutorCapability) (usage : ControllerUsage) (predicate : String)
    (e : ExecutorCapability) : Prop where
  predicate    : ¬Text.Blank predicate
  distinct     : (executors.map fun e => Text.stripped e.executorId).Nodup
  authorityRef : Text.stripped envelope.authorityRef = envelope.authorityRef
  unpadded     : Text.stripped e.executorId = e.executorId
  least        : ∀ e', Substitutable envelope executors usage e' → e.substituteKey ≤ e'.substituteKey

theorem eligible_iff {maxPaid : Nat} {m : CapabilityMethod} :
    Eligible predicate (executors.map (methodForExecutor predicate authorityRef hp ha))
        (executors.map (·.executorId)) [authorityRef] maxPaid 1 m ↔
      ∃ e ∈ executors, m = methodForExecutor predicate authorityRef hp ha e ∧
        Text.stripped e.executorId = e.executorId ∧ Text.stripped authorityRef = authorityRef ∧
        e.available = true ∧ e.estimatedCostCents ≤ maxPaid := by
  constructor
  case mp =>
    intro h
    obtain ⟨e, he, hm⟩ := List.mem_map.mp h.given
    subst hm
    obtain ⟨id, hid, hs⟩ := List.mem_map.mp h.permitted
    refine ⟨e, he, rfl, ?_, ?_, h.available, h.affordable⟩
    · have hs : Text.stripped id = e.executorId := hs
      rw [← hs, Text.stripped_stripped]
    · have ha : authorityRef ∈ [Text.stripped authorityRef] := h.authorized (by simp [methodForExecutor])
      exact (List.mem_singleton.mp ha).symm
  case mpr =>
    rintro ⟨e, he, hm, hid, hr, hv, hc⟩
    subst hm
    constructor
    case given      => exact List.mem_map_of_mem he
    case permitted  => exact List.mem_map.mpr ⟨e.executorId, List.mem_map_of_mem he, hid⟩
    case covered    => exact List.mem_singleton_self _
    case authorized => simp [methodForExecutor, hr]
    case available  => exact hv
    case affordable => exact hc
    case quality    => exact le_refl _

variable {hr : ¬Text.Blank envelope.authorityRef}

theorem SelectorsAgree.of_substitutes {m : CapabilityMethod}
    (hs : Selectable predicate (executors.map (methodForExecutor predicate envelope.authorityRef hp hr))
      (executors.map (·.executorId)) [envelope.authorityRef])
    (hm : Substitutes predicate
      (executors.map (methodForExecutor predicate envelope.authorityRef hp hr))
      (executors.map (·.executorId)) [envelope.authorityRef]
      (envelope.maxPaidSpendCents - usage.paidSpendCents) 1 m)
    (he : e ∈ executors) (hid : m.methodId = e.executorId) :
    SelectorsAgree envelope executors usage predicate e := by
  have ⟨e', he', hme, hu, ha, _, _⟩ := eligible_iff.mp hm.toEligible
  subst hme
  have hd : (executors.map (·.executorId)).Nodup := by
    have := hs.distinct
    rwa [List.map_map] at this
  have hee : e' = e := List.inj_on_of_nodup_map hd he' he hid
  subst hee
  constructor
  case predicate    => exact hp
  case distinct     => simpa [Function.comp_def] using hs.allowed.right.right
  case authorityRef => exact ha
  case unpadded     => exact hu
  case least        =>
    intro e'' h
    exact methodForExecutor_key_le.mp <| hm.least _ <| eligible_iff.mpr
      ⟨e'', h.given, rfl, h.unpadded, ha, h.available, h.affordable⟩

theorem SelectorsAgree.selectable (h : SelectorsAgree envelope executors usage predicate e)
    (he : e ∈ executors) (hd : (executors.map (·.executorId)).Nodup)
    (hr : ¬Text.Blank envelope.authorityRef) :
    Selectable predicate
      (executors.map (methodForExecutor predicate envelope.authorityRef h.predicate hr))
      (executors.map (·.executorId)) [envelope.authorityRef] := by
  constructor
  case predicate   => exact h.predicate
  case authorities => exact Guard.stripped_singleton hr
  case distinct    => rwa [List.map_map]
  case allowed     =>
    refine ⟨?_, .inr ?_, by simpa [Function.comp_def] using h.distinct⟩
    · intro id hid
      have ⟨e', _, hid⟩ := List.mem_map.mp hid
      subst hid
      exact e'.nonempty ("executor_id", e'.executorId) (by simp)
    · exact List.ne_nil_of_mem (List.mem_map_of_mem he)

section Route

variable [Sha256] {lineage : Option InternalLineageBinding} {routing : Option ProviderRoutingAuthority}
variable {resources : List ProviderResource} {bindings : List ExecutorProviderBinding}

-- A route that is ready was chosen twice.
theorem composeSymbioticRoute_ready {d : SymbioticRouteDecision}
    (h : composeSymbioticRoute envelope work executors predicate usage lineage routing resources
      bindings = .ok d)
    (hr : d.readyForExistingAdmission = true) :
    ∃ e s, Dispatches envelope work executors usage e ∧
      SelectorsAgree envelope executors usage predicate e ∧
      routeSelected work (decideWorkSparseRoute envelope work executors usage) s e.executorId lineage
        routing resources bindings = .ok d := by
  simp only [composeSymbioticRoute, Except.bind_eq_ok] at h
  obtain ⟨⟨hp⟩, _, h⟩ := h
  split at h
  case isTrue =>
    rw [← Except.pure_eq_ok.mp h] at hr
    cases hr
  case isFalse hw =>
  obtain ⟨e, he, hid⟩ := decideWorkSparseRoute_dispatch rfl (not_not.mp hw)
  simp only [Except.bind_eq_ok] at h
  obtain ⟨s, hs, h⟩ := h
  split at h
  case isTrue =>
    rw [← Except.pure_eq_ok.mp h] at hr
    cases hr
  case isFalse =>
  simp only [Except.bind_eq_ok, Py.require_eq_ok, exists_const, Py.ofOption_eq_ok, hid,
    Option.some.injEq] at h
  obtain ⟨hsame, _, hsel, h⟩ := h
  subst hsel
  obtain ⟨hsel, hm⟩ := selectCapabilitySubstitute_eq_ok hs
  rw [hsame] at hm
  obtain ⟨m, hm, hmid⟩ := hm
  exact ⟨e, s, he, .of_substitutes hsel hm he.given hmid, h⟩

theorem SelectorsAgree.compose (h : SelectorsAgree envelope executors usage predicate e)
    (hd : (executors.map (·.executorId)).Nodup)
    (hw : (decideWorkSparseRoute envelope work executors usage).disposition = .dispatch)
    (hid : (decideWorkSparseRoute envelope work executors usage).selectedExecutorId =
      some e.executorId) (he : Admits envelope work executors usage e)
    (lineage : Option InternalLineageBinding) (routing : Option ProviderRoutingAuthority)
    (resources : List ProviderResource) (bindings : List ExecutorProviderBinding) :
    ∃ s, composeSymbioticRoute envelope work executors predicate usage lineage routing resources
        bindings =
      routeSelected work (decideWorkSparseRoute envelope work executors usage) s e.executorId lineage
        routing resources bindings := by
  have ha : ¬Text.Blank envelope.authorityRef :=
    envelope.nonempty ("authority_ref", envelope.authorityRef) (by simp)
  have ⟨s, hs⟩ := (h.selectable he.given hd ha).select_eq_ok
    (envelope.maxPaidSpendCents - usage.paidSpendCents) 1
  have hself : Eligible predicate _ _ _ (envelope.maxPaidSpendCents - usage.paidSpendCents) 1
      (methodForExecutor predicate envelope.authorityRef h.predicate ha e) := eligible_iff.mpr
    ⟨e, he.given, rfl, h.unpadded, h.authorityRef, he.available, he.affordable⟩
  have hm := (selectCapabilitySubstitute_eq_ok hs).right
  cases hsel : s.selectedMethodId
  case none =>
    rw [hsel] at hm
    exact absurd hself (hm _)
  case some id =>
    rw [hsel] at hm
    have ⟨m, hm, hmid⟩ := hm
    have ⟨e', he', hme, hu, _, hv, hc⟩ := eligible_iff.mp hm.toEligible
    subst hme
    have hkey : e.substituteKey = e'.substituteKey :=
      le_antisymm (h.least e' ⟨he', hu, hv, hc⟩) (methodForExecutor_key_le.mp <| hm.least _ hself)
    have hee : e.executorId = id := hmid ▸ congrArg (fun key => (ofLex (ofLex key).2).2) hkey
    subst hee
    refine ⟨s, ?_⟩
    have hdef : s.deferred = false := by
      rw [s.selection, hsel]
      rfl
    simp [composeSymbioticRoute, Py.check_of h.predicate, hw, hid, hdef, hsel, hs, Py.require,
      Py.ofOption, Except.ensure, Except.ofOption]

end Route

end Composition

end GeneralExecution
