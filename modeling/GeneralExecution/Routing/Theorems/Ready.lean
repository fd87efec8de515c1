import GeneralExecution.Routing.Protocol
import GeneralExecution.Routing.Theorems.Agreement

namespace GeneralExecution

section Candidates

variable {required : List String} {candidates selected : List CapabilityProjection}

theorem sublist_of_mem_combinations {α : Type} {as combo : List α} {n : Nat}
    (h : combo ∈ combinations n as) : combo.Sublist as := by
  induction n, as using combinations.induct generalizing combo
  case case1 =>
    rw [combinations, List.mem_singleton] at h
    subst h
    exact List.nil_sublist _
  case case2 => cases h
  case case3 n a as ih₁ ih₂ =>
    cases List.mem_append.mp h
    case inl h =>
      have ⟨_, hm, hc⟩ := List.mem_map.mp h
      exact hc ▸ (ih₁ hm).cons_cons a
    case inr h => exact (ih₂ h).cons a

theorem mem_covering {combo : List CapabilityProjection} (h : combo ∈ covering required candidates) :
    combo ⊆ candidates ∧ Covers required combo := by
  unfold covering at h
  cases hf : ((List.range candidates.length).map fun n =>
    (combinations (n + 1) candidates).filter (Covers required ·)).find? (· ≠ [])
  case none =>
    dsimp only at h
    rw [hf] at h
    cases h
  case some combos =>
    dsimp only at h
    rw [hf, Option.getD_some] at h
    have ⟨n, _, hn⟩ := List.mem_map.mp <| List.mem_of_find?_eq_some hf
    subst hn
    have ⟨hc, hr⟩ := List.mem_filter.mp h
    exact ⟨(sublist_of_mem_combinations hc).subset, of_decide_eq_true hr⟩

-- What is selected of the candidates, if anything is, is what is required.
theorem selectCandidates_eq_ok {uncovered : List String} {projection registry authority : Option String}
    (h : selectCandidates required candidates projection registry authority =
      .ok (selected, uncovered))
    (hs : selected ≠ []) : selected ⊆ candidates ∧ Covers required selected := by
  unfold selectCandidates at h
  split at h
  case isTrue =>
    cases h
    exact absurd rfl hs
  case isFalse =>
    simp only [Except.bind_eq_ok, Py.require_eq_ok, exists_const] at h
    obtain ⟨_, _, _, h⟩ := h
    cases hm : (covering required candidates).argmin comboKey
    case none =>
      simp only [hm, Except.pure_eq_ok, Prod.mk.injEq] at h
      exact absurd h.left.symm hs
    case some combo =>
      simp only [hm, Except.pure_eq_ok, Prod.mk.injEq] at h
      obtain ⟨hsub, hcov⟩ := mem_covering <| List.argmin_mem hm
      have hp : combo.Perm selected := h.left ▸ (List.mergeSort_perm ..).symm
      constructor
      case left  => exact fun c hc => hsub <| hp.mem_iff.mpr hc
      case right =>
        intro id hid
        obtain ⟨c, hc, hm⟩ := hcov id hid
        exact ⟨c, hp.mem_iff.mp hc, hm⟩

end Candidates

section Executors

variable {predicate : String} {executors eligible : List ExecutorCapability}
variable {resources : List ResourceObservation} {profiles : List ExecutionMethodProfile}
variable {minRank : Int} {e : ExecutorCapability}

-- What is known of an executor that is not rejected.
structure Resolved (predicate : String) (resources : List ResourceObservation)
    (profiles : List ExecutionMethodProfile) (minRank : Int) (e : ExecutorCapability) : Prop where
  reported : ∀ o ∈ resources, o.executorId = e.executorId → o.available = true
  declared : (∀ o ∈ resources, o.executorId ≠ e.executorId) → e.available = true
  profiled : ∃ p ∈ profiles, p.executorId = e.executorId ∧ predicate ∈ p.evidencePredicates ∧
    minRank ≤ p.evidenceQualityRank

theorem resolveExecutor_eq_ok {r : ExecutorResolution} (hu : (resources.map (·.executorId)).Nodup)
    (h : resolveExecutor predicate resources profiles minRank e = .ok r) (hr : r.reasons = []) :
    r.executor = e ∧ Resolved predicate resources profiles minRank e := by
  simp only [resolveExecutor, Except.bind_eq_ok, Py.require_eq_ok, exists_const,
    Except.pure_eq_ok] at h
  obtain ⟨ha, h⟩ := h
  subst h
  obtain ⟨hp, ho⟩ := List.append_eq_nil_iff.mp hr
  refine ⟨rfl, ?_⟩
  constructor
  case reported =>
    intro o hm hid
    cases hf : resources.find? (·.executorId = e.executorId)
    case none => exact absurd (decide_eq_true hid) <| List.find?_eq_none.mp hf o hm
    case some o' =>
      have hid' : o'.executorId = e.executorId := by simpa using List.find?_some hf
      have hoo : o' = o :=
        List.inj_on_of_nodup_map hu (List.mem_of_find?_eq_some hf) hm (hid'.trans hid.symm)
      subst hoo
      rw [hf] at ho
      simpa using ho
  case declared =>
    intro hn
    exact ha <| List.find?_eq_none.mpr fun o hm => by simpa using hn o hm
  case profiled =>
    cases hf : profiles.find? (·.executorId = e.executorId)
    case none => simp [hf] at hp
    case some p =>
      simp only [hf, List.append_eq_nil_iff, ite_eq_left_iff, List.cons_ne_nil, imp_false,
        not_not] at hp
      exact ⟨p, List.mem_of_find?_eq_some hf, by simpa using List.find?_some hf, hp⟩

theorem resolveExecutors_eq_ok {findings rejected : List String}
    (h : resolveExecutors predicate executors resources profiles minRank =
      .ok (eligible, findings, rejected))
    (he : e ∈ eligible) :
    ∃ e' ∈ executors, e = { e' with available := true } ∧
      Resolved predicate resources profiles minRank e' := by
  simp only [resolveExecutors, Except.bind_eq_ok, Py.require_eq_ok, exists_const,
    Except.pure_eq_ok, Prod.mk.injEq] at h
  obtain ⟨_, hu, _, _, resolutions, hm, hel, _, _⟩ := h
  subst hel
  obtain ⟨r, hr, hre⟩ := List.mem_map.mp he
  obtain ⟨hr, hreasons⟩ := List.mem_filter.mp hr
  obtain ⟨e', he', hf⟩ := Except.mem_mapM hm r hr
  obtain ⟨hee, hres⟩ := resolveExecutor_eq_ok hu hf (of_decide_eq_true hreasons)
  exact ⟨e', he', hee ▸ hre.symm, hres⟩

end Executors

section Providers

variable [Sha256] {lineage : InternalLineageBinding} {routing : ProviderRoutingAuthority}
variable {resources : List ProviderResource} {bindings : List ExecutorProviderBinding}

-- What a provider route selects a resource for.
structure Supplies (lineage : InternalLineageBinding) (routing : ProviderRoutingAuthority)
    (r : ProviderResource) : Prop where
  permitted   : r.resourceId ∈ routing.allowedResourceIds
  authorized  : lineage.requiredCapabilities ⊆ routing.allowedCapabilities
  capable     : lineage.requiredCapabilities ⊆ r.capabilities
  disposition : r.disposition = .available

omit [Sha256] in
theorem resourceRejection_eq_nil {r : ProviderResource} :
    resourceRejection lineage routing r = [] ↔ Supplies lineage routing r := by
  simp only [resourceRejection, List.append_eq_nil_iff, ite_eq_left_iff, List.cons_ne_nil,
    imp_false, not_not]
  constructor
  case mp =>
    intro ⟨⟨⟨hp, ha⟩, hc⟩, hd⟩
    refine ⟨hp, ha, hc, ?_⟩
    cases hr : r.disposition <;> simp [hr] at hd
    rfl
  case mpr =>
    intro h
    refine ⟨⟨⟨h.permitted, h.authorized⟩, h.capable⟩, ?_⟩
    rw [h.disposition]

theorem routeProviderTask_eq_ok {d : ProviderRouteDecision}
    (h : routeProviderTask lineage routing resources = .ok d) (hd : d.deferred = false) :
    ∃ r ∈ resources, d.selectedResourceId = some r.resourceId ∧ Supplies lineage routing r := by
  simp only [routeProviderTask, Except.bind_eq_ok, Py.require_eq_ok, exists_const,
    Except.pure_eq_ok] at h
  obtain ⟨_, h⟩ := h
  subst h
  dsimp only [provisionalRoute] at hd ⊢
  obtain ⟨r, hr⟩ := Option.isSome_iff_exists.mp (Option.isNone_eq_false_iff.mp hd)
  obtain ⟨hm, hs⟩ := List.mem_filter.mp <| List.mem_of_mem_head? hr
  exact ⟨r, (List.mergeSort_perm ..).mem_iff.mp hm, by rw [hr]; rfl,
    resourceRejection_eq_nil.mp (of_decide_eq_true hs)⟩

end Providers

section Route

variable [Sha256] {work : UnattendedWorkItem} {ws : WorkSparseControllerDecision}
variable {s : CapabilitySubstitutionDecision} {id : String} {lineage : Option InternalLineageBinding}
variable {routing : Option ProviderRoutingAuthority} {resources : List ProviderResource}
variable {bindings : List ExecutorProviderBinding} {d : SymbioticRouteDecision}

-- The resource that a route to an executor with a binding selects.
structure SuppliedBy (required : List String) (routing : Option ProviderRoutingAuthority)
    (resources : List ProviderResource) (b : ExecutorProviderBinding) (selected : Option String) :
    Prop where
  supplied : ∃ r ∈ resources, selected = some r.resourceId ∧ r.resourceId ∈ b.resourceIds ∧
    (∃ authority, routing = some authority ∧ r.resourceId ∈ authority.allowedResourceIds ∧
      required ⊆ authority.allowedCapabilities) ∧
    r.disposition = .available ∧ required ⊆ r.capabilities

omit [Sha256] in
theorem bindingFor_eq_ok {o : Option ExecutorProviderBinding} (h : bindingFor id bindings = .ok o) :
    ∀ b ∈ bindings, b.executorId = id → o = some b := by
  intro b hb hid
  simp only [bindingFor, Except.bind_eq_ok, Py.require_eq_ok, exists_const, Except.pure_eq_ok] at h
  obtain ⟨hl, h⟩ := h
  subst h
  have hm : b ∈ bindings.filter fun b => b.executorId = id :=
    List.mem_filter.mpr ⟨hb, decide_eq_true hid⟩
  cases hf : bindings.filter fun b => b.executorId = id
  case nil => simp [hf] at hm
  case cons b' bs =>
    simp only [hf, List.length_cons] at hl
    have hbs : bs = [] := List.length_eq_zero_iff.mp (by omega)
    rw [hf, hbs, List.mem_singleton] at hm
    rw [List.head?_cons, hm]

omit [Sha256] in
theorem ProviderRoutingAuthority.fields_of_new {authorityRef schemaVersion : String}
    {allowedResourceIds allowedCapabilities : List String} {authorityCreated : Bool}
    {r : ProviderRoutingAuthority}
    (h : new authorityRef allowedResourceIds allowedCapabilities authorityCreated schemaVersion =
      .ok r) :
    r.allowedResourceIds = allowedResourceIds ∧ r.allowedCapabilities = allowedCapabilities := by
  simp only [new, Except.bind_eq_ok, Except.pure_eq_ok] at h
  obtain ⟨_, _, _, _, _, _, _, _, h⟩ := h
  subst h
  exact ⟨rfl, rfl⟩

theorem routeSelected_ready
    (h : routeSelected work ws s id lineage routing resources bindings = .ok d)
    (hr : d.readyForExistingAdmission = true) :
    d.workSparse = ws ∧ d.substitution = some s ∧ d.selectedExecutorId = some id ∧
      ∀ b ∈ bindings, b.executorId = id →
        SuppliedBy work.requiredCapabilities routing resources b d.selectedResourceId := by
  simp only [routeSelected, Except.bind_eq_ok] at h
  obtain ⟨o, ho, h⟩ := h
  have hb := bindingFor_eq_ok ho
  cases o
  case none =>
    cases Except.pure_eq_ok.mp h
    exact ⟨rfl, rfl, rfl, fun b hm hid => absurd (hb b hm hid) (by simp)⟩
  case some binding =>
    simp only [Except.bind_eq_ok, Py.require_eq_ok, Py.ofOption_eq_ok, exists_const] at h
    obtain ⟨lineage, _, authority, ha, hreq, derived, hderived, route, hroute, h⟩ := h
    split at h
    case isTrue =>
      cases Except.pure_eq_ok.mp h
      cases hr
    case isFalse hdef =>
      cases Except.pure_eq_ok.mp h
      refine ⟨rfl, rfl, rfl, fun b hm hid => ⟨?_⟩⟩
      have hbb : binding = b := Option.some.inj (hb b hm hid)
      subst hbb
      obtain ⟨r, hr, hsel, hs⟩ := routeProviderTask_eq_ok hroute (Bool.eq_false_of_not_eq_true hdef)
      obtain ⟨hids, hcaps⟩ := ProviderRoutingAuthority.fields_of_new hderived
      obtain ⟨hp, hbound⟩ := List.mem_filter.mp (hids ▸ hs.permitted)
      exact ⟨r, hr, hsel, of_decide_eq_true hbound,
        ⟨authority, ha, hp, hreq ▸ hcaps ▸ hs.authorized⟩, hs.disposition, hreq ▸ hs.capable⟩

end Route

section Decision

variable [Sha256] {request : ExecutionProtocolRequest} {candidates : List CapabilityProjection}
variable {envelope : UnattendedAuthorityEnvelope} {executors : List ExecutorCapability}
variable {observations : List ResourceObservation} {profiles : List ExecutionMethodProfile}
variable {usage : ControllerUsage} {minRank : Int} {lineage : Option InternalLineageBinding}
variable {routing : Option ProviderRoutingAuthority} {resources : List ProviderResource}
variable {bindings : List ExecutorProviderBinding} {d : ExecutionProtocolDecision}

-- What a decision that is ready for admission promises of its executor.
structure ReadyExecutor (request : ExecutionProtocolRequest) (envelope : UnattendedAuthorityEnvelope)
    (observations : List ResourceObservation) (profiles : List ExecutionMethodProfile)
    (usage : ControllerUsage) (minRank : Int) (e : ExecutorCapability) : Prop
    extends Resolved request.evidencePredicate observations profiles minRank e where
  capable    : request.requiredExecutorCapabilities ⊆ e.capabilities
  workBudget : e.requiresWork = true → usage.workInvocationsUsed < envelope.maxWorkInvocations
  paidBudget :
    e.paid = true → usage.paidSpendCents + e.estimatedCostCents ≤ envelope.maxPaidSpendCents

structure ReadySafe (request : ExecutionProtocolRequest) (candidates : List CapabilityProjection)
    (envelope : UnattendedAuthorityEnvelope) (executors : List ExecutorCapability)
    (observations : List ResourceObservation) (profiles : List ExecutionMethodProfile)
    (usage : ControllerUsage) (minRank : Int) (routing : Option ProviderRoutingAuthority)
    (resources : List ProviderResource) (bindings : List ExecutorProviderBinding)
    (d : ExecutionProtocolDecision) : Prop where
  authorityRef : request.authorityRef = envelope.authorityRef
  repository   : request.repository ∈ envelope.allowedRepositories
  allowed      : request.requestedActions ⊆ envelope.allowedActions
  notForbidden : ∀ a ∈ request.requestedActions, a ∉ envelope.forbiddenActions
  projections  : ∃ selected ⊆ candidates, d.selectedCandidateIds = selected.map (·.candidateId) ∧
    Covers request.requiredCapabilityIds selected ∧ ∃ c ∈ selected, c.executionCapable = true
  executor     : ∃ e ∈ executors, d.selectedExecutorId = some e.executorId ∧
    ReadyExecutor request envelope observations profiles usage minRank e ∧
    ∀ b ∈ bindings, b.executorId = e.executorId →
      SuppliedBy request.requiredExecutorCapabilities routing resources b d.selectedResourceId

omit [Sha256] in
theorem UnattendedWorkItem.fields_of_new {work : UnattendedWorkItem}
    {workId objective repository sourceRevision authorityRef schemaVersion : String}
    {requiredCapabilities requestedActions : List String} {existingExecutionRef : Option String}
    (h : new workId objective repository sourceRevision authorityRef requiredCapabilities
      requestedActions existingExecutionRef schemaVersion = .ok work) :
    work.repository = repository ∧ work.authorityRef = authorityRef ∧
      work.requiredCapabilities = requiredCapabilities ∧ work.requestedActions = requestedActions := by
  simp only [new, Except.bind_eq_ok, Except.pure_eq_ok] at h
  have ⟨_, _, _, _, _, _, _, _, h⟩ := h
  subst h
  exact ⟨rfl, rfl, rfl, rfl⟩

omit [Sha256] in
theorem unroutedDecision_disposition {mode : InvocationMode} {disposition : ProtocolDisposition}
    {selectedIds uncovered findings rejected reasons : List String} {preserved : Bool}
    (h : unroutedDecision request mode disposition selectedIds uncovered findings rejected preserved
      reasons = .ok d) : d.disposition = disposition := by
  simp only [unroutedDecision, ExecutionProtocolDecision.new, Except.bind_eq_ok,
    Except.pure_eq_ok] at h
  have ⟨_, _, _, _, _, _, _, _, _, _, _, _, h⟩ := h
  rw [← h]

theorem routedDecision_eq_ok {mode : InvocationMode} {selectedIds findings rejected : List String}
    {route : SymbioticRouteDecision}
    (h : routedDecision request mode selectedIds findings rejected route = .ok d) :
    d.disposition = protocolDisposition route ∧ d.selectedCandidateIds = selectedIds ∧
      d.selectedExecutorId = route.selectedExecutorId ∧
      d.selectedResourceId = route.selectedResourceId := by
  simp only [routedDecision, ExecutionProtocolDecision.new, Except.bind_eq_ok,
    Except.pure_eq_ok] at h
  have ⟨_, _, _, _, _, _, _, _, _, _, _, _, h⟩ := h
  subst h
  exact ⟨rfl, rfl, rfl, rfl⟩

omit [Sha256] in
theorem protocolDisposition_ready {route : SymbioticRouteDecision}
    (h : protocolDisposition route = .readyForExistingAdmission) :
    route.readyForExistingAdmission = true := by
  unfold protocolDisposition at h
  split at h
  case h_1 => cases h
  case h_2 => cases h
  case h_3 =>
    split at h
    case isTrue hr => exact hr
    case isFalse   => cases h

-- A decision that is ready for admission keeps everything that the modules behind it promise.
theorem decideExecutionProtocol_ready
    (h : decideExecutionProtocol request candidates envelope executors observations profiles usage
      minRank lineage routing resources bindings = .ok d)
    (hr : d.disposition = .readyForExistingAdmission) :
    ReadySafe request candidates envelope executors observations profiles usage minRank routing
      resources bindings d := by
  simp only [decideExecutionProtocol, Except.bind_eq_ok] at h
  obtain ⟨⟨selected, uncovered⟩, hselected, h⟩ := h
  dsimp only at h
  split at h
  case isTrue => cases (unroutedDecision_disposition h).symm.trans hr
  case isFalse =>
  split at h
  case isTrue => cases (unroutedDecision_disposition h).symm.trans hr
  case isFalse =>
  split at h
  case isTrue => cases (unroutedDecision_disposition h).symm.trans hr
  case isFalse =>
  split at h
  case isTrue => cases (unroutedDecision_disposition h).symm.trans hr
  case isFalse hcapable =>
  split at h
  case h_1 => cases (unroutedDecision_disposition h).symm.trans hr
  case h_2 =>
  simp only [Except.bind_eq_ok] at h
  obtain ⟨⟨eligible, findings, rejected⟩, heligible, work, hwork, h⟩ := h
  dsimp only at h
  split at h
  case isTrue => cases (unroutedDecision_disposition h).symm.trans hr
  case isFalse =>
  simp only [Except.bind_eq_ok] at h
  obtain ⟨route, hroute, h⟩ := h
  obtain ⟨hdisp, hids, hexec, hres⟩ := routedDecision_eq_ok h
  have hready := protocolDisposition_ready (hdisp.symm.trans hr)
  obtain ⟨e, s, he, _, hsel⟩ := composeSymbioticRoute_ready hroute hready
  obtain ⟨_, _, hexec', hsupplied⟩ := routeSelected_ready hsel hready
  obtain ⟨e', he', hee, hresolved⟩ := resolveExecutors_eq_ok heligible he.given
  obtain ⟨hrepo, hauth, hreq, hact⟩ := UnattendedWorkItem.fields_of_new hwork
  obtain ⟨hwb, hpb⟩ := budgetRejection_eq_none.mp he.withinBudget
  obtain ⟨c, hc, hcc⟩ := not_not.mp hcapable
  obtain ⟨hsub, hcov⟩ := selectCandidates_eq_ok hselected (List.ne_nil_of_mem hc)
  subst hee
  constructor
  case authorityRef => exact hauth ▸ he.authorityRef
  case repository   => exact hrepo ▸ he.repository
  case allowed      => exact hact ▸ he.allowed
  case notForbidden => exact hact ▸ he.notForbidden
  case projections  => exact ⟨selected, hsub, hids, hcov, c, hc, hcc⟩
  case executor     =>
    refine ⟨e', he', hexec.trans hexec', ⟨hresolved, hreq ▸ he.capable, hwb, hpb⟩, ?_⟩
    intro b hb hid
    rw [hres, ← hreq]
    exact hsupplied b hb hid

end Decision

section Witness

variable [Sha256]

def zeroAlias (letter : Char) : String :=
  .ofList (letter :: '_' :: List.replicate 16 '0')

omit [Sha256] in
theorem opaqueAlias_zeroAlias {letter : Char} (h : Text.isSpace letter = false) :
    Guard.OpaqueAlias letter (zeroAlias letter) := by
  have hs : ∀ c ∈ (zeroAlias letter).toList, Text.isSpace c = false := by
    simp only [zeroAlias, String.toList_ofList, List.mem_cons, List.mem_replicate]
    intro c hc
    rcases hc with rfl | rfl | ⟨_, rfl⟩
    · exact h
    · decide
    · decide
  have hl : Text.stripped (zeroAlias letter) = zeroAlias letter := by
    rw [Text.stripped, Text.strip_of_not_space hs, String.ofList_toList]
  simp only [Guard.OpaqueAlias, hl]
  simp only [zeroAlias, String.toList_ofList]
  refine ⟨rfl, rfl, ?_⟩
  intro c hc
  have hc : c ∈ List.replicate 16 '0' := hc
  rw [(List.mem_replicate.mp hc).right]
  decide

omit [Sha256] in
theorem noExecution_optional :
    ∀ x ∈ [("existing_execution_ref", (none : Option String))], Guard.NoneBlank x.2 := by
  simp [Guard.NoneBlank]

def readyRequest : ExecutionProtocolRequest where
  requestId                    := "request"
  objective                    := "objective"
  evidencePredicate            := "tests"
  requiredCapabilityIds        := [zeroAlias 'k']
  repository                   := "repository"
  authorityRef                 := "authority"
  projectionId                 := zeroAlias 'p'
  registryRevisionDigest       := sha256Digest .none
  authorityRefDigest           := sha256Digest .none
  requiredExecutorCapabilities := ["code"]
  requestedActions             := ["action"]
  requiresObservedEvidence     := true
  version                      := rfl
  nonempty                     := by decide
  unique                       := by decide
  capabilities                 := by simpa using opaqueAlias_zeroAlias rfl
  optional                     := noExecution_optional
  bound _                      := {
    projection := ⟨_, rfl, opaqueAlias_zeroAlias rfl⟩
    registry   := ⟨_, rfl, isSha256_sha256Digest _⟩
    authority  := ⟨_, rfl, isSha256_sha256Digest _⟩ }

def readyProjection : CapabilityProjection where
  candidateId            := zeroAlias 'c'
  capabilityIds          := [zeroAlias 'k']
  projectionId           := zeroAlias 'p'
  registryRevisionDigest := sha256Digest .none
  authorityRefDigest     := sha256Digest .none
  executionCapable       := true
  version                := rfl
  candidate              := by simpa using opaqueAlias_zeroAlias rfl
  unique                 := by decide
  capabilities           := by simpa using opaqueAlias_zeroAlias rfl
  projection             := by simpa using opaqueAlias_zeroAlias rfl
  isSha256               := by
    simp only [List.mem_cons, List.not_mem_nil, or_false, forall_eq_or_imp, forall_eq]
    exact ⟨Guard.strippedSha256_sha256Digest _, Guard.strippedSha256_sha256Digest _⟩
  undisclosed            := rfl
  noAuthority            := rfl

def readyProfile : ExecutionMethodProfile where
  executorId         := "coding"
  evidencePredicates := ["tests"]
  version            := rfl
  nonempty           := by decide
  unique             := by decide

def readyObservation : ResourceObservation where
  executorId  := "coding"
  available   := true
  causeKind   := .none
  causeCode   := "available"
  evidenceRef := "evidence"
  version     := rfl
  nonempty    := by decide
  cause       := by decide
  noAuthority := rfl

def readyBinding : ExecutorProviderBinding where
  executorId  := "coding"
  resourceIds := ["resource"]
  nonempty    := by decide
  supplied    := by decide
  unique      := by decide

def readyLineage : InternalLineageBinding where
  workId               := "work"
  portfolioRef         := "portfolio"
  sourceRevision       := "revision"
  authorityRef         := "authority"
  requiredCapabilities := ["code"]
  inputArtifactDigests := [sha256Digest .none]
  outputContractDigest := sha256Digest .none
  version              := rfl
  nonempty             := by decide
  unique               := by
    simp only [List.mem_cons, List.not_mem_nil, or_false, forall_eq_or_imp, forall_eq]
    exact ⟨by decide, Guard.stripped_singleton <| sha256Digest_not_blank _, by decide⟩
  isSha256             := by
    simp [Guard.strippedSha256_sha256Digest]

def readyRouting : ProviderRoutingAuthority where
  authorityRef        := "authority"
  allowedResourceIds  := ["resource"]
  allowedCapabilities := ["code"]
  version             := rfl
  nonempty            := by decide
  unique              := by decide
  noAuthority         := rfl

def readyResource : ProviderResource where
  resourceId      := "resource"
  providerId      := "provider"
  disposition     := .available
  capabilities    := ["code"]
  billingScopeRef := "billing"
  authorityRef    := "authority"
  admissionDigest := sha256Digest .none
  evidenceRefs    := ["evidence"]
  version         := rfl
  nonempty        := by decide
  unique          := by decide
  isSha256        := by simp [Guard.strippedSha256_sha256Digest]
  noAuthority     := rfl

def readyWork : UnattendedWorkItem where
  workId               := "request"
  objective            := "objective"
  repository           := "repository"
  sourceRevision       := "execution-protocol-request"
  authorityRef         := "authority"
  requiredCapabilities := ["code"]
  requestedActions     := ["action"]
  version              := rfl
  nonempty             := by decide
  unique               := routedWork.unique
  optional             := noExecution_optional

theorem select_ready : selectCandidates readyRequest.requiredCapabilityIds [readyProjection]
    readyRequest.projectionId readyRequest.registryRevisionDigest readyRequest.authorityRefDigest =
      .ok ([readyProjection], []) := by
  simp [selectCandidates, readyRequest, readyProjection, covering, combinations, Covers, Py.require, Except.ensure]

omit [Sha256] in
theorem resolve_ready :
    resolveExecutors "tests" [codingExecutor] [readyObservation] [readyProfile] 1 =
      .ok ([codingExecutor], ["coding:none:available"], []) := by
  simp [resolveExecutors, resolveExecutor, codingExecutor, readyObservation, readyProfile,
    Py.require, Except.ensure, PyLiteral.spelling]

theorem provider_ready :
    ∃ p, routeProviderTask readyLineage readyRouting [readyResource] = .ok p ∧ p.deferred = false := by
  simp [routeProviderTask, readyResource, resourceRejection, readyRouting, readyLineage,
    provisionalRoute, Py.require, Except.ensure]

theorem routeSelected_readyBinding (ws : WorkSparseControllerDecision)
    (s : CapabilitySubstitutionDecision) :
    ∃ route, routeSelected readyWork ws s "coding" readyLineage readyRouting [readyResource]
        [readyBinding] = .ok route ∧ route.workSparse = ws ∧ route.substitution = some s ∧
      route.readyForExistingAdmission = true := by
  have hb : bindingFor "coding" [readyBinding] = .ok readyBinding := rfl
  have hn : ProviderRoutingAuthority.new "authority" ["resource"] ["code"] false
    "ge.provider-routing-authority.v1" = .ok readyRouting := rfl
  have ⟨p, hp, hd⟩ := provider_ready
  simp only [routeSelected, hb, Except.ok_bind]
  simp only [Except.bind_eq_ok, Py.ofOption_eq_ok, Py.require_eq_ok, exists_const]
  refine ⟨{
    workSparse                := ws
    substitution              := s
    providerRoute             := p
    selectedExecutorId        := "coding"
    selectedResourceId        := p.selectedResourceId
    readyForExistingAdmission := true
    reasons                   :=
      ["executor_selected", "evidence_predicate_preserved", "provider_route_available"]
    inert                     := ⟨rfl, rfl⟩
    bound _                   := rfl }, ?_, rfl, rfl, rfl⟩
  exact ⟨readyLineage, rfl, readyRouting, rfl, rfl, readyRouting, hn, p, hp, by rw [hd]; rfl⟩

omit [Sha256] in
theorem substitute_ready (hp : ¬Text.Blank "tests") (ha : ¬Text.Blank routedEnvelope.authorityRef) :
    ∃ s, selectCapabilitySubstitute "tests"
        [methodForExecutor "tests" routedEnvelope.authorityRef hp ha codingExecutor] ["coding"]
        [routedEnvelope.authorityRef] 0 1 = .ok s ∧
      s.deferred = false ∧ s.evidencePredicatePreserved = true ∧ s.selectedMethodId = some "coding" :=
  ⟨_, rfl, rfl, rfl, rfl⟩

theorem compose_ready : ∃ route, composeSymbioticRoute routedEnvelope readyWork [codingExecutor]
    "tests" {} readyLineage readyRouting [readyResource] [readyBinding] = .ok route ∧
      route.workSparse.disposition = .dispatch ∧ route.readyForExistingAdmission = true ∧
      ∃ s, route.substitution = some s ∧ s.deferred = false ∧ s.evidencePredicatePreserved = true := by
  have hp : ¬Text.Blank "tests" := by decide
  have ha : ¬Text.Blank routedEnvelope.authorityRef := by decide
  have hws : decideWorkSparseRoute routedEnvelope readyWork [codingExecutor] {} =
      finalizeDecision readyWork routedEnvelope .dispatch
        ["cheapest_admissible_executor", "work_sparse_preference"] codingExecutor := by
    simp [decideWorkSparseRoute, routedEnvelope, readyWork, codingExecutor, Typed.difference,
      budgetRejection]
  obtain ⟨s, hs, hd, he, hid⟩ := substitute_ready hp ha
  obtain ⟨route, hr, hrw, hrs, hrr⟩ := routeSelected_readyBinding
    (decideWorkSparseRoute routedEnvelope readyWork [codingExecutor] {}) s
  refine ⟨route, ?_, by rw [hrw, hws]; rfl, hrr, s, hrs, hd, he⟩
  simp only [composeSymbioticRoute, Except.bind_eq_ok]
  refine ⟨⟨hp⟩, Py.check_of hp, ?_⟩
  split
  case isTrue h => exact absurd (by rw [hws]; rfl) h
  case isFalse =>
  simp only [Except.bind_eq_ok]
  refine ⟨s, hs, ?_⟩
  rw [hd]
  simp only [Bool.false_eq_true, if_false, Except.bind_eq_ok, Py.require_eq_ok, exists_const,
    Py.ofOption_eq_ok]
  exact ⟨by rw [hid, hws]; rfl, "coding", by rw [hws]; rfl, hr⟩

def readyDecision (route : SymbioticRouteDecision) (hr : route.readyForExistingAdmission = true) :
    ExecutionProtocolDecision where
  requestId                  := "request"
  invocationMode             := .realRun
  disposition                := .readyForExistingAdmission
  selectedCandidateIds       := [zeroAlias 'c']
  selectedExecutorId         := route.selectedExecutorId
  selectedResourceId         := route.selectedResourceId
  uncoveredCapabilityIds     := []
  resourceFindings           := ["coding:none:available"]
  rejectedExecutors          := []
  routeDigest                := route.digest
  evidencePredicatePreserved := true
  reasons                    := route.reasons ++ ["resource_cause_resolved_before_route"]
  authorityRef               := "authority"
  nonempty                   := by decide
  unique                     := by decide
  inert                      := unset₂
  bound _                    := ⟨route.bound hr, rfl⟩
  preserved _                := rfl
  unbound h                  := by simp at h

theorem routedDecision_ready {route : SymbioticRouteDecision} {s : CapabilitySubstitutionDecision}
    (hw : route.workSparse.disposition = .dispatch) (hr : route.readyForExistingAdmission = true)
    (hs : route.substitution = some s) (hd : s.deferred = false)
    (he : s.evidencePredicatePreserved = true) :
    routedDecision readyRequest .realRun [zeroAlias 'c'] ["coding:none:available"] [] route =
      .ok (readyDecision route hr) := by
  have hdisp : protocolDisposition route = .readyForExistingAdmission := by
    simp [protocolDisposition, hw, hr]
  have hpres : decide (protocolDisposition route = .readyForExistingAdmission ∧
      (route.substitution.any fun s => s.evidencePredicatePreserved && !s.deferred) = true) = true := by
    simp [hdisp, hs, hd, he]
  rw [routedDecision, hpres, hdisp]
  exact (readyDecision route hr).new_eq

theorem decide_ready {route : SymbioticRouteDecision} {d : ExecutionProtocolDecision}
    (hroute : composeSymbioticRoute routedEnvelope readyWork [codingExecutor] "tests" {} readyLineage
      readyRouting [readyResource] [readyBinding] = .ok route)
    (hd : routedDecision readyRequest .realRun [zeroAlias 'c'] ["coding:none:available"] [] route =
      .ok d) :
    decideExecutionProtocol readyRequest [readyProjection] routedEnvelope [codingExecutor]
      [readyObservation] [readyProfile] {} 1 readyLineage readyRouting [readyResource]
      [readyBinding] = .ok d := by
  have hmode : modeFor readyRequest [readyProjection] = .realRun := rfl
  simp only [decideExecutionProtocol, Except.bind_eq_ok]
  refine ⟨_, select_ready, ?_⟩
  dsimp only
  rw [hmode, if_neg (by simp), if_neg (by simp), if_neg (by simp), if_neg (by simp [readyProjection])]
  change Except.bind _ _ = _
  refine Except.bind_eq_ok.mpr ⟨_, resolve_ready, ?_⟩
  refine Except.bind_eq_ok.mpr ⟨readyWork, readyWork.new_eq, ?_⟩
  rw [if_neg (by simp)]
  exact Except.bind_eq_ok.mpr ⟨route, hroute, hd⟩

end Witness

theorem decideExecutionProtocol_ready_coding : let _ := Sha256.blind
    ∃ d, d.disposition = .readyForExistingAdmission ∧ ReadySafe readyRequest [readyProjection]
      routedEnvelope [codingExecutor] [readyObservation] [readyProfile] {} 1 readyRouting
      [readyResource] [readyBinding] d := by
  intro _
  have ⟨route, hroute, hw, hr, s, hs, hd, he⟩ := compose_ready
  have hdec := decide_ready hroute (routedDecision_ready hw hr hs hd he)
  exact ⟨_, rfl, decideExecutionProtocol_ready hdec rfl⟩

end GeneralExecution
