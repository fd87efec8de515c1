import GeneralExecution.Routing.Provider
import GeneralExecution.Routing.Sovereign
import GeneralExecution.Routing.WorkSparse

namespace GeneralExecution

structure ExecutorProviderBinding where
  executorId  : String
  resourceIds : List String
  nonempty    : ¬Text.Blank executorId
  supplied    : resourceIds ≠ []
  unique      : resourceIds.Nodup

namespace ExecutorProviderBinding

def new (executorId : String) (resourceIds : List String) : Py ExecutorProviderBinding := do
  let ⟨h₁⟩ ← Py.check (¬Text.Blank executorId) .holisticSymbiosisError
    "executor_id must be non-empty"
  let ⟨h₂⟩ ← Py.check (resourceIds ≠ []) .holisticSymbiosisError "resource_ids cannot be empty"
  let ⟨h₃⟩ ← Py.check resourceIds.Nodup .holisticSymbiosisError "resource_ids must be unique"
  return { executorId, resourceIds, nonempty := h₁, supplied := h₂, unique := h₃ }

end ExecutorProviderBinding

structure SymbioticRouteDecision where
  workSparse                : WorkSparseControllerDecision
  substitution              : Option CapabilitySubstitutionDecision
  providerRoute             : Option ProviderRouteDecision
  selectedExecutorId        : Option String
  selectedResourceId        : Option String
  readyForExistingAdmission : Bool
  reasons                   : List String
  authorityCreated          : Bool := false
  executionTriggered        : Bool := false
  schemaVersion             : String := "ge.holistic-symbiotic-execution.v1"
  inert                     : authorityCreated = false ∧ executionTriggered = false
  bound                     : readyForExistingAdmission = true → selectedExecutorId.isSome

instance : AsDict SymbioticRouteDecision where
  asdict d := [
    ("work_sparse", toPy d.workSparse),
    ("substitution", toPy d.substitution),
    ("provider_route", toPy d.providerRoute),
    ("selected_executor_id", toPy d.selectedExecutorId),
    ("selected_resource_id", toPy d.selectedResourceId),
    ("ready_for_existing_admission", toPy d.readyForExistingAdmission),
    ("reasons", toPy d.reasons),
    ("authority_created", toPy d.authorityCreated),
    ("execution_triggered", toPy d.executionTriggered),
    ("schema_version", toPy d.schemaVersion)]

theorem Guard.stripped_singleton {value : String} (h : ¬Text.Blank value) :
    Guard.Stripped (false, [value]) := by
  simp [Guard.Stripped, h]

-- The cost rank that makes the substitution prefer the executors that the Work-Sparse selection
-- prefers.
def ExecutorCapability.penalizedRank (e : ExecutorCapability) : Nat :=
  (if e.requiresWork then 1000000 else 0) + (if e.paid then 100000 else 0) + e.costRank

def methodForExecutor (predicate authorityRef : String) (hp : ¬Text.Blank predicate)
    (ha : ¬Text.Blank authorityRef) (e : ExecutorCapability) : CapabilityMethod where
  methodId            := e.executorId
  evidencePredicates  := [predicate]
  authorityRefs       := [authorityRef]
  costRank            := e.penalizedRank
  paidSpendCents      := e.estimatedCostCents
  available           := e.available
  evidenceQualityRank := 1
  nonempty            := by simpa using e.nonempty ("executor_id", e.executorId) (by simp)
  unique              := by
    simp only [List.mem_cons, List.not_mem_nil, or_false, forall_eq_or_imp, forall_eq]
    exact ⟨Guard.stripped_singleton hp, Guard.stripped_singleton ha⟩
  noAuthority         := rfl

-- `_binding_for`
def bindingFor (executorId : String) (bindings : List ExecutorProviderBinding) :
    Py (Option ExecutorProviderBinding) := do
  let found := bindings.filter fun b => b.executorId = executorId
  Py.require (found.length ≤ 1) .holisticSymbiosisError
    "executor_id has multiple provider bindings"
  return found.head?

variable [Sha256]

def SymbioticRouteDecision.digest (d : SymbioticRouteDecision) : String :=
  sha256Digest (toPy d)

-- The end of `compose_symbiotic_route`, for an executor that both selections have chosen.
def routeSelected (work : UnattendedWorkItem) (ws : WorkSparseControllerDecision)
    (substitution : CapabilitySubstitutionDecision) (selectedExecutor : String)
    (providerLineage : Option InternalLineageBinding)
    (providerRouting : Option ProviderRoutingAuthority) (providerResources : List ProviderResource)
    (executorProviderBindings : List ExecutorProviderBinding) : Py SymbioticRouteDecision := do
  match ← bindingFor selectedExecutor executorProviderBindings with
  | none =>
    return {
      workSparse                := ws
      substitution              := substitution
      providerRoute             := none
      selectedExecutorId        := selectedExecutor
      selectedResourceId        := none
      readyForExistingAdmission := true
      reasons                   := ["executor_selected", "no_provider_route_required"]
      inert                     := unset₂
      bound _                   := rfl }
  | some binding =>
    let lineage ← Py.ofOption .holisticSymbiosisError
      "provider-bound executor requires lineage and routing authority" providerLineage
    let routing ← Py.ofOption .holisticSymbiosisError
      "provider-bound executor requires lineage and routing authority" providerRouting
    Py.require (lineage.requiredCapabilities = work.requiredCapabilities) .holisticSymbiosisError
      "provider lineage capabilities must exactly match work capabilities"
    let derivedRouting ← ProviderRoutingAuthority.new routing.authorityRef
      (routing.allowedResourceIds.filter (· ∈ binding.resourceIds)) routing.allowedCapabilities
      false "ge.provider-routing-authority.v1"
    let providerDecision ← routeProviderTask lineage derivedRouting providerResources
    if providerDecision.deferred then
      return {
        workSparse                := ws
        substitution              := substitution
        providerRoute             := providerDecision
        selectedExecutorId        := selectedExecutor
        selectedResourceId        := none
        readyForExistingAdmission := false
        reasons                   := ["provider_route_deferred", "fail_closed"]
        inert                     := unset₂
        bound                     := by simp }
    else
      return {
        workSparse                := ws
        substitution              := substitution
        providerRoute             := providerDecision
        selectedExecutorId        := selectedExecutor
        selectedResourceId        := providerDecision.selectedResourceId
        readyForExistingAdmission := true
        reasons                   :=
          ["executor_selected", "evidence_predicate_preserved", "provider_route_available"]
        inert                     := unset₂
        bound _                   := rfl }

def composeSymbioticRoute (envelope : UnattendedAuthorityEnvelope) (work : UnattendedWorkItem)
    (executors : List ExecutorCapability) (evidencePredicate : String) (usage : ControllerUsage)
    (providerLineage : Option InternalLineageBinding)
    (providerRouting : Option ProviderRoutingAuthority) (providerResources : List ProviderResource)
    (executorProviderBindings : List ExecutorProviderBinding) : Py SymbioticRouteDecision := do
  let ⟨hp⟩ ← Py.check (¬Text.Blank evidencePredicate) .holisticSymbiosisError
    "evidence_predicate must be non-empty"
  let ws := decideWorkSparseRoute envelope work executors usage
  if ws.disposition ≠ .dispatch then
    return {
      workSparse                := ws
      substitution              := none
      providerRoute             := none
      selectedExecutorId        := none
      selectedResourceId        := none
      readyForExistingAdmission := false
      reasons                   := ("work_sparse:" ++ PyLiteral.spelling ws.disposition) :: ws.reasons
      inert                     := unset₂
      bound                     := by simp }
  else
    let ha : ¬Text.Blank envelope.authorityRef :=
      envelope.nonempty ("authority_ref", envelope.authorityRef) (by simp)
    let substitution ← selectCapabilitySubstitute evidencePredicate
      (executors.map (methodForExecutor evidencePredicate envelope.authorityRef hp ha))
      (executors.map (·.executorId)) [envelope.authorityRef]
      (envelope.maxPaidSpendCents - usage.paidSpendCents) 1
    if substitution.deferred then
      return {
        workSparse                := ws
        substitution              := substitution
        providerRoute             := none
        selectedExecutorId        := none
        selectedResourceId        := none
        readyForExistingAdmission := false
        reasons                   := ["capability_substitution_deferred"]
        inert                     := unset₂
        bound                     := by simp }
    else
      Py.require (substitution.selectedMethodId = ws.selectedExecutorId) .holisticSymbiosisError
        "Work-Sparse and capability substitution selected different executors"
      let selectedExecutor ← Py.ofOption .holisticSymbiosisError
        "dispatch decision did not bind executor" ws.selectedExecutorId
      routeSelected work ws substitution selectedExecutor providerLineage providerRouting
        providerResources executorProviderBindings

end GeneralExecution
