import GeneralExecution.Routing.Contracts

namespace GeneralExecution

inductive ResourceDisposition
  | available
  | unavailable
  | declined
deriving DecidableEq

instance : PyLiteral ResourceDisposition where
  spelling
    | .available   => "available"
    | .unavailable => "unavailable"
    | .declined    => "declined"
  values           := [.available, .unavailable, .declined]
  parse_spelling a := by cases a <;> rfl

structure InternalLineageBinding where
  workId               : String
  portfolioRef         : String
  sourceRevision       : String
  authorityRef         : String
  requiredCapabilities : List String
  inputArtifactDigests : List String
  outputContractDigest : String
  semanticContext      : List String := []
  schemaVersion        : String := "ge.internal-lineage-binding.v1"
  version              : schemaVersion = "ge.internal-lineage-binding.v1"
  nonempty :
    ∀ x ∈ [("work_id", workId), ("portfolio_ref", portfolioRef),
      ("source_revision", sourceRevision), ("authority_ref", authorityRef)], ¬Text.Blank x.2
  unique :
    ∀ x ∈ [("required_capabilities", false, requiredCapabilities),
      ("input_artifact_digests", false, inputArtifactDigests),
      ("semantic_context", true, semanticContext)], Guard.Stripped x.2
  isSha256 : (∀ d ∈ inputArtifactDigests, Guard.StrippedSha256 d) ∧
    Guard.StrippedSha256 outputContractDigest

-- The named digests of a tuple: `input_artifact_digests[0]` and so on.
def indexedDigests (name : String) (digests : List String) : List (String × String) :=
  digests.zipIdx.map fun x => (name ++ "[" ++ toString x.2 ++ "]", x.1)

theorem forall_indexedDigests {name : String} {digests : List String} {p : String → Prop}
    (h : ∀ x ∈ indexedDigests name digests, p x.2) : ∀ d ∈ digests, p d := by
  intro d hd
  obtain ⟨i, hi, rfl⟩ := List.getElem_of_mem hd
  refine h (_, digests[i]) <| List.mem_map.mpr ⟨(digests[i], i), ?_, rfl⟩
  exact List.mk_mem_zipIdx_iff_getElem?.mpr (List.getElem?_eq_getElem hi)

namespace InternalLineageBinding

def new (workId portfolioRef sourceRevision authorityRef : String)
    (requiredCapabilities inputArtifactDigests : List String) (outputContractDigest : String)
    (semanticContext : List String) (schemaVersion : String) : Py InternalLineageBinding := do
  let ⟨h₁⟩ ← Py.check (schemaVersion = "ge.internal-lineage-binding.v1") .providerPortabilityError
    "unsupported lineage schema"
  let ⟨h₂⟩ ← Guard.nonempty .providerPortabilityError
    [("work_id", workId), ("portfolio_ref", portfolioRef), ("source_revision", sourceRevision),
      ("authority_ref", authorityRef)]
  let _ ← Guard.stripped .providerPortabilityError
    [("required_capabilities", false, requiredCapabilities),
      ("input_artifact_digests", false, inputArtifactDigests)]
  let ⟨h₄⟩ ← Guard.strippedSha256 .providerPortabilityError <|
    indexedDigests "input_artifact_digests" inputArtifactDigests
  let ⟨h₅⟩ ← Guard.strippedSha256 .providerPortabilityError
    [("output_contract_digest", outputContractDigest)]
  let ⟨h₃⟩ ← Guard.stripped .providerPortabilityError
    [("required_capabilities", false, requiredCapabilities),
      ("input_artifact_digests", false, inputArtifactDigests),
      ("semantic_context", true, semanticContext)]
  return {
    workId, portfolioRef, sourceRevision, authorityRef, requiredCapabilities,
    inputArtifactDigests, outputContractDigest, semanticContext, schemaVersion, version := h₁,
    nonempty := h₂, unique := h₃,
    isSha256 := ⟨forall_indexedDigests h₄, h₅ (_, outputContractDigest) (List.mem_singleton_self _)⟩ }

instance : AsDict InternalLineageBinding where
  asdict l := [
    ("work_id", toPy l.workId),
    ("portfolio_ref", toPy l.portfolioRef),
    ("source_revision", toPy l.sourceRevision),
    ("authority_ref", toPy l.authorityRef),
    ("required_capabilities", toPy l.requiredCapabilities),
    ("input_artifact_digests", toPy l.inputArtifactDigests),
    ("output_contract_digest", toPy l.outputContractDigest),
    ("semantic_context", toPy l.semanticContext),
    ("schema_version", toPy l.schemaVersion)]

end InternalLineageBinding

structure ProviderResource where
  resourceId       : String
  providerId       : String
  disposition      : ResourceDisposition
  capabilities     : List String
  billingScopeRef  : String
  authorityRef     : String
  admissionDigest  : String
  evidenceRefs     : List String
  authorityCreated : Bool := false
  schemaVersion    : String := "ge.provider-resource.v1"
  version          : schemaVersion = "ge.provider-resource.v1"
  nonempty :
    ∀ x ∈ [("resource_id", resourceId), ("provider_id", providerId),
      ("billing_scope_ref", billingScopeRef), ("authority_ref", authorityRef)], ¬Text.Blank x.2
  unique :
    ∀ x ∈ [("capabilities", false, capabilities), ("evidence_refs", false, evidenceRefs)],
      Guard.Stripped x.2
  isSha256    : ∀ x ∈ [("admission_digest", admissionDigest)], Guard.StrippedSha256 x.2
  noAuthority : authorityCreated = false

namespace ProviderResource

def new (resourceId providerId : String) (disposition : ResourceDisposition)
    (capabilities : List String) (billingScopeRef authorityRef admissionDigest : String)
    (evidenceRefs : List String) (authorityCreated : Bool) (schemaVersion : String) :
    Py ProviderResource := do
  let ⟨h₁⟩ ← Py.check (schemaVersion = "ge.provider-resource.v1") .providerPortabilityError
    "unsupported provider resource schema"
  let ⟨h₂⟩ ← Guard.nonempty .providerPortabilityError
    [("resource_id", resourceId), ("provider_id", providerId),
      ("billing_scope_ref", billingScopeRef), ("authority_ref", authorityRef)]
  let _ ← Guard.stripped .providerPortabilityError [("capabilities", false, capabilities)]
  let ⟨h₄⟩ ← Guard.strippedSha256 .providerPortabilityError [("admission_digest", admissionDigest)]
  let ⟨h₃⟩ ← Guard.stripped .providerPortabilityError
    [("capabilities", false, capabilities), ("evidence_refs", false, evidenceRefs)]
  let ⟨h₅⟩ ← Py.check (authorityCreated = false) .providerPortabilityError
    "provider resource cannot create authority"
  return {
    resourceId, providerId, disposition, capabilities, billingScopeRef, authorityRef,
    admissionDigest, evidenceRefs, authorityCreated, schemaVersion, version := h₁,
    nonempty := h₂, unique := h₃, isSha256 := h₄, noAuthority := h₅ }

end ProviderResource

structure ProviderRoutingAuthority where
  authorityRef        : String
  allowedResourceIds  : List String
  allowedCapabilities : List String
  authorityCreated    : Bool := false
  schemaVersion       : String := "ge.provider-routing-authority.v1"
  version             : schemaVersion = "ge.provider-routing-authority.v1"
  nonempty            : ∀ x ∈ [("authority_ref", authorityRef)], ¬Text.Blank x.2
  unique :
    ∀ x ∈ [("allowed_resource_ids", false, allowedResourceIds),
      ("allowed_capabilities", false, allowedCapabilities)], Guard.Stripped x.2
  noAuthority         : authorityCreated = false

namespace ProviderRoutingAuthority

def new (authorityRef : String) (allowedResourceIds allowedCapabilities : List String)
    (authorityCreated : Bool) (schemaVersion : String) : Py ProviderRoutingAuthority := do
  let ⟨h₁⟩ ← Py.check (schemaVersion = "ge.provider-routing-authority.v1")
    .providerPortabilityError "unsupported provider routing schema"
  let ⟨h₂⟩ ← Guard.nonempty .providerPortabilityError [("authority_ref", authorityRef)]
  let ⟨h₃⟩ ← Guard.stripped .providerPortabilityError
    [("allowed_resource_ids", false, allowedResourceIds),
      ("allowed_capabilities", false, allowedCapabilities)]
  let ⟨h₄⟩ ← Py.check (authorityCreated = false) .providerPortabilityError
    "routing authority cannot create authority"
  return {
    authorityRef, allowedResourceIds, allowedCapabilities, authorityCreated, schemaVersion,
    version := h₁, nonempty := h₂, unique := h₃, noAuthority := h₄ }

instance : AsDict ProviderRoutingAuthority where
  asdict r := [
    ("authority_ref", toPy r.authorityRef),
    ("allowed_resource_ids", toPy r.allowedResourceIds),
    ("allowed_capabilities", toPy r.allowedCapabilities),
    ("authority_created", toPy r.authorityCreated),
    ("schema_version", toPy r.schemaVersion)]

end ProviderRoutingAuthority

structure ProviderRouteRejection where
  resourceId : String
  reasons    : List String

instance : AsDict ProviderRouteRejection where
  asdict r := [("resource_id", toPy r.resourceId), ("reasons", toPy r.reasons)]

-- A route that is deferred selects no resource.
def RouteSelection (deferred : Bool) (selectedResourceId selectedProviderId : Option String) : Prop :=
  if deferred = true then selectedResourceId = none ∧ selectedProviderId = none
  else Text.Present selectedResourceId ∧ Text.Present selectedProviderId

structure ProviderRouteDecision where
  routingAuthorityDigest : String
  internalLineageDigest  : String
  selectedResourceId     : Option String
  selectedProviderId     : Option String
  rejected               : List ProviderRouteRejection
  deferred               : Bool
  authorityCreated       : Bool := false
  executionAuthorized    : Bool := false
  schemaVersion          : String := "ge.provider-route-decision.v1"
  decisionDigest         : String := ""
  isSha256 :
    ∀ x ∈ [("routing_authority_digest", routingAuthorityDigest),
      ("internal_lineage_digest", internalLineageDigest)], Guard.StrippedSha256 x.2
  selection : RouteSelection deferred selectedResourceId selectedProviderId
  inert     : authorityCreated = false ∧ executionAuthorized = false

-- `_decision_payload`
def providerRoutePayload (d : ProviderRouteDecision) : PyDict := [
  ("routing_authority_digest", toPy d.routingAuthorityDigest),
  ("internal_lineage_digest", toPy d.internalLineageDigest),
  ("selected_resource_id", toPy d.selectedResourceId),
  ("selected_provider_id", toPy d.selectedProviderId),
  ("rejected", toPy d.rejected),
  ("deferred", toPy d.deferred),
  ("authority_created", toPy d.authorityCreated),
  ("execution_authorized", toPy d.executionAuthorized),
  ("schema_version", toPy d.schemaVersion)]

instance : AsDict ProviderRouteDecision where
  asdict d := providerRoutePayload d ++ [("decision_digest", toPy d.decisionDigest)]

-- Why a resource is rejected for a task.
def resourceRejection (lineage : InternalLineageBinding) (routing : ProviderRoutingAuthority)
    (r : ProviderResource) : List String :=
  (if r.resourceId ∈ routing.allowedResourceIds then [] else ["resource_outside_authority"]) ++
    (if lineage.requiredCapabilities ⊆ routing.allowedCapabilities then []
      else ["task_capability_outside_authority"]) ++
    (if lineage.requiredCapabilities ⊆ r.capabilities then [] else ["resource_capability_mismatch"]) ++
    match r.disposition with
    | .available   => []
    | .unavailable => ["resource_unavailable"]
    | .declined    => ["resource_declined"]

section Digests

variable [Sha256]

def InternalLineageBinding.digest (l : InternalLineageBinding) : String :=
  sha256Digest (toPy l)

def ProviderRoutingAuthority.digest (r : ProviderRoutingAuthority) : String :=
  sha256Digest (toPy r)

-- The decision before it is digested.
def provisionalRoute (lineage : InternalLineageBinding) (routing : ProviderRoutingAuthority)
    (rejected : List ProviderRouteRejection) (selected : Option ProviderResource) :
    ProviderRouteDecision where
  routingAuthorityDigest := routing.digest
  internalLineageDigest  := lineage.digest
  selectedResourceId     := selected.map (·.resourceId)
  selectedProviderId     := selected.map (·.providerId)
  rejected               := rejected
  deferred               := selected.isNone
  isSha256               := by
    simp only [List.mem_cons, List.not_mem_nil, or_false, forall_eq_or_imp, forall_eq]
    exact ⟨Guard.strippedSha256_sha256Digest _, Guard.strippedSha256_sha256Digest _⟩
  selection              := by
    cases selected
    case none   => simp [RouteSelection]
    case some r =>
      have hr := r.nonempty ("resource_id", r.resourceId) (by simp)
      have hp := r.nonempty ("provider_id", r.providerId) (by simp)
      simp [RouteSelection, Text.Present, hr, hp]
  inert                  := unset₂

def routeProviderTask (lineage : InternalLineageBinding) (routing : ProviderRoutingAuthority)
    (resources : List ProviderResource) : Py ProviderRouteDecision := do
  Py.require (resources.map (·.resourceId)).Nodup .providerPortabilityError
    "resource_id values must be unique"
  let rejection := resourceRejection lineage routing
  let sorted := resources.mergeSort fun a b =>
    (toLex (a.providerId, a.resourceId) : String ×ₗ String) ≤ toLex (b.providerId, b.resourceId)
  let rejected := ((sorted.filter fun r => rejection r ≠ []).map fun r =>
    { resourceId := r.resourceId, reasons := (rejection r).dedup.mergeSort :
      ProviderRouteRejection }).mergeSort fun a b => a.resourceId ≤ b.resourceId
  let eligible := sorted.filter fun r => rejection r = []
  let provisional := provisionalRoute lineage routing rejected eligible.head?
  return { provisional with
    decisionDigest := sha256Digest (.dict (providerRoutePayload provisional)) }

end Digests

end GeneralExecution
