import GeneralExecution.Activation.Receipt

namespace GeneralExecution

inductive ExecutorAvailability
  | available
  | unavailable
deriving DecidableEq

instance : PyLiteral ExecutorAvailability where
  spelling
    | .available   => "AVAILABLE"
    | .unavailable => "UNAVAILABLE"
  values           := [.available, .unavailable]
  parse_spelling a := by cases a <;> rfl

-- `_unique_sorted`
def checkUniqueSorted (xs : List (String × List String)) :
    Py (PLift (∀ x ∈ xs, CanonicalScopes x.2)) :=
  Guard.each .executionLaunchAdmissionError CanonicalScopes canonicalScopesMessage xs

@[ext]
structure LaunchAuthorityBinding where
  actor             : String
  authorityRef      : String
  authorityBoundary : String
  grantedScopes     : List String
  schemaVersion     : String := "ge.execution-launch-authority-binding.v1"
  version           : schemaVersion = "ge.execution-launch-authority-binding.v1"
  nonempty :
    ∀ x ∈ [("actor", actor), ("authority_ref", authorityRef),
      ("authority_boundary", authorityBoundary)], ¬Text.Blank x.2
  canonical : ∀ x ∈ [("granted_scopes", grantedScopes)], CanonicalScopes x.2

namespace LaunchAuthorityBinding

def new (actor authorityRef authorityBoundary : String) (grantedScopes : List String)
    (schemaVersion : String) : Py LaunchAuthorityBinding := do
  let ⟨h₁⟩ ← Py.check (schemaVersion = "ge.execution-launch-authority-binding.v1")
    .executionLaunchAdmissionError "unsupported authority binding schema"
  let ⟨h₂⟩ ← Guard.nonempty .executionLaunchAdmissionError
    [("actor", actor), ("authority_ref", authorityRef), ("authority_boundary", authorityBoundary)]
  let ⟨h₃⟩ ← checkUniqueSorted [("granted_scopes", grantedScopes)]
  return {
    actor, authorityRef, authorityBoundary, grantedScopes, schemaVersion, version := h₁,
    nonempty := h₂, canonical := h₃ }

instance : AsDict LaunchAuthorityBinding where
  asdict a := [
    ("actor", toPy a.actor),
    ("authority_ref", toPy a.authorityRef),
    ("authority_boundary", toPy a.authorityBoundary),
    ("granted_scopes", toPy a.grantedScopes),
    ("schema_version", toPy a.schemaVersion)]

def digest [Sha256] (a : LaunchAuthorityBinding) : String :=
  sha256Digest (toPy a)

end LaunchAuthorityBinding

@[ext]
structure LaunchExecutorBinding where
  executor       : String
  availability   : ExecutorAvailability
  evidenceRef    : String
  evidenceDigest : String
  schemaVersion  : String := "ge.execution-launch-executor-binding.v1"
  version        : schemaVersion = "ge.execution-launch-executor-binding.v1"
  nonempty       : ∀ x ∈ [("executor", executor), ("evidence_ref", evidenceRef)], ¬Text.Blank x.2
  isSha256       : IsLowerSha256 evidenceDigest

namespace LaunchExecutorBinding

def new (executor availability evidenceRef evidenceDigest schemaVersion : String) :
    Py LaunchExecutorBinding := do
  let ⟨h₁⟩ ← Py.check (schemaVersion = "ge.execution-launch-executor-binding.v1")
    .executionLaunchAdmissionError "unsupported executor binding schema"
  let ⟨h₂⟩ ← Guard.nonempty .executionLaunchAdmissionError [("executor", executor)]
  let availability ← Py.ofOption .executionLaunchAdmissionError "unsupported executor availability"
    (PyLiteral.parse? availability)
  let ⟨h₃⟩ ← Guard.nonempty .executionLaunchAdmissionError [("evidence_ref", evidenceRef)]
  let ⟨h₄⟩ ← Py.check (IsLowerSha256 evidenceDigest) .executionLaunchAdmissionError
    "evidence_digest must be sha256:<64-hex>"
  return {
    executor, availability, evidenceRef, evidenceDigest, schemaVersion, version := h₁,
    nonempty := List.forall_mem_cons.mpr ⟨h₂ _ List.mem_cons_self, h₃⟩, isSha256 := h₄ }

instance : AsDict LaunchExecutorBinding where
  asdict b := [
    ("executor", toPy b.executor),
    ("availability", toPy b.availability),
    ("evidence_ref", toPy b.evidenceRef),
    ("evidence_digest", toPy b.evidenceDigest),
    ("schema_version", toPy b.schemaVersion)]

def digest [Sha256] (b : LaunchExecutorBinding) : String :=
  sha256Digest (toPy b)

end LaunchExecutorBinding

@[ext]
structure ExecutionLaunchOrder where
  workstreamId            : String
  owner                   : Option String
  repository              : Option String
  executor                : Option String
  objective               : String
  orderRef                : String
  sourceRevision          : Option String
  requiredAuthorityScopes : List String
  authority               : Option LaunchAuthorityBinding
  executorBinding         : Option LaunchExecutorBinding
  knownFirstArtifactRef   : Option String := none
  schemaVersion           : String := "ge.execution-launch-order.v1"
  version                 : schemaVersion = "ge.execution-launch-order.v1"
  nonempty :
    ∀ x ∈ [("workstream_id", workstreamId), ("objective", objective), ("order_ref", orderRef)],
      ¬Text.Blank x.2
  optional :
    ∀ x ∈ [("owner", owner), ("executor", executor), ("source_revision", sourceRevision),
      ("known_first_artifact_ref", knownFirstArtifactRef)], Guard.NoneBlank x.2
  named     : Guard.NoneBlank repository ∧ ∀ r ∈ repository, Text.IsRepository r
  canonical :
    ∀ x ∈ [("required_authority_scopes", requiredAuthorityScopes)], CanonicalScopes x.2

namespace ExecutionLaunchOrder

def new (workstreamId : String) (owner repository executor : Option String)
    (objective orderRef : String) (sourceRevision : Option String)
    (requiredAuthorityScopes : List String) (authority : Option LaunchAuthorityBinding)
    (executorBinding : Option LaunchExecutorBinding) (knownFirstArtifactRef : Option String)
    (schemaVersion : String) : Py ExecutionLaunchOrder := do
  let ⟨h₁⟩ ← Py.check (schemaVersion = "ge.execution-launch-order.v1")
    .executionLaunchAdmissionError "unsupported execution launch order schema"
  let ⟨h₂⟩ ← Guard.nonempty .executionLaunchAdmissionError
    [("workstream_id", workstreamId), ("objective", objective), ("order_ref", orderRef)]
  let ⟨h₃⟩ ← Guard.optionalNonempty .executionLaunchAdmissionError
    [("owner", owner), ("executor", executor), ("source_revision", sourceRevision),
      ("known_first_artifact_ref", knownFirstArtifactRef)]
  let ⟨h₄⟩ ← Py.check (Guard.NoneBlank repository ∧ ∀ r ∈ repository, Text.IsRepository r)
    .executionLaunchAdmissionError <|
      if Guard.NoneBlank repository then "repository must be owner/repository"
      else "repository must be a non-empty string"
  let ⟨h₅⟩ ← checkUniqueSorted [("required_authority_scopes", requiredAuthorityScopes)]
  return {
    workstreamId, owner, repository, executor, objective, orderRef, sourceRevision,
    requiredAuthorityScopes, authority, executorBinding, knownFirstArtifactRef, schemaVersion,
    version := h₁, nonempty := h₂, optional := h₃, named := h₄, canonical := h₅ }

instance : AsDict ExecutionLaunchOrder where
  asdict o := [
    ("workstream_id", toPy o.workstreamId),
    ("owner", toPy o.owner),
    ("repository", toPy o.repository),
    ("executor", toPy o.executor),
    ("objective", toPy o.objective),
    ("order_ref", toPy o.orderRef),
    ("source_revision", toPy o.sourceRevision),
    ("required_authority_scopes", toPy o.requiredAuthorityScopes),
    ("authority", toPy o.authority),
    ("executor_binding", toPy o.executorBinding),
    ("known_first_artifact_ref", toPy o.knownFirstArtifactRef),
    ("schema_version", toPy o.schemaVersion)]

variable [Sha256]

def digest (o : ExecutionLaunchOrder) : String :=
  sha256Digest (toPy o)

def orderId (o : ExecutionLaunchOrder) : String :=
  stableId "gelo" (toPy o)

def launchId (o : ExecutionLaunchOrder) : String :=
  stableId "gel" <| .dict [
    ("order_digest", toPy o.digest),
    ("workstream_id", toPy o.workstreamId),
    ("owner", toPy o.owner),
    ("repository", toPy o.repository),
    ("executor", toPy o.executor)]

def dispatchIdentity (o : ExecutionLaunchOrder) : String :=
  stableId "geld" <| .dict [
    ("launch_id", toPy o.launchId),
    ("executor", toPy o.executor),
    ("repository", toPy o.repository)]

-- `_receipt`
def receipt (o : ExecutionLaunchOrder) (disposition : LaunchDisposition) (reason : String) :
    Py ExecutionLaunchReceipt :=
  let launchId         := if disposition = .admitted then some o.launchId else none
  let dispatchIdentity := if disposition = .admitted then some o.dispatchIdentity else none
  let identity : PyValue := .dict [
    ("order_digest", toPy o.digest),
    ("disposition", toPy disposition),
    ("reason", toPy reason),
    ("launch_id", toPy launchId),
    ("dispatch_identity", toPy dispatchIdentity)]
  ExecutionLaunchReceipt.new (stableId "gelr" identity) o.orderId o.digest
    (PyLiteral.spelling disposition) reason o.workstreamId o.owner o.repository o.executor launchId
    dispatchIdentity o.knownFirstArtifactRef
    (o.authority.map LaunchAuthorityBinding.authorityRef)
    (o.authority.map LaunchAuthorityBinding.digest)
    (o.executorBinding.map LaunchExecutorBinding.digest)
    (decide (disposition = .admitted) && o.knownFirstArtifactRef.isNone) false false
    "ge.execution-launch-receipt.v1"

omit [Sha256] in
-- The disposition of an order that lacks the authority it requires.
def authorityRefusal (o : ExecutionLaunchOrder) (authenticatedActor : String) :
    Option (LaunchDisposition × String) :=
  if o.requiredAuthorityScopes = [] then none
  else
    match o.authority with
    | none           => some (.humanGate, "authority_binding_missing")
    | some authority =>
      -- The required scopes are sorted, and each is there once.
      let missing := o.requiredAuthorityScopes.filter (· ∉ authority.grantedScopes)
      if authority.actor ≠ authenticatedActor then some (.rejected, "authority_actor_mismatch")
      else if missing ≠ [] then
        some (.humanGate, "authority_scope_missing:" ++ ",".intercalate missing)
      else none

omit [Sha256] in
-- The disposition of an order that has the authority it requires.
def executorDisposition (o : ExecutionLaunchOrder) : LaunchDisposition × String :=
  match o.executorBinding with
  | none         => (.failedBeforeLaunch, "executor_evidence_missing")
  | some binding =>
    if some binding.executor ≠ o.executor then (.rejected, "executor_identity_mismatch")
    else if binding.availability = .unavailable then (.failedBeforeLaunch, "executor_unavailable")
    else (.admitted, "launch_admitted")

omit [Sha256] in
-- The disposition of an authenticated order, and its reason.
def disposition (o : ExecutionLaunchOrder) (authenticatedActor : String) :
    LaunchDisposition × String :=
  if o.owner.isNone then (.rejected, "owner_binding_missing")
  else if o.repository.isNone then (.rejected, "repository_binding_missing")
  else if o.executor.isNone then (.rejected, "executor_binding_missing")
  else (o.authorityRefusal authenticatedActor).getD o.executorDisposition

end ExecutionLaunchOrder

def admitExecutionLaunchOrder [Sha256] (order : ExecutionLaunchOrder)
    (authenticatedOrderDigest authenticatedActor : String) : Py ExecutionLaunchReceipt := do
  Py.require (IsLowerSha256 authenticatedOrderDigest) .executionLaunchAdmissionError
    "authenticated_order_digest must be sha256:<64-hex>"
  Py.require (¬Text.Blank authenticatedActor) .executionLaunchAdmissionError
    "authenticated_actor must be a non-empty string"
  Py.require (authenticatedOrderDigest = order.digest) .executionLaunchAdmissionError
    "authenticated execution order digest mismatch"
  order.receipt (order.disposition authenticatedActor).1 (order.disposition authenticatedActor).2

end GeneralExecution
