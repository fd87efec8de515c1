import GeneralExecution.Objects.Errors

namespace GeneralExecution

inductive LaunchDisposition
  | admitted
  | humanGate
  | rejected
  | failedBeforeLaunch
deriving DecidableEq

instance : PyLiteral LaunchDisposition where
  spelling
    | .admitted           => "ADMITTED"
    | .humanGate          => "HUMAN_GATE"
    | .rejected           => "REJECTED"
    | .failedBeforeLaunch => "FAILED_BEFORE_LAUNCH"
  values           := [.admitted, .humanGate, .rejected, .failedBeforeLaunch]
  parse_spelling a := by cases a <;> rfl

-- An admitted launch names its identities and its owner, any other one claims no identity.
def LaunchIdentity (disposition : LaunchDisposition)
    (owner repository executor launchId dispatchIdentity : Option String) : Prop :=
  if disposition = .admitted then
    (Text.Truthy launchId ∧ Text.Truthy dispatchIdentity) ∧
      (owner.isSome ∧ repository.isSome ∧ executor.isSome)
  else
    launchId.isNone ∧ dispatchIdentity.isNone

instance (disposition : LaunchDisposition)
    (owner repository executor launchId dispatchIdentity : Option String) :
    Decidable (LaunchIdentity disposition owner repository executor launchId dispatchIdentity) := by
  unfold LaunchIdentity
  infer_instance

def launchIdentityMessage (disposition : LaunchDisposition)
    (launchId dispatchIdentity : Option String) : String :=
  if disposition = .admitted then
    if Text.Truthy launchId ∧ Text.Truthy dispatchIdentity then
      "ADMITTED receipt requires complete ownership binding"
    else "ADMITTED receipt requires launch and dispatch identity"
  else "non-ADMITTED receipt cannot claim launch or dispatch identity"

-- `DIGEST_RE.fullmatch`
def OptionalLowerSha256 (o : Option String) : Prop :=
  ∀ d ∈ o, IsLowerSha256 d

instance : DecidablePred OptionalLowerSha256 :=
  fun o => inferInstanceAs <| Decidable (∀ d ∈ o, IsLowerSha256 d)

structure ExecutionLaunchReceipt where
  receiptId              : String
  orderId                : String
  orderDigest            : String
  disposition            : LaunchDisposition
  dispositionReason      : String
  workstreamId           : String
  owner                  : Option String
  repository             : Option String
  executor               : Option String
  launchId               : Option String
  dispatchIdentity       : Option String
  firstArtifactRef       : Option String
  authorityRef           : Option String
  authorityBindingDigest : Option String
  executorBindingDigest  : Option String
  recoveryRequired       : Bool
  authorityCreated       : Bool := false
  executionTriggered     : Bool := false
  schemaVersion          : String := "ge.execution-launch-receipt.v1"
  version                : schemaVersion = "ge.execution-launch-receipt.v1"
  nonempty :
    ∀ x ∈ [("receipt_id", receiptId), ("order_id", orderId),
      ("disposition_reason", dispositionReason), ("workstream_id", workstreamId)], ¬Text.Blank x.2
  isSha256 : IsLowerSha256 orderDigest
  optional :
    ∀ x ∈ [("authority_binding_digest", authorityBindingDigest),
      ("executor_binding_digest", executorBindingDigest)], OptionalLowerSha256 x.2
  inert    : authorityCreated = false ∧ executionTriggered = false
  identity : LaunchIdentity disposition owner repository executor launchId dispatchIdentity

namespace ExecutionLaunchReceipt

def new (receiptId orderId orderDigest disposition dispositionReason workstreamId : String)
    (owner repository executor launchId dispatchIdentity firstArtifactRef authorityRef
      authorityBindingDigest executorBindingDigest : Option String)
    (recoveryRequired authorityCreated executionTriggered : Bool) (schemaVersion : String) :
    Py ExecutionLaunchReceipt := do
  let ⟨h₁⟩ ← Py.check (schemaVersion = "ge.execution-launch-receipt.v1")
    .executionLaunchAdmissionError "unsupported execution launch receipt schema"
  let disposition ← Py.ofOption .executionLaunchAdmissionError "unsupported launch disposition"
    (PyLiteral.parse? disposition)
  let ⟨h₂⟩ ← Guard.nonempty .executionLaunchAdmissionError
    [("receipt_id", receiptId), ("order_id", orderId), ("disposition_reason", dispositionReason),
      ("workstream_id", workstreamId)]
  let ⟨h₃⟩ ← Py.check (IsLowerSha256 orderDigest) .executionLaunchAdmissionError
    "order_digest must be sha256:<64-hex>"
  let ⟨h₄⟩ ← Guard.each .executionLaunchAdmissionError OptionalLowerSha256
    (fun name _ => name ++ " must be sha256:<64-hex>")
    [("authority_binding_digest", authorityBindingDigest),
      ("executor_binding_digest", executorBindingDigest)]
  let ⟨h₅⟩ ← Py.check (authorityCreated = false ∧ executionTriggered = false)
    .executionLaunchAdmissionError "launch receipt cannot create authority or trigger execution"
  let ⟨h₆⟩ ← Py.check
    (LaunchIdentity disposition owner repository executor launchId dispatchIdentity)
    .executionLaunchAdmissionError (launchIdentityMessage disposition launchId dispatchIdentity)
  return {
    receiptId, orderId, orderDigest, disposition, dispositionReason, workstreamId, owner,
    repository, executor, launchId, dispatchIdentity, firstArtifactRef, authorityRef,
    authorityBindingDigest, executorBindingDigest, recoveryRequired, authorityCreated,
    executionTriggered, schemaVersion, version := h₁, nonempty := h₂, isSha256 := h₃,
    optional := h₄, inert := h₅, identity := h₆ }

instance : AsDict ExecutionLaunchReceipt where
  asdict r := [
    ("receipt_id", toPy r.receiptId),
    ("order_id", toPy r.orderId),
    ("order_digest", toPy r.orderDigest),
    ("disposition", toPy r.disposition),
    ("disposition_reason", toPy r.dispositionReason),
    ("workstream_id", toPy r.workstreamId),
    ("owner", toPy r.owner),
    ("repository", toPy r.repository),
    ("executor", toPy r.executor),
    ("launch_id", toPy r.launchId),
    ("dispatch_identity", toPy r.dispatchIdentity),
    ("first_artifact_ref", toPy r.firstArtifactRef),
    ("authority_ref", toPy r.authorityRef),
    ("authority_binding_digest", toPy r.authorityBindingDigest),
    ("executor_binding_digest", toPy r.executorBindingDigest),
    ("recovery_required", toPy r.recoveryRequired),
    ("authority_created", toPy r.authorityCreated),
    ("execution_triggered", toPy r.executionTriggered),
    ("schema_version", toPy r.schemaVersion)]

def digest [Sha256] (r : ExecutionLaunchReceipt) : String :=
  sha256Digest (toPy r)

end ExecutionLaunchReceipt

end GeneralExecution
