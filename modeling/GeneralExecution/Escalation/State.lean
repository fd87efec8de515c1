import GeneralExecution.Escalation.Request
import GeneralExecution.Objects.Time

namespace GeneralExecution

inductive WorkEscalationStatus
  | reserved
  | platformWait
  | humanReauthRequired
  | platformAccepted
  | failedActivation
deriving DecidableEq

instance : PyLiteral WorkEscalationStatus where
  spelling
    | .reserved            => "reserved"
    | .platformWait        => "platform_wait"
    | .humanReauthRequired => "human_reauth_required"
    | .platformAccepted    => "platform_accepted"
    | .failedActivation    => "failed_activation"
  values           :=
    [.reserved, .platformWait, .humanReauthRequired, .platformAccepted, .failedActivation]
  parse_spelling a := by cases a <;> rfl

def WorkEscalationStatus.terminal (status : WorkEscalationStatus) : Bool :=
  status ∈ [.platformAccepted, .failedActivation]

inductive WorkPlatformOutcome
  | platformAccepted
  | platformWait
  | humanReauthRequired
  | failedActivation
deriving DecidableEq

instance : PyLiteral WorkPlatformOutcome where
  spelling
    | .platformAccepted    => "PLATFORM_ACCEPTED"
    | .platformWait        => "PLATFORM_WAIT"
    | .humanReauthRequired => "HUMAN_REAUTH_REQUIRED"
    | .failedActivation    => "FAILED_ACTIVATION"
  values           := [.platformAccepted, .platformWait, .humanReauthRequired, .failedActivation]
  parse_spelling a := by cases a <;> rfl

-- `str(value).startswith("auth://")`
def AuthRef (value : Option String) : Prop :=
  value.any fun s => "auth://".toList <+: s.toList

instance : DecidablePred AuthRef :=
  fun _ => inferInstanceAs <| Decidable (_ = true)

-- What a state that has a predecessor carries.
def ProviderEvidence (status : WorkEscalationStatus)
    (nativeExecutionRef conditionRef failureReason : Option String) : Prop :=
  match status with
  | .platformAccepted =>
    Text.Present nativeExecutionRef ∧ conditionRef = none ∧ failureReason = none
  | .platformWait =>
    Text.Present conditionRef ∧ nativeExecutionRef = none ∧ failureReason = none
  | .humanReauthRequired =>
    Text.Present conditionRef ∧ (nativeExecutionRef = none ∧ failureReason = none) ∧
      AuthRef conditionRef
  | .failedActivation =>
    Text.Present failureReason ∧ nativeExecutionRef = none ∧ conditionRef = none
  | .reserved => False

instance (status : WorkEscalationStatus)
    (nativeExecutionRef conditionRef failureReason : Option String) :
    Decidable (ProviderEvidence status nativeExecutionRef conditionRef failureReason) := by
  unfold ProviderEvidence
  cases status <;> infer_instance

def waitMessage (nativeExecutionRef conditionRef failureReason : Option String) : String :=
  if ¬Text.Present conditionRef then "condition_ref must be a non-empty string"
  else if nativeExecutionRef = none ∧ failureReason = none then
    "human reauthentication condition must use auth:// action ref"
  else "wait state cannot carry native execution/failure"

def providerMessage (status : WorkEscalationStatus)
    (nativeExecutionRef conditionRef failureReason : Option String) : String :=
  match status with
  | .platformAccepted =>
    if Text.Present nativeExecutionRef then "accepted state cannot carry wait/failure fields"
    else "native_execution_ref must be a non-empty string"
  | .platformWait | .humanReauthRequired => waitMessage nativeExecutionRef conditionRef failureReason
  | .failedActivation =>
    if Text.Present failureReason then "failed state cannot carry native execution/wait"
    else "failure_reason must be a non-empty string"
  | .reserved => "unsupported Work escalation state"

def EscalationEvidence (status : WorkEscalationStatus) (revision : Nat)
    (previousStateDigest platformObservationDigest nativeExecutionRef conditionRef failureReason :
      Option String) : Prop :=
  if revision = 0 then
    (status = .reserved ∧ previousStateDigest = none) ∧ platformObservationDigest = none ∧
      nativeExecutionRef = none ∧ conditionRef = none ∧ failureReason = none
  else
    (Guard.StrippedSha256 (previousStateDigest.getD "") ∧
      Guard.StrippedSha256 (platformObservationDigest.getD "")) ∧
        ProviderEvidence status nativeExecutionRef conditionRef failureReason

instance (status : WorkEscalationStatus) (revision : Nat)
    (previousStateDigest platformObservationDigest nativeExecutionRef conditionRef failureReason :
      Option String) :
    Decidable (EscalationEvidence status revision previousStateDigest platformObservationDigest
      nativeExecutionRef conditionRef failureReason) := by
  unfold EscalationEvidence
  infer_instance

def escalationMessage (status : WorkEscalationStatus) (revision : Nat)
    (previousStateDigest platformObservationDigest nativeExecutionRef conditionRef failureReason :
      Option String) : String :=
  if revision = 0 then
    if status = .reserved ∧ previousStateDigest = none then
      "reserved state cannot claim provider outcome"
    else "revision-zero Work escalation state must be reserved without predecessor"
  else if ¬Guard.StrippedSha256 (previousStateDigest.getD "") then
    Guard.strippedSha256Message "previous_state_digest" (previousStateDigest.getD "")
  else if ¬Guard.StrippedSha256 (platformObservationDigest.getD "") then
    Guard.strippedSha256Message "platform_observation_digest" (platformObservationDigest.getD "")
  else providerMessage status nativeExecutionRef conditionRef failureReason

@[ext]
structure WorkEscalationState where
  request                   : WorkEscalationRequest
  slotIndex                 : Nat
  status                    : WorkEscalationStatus
  revision                  : Nat
  previousStateDigest       : Option String := none
  platformObservationDigest : Option String := none
  nativeExecutionRef        : Option String := none
  conditionRef              : Option String := none
  failureReason             : Option String := none
  authorityCreated          : Bool := false
  schemaVersion             : String := "ge.work-escalation-state.v1"
  version                   : schemaVersion = "ge.work-escalation-state.v1"
  positive                  : 0 < slotIndex
  budget                    : slotIndex ≤ request.maxWorkInvocations
  noAuthority               : authorityCreated = false
  evidence :
    EscalationEvidence status revision previousStateDigest platformObservationDigest
      nativeExecutionRef conditionRef failureReason

instance : DecidableEq WorkEscalationState :=
  fun _ _ => decidable_of_iff _ WorkEscalationState.ext_iff.symm

namespace WorkEscalationState

def new (request : WorkEscalationRequest) (slotIndex : Nat) (status : WorkEscalationStatus)
    (revision : Nat)
    (previousStateDigest platformObservationDigest nativeExecutionRef conditionRef failureReason :
      Option String)
    (authorityCreated : Bool) (schemaVersion : String) : Py WorkEscalationState := do
  let ⟨h₁⟩ ← Py.check (schemaVersion = "ge.work-escalation-state.v1") .workEscalationError
    "unsupported Work escalation state schema"
  let ⟨h₂⟩ ← Py.check (0 < slotIndex) .workEscalationError "slot_index must be greater than zero"
  let ⟨h₃⟩ ← Py.check (slotIndex ≤ request.maxWorkInvocations) .workEscalationError
    "Work escalation slot exceeds request budget"
  let ⟨h₄⟩ ← Py.check (authorityCreated = false) .workEscalationError
    "Work escalation state cannot create authority"
  let ⟨h₅⟩ ← Py.check
    (EscalationEvidence status revision previousStateDigest platformObservationDigest
      nativeExecutionRef conditionRef failureReason)
    .workEscalationError
    (escalationMessage status revision previousStateDigest platformObservationDigest
      nativeExecutionRef conditionRef failureReason)
  return {
    request, slotIndex, status, revision, previousStateDigest, platformObservationDigest,
    nativeExecutionRef, conditionRef, failureReason, authorityCreated, schemaVersion,
    version := h₁, positive := h₂, budget := h₃, noAuthority := h₄, evidence := h₅ }

theorem new_eq (s : WorkEscalationState) :
    new s.request s.slotIndex s.status s.revision s.previousStateDigest
      s.platformObservationDigest s.nativeExecutionRef s.conditionRef s.failureReason
      s.authorityCreated s.schemaVersion = .ok s := by
  simp only [new, Py.check_of s.version, Py.check_of s.positive, Py.check_of s.budget,
    Py.check_of s.noAuthority, Py.check_of s.evidence, Except.ok_bind]
  rfl

instance : AsDict WorkEscalationState where
  asdict s := [
    ("request", toPy s.request),
    ("slot_index", toPy s.slotIndex),
    ("status", toPy s.status),
    ("revision", toPy s.revision),
    ("previous_state_digest", toPy s.previousStateDigest),
    ("platform_observation_digest", toPy s.platformObservationDigest),
    ("native_execution_ref", toPy s.nativeExecutionRef),
    ("condition_ref", toPy s.conditionRef),
    ("failure_reason", toPy s.failureReason),
    ("authority_created", toPy s.authorityCreated),
    ("schema_version", toPy s.schemaVersion)]

end WorkEscalationState

@[ext]
structure WorkPlatformActivationRequest where
  workRequestId       : String
  workRequestDigest   : String
  reservationDigest   : String
  slotIndex           : Nat
  launchReceiptId     : String
  launchReceiptDigest : String
  dispatchIdentity    : String
  repository          : String
  sourceRevision      : String
  authorityRef        : String
  objective           : String
  executionTriggered  : Bool := false
  authorityCreated    : Bool := false
  schemaVersion       : String := "ge.work-platform-activation-request.v1"
  version             : schemaVersion = "ge.work-platform-activation-request.v1"
  nonempty :
    ∀ x ∈ [("work_request_id", workRequestId), ("launch_receipt_id", launchReceiptId),
      ("dispatch_identity", dispatchIdentity), ("repository", repository),
      ("source_revision", sourceRevision), ("authority_ref", authorityRef),
      ("objective", objective)], ¬Text.Blank x.2
  isSha256 :
    ∀ x ∈ [("work_request_digest", workRequestDigest), ("reservation_digest", reservationDigest),
      ("launch_receipt_digest", launchReceiptDigest)], Guard.StrippedSha256 x.2
  positive    : 0 < slotIndex
  noExecution : executionTriggered = false
  noAuthority : authorityCreated = false

namespace WorkPlatformActivationRequest

def new (workRequestId workRequestDigest reservationDigest : String) (slotIndex : Nat)
    (launchReceiptId launchReceiptDigest dispatchIdentity repository sourceRevision authorityRef
      objective : String)
    (executionTriggered authorityCreated : Bool) (schemaVersion : String) :
    Py WorkPlatformActivationRequest := do
  let ⟨h₁⟩ ← Py.check (schemaVersion = "ge.work-platform-activation-request.v1")
    .workEscalationError "unsupported Work platform request schema"
  let ⟨h₂⟩ ← Guard.nonempty .workEscalationError
    [("work_request_id", workRequestId), ("launch_receipt_id", launchReceiptId),
      ("dispatch_identity", dispatchIdentity), ("repository", repository),
      ("source_revision", sourceRevision), ("authority_ref", authorityRef),
      ("objective", objective)]
  let ⟨h₃⟩ ← Guard.strippedSha256 .workEscalationError
    [("work_request_digest", workRequestDigest), ("reservation_digest", reservationDigest),
      ("launch_receipt_digest", launchReceiptDigest)]
  let ⟨h₄⟩ ← Py.check (0 < slotIndex) .workEscalationError "slot_index must be greater than zero"
  let ⟨h₅⟩ ← Py.check (executionTriggered = false) .workEscalationError
    "platform activation request cannot claim execution"
  let ⟨h₆⟩ ← Py.check (authorityCreated = false) .workEscalationError
    "platform activation request cannot create authority"
  return {
    workRequestId, workRequestDigest, reservationDigest, slotIndex, launchReceiptId,
    launchReceiptDigest, dispatchIdentity, repository, sourceRevision, authorityRef, objective,
    executionTriggered, authorityCreated, schemaVersion, version := h₁, nonempty := h₂,
    isSha256 := h₃, positive := h₄, noExecution := h₅, noAuthority := h₆ }

instance : AsDict WorkPlatformActivationRequest where
  asdict r := [
    ("work_request_id", toPy r.workRequestId),
    ("work_request_digest", toPy r.workRequestDigest),
    ("reservation_digest", toPy r.reservationDigest),
    ("slot_index", toPy r.slotIndex),
    ("launch_receipt_id", toPy r.launchReceiptId),
    ("launch_receipt_digest", toPy r.launchReceiptDigest),
    ("dispatch_identity", toPy r.dispatchIdentity),
    ("repository", toPy r.repository),
    ("source_revision", toPy r.sourceRevision),
    ("authority_ref", toPy r.authorityRef),
    ("objective", toPy r.objective),
    ("execution_triggered", toPy r.executionTriggered),
    ("authority_created", toPy r.authorityCreated),
    ("schema_version", toPy r.schemaVersion)]

end WorkPlatformActivationRequest

-- `datetime.fromisoformat`, of whose result only the presence of a time zone is looked at.
class FromIsoFormat where
  hasTimezone? : List Char → Option Bool

-- `_time`
def ZonedTime [FromIsoFormat] (value : String) : Prop :=
  ¬Text.Blank value ∧
    FromIsoFormat.hasTimezone? (replaceZulu (Text.strip value.toList)) = some true

instance [FromIsoFormat] : DecidablePred ZonedTime :=
  fun _ => inferInstanceAs <| Decidable (_ ∧ _)

def zonedTimeMessage [FromIsoFormat] (name value : String) : String :=
  if Text.Blank value then name ++ " must be a non-empty string"
  else match FromIsoFormat.hasTimezone? (replaceZulu (Text.strip value.toList)) with
    | none   => name ++ " must be ISO-8601"
    | some _ => name ++ " must include timezone"

def PlatformEvidence (outcome : WorkPlatformOutcome)
    (nativeExecutionRef conditionRef failureReason : Option String) : Prop :=
  match outcome with
  | .platformAccepted =>
    Text.Present nativeExecutionRef ∧ conditionRef = none ∧ failureReason = none
  | .platformWait =>
    Text.Present conditionRef ∧ nativeExecutionRef = none ∧ failureReason = none
  | .humanReauthRequired =>
    (Text.Present conditionRef ∧ AuthRef (conditionRef.map Text.stripped)) ∧
      nativeExecutionRef = none ∧ failureReason = none
  | .failedActivation =>
    Text.Present failureReason ∧ nativeExecutionRef = none ∧ conditionRef = none

instance (outcome : WorkPlatformOutcome)
    (nativeExecutionRef conditionRef failureReason : Option String) :
    Decidable (PlatformEvidence outcome nativeExecutionRef conditionRef failureReason) := by
  unfold PlatformEvidence
  cases outcome <;> infer_instance

def platformMessage (outcome : WorkPlatformOutcome)
    (nativeExecutionRef conditionRef failureReason : Option String) : String :=
  match outcome with
  | .platformAccepted =>
    if Text.Present nativeExecutionRef then "accepted Work observation cannot carry wait/failure"
    else "native_execution_ref must be a non-empty string"
  | .platformWait =>
    if Text.Present conditionRef then "waiting Work observation cannot carry execution/failure"
    else "condition_ref must be a non-empty string"
  | .humanReauthRequired =>
    if ¬Text.Present conditionRef then "condition_ref must be a non-empty string"
    else if AuthRef (conditionRef.map Text.stripped) then
      "reauth Work observation cannot carry execution/failure"
    else "human reauthentication Work observation requires auth:// condition"
  | .failedActivation =>
    if Text.Present failureReason then "failed Work observation cannot carry execution/wait"
    else "failure_reason must be a non-empty string"

structure WorkPlatformObservation [FromIsoFormat] where
  platformRequestId     : String
  platformRequestDigest : String
  dispatchIdentity      : String
  outcome               : WorkPlatformOutcome
  observedAt            : String
  evidenceRef           : String
  evidenceDigest        : String
  nativeExecutionRef    : Option String := none
  conditionRef          : Option String := none
  failureReason         : Option String := none
  credentialsPersisted  : Bool := false
  cookiesPersisted      : Bool := false
  tokensPersisted       : Bool := false
  authorityCreated      : Bool := false
  schemaVersion         : String := "ge.work-platform-observation.v1"
  version               : schemaVersion = "ge.work-platform-observation.v1"
  nonempty :
    ∀ x ∈ [("platform_request_id", platformRequestId), ("dispatch_identity", dispatchIdentity),
      ("evidence_ref", evidenceRef)], ¬Text.Blank x.2
  isSha256 :
    ∀ x ∈ [("platform_request_digest", platformRequestDigest),
      ("evidence_digest", evidenceDigest)], Guard.StrippedSha256 x.2
  zoned       : ZonedTime observedAt
  noSecrets   : credentialsPersisted = false ∧ cookiesPersisted = false ∧ tokensPersisted = false
  noAuthority : authorityCreated = false
  evidence    : PlatformEvidence outcome nativeExecutionRef conditionRef failureReason

namespace WorkPlatformObservation

variable [FromIsoFormat]

def new (platformRequestId platformRequestDigest dispatchIdentity : String)
    (outcome : WorkPlatformOutcome) (observedAt evidenceRef evidenceDigest : String)
    (nativeExecutionRef conditionRef failureReason : Option String)
    (credentialsPersisted cookiesPersisted tokensPersisted authorityCreated : Bool)
    (schemaVersion : String) : Py WorkPlatformObservation := do
  let ⟨h₁⟩ ← Py.check (schemaVersion = "ge.work-platform-observation.v1") .workEscalationError
    "unsupported Work platform observation schema"
  Py.require (¬Text.Blank platformRequestId) .workEscalationError
    "platform_request_id must be a non-empty string"
  Py.require (Guard.StrippedSha256 platformRequestDigest) .workEscalationError <|
    Guard.strippedSha256Message "platform_request_digest" platformRequestDigest
  Py.require (¬Text.Blank dispatchIdentity) .workEscalationError
    "dispatch_identity must be a non-empty string"
  let ⟨h₂⟩ ← Py.check (ZonedTime observedAt) .workEscalationError <|
    zonedTimeMessage "observed_at" observedAt
  let ⟨h₃⟩ ← Guard.nonempty .workEscalationError
    [("platform_request_id", platformRequestId), ("dispatch_identity", dispatchIdentity),
      ("evidence_ref", evidenceRef)]
  let ⟨h₄⟩ ← Guard.strippedSha256 .workEscalationError
    [("platform_request_digest", platformRequestDigest), ("evidence_digest", evidenceDigest)]
  let ⟨h₅⟩ ← Py.check
    (credentialsPersisted = false ∧ cookiesPersisted = false ∧ tokensPersisted = false)
    .workEscalationError "Work platform observation cannot persist auth secrets"
  let ⟨h₆⟩ ← Py.check (authorityCreated = false) .workEscalationError
    "Work platform observation cannot create authority"
  let ⟨h₇⟩ ← Py.check (PlatformEvidence outcome nativeExecutionRef conditionRef failureReason)
    .workEscalationError (platformMessage outcome nativeExecutionRef conditionRef failureReason)
  return {
    platformRequestId, platformRequestDigest, dispatchIdentity, outcome, observedAt, evidenceRef,
    evidenceDigest, nativeExecutionRef, conditionRef, failureReason, credentialsPersisted,
    cookiesPersisted, tokensPersisted, authorityCreated, schemaVersion, version := h₁,
    nonempty := h₃, isSha256 := h₄, zoned := h₂, noSecrets := h₅, noAuthority := h₆,
    evidence := h₇ }

instance : AsDict WorkPlatformObservation where
  asdict o := [
    ("platform_request_id", toPy o.platformRequestId),
    ("platform_request_digest", toPy o.platformRequestDigest),
    ("dispatch_identity", toPy o.dispatchIdentity),
    ("outcome", toPy o.outcome),
    ("observed_at", toPy o.observedAt),
    ("evidence_ref", toPy o.evidenceRef),
    ("evidence_digest", toPy o.evidenceDigest),
    ("native_execution_ref", toPy o.nativeExecutionRef),
    ("condition_ref", toPy o.conditionRef),
    ("failure_reason", toPy o.failureReason),
    ("credentials_persisted", toPy o.credentialsPersisted),
    ("cookies_persisted", toPy o.cookiesPersisted),
    ("tokens_persisted", toPy o.tokensPersisted),
    ("authority_created", toPy o.authorityCreated),
    ("schema_version", toPy o.schemaVersion)]

end WorkPlatformObservation

-- Reading a stored state.

def workEscalationRequestFromDict (data : Json) : Py WorkEscalationRequest := do
  Field.kwargs
    ["work_id", "objective", "repository", "source_revision", "authority_ref", "envelope_digest",
      "work_item_digest", "routing_decision_digest", "selected_executor_digest",
      "required_capabilities", "requested_actions", "max_work_invocations", "authority_digest"]
    ["authority_created", "execution_triggered", "schema_version"] data
  WorkEscalationRequest.new
    (← Field.get Read.string data "work_id")
    (← Field.get Read.string data "objective")
    (← Field.get Read.string data "repository")
    (← Field.get Read.string data "source_revision")
    (← Field.get Read.string data "authority_ref")
    (← Field.get Read.string data "envelope_digest")
    (← Field.get Read.string data "work_item_digest")
    (← Field.get Read.string data "routing_decision_digest")
    (← Field.get Read.string data "selected_executor_digest")
    (← Field.get (Read.list Read.string) data "required_capabilities")
    (← Field.get (Read.list Read.string) data "requested_actions")
    (← Field.get (Read.nat "max_work_invocations must be a non-negative integer") data
      "max_work_invocations")
    (← Field.get Read.string data "authority_digest")
    (← Field.getD Typed.bool false data "authority_created")
    (← Field.getD Typed.bool false data "execution_triggered")
    (← Field.getD Read.string "ge.work-escalation-request.v1" data "schema_version")

def workEscalationStateOfFields (data requestData : Json) : Py WorkEscalationState := do
  let request ← workEscalationRequestFromDict requestData
  Field.kwargs ["request", "slot_index", "status", "revision"]
    ["previous_state_digest", "platform_observation_digest", "native_execution_ref",
      "condition_ref", "failure_reason", "authority_created", "schema_version"] data
  WorkEscalationState.new request
    (← Field.get (Read.nat "slot_index must be a non-negative integer") data "slot_index")
    (← Field.get (Read.literal "unsupported Work escalation state") data "status")
    (← Field.get (Read.nat "revision must be a non-negative integer") data "revision")
    (← Field.getD (Read.opt Read.string) none data "previous_state_digest")
    (← Field.getD (Read.opt Read.string) none data "platform_observation_digest")
    (← Field.getD (Read.opt Read.string) none data "native_execution_ref")
    (← Field.getD (Read.opt Read.string) none data "condition_ref")
    (← Field.getD (Read.opt Read.string) none data "failure_reason")
    (← Field.getD Typed.bool false data "authority_created")
    (← Field.getD Read.string "ge.work-escalation-state.v1" data "schema_version")

-- `_state_from_dict`
def workEscalationStateFromDict (data : Json) : Py WorkEscalationState := do
  let requestData ← Py.ofOption .workEscalationError
    "stored Work escalation state requires request" <| (data.get? "request").filter Json.isObj
  Py.wrap [.typeError, .valueError] .workEscalationError "invalid Work escalation state" <|
    workEscalationStateOfFields data requestData

section Digests

variable [Sha256]

def WorkEscalationState.reservationDigest (s : WorkEscalationState) : String :=
  sha256Digest <| .dict [
    ("request_id", toPy s.request.requestId),
    ("request_digest", toPy s.request.digest),
    ("authority_ref", toPy s.request.authorityRef),
    ("envelope_digest", toPy s.request.envelopeDigest),
    ("slot_index", toPy s.slotIndex)]

def WorkEscalationState.digest (s : WorkEscalationState) : String :=
  sha256Digest (toPy s)

def WorkPlatformActivationRequest.platformRequestId (r : WorkPlatformActivationRequest) : String :=
  stableId "gewp" (toPy r)

def WorkPlatformActivationRequest.digest (r : WorkPlatformActivationRequest) : String :=
  sha256Digest (toPy r)

def WorkPlatformObservation.digest [FromIsoFormat] (o : WorkPlatformObservation) : String :=
  sha256Digest (toPy o)

def recordWorkPlatformObservation [FromIsoFormat] (state : WorkEscalationState)
    (platformRequest : WorkPlatformActivationRequest) (observation : WorkPlatformObservation) :
    Py WorkEscalationState := do
  Py.require (state.status.terminal = false) .workEscalationError
    "terminal Work escalation state cannot transition"
  Py.require (platformRequest.workRequestId = state.request.requestId) .workEscalationError
    "platform request Work identity mismatch"
  Py.require (platformRequest.workRequestDigest = state.request.digest) .workEscalationError
    "platform request Work digest mismatch"
  Py.require (platformRequest.reservationDigest = state.reservationDigest) .workEscalationError
    "platform request reservation mismatch"
  Py.require (observation.platformRequestId = platformRequest.platformRequestId)
    .workEscalationError "Work platform observation request identity mismatch"
  Py.require (observation.platformRequestDigest = platformRequest.digest) .workEscalationError
    "Work platform observation request digest mismatch"
  Py.require (observation.dispatchIdentity = platformRequest.dispatchIdentity)
    .workEscalationError "Work platform observation dispatch mismatch"
  let recorded (status : WorkEscalationStatus)
      (nativeExecutionRef conditionRef failureReason : Option String) :=
    WorkEscalationState.new state.request state.slotIndex status (state.revision + 1)
      (some state.digest) (some observation.digest) nativeExecutionRef conditionRef failureReason
      false "ge.work-escalation-state.v1"
  match observation.outcome with
  | .platformAccepted    => recorded .platformAccepted observation.nativeExecutionRef none none
  | .platformWait        => recorded .platformWait none observation.conditionRef none
  | .humanReauthRequired => recorded .humanReauthRequired none observation.conditionRef none
  | .failedActivation    => recorded .failedActivation none none observation.failureReason

end Digests

end GeneralExecution
