import GeneralExecution.Objects.Physical

namespace GeneralExecution

def physicalOutcomeWireSchema : String :=
  "ge.physical-outcome-wire.v1"

def physicalAuthorizationToDict (authorization : PhysicalAttemptAuthorization) : PyDict := [
  ("schema_version", toPy authorization.schemaVersion),
  ("request", .dict (requestToDict authorization.request)),
  ("physical_attempt", toPy authorization.physicalAttempt),
  ("previous_invocation_id", toPy authorization.previousInvocationId),
  ("previous_receipt_digest", toPy authorization.previousReceiptDigest)]

def physicalAuthorizationFromDict (data : Json) : Py PhysicalAttemptAuthorization := do
  Py.require (Field.hasSchema data "ge.physical-authorization.v1") .physicalOutcomeCodecError
    "unsupported physical authorization schema"
  .wrap [.keyError, .typeError, .valueError] .physicalOutcomeCodecError
    "invalid physical authorization payload" do
      PhysicalAttemptAuthorization.new
        (← Field.get requestFromDict data "request")
        (← Field.get (Read.nat "physical_attempt must be >= 1") data "physical_attempt")
        (← Field.getD (Read.opt Read.string) none data "previous_invocation_id")
        (← Field.getD (Read.opt Read.string) none data "previous_receipt_digest")

def physicalObservationToDict (observation : PhysicalObservation) : PyDict := [
  ("schema_version", toPy observation.schemaVersion),
  ("authorization_id", toPy observation.authorizationId),
  ("invocation_id", toPy observation.invocationId),
  ("request_digest", toPy observation.requestDigest),
  ("provider_invocation_id", toPy observation.providerInvocationId),
  ("transport_status", toPy observation.transportStatus),
  ("result", resultToDict? observation.result),
  ("failure_code", toPy observation.failureCode),
  ("detail_digest", toPy observation.detailDigest),
  ("response_digest", toPy observation.responseDigest)]

def physicalObservationFromDict (data : Json) : Py PhysicalObservation := do
  Py.require (Field.hasSchema data "ge.physical-observation.v1") .physicalOutcomeCodecError
    "unsupported physical observation schema"
  .wrap [.keyError, .typeError, .valueError] .physicalOutcomeCodecError
    "invalid physical observation payload" do
      let result ← Field.getD (Read.opt resultFromDict) none data "result"
      PhysicalObservation.new
        (← Field.get Read.string data "authorization_id")
        (← Field.get Read.string data "invocation_id")
        (← Field.get Read.string data "request_digest")
        (← Field.getD (Read.opt Read.string) none data "provider_invocation_id")
        (← Field.get Read.string data "transport_status")
        result
        (← Field.getD (Read.opt Read.string) none data "failure_code")
        (← Field.getD (Read.opt Read.string) none data "detail_digest")
        (← Field.get Read.string data "response_digest")

def physicalReceiptToDict (receipt : PhysicalReceipt) : PyDict := [
  ("schema_version", toPy receipt.schemaVersion),
  ("authorization_id", toPy receipt.authorizationId),
  ("authorization_digest", toPy receipt.authorizationDigest),
  ("invocation_id", toPy receipt.invocationId),
  ("request_digest", toPy receipt.requestDigest),
  ("physical_attempt", toPy receipt.physicalAttempt),
  ("previous_invocation_id", toPy receipt.previousInvocationId),
  ("previous_receipt_digest", toPy receipt.previousReceiptDigest),
  ("session_id", toPy receipt.sessionId),
  ("runner_id", toPy receipt.runnerId),
  ("provider", toPy receipt.provider),
  ("adapter", toPy receipt.adapter),
  ("adapter_version", toPy receipt.adapterVersion),
  ("provider_invocation_id", toPy receipt.providerInvocationId),
  ("transport_status", toPy receipt.transportStatus),
  ("response_digest", toPy receipt.responseDigest),
  ("observation_digest", toPy receipt.observationDigest),
  ("result_digest", toPy receipt.resultDigest),
  ("failure_code", toPy receipt.failureCode)]

def physicalReceiptFromDict (data : Json) : Py PhysicalReceipt := do
  Py.require (Field.hasSchema data "ge.physical-receipt.v1") .physicalOutcomeCodecError
    "unsupported physical receipt schema"
  .wrap [.keyError, .typeError, .valueError] .physicalOutcomeCodecError
    "invalid physical receipt payload" do
      PhysicalReceipt.new
        (← Field.get Read.string data "authorization_id")
        (← Field.get Read.string data "authorization_digest")
        (← Field.get Read.string data "invocation_id")
        (← Field.get Read.string data "request_digest")
        (← Field.get (Read.nat "physical_attempt must be >= 1") data "physical_attempt")
        (← Field.getD (Read.opt Read.string) none data "previous_invocation_id")
        (← Field.getD (Read.opt Read.string) none data "previous_receipt_digest")
        (← Field.get Read.string data "session_id")
        (← Field.get Read.string data "runner_id")
        (← Field.get Read.string data "provider")
        (← Field.get Read.string data "adapter")
        (← Field.get Read.string data "adapter_version")
        (← Field.getD (Read.opt Read.string) none data "provider_invocation_id")
        (← Field.get Read.string data "transport_status")
        (← Field.get Read.string data "response_digest")
        (← Field.get Read.string data "observation_digest")
        (← Field.getD (Read.opt Read.string) none data "result_digest")
        (← Field.getD (Read.opt Read.string) none data "failure_code")

-- The wire form has a schema of its own in place of the outcome's.
def physicalOutcomeToDict (outcome : PhysicalOutcomeBundle) : PyDict := [
  ("schema_version", toPy physicalOutcomeWireSchema),
  ("authorization", .dict (physicalAuthorizationToDict outcome.authorization)),
  ("observation", .dict (physicalObservationToDict outcome.observation)),
  ("receipt", .dict (physicalReceiptToDict outcome.receipt)),
  ("result", resultToDict? outcome.result)]

-- `except (KeyError, TypeError, ValueError)` that lets a codec error through.
def wrapUnlessCodec {α : Type} (message : String) : Py α → Py α
  | .error e =>
    if e.cls.IsA .physicalOutcomeCodecError then .error e
    else .wrap [.keyError, .typeError, .valueError] .physicalOutcomeCodecError message (.error e)
  | r => r

@[simp]
theorem wrapUnlessCodec_eq_ok {α : Type} {message : String} {x : Py α} {a : α} :
    wrapUnlessCodec message x = .ok a ↔ x = .ok a := by
  cases x
  case ok    => rfl
  case error =>
    simp only [wrapUnlessCodec]
    split <;> simp

-- What a record must carry for its wire form to be read again.
def PhysicalAttemptAuthorization.Supported (a : PhysicalAttemptAuthorization) : Prop :=
  a.schemaVersion = "ge.physical-authorization.v1" ∧ a.request.Supported

def PhysicalObservation.Supported (o : PhysicalObservation) : Prop :=
  o.schemaVersion = "ge.physical-observation.v1" ∧
    ∀ r ∈ o.result, r.schemaVersion = "ge.result-envelope.v1"

structure PhysicalOutcomeBundle.Supported (b : PhysicalOutcomeBundle) : Prop where
  authorization : b.authorization.Supported
  observation   : b.observation.Supported
  receipt       : b.receipt.schemaVersion = "ge.physical-receipt.v1"
  result        : ∀ r ∈ b.result, r.schemaVersion = "ge.result-envelope.v1"

-- The outcome that the wire form of `b` stands for.
def PhysicalOutcomeBundle.onWire (b : PhysicalOutcomeBundle) : PhysicalOutcomeBundle :=
  { b with schemaVersion := "ge.physical-outcome.v1" }

@[simp]
theorem physicalAuthorizationFromDict_normalize {a a' : PhysicalAttemptAuthorization} :
    physicalAuthorizationFromDict (normalize (.dict (physicalAuthorizationToDict a))) = .ok a' ↔
      a.Supported ∧ a' = a := by
  have hd : distinctKeys (physicalAuthorizationToDict a) = true := rfl
  simp only [physicalAuthorizationFromDict, Py.require, Except.ensure, Field.get, Field.getD,
    Field.hasSchema, normalize_get? hd]
  by_cases h : a.schemaVersion = "ge.physical-authorization.v1"
  case pos =>
    simp [physicalAuthorizationToDict, Json.lookup, h, PhysicalAttemptAuthorization.Supported]
    intro _
    rw [PhysicalAttemptAuthorization.new_eq a h, Except.ok.injEq, eq_comm]
  case neg =>
    simp [physicalAuthorizationToDict, Json.lookup, h, PhysicalAttemptAuthorization.Supported]

@[simp]
theorem physicalObservationFromDict_normalize {o o' : PhysicalObservation} :
    physicalObservationFromDict (normalize (.dict (physicalObservationToDict o))) = .ok o' ↔
      o.Supported ∧ o' = o := by
  have hd : distinctKeys (physicalObservationToDict o) = true := rfl
  simp only [physicalObservationFromDict, Py.require, Except.ensure, Field.get, Field.getD,
    Field.hasSchema, normalize_get? hd]
  by_cases h : o.schemaVersion = "ge.physical-observation.v1"
  case pos =>
    simp [physicalObservationToDict, Json.lookup, h, PhysicalObservation.Supported]
    intro _
    rw [PhysicalObservation.new_eq o h, Except.ok.injEq, eq_comm]
  case neg =>
    simp [physicalObservationToDict, Json.lookup, h, PhysicalObservation.Supported]

@[simp]
theorem physicalReceiptFromDict_normalize {r r' : PhysicalReceipt} :
    physicalReceiptFromDict (normalize (.dict (physicalReceiptToDict r))) = .ok r' ↔
      r.schemaVersion = "ge.physical-receipt.v1" ∧ r' = r := by
  have hd : distinctKeys (physicalReceiptToDict r) = true := rfl
  simp only [physicalReceiptFromDict, Py.require, Except.ensure, Field.get, Field.getD,
    Field.hasSchema, normalize_get? hd]
  by_cases h : r.schemaVersion = "ge.physical-receipt.v1"
  case pos =>
    simp [physicalReceiptToDict, Json.lookup, h]
    rw [PhysicalReceipt.new_eq r h, Except.ok.injEq, eq_comm]
  case neg => simp [physicalReceiptToDict, Json.lookup, h]

section Codec

variable [Sha256]

def physicalOutcomeFromDict (data : Json) : Py PhysicalOutcomeBundle := do
  Py.require (Field.hasSchema data physicalOutcomeWireSchema) .physicalOutcomeCodecError
    "unsupported physical outcome wire schema"
  let outcome ← wrapUnlessCodec "invalid physical outcome payload" do
    let authorization ← Field.get physicalAuthorizationFromDict data "authorization"
    let observation ← Field.get physicalObservationFromDict data "observation"
    let receipt ← Field.get physicalReceiptFromDict data "receipt"
    let result ← Field.getD (Read.opt resultFromDict) none data "result"
    return { authorization, observation, receipt, result : PhysicalOutcomeBundle }
  Py.require (verifyIntrinsicOutcome outcome) .physicalOutcomeCodecError
    "physical outcome payload fails intrinsic verification"
  return outcome

def serializePhysicalOutcome (outcome : PhysicalOutcomeBundle) : Py String := do
  Py.require (verifyIntrinsicOutcome outcome) .physicalOutcomeCodecError
    "physical outcome fails intrinsic verification"
  return canonicalJson (.dict (physicalOutcomeToDict outcome))

def deserializePhysicalOutcome (payload : String) : Py PhysicalOutcomeBundle := do
  let data ← Py.ofOption .physicalOutcomeCodecError "physical outcome payload is not valid JSON" <|
    Json.loads payload
  let outcome ← physicalOutcomeFromDict data
  Py.require ((← serializePhysicalOutcome outcome) = payload) .physicalOutcomeCodecError
    "physical outcome payload is not canonical"
  return outcome

theorem verifyIntrinsicOutcome_onWire (b : PhysicalOutcomeBundle) :
    verifyIntrinsicOutcome b.onWire = verifyIntrinsicOutcome b :=
  rfl

theorem physicalOutcomeFromDict_normalize {b b' : PhysicalOutcomeBundle} :
    physicalOutcomeFromDict (normalize (.dict (physicalOutcomeToDict b))) = .ok b' ↔
      b.Supported ∧ verifyIntrinsicOutcome b ∧ b' = b.onWire := by
  have hd : distinctKeys (physicalOutcomeToDict b) = true := rfl
  simp only [physicalOutcomeFromDict, Field.get, Field.getD, Field.hasSchema, normalize_get? hd]
  simp [physicalOutcomeToDict, Json.lookup]
  constructor
  · rintro ⟨⟨h₁, h₂, h₃, h₄, rfl⟩, h₅⟩
    exact ⟨⟨h₁, h₂, h₃, h₄⟩, h₅, rfl⟩
  · rintro ⟨⟨h₁, h₂, h₃, h₄⟩, h₅, rfl⟩
    exact ⟨⟨h₁, h₂, h₃, h₄, rfl⟩, h₅⟩

theorem serializePhysicalOutcome_eq_ok {b : PhysicalOutcomeBundle} {payload : String} :
    serializePhysicalOutcome b = .ok payload ↔
      verifyIntrinsicOutcome b ∧ canonicalJson (.dict (physicalOutcomeToDict b)) = payload := by
  simp [serializePhysicalOutcome]

-- The payload of an outcome is read back exactly when every record in it has the supported schema,
-- and is then the outcome up to its own schema version.
theorem deserializePhysicalOutcome_serialize {b b' : PhysicalOutcomeBundle} {payload : String}
    (h : serializePhysicalOutcome b = .ok payload) :
    deserializePhysicalOutcome payload = .ok b' ↔ b.Supported ∧ b' = b.onWire := by
  have ⟨hv, hp⟩ := serializePhysicalOutcome_eq_ok.mp h
  simp only [deserializePhysicalOutcome, ← hp, loads_canonicalJson, Except.bind_eq_ok,
    Py.ofOption_eq_ok, Option.some.injEq, exists_eq_left', physicalOutcomeFromDict_normalize,
    serializePhysicalOutcome_eq_ok, Py.require_eq_ok, Except.pure_eq_ok, hv, true_and]
  constructor
  · rintro ⟨_, ⟨hs, rfl⟩, _, _, _, _, rfl⟩
    exact ⟨hs, rfl⟩
  · rintro ⟨hs, rfl⟩
    exact ⟨_, ⟨hs, rfl⟩, _, ⟨hv, rfl⟩, (), rfl, rfl⟩

end Codec

end GeneralExecution
