import GeneralExecution.Objects.PhysicalWire
import GeneralExecution.Objects.Theorems.Operations

namespace GeneralExecution

variable [Sha256] {b b' : PhysicalOutcomeBundle} {auth : PhysicalAttemptAuthorization}

-- The bundle and every record in it carry the schema version of their class.
structure PhysicalOutcomeBundle.DefaultVersions (b : PhysicalOutcomeBundle) : Prop where
  bundle         : b.schemaVersion = "ge.physical-outcome.v1"
  authorization  : b.authorization.schemaVersion = "ge.physical-authorization.v1"
  request        : b.authorization.request.schemaVersion = "ge.adapter-dispatch.v1"
  spec           : b.authorization.request.spec.schemaVersion = "ge.execution-spec.v1"
  observation    : b.observation.schemaVersion = "ge.physical-observation.v1"
  observedResult : ∀ r ∈ b.observation.result, r.schemaVersion = "ge.result-envelope.v1"
  receipt        : b.receipt.schemaVersion = "ge.physical-receipt.v1"
  result         : ∀ r ∈ b.result, r.schemaVersion = "ge.result-envelope.v1"

namespace PhysicalOutcomeBundle.DefaultVersions

omit [Sha256] in
theorem supported (h : b.DefaultVersions) : b.Supported where
  authorization := ⟨h.authorization, h.request, h.spec⟩
  observation   := ⟨h.observation, h.observedResult⟩
  receipt       := h.receipt
  result        := h.result

omit [Sha256] in
-- Only the bundle's own version is not on the wire.
theorem onWire_eq (h : b.DefaultVersions) : b.onWire = b :=
  PhysicalOutcomeBundle.ext rfl rfl rfl rfl h.bundle.symm

end PhysicalOutcomeBundle.DefaultVersions

theorem deserializePhysicalOutcome_default {payload : String} (hd : b.DefaultVersions)
    (h : serializePhysicalOutcome b = .ok payload) : deserializePhysicalOutcome payload = .ok b :=
  (deserializePhysicalOutcome_serialize h).mpr ⟨hd.supported, hd.onWire_eq.symm⟩

theorem serializePhysicalOutcome_injective {payload : String} (hd : b.DefaultVersions)
    (hd' : b'.DefaultVersions) (h : serializePhysicalOutcome b = .ok payload)
    (h' : serializePhysicalOutcome b' = .ok payload) : b = b' :=
  Except.ok.inj <| (deserializePhysicalOutcome_default hd h).symm.trans
    (deserializePhysicalOutcome_default hd' h')

-- What is written of an outcome is read as that outcome, and is written of no other.
theorem physicalOutcome_roundTrip (b : PhysicalOutcomeBundle)
    (hv : verifyIntrinsicOutcome b = true) (hd : b.DefaultVersions) :
    ∃ payload, serializePhysicalOutcome b = .ok payload ∧
      deserializePhysicalOutcome payload = .ok b ∧
      ∀ b' : PhysicalOutcomeBundle, b'.DefaultVersions →
        serializePhysicalOutcome b' = .ok payload → b' = b := by
  have h := serializePhysicalOutcome_eq_ok.mpr ⟨hv, rfl⟩
  refine ⟨_, h, deserializePhysicalOutcome_default hd h, fun b' hd' h' => ?_⟩
  exact serializePhysicalOutcome_injective hd' hd h' h

-- The outcome of an attempt that has timed out.
def timedOut (auth : PhysicalAttemptAuthorization) : PhysicalOutcomeBundle :=
  admitted auth {
    authorizationId      := auth.authorizationId
    invocationId         := auth.request.invocationId
    requestDigest        := auth.request.digest
    providerInvocationId := none
    transportStatus      := .timedOut
    result               := none
    failureCode          := some "timeout"
    detailDigest         := none
    responseDigest       := responseDigest auth none .timedOut none (some "timeout") none
    completed h          := by contradiction
    failed _             := ⟨rfl, by decide⟩ }

theorem verifyIntrinsicOutcome_timedOut : verifyIntrinsicOutcome (timedOut auth) = true :=
  verifyIntrinsicOutcome_admitted <| by simp [verifyObservationAgainstAuthorization]

theorem timedOut_defaultVersions (ha : auth.schemaVersion = "ge.physical-authorization.v1")
    (hr : auth.request.schemaVersion = "ge.adapter-dispatch.v1")
    (hs : auth.request.spec.schemaVersion = "ge.execution-spec.v1") :
    (timedOut auth).DefaultVersions where
  bundle         := rfl
  authorization  := ha
  request        := hr
  spec           := hs
  observation    := rfl
  observedResult := by simp [timedOut, admitted]
  receipt        := rfl
  result         := by simp [timedOut, admitted]

omit [Sha256] in
theorem physicalOutcome_roundTrip_timedOut : let _ := Sha256.blind
    let b := timedOut (firstAttempt (referenceRequest "gei-1" (by decide)))
    ∃ payload, serializePhysicalOutcome b = .ok payload ∧
      deserializePhysicalOutcome payload = .ok b ∧
      ∀ b' : PhysicalOutcomeBundle, b'.DefaultVersions →
        serializePhysicalOutcome b' = .ok payload → b' = b := by
  intro _ b
  exact physicalOutcome_roundTrip b verifyIntrinsicOutcome_timedOut
    (timedOut_defaultVersions rfl rfl rfl)

end GeneralExecution
