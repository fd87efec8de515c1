import GeneralExecution.Routing.Contracts

namespace GeneralExecution

inductive ResourceEconomics
  | ownedLocal
  | includedAllowance
  | zeroCostProvider
  | paid
  | unknown
deriving DecidableEq

instance : PyLiteral ResourceEconomics where
  spelling
    | .ownedLocal        => "owned_local"
    | .includedAllowance => "included_allowance"
    | .zeroCostProvider  => "zero_cost_provider"
    | .paid              => "paid"
    | .unknown           => "unknown"
  values           := [.ownedLocal, .includedAllowance, .zeroCostProvider, .paid, .unknown]
  parse_spelling a := by cases a <;> rfl

-- `_ABUNDANT_ECONOMICS`
def ResourceEconomics.abundant : List ResourceEconomics :=
  [.ownedLocal, .includedAllowance, .zeroCostProvider]

structure ResourceOffer where
  resourceId                        : String
  capabilities                      : List String
  maxParallelism                    : Nat
  economics                         : ResourceEconomics
  incrementalCostCentsPerInvocation : Nat
  automaticPaidFallback             : Bool
  available                         : Bool
  evidenceRefs                      : List String
  authorityCreated                  : Bool := false
  schemaVersion                     : String := "ge.abundant-resource-offer.v1"
  schema                            : schemaVersion = "ge.abundant-resource-offer.v1"
  nonempty                          : ∀ x ∈ [("resource_id", resourceId)], ¬Text.Blank x.2
  unique :
    ∀ x ∈ [("capabilities", false, capabilities), ("evidence_refs", false, evidenceRefs)],
      Guard.Stripped x.2
  positive                          : 1 ≤ maxParallelism
  noAuthority                       : authorityCreated = false
  free                              :
    economics ∈ ResourceEconomics.abundant → incrementalCostCentsPerInvocation = 0

namespace ResourceOffer

instance : AsDict ResourceOffer where
  asdict o := [
    ("resource_id", toPy o.resourceId),
    ("capabilities", toPy o.capabilities),
    ("max_parallelism", toPy o.maxParallelism),
    ("economics", toPy o.economics),
    ("incremental_cost_cents_per_invocation", toPy o.incrementalCostCentsPerInvocation),
    ("automatic_paid_fallback", toPy o.automaticPaidFallback),
    ("available", toPy o.available),
    ("evidence_refs", toPy o.evidenceRefs),
    ("authority_created", toPy o.authorityCreated),
    ("schema_version", toPy o.schemaVersion)]

def digest [Sha256] (o : ResourceOffer) : String :=
  sha256Digest (toPy o)

end ResourceOffer

structure AbundantResourceAuthorityEnvelope where
  envelopeId          : String
  authorityRef        : String
  allowedResourceIds  : List String
  allowedCapabilities : List String
  maxTotalParallelism : Nat
  allowPaidResources  : Bool := false
  authorityCreated    : Bool := false
  schemaVersion       : String := "ge.abundant-resource-authority-envelope.v1"
  schema              : schemaVersion = "ge.abundant-resource-authority-envelope.v1"
  nonempty            :
    ∀ x ∈ [("envelope_id", envelopeId), ("authority_ref", authorityRef)], ¬Text.Blank x.2
  unique :
    ∀ x ∈ [("allowed_resource_ids", false, allowedResourceIds),
      ("allowed_capabilities", false, allowedCapabilities)], Guard.Stripped x.2
  positive            : 1 ≤ maxTotalParallelism
  noAuthority         : authorityCreated = false

namespace AbundantResourceAuthorityEnvelope

instance : AsDict AbundantResourceAuthorityEnvelope where
  asdict e := [
    ("envelope_id", toPy e.envelopeId),
    ("authority_ref", toPy e.authorityRef),
    ("allowed_resource_ids", toPy e.allowedResourceIds),
    ("allowed_capabilities", toPy e.allowedCapabilities),
    ("max_total_parallelism", toPy e.maxTotalParallelism),
    ("allow_paid_resources", toPy e.allowPaidResources),
    ("authority_created", toPy e.authorityCreated),
    ("schema_version", toPy e.schemaVersion)]

def digest [Sha256] (e : AbundantResourceAuthorityEnvelope) : String :=
  sha256Digest (toPy e)

end AbundantResourceAuthorityEnvelope

structure ResourceRejection where
  resourceId : String
  reasons    : List String

instance : AsDict ResourceRejection where
  asdict r := [("resource_id", toPy r.resourceId), ("reasons", toPy r.reasons)]

structure AbundantResourceAdmission where
  envelopeDigest            : String
  admittedResourceIds       : List String
  admittedResourceDigests   : List String
  rejected                  : List ResourceRejection
  admittedParallelism       : Nat
  incrementalPaidSpendCents : Nat
  authorityCreated          : Bool := false
  executionTriggered        : Bool := false
  protocolVersion           : String := "0.1.0"
  schemaVersion             : String := "ge.abundant-resource-admission.v1"
  decisionDigest            : String := ""
  inert                     : authorityCreated = false ∧ executionTriggered = false
  unpaid                    : incrementalPaidSpendCents = 0

namespace AbundantResourceAdmission

-- `_decision_payload`
def payload (d : AbundantResourceAdmission) : PyDict := [
  ("envelope_digest", toPy d.envelopeDigest),
  ("admitted_resource_ids", toPy d.admittedResourceIds),
  ("admitted_resource_digests", toPy d.admittedResourceDigests),
  ("rejected", toPy d.rejected),
  ("admitted_parallelism", toPy d.admittedParallelism),
  ("incremental_paid_spend_cents", toPy d.incrementalPaidSpendCents),
  ("authority_created", toPy d.authorityCreated),
  ("execution_triggered", toPy d.executionTriggered),
  ("protocol_version", toPy d.protocolVersion),
  ("schema_version", toPy d.schemaVersion)]

-- `admission_to_dict`
instance : AsDict AbundantResourceAdmission where
  asdict d := d.payload ++ [("decision_digest", toPy d.decisionDigest)]

end AbundantResourceAdmission

-- `reasons`, before they are sorted
def resourceReasons (envelope : AbundantResourceAuthorityEnvelope) (o : ResourceOffer) :
    List String :=
  (if o.resourceId ∈ envelope.allowedResourceIds then []
    else ["resource_outside_authority_envelope"]) ++
  (if o.available then [] else ["resource_unavailable"]) ++
  (if o.capabilities ⊆ envelope.allowedCapabilities then []
    else ["capability_outside_authority_envelope"]) ++
  (if o.economics ∈ ResourceEconomics.abundant then []
    else ["economics_not_abundant:" ++ PyLiteral.spelling o.economics]) ++
  (if o.incrementalCostCentsPerInvocation = 0 then [] else ["nonzero_incremental_cost"]) ++
  (if o.automaticPaidFallback then ["automatic_paid_fallback_enabled"] else []) ++
  (if o.economics = .paid ∧ ¬envelope.allowPaidResources then ["paid_resource_not_authorized"]
    else [])

-- The first loop: the offers that have a reason are rejected.
def rejectedOffers (envelope : AbundantResourceAuthorityEnvelope) (offers : List ResourceOffer) :
    List ResourceRejection :=
  (offers.filter fun o => resourceReasons envelope o ≠ []).map fun o =>
    { resourceId := o.resourceId, reasons := (resourceReasons envelope o).dedup.mergeSort }

-- What the second loop carries: `bounded` is the offers of `bounded_ids` and `bounded_digests`.
structure ParallelismBudget where
  remaining           : Nat
  bounded             : List ResourceOffer := []
  admittedParallelism : Nat := 0
  rejected            : List ResourceRejection

namespace ParallelismBudget

def reject (s : ParallelismBudget) (o : ResourceOffer) (reason : String) : ParallelismBudget :=
  { s with rejected := s.rejected ++ [{ resourceId := o.resourceId, reasons := [reason] }] }

-- A turn of the loop. A part of an offer's parallelism is never granted.
def step (s : ParallelismBudget) (o : ResourceOffer) : ParallelismBudget :=
  if s.remaining ≤ 0 then s.reject o "global_parallelism_envelope_exhausted"
  else
    let granted := min o.maxParallelism s.remaining
    if granted < o.maxParallelism then
      s.reject o "resource_capacity_exceeds_remaining_envelope"
    else
      { s with
        remaining           := s.remaining - granted
        bounded             := s.bounded ++ [o]
        admittedParallelism := s.admittedParallelism + granted }

end ParallelismBudget

-- Both loops, over the sorted offers.
def boundParallelism (envelope : AbundantResourceAuthorityEnvelope) (offers : List ResourceOffer) :
    ParallelismBudget :=
  (offers.filter fun o => resourceReasons envelope o = []).foldl ParallelismBudget.step
    { remaining := envelope.maxTotalParallelism, rejected := rejectedOffers envelope offers }

variable [Sha256]

def admitAbundantResources (envelope : AbundantResourceAuthorityEnvelope)
    (offers : List ResourceOffer) : Py AbundantResourceAdmission := do
  Py.require (offers.map ResourceOffer.resourceId).Nodup .abundantResourceError
    "resource_id values must be unique"
  let s := boundParallelism envelope <| offers.mergeSort fun a b => a.resourceId ≤ b.resourceId
  let provisional : AbundantResourceAdmission := {
    envelopeDigest            := envelope.digest
    admittedResourceIds       := s.bounded.map ResourceOffer.resourceId
    admittedResourceDigests   := s.bounded.map ResourceOffer.digest
    rejected                  := s.rejected.mergeSort fun a b => a.resourceId ≤ b.resourceId
    admittedParallelism       := s.admittedParallelism
    incrementalPaidSpendCents := 0
    inert                     := unset₂
    unpaid                    := rfl }
  return { provisional with decisionDigest := sha256Digest (.dict provisional.payload) }

-- A decoded decision is compared by its canonical text, in which the order of the members of an
-- object does not count.
def verifyAbundantResourceAdmission (envelope : AbundantResourceAuthorityEnvelope)
    (offers : List ResourceOffer) (decision : Json) : Bool :=
  match admitAbundantResources envelope offers with
  | .ok expected => canonicalJson (toPy expected) = canonicalJson (ofJson decision)
  | .error _     => false

end GeneralExecution
