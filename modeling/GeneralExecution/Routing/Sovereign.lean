import GeneralExecution.Routing.Contracts

namespace GeneralExecution

structure CapabilityMethod where
  methodId            : String
  evidencePredicates  : List String
  authorityRefs       : List String
  costRank            : Nat
  paidSpendCents      : Nat := 0
  available           : Bool := true
  evidenceQualityRank : Nat := 0
  authorityCreated    : Bool := false
  nonempty            : ∀ x ∈ [("method_id", methodId)], ¬Text.Blank x.2
  unique :
    ∀ x ∈ [("evidence_predicates", false, evidencePredicates),
      ("authority_refs", false, authorityRefs)], Guard.Stripped x.2
  noAuthority         : authorityCreated = false

namespace CapabilityMethod

def new (methodId : String) (evidencePredicates authorityRefs : List String)
    (costRank paidSpendCents : Nat) (available : Bool) (evidenceQualityRank : Nat)
    (authorityCreated : Bool) : Py CapabilityMethod := do
  let ⟨h₁⟩ ← Guard.nonempty .predictiveSovereignError [("method_id", methodId)]
  let ⟨h₂⟩ ← Guard.stripped .predictiveSovereignError
    [("evidence_predicates", false, evidencePredicates), ("authority_refs", false, authorityRefs)]
  let ⟨h₃⟩ ← Py.check (authorityCreated = false) .predictiveSovereignError
    "capability method cannot create authority"
  return {
    methodId, evidencePredicates, authorityRefs, costRank, paidSpendCents, available,
    evidenceQualityRank, authorityCreated, nonempty := h₁, unique := h₂, noAuthority := h₃ }

theorem new_eq (m : CapabilityMethod) :
    new m.methodId m.evidencePredicates m.authorityRefs m.costRank m.paidSpendCents m.available
      m.evidenceQualityRank m.authorityCreated = .ok m := by
  simp only [new, Guard.nonempty_of m.nonempty, Guard.stripped_of m.unique,
    Py.check_of m.noAuthority, Except.ok_bind]
  rfl

end CapabilityMethod

structure CapabilitySubstitutionDecision where
  predicate                  : String
  selectedMethodId           : Option String
  rejected                   : List (String × List String)
  deferred                   : Bool
  evidencePredicatePreserved : Bool
  authorityCreated           : Bool := false
  executionTriggered         : Bool := false
  schemaVersion              : String := "ge.capability-substitution-decision.v1"
  nonempty                   : ∀ x ∈ [("predicate", predicate)], ¬Text.Blank x.2
  selection                  : deferred = selectedMethodId.isNone
  inert                      : authorityCreated = false ∧ executionTriggered = false

instance : AsDict CapabilitySubstitutionDecision where
  asdict d := [
    ("predicate", toPy d.predicate),
    ("selected_method_id", toPy d.selectedMethodId),
    ("rejected", toPy d.rejected),
    ("deferred", toPy d.deferred),
    ("evidence_predicate_preserved", toPy d.evidencePredicatePreserved),
    ("authority_created", toPy d.authorityCreated),
    ("execution_triggered", toPy d.executionTriggered),
    ("schema_version", toPy d.schemaVersion)]

-- Why a method is rejected, for what is allowed, active, spendable and required.
def methodRejection (predicate : String) (allowed authorities : List String)
    (maxPaidSpendCents minimumEvidenceQualityRank : Nat) (m : CapabilityMethod) : List String :=
  (if m.methodId ∈ allowed then [] else ["method_outside_authority"]) ++
    (if predicate ∈ m.evidencePredicates then [] else ["predicate_not_covered"]) ++
    (if m.authorityRefs ⊆ authorities then [] else ["authority_ref_not_active"]) ++
    (if m.available then [] else ["method_unavailable"]) ++
    (if m.paidSpendCents ≤ maxPaidSpendCents then [] else ["paid_spend_exceeds_envelope"]) ++
    (if minimumEvidenceQualityRank ≤ m.evidenceQualityRank then []
      else ["evidence_quality_insufficient"])

-- What `min` compares of the eligible methods.
def CapabilityMethod.substituteKey (m : CapabilityMethod) : ℕ ×ₗ ℕ ×ₗ ℕᵒᵈ ×ₗ String :=
  toLex (m.paidSpendCents, toLex (m.costRank,
    toLex (OrderDual.toDual m.evidenceQualityRank, m.methodId)))

def selectCapabilitySubstitute (predicate : String) (methods : List CapabilityMethod)
    (allowedMethodIds activeAuthorityRefs : List String)
    (maxPaidSpendCents minimumEvidenceQualityRank : Nat) : Py CapabilitySubstitutionDecision := do
  let ⟨h⟩ ← Guard.nonempty .predictiveSovereignError [("predicate", predicate)]
  let _ ← Guard.stripped .predictiveSovereignError
    [("allowed_method_ids", false, allowedMethodIds),
      ("active_authority_refs", false, activeAuthorityRefs)]
  Py.require (methods.map (·.methodId)).Nodup .predictiveSovereignError
    "method_id values must be unique"
  let rejection := methodRejection predicate (allowedMethodIds.map Text.stripped)
    (activeAuthorityRefs.map Text.stripped) maxPaidSpendCents minimumEvidenceQualityRank
  -- No two methods have the same id, by which alone the rejections are therefore sorted.
  let rejected := ((methods.filter fun m => rejection m ≠ []).map fun m =>
    (m.methodId, (rejection m).dedup.mergeSort)).mergeSort fun a b => a.1 ≤ b.1
  let eligible := methods.filter fun m => rejection m = []
  let selected := eligible.argmin CapabilityMethod.substituteKey
  return {
    predicate                  := predicate
    selectedMethodId           := selected.map (·.methodId)
    rejected                   := rejected
    deferred                   := selected.isNone
    evidencePredicatePreserved := selected.isSome
    nonempty                   := h
    selection                  := by simp
    inert                      := unset₂ }

end GeneralExecution
