import GeneralExecution.Stores.Dispatch

namespace GeneralExecution

inductive RecoveryAction
  | beginSubmission
  | reconcileProvider
  | none
deriving DecidableEq

instance : PyLiteral RecoveryAction where
  spelling
    | .beginSubmission   => "begin_submission"
    | .reconcileProvider => "reconcile_provider"
    | .none              => "none"
  values           := [.beginSubmission, .reconcileProvider, .none]
  parse_spelling a := by cases a <;> rfl

-- What is left to do for an intent of each status.
def DispatchStatus.recoveryAction : DispatchStatus → RecoveryAction
  | .prepared          => .beginSubmission
  | .submissionUnknown => .reconcileProvider
  | .observed          => .none

@[ext]
structure DispatchRecoveryItem where
  intentId                     : String
  stateDigest                  : String
  status                       : DispatchStatus
  invocationId                 : String
  requestDigest                : String
  runnerId                     : String
  leaseId                      : String
  recoveryAction               : RecoveryAction
  blindResubmissionAuthorized  : Bool   := false
  providerOutcomeInferred      : Bool   := false
  schemaVersion                : String := "ge.dispatch-recovery-item.v1"
  noResubmission               : blindResubmissionAuthorized = false
  noInference                  : providerOutcomeInferred = false
  actionOfStatus               : recoveryAction = status.recoveryAction

instance : DecidableEq DispatchRecoveryItem :=
  fun _ _ => decidable_of_iff _ DispatchRecoveryItem.ext_iff.symm

namespace DispatchRecoveryItem

def new (intentId stateDigest : String) (status : DispatchStatus)
    (invocationId requestDigest runnerId leaseId : String) (recoveryAction : RecoveryAction)
    (blindResubmissionAuthorized providerOutcomeInferred : Bool) (schemaVersion : String) :
    Py DispatchRecoveryItem := do
  let ⟨h₁⟩ ← Py.check (blindResubmissionAuthorized = false) .valueError
    "dispatch recovery cannot authorize blind resubmission"
  let ⟨h₂⟩ ← Py.check (providerOutcomeInferred = false) .valueError
    "dispatch recovery cannot infer provider outcome"
  let ⟨h₃⟩ ← Py.check (recoveryAction = status.recoveryAction) .valueError
    "dispatch recovery action does not match durable status"
  return {
    intentId, stateDigest, status, invocationId, requestDigest, runnerId, leaseId, recoveryAction,
    blindResubmissionAuthorized, providerOutcomeInferred, schemaVersion, noResubmission := h₁,
    noInference := h₂, actionOfStatus := h₃ }

theorem new_eq (i : DispatchRecoveryItem) :
    new i.intentId i.stateDigest i.status i.invocationId i.requestDigest i.runnerId i.leaseId
      i.recoveryAction i.blindResubmissionAuthorized i.providerOutcomeInferred i.schemaVersion =
      .ok i := by
  simp only [new, Py.check_of i.noResubmission, Py.check_of i.noInference,
    Py.check_of i.actionOfStatus, Except.ok_bind]
  rfl

end DispatchRecoveryItem

def countStatus (status : DispatchStatus) (items : List DispatchRecoveryItem) : Nat :=
  items.countP (·.status = status)

@[ext]
structure DispatchRecoveryReport where
  runnerId                     : String
  items                        : List DispatchRecoveryItem
  preparedCount                : Nat
  submissionUnknownCount       : Nat
  observedCount                : Nat
  blindResubmissionsAuthorized : Nat    := 0
  providerOutcomesInferred     : Nat    := 0
  schemaVersion                : String := "ge.dispatch-recovery-report.v1"
  noResubmission               : blindResubmissionsAuthorized = 0
  noInference                  : providerOutcomesInferred = 0
  reconciled :
    preparedCount = countStatus .prepared items ∧
      submissionUnknownCount = countStatus .submissionUnknown items ∧
      observedCount = countStatus .observed items
  oneRunner                    : ∀ item ∈ items, item.runnerId = runnerId
deriving DecidableEq

namespace DispatchRecoveryReport

def new (runnerId : String) (items : List DispatchRecoveryItem)
    (preparedCount submissionUnknownCount observedCount blindResubmissionsAuthorized
      providerOutcomesInferred : Nat) (schemaVersion : String) : Py DispatchRecoveryReport := do
  let ⟨h₁⟩ ← Py.check (blindResubmissionsAuthorized = 0) .valueError
    "dispatch recovery cannot authorize blind resubmission"
  let ⟨h₂⟩ ← Py.check (providerOutcomesInferred = 0) .valueError
    "dispatch recovery cannot infer provider outcome"
  let ⟨h₃⟩ ← Py.check
    (preparedCount = countStatus .prepared items ∧
      submissionUnknownCount = countStatus .submissionUnknown items ∧
      observedCount = countStatus .observed items)
    .valueError "dispatch recovery counts do not reconcile"
  let ⟨h₄⟩ ← Py.check (∀ item ∈ items, item.runnerId = runnerId) .valueError
    "dispatch recovery report mixes runners"
  return {
    runnerId, items, preparedCount, submissionUnknownCount, observedCount,
    blindResubmissionsAuthorized, providerOutcomesInferred, schemaVersion, noResubmission := h₁,
    noInference := h₂, reconciled := h₃, oneRunner := h₄ }

theorem new_eq (r : DispatchRecoveryReport) :
    new r.runnerId r.items r.preparedCount r.submissionUnknownCount r.observedCount
      r.blindResubmissionsAuthorized r.providerOutcomesInferred r.schemaVersion = .ok r := by
  simp only [new, Py.check_of r.noResubmission, Py.check_of r.noInference, Py.check_of r.reconciled,
    Py.check_of r.oneRunner, Except.ok_bind]
  rfl

end DispatchRecoveryReport

variable [Sha256]

-- `_recovery_item`
def dispatchRecoveryItem (state : DispatchIntentState) : Py DispatchRecoveryItem :=
  let intent := state.intent
  DispatchRecoveryItem.new
    intent.intentId
    state.digest
    state.status
    intent.invocationId
    intent.requestDigest
    intent.runnerId
    intent.leaseId
    state.status.recoveryAction
    false
    false
    "ge.dispatch-recovery-item.v1"

def recoverDispatchAfterRestart (runnerId : String) : StoreCall DispatchRecoveryReport := do
  let states ← DispatchIntentStore.loadForRunner runnerId
  let items ← (states.mapM dispatchRecoveryItem : Py _)
  DispatchRecoveryReport.new runnerId items (countStatus .prepared items)
    (countStatus .submissionUnknown items) (countStatus .observed items) 0 0
    "ge.dispatch-recovery-report.v1"

end GeneralExecution
