import GeneralExecution.Primitives.Program
import GeneralExecution.Primitives.Table
import GeneralExecution.Objects.Errors

namespace GeneralExecution

structure CapacityHeadRow where
  runnerId               : String
  runnerCapabilityDigest : String
  stateDigest            : String
  generation             : Nat
  snapshotDigest         : String
  snapshotJson           : String
deriving DecidableEq

structure DispatchIntentRow where
  intentId    : String
  runnerId    : String
  leaseId     : String
  stateDigest : String
  revision    : Nat
  stateJson   : String
deriving DecidableEq

structure ObservedOutcomeRow where
  intentId            : String
  runnerId            : String
  leaseId             : String
  leaseDigest         : String
  authorizationId     : String
  authorizationDigest : String
  invocationId        : String
  requestDigest       : String
  physicalAttempt     : Nat
  dispatchStateDigest : String
  outcomeDigest       : String
  observationDigest   : String
  receiptDigest       : String
  transportStatus     : String
  outcomeJson         : String
deriving DecidableEq

-- The tables of the two databases: that of the capacity heads, and that of the dispatch outbox with
-- its observed outcomes. `lease_id` is unique by an index of its own.
@[ext]
structure Stores where
  capacityHeads    : Table CapacityHeadRow String [CapacityHeadRow.runnerId]
  dispatchIntents  : Table DispatchIntentRow String
    [DispatchIntentRow.intentId, DispatchIntentRow.leaseId]
  observedOutcomes : Table ObservedOutcomeRow String
    [ObservedOutcomeRow.intentId, ObservedOutcomeRow.authorizationId, ObservedOutcomeRow.invocationId]

namespace Stores

def empty : Stores where
  capacityHeads    := .empty
  dispatchIntents  := .empty
  observedOutcomes := .empty

def head? (s : Stores) (runnerId : String) : Option CapacityHeadRow :=
  s.capacityHeads.select CapacityHeadRow.runnerId runnerId

def intent? (s : Stores) (intentId : String) : Option DispatchIntentRow :=
  s.dispatchIntents.select DispatchIntentRow.intentId intentId

def outcome? (s : Stores) (intentId : String) : Option ObservedOutcomeRow :=
  s.observedOutcomes.select ObservedOutcomeRow.intentId intentId

end Stores

-- The body of a transaction. Reading never changes the stores.
abbrev Transaction (α : Type) :=
  Statements Stores PyError α

-- A method of a store, which any number of clients may run at the same time.
abbrev StoreCall (α : Type) :=
  Program Stores PyError α

namespace StoreCall

-- One statement that only reads.
def query {α : Type} (f : Stores → α) : StoreCall α :=
  .transaction (return f (← get))

end StoreCall

end GeneralExecution
