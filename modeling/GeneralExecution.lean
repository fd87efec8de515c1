import GeneralExecution.Primitives.Checks
import GeneralExecution.Primitives.Program
import GeneralExecution.Primitives.ReservationLog
import GeneralExecution.Primitives.Table
import GeneralExecution.Primitives.Text
import GeneralExecution.Primitives.JsonParser
import GeneralExecution.Primitives.JsonObject
import GeneralExecution.Objects.Errors
import GeneralExecution.Objects.Fields
import GeneralExecution.Objects.Sessions
import GeneralExecution.Objects.Wire
import GeneralExecution.Objects.PhysicalWire
import GeneralExecution.Objects.Theorems.Lineage
import GeneralExecution.Objects.Theorems.Retries
import GeneralExecution.Stores.Theorems.ReleaseOnce
import GeneralExecution.Stores.Theorems.Alone
import GeneralExecution.Gates.Conformance
import GeneralExecution.Portfolio.Runtime
import GeneralExecution.Portfolio.Theorems.Ticks
import GeneralExecution.Activation.Store
import GeneralExecution.Activation.Theorems.Rows
import GeneralExecution.Activation.Theorems.Monotone
import GeneralExecution.Activation.Theorems.SingleOutcome
import GeneralExecution.Routing.Contracts
import GeneralExecution.Routing.WorkSparse
import GeneralExecution.Escalation.Request
import GeneralExecution.Escalation.State
import GeneralExecution.Escalation.Store
import GeneralExecution.Escalation.Theorems.Rows
import GeneralExecution.Escalation.Theorems.Budget
import GeneralExecution.Escalation.Theorems.Ledger
import GeneralExecution.Routing.Provider
import GeneralExecution.Routing.Sovereign
import GeneralExecution.Routing.Symbiosis
import GeneralExecution.Routing.Theorems.Selections
import GeneralExecution.Routing.Protocol
import GeneralExecution.Routing.Theorems.Agreement
import GeneralExecution.Routing.Theorems.Ready
import GeneralExecution.Portfolio.Theorems.Lanes
import GeneralExecution.Portfolio.Theorems.Acceptance
import GeneralExecution.Portfolio.Theorems.Conservation
import GeneralExecution.Portfolio.Theorems.HumanGates
import GeneralExecution.Portfolio.HumanAuthority
import GeneralExecution.Portfolio.Theorems.Decisions
import GeneralExecution.Portfolio.Theorems.Alone
import GeneralExecution.Portfolio.Theorems.AuthorityStops
import GeneralExecution.Stores.DispatchRecovery
import GeneralExecution.Objects.Theorems.Codec
import GeneralExecution.Stores.Theorems.DispatchRecovery
import GeneralExecution.Stores.Theorems.TornRead
import GeneralExecution.Stores.SessionRecovery
import GeneralExecution.Stores.Theorems.Revocation
import GeneralExecution.Portfolio.Theorems.Events
import GeneralExecution.Portfolio.Theorems.EventReports
import GeneralExecution.Portfolio.Theorems.EventWire
import GeneralExecution.Portfolio.Theorems.EventRuns
import GeneralExecution.Portfolio.Signal
import GeneralExecution.Portfolio.Theorems.Engines
import GeneralExecution.Continuity.Snapshot
import GeneralExecution.Continuity.Inspect
import GeneralExecution.Continuity.Theorems.Conversation
import GeneralExecution.Continuity.Theorems.Rejected
import GeneralExecution.Primitives.Sorting
import GeneralExecution.Routing.Theorems.MinimumCover
import GeneralExecution.Routing.Precomputation
import GeneralExecution.Routing.Theorems.Precomputation
import GeneralExecution.Routing.AbundantResource
import GeneralExecution.Routing.Theorems.AbundantResource
import GeneralExecution.Portfolio.AutonomousBurst
import GeneralExecution.Portfolio.Theorems.AutonomousBurst
import GeneralExecution.Objects.Ledger
import GeneralExecution.Primitives.HashChain
import GeneralExecution.Objects.Theorems.Ledger
import GeneralExecution.Objects.Theorems.Records
import GeneralExecution.Objects.Grants
import GeneralExecution.Objects.Theorems.Grants
import GeneralExecution.Stores.Theorems.CapacityRuns
import GeneralExecution.Objects.Theorems.Lossless
import GeneralExecution.Portfolio.Theorems.Codecs
import GeneralExecution.Primitives.Raising
import GeneralExecution.Untyped.Value
import GeneralExecution.Untyped.Canonical
import GeneralExecution.Untyped.Models
import GeneralExecution.Untyped.PhysicalWire
import GeneralExecution.Untyped.Theorems.PhysicalWire
import GeneralExecution.Objects.Theorems.CanonicalForm
import GeneralExecution.Objects.Theorems.Planner
import GeneralExecution.Gates.RetryAuthority
import GeneralExecution.Gates.VerificationEscalation
import GeneralExecution.Gates.Theorems.RetryAuthority
import GeneralExecution.Gates.Theorems.VerificationEscalation
import GeneralExecution.Gates.PortfolioBackup
import GeneralExecution.Gates.Theorems.PortfolioBackup
import GeneralExecution.Routing.AuthLease
import GeneralExecution.Routing.Theorems.AuthLease
import GeneralExecution.Gates.ConformanceHarness
import GeneralExecution.Gates.Theorems.ConformanceHarness
import GeneralExecution.Activation.Admission
import GeneralExecution.Continuity.Theorems.Comparable
import GeneralExecution.Activation.Theorems.Admission
import GeneralExecution.Portfolio.ProviderHost
import GeneralExecution.Portfolio.WorkstreamResult
import GeneralExecution.Portfolio.Theorems.WorkstreamResult
import GeneralExecution.Portfolio.Theorems.Digests
import GeneralExecution.Portfolio.Theorems.Clients
import GeneralExecution.Portfolio.Theorems.HeadHistory
import GeneralExecution.Portfolio.Theorems.TickHistory
import GeneralExecution.Portfolio.Theorems.Acknowledgements
import GeneralExecution.Portfolio.Theorems.TickRaces
import GeneralExecution.Portfolio.Theorems.TriggerHistory
import GeneralExecution.Primitives.KeyedLog
import GeneralExecution.Routing.AuthStore
import GeneralExecution.Routing.Theorems.AuthStore
import GeneralExecution.Routing.Theorems.AuthCalls
import GeneralExecution.Routing.Theorems.AuthHistory
import GeneralExecution.Portfolio.BurstHost
import GeneralExecution.Portfolio.Theorems.BurstEvents
import GeneralExecution.Portfolio.Theorems.BurstHost
import GeneralExecution.Portfolio.Theorems.BurstWire
import GeneralExecution.Portfolio.Theorems.BurstHistory
