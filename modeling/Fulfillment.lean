import Fulfillment.Effects.Program
import Fulfillment.Relational.Table
import Fulfillment.Js.Json
import Fulfillment.Js.JsonText
import Fulfillment.Js.Number
import Fulfillment.Js.Double
import Fulfillment.Contracts.Zod
import Fulfillment.Contracts.Envelope
import Fulfillment.Contracts.Order
import Fulfillment.Contracts.Payloads
import Fulfillment.Database.Lease
import Fulfillment.Saga.State
import Fulfillment.Consumers.DeadLetter
import Fulfillment.Effects.System
import Fulfillment.Database.Outbox
import Fulfillment.Database.LeaseHistory
import Fulfillment.Outbox.Exclusivity
import Fulfillment.Js.Date
import Fulfillment.Database.Columns
import Fulfillment.Database.Service
import Fulfillment.Database.LeaseRows
import Fulfillment.Saga.Barrier
import Fulfillment.Platform
import Fulfillment.Consumers.BaseConsumer
import Fulfillment.Saga.Orchestrator
import Fulfillment.Consumers.NoLoss
import Fulfillment.Consumers.DeadLettering
import Fulfillment.Consumers.DlqOutbox
import Fulfillment.Saga.Store
import Fulfillment.Saga.Machine
import Fulfillment.Consumers.Handling
import Fulfillment.Consumers.Counters
import Fulfillment.Saga.Commands
import Fulfillment.Effects.Pool
import Fulfillment.Consumers.Permanence
import Fulfillment.Saga.Handlers
import Fulfillment.Outbox.Relay
import Fulfillment.Outbox.Publication
import Fulfillment.Outbox.Ordering
import Fulfillment.Outbox.Stranding
import Fulfillment.Effects.Transaction
import Fulfillment.Effects.Checked
import Fulfillment.Saga.Cancellation
import Fulfillment.Saga.History
import Fulfillment.Saga.Safety
import Fulfillment.Saga.Overtaking
import Fulfillment.Saga.Compensation
import Fulfillment.Orders.CreateOrder
import Fulfillment.Database.Parameters
import Fulfillment.Projection.ReadModels
import Fulfillment.Projection.Mutations
import Fulfillment.Projection.StockRange
import Fulfillment.Consumers.Services
import Fulfillment.Projection.Concerns
import Fulfillment.Orders.PostOrders
import Fulfillment.Realtime.RealtimeConsumer
import Fulfillment.Projection.Apply
import Fulfillment.Projection.Sequential
import Fulfillment.Projection.Appends
import Fulfillment.Projection.EventStore
import Fulfillment.Projection.GapFree
import Fulfillment.Projection.Platform
import Fulfillment.Replay.EventReplayService
import Fulfillment.Relational.Rebuild
import Fulfillment.Relational.Log
import Fulfillment.Relational.ClampedShift
import Fulfillment.Replay.Alone
import Fulfillment.Replay.Reached
import Fulfillment.Replay.Rebuild
import Fulfillment.Effects.Sequence
import Fulfillment.Replay.Failure
import Fulfillment.Projection.Applies
import Fulfillment.Projection.Stock
import Fulfillment.Projection.ProjectionConsumer
import Fulfillment.Projection.Idempotence
import Fulfillment.Projection.SequenceNumbers
import Fulfillment.Projection.ReadBack
import Fulfillment.Replay.Stock
import Fulfillment.Projection.OrderRow
import Fulfillment.Effects.ReadCommitted
import Fulfillment.Projection.Reapplication
import Fulfillment.Projection.Conservation
import Fulfillment.Projection.Rows
import Fulfillment.Projection.Commutation
import Fulfillment.Projection.Concurrent
import Fulfillment.Projection.OrderFold
import Fulfillment.Effects.Expand
import Fulfillment.Projection.Delivery
import Fulfillment.Projection.Agreement
import Fulfillment.Replay.Coverage
import Fulfillment.Replay.Interleaving
import Fulfillment.Replay.Undisturbed
import Fulfillment.Contracts.RoundTrip
import Fulfillment.Contracts.Timestamps
import Fulfillment.Contracts.Construction
import Fulfillment.DeadLetters.ReplayDLQ
import Fulfillment.DeadLetters.FailedReplay
import Fulfillment.DeadLetters.Recovery
import Fulfillment.DeadLetters.Repetition
import Fulfillment.Consumers.Deliveries
import Fulfillment.Effects.Steady
import Fulfillment.Pipeline.ClosedSystem
import Fulfillment.Pipeline.Tracing
import Fulfillment.Pipeline.Emissions
import Fulfillment.Pipeline.Conformance
import Fulfillment.Effects.Paths
import Fulfillment.Pipeline.Duties
import Fulfillment.Pipeline.Paths
import Fulfillment.Pipeline.Faultless
import Fulfillment.Pipeline.Backing
import Fulfillment.Pipeline.Resolution
import Fulfillment.Pipeline.Pursuit
import Fulfillment.Pipeline.Progress
import Fulfillment.Js.Stringify
import Fulfillment.Contracts.Texts
import Fulfillment.Pipeline.Protocol
import Fulfillment.Pipeline.HandingOn
import Fulfillment.Pipeline.Provenance
import Fulfillment.Pipeline.OneOrchestrator
import Fulfillment.Pipeline.Exclusion
import Fulfillment.Pipeline.ExactlyOnce
import Fulfillment.Outbox.Polling
import Fulfillment.Pipeline.PolledRelays
import Fulfillment.Pipeline.Settlement
