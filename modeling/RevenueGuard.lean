import RevenueGuard.Kit.Table
import RevenueGuard.Kit.Sums
import RevenueGuard.Kit.Transaction
import RevenueGuard.Kit.Failures
import RevenueGuard.Kit.Runs
import RevenueGuard.Kit.Register
import RevenueGuard.Kit.Hysteresis
import RevenueGuard.Domain.Cases
import RevenueGuard.Domain.Policy
import RevenueGuard.Domain.Reviews
import RevenueGuard.Domain.Evaluation
import RevenueGuard.Domain.Rules
import RevenueGuard.Domain.Decisions
import RevenueGuard.Domain.Diagnosis
import RevenueGuard.Domain.Actions
import RevenueGuard.Domain.Keys
import RevenueGuard.Domain.Playbooks
import RevenueGuard.Domain.Portfolio
import RevenueGuard.Agents.Intelligence
import RevenueGuard.Agents.Containment
import RevenueGuard.Store.Database
import RevenueGuard.Store.Recovery
import RevenueGuard.Store.Actions
import RevenueGuard.Store.Ingestion
import RevenueGuard.Store.Portfolio
import RevenueGuard.Store.Dispatches
import RevenueGuard.Services.Recovery
import RevenueGuard.Services.Execution
import RevenueGuard.Services.Receivables
import RevenueGuard.Services.Extraction
import RevenueGuard.Services.Normalization
import RevenueGuard.System
import RevenueGuard.Protocol.View
import RevenueGuard.Protocol.Effects
import RevenueGuard.Protocol.Changes
import RevenueGuard.Protocol.Recovery
import RevenueGuard.Protocol.Execution
import RevenueGuard.Protocol.Receivables
import RevenueGuard.Protocol.Simulation
import RevenueGuard.Protocol.Forward
import RevenueGuard.Protocol.Writes
import RevenueGuard.Protocol.Routing
import RevenueGuard.Protocol.Writers
import RevenueGuard.Protocol.Ledger
import RevenueGuard.Protocol.Refusals
import RevenueGuard.Protocol.Frames
import RevenueGuard.Protocol.Contacts
import RevenueGuard.Protocol.Apart
import RevenueGuard.Protocol.Dispatching
import RevenueGuard.Protocol.Evidence
import RevenueGuard.Safety.Outbox
import RevenueGuard.Safety.ReadyCases
import RevenueGuard.Safety.Recovered
import RevenueGuard.Safety.Attempts
import RevenueGuard.Safety.Reconcilable
import RevenueGuard.Safety.ProviderTruth
import RevenueGuard.Safety.History
import RevenueGuard.Safety.CaseTime
import RevenueGuard.Safety.Bounded
import RevenueGuard.Safety.Watermark
import RevenueGuard.Safety.Replay
import RevenueGuard.Safety.OneOrder
import RevenueGuard.Safety.OneContact
import RevenueGuard.Safety.Freeze
import RevenueGuard.Safety.Windows
import RevenueGuard.Safety.Advice
import RevenueGuard.Safety.Dispatches
import RevenueGuard.Safety.Processed
import RevenueGuard.Safety.Proceeds
import RevenueGuard.Safety.Selection
import RevenueGuard.Safety.SignedEvents
import RevenueGuard.Kit.RecurringWindow
import RevenueGuard.Safety.QuietHours
import RevenueGuard.Safety.WakeUps
import RevenueGuard.Safety.Approvals
import RevenueGuard.Kit.HighWater
import RevenueGuard.Safety.Confluence
import RevenueGuard.Safety.ContactLock
import RevenueGuard.Safety.PoliciesInForce
import RevenueGuard.Safety.Publication
import RevenueGuard.Safety.Evaluations
import RevenueGuard.Safety.Ranking
import RevenueGuard.Safety.Degradation
import RevenueGuard.Kit.Joined
import RevenueGuard.Safety.DerivedIds
import RevenueGuard.Safety.Normalized
import RevenueGuard.Safety.Worsening
import RevenueGuard.Safety.Promises
import RevenueGuard.Safety.Reminders
import RevenueGuard.Safety.BrokenPromises
import RevenueGuard.Safety.Redeliveries
import RevenueGuard.Safety.RepliesKept
import RevenueGuard.Kit.HashChain
import RevenueGuard.Kit.Numerals
import RevenueGuard.Kit.Json
import RevenueGuard.Kit.JsonReader
import RevenueGuard.Kit.AsciiJson
import RevenueGuard.Kit.Calendar
import RevenueGuard.Kit.Sha256
import RevenueGuard.Store.AuditLedger
import RevenueGuard.Protocol.Canonical
import RevenueGuard.Protocol.AuditChain
import RevenueGuard.Safety.AuditSound
import RevenueGuard.Safety.AuditTamper
import RevenueGuard.Domain.Degradation
import RevenueGuard.Safety.LogicalKeys
import RevenueGuard.Safety.PaymentPaths
import RevenueGuard.Safety.PaidOrders
import RevenueGuard.Safety.Escalations
import RevenueGuard.Safety.Disputes
import RevenueGuard.Safety.Leases
import RevenueGuard.Kit.Scoped
import RevenueGuard.Protocol.Tenants
import RevenueGuard.Safety.Scopes
import RevenueGuard.Safety.Isolation
import RevenueGuard.Kit.Hmac
import RevenueGuard.Kit.Encodings
import RevenueGuard.Kit.Lens
import RevenueGuard.Kit.LocalClock
import RevenueGuard.Store.Deployment
import RevenueGuard.Services.Gateway
import RevenueGuard.Services.Worker
import RevenueGuard.Services.Checkout
import RevenueGuard.Services.Site
import RevenueGuard.Protocol.Intake
import RevenueGuard.Protocol.Tasks
import RevenueGuard.Kit.Origins
import RevenueGuard.Safety.Refinement
import RevenueGuard.Protocol.Crediting
import RevenueGuard.Safety.Provenance
import RevenueGuard.Safety.Acceptance
import RevenueGuard.Safety.FailClosed
import RevenueGuard.Safety.Observations
