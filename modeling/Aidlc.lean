import Aidlc.Foundation.Transition
import Aidlc.Foundation.TwoPhase
import Aidlc.Foundation.Json
import Aidlc.Domain.Models
import Aidlc.Storage.Snapshots
import Aidlc.Tools.Models
import Aidlc.Storage.Artifacts
import Aidlc.Storage.Database
import Aidlc.Storage.Stores
import Aidlc.Storage.Validity
import Aidlc.Storage.Publication
import Aidlc.Storage.Agreement
import Aidlc.Evaluation.Models
import Aidlc.Evaluation.Cli
import Aidlc.Foundation.Effects
import Aidlc.Storage.Decisions
import Aidlc.A2a.Server
import Aidlc.A2a.Gates
import Aidlc.A2a.TaskLife
import Aidlc.Agents.Catalog
import Aidlc.A2a.Client
import Aidlc.A2a.Delegation
import Aidlc.A2a.Accounting
import Aidlc.A2a.Invocations
import Aidlc.A2a.Reservations
import Aidlc.Foundation.Schema
import Aidlc.Domain.Values
import Aidlc.Evaluation.Gates
import Aidlc.Evaluation.Evidence
import Aidlc.Foundation.Faults
import Aidlc.Storage.FileOperations
import Aidlc.Foundation.JsonText
import Aidlc.Tools.Auth
import Aidlc.Tools.Analysis
import Aidlc.Tools.Isolation
import Aidlc.Sandbox.Recovery
import Aidlc.Sandbox.Orphans
import Aidlc.Foundation.Program
import Aidlc.Orchestration.Context
import Aidlc.Orchestration.Requests
import Aidlc.Orchestration.Workflow
import Aidlc.Orchestration.Hub
import Aidlc.A2a.Turns
import Aidlc.A2a.Reconciliation
import Aidlc.A2a.Contacts
import Aidlc.Foundation.FileTree
import Aidlc.Storage.Restart
import Aidlc.Tools.SourceTree
import Aidlc.Foundation.JsonParser
import Aidlc.Sandbox.Worker
import Aidlc.Agents.Release
import Aidlc.Orchestration.Budget
import Aidlc.Sandbox.Runner
import Aidlc.Sandbox.Completion
import Aidlc.A2a.Responses
import Aidlc.Foundation.Binary64
import Aidlc.Foundation.Protobuf
import Aidlc.A2a.Approvals
import Aidlc.A2a.Ownership
import Aidlc.A2a.TaskListing
import Aidlc.Agents.Integration
import Aidlc.Orchestration.Conduct
import Aidlc.Orchestration.Order
import Aidlc.Orchestration.Selection
import Aidlc.A2a.Replay
import Aidlc.Sandbox.Removals
import Aidlc.Tools.AuditTrail
import Aidlc.Tools.Identity
import Aidlc.Foundation.CanonicalJson
import Aidlc.Orchestration.CacheHits
import Aidlc.Orchestration.EventStream
import Aidlc.Tools.SourcePaths
import Aidlc.Orchestration.Finops
import Aidlc.Agents.Observability
import Aidlc.Sandbox.Comparison
import Aidlc.Agents.Deep
import Aidlc.Foundation.Footprint
import Aidlc.A2a.Placement
import Aidlc.A2a.Naming
import Aidlc.Orchestration.Footprints
import Aidlc.Orchestration.Interplay
import Aidlc.Orchestration.Discipline
import Aidlc.Orchestration.Course
import Aidlc.Orchestration.Identities
import Aidlc.Orchestration.Distinctness
import Aidlc.Orchestration.Progress
import Aidlc.Orchestration.Advancing
import Aidlc.Orchestration.Completion
import Aidlc.Orchestration.Restarts
