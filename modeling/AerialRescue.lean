import AerialRescue.Contracts.Calendar
import AerialRescue.Contracts.EnvelopeBytes
import AerialRescue.Contracts.RpcBodies
import AerialRescue.Dashboard.Recovery
import AerialRescue.Dashboard.StreamRegistry
import AerialRescue.Fleet.NoLoss
import AerialRescue.Gateway.ApprovalLifetime
import AerialRescue.Gateway.Atomicity
import AerialRescue.Gateway.RetrySchedule
import AerialRescue.Gateway.SendSchedule
import AerialRescue.Gateway.SingleUse
import AerialRescue.Recorder.Export
import AerialRescue.Broker.Notification
import AerialRescue.Broker.Queues
import AerialRescue.Fleet.ExactlyOnce
import AerialRescue.Contracts.DigestSeparation
import AerialRescue.Contracts.TopicGrammar
import AerialRescue.Store.AuditOrdinals
import AerialRescue.Store.ClaimSessions
import AerialRescue.Gateway.Refusals
import AerialRescue.Gateway.OutboxLifecycle
import AerialRescue.Gateway.PublisherGates
import AerialRescue.Contracts.ReducerTotality
import AerialRescue.Dashboard.RuntimeParity
import AerialRescue.Dashboard.DecodingParity
import AerialRescue.Dashboard.TimelineParity
import AerialRescue.Domain.ApprovalRuns
import AerialRescue.Domain.ConnectivityHistory
import AerialRescue.Domain.Scoring
import AerialRescue.Domain.Sectors
import AerialRescue.Lib.Mapping
import AerialRescue.Fleet.Intake
import AerialRescue.Fleet.Scenario
import AerialRescue.Fleet.Simulation
import AerialRescue.Fleet.Endings
import AerialRescue.Contracts.TextDecoding
import AerialRescue.Dashboard.Admission
import AerialRescue.Broker.Lifecycle
import AerialRescue.Broker.EventLog
import AerialRescue.Broker.Retirement
import AerialRescue.Fleet.Coordinator
import AerialRescue.Broker.ProvisioningConvergence
import AerialRescue.Fleet.RecoverySafety
import AerialRescue.Dashboard.SourceIsolation
