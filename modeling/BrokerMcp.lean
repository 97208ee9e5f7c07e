import BrokerMcp.Audit.Emit
import BrokerMcp.Audit.Event
import BrokerMcp.Composite.BodyChecks
import BrokerMcp.Composite.Bound
import BrokerMcp.Composite.Definition
import BrokerMcp.Composite.Execution
import BrokerMcp.Composite.Executor
import BrokerMcp.Composite.FanOut
import BrokerMcp.Composite.ListVpns
import BrokerMcp.Composite.Loader
import BrokerMcp.Composite.Marshal
import BrokerMcp.Composite.Memory
import BrokerMcp.Composite.RdpStatus
import BrokerMcp.Composite.Result
import BrokerMcp.Composite.Schema
import BrokerMcp.Composite.Template
import BrokerMcp.Config.EnvVars
import BrokerMcp.Library.Assoc
import BrokerMcp.Library.CappedSet
import BrokerMcp.Library.CasMax
import BrokerMcp.Library.Cells
import BrokerMcp.Library.Counting
import BrokerMcp.Library.Fifo
import BrokerMcp.Library.Forest
import BrokerMcp.Library.Hex
import BrokerMcp.Library.Holes
import BrokerMcp.Library.JsonSchema
import BrokerMcp.Library.JsonText
import BrokerMcp.Library.Percent
import BrokerMcp.Library.Ring
import BrokerMcp.Library.Scan
import BrokerMcp.Library.Table
import BrokerMcp.Library.Trace
import BrokerMcp.Library.Utf8
import BrokerMcp.Library.Xml
import BrokerMcp.Oauth.Cache
import BrokerMcp.Observability.AttemptSpan
import BrokerMcp.Observability.Correlation
import BrokerMcp.Observability.Hash
import BrokerMcp.Observability.Reachability
import BrokerMcp.Observability.SlogHandler
import BrokerMcp.Proof.Audit.Accepted
import BrokerMcp.Proof.Audit.Delivered
import BrokerMcp.Proof.Composite.Arguments
import BrokerMcp.Proof.Composite.Body
import BrokerMcp.Proof.Composite.Bound
import BrokerMcp.Proof.Composite.Bounded
import BrokerMcp.Proof.Composite.Conforming
import BrokerMcp.Proof.Composite.Embedded
import BrokerMcp.Proof.Composite.FanOut
import BrokerMcp.Proof.Composite.Fanned
import BrokerMcp.Proof.Composite.Guarded
import BrokerMcp.Proof.Composite.Idle
import BrokerMcp.Proof.Composite.Infeasible
import BrokerMcp.Proof.Composite.Joined
import BrokerMcp.Proof.Composite.Loaded
import BrokerMcp.Proof.Composite.Marshal
import BrokerMcp.Proof.Composite.Memory
import BrokerMcp.Proof.Composite.Orderly
import BrokerMcp.Proof.Composite.Pages
import BrokerMcp.Proof.Composite.Redacted
import BrokerMcp.Proof.Composite.Rows
import BrokerMcp.Proof.Composite.Scan
import BrokerMcp.Proof.Composite.Scrubbed
import BrokerMcp.Proof.Config.References
import BrokerMcp.Proof.Config.Structure
import BrokerMcp.Proof.Config.Substituted
import BrokerMcp.Proof.Oauth.Expiry
import BrokerMcp.Proof.Observability.Hashed
import BrokerMcp.Proof.Observability.Identity
import BrokerMcp.Proof.Observability.OneHot
import BrokerMcp.Proof.Observability.RootId
import BrokerMcp.Proof.Retry.Audited
import BrokerMcp.Proof.Retry.Bounds
import BrokerMcp.Proof.Retry.Loop
import BrokerMcp.Proof.Retry.Outcome
import BrokerMcp.Proof.Retry.Signalled
import BrokerMcp.Proof.Retry.Traced
import BrokerMcp.Proof.Retry.Write
import BrokerMcp.Proof.Scheduler.Drain
import BrokerMcp.Proof.Scheduler.Eligibility
import BrokerMcp.Proof.Scheduler.Fairness
import BrokerMcp.Proof.Scheduler.Granting
import BrokerMcp.Proof.Scheduler.Invariant
import BrokerMcp.Proof.Scheduler.Occupancy
import BrokerMcp.Proof.Scheduler.Refined
import BrokerMcp.Proof.Scheduler.Reservation
import BrokerMcp.Proof.Scheduler.Rotation
import BrokerMcp.Proof.Scheduler.Stage
import BrokerMcp.Proof.Scheduler.Stepping
import BrokerMcp.Proof.Scheduler.Stopping
import BrokerMcp.Proof.Scheduler.Wakeup
import BrokerMcp.Proof.Semp.Budget
import BrokerMcp.Proof.Semp.Pooled
import BrokerMcp.Proof.Sempv1.Executed
import BrokerMcp.Proof.Sempv1.ReadBack
import BrokerMcp.Proof.Sempv2.Query
import BrokerMcp.Proof.Sempv2.Truncated
import BrokerMcp.Proof.Sempv2.Url
import BrokerMcp.Proof.Sender.Admission
import BrokerMcp.Proof.Sender.Calls
import BrokerMcp.Proof.Sender.Gates
import BrokerMcp.Proof.TokenExchange.Breaker
import BrokerMcp.Proof.TokenExchange.Evicted
import BrokerMcp.Proof.TokenExchange.Flights
import BrokerMcp.Proof.TokenExchange.Gate
import BrokerMcp.Proof.TokenExchange.Identity
import BrokerMcp.Proof.TokenExchange.Mismatched
import BrokerMcp.Proof.TokenExchange.Rejected
import BrokerMcp.Proof.TokenExchange.Throttle
import BrokerMcp.Proof.Tools.Advertised
import BrokerMcp.Proof.Tools.Authorized
import BrokerMcp.Proof.Tools.Deleted
import BrokerMcp.Proof.Tools.Entities
import BrokerMcp.Proof.Tools.Gathered
import BrokerMcp.Proof.Tools.Nesting
import BrokerMcp.Proof.Tools.Owner
import BrokerMcp.Proof.Tools.Sent
import BrokerMcp.Resilience.Dispatcher
import BrokerMcp.Resilience.Retry
import BrokerMcp.Resilience.Rotor
import BrokerMcp.Resilience.Scheduler
import BrokerMcp.Resilience.Sender
import BrokerMcp.Resilience.Signal
import BrokerMcp.Resilience.Spans
import BrokerMcp.Sempv1.Client
import BrokerMcp.Sempv1.Request
import BrokerMcp.Sempv2.Client
import BrokerMcp.Sempv2.Request
import BrokerMcp.TokenExchange.Audience
import BrokerMcp.TokenExchange.Exchange
import BrokerMcp.TokenExchange.Exchanger
import BrokerMcp.TokenExchange.Gate
import BrokerMcp.TokenExchange.Response
import BrokerMcp.Tools.DescribeSchema
import BrokerMcp.Tools.DesiredState
import BrokerMcp.Tools.Errors
import BrokerMcp.Tools.Invocation
import BrokerMcp.Tools.Manager
import BrokerMcp.Tools.OutputSchema
import BrokerMcp.Tools.OwnerValidation
import BrokerMcp.Tools.TopicValidation
import BrokerMcp.Proof.Server.Graceful
