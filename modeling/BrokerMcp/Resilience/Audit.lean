import BrokerMcp.Resilience.Retry

namespace BrokerMcp.Resilience

inductive AuditOutcome where
  | success
  | error
deriving DecidableEq

inductive AuditRecord where
  | brokerAuthRetry (outcome : AuditOutcome) (broker : String)
  | auditDrop (droppedEventType : String) (broker : String)
deriving DecidableEq

structure Auditor where
  auditLog : Bool
  brokerAlias : String

def newEvent (outcome : AuditOutcome) (broker : String) : Option AuditRecord :=
  if broker = "" then none else some (.brokerAuthRetry outcome broker)

def auditBrokerAuthRetry (d : Auditor) (outcome : AuditOutcome) : List AuditRecord :=
  if !d.auditLog then []
  else
    match newEvent outcome d.brokerAlias with
    | none => [.auditDrop "broker_auth_retry" d.brokerAlias]
    | some event => [event]

def auditBrokerAuthRetryOutcome (d : Auditor) (state : RetryState) : List AuditRecord :=
  if !state.auth401Retried then []
  else auditBrokerAuthRetry d (if state.authRecovered then .success else .error)

/-- The records of one `Do`, which leaves before the audit if it is not admitted or the request
cannot be wrapped. -/
def auditRecords (d : Auditor) (retryMax : Nat) (req : Request) (world : World) :
    List AuditRecord :=
  match world.admission, world.wrapping with
  | none, none => auditBrokerAuthRetryOutcome d (doRequest retryMax req world).state
  | _, _ => []

end BrokerMcp.Resilience
