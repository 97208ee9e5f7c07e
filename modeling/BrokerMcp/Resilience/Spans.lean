import BrokerMcp.Observability.AttemptSpan
import BrokerMcp.Resilience.Retry

/-!
# What a request leaves in the trace

`attempt_span.go` and `metrics.go`: the two transports under the retry client, and the deferred call
in `checkRetry` that ends the span of an attempt.

* `hops i` are the statuses of the redirects that `http.Client` follows in attempt `i`. The transport
  is called once more for each of them.
* The duration of a sample is left out.
-/

namespace BrokerMcp.Resilience.Spans
open Observability

structure SEMPRequest where
  api : String
  broker : String
  operation : String
  method : String
  status : String
  address : String
  attempt : Nat
deriving DecidableEq

structure Labels where
  metrics : Bool
  api : String
  brokerAlias : String
  operationID : String
  address : String
  correlationID : String
deriving DecidableEq

structure Telemetry where
  traced : AttemptSpan.Traced
  samples : List SEMPRequest
deriving DecidableEq

def Telemetry.fresh : Telemetry := ⟨.fresh, []⟩

def attemptNumber (state : AttemptSpan.State) : Nat := if state.attempt = 0 then 1 else state.attempt

def statusLabel (status : Option Nat) : String := status.elim "" toString

def sample (labels : Labels) (method : String) (status : Option Nat) (attempt : Nat) :
    SEMPRequest where
  api := labels.api
  broker := labels.brokerAlias
  operation := labels.operationID
  method := method
  status := statusLabel status
  address := labels.address
  attempt := attempt

def metricsRoundTrip (labels : Labels) (method : String) (hop : Bool) (status : Option Nat)
    (s : Telemetry) : Telemetry :=
  if hop || !labels.metrics then s
  else { s with
    samples := s.samples ++ [sample labels method status (attemptNumber s.traced.state)] }

def transportRoundTrip (labels : Labels) (method : String) (hop : Bool) (status : Option Nat)
    (s : Telemetry) : Telemetry :=
  metricsRoundTrip labels method hop status { s with traced := AttemptSpan.roundTrip hop s.traced }

def transportStatuses (hops : List Nat) (outcome : Outcome) : List (Option Nat) :=
  hops.map some ++ [outcome.responseStatus?]

/-- The calls of the transport in one `http.Client.Do`: all but the first follow a redirect. -/
def clientDo (labels : Labels) (method : String) (hops : List Nat) (outcome : Outcome)
    (s : Telemetry) : Telemetry :=
  match transportStatuses hops outcome with
  | [] => s
  | first :: rest =>
      rest.foldl (fun s status => transportRoundTrip labels method true status s)
        (transportRoundTrip labels method false first s)

def allowanceSpent (state : RetryState) (a : Attempt) : Bool :=
  if a.ctxErr.isSome then false
  else if (state.method = methodPost || state.method = methodPatch) && !state.retrySafe then false
  else
    match a.outcome with
    | .failed _ _ => false
    | .answered reply =>
        if reply.statusCode = 401 then state.auth401Retried
        else if state.retryUnsafe && retryableStatus reply.statusCode then false
        else if reply.statusCode = 429 ∨ reply.statusCode = 503 then
          state.transientRetried ≥ maxTransientRetries
        else if reply.statusCode ≥ 500 then state.other5xxRetried
        else false

def retriesExhausted (retryMax attempt : Nat) (retry allowanceSpent : Bool) : Bool :=
  if retry then attempt > retryMax else allowanceSpent

def endAttemptSpan (labels : Labels) (retryMax : Nat) (status : Option Nat)
    (retry allowanceSpent : Bool) (s : Telemetry) : Telemetry :=
  let exhausted := retriesExhausted retryMax s.traced.state.attempt retry allowanceSpent
  { s with
    traced := AttemptSpan.finish labels.correlationID status retry exhausted s.traced }

def traceTry (labels : Labels) (retryMax : Nat) (hops : List Nat) (t : Try) (s : Telemetry) :
    Telemetry :=
  let status := t.attempt.outcome.responseStatus?
  let spent := allowanceSpent t.before t.attempt
  endAttemptSpan labels retryMax status t.verdict.retry spent
    (clientDo labels t.before.method hops t.attempt.outcome s)

def traceTries (labels : Labels) (retryMax : Nat) (hops : Nat → List Nat) :
    Nat → List Try → Telemetry → Telemetry
  | _, [], s => s
  | i, t :: rest, s =>
      traceTries labels retryMax hops (i + 1) rest (traceTry labels retryMax (hops i) t s)

def doTraced (labels : Labels) (retryMax : Nat) (hops : Nat → List Nat) (req : Request)
    (world : World) : Telemetry :=
  let s := traceTries labels retryMax hops 0 (doRequest retryMax req world).tries .fresh
  { s with traced := AttemptSpan.closeDangling s.traced }

end BrokerMcp.Resilience.Spans
