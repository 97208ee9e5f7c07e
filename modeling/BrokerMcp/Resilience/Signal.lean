import BrokerMcp.Resilience.Retry

namespace BrokerMcp.Resilience

def Link.isBusy : Link → Bool
  | .brokerBusy _ _ => true
  | _ => false

def Link.isContext : Link → Bool
  | .foreign (.context _) => true
  | _ => false

def brokerSignalStatus (callerEnded : Bool) : Except Chain Reply → Option Nat
  | .ok reply => some reply.statusCode
  | .error err =>
      if err.any Link.isBusy then none
      else
        match err.findSome? Link.exhausted? with
        | some exhausted => some exhausted.statusCode
        | none => if err.any Link.isContext then (if callerEnded then none else some 0) else none

structure DoCall where
  retryMax : Nat
  req : Request
  world : World
  /-- `callerCtx.Err() != nil` when the hook runs. An attempt may have ended with another context. -/
  callerEnded : Bool

def DoCall.sent (c : DoCall) : Sent := doRequest c.retryMax c.req c.world

def DoCall.signal (c : DoCall) : Option Nat := brokerSignalStatus c.callerEnded c.sent.result

end BrokerMcp.Resilience
