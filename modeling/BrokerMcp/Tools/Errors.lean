import BrokerMcp.Resilience.Retry

namespace BrokerMcp.Tools
open Resilience

def genericInternalMessage : String :=
  "The broker reported an internal error. Please try again later or contact your administrator."

structure Wording where
  connectionFailureMessage : Chain → RetriesExhaustedError → String → String
  exchangeMessage : Bool → String → String
  sempMessage : SEMPError → String → String × List String
  sanitizeBrokerText : String → String
  retryableCode : Int → Bool

def brokerTextMayBeShown (status : Nat) : Bool := status < 500 || status = 503

def Link.busy? : Link → Option Int
  | .brokerBusy _ maxWait => some maxWait
  | _ => none

def Link.exchange? : Link → Option Bool
  | .exchange transport => some transport
  | _ => none

def Link.semp? : Link → Option SEMPError
  | .semp err => some err
  | _ => none

/-- `max(1, MaxWait rounded to seconds)`, halves away from zero. -/
def waitSeconds (maxWait : Int) : Nat :=
  max 1 (((maxWait + 500000000) / 1000000000).toNat)

def busyMessage (maxWait : Int) : String :=
  let unit := if waitSeconds maxWait = 1 then "second" else "seconds"
  "The broker is too busy to accept this request right now, so it was not sent. " ++
    "Nothing was changed on the broker. Wait about " ++ toString (waitSeconds maxWait) ++ " " ++
    unit ++ " and try again."

def busySuggestion : String :=
  "If this keeps happening, the broker is saturated: reduce how many requests you issue at once."

def notRetriedMessage : String :=
  "Request failed and was deliberately not retried, because repeating " ++
    "this operation is not safe: the broker may have already applied it. " ++
    "Check the current state before deciding whether to issue it again."

def exhaustedMessage (wording : Wording) (err : Chain) (e : RetriesExhaustedError)
    (brokerAlias : String) : String :=
  if e.nonIdempotent then
    if e.detail ≠ "" && brokerTextMayBeShown e.statusCode then
      notRetriedMessage ++ " The broker reported: " ++ wording.sanitizeBrokerText e.detail
    else notRetriedMessage
  else if e.statusCode = 0 then wording.connectionFailureMessage err e brokerAlias
  else
    "Request failed after " ++ toString e.attempts ++ " attempts (HTTP " ++
      toString e.statusCode ++ "). Internal retries exhausted; try again later."

def buildErrorMessage (wording : Wording) (err : Chain) (brokerAlias : String) :
    String × List String :=
  match err.findSome? Link.busy? with
  | some maxWait => (busyMessage maxWait, [busySuggestion])
  | none =>
      match err.findSome? Link.exhausted? with
      | some e => (exhaustedMessage wording err e brokerAlias, [])
      | none =>
          match err.findSome? Link.exchange? with
          | some transport => (wording.exchangeMessage transport brokerAlias, [])
          | none =>
              match err.findSome? Link.semp? with
              | some e => wording.sempMessage e brokerAlias
              | none => (genericInternalMessage, [])

def isRetryable (wording : Wording) (err : Chain) : Bool :=
  if Link.exchange true ∈ err then true
  else if (err.findSome? Link.busy?).isSome then true
  else
    match err.findSome? Link.exhausted? with
    | some e => !e.nonIdempotent
    | none =>
        match err.findSome? Link.semp? with
        | some e => e.statusCode = 429 || e.statusCode = 503 || wording.retryableCode e.sempCode
        | none => false

end BrokerMcp.Tools
