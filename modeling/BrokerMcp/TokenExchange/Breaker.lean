import BrokerMcp.TokenExchange.Exchange
import BrokerMcp.Library.Trace

/-!
# The circuit breaker of the token exchange

`circuitbreaker.go`: the two callbacks that share `consecutiveFailures`, and the breaker that calls
them. What `gobreaker` keeps for itself (its counts, its state and the generation that a request
belongs to) is a parameter.

* A step `settle` is `afterRequest`, which discards an outcome of another generation before it calls
  back, and asks `IsExcluded`, then `IsSuccessful`, then `ReadyToTrip`.
* A step `pass` is what `gobreaker` does without an outcome: it admits a request, lets its buckets
  age, or leaves the open state when the timeout has passed.
-/

namespace BrokerMcp.TokenExchange
open Resilience

inductive BreakerState where
  | closed
  | halfOpen
  | open
deriving DecidableEq

structure BreakerCounts where
  totalSuccesses : UInt32
  totalFailures : UInt32

structure CircuitBreakerConfig where
  consecutiveFailureThreshold : UInt32
  minimumRequests : UInt32
  failureRateThresholdPercent : Float

def readyToTrip (cfg : CircuitBreakerConfig) (consecutiveFailures : UInt32)
    (counts : BreakerCounts) : Bool :=
  if cfg.consecutiveFailureThreshold > 0 && consecutiveFailures ≥ cfg.consecutiveFailureThreshold then
    true
  else
    let evaluated := counts.totalSuccesses + counts.totalFailures
    if evaluated < cfg.minimumRequests then false
    else
      let failureRate := counts.totalFailures.toFloat / evaluated.toFloat * 100
      failureRate ≥ cfg.failureRateThresholdPercent

def countingIsBreakerSuccess (err : Option Err) (consecutiveFailures : UInt32) : Bool × UInt32 :=
  let ok := isBreakerSuccess err
  if ok then (ok, 0) else (ok, consecutiveFailures + 1)

/-- What `gobreaker` does between the callbacks, on what it keeps for itself. -/
structure CircuitBreaker (β ε : Type) where
  state : β → BreakerState
  generation : β → Nat
  pass : ε → β → β
  onExclusion : β → β
  onSuccess : β → β
  onFailure : (BreakerCounts → Bool) → β → β

/-- It closes only after a success, and a failure that leaves it closed was not ready to trip. -/
structure CircuitBreaker.Lawful {β ε : Type} (lib : CircuitBreaker β ε) : Prop where
  pass : ∀ e b, lib.state (lib.pass e b) = .closed → lib.state b = .closed
  exclusion : ∀ b, lib.state (lib.onExclusion b) = .closed → lib.state b = .closed
  failure : ∀ trip b, lib.state (lib.onFailure trip b) = .closed →
    lib.state b = .closed ∧ ∃ counts, trip counts = false

/-- `settle` carries the generation that admitted the request, and the attempts and the error of
`doExchange`. -/
inductive BreakerAction (ε : Type) where
  | pass (e : ε)
  | settle (generation attempts : Nat) (result : Option Err)

def classified (attempts : Nat) (result : Option Err) : Option Err :=
  result.map (classifyRetryOutcome attempts)

section Steps

variable {β ε : Type} (lib : CircuitBreaker β ε) (cfg : CircuitBreakerConfig)

def Breaker.afterRequest (b : Breaker β) (generation : Nat) (err : Option Err) : Breaker β :=
  if generation ≠ lib.generation b.counts then b
  else if isBreakerExcluded err then { b with counts := lib.onExclusion b.counts }
  else
    match countingIsBreakerSuccess err b.consecutiveFailures with
    | (true, n) => ⟨lib.onSuccess b.counts, n⟩
    | (false, n) => ⟨lib.onFailure (readyToTrip cfg n) b.counts, n⟩

def Breaker.step (b : Breaker β) : BreakerAction ε → Option (Breaker β)
  | .pass e => some { b with counts := lib.pass e b.counts }
  | .settle generation attempts result =>
      some (b.afterRequest lib cfg generation (classified attempts result))

end Steps

end BrokerMcp.TokenExchange
