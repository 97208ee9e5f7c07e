import BrokerMcp.TokenExchange.Response

/-!
# One exchange with the identity provider

`runExchangeOnce` up to the cache, the retrying client of `retrying.go` under it, the gate of
`retry_after_gate.go` and what the circuit breaker makes of the outcome. What the provider, the
network and the clock do is an `Idp`.

* `retryLoop` is the loop of `go-retryablehttp`, which calls `checkRetry` after each attempt. A wait
  that ends with the context, and an attempt that the context ends, return the context's error.
* The counts of the breaker belong to `gobreaker`, which is a parameter.
-/

namespace BrokerMcp.TokenExchange
open Resilience

/-! ## The retrying client -/

structure TransportError where
  text : String
  unknownAuthority : Bool
  certInvalid : Bool
  hostnameErr : Bool
  dnsNotFound : Bool

inductive Answer where
  | replied (resp : Response)
  | failed (err : TransportError)

/-- An attempt is answered `took` after it is sent, `checkRetry` runs `checked` after the answer, and
`wait` is the backoff that follows. -/
structure Attempt where
  took : Nat
  answer : Answer
  checked : Nat
  wait : Nat

structure Receipt where
  time : Int
  checked : Int
  answer : Answer

def Attempt.receipt (a : Attempt) (now : Int) : Receipt :=
  ⟨now + a.took, now + a.took + a.checked, a.answer⟩

inductive Fault where
  | context
  | transport (err : TransportError)

def Answer.result : Answer → Except Fault Response
  | .replied resp => .ok resp
  | .failed err => .error (.transport err)

structure Chained where
  attempts : Nat
  received : List Receipt
  ended : Int
  result : Except Fault Response

def checkRetry (expired : Bool) (answer : Answer) : Bool × Option Fault :=
  if expired then (false, some .context)
  else
    match answer with
    | .failed _ => (true, none)
    | .replied resp => (500 ≤ resp.statusCode || resp.statusCode = 429, none)

def send (deadline : Int) (a : Attempt) (now : Int) : Chained × Bool :=
  let receipt := a.receipt now
  if deadline ≤ receipt.time then (⟨1, [], max now deadline, .error .context⟩, false)
  else
    match checkRetry (deadline ≤ receipt.checked) a.answer with
    | (_, some fault) => (⟨1, [receipt], receipt.checked, .error fault⟩, false)
    | (retry, none) => (⟨1, [receipt], receipt.checked, a.answer.result⟩, retry)

def Chained.after (receipt : Receipt) (rest : Chained) : Chained :=
  { rest with attempts := rest.attempts + 1, received := receipt :: rest.received }

def retryLoop (deadline : Int) (script : Nat → Attempt) : Nat → Nat → Int → Chained
  | 0, i, now => (send deadline (script i) now).1
  | remain + 1, i, now =>
      let (done, retry) := send deadline (script i) now
      let resumed := ((script i).receipt now).checked + (script i).wait
      if !retry then done
      else if deadline ≤ resumed then { done with ended := deadline, result := .error .context }
      else Chained.after ((script i).receipt now)
        (retryLoop deadline script remain (i + 1) resumed)

def classifyTransportError (err : TransportError) : FailureClass :=
  if err.unknownAuthority || err.certInvalid || err.hostnameErr then .config
  else if err.dnsNotFound then .config
  else .network

/-! ## The exchange -/

/-- What an exchange meets: the error of `buildIdPRequest`, the attempts, and the lags from the end of
`httpClient.Do` to `nowFunc()` for the reply and from there to `nowFunc()` in `raiseGate`. `rivals`
are the values that other exchanges store between a load of the gate and the swap. -/
structure Idp where
  start : Int
  build : Option String
  script : Nat → Attempt
  parseLag : Nat
  raiseLag : Nat
  rivals : List Int

structure Exchanged where
  attempts : Nat
  received : List Receipt
  ended : Int
  result : Except Err Token

def Exchanger.deadline (e : Exchanger) (idp : Idp) : Int := idp.start + e.chainDeadline

def chain (e : Exchanger) (idp : Idp) : Chained :=
  retryLoop (e.deadline idp) idp.script e.maxRetries 0 idp.start

def readResult (e : Exchanger) (format : Format) (idp : Idp) (done : Chained) : Except Err Token :=
  match done.result with
  | .error .context => .error (.context .deadlineExceeded)
  | .error (.transport err) =>
      if e.deadline idp ≤ done.ended + idp.parseLag then .error (.context .deadlineExceeded)
      else
        .error (.exchange
          { sentinel := .errExchangeTransport
            message := "token exchange transport failure: IdP request failed: " ++ err.text
            failureClass := classifyTransportError err })
  | .ok resp =>
      match parseIdPResponse e format resp (done.ended + idp.parseLag) with
      | .error err => .error (.exchange err)
      | .ok (token, _) => .ok token

def doExchange (e : Exchanger) (format : Format) (idp : Idp) : Exchanged :=
  match idp.build with
  | some err =>
      ⟨0, [], idp.start, .error (.exchange
        { sentinel := .errExchangeRequestBuild
          message := "token exchange request build failure: " ++ err })⟩
  | none =>
      let done := chain e idp
      ⟨done.attempts, done.received, done.ended, readResult e format idp done⟩

def retriesExhausted (attempts : Nat) (err : Err) : ExchangeError where
  sentinel := .errExchangeRetriesExhausted
  message := s!"token exchange retries exhausted after {attempts} attempts: {err.text}"
  httpStatus := (err.exchange?.map ExchangeError.httpStatus).getD 0
  failureClass := (err.exchange?.map ExchangeError.failureClass).getD .network
  retryAfterResult := err.exchange?.bind ExchangeError.retryAfterResult

def classifyRetryOutcome (attempts : Nat) (err : Err) : Err :=
  if attempts < 1 then err
  else if err.wraps .errExchangeTransport || err = .context .deadlineExceeded then
    .exchange (retriesExhausted attempts err)
  else err

/-! ## The gate -/

def defaultMaxHonoredRetryAfter : Int := 60 * second

def Exchanger.ceiling (e : Exchanger) : Int :=
  if e.maxHonoredRetryAfter ≤ 0 then defaultMaxHonoredRetryAfter else e.maxHonoredRetryAfter

def clampRetryAfter (e : Exchanger) (delay : Int) : Int :=
  if delay > e.ceiling then e.ceiling else delay

def gateCheck (gatedUntil now : Int) : Bool := gatedUntil > 0 && now < gatedUntil

/-- The loop of `raiseGate` at one load of the gate. A swap fails when a rival stored a value since
the load. -/
def swapMax (newUntil : Int) : List Int → Int → Int
  | [], cur => if newUntil ≤ cur then cur else newUntil
  | rival :: rivals, cur => if newUntil ≤ cur then cur else swapMax newUntil rivals rival

def raiseGate (delay now : Int) (rivals : List Int) (gatedUntil : Int) : Int :=
  if delay ≤ 0 then gatedUntil else swapMax (now + delay) rivals gatedUntil

def raiseGateOnExhaustedRateLimit (e : Exchanger) (err : Err) (now : Int) (rivals : List Int)
    (gatedUntil : Int) : Int :=
  match err.exchange? with
  | some exchErr =>
      if exchErr.sentinel ≠ .errExchangeRetriesExhausted then gatedUntil
      else if exchErr.failureClass ≠ .rateLimited then gatedUntil
      else
        match exchErr.retryAfterResult with
        | some result =>
            if result.ok then
              raiseGate (clampRetryAfter e result.delay) now rivals gatedUntil
            else gatedUntil
        | none => gatedUntil
  | none => gatedUntil

/-! ## The breaker -/

def isBreakerExcluded : Option Err → Bool
  | none => false
  | some err =>
      err = .context .canceled || err = .context .deadlineExceeded ||
        err.wraps .errExchangeRequestBuild || err.wraps .errExchangeMissingSubject ||
        failureClassOf err = .rateLimited || failureClassOf err = .config

def isBreakerFailure : Option Err → Bool
  | none => false
  | some err =>
      failureClassOf err = .network || failureClassOf err = .upstream5xx ||
        failureClassOf err = .bodyRead

def isBreakerSuccess (err : Option Err) : Bool := !isBreakerFailure err

/-- What `gobreaker` does with an outcome, and the counts it keeps. -/
structure Gobreaker (β : Type) where
  successes : β → Nat
  failures : β → Nat
  onExcluded : β → β
  onSuccess : β → β
  onFailure : β → β

def Gobreaker.Neutral {β : Type} (lib : Gobreaker β) : Prop :=
  ∀ b, lib.successes (lib.onExcluded b) = lib.successes b ∧
    lib.failures (lib.onExcluded b) = lib.failures b

structure Breaker (β : Type) where
  counts : β
  consecutiveFailures : UInt32

def Breaker.record {β : Type} (lib : Gobreaker β) (b : Breaker β) (err : Option Err) : Breaker β :=
  if isBreakerExcluded err then { b with counts := lib.onExcluded b.counts }
  else if isBreakerSuccess err then ⟨lib.onSuccess b.counts, 0⟩
  else ⟨lib.onFailure b.counts, b.consecutiveFailures + 1⟩

/-! ## Running an exchange -/

structure Ran (β : Type) where
  breaker : Breaker β
  gatedUntil : Int
  result : Except Err Token

def runExchangeOnce {β : Type} (lib : Gobreaker β) (e : Exchanger) (format : Format) (idp : Idp)
    (breaker : Breaker β) (gatedUntil : Int) : Ran β :=
  let done := doExchange e format idp
  match done.result with
  | .ok token => ⟨breaker.record lib none, gatedUntil, .ok token⟩
  | .error err =>
      let classified := classifyRetryOutcome done.attempts err
      let now := done.ended + idp.parseLag + idp.raiseLag
      ⟨breaker.record lib (some classified),
        raiseGateOnExhaustedRateLimit e classified now idp.rivals gatedUntil, .error classified⟩

end BrokerMcp.TokenExchange
