import BrokerMcp.Resilience.Sender

/-!
# Sending with retries

`retry.go` and the part of `Sender.Do` that comes after admission. What the network, the clock and
the authenticator do in an attempt is an `Attempt`, and a run of `Do` is a function of the attempts.

* An error is the list of what `errors.Unwrap` makes of it, outermost first.
* `retryLoop` is the loop of `go-retryablehttp`, which calls `checkRetry`, `prepareRetry` and
  `errorHandler`. `tries` is the record of what it did.
* The `WroteHeaders` hook of an attempt has run when the attempt is over.
-/

namespace BrokerMcp.Resilience

/-! ## Errors -/

inductive Foreign where
  | context (err : ContextError)
  | named (text : String)
deriving DecidableEq

structure RetriesExhaustedError where
  statusCode : Nat
  attempts : Nat
  nonIdempotent : Bool
  body : List UInt8
  detail : String
deriving DecidableEq

structure SEMPError where
  operation : String
  statusCode : Nat
  description : String
  sempCode : Int
  sempStatus : String
  body : List UInt8
deriving DecidableEq

inductive Link where
  | foreign (err : Foreign)
  | text (message : String)
  | errTransientCapReached
  | errNonIdempotentNotRetried
  | errResponseTooLarge
  | brokerBusy (stage : AdmissionStage) (maxWait : Int)
  | exchange (transport : Bool)
  | retriesExhausted (err : RetriesExhaustedError)
  | semp (err : SEMPError)
deriving DecidableEq

abbrev Chain := List Link

def Link.exhausted? : Link → Option RetriesExhaustedError
  | .retriesExhausted err => some err
  | _ => none

def Chain.amend (f : RetriesExhaustedError → RetriesExhaustedError) : Chain → Chain
  | [] => []
  | .retriesExhausted err :: rest => .retriesExhausted (f err) :: rest
  | link :: rest => link :: Chain.amend f rest

def AdmissionError.chain : AdmissionError → Chain
  | .context err => [.foreign (.context err)]
  | .brokerBusy stage maxWait => [.brokerBusy stage maxWait]

/-! ## Attempts -/

/-- A response body: the bytes that arrive, and the error that follows them instead of the end. -/
structure Body where
  content : List UInt8
  broken : Option (List Foreign)
deriving DecidableEq

def readCappedBody (body : Body) (limit : Nat) : Except Chain (List UInt8) :=
  if body.content.length ≤ limit then
    match body.broken with
    | some err => .error (.text "reading body" :: err.map .foreign)
    | none => .ok body.content
  else .error [.text s!"response body exceeded size cap (cap: {limit} bytes)", .errResponseTooLarge]

structure Reply where
  statusCode : Nat
  body : Body
deriving DecidableEq

def Reply.closed (reply : Reply) : Reply := { reply with body := ⟨[], none⟩ }

/-- What `http.Client.Do` returns. A redirect that is refused gives both a response and an error. -/
inductive Outcome where
  | answered (reply : Reply)
  | failed (resp : Option Reply) (err : List Foreign)
deriving DecidableEq

structure AuthFailureResult where
  retry : Bool
  reAuth : Bool
deriving DecidableEq

/-- One attempt: `ctxErr` is `ctx.Err()` when `checkRetry` is called, `policy` and `authResult` what
`DefaultRetryPolicy` makes of a transport error and `HandleAuthFailure` of a 401, and `backoff` and
`addAuth` the end of the context during the backoff that follows and what `AddAuth` returns after
it. -/
structure Attempt where
  wroteHeaders : Bool
  outcome : Outcome
  ctxErr : Option ContextError
  policy : Bool × Option (List Foreign)
  authResult : AuthFailureResult
  backoff : Option ContextError
  addAuth : Option Chain
deriving DecidableEq

def Outcome.closed : Outcome → Outcome
  | .answered reply => .answered reply.closed
  | .failed resp err => .failed resp err

def Outcome.status? : Outcome → Option Nat
  | .answered reply => some reply.statusCode
  | .failed _ _ => none

def Outcome.responseStatus? : Outcome → Option Nat
  | .answered reply => some reply.statusCode
  | .failed resp _ => resp.map Reply.statusCode

/-! ## The retry policy -/

def methodPost : String := "POST"

def methodPatch : String := "PATCH"

structure Request where
  method : String
  retrySafe : Bool
  retryUnsafe : Bool
deriving DecidableEq

structure RetryState where
  requestWritten : Bool
  auth401Retried : Bool
  authRecovered : Bool
  other5xxRetried : Bool
  transientRetried : Nat
  method : String
  retrySafe : Bool
  retryUnsafe : Bool
  needsReauth : Bool
deriving DecidableEq

def RetryState.new (req : Request) : RetryState where
  requestWritten := false
  auth401Retried := false
  authRecovered := false
  other5xxRetried := false
  transientRetried := 0
  method := req.method
  retrySafe := req.retrySafe
  retryUnsafe := req.retryUnsafe
  needsReauth := false

def maxTransientRetries : Nat := 3

def retryableStatus (code : Nat) : Bool := code = 429 || code ≥ 500

structure Verdict where
  state : RetryState
  retry : Bool
  err : Option Chain
deriving DecidableEq

-- `checkRetry` from the check for a 401 on.
def checkStatus (state : RetryState) (result : AuthFailureResult) (statusCode : Nat) : Verdict :=
  if statusCode = 401 then
    let state := { state with authRecovered := false }
    if !state.auth401Retried then
      let state := { state with auth401Retried := true }
      if result.retry then ⟨{ state with needsReauth := result.reAuth }, true, none⟩
      else ⟨state, false, none⟩
    else ⟨state, false, none⟩
  else
    let state := if state.auth401Retried then { state with authRecovered := true } else state
    if state.retryUnsafe && retryableStatus statusCode then
      ⟨state, false, some [.errNonIdempotentNotRetried]⟩
    else if statusCode = 429 ∨ statusCode = 503 then
      if state.transientRetried ≥ maxTransientRetries then
        ⟨state, false, some [.errTransientCapReached]⟩
      else ⟨{ state with transientRetried := state.transientRetried + 1 }, true, none⟩
    else if statusCode ≥ 500 then
      if !state.other5xxRetried then ⟨{ state with other5xxRetried := true }, true, none⟩
      else ⟨state, false, none⟩
    else ⟨state, false, none⟩

def checkRetry (state : RetryState) (a : Attempt) : Verdict :=
  match a.ctxErr with
  | some err => ⟨state, false, some [.foreign (.context err)]⟩
  | none =>
      if (state.method = methodPost || state.method = methodPatch) && !state.retrySafe then
        match a.outcome with
        | .failed _ _ => ⟨state, false, none⟩
        | .answered reply =>
            if state.retryUnsafe && retryableStatus reply.statusCode then
              ⟨state, false, some [.errNonIdempotentNotRetried]⟩
            else ⟨state, false, none⟩
      else
        match a.outcome with
        | .failed _ _ =>
            if state.retryUnsafe then ⟨state, false, none⟩
            else ⟨state, a.policy.1, a.policy.2.map (List.map .foreign)⟩
        | .answered reply => checkStatus state a.authResult reply.statusCode

def prepareRetry (state : RetryState) (addAuth : Option Chain) :
    RetryState × Bool × Option Chain :=
  if state.needsReauth then ({ state with needsReauth := false }, true, addAuth)
  else (state, false, none)

def errorHandlerDrainLimit : Nat := 4096

def errorHandler (resp : Option Reply) (err : Option Chain) (numTries : Nat) : Chain :=
  let body := resp.elim [] fun reply => reply.body.content.take errorHandlerDrainLimit
  match err, resp with
  | some err, some reply =>
      .retriesExhausted ⟨reply.statusCode, numTries, false, body, ""⟩ :: err
  | some err, none => .retriesExhausted ⟨0, numTries, false, [], ""⟩ :: err
  | none, some reply => [.retriesExhausted ⟨reply.statusCode, numTries, false, body, ""⟩]
  | none, none => [.text s!"request failed after {numTries} attempts"]

/-! ## The retry loop -/

structure Try where
  attempt : Attempt
  before : RetryState
  verdict : Verdict
  reauthed : Bool

structure Sent where
  tries : List Try
  state : RetryState
  result : Except Chain Reply

def finish (a : Attempt) (retry : Bool) (prepareErr checkErr : Option Chain) (attempt : Nat) :
    Except Chain Reply :=
  match a.outcome with
  | .answered reply =>
      if prepareErr.isNone && checkErr.isNone && !retry then .ok reply
      else .error (errorHandler (some reply) (prepareErr <|> checkErr) attempt)
  | .failed resp err =>
      .error (errorHandler (resp.map Reply.closed)
        (prepareErr <|> checkErr <|> some (err.map .foreign)) attempt)

def retryLoop (attempts : Nat → Attempt) (remain i : Nat) (state : RetryState) (reauthed : Bool) :
    Sent :=
  let a := attempts i
  let state := { state with requestWritten := state.requestWritten || a.wroteHeaders }
  let verdict := checkRetry state a
  let this : Try := ⟨a, state, verdict, reauthed⟩
  if !verdict.retry then ⟨[this], verdict.state, finish a false none verdict.err (i + 1)⟩
  else
    match remain with
    | 0 => ⟨[this], verdict.state, finish a true none verdict.err (i + 1)⟩
    | remain + 1 =>
        match a.backoff with
        | some err => ⟨[this], verdict.state, .error [.foreign (.context err)]⟩
        | none =>
            let (state, reauthed, prepareErr) := prepareRetry verdict.state a.addAuth
            match prepareErr with
            | some err =>
                let drained := { a with outcome := a.outcome.closed }
                ⟨[this], state, finish drained true (some err) verdict.err (i + 1)⟩
            | none =>
                let rest := retryLoop attempts remain (i + 1) state reauthed
                { rest with tries := this :: rest.tries }

structure World where
  admission : Option AdmissionError
  wrapping : Option Chain
  attempts : Nat → Attempt

def doRequest (retryMax : Nat) (req : Request) (world : World) : Sent :=
  let state := RetryState.new req
  match world.admission, world.wrapping with
  | some err, _ => ⟨[], state, .error err.chain⟩
  | none, some err => ⟨[], state, .error (.text "wrapping request" :: err)⟩
  | none, none =>
      let sent := retryLoop world.attempts retryMax 0 state false
      match sent.result with
      | .ok _ => sent
      | .error err =>
          let writeSent := (sent.state.method = methodPost || sent.state.method = methodPatch) &&
            !sent.state.retrySafe && sent.state.requestWritten
          if req.retryUnsafe || writeSent then
            { sent with result := .error (err.amend fun e => { e with nonIdempotent := true }) }
          else sent

end BrokerMcp.Resilience
