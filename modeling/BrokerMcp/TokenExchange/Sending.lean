import BrokerMcp.TokenExchange.Exchanger

/-!
# Sending with an exchanged token

The `Do` calls of senders with an OAuth authenticator, one after the other, over the token cache of
their exchanger. `AddAuth` runs before the first attempt and, after a 401, in `prepareRetry`; it takes
the token from the cache or from the identity provider. The verdict on an attempt is that of
`checkRetry`, which calls `HandleAuthFailure` right after it has set `auth401Retried`.

* The retry client may leave at any backoff, so that a run may have any number of attempts.
* The cache may lose an entry at any time, and may get one from a flight that its callers have left.
* `issued` is not in the source: it lists the keys and values of the tokens that were issued.
-/

namespace BrokerMcp.TokenExchange
open Resilience
open Text (Bytes)

structure Sending where
  input : ExchangeInput
  state : RetryState
  bearer : String
  waiting : Bool

structure Outbox where
  cache : List (String × Token)
  issued : List (String × String)
  sending : Option Sending

def Outbox.empty : Outbox := ⟨[], [], none⟩

/-- What one `Exchange` meets: the clock at the lookup, the answer of the identity provider and the
clock at the `Put`. -/
structure Exchanging where
  now : Int
  answer : Except Err Token
  putAt : Int

inductive SendAction where
  | start (input : ExchangeInput) (req : Resilience.Request) (x : Exchanging)
  | attempt (a : Resilience.Attempt)
  | resume (x : Exchanging)
  | leave
  | fill (key : String) (token : Token) (now : Int)
  | evict (key : String)

/-- What `HandleAuthFailure` returns for a request with a subject token. -/
def authFailureResult : AuthFailureResult := ⟨true, true⟩

def authHandled (before after : RetryState) : Bool :=
  !before.auth401Retried && after.auth401Retried

section stepping

variable (sha256 : Bytes → Bytes) (maxTTL : Int)

def Sending.key (c : Sending) : String := computeDeduplicationKey sha256 c.input

def exchangeAlone (s : Outbox) (key : String) (x : Exchanging) : Except Err (Token × Outbox) :=
  match fresh? s.cache key x.now with
  | some token => .ok (token, s)
  | none =>
      match x.answer with
      | .error err => .error err
      | .ok token => .ok (token, { s with
          cache := putToken maxTTL x.putAt key token s.cache
          issued := s.issued ++ [(key, token.value)] })

/-- `AddAuth` for a call whose token it sets; without one there is no call any more. -/
def addAuth (s : Outbox) (x : Exchanging) (input : ExchangeInput) (state : RetryState) : Outbox :=
  match exchangeAlone maxTTL s (computeDeduplicationKey sha256 input) x with
  | .ok (token, s) => { s with sending := some ⟨input, state, token.value, false⟩ }
  | .error _ => { s with sending := none }

def Outbox.attempt (s : Outbox) (c : Sending) (a : Resilience.Attempt) : Outbox :=
  let state := { c.state with requestWritten := c.state.requestWritten || a.wroteHeaders }
  let verdict := Resilience.checkRetry state { a with authResult := authFailureResult }
  { s with
    cache := if authHandled state verdict.state then Assoc.drop (c.key sha256) s.cache else s.cache
    sending :=
      if verdict.retry then some { c with state := verdict.state, waiting := true } else none }

def Outbox.resume (s : Outbox) (c : Sending) (x : Exchanging) : Outbox :=
  match prepareRetry c.state none with
  | (state, true, _) => addAuth sha256 maxTTL s x c.input state
  | (state, false, _) => { s with sending := some { c with state := state, waiting := false } }

def Outbox.step (s : Outbox) : SendAction → Option Outbox
  | .start input req x =>
      match s.sending with
      | none => some (addAuth sha256 maxTTL s x input (.new req))
      | some _ => none
  | .attempt a => do
      let c ← s.sending
      if c.waiting then none else some (s.attempt sha256 c a)
  | .resume x => do
      let c ← s.sending
      if c.waiting then some (s.resume sha256 maxTTL c x) else none
  | .leave => do
      let c ← s.sending
      if c.waiting then some { s with sending := none } else none
  | .fill key token now => some { s with
      cache := putToken maxTTL now key token s.cache
      issued := s.issued ++ [(key, token.value)] }
  | .evict key => some { s with cache := Assoc.drop key s.cache }

end stepping

end BrokerMcp.TokenExchange
