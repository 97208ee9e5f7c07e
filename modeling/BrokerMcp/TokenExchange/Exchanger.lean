import BrokerMcp.Library.Assoc
import BrokerMcp.Library.Text
import BrokerMcp.Library.Trace
import BrokerMcp.TokenExchange.Response

/-!
# The exchanger

`Exchange` and `Invalidate` as steps of the calls of one `Exchanger`, which share its cache and its
singleflight group. A Go string is the list of its bytes.

* A flight runs the function that its first caller handed to `DoChan`, on a goroutine of its own.
* When the function returns, singleflight forgets the flight and hands the result to every caller
  that joined it, under one lock: this is `finish`.
* A step reads the clock and the outcome of a request from its action, so that a run may take any.
* The cache may lose an entry at any time, by `evict`.
-/

namespace BrokerMcp.TokenExchange
open Resilience
open Text (Bytes)

/-! ## The deduplication key -/

structure ExchangeInput where
  subjectToken : Bytes
  brokerAlias : Bytes
  target : Bytes
deriving DecidableEq

def hexDigit (n : Nat) : Char := "0123456789abcdef".toList.getD n '0'

def encodeToString (bytes : Bytes) : String :=
  String.ofList (bytes.flatMap fun b => [hexDigit (b.toNat / 16), hexDigit (b.toNat % 16)])

def preimage (input : ExchangeInput) : Bytes :=
  input.subjectToken ++ 0 :: (input.brokerAlias ++ 0 :: input.target)

def computeDeduplicationKey (sha256 : Bytes → Bytes) (input : ExchangeInput) : String :=
  encodeToString (sha256 (preimage input))

/-! ## The request -/

inductive ClientAuthMethod where
  | clientSecretBasic
  | clientSecretPost
deriving DecidableEq

structure Client where
  grantType : GrantType
  clientAuthMethod : ClientAuthMethod
  clientID : Bytes
  clientSecret : Bytes
  urlError : Option String

structure Request where
  form : List (String × Bytes)
  basicAuth : Option (Bytes × Bytes)
deriving DecidableEq

def bytes (text : String) : Bytes := text.toUTF8.toList

def blank : Bytes → Bool
  | [] => true
  | 0xC2 :: 0x85 :: rest => blank rest
  | 0xC2 :: 0xA0 :: rest => blank rest
  | 0xE1 :: 0x9A :: 0x80 :: rest => blank rest
  | 0xE2 :: 0x81 :: 0x9F :: rest => blank rest
  | 0xE2 :: 0x80 :: b :: rest =>
      ((0x80 ≤ b && b ≤ 0x8A) || b = 0xA8 || b = 0xA9 || b = 0xAF) && blank rest
  | 0xE3 :: 0x80 :: 0x80 :: rest => blank rest
  | b :: rest => ((9 ≤ b && b ≤ 13) || b = 0x20) && blank rest

def grantFields : GrantType → List (String × Bytes)
  | .tokenExchange => [("grant_type", bytes "urn:ietf:params:oauth:grant-type:token-exchange")]
  | .jwtBearer => [("grant_type", bytes "urn:ietf:params:oauth:grant-type:jwt-bearer")]

def subjectField : GrantType → String
  | .tokenExchange => "subject_token"
  | .jwtBearer => "assertion"

def targetField : GrantType → String
  | .tokenExchange => "audience"
  | .jwtBearer => "scope"

def subjectTokenType : GrantType → List (String × Bytes)
  | .tokenExchange => [("subject_token_type", bytes urnTokenTypeAccessToken)]
  | .jwtBearer => []

def requestedTokenUse : GrantType → List (String × Bytes)
  | .tokenExchange => []
  | .jwtBearer => [("requested_token_use", bytes "on_behalf_of")]

def clientAuth (client : Client) : List (String × Bytes) × Option (Bytes × Bytes) :=
  match client.clientAuthMethod with
  | .clientSecretBasic => ([], some (client.clientID, client.clientSecret))
  | .clientSecretPost =>
      ([("client_id", client.clientID), ("client_secret", client.clientSecret)], none)

def setTarget (grant : GrantType) (target : Bytes) : Except String (List (String × Bytes)) :=
  match grant with
  | .tokenExchange => .ok (if target = [] then [] else [(targetField grant, target)])
  | .jwtBearer =>
      if blank target then .error "jwt-bearer request missing scope"
      else .ok [(targetField grant, target)]

/-- `buildIdPRequest`. No two of its setters write the same field. -/
def buildIdPRequest (client : Client) (input : ExchangeInput) : Except String Request :=
  match client.urlError with
  | some err => .error ("tokenexchange: building IdP request: " ++ err)
  | none =>
      (setTarget client.grantType input.target).map fun target =>
        ⟨grantFields client.grantType ++ (subjectField client.grantType, input.subjectToken) ::
          (subjectTokenType client.grantType ++ requestedTokenUse client.grantType ++
            (clientAuth client).1 ++ target), (clientAuth client).2⟩

/-! ## Calls and flights -/

inductive FlightError where
  | err (err : Err)
  | breakerOpen
  | panicked
deriving DecidableEq

/-- Where a flight is: before its request is answered, with a token not yet put into the cache, and
after the `Put`. `failed` has an error to return; `landed` has been forgotten and delivered. -/
inductive FlightPhase where
  | running
  | issued (token : Token)
  | stored (token : Token)
  | failed (err : FlightError)
  | landed (result : Except FlightError Token)

structure Flight where
  key : String
  input : ExchangeInput
  phase : FlightPhase

inductive CallError where
  | abandoned (cause : ContextError)
  | exchange (err : ExchangeError) (brokerAlias target : Bytes)
  | other (err : FlightError)
deriving DecidableEq

inductive CallPhase where
  | called
  | guarded
  | found (token : Token)
  | missed
  | waiting (flight : Nat)
  | returned (result : Except CallError Token)

structure Call where
  input : ExchangeInput
  ended : Option ContextError
  phase : CallPhase

structure Issuance where
  flight : Nat
  request : Request
  token : Token

structure State where
  calls : List Call
  flights : List Flight
  group : List (String × Nat)
  cache : List (String × Token)
  issued : List Issuance

def State.init : State := ⟨[], [], [], [], []⟩

/-! ## The steps of a call -/

def Call.abandon (call : Call) (cause : ContextError) : Call :=
  { call with phase := .returned (.error (.abandoned cause)) }

def Call.guard (call : Call) : Option Call :=
  match call.phase, call.ended with
  | .called, some cause => some (call.abandon cause)
  | .called, none => some { call with phase := .guarded }
  | _, _ => none

def fresh? (cache : List (String × Token)) (key : String) (now : Int) : Option Token :=
  (cache.lookup key).filter fun token => now < token.expiresAt

def Call.get (call : Call) (found : Option Token) : Option Call :=
  match call.phase, found with
  | .guarded, some token => some { call with phase := .found token }
  | .guarded, none => some { call with phase := .missed }
  | _, _ => none

def Call.serve (call : Call) : Option Call :=
  match call.phase, call.ended with
  | .found _, some cause => some (call.abandon cause)
  | .found token, none => some { call with phase := .returned (.ok token) }
  | _, _ => none

def Call.join (call : Call) (flight : Nat) : Option Call :=
  match call.phase with
  | .missed => some { call with phase := .waiting flight }
  | _ => none

def circuitOpen : ExchangeError where
  sentinel := .errExchangeCircuitOpen
  message := "token exchange circuit open: identity provider recently unavailable, not attempting"

def Call.explain (call : Call) : FlightError → CallError
  | .err (.exchange err) => .exchange err call.input.brokerAlias call.input.target
  | .breakerOpen => .exchange circuitOpen call.input.brokerAlias call.input.target
  | err => .other err

def Call.flight? (call : Call) : Option Nat :=
  match call.phase with
  | .waiting f => some f
  | _ => none

/-- The branch of the `select` that has a result, which looks at the context once more. -/
def Call.receive (call : Call) (flight : Flight) : Option Call :=
  match flight.phase, call.ended with
  | .landed _, some cause => some (call.abandon cause)
  | .landed (.ok token), none => some { call with phase := .returned (.ok token) }
  | .landed (.error err), none => some { call with phase := .returned (.error (call.explain err)) }
  | _, _ => none

def Call.leave (call : Call) : Option Call :=
  match call.phase, call.ended with
  | .waiting _, some cause => some (call.abandon cause)
  | _, _ => none

def Call.cancel (cause : ContextError) (call : Call) : Option Call :=
  if call.ended = none then some { call with ended := some cause } else none

/-! ## The steps of a flight -/

def rateLimited : ExchangeError where
  sentinel := .errExchangeRateLimited
  message := "token exchange rate limited: honoring IdP Retry-After, not attempting"

def FlightPhase.result? : FlightPhase → Option (Except FlightError Token)
  | .stored token => some (.ok token)
  | .failed err => some (.error err)
  | _ => none

def FlightPhase.fail (err : FlightError) : FlightPhase → Option FlightPhase
  | .running => some (.failed err)
  | _ => none

def FlightPhase.panic : FlightPhase → Option FlightPhase
  | .running | .issued _ | .stored _ => some (.failed .panicked)
  | _ => none

def deriveTTL (now expiresAt maxTTL : Int) : Int :=
  if min (expiresAt - now) maxTTL ≤ 0 then 0 else min (expiresAt - now) maxTTL

def putToken (maxTTL now : Int) (key : String) (token : Token) (cache : List (String × Token)) :
    List (String × Token) :=
  if deriveTTL now token.expiresAt maxTTL = 0 then cache else Assoc.put key token cache

/-! ## The system -/

inductive Action where
  | exchange (input : ExchangeInput)
  | cancel (call : Nat) (cause : ContextError)
  | guard (call : Nat)
  | get (call : Nat) (now : Int)
  | serve (call : Nat)
  | doChan (call : Nat)
  | receive (call : Nat)
  | abandon (call : Nat)
  | gated (flight : Nat)
  | refused (flight : Nat)
  | answer (flight : Nat) (result : Except Err Token)
  | put (flight : Nat) (now : Int)
  | panicked (flight : Nat)
  | finish (flight : Nat)
  | evict (key : String)
  | invalidate (input : ExchangeInput)

def State.moveCall (s : State) (c : Nat) (move : Call → Option Call) : Option State := do
  let call ← s.calls[c]?
  let call ← move call
  return { s with calls := s.calls.set c call }

def State.setPhase (s : State) (f : Nat) (flight : Flight) (phase : FlightPhase) : State :=
  { s with flights := s.flights.set f { flight with phase } }

def State.movePhase (s : State) (f : Nat) (move : FlightPhase → Option FlightPhase) :
    Option State := do
  let flight ← s.flights[f]?
  let phase ← move flight.phase
  return s.setPhase f flight phase

def State.put (s : State) (maxTTL : Int) (f : Nat) (now : Int) : Option State := do
  let flight ← s.flights[f]?
  match flight.phase with
  | .issued token =>
      return { s.setPhase f flight (.stored token) with
        cache := putToken maxTTL now flight.key token s.cache }
  | _ => none

/-- The end of `doCall`: forget the flight and deliver its result. -/
def State.finish (s : State) (f : Nat) : Option State := do
  let flight ← s.flights[f]?
  let result ← flight.phase.result?
  return { s.setPhase f flight (.landed result) with
    group := if s.group.lookup flight.key = some f then Assoc.drop flight.key s.group
      else s.group }

def State.receive (s : State) (call : Call) : Option Call := do
  let f ← call.flight?
  let flight ← s.flights[f]?
  call.receive flight

section step

variable (sha256 : Bytes → Bytes) (client : Client) (maxTTL : Int)

def State.doChan (s : State) (c : Nat) : Option State := do
  let call ← s.calls[c]?
  let key := computeDeduplicationKey sha256 call.input
  match s.group.lookup key with
  | some f =>
      let joined ← call.join f
      return { s with calls := s.calls.set c joined }
  | none =>
      let joined ← call.join s.flights.length
      return { s with
        calls := s.calls.set c joined
        flights := s.flights ++ [⟨key, call.input, .running⟩]
        group := Assoc.put key s.flights.length s.group }

def State.answer (s : State) (f : Nat) (result : Except Err Token) : Option State := do
  let flight ← s.flights[f]?
  match flight.phase with
  | .running =>
      match buildIdPRequest client flight.input, result with
      | .error text, _ =>
          return s.setPhase f flight (.failed (.err (.exchange
            { sentinel := .errExchangeRequestBuild
              message := "token exchange request build failure: " ++ text })))
      | .ok _, .error err => return s.setPhase f flight (.failed (.err err))
      | .ok request, .ok token =>
          return { s.setPhase f flight (.issued token) with
            issued := s.issued ++ [⟨f, request, token⟩] }
  | _ => none

def step (s : State) : Action → Option State
  | .exchange input => some { s with calls := s.calls ++ [⟨input, none, .called⟩] }
  | .cancel c cause => s.moveCall c (Call.cancel cause)
  | .guard c => s.moveCall c Call.guard
  | .get c now => s.moveCall c fun call =>
      call.get (fresh? s.cache (computeDeduplicationKey sha256 call.input) now)
  | .serve c => s.moveCall c Call.serve
  | .doChan c => s.doChan sha256 c
  | .receive c => s.moveCall c s.receive
  | .abandon c => s.moveCall c Call.leave
  | .gated f => s.movePhase f (FlightPhase.fail (.err (.exchange rateLimited)))
  | .refused f => s.movePhase f (FlightPhase.fail .breakerOpen)
  | .answer f result => s.answer client f result
  | .put f now => s.put maxTTL f now
  | .panicked f => s.movePhase f FlightPhase.panic
  | .finish f => s.finish f
  | .evict key => some { s with cache := Assoc.drop key s.cache }
  | .invalidate input =>
      some { s with cache := Assoc.drop (computeDeduplicationKey sha256 input) s.cache }

end step

/-! ## The authenticator -/

structure OAuthAuthenticator where
  target : Bytes
  brokerAlias : Bytes

def OAuthAuthenticator.input (a : OAuthAuthenticator) (subjectToken : Bytes) : ExchangeInput :=
  ⟨subjectToken, a.brokerAlias, a.target⟩

end BrokerMcp.TokenExchange
