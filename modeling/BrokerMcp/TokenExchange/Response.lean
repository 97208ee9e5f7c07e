import BrokerMcp.Composite.Definition

namespace BrokerMcp.TokenExchange
open Resilience
open Text (atoi trimSpace)

inductive Sentinel where
  | errExchangeRejected
  | errExchangeTransport
  | errInvalidResponse
  | errExchangeMissingSubject
  | errExchangeRequestBuild
  | errExchangeRetriesExhausted
  | errExchangeCircuitOpen
  | errExchangeRateLimited
deriving DecidableEq

inductive FailureClass where
  | none
  | network
  | upstream5xx
  | rateLimited
  | bodyRead
  | config
deriving DecidableEq

structure RetryAfterResult where
  delay : Int
  ok : Bool
  raw : String
deriving DecidableEq

structure ExchangeError where
  sentinel : Sentinel
  message : String
  httpStatus : Nat := 0
  failureClass : FailureClass := .none
  retryAfterResult : Option RetryAfterResult := Option.none
deriving DecidableEq

inductive Err where
  | context (err : ContextError)
  | exchange (err : ExchangeError)
deriving DecidableEq

def Err.text : Err → String
  | .context .canceled => "context canceled"
  | .context .deadlineExceeded => "context deadline exceeded"
  | .exchange err => err.message

def Err.wraps (sentinel : Sentinel) : Err → Bool
  | .context _ => false
  | .exchange err => err.sentinel = sentinel

def Err.exchange? : Err → Option ExchangeError
  | .context _ => Option.none
  | .exchange err => some err

def failureClassOf (err : Err) : FailureClass :=
  (err.exchange?.map ExchangeError.failureClass).getD .none

def second : Int := 1000000000

def maxDuration : Int := 2 ^ 63 - 1

def maxExpiresInSeconds : Int := 100 * 365 * 24 * 3600

/-- The library functions on texts: `http.ParseTime`, `mime.ParseMediaType` and the verb `%q`. -/
structure Format where
  parseTime : String → Option Int
  parseMediaType : String → Option String
  quote : String → String

def sub (when now : Int) : Int := max (-maxDuration - 1) (min maxDuration (when - now))

def parseRetryAfter (format : Format) (headerValues : List String) (now : Int) :
    RetryAfterResult :=
  match headerValues with
  | [] => ⟨0, false, ""⟩
  | raw :: _ =>
      if raw = "" then ⟨0, false, ""⟩
      else
        let trimmed := trimSpace raw
        let (seconds, parsed) := atoi trimmed
        if parsed then
          if seconds < 0 then ⟨0, true, raw⟩
          else if seconds > maxExpiresInSeconds then ⟨0, false, raw⟩
          else ⟨seconds * second, true, raw⟩
        else
          match format.parseTime trimmed with
          | some when => ⟨if sub when now > 0 then sub when now else 0, true, raw⟩
          | Option.none => ⟨0, false, raw⟩

structure Token where
  value : String
  expiresAt : Int
deriving DecidableEq

structure SuccessResponse where
  accessToken : String
  tokenType : String
  issuedTokenType : String
  expiresIn : Int

/-- The bytes of a body, by what `json.Unmarshal` makes of them: as a `successResponse`, or why not,
and the code in an `errorResponse`. -/
structure Body where
  success : Except String SuccessResponse
  error : Option String

structure Response where
  statusCode : Nat
  contentType : String
  retryAfter : List String
  body : Except String Body

inductive GrantType where
  | tokenExchange
  | jwtBearer
deriving DecidableEq

structure Exchanger where
  grantType : GrantType
  tokenExpiryFallback : Int
  maxHonoredRetryAfter : Int
  chainDeadline : Int
  maxRetries : Nat

def urnTokenTypeAccessToken : String := "urn:ietf:params:oauth:token-type:access_token"

def maxEchoedFieldLen : Nat := 64

def defaultTokenExpirySkew : Int := 30 * second

def invalidResponse (text : String) (status : Nat := 0) : ExchangeError where
  sentinel := .errInvalidResponse
  message := "token exchange invalid response: " ++ text
  httpStatus := status

def responseMediaType (format : Format) (resp : Response) : String :=
  if resp.contentType = "" then "" else (format.parseMediaType resp.contentType).getD ""

def lifetime (e : Exchanger) (expiresIn : Int) : Except ExchangeError (Int × Bool) :=
  if expiresIn < 0 then
    .error (invalidResponse (s!"IdP returned negative expires_in {expiresIn} — " ++
      "configure a positive token lifetime on the IdP client"))
  else if expiresIn = 0 then
    if e.tokenExpiryFallback = 0 then
      .error (invalidResponse ("IdP success response missing or zero expires_in — " ++
        "configure token lifetimes on the IdP client or set broker_oauth.token_expiry_fallback"))
    else .ok (e.tokenExpiryFallback, true)
  else if expiresIn > maxExpiresInSeconds then
    .error (invalidResponse (s!"IdP returned expires_in {expiresIn} which exceeds the safe " ++
      "arithmetic limit — likely a misbehaving IdP or intercepted response"))
  else .ok (expiresIn * second, false)

def parseSuccessBody (e : Exchanger) (format : Format) (body : Body) (now : Int) :
    Except ExchangeError (Token × Bool) :=
  match body.success with
  | .error err => .error (invalidResponse ("unparseable IdP success response: " ++ err))
  | .ok sr =>
      if sr.accessToken = "" then
        .error (invalidResponse "IdP success response missing access_token")
      else if sr.tokenType.toLower ≠ "bearer" then
        if sr.tokenType.utf8ByteSize > maxEchoedFieldLen then
          .error (invalidResponse (s!"IdP returned an oversized token_type " ++
            s!"({sr.tokenType.utf8ByteSize} bytes), expected \"Bearer\""))
        else
          .error (invalidResponse ("IdP returned token_type " ++ format.quote sr.tokenType ++
            ", expected \"Bearer\" — the MCP server only supports Bearer tokens"))
      else if e.grantType = .tokenExchange && sr.issuedTokenType ≠ urnTokenTypeAccessToken then
        if sr.issuedTokenType.utf8ByteSize > maxEchoedFieldLen then
          .error (invalidResponse (s!"IdP returned an oversized issued_token_type " ++
            s!"({sr.issuedTokenType.utf8ByteSize} bytes), expected " ++
            format.quote urnTokenTypeAccessToken))
        else
          .error (invalidResponse ("IdP returned issued_token_type " ++
            format.quote sr.issuedTokenType ++ ", expected " ++
            format.quote urnTokenTypeAccessToken ++
            " — the IdP may be misconfigured to issue a different token type"))
      else
        (lifetime e sr.expiresIn).map fun (lifetime, usedFallback) =>
          (⟨sr.accessToken, now + (lifetime - defaultTokenExpirySkew)⟩, usedFallback)

def classifyClientError (format : Format) (body : Body) (statusCode : Nat) : ExchangeError :=
  match body.error.filter (· ≠ "") with
  | some code =>
      if code.utf8ByteSize > maxEchoedFieldLen then
        invalidResponse (s!"IdP returned HTTP {statusCode} with oversized error code " ++
          s!"({code.utf8ByteSize} bytes) — not a standard OAuth error") statusCode
      else
        { sentinel := .errExchangeRejected
          message := "token exchange rejected by IdP: IdP error " ++ format.quote code ++
            s!" (HTTP {statusCode})"
          httpStatus := statusCode }
  | Option.none =>
      invalidResponse (s!"IdP returned HTTP {statusCode} with non-OAuth error body " ++
        "(possible proxy or WAF interception)") statusCode

def parseIdPResponse (e : Exchanger) (format : Format) (resp : Response) (now : Int) :
    Except ExchangeError (Token × Bool) :=
  match resp.body with
  | .error err =>
      .error
        { sentinel := .errExchangeTransport
          message := "token exchange transport failure: reading IdP response body: " ++ err
          failureClass := .bodyRead }
  | .ok body =>
      let ct := responseMediaType format resp
      if 200 ≤ resp.statusCode && resp.statusCode < 300 then
        if ct ≠ "" && ct ≠ "application/json" then
          if ct.utf8ByteSize > maxEchoedFieldLen then
            .error (invalidResponse (s!"IdP returned HTTP {resp.statusCode} with an oversized " ++
              s!"Content-Type ({ct.utf8ByteSize} bytes) — possible SSO/proxy interception")
              resp.statusCode)
          else
            .error (invalidResponse (s!"IdP returned HTTP {resp.statusCode} with Content-Type " ++
              format.quote ct ++ " (expected application/json — possible SSO/proxy interception)")
              resp.statusCode)
        else parseSuccessBody e format body now
      else if resp.statusCode = 429 then
        .error
          { sentinel := .errExchangeTransport
            message := "token exchange transport failure: IdP returned HTTP 429 (rate limited)"
            httpStatus := resp.statusCode
            failureClass := .rateLimited
            retryAfterResult := some (parseRetryAfter format resp.retryAfter now) }
      else if 400 ≤ resp.statusCode && resp.statusCode < 500 then
        .error (classifyClientError format body resp.statusCode)
      else
        .error
          { sentinel := .errExchangeTransport
            message := s!"token exchange transport failure: IdP returned HTTP {resp.statusCode}"
            httpStatus := resp.statusCode
            failureClass := .upstream5xx }

end BrokerMcp.TokenExchange
