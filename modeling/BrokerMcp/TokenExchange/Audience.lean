import BrokerMcp.Library.CappedSet
import BrokerMcp.Library.JsonText
import BrokerMcp.Sempv2.Request

/-!
# The audience of an issued token

`audience_check.go`. Calls of `warnIfAudienceMismatch` run at once: the look-up in
`audienceMismatchLogged`, the load of `audienceMismatchLoggedCount`, the `LoadOrStore` and the increment
are steps of their own, and so is the log line at the end. The decoders of base64url and of JSON, and
SHA-256, are parameters.
-/

namespace BrokerMcp.TokenExchange
open BrokerMcp.Sempv2 (utf8)

def auditLogAudienceCap : Nat := 5

def auditLogAudienceMaxLen : Nat := 200

def audienceMismatchLoggedCap : Nat := 10000

structure JwtClaims where
  audience : List String

structure JwtFormat where
  decodeString : String → Option (List UInt8)
  unmarshal : List UInt8 → Option JwtClaims

def decodeJWTClaimsUnverified (format : JwtFormat) (token : String) : Option JwtClaims :=
  match token.toList.splitOn '.' with
  | [_, payload, _] => (format.decodeString (String.ofList payload)).bind format.unmarshal
  | _ => none

structure Mismatch where
  brokerAlias : String
  requestedAudience : String
  audience : List String

def mismatch (format : JwtFormat) (brokerAlias requestedAudience accessToken : String) :
    Option Mismatch :=
  if requestedAudience = "" then none
  else do
    let claims ← decodeJWTClaimsUnverified format accessToken
    if requestedAudience ∈ claims.audience then none
    else some ⟨brokerAlias, requestedAudience, claims.audience⟩

def sortedAudience (m : Mismatch) : List String := m.audience.mergeSort fun a b => decide (a ≤ b)

def encodedShape (m : Mismatch) : String :=
  String.ofList ("\x7b\"broker_alias\":".toList ++ (JsonText.quote m.brokerAlias ++
    (",\"requested_audience\":".toList ++ (JsonText.quote m.requestedAudience ++
      (",\"audience\":".toList ++ (JsonText.array (sortedAudience m) ++ ['\x7d']))))))

def audienceMismatchKey (sum256 : List UInt8 → List UInt8) (m : Mismatch) : List UInt8 :=
  sum256 (utf8 (encodedShape m))

inductive Level where
  | debug
  | info
deriving DecidableEq

structure LogLine where
  level : Level
  message : String
  broker : String
  requestedAudience : String
  audClaim : List String
deriving DecidableEq

def truncateRunes (s : String) (max : Nat) : String :=
  if s.length ≤ max then s
  else if max = 0 then ""
  else String.ofList (s.toList.take (max - 1)) ++ "…"

def boundedAudienceList (aud : List String) : List String :=
  (aud.take auditLogAudienceCap).map fun s => truncateRunes s auditLogAudienceMaxLen

/-- The level stays at INFO where the key was stored, and where the cap was reached. -/
def levelOf : CappedSet.Outcome → Level
  | .known | .beaten => .debug
  | .full | .first => .info

def mismatchLine (m : Mismatch) (outcome : CappedSet.Outcome) : LogLine where
  level := levelOf outcome
  message := "token exchange: issued access token's aud claim differs from the requested audience " ++
    "(may reflect expected IdP canonicalization behavior, not necessarily an error)"
  broker := m.brokerAlias
  requestedAudience := m.requestedAudience
  audClaim := boundedAudienceList m.audience

structure AudienceState where
  calls : List Mismatch
  shapes : CappedSet.State (List UInt8)
  log : List (Nat × LogLine)

def AudienceState.start : AudienceState := ⟨[], .start, []⟩

inductive AudienceAction where
  | warn (brokerAlias requestedAudience accessToken : String)
  | load (c : Nat)
  | check (c : Nat)
  | store (c : Nat)
  | add (c : Nat)
  | log (c : Nat)

def AudienceState.access (s : AudienceState) (a : CappedSet.Action (List UInt8)) :
    Option AudienceState :=
  (CappedSet.step audienceMismatchLoggedCap s.shapes a).map fun shapes => { s with shapes := shapes }

def AudienceState.write (s : AudienceState) (c : Nat) (m : Mismatch) : CappedSet.Phase → Option AudienceState
  | .done outcome =>
      if c ∈ s.log.map Prod.fst then none
      else some { s with log := s.log ++ [(c, mismatchLine m outcome)] }
  | _ => none

section stepping

variable (format : JwtFormat) (sum256 : List UInt8 → List UInt8)

def AudienceState.step (s : AudienceState) : AudienceAction → Option AudienceState
  | .warn brokerAlias requestedAudience accessToken =>
      match mismatch format brokerAlias requestedAudience accessToken with
      -- there is nothing to report, and the call returns
      | none => some s
      | some m =>
          (s.access (.enter (audienceMismatchKey sum256 m))).map fun s =>
            { s with calls := s.calls ++ [m] }
  | .load c => s.access (.load c)
  | .check c => s.access (.check c)
  | .store c => s.access (.store c)
  | .add c => s.access (.add c)
  | .log c => do
      let m ← s.calls[c]?
      let caller ← s.shapes.callers[c]?
      s.write c m caller.phase

end stepping

def AudienceState.isOver (s : AudienceState) : Bool :=
  (List.range s.calls.length).all fun c => c ∈ s.log.map Prod.fst

end BrokerMcp.TokenExchange
