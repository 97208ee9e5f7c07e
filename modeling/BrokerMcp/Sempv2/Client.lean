import BrokerMcp.Resilience.Retry

/-!
# Executing a SEMPv2 operation

`HTTPClient.Execute`. Building the URL and the request and the first `AddAuth` enter through their
errors, and `encoding/json` through what it makes of a body.
-/

namespace BrokerMcp.Sempv2
open Resilience

structure Operation where
  id : String
  method : String
deriving DecidableEq

structure Envelope where
  code : Int
  status : String
  description : String

/-- `json.Unmarshal`, into a `map[string]any` and into the `meta.error` envelope. -/
structure Decoder (δ : Type) where
  data : List UInt8 → Except Foreign δ
  envelope : List UInt8 → Option Envelope

structure Result (δ : Type) where
  data : δ
  statusCode : Nat

def maxSEMPResponseBytes : Nat := 16 * 1024 * 1024

def maxErrorTextLen : Nat := 4096

def truncationMarker : String := "... [truncated]"

def takeRunes : Nat → List Char → List Char
  | _, [] => []
  | n, c :: rest => if c.utf8Size ≤ n then c :: takeRunes (n - c.utf8Size) rest else []

def truncateErrorText (s : String) : String :=
  if s.utf8ByteSize ≤ maxErrorTextLen then s
  else String.ofList (takeRunes maxErrorTextLen s.toList) ++ truncationMarker

def runeStart (b : UInt8) : Bool := b &&& 0xC0 ≠ 0x80

def runeCut (b : List UInt8) : Nat → Nat
  | 0 => 0
  | cut + 1 => if b[cut + 1]?.any runeStart then cut + 1 else runeCut b cut

def truncateErrorBytes (b : List UInt8) : List UInt8 :=
  if b.length ≤ maxErrorTextLen then b
  else b.take (runeCut b maxErrorTextLen) ++ truncationMarker.toUTF8.toList

def parseSEMPError {δ : Type} (json : Decoder δ) (op : String) (statusCode : Nat)
    (body : List UInt8) : SEMPError :=
  match json.envelope body with
  | some envelope => ⟨op, statusCode, truncateErrorText envelope.description, envelope.code,
      envelope.status, truncateErrorBytes body⟩
  | none => ⟨op, statusCode, "", 0, "", truncateErrorBytes body⟩

structure Setting where
  buildURL : Option Chain
  buildRequest : Option Chain
  addAuth : Option Chain
  world : World

structure Executed (δ : Type) where
  tries : List Try
  result : Except Chain (Result δ)

def describe {δ : Type} (json : Decoder δ) (op : Operation) (e : RetriesExhaustedError) :
    RetriesExhaustedError :=
  if e.body.length > 0 then
    let sempErr := parseSEMPError json op.id e.statusCode e.body
    if sempErr.description ≠ "" then { e with detail := sempErr.description } else e
  else e

-- `Execute` once `Do` has returned a response.
def readReply {δ : Type} (json : Decoder δ) (op : Operation) (reply : Reply) :
    Except Chain (Result δ) :=
  match readCappedBody reply.body maxSEMPResponseBytes with
  | .error err =>
      let err :=
        if op.method = methodPost || op.method = methodPatch then
          .retriesExhausted ⟨reply.statusCode, 1, true, [], ""⟩ :: err
        else err
      .error (.text s!"reading response for {op.id}" :: err)
  | .ok body =>
      if reply.statusCode < 200 || reply.statusCode ≥ 300 then
        .error [.semp (parseSEMPError json op.id reply.statusCode body)]
      else
        match json.data body with
        | .error err => .error [.text s!"parsing JSON response for {op.id}", .foreign err]
        | .ok data => .ok ⟨data, reply.statusCode⟩

def execute {δ : Type} (json : Decoder δ) (retryMax : Nat) (op : Operation)
    (retrySafe retryUnsafe : Bool) (setting : Setting) : Executed δ :=
  match setting.buildURL, setting.buildRequest, setting.addAuth with
  | some err, _, _ => ⟨[], .error err⟩
  | none, some err, _ => ⟨[], .error (.text s!"building request for {op.id}" :: err)⟩
  | none, none, some err => ⟨[], .error (.text s!"applying auth for {op.id}" :: err)⟩
  | none, none, none =>
      let sent := doRequest retryMax ⟨op.method, retrySafe, retryUnsafe⟩ setting.world
      match sent.result with
      | .error err =>
          ⟨sent.tries, .error (.text s!"executing {op.id}" :: err.amend (describe json op))⟩
      | .ok reply => ⟨sent.tries, readReply json op reply⟩

end BrokerMcp.Sempv2
