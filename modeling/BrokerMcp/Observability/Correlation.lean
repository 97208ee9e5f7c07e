import BrokerMcp.Library.Assoc
import BrokerMcp.Library.Hex
import BrokerMcp.Library.Text

namespace BrokerMcp.Observability
open Text (Bytes)

def ascii (s : String) : Bytes := s.toList.map fun c => UInt8.ofNat c.toNat

/-! ## The context -/

structure Context where
  correlationID : Option Bytes
  rawSubjectToken : Option Bytes

def Context.with (ctx : Context) (id : Bytes) : Context := { ctx with correlationID := some id }

def Context.from (ctx : Context) : Bytes := ctx.correlationID.getD []

def Context.withRawSubjectToken (ctx : Context) (token : Bytes) : Context :=
  { ctx with rawSubjectToken := some token }

/-! ## Headers -/

abbrev Header := List (String × List Bytes)

def Header.get (h : Header) (name : String) : Bytes := ((h.lookup name).bind List.head?).getD []

def Header.set (h : Header) (name : String) (v : Bytes) : Header := Assoc.put name [v] h

def headerTraceparent : String := "Traceparent"

def headerCorrelationID : String := "X-Correlation-Id"

/-! ## White space -/

def spaces : List Bytes :=
  [[0x09], [0x0A], [0x0B], [0x0C], [0x0D], [0x20], [0xC2, 0x85], [0xC2, 0xA0], [0xE1, 0x9A, 0x80],
    [0xE2, 0x80, 0x80], [0xE2, 0x80, 0x81], [0xE2, 0x80, 0x82], [0xE2, 0x80, 0x83],
    [0xE2, 0x80, 0x84], [0xE2, 0x80, 0x85], [0xE2, 0x80, 0x86], [0xE2, 0x80, 0x87],
    [0xE2, 0x80, 0x88], [0xE2, 0x80, 0x89], [0xE2, 0x80, 0x8A], [0xE2, 0x80, 0xA8],
    [0xE2, 0x80, 0xA9], [0xE2, 0x80, 0xAF], [0xE2, 0x81, 0x9F], [0xE3, 0x80, 0x80]]

def spaceLen (spaces : List Bytes) (s : Bytes) : Nat :=
  ((spaces.find? fun space => space.isPrefixOf s).map List.length).getD 0

def trimLeft (spaces : List Bytes) : Nat → Bytes → Bytes
  | _, [] => []
  | skip + 1, _ :: rest => trimLeft spaces skip rest
  | 0, c :: rest =>
      match spaceLen spaces (c :: rest) with
      | 0 => c :: rest
      | skip + 1 => trimLeft spaces skip rest

/-- `strings.TrimSpace`: a space at the end is one at the start of the reversed text. -/
def trimSpace (s : Bytes) : Bytes :=
  (trimLeft (spaces.map List.reverse) 0 (trimLeft spaces 0 s).reverse).reverse

def field (word : Bytes) : List Bytes := if word = [] then [] else [word]

def fieldsFrom : Nat → Bytes → Bytes → List Bytes
  | _, word, [] => field word
  | skip + 1, word, _ :: rest => fieldsFrom skip word rest
  | 0, word, c :: rest =>
      match spaceLen spaces (c :: rest) with
      | 0 => fieldsFrom 0 (word ++ [c]) rest
      | skip + 1 => field word ++ fieldsFrom skip [] rest

def fields (s : Bytes) : List Bytes := fieldsFrom 0 [] s

/-! ## The ID of an inbound request -/

def maxIDLen : Nat := 128

def traceIDLen : Nat := 32

def zeroTraceID : Bytes := List.replicate 32 48

def isLowerHex (s : Bytes) : Bool := s ≠ [] && s.all Hex.isDigit

def validTraceID (s : Bytes) : Bool := s.length = traceIDLen && s ≠ zeroTraceID && isLowerHex s

def traceIDFromTraceparent (h : Bytes) : Option Bytes :=
  if h = [] then none
  else
    let parts := h.splitOn 45
    match parts with
    | version :: traceID :: spanID :: flags :: _ =>
        if version.length ≠ 2 ∨ spanID.length ≠ 16 ∨ flags.length ≠ 2 then none
        else if version = ascii "ff" then none
        else if version = ascii "00" ∧ parts.length ≠ 4 then none
        else if !isLowerHex version || !isLowerHex spanID || !isLowerHex flags then none
        else if !validTraceID traceID then none
        else some traceID
    | _ => none

def printable (c : UInt8) : Bool := !(c < 0x21 || c > 0x7E)

def sanitize (v : Bytes) : Option Bytes :=
  let v := trimSpace v
  if v = [] ∨ v.length > maxIDLen then none
  else if v.all printable then some v
  else none

def fromHeader (h : Header) : Option Bytes :=
  match traceIDFromTraceparent (h.get headerTraceparent) with
  | some id => some id
  | none => sanitize (h.get headerCorrelationID)

/-! ## A generated ID -/

structure Entropy where
  random : Vector UInt8 16
  ms : UInt64

def putUint64 (n : UInt64) : Vector UInt8 8 :=
  Vector.ofFn fun i => (n >>> UInt64.ofNat (56 - 8 * i.val)).toUInt8

def formatUUID (b : Vector UInt8 16) : Bytes :=
  let hex (start stop : Nat) := Hex.encode ((b.toList.take stop).drop start)
  hex 0 4 ++ [45] ++ hex 4 6 ++ [45] ++ hex 6 8 ++ [45] ++ hex 8 10 ++ [45] ++ hex 10 16

def generate (source : Entropy) : Bytes :=
  let ts := putUint64 source.ms
  let b : Vector UInt8 16 := Vector.ofFn fun i =>
    if early : i.val < 6 then ts[i.val + 2] else source.random[i]
  let b := b.set 6 ((b[6] &&& 0x0F) ||| 0x70)
  let b := b.set 8 ((b[8] &&& 0x3F) ||| 0x80)
  formatUUID b

/-! ## The middleware -/

structure Request where
  header : Header
  ctx : Context

def resolveID (source : Entropy) (h : Header) : Bytes :=
  match fromHeader h with
  | some id => id
  | none => generate source

def middleware (source : Entropy) (w : Header) (r : Request) : Header × Request :=
  let id := resolveID source r.header
  (w.set headerCorrelationID id, ⟨r.header.set headerCorrelationID id, r.ctx.with id⟩)

/-! ## An outbound request -/

/-- `draw` is what is read for the span, if that does not fail. -/
def newSpanID (draw : Option (Vector UInt8 8)) : Option Bytes :=
  match draw with
  | none => none
  | some b => if b.toList.all fun v => v = 0 then none else some (Hex.encode b.toList)

def setHeaders (ctx : Context) (draw : Option (Vector UInt8 8)) (h : Header) : Header :=
  let id := ctx.from
  if id = [] then h
  else
    let h := h.set headerCorrelationID id
    if validTraceID id then
      match newSpanID draw with
      | some span => h.set headerTraceparent (ascii "00-" ++ id ++ ascii "-" ++ span ++ ascii "-01")
      | none => h
    else h

/-! ## The context of a message -/

def lowerASCII (c : UInt8) : UInt8 := if 65 ≤ c && c ≤ 90 then c + 32 else c

def parseBearerToken (authHeader : Bytes) : Option Bytes :=
  match fields authHeader with
  | [scheme, token] =>
      if scheme.map lowerASCII = ascii "bearer" ∧ token ≠ [] then some token else none
  | _ => none

def applyRequestExtra (ctx : Context) (h : Header) (hasTokenInfo correlationEnabled : Bool) : Context :=
  let ctx :=
    if hasTokenInfo then
      match parseBearerToken (h.get "Authorization") with
      | some token => ctx.withRawSubjectToken token
      | none => ctx
    else ctx
  if correlationEnabled then
    match fromHeader h with
    | some id => ctx.with id
    | none => ctx
  else ctx

end BrokerMcp.Observability
