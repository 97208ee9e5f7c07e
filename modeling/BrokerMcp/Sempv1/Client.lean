import BrokerMcp.Sempv1.Request
import BrokerMcp.Sempv2.Client

namespace BrokerMcp.Sempv1
open Resilience
open Sempv2 (truncateErrorText maxSEMPResponseBytes)

inductive ErrorKind where
  | unknown
  | http
  | parse
  | permission
  | limit
  | executeFail
deriving DecidableEq

structure Error where
  kind : ErrorKind
  statusCode : Nat := 0
  message : String := ""
  reasonCode : Int := 0
  body : List UInt8 := []
deriving DecidableEq

def invalidInput (message : String) : Error := { kind := .unknown, message }

structure ExecuteResult where
  code : String
  reason : String
  reasonCode : Int
deriving DecidableEq

structure RpcReply where
  rpc : Option (List UInt8)
  executeResult : Option ExecuteResult
  parseError : Option String
  permissionError : Option String
  limitError : Option String
deriving DecidableEq

def envelopeError (kind : ErrorKind) (text : String) (body : List UInt8) : Error where
  kind := kind
  statusCode := 200
  message := truncateErrorText text
  body := body

def parseReply (unmarshal : List UInt8 → Option RpcReply) (body : List UInt8) :
    Except Error (List UInt8) :=
  match unmarshal body with
  | none => .error { kind := .unknown, statusCode := 200, body }
  | some r =>
      match r.parseError, r.permissionError, r.limitError, r.executeResult with
      | some text, _, _, _ => .error (envelopeError .parse text body)
      | none, some text, _, _ => .error (envelopeError .permission text body)
      | none, none, some text, _ => .error (envelopeError .limit text body)
      | none, none, none, result =>
          match result.filter (·.code = "fail"), r.rpc with
          | some result, _ =>
              .error { envelopeError .executeFail result.reason body with
                reasonCode := result.reasonCode }
          | none, some inner => .ok inner
          | none, none =>
              .error { kind := .unknown, statusCode := 200, message := "empty reply", body }

/-- The errors of building the request and of the first `AddAuth`, and what `Do` meets. -/
structure Setting where
  buildRequest : Option Chain
  addAuth : Option Chain
  retryUnsafe : Bool
  world : World

inductive Failure where
  | chain (err : Chain)
  | semp (err : Error)

structure Executed where
  tries : List Try
  result : Except Failure (List UInt8)

def readReply (unmarshal : List UInt8 → Option RpcReply) (reply : Reply) :
    Except Failure (List UInt8) :=
  match readCappedBody reply.body maxSEMPResponseBytes with
  | .error err => .error (.chain (.text "reading SEMPv1 response body" :: err))
  | .ok body =>
      if reply.statusCode < 200 || reply.statusCode ≥ 300 then
        .error (.semp { kind := .http, statusCode := reply.statusCode, body })
      else (parseReply unmarshal body).mapError .semp

def sentRequest (xml : String) (setting : Setting) : Resilience.Request :=
  ⟨methodPost, isShowCommand xml, setting.retryUnsafe⟩

def execute (unmarshal : List UInt8 → Option RpcReply) (retryMax : Nat) (xml : String)
    (setting : Setting) : Executed :=
  if xml = "" then ⟨[], .error (.semp (invalidInput "empty xml"))⟩
  else
    match setting.buildRequest, setting.addAuth with
    | some err, _ => ⟨[], .error (.chain (.text "building SEMPv1 request" :: err))⟩
    | none, some err => ⟨[], .error (.chain (.text "applying SEMPv1 auth" :: err))⟩
    | none, none =>
        let sent := doRequest retryMax (sentRequest xml setting) setting.world
        match sent.result with
        | .error err => ⟨sent.tries, .error (.chain (.text "executing SEMPv1 request" :: err))⟩
        | .ok reply => ⟨sent.tries, readReply unmarshal reply⟩

end BrokerMcp.Sempv1
