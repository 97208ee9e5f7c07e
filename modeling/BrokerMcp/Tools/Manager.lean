import BrokerMcp.Composite.Executor
import BrokerMcp.Tools.DesiredState
import BrokerMcp.Tools.OwnerValidation

/-!
# Calling a tool

`CallTool` from the handler on, for a composite tool of one step: what becomes of an error of the
handler. The checks of the input and output schemas and the audit and log records are left out.
-/

namespace BrokerMcp.Tools
open Resilience BrokerMcp.Composite
open Text (quote)

def sempCodePermissionDenied : Int := 72

def isBrokerAuthzDenial (err : Chain) : Bool :=
  (err.findSome? Link.semp?).any fun e =>
    e.sempCode = sempCodePermissionDenied && e.statusCode ≠ 401

inductive ToolReply where
  | completed (content : Object)
  | desired (outcome : DesiredStateOutcome)
  | failed (err : Chain)

def DesiredStateOutcome.content (outcome : DesiredStateOutcome) : Object :=
  match outcome.outcome with
  | .alreadyExists =>
      [("outcome", .str "already_exists"), ("changed", .bool false),
        ("attributes_verified", .bool false)]
  | .alreadyAbsent => [("outcome", .str "already_absent"), ("changed", .bool false)]

def ToolReply.content : ToolReply → Option Object
  | .completed content => some content
  | .desired outcome => some outcome.content
  | .failed _ => none

/-- `HTTPClient.Execute` on each call of a step. Only an explicit `idempotent: false` marks the
request. -/
def httpClient (json : Sempv2.Decoder Object) (retryMax : Nat) (tool : CompositeTool)
    (settings : Nat → Sempv2.Setting) : Client := fun n op _ =>
  (Sempv2.execute json retryMax op.toOperation false (tool.idempotent = some false)
    (settings n)).result.map Sempv2.Result.data

def callTool (ce : CompositeExecutor) (host : Host) (json : Sempv2.Decoder Object) (retryMax : Nat)
    (tool : CompositeTool) (step : Step) (settings : Nat → Sempv2.Setting) (params : Object) :
    ToolReply :=
  match runSingle ce host step (httpClient json retryMax tool settings)
      ⟨stripBroker params, [], none⟩ with
  | .ok data => .completed [(step.id, .obj data)]
  | .error err =>
      if isBrokerAuthzDenial err then .failed (.text s!"executing tool {quote tool.name}" :: err)
      else
        match classifyDesiredStateOutcome err with
        | some outcome => .desired outcome
        | none => .failed (.text s!"executing tool {quote tool.name}" :: err)

end BrokerMcp.Tools
