import BrokerMcp.Composite.Execution

/-!
# Whether a write was sent

`SendRecorder` of `send_recorder.go` under one `CallTool`. A handler makes requests of its own, as
the reads of `owner_validation.go` and the handlers outside `composite` are, and hands over to the
executor if its tool is a composite one. The `WroteHeaders` hook of each request in progress marks
the recorder, and the deferred emission reads it once the handler has returned or panicked.
-/

namespace BrokerMcp.Tools
open Resilience BrokerMcp.Composite

def methodGet : String := "GET"

def methodHead : String := "HEAD"

def isWriteRequest (method : String) (retrySafe : Bool) : Bool :=
  method ≠ methodGet && method ≠ methodHead && !retrySafe

structure OwnRequest where
  method : String
  retrySafe : Bool
  busy : Bool

inductive Site where
  | own (r : Nat)
  | single (j : Nat)
  | worker (j w : Nat)

def callAt (s : Execution) : Site → Option Step
  | .own _ => none
  | .single j => do
      let part ← s.parts[j]?
      match part.work with
      | .single thread => if thread.isCalling then some part.step else none
      | _ => none
  | .worker j w => do
      let part ← s.parts[j]?
      match part.work with
      | .fanOut fan =>
          let worker ← fan.workers[w]?
          if worker.thread.isCalling then some part.step else none
      | _ => none

structure ToolCall where
  own : List OwnRequest
  exec : Option Execution
  returned : Bool
  sent : Bool

def ToolCall.writeSent (s : ToolCall) : Bool := s.sent

def ToolCall.start : ToolCall := ⟨[], none, false, false⟩

inductive ToolAction where
  | request (method : String) (retrySafe : Bool)
  | answer (r : Nat)
  | handOver (ended : Bool)
  | exec (a : ExecAction)
  | leave
  | wroteHeaders (site : Site)
  | emit

/-- The handler's own requests are answered. It makes them in its own goroutine, or in a group for
which it waits. -/
def ToolCall.answered (s : ToolCall) : Bool := s.own.all fun request => !request.busy

section stepping

variable (ce : CompositeExecutor) (host : Host)
variable (applyResultStrategy : List (String × Object) → Except Chain Object)
variable (retrySafe : Bool) (tool : CompositeTool) (params : Object)

def ToolCall.requestAt (s : ToolCall) : Site → Option (String × Bool)
  | .own r => do
      let request ← s.own[r]?
      if request.busy then some (request.method, request.retrySafe) else none
  | site => do
      let exec ← s.exec
      let step ← callAt exec site
      let op ← ce.operations.lookup step.operation
      return (op.method, retrySafe)

def ToolCall.step (s : ToolCall) : ToolAction → Option ToolCall
  | .request method retrySafe =>
      if s.returned || s.exec.isSome then none
      else some { s with own := s.own ++ [⟨method, retrySafe, true⟩] }
  | .answer r =>
      s.own[r]?.map fun request => { s with own := s.own.set r { request with busy := false } }
  | .handOver ended =>
      if s.returned || s.exec.isSome || !s.answered then none
      else some { s with exec := some (execute tool params ended) }
  | .exec a => do
      let exec ← s.exec
      let exec ← exec.step ce host applyResultStrategy a
      return { s with exec := some exec }
  | .leave =>
      if s.answered && s.exec.all Execution.isOver then some { s with returned := true } else none
  | .wroteHeaders site =>
      (s.requestAt ce retrySafe site).map fun request =>
        { s with sent := s.sent || isWriteRequest request.1 request.2 }
  | .emit => if s.returned then some s else none

end stepping

end BrokerMcp.Tools
