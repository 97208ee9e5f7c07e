import BrokerMcp.Audit.Event

/-!
# Writing audit records

`emit.go`, `drop_recorder.go` and `auth_hook.go`. `none` is a panic of the handler. The handler of the
process can answer each record in its own way, so a write takes the handler it finds. A `Log` is what
has come of the writes: the records that reached the handler, and the drops that were counted.

A `Stream` is a process in which many requests emit at the same time. Each write and each count is one
step, and the steps of different emissions come in any order.
-/

namespace BrokerMcp.Audit

structure Handler where
  enabled : Int → Option Bool
  handle : Event → Option Bool

structure Log where
  records : List Event := []
  dropped : Nat := 0

def write (h : Handler) (e : Event) : Bool :=
  match h.enabled e.level with
  | some true => h.handle e = some true
  | _ => false

def Log.write (log : Log) (h : Handler) (e : Event) : Log :=
  if Audit.write h e then { log with records := log.records ++ [e] } else log

structure DropContext where
  droppedEventType : String := ""
  tool : String := ""
  broker : String := ""

def recordDrop (recorder : Bool) (log : Log) : Log :=
  if recorder then { log with dropped := log.dropped + 1 } else log

/-- What a place that emits asks for: a record, with what a notice says if it cannot be built, or a
notice alone. -/
inductive Emission where
  | record (fields : Fields) (dctx : DropContext)
  | drop (dctx : DropContext)

structure Site where
  ctx : Context
  now : Int
  handler : Handler
  noticeHandler : Handler

section emitting

variable (formatDuration : Int → String) (recorder : Bool)

def dropFields (dctx : DropContext) : Fields :=
  { type := EventType.auditDrop.text, droppedEventType := dctx.droppedEventType, tool := dctx.tool,
    broker := dctx.broker }

def emitDrop (site : Site) (log : Log) (dctx : DropContext) : Log :=
  let log := recordDrop recorder log
  match newEvent formatDuration site.ctx site.now (dropFields dctx) with
  | .error _ => log
  | .ok drop => log.write site.noticeHandler drop

def emit (site : Site) (log : Log) (e : Event) : Log :=
  if Audit.write site.handler e then { log with records := log.records ++ [e] }
  else if e.type = .auditDrop then log
  else emitDrop formatDuration recorder site log { droppedEventType := e.type.text }

def emitOrDrop (site : Site) (log : Log) (f : Fields) (dctx : DropContext) : Log :=
  match newEvent formatDuration site.ctx site.now f with
  | .error _ => emitDrop formatDuration recorder site log dctx
  | .ok e => emit formatDuration recorder site log e

def Emission.run (site : Site) (log : Log) : Emission → Log
  | .record f dctx => emitOrDrop formatDuration recorder site log f dctx
  | .drop dctx => emitDrop formatDuration recorder site log dctx

end emitting

def emitAuthEvent (f : Fields) : Emission := .record f { droppedEventType := f.type }

/-- `authHook.Success` and `authHook.Failure`. The principal is in the context. -/
def authSuccess : Emission := emitAuthEvent { type := EventType.authSuccess.text }

def authFailure (reason : String) : Emission :=
  emitAuthEvent { type := EventType.authFailure.text, reason := reason }

def authzDenied (tool reason : String) : Emission :=
  .record { type := EventType.authzDenied.text, tool := tool, reason := reason }
    { droppedEventType := EventType.authzDenied.text, tool := tool }

/-- `auditBrokerAuthRetry`, of a request whose credential was or was not resolved. -/
def brokerAuthRetry (recovered : Bool) (broker : String) : Emission :=
  .record
    { type := EventType.brokerAuthRetry.text, broker := broker
      outcome := if recovered then outcomeSuccess else outcomeError }
    { droppedEventType := EventType.brokerAuthRetry.text, broker := broker }

/-- How far an emission is: its record is to be written, its loss is to be counted, or the notice of
it is to be written. -/
inductive Flight where
  | writing (site : Site) (emission : Emission)
  | counting (site : Site) (dctx : DropContext)
  | noticing (site : Site) (dctx : DropContext)
  | done

structure Stream where
  log : Log := {}
  flights : List Flight := []
  started : Nat := 0

inductive StreamAction where
  | start (site : Site) (emission : Emission)
  | advance (i : Nat)

section stepping

variable (formatDuration : Int → String) (recorder : Bool)

def Flight.advance (log : Log) : Flight → Log × Flight
  | .writing site (.drop dctx) => (log, .counting site dctx)
  | .writing site (.record f dctx) =>
      match newEvent formatDuration site.ctx site.now f with
      | .error _ => (log, .counting site dctx)
      | .ok e =>
          if write site.handler e then ({ log with records := log.records ++ [e] }, .done)
          else if e.type = .auditDrop then (log, .done)
          else (log, .counting site { droppedEventType := e.type.text })
  | .counting site dctx => (recordDrop recorder log, .noticing site dctx)
  | .noticing site dctx =>
      match newEvent formatDuration site.ctx site.now (dropFields dctx) with
      | .error _ => (log, .done)
      | .ok drop => (log.write site.noticeHandler drop, .done)
  | .done => (log, .done)

def Stream.step (s : Stream) : StreamAction → Option Stream
  | .start site emission =>
      some { s with flights := s.flights ++ [.writing site emission], started := s.started + 1 }
  | .advance i =>
      s.flights[i]?.map fun flight =>
        let (log, flight) := flight.advance formatDuration recorder s.log
        { s with log := log, flights := s.flights.set i flight }

end stepping

end BrokerMcp.Audit
