import BrokerMcp.Composite.Executor

/-!
# Fanning out over the rows of a step

`fetchFanOut` of `executor.go` with the workers it starts through `safego.Go`. The dispatch loop and
the workers take their steps one at a time, in any order; `ended` says whether the context that
`fetchFanOut` was called with has ended.
-/

namespace BrokerMcp.Composite
open Resilience
open Text (parseBool quote trimSpace)

/-! ## A goroutine -/

/-- A goroutine that runs a step. While it is `calling`, a `client.Execute` of it is in progress. -/
inductive Thread where
  | running
  | calling
  | finished (result : Except Chain Object)
  | panicked (kind : String)

inductive Move where
  | call
  | answer
  | finish (client : Client)
  | panic (kind : String)

def Thread.move (work : Client → Except Chain Object) : Thread → Move → Option Thread
  | .running, .call => some .calling
  | .calling, .answer => some .running
  | .running, .finish client => some (.finished (work client))
  | .running, .panic kind => some (.panicked kind)
  | .calling, .panic kind => some (.panicked kind)
  | _, _ => none

def Thread.result? : Thread → Option (Except Chain Object)
  | .finished result => some result
  | .panicked kind => some (.error [.text s!"worker goroutine panicked ({kind})"])
  | _ => none

def Thread.isOver (thread : Thread) : Bool := thread.result?.isSome

def firstError (failure : Option Chain) : Except Chain Object → Option Chain
  | .error err => some (failure.getD err)
  | .ok _ => failure

/-! ## The rows -/

def atRow (step : Step) (i : Nat) : String :=
  s!"forEach parent {quote step.forEach} data[{i}]"

def passes (host : Host) (step : Step) (execCtx : ExecuteContext) (i : Nat) (item : Object) :
    Except Chain Bool :=
  if step.forEachIf = "" then .ok true
  else
    match host.template "forEachIf" step.forEachIf { execCtx with item := some item } with
    | .error err =>
        .error (inStep step [.text s!"{atRow step i}: forEachIf: {err}"])
    | .ok resolved =>
        match parseBool (trimSpace resolved) with
        | some pass => .ok pass
        | none =>
            .error (inStep step [.text (s!"{atRow step i}: forEachIf must resolve to a bool " ++
              s!"literal, got {quote resolved}")])

def rowKey (step : Step) (i : Nat) (item : Object) : Except Chain String :=
  match item.lookup step.forEachKey with
  | none =>
      .error (inStep step
        [.text s!"forEachKey {quote step.forEachKey} missing on {atRow step i}"])
  | some (.str key) => .ok key
  | some keyVal =>
      .error (inStep step [.text (s!"forEachKey {quote step.forEachKey} on {atRow step i}: want " ++
        s!"string, got {keyVal.goType}")])

def asItem (step : Step) (i : Nat) : Value → Except Chain Object
  | .obj item => .ok item
  | raw => .error (inStep step [.text s!"{atRow step i}: want object, got {raw.goType}"])

def readRow (host : Host) (step : Step) (execCtx : ExecuteContext) (i : Nat) (raw : Value) :
    Except Chain (Option (Object × String)) := do
  let item ← asItem step i raw
  let pass ← passes host step execCtx i item
  if !pass then return none
  let key ← rowKey step i item
  return some (item, key)

def duplicateKey (step : Step) (key : String) (i prev : Nat) : Chain :=
  inStep step [.text (s!"duplicate forEachKey {quote step.forEachKey}={quote key} on forEach " ++
    s!"parent {quote step.forEach} at data[{i}] (already seen at data[{prev}])")]

/-! ## The dispatch loop and its workers -/

structure Worker where
  index : Nat
  row : Object
  key : String
  thread : Thread
  settled : Bool

inductive Loop where
  | dispatching
  | selecting (row : Object) (key : String)
  | waiting
  | returned (result : Except Chain Object)

/-- `next` is the row that the loop is at. A settled worker has handed its result to the group. -/
structure FanOut where
  items : List Value
  next : Nat
  seenKeys : List (String × Nat)
  skipped : Nat
  byKey : Object
  workers : List Worker
  failure : Option Chain
  loop : Loop

def fanOutDefaultConcurrency : Int := 8

def concurrencyOf (step : Step) : Int :=
  if step.concurrency ≤ 0 then fanOutDefaultConcurrency else step.concurrency

def fetchFanOut (ce : CompositeExecutor) (step : Step) (execCtx : ExecuteContext) :
    Except Chain FanOut :=
  let start (items : List Value) : Except Chain FanOut :=
    if (ce.operations.lookup step.operation).isSome then
      .ok ⟨items, 0, [], 0, [], [], none, .dispatching⟩
    else
      .error (inStep step
        [.text s!"operation {quote step.operation} not found in operation catalog"])
  match execCtx.stepResults.lookup step.forEach with
  | none =>
      .error (inStep step [.text (s!"forEach step {quote step.forEach} has no result in context; " ++
        "loader should have caught this")])
  | some parent =>
      match parent.lookup "data" with
      | none => start []
      | some .null => start []
      | some (.arr items) => start items
      | some raw =>
          .error (inStep step [.text (s!"forEach parent {quote step.forEach} data: want []any, " ++
            s!"got {raw.goType}")])

def FanOut.held (fan : FanOut) : Nat := fan.workers.countP fun w => !w.thread.isOver

def fanOutResult (byKey : Object) (skipped : Nat) : Object :=
  ("byKey", .obj byKey) :: if skipped > 0 then [("skipped", .int skipped)] else []

def Worker.work (ce : CompositeExecutor) (host : Host) (step : Step) (execCtx : ExecuteContext)
    (worker : Worker) (client : Client) : Except Chain Object :=
  (runSingle ce host step client { execCtx with item := some worker.row }).mapError fun err =>
    .text s!"forEach {step.forEach}[{worker.index}] key={quote worker.key}" :: err

def FanOut.recorded (fan : FanOut) (key : String) : Thread → Object
  | .finished (.ok data) => Assoc.put key (.obj data) fan.byKey
  | _ => fan.byKey

inductive FanAction where
  | check
  | select
  | worker (w : Nat) (move : Move)
  | settle (w : Nat)
  | wait

section stepping

variable (ce : CompositeExecutor) (host : Host) (step : Step) (execCtx : ExecuteContext)

def FanOut.check (fan : FanOut) : FanOut :=
  match fan.items[fan.next]? with
  | none => { fan with loop := .waiting }
  | some raw =>
      match readRow host step execCtx fan.next raw with
      | .error err => { fan with loop := .returned (.error err) }
      | .ok none => { fan with skipped := fan.skipped + 1, next := fan.next + 1 }
      | .ok (some (row, key)) =>
          match fan.seenKeys.lookup key with
          | some prev =>
              { fan with loop := .returned (.error (duplicateKey step key fan.next prev)) }
          | none =>
              { fan with seenKeys := Assoc.put key fan.next fan.seenKeys, loop := .selecting row key }

/-- The `select` with the check after it: the loop breaks, starts a worker, or is blocked. -/
def FanOut.select (ended : Bool) (fan : FanOut) (row : Object) (key : String) : Option FanOut :=
  if ended || fan.failure.isSome then some { fan with loop := .waiting }
  else if fan.held < concurrencyOf step then
    some { fan with
      workers := fan.workers ++ [⟨fan.next, row, key, .running, false⟩]
      next := fan.next + 1
      loop := .dispatching }
  else none

def FanOut.wait (fan : FanOut) : Option FanOut :=
  if fan.workers.all Worker.settled then
    some { fan with
      loop := .returned
        (match fan.failure with
        | some err => .error (inStep step err)
        | none => .ok (fanOutResult fan.byKey fan.skipped)) }
  else none

def FanOut.moveWorker (fan : FanOut) (w : Nat) (move : Move) : Option FanOut := do
  let worker ← fan.workers[w]?
  let thread ← worker.thread.move (worker.work ce host step execCtx) move
  return { fan with
    workers := fan.workers.set w { worker with thread := thread }
    byKey := fan.recorded worker.key thread }

def FanOut.settle (fan : FanOut) (w : Nat) : Option FanOut := do
  let worker ← fan.workers[w]?
  let result ← worker.thread.result?
  if worker.settled then none
  else return { fan with
    workers := fan.workers.set w { worker with settled := true }
    failure := firstError fan.failure result }

def FanOut.act (ended : Bool) (fan : FanOut) : FanAction → Option FanOut
  | .check =>
      match fan.loop with
      | .dispatching => some (fan.check host step execCtx)
      | _ => none
  | .select =>
      match fan.loop with
      | .selecting row key => fan.select step ended row key
      | _ => none
  | .worker w move => fan.moveWorker ce host step execCtx w move
  | .settle w => fan.settle w
  | .wait =>
      match fan.loop with
      | .waiting => fan.wait step
      | _ => none

/-! ## On its own -/

structure FanCall where
  fan : FanOut
  ended : Bool

inductive FanEvent where
  | cancel
  | take (a : FanAction)

def FanCall.next (s : FanCall) : FanEvent → Option FanCall
  | .cancel => some { s with ended := true }
  | .take a =>
      (s.fan.act ce host step execCtx s.ended a).map fun fan => { s with fan := fan }

end stepping

end BrokerMcp.Composite
