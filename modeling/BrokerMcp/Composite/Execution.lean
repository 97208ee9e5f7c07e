import BrokerMcp.Composite.FanOut

namespace BrokerMcp.Composite
open Resilience

structure ExecutionBatch where
  sequential : Bool
  steps : List Step

def addStep (batches : List ExecutionBatch) (step : Step) : List ExecutionBatch :=
  if step.parallel then
    match batches.getLast? with
    | some ⟨false, steps⟩ => batches.dropLast ++ [⟨false, steps ++ [step]⟩]
    | _ => batches ++ [⟨false, [step]⟩]
  else batches ++ [⟨true, [step]⟩]

def groupStepsIntoBatches (steps : List Step) : List ExecutionBatch := steps.foldl addStep []

inductive Work where
  | single (thread : Thread)
  | fanOut (fan : FanOut)
  | refused (err : Chain)

structure Part where
  step : Step
  work : Work
  settled : Bool

def runStep (ce : CompositeExecutor) (step : Step) (execCtx : ExecuteContext) : Work :=
  if step.forEach ≠ "" then
    match fetchFanOut ce step execCtx with
    | .ok fan => .fanOut fan
    | .error err => .refused err
  else .single .running

def FanOut.result? (fan : FanOut) : Option (Except Chain Object) :=
  match fan.loop with
  | .returned result => some result
  | _ => none

def Work.result? : Work → Option (Except Chain Object)
  | .single thread => thread.result?
  | .fanOut fan => fan.result?
  | .refused err => some (.error err)

def Work.panicked : Work → Bool
  | .single (.panicked _) => true
  | _ => false

def Thread.isCalling : Thread → Bool
  | .calling => true
  | _ => false

def Work.isCalling : Work → Bool
  | .single thread => thread.isCalling
  | .fanOut fan => fan.workers.any fun worker => worker.thread.isCalling
  | .refused _ => false

inductive ExecPhase where
  | looping
  | inStep
  | inBatch (results : List (String × Object)) (failure : Option Chain)
  | returned (result : Except Chain Object)
  | panicked

/-- The parts from `base` on belong to the batch in progress; `ended` says whether the caller's
context has ended. -/
structure Execution where
  params : Object
  stepResults : List (String × Object)
  batches : List ExecutionBatch
  parts : List Part
  base : Nat
  phase : ExecPhase
  ended : Bool

def Execution.execCtx (s : Execution) : ExecuteContext := ⟨s.params, s.stepResults, none⟩

def execute (tool : CompositeTool) (params : Object) (ended : Bool) : Execution :=
  ⟨Assoc.drop "broker" params, [], groupStepsIntoBatches tool.steps, [], 0, .looping, ended⟩

def Execution.groupEnded (s : Execution) : Bool :=
  s.ended ||
    match s.phase with
    | .inBatch _ failure => failure.isSome
    | _ => false

def Execution.isOver (s : Execution) : Bool :=
  match s.phase with
  | .returned _ => true
  | .panicked => true
  | _ => false

inductive ExecAction where
  | cancel
  | next
  | single (j : Nat) (move : Move)
  | fan (j : Nat) (a : FanAction)
  | settle (j : Nat)
  | join

section stepping

variable (ce : CompositeExecutor) (host : Host)
variable (applyResultStrategy : List (String × Object) → Except Chain Object)

def Execution.begin (s : Execution) (batch : ExecutionBatch) (rest : List ExecutionBatch) :
    Execution :=
  { s with
    batches := rest
    parts := s.parts ++ batch.steps.map fun step => ⟨step, runStep ce step s.execCtx, false⟩
    base := s.parts.length
    phase := if batch.sequential then .inStep else .inBatch [] none }

def Execution.setWork (s : Execution) (j : Nat) (part : Part) (work : Work) : Execution :=
  { s with parts := s.parts.set j { part with work := work } }

def Execution.moveSingle (s : Execution) (j : Nat) (move : Move) : Option Execution := do
  let part ← s.parts[j]?
  match part.work with
  | .single thread =>
      let thread ← thread.move (runSingle ce host part.step · s.execCtx) move
      return s.setWork j part (.single thread)
  | _ => none

def Execution.moveFan (s : Execution) (j : Nat) (a : FanAction) : Option Execution := do
  let part ← s.parts[j]?
  match part.work with
  | .fanOut fan =>
      let fan ← fan.act ce host part.step s.execCtx s.groupEnded a
      return s.setWork j part (.fanOut fan)
  | _ => none

def Execution.settle (s : Execution) (j : Nat) : Option Execution := do
  let part ← s.parts[j]?
  let result ← part.work.result?
  match s.phase with
  | .inBatch results failure =>
      if j < s.base || part.settled then none
      else return { s with
        parts := s.parts.set j { part with settled := true }
        phase := .inBatch (results ++ result.toOption.toList.map (part.step.id, ·))
          (firstError failure result) }
  | _ => none

def Execution.joined (s : Execution) (stepResults : List (String × Object)) (phase : ExecPhase) :
    Execution :=
  { s with base := s.parts.length, stepResults := stepResults, phase := phase }

def store (stepResults results : List (String × Object)) : List (String × Object) :=
  results.foldl (fun m e => Assoc.put e.1 e.2 m) stepResults

def afterStep (part : Part) : Except Chain Object → ExecPhase
  | .ok _ => .looping
  | .error err => if part.work.panicked then .panicked else .returned (.error err)

/-- The step of a sequential batch is over: `executeStep`, and what `Execute` makes of it. -/
def Execution.joinStep (s : Execution) : Option Execution := do
  let part ← s.parts[s.base]?
  let result ← part.work.result?
  return s.joined (store s.stepResults (result.toOption.toList.map (part.step.id, ·)))
    (afterStep part result)

def afterBatch : Option Chain → ExecPhase
  | none => .looping
  | some err => .returned (.error err)

def Execution.joinBatch (s : Execution) (results : List (String × Object))
    (failure : Option Chain) : Option Execution :=
  if (s.parts.drop s.base).all Part.settled then
    some (s.joined (if failure.isSome then s.stepResults else store s.stepResults results)
      (afterBatch failure))
  else none

def Execution.step (s : Execution) : ExecAction → Option Execution
  | .cancel => some { s with ended := true }
  | .next =>
      match s.phase, s.batches with
      | .looping, batch :: rest => some (s.begin ce batch rest)
      | .looping, [] => some { s with phase := .returned (applyResultStrategy s.stepResults) }
      | _, _ => none
  | .single j move => s.moveSingle ce host j move
  | .fan j a => s.moveFan ce host j a
  | .settle j => s.settle j
  | .join =>
      match s.phase with
      | .inStep => s.joinStep
      | .inBatch results failure => s.joinBatch results failure
      | _ => none

end stepping

end BrokerMcp.Composite
