import Mathlib.Data.List.Basic

namespace BrokerMcp.Server

structure ReadinessState where
  initialized : Bool := false
  shuttingDown : Bool := false
  listeners : List String := []

inductive Verdict where
  | ready
  | starting
  | shuttingDown
  | unready (reason : String)
deriving DecidableEq

def Verdict.statusCode : Verdict → Nat
  | .ready => 200
  | _ => 503

inductive Evaluation where
  | called
  | running
  | asking (probes : List String)
  | returned (verdict : Verdict)
deriving DecidableEq

/-- One step of an evaluation. `err` is what the probe that is asked returns. -/
def Evaluation.step (state : ReadinessState) (err : Option String) : Evaluation → Option Evaluation
  | .called => some (if state.shuttingDown then .returned .shuttingDown else .running)
  | .running =>
      some (if state.initialized then .asking state.listeners else .returned .starting)
  | .asking [] => some (.returned .ready)
  | .asking (name :: probes) =>
      match err with
      | none => some (.asking probes)
      | some err => some (.returned (.unready s!"{name}: {err}"))
  | .returned _ => none

end BrokerMcp.Server
