import BrokerMcp.Composite.FanOut
import BrokerMcp.Library.ErrGroup
import BrokerMcp.Library.Trace

namespace BrokerMcp.Tools.Native
open Resilience BrokerMcp.Composite
open ErrGroup (Group)
open Text (trimSpace)

structure Reader (ρ : Type) where
  description : ρ → Option String
  curated : ρ → Option ρ
  structToMap : String → ρ → Except Chain Object

/-- What is joined: `tasks` calls at the same time, one more if `conditional` says so of their replies,
and the result made of them. -/
structure Tool (ρ : Type) where
  tasks : Nat
  conditional : List ρ → Bool
  curated : ρ → Option ρ
  assemble : List ρ → Option ρ → Except Chain Object

def containsText (s part : String) : Bool := s.toList.tails.any fun rest => part.toList.isPrefixOf rest

def isApplianceFromDescription (description : String) : Bool :=
  let description := trimSpace description
  if description = "" then false else !containsText description.toLower " software "

variable {ρ : Type} (reader : Reader ρ)

def labelled (labels : List String) (replies : List ρ) : Except Chain Object :=
  (labels.zip replies).mapM fun entry => do
    let fields ← reader.structToMap entry.1 entry.2
    return (entry.1, .obj fields)

def assembleEnvelope (replies : List ρ) (hw : Option ρ) : Except Chain Object := do
  let envelope ← labelled reader ["version", "system", "memory", "spool"] replies
  match hw with
  | none => return envelope
  | some hw => do
      let hwMap ← reader.structToMap "hardwareDetails" hw
      return envelope ++ [("hardwareDetails", .obj hwMap)]

def brokerStatus : Tool ρ where
  tasks := 4
  conditional replies :=
    (replies.head?.bind reader.description).any isApplianceFromDescription
  curated := reader.curated
  assemble := assembleEnvelope reader

def discardStats : Tool ρ where
  tasks := 2
  conditional _ := false
  curated _ := none
  assemble replies _ := labelled reader ["clientDiscards", "spoolDiscards"] replies

def queueMetrics : Tool Object where
  tasks := 2
  conditional _ := false
  curated _ := none
  assemble replies _ := .ok (["queueMetrics", "liveDepth"].zip (replies.map .obj))

inductive Phase (ρ : Type) where
  | gathering (group : Group Chain ρ)
  | asking (replies : List ρ)
  | returned (result : Except Chain Object)
  | panicked

structure Call (ρ : Type) where
  ended : Bool
  phase : Phase ρ

inductive Action (ρ : Type) where
  | cancel
  | finish (i : Nat) (result : Except Chain ρ)
  /-- A call that gives up because the context of the group has ended. -/
  | interrupt (i : Nat) (err : Chain)
  | wait
  | ask (result : Except Chain ρ)
  | askPanics

def Call.start (tool : Tool ρ) : Call ρ := ⟨false, .gathering (ErrGroup.start tool.tasks)⟩

def Call.failure (s : Call ρ) : Option Chain :=
  match s.phase with
  | .gathering group => group.failure
  | _ => none

def Tool.waited (tool : Tool ρ) : Except Chain (List ρ) → Phase ρ
  | .error err => .returned (.error err)
  | .ok replies =>
      if tool.conditional replies then .asking replies else .returned (tool.assemble replies none)

def Call.step (tool : Tool ρ) (s : Call ρ) : Action ρ → Option (Call ρ)
  | .cancel => some { s with ended := true }
  | .finish i result =>
      match s.phase with
      | .gathering group => (group.finish i result).map fun group => ⟨s.ended, .gathering group⟩
      | _ => none
  | .interrupt i err =>
      match s.phase with
      | .gathering group =>
          if s.ended || group.failure.isSome then
            (group.finish i (.error err)).map fun group => ⟨s.ended, .gathering group⟩
          else none
      | _ => none
  | .wait =>
      match s.phase with
      | .gathering group => group.wait.map fun waited => ⟨s.ended, tool.waited waited⟩
      | _ => none
  -- An error of this call is logged, and the result is made without it.
  | .ask result =>
      match s.phase with
      | .asking replies =>
          some ⟨s.ended, .returned (tool.assemble replies (result.toOption.bind tool.curated))⟩
      | _ => none
  -- It is not under `safego.Go`, which would make an error of a panic.
  | .askPanics =>
      match s.phase with
      | .asking _ => some ⟨s.ended, .panicked⟩
      | _ => none

end BrokerMcp.Tools.Native
