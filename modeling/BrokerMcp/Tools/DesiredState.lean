import BrokerMcp.Tools.Errors

namespace BrokerMcp.Tools
open Resilience

/-- `isSEMPStatus`: the status, or the code where the broker left the status out. -/
def isSEMPStatus (err : SEMPError) (status : String) (code : Int) : Bool :=
  if err.sempStatus ≠ "" then err.sempStatus = status else err.sempCode = code

def hasSEMPStatus (err : Chain) (status : String) (code : Int) : Bool :=
  (err.findSome? Link.semp?).any fun e => isSEMPStatus e status code

inductive DesiredState where
  | alreadyExists
  | alreadyAbsent
deriving DecidableEq

structure DesiredStateOutcome where
  outcome : DesiredState
  sempCode : Int
  sempStatus : String
  operation : String
deriving DecidableEq

def hasPrefix (s start : String) : Bool := start.toList.isPrefixOf s.toList

def isNotFoundOnDelete (err : SEMPError) : Bool :=
  isSEMPStatus err "NOT_FOUND" 6 && hasPrefix err.operation "delete"

def classifyDesiredStateOutcome (err : Chain) : Option DesiredStateOutcome :=
  match err.findSome? Link.semp? with
  | none => none
  | some e =>
      if isSEMPStatus e "ALREADY_EXISTS" 10 && hasPrefix e.operation "create" then
        some ⟨.alreadyExists, e.sempCode, e.sempStatus, e.operation⟩
      else if isNotFoundOnDelete e then
        some ⟨.alreadyAbsent, e.sempCode, e.sempStatus, e.operation⟩
      else none

end BrokerMcp.Tools
