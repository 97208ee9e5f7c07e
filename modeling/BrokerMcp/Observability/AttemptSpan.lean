import Mathlib.Data.List.Basic

namespace BrokerMcp.Observability.AttemptSpan

inductive Attribute where
  | attempt (number : Nat)
  | retryDecision (retry : Bool)
  | correlationId (id : String)
  | statusCode (code : Nat)
  | retryExhausted
deriving DecidableEq

structure Span where
  attributes : List Attribute
  ends : Nat
deriving DecidableEq

structure State where
  attempt : Nat
  span : Option Nat
deriving DecidableEq

structure Traced where
  state : State
  started : List Span
deriving DecidableEq

def Traced.fresh : Traced := ⟨⟨0, none⟩, []⟩

/-- `hop` is `req.Response != nil`: the request follows a redirect. -/
def roundTrip (hop : Bool) (s : Traced) : Traced :=
  if hop then s
  else ⟨⟨s.state.attempt + 1, some s.started.length⟩, s.started ++ [⟨[], 0⟩]⟩

def finishAttributes (attempt : Nat) (id : String) (status : Option Nat) (retry exhausted : Bool) :
    List Attribute :=
  [.attempt attempt, .retryDecision retry] ++ (if id ≠ "" then [.correlationId id] else []) ++
    status.toList.map .statusCode ++ (if exhausted then [.retryExhausted] else [])

def Span.close (attributes : List Attribute) (span : Span) : Span :=
  ⟨span.attributes ++ attributes, span.ends + 1⟩

def finish (id : String) (status : Option Nat) (retry exhausted : Bool) (s : Traced) : Traced :=
  s.state.span.elim s fun parked =>
    ⟨{ s.state with span := none }, s.started.modify parked
      (Span.close (finishAttributes s.state.attempt id status retry exhausted))⟩

def closeDangling (s : Traced) : Traced :=
  s.state.span.elim s fun parked =>
    ⟨{ s.state with span := none }, s.started.modify parked (Span.close [])⟩

end BrokerMcp.Observability.AttemptSpan
