import BrokerMcp.Library.CasMax
import BrokerMcp.TokenExchange.Exchange

namespace BrokerMcp.TokenExchange

/-- A chain that ended in a 429 with the given `Retry-After` values, which `parseRetryAfter` read at
`parsedAt`; `raisedAt` is the reading of `nowFunc()` in `raiseGate`. -/
structure GateCall where
  headerValues : List String
  parsedAt : Int
  raisedAt : Option Int

structure GateState where
  calls : List GateCall
  gate : CasMax.State Int

def GateState.start (gatedUntil : Int) : GateState := ⟨[], ⟨gatedUntil, []⟩⟩

def GateState.gatedUntil (s : GateState) : Int := s.gate.cell

inductive GateAction where
  | exhausted (headerValues : List String) (now : Int)
  | proceed (c : Nat) (now : Int)
  | load (c : Nat)
  | swap (c : Nat)

section stepping

variable (e : Exchanger) (format : Format)

def GateCall.result (call : GateCall) : RetryAfterResult :=
  parseRetryAfter format call.headerValues call.parsedAt

def GateCall.delay (call : GateCall) : Option Int :=
  if !(call.result format).ok then none
  else
    let delay := clampRetryAfter e (call.result format).delay
    if delay ≤ 0 then none else some delay

def GateCall.proceed (call : GateCall) (now : Int) : GateCall :=
  { call with raisedAt := (call.delay e format).map fun _ => now }

def GateState.step (s : GateState) : GateAction → Option GateState
  | .exhausted headerValues now => do
      let gate ← CasMax.step s.gate .enter
      return ⟨s.calls ++ [⟨headerValues, now, none⟩], gate⟩
  | .proceed c now => do
      let call ← s.calls[c]?
      let gate ← CasMax.step s.gate (.aim c ((call.delay e format).map (now + ·)))
      return ⟨s.calls.set c (call.proceed e format now), gate⟩
  | .load c => (CasMax.step s.gate (.load c)).map fun gate => { s with gate := gate }
  | .swap c => (CasMax.step s.gate (.swap c)).map fun gate => { s with gate := gate }

end stepping

def GateState.isOver (s : GateState) : Bool := s.gate.raisers.all CasMax.Phase.isOver

def GateState.reportsRaised (s : GateState) (c : Nat) : Bool :=
  s.gate.raisers[c]?.any CasMax.Phase.raised

end BrokerMcp.TokenExchange
