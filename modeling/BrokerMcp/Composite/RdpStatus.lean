import BrokerMcp.Composite.ListVpns

namespace BrokerMcp.Composite.Handlers
open Resilience
open Text (quote)

def rdpStatusBindingsStepID : String := "queueBindings"

def rdpStatusConsumersStepID : String := "restConsumers"

def index (sub : List Char) : List Char → Option Nat
  | [] => if sub = [] then some 0 else none
  | c :: rest => if sub <+: c :: rest then some 0 else (index sub rest).map (· + 1)

def indexAny (s chars : List Char) : Option Nat := s.findIdx? (· ∈ chars)

def lastIndex (c : Char) : List Char → Option Nat
  | [] => none
  | d :: rest =>
      match lastIndex c rest with
      | some k => some (k + 1)
      | none => if d = c then some 0 else none

def cut (c : Char) : List Char → List Char × List Char × Bool
  | [] => ([], [], false)
  | d :: rest =>
      if d = c then ([], rest, true)
      else
        let (before, after, found) := cut c rest
        (d :: before, after, found)

def redactedComponent : List Char := "<redacted>".toList

def mask (v : List Char) : List Char := if v = [] then [] else redactedComponent

def schemeMark : List Char := [':', '/', '/']

-- The first part of `redactRequestTarget`.
def maskUserinfo (s : List Char) : List Char :=
  match index schemeMark s with
  | none => s
  | some i =>
      let authStart := i + schemeMark.length
      let authEnd := match indexAny (s.drop authStart) ['/', '?', '#'] with
        | some j => authStart + j
        | none => s.length
      match lastIndex '@' ((s.take authEnd).drop authStart) with
      | some k => s.take authStart ++ redactedComponent ++ s.drop (authStart + k)
      | none => s

-- And the second part.
def maskQueryAndFragment (s : List Char) : List Char :=
  match indexAny s ['?', '#'] with
  | none => s
  | some i =>
      let path := s.take i
      match s.drop i with
      | '?' :: rest =>
          let (query, fragment, hasFragment) := cut '#' rest
          let query := '?' :: mask query
          if hasFragment then path ++ query ++ '#' :: mask fragment else path ++ query
      | rest => path ++ '#' :: mask (rest.drop 1)

def redactRequestTarget (s : List Char) : List Char := maskQueryAndFragment (maskUserinfo s)

def redactRow : Value → Value
  | .obj r =>
      match stringField r "postRequestTarget" with
      | some target =>
          .obj (Assoc.put "postRequestTarget"
            (.str (String.ofList (redactRequestTarget target.toList))) r)
      | none => .obj r
  | raw => raw

def redactBindingTargets (stepResults : StepResults) : StepResults :=
  match stepResults.lookup rdpStatusBindingsStepID with
  | none => stepResults
  | some step =>
      match Object.arr? step "data" with
      | none => stepResults
      | some items =>
          Assoc.put rdpStatusBindingsStepID
            (Assoc.put "data" (.arr (items.map redactRow)) step) stepResults

structure RdpArrayCounts where
  up : Nat
  down : Nat
  scanned : Nat
  skipped : Nat
  byReason : List (String × Nat)
  truncated : Bool

def countRdpRow (out : RdpArrayCounts) (r : Object) : RdpArrayCounts :=
  match boolField r "up", stringField r "lastFailureReason" with
  | some up, some reason =>
      if up then { out with up := out.up + 1 }
      else if reason ≠ "" then
        { out with down := out.down + 1, byReason :=
          Assoc.put reason ((out.byReason.lookup reason).getD 0 + 1) out.byReason }
      else { out with down := out.down + 1 }
  | _, _ => { out with skipped := out.skipped + 1 }

def countRdpRows (stepID : String) : Nat → List Value → RdpArrayCounts → Except Chain RdpArrayCounts
  | _, [], out => .ok out
  | i, .obj r :: items, out => countRdpRows stepID (i + 1) items (countRdpRow out r)
  | i, raw :: _, _ => .error [.text s!"{stepID}.data[{i}]: want object, got {raw.goType}"]

def aggregateRdpArray (stepResults : StepResults) (stepID : String) : Except Chain RdpArrayCounts :=
  match stepResults.lookup stepID with
  | none => .error [.text s!"step {quote stepID} not in results"]
  | some step =>
      match Object.arr? step "data" with
      | none => .error (want s!"{stepID}.data" "[]any" (step.lookup "data"))
      | some items => do
          let out ← countRdpRows stepID 0 items ⟨0, 0, 0, 0, [], false⟩
          return { out with scanned := items.length, truncated := isTruncated step }

def reasons (byReason : List (String × Nat)) : Value :=
  .obj (byReason.map fun e => (e.1, .int e.2))

def getRdpStatus (stepResults : StepResults) : Except Chain (Object × StepResults) := do
  let stepResults := redactBindingTargets stepResults
  let bindings ← aggregateRdpArray stepResults rdpStatusBindingsStepID
  let consumers ← aggregateRdpArray stepResults rdpStatusConsumersStepID
  return ([("bindingUpCount", .int bindings.up), ("bindingDownCount", .int bindings.down),
      ("bindingScannedCount", .int bindings.scanned),
      ("byBindingLastFailureReason", reasons bindings.byReason),
      ("consumerUpCount", .int consumers.up), ("consumerDownCount", .int consumers.down),
      ("consumerScannedCount", .int consumers.scanned),
      ("byConsumerLastFailureReason", reasons consumers.byReason)] ++
    (if bindings.skipped > 0 then [("bindingSkipped", .int bindings.skipped)] else []) ++
    (if bindings.truncated then [("bindingTruncated", .bool true)] else []) ++
    (if consumers.skipped > 0 then [("consumerSkipped", .int consumers.skipped)] else []) ++
    (if consumers.truncated then [("consumerTruncated", .bool true)] else []), stepResults)

def getRdpStatusHandler : String × Handler :=
  ("getRdpStatus", ⟨getRdpStatus, [rdpStatusBindingsStepID, rdpStatusConsumersStepID]⟩)

end BrokerMcp.Composite.Handlers
