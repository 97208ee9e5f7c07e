import BrokerMcp.Composite.Result

namespace BrokerMcp.Composite.Handlers
open Resilience
open Text (quote)

def listVpnsStepID : String := "vpns"

def listVpnsClientsID : String := "real-clients"

inductive ProbeOutcome where
  | none
  | realClient
  | indeterminate

def hasNextPage (entry : Object) : Bool :=
  match entry.obj? "meta" with
  | none => false
  | some info =>
      match Object.obj? info "paging" with
      | none => false
      | some paging => (Object.str? paging "nextPageUri").getD "" ≠ ""

def probeRealClientOutcome (byKey : Object) (vpnName : String) : ProbeOutcome :=
  match byKey.obj? vpnName with
  | none => .none
  | some entry =>
      match Object.arr? entry "data" with
      | some (_ :: _) => .realClient
      | _ => if hasNextPage entry then .indeterminate else .none

structure Counts where
  disabled : Nat
  down : Nat
  standby : Nat
  zeroConn : Nat
  indeterminate : Nat
  skipped : Nat

def boolField (item : Object) (name : String) : Option Bool :=
  match item.lookup name with
  | some (.bool b) => some b
  | _ => none

def stringField (item : Object) (name : String) : Option String := item.str? name

def countUp (byKey : Object) (counts : Counts) (vpnName : String) : Counts :=
  match probeRealClientOutcome byKey vpnName with
  | .none => { counts with zeroConn := counts.zeroConn + 1 }
  | .indeterminate => { counts with indeterminate := counts.indeterminate + 1 }
  | .realClient => counts

def countRow (byKey : Object) (counts : Counts) (v : Object) : Counts :=
  match boolField v "enabled", stringField v "state", stringField v "msgVpnName" with
  | some enabled, some state, some vpnName =>
      if !enabled then { counts with disabled := counts.disabled + 1 }
      else if state = "down" then { counts with down := counts.down + 1 }
      else if state = "standby" then { counts with standby := counts.standby + 1 }
      else if state = "up" then countUp byKey counts vpnName
      else counts
  | _, _, _ => { counts with skipped := counts.skipped + 1 }

def countRows (byKey : Object) : Nat → List Value → Counts → Except Chain Counts
  | _, [], counts => .ok counts
  | i, .obj v :: items, counts => countRows byKey (i + 1) items (countRow byKey counts v)
  | i, raw :: _, _ => .error [.text s!"vpns.data[{i}]: want object, got {raw.goType}"]

def ProbeOutcome.entry : ProbeOutcome → Value
  | .realClient => .obj [("hasRealClient", .bool true)]
  | .none => .obj [("hasRealClient", .bool false)]
  | .indeterminate => .obj [("indeterminate", .bool true)]

def verdicts (byKey : Object) : Object :=
  byKey.map fun e => (e.1, (probeRealClientOutcome byKey e.1).entry)

def isTruncated (step : Object) : Bool :=
  match step.lookup "truncated" with
  | some (.bool t) => t
  | _ => false

def summarize (counts : Counts) (scanned : Nat) (truncated : Bool) : Object :=
  [("disabledCount", .int counts.disabled), ("downCount", .int counts.down),
    ("standbyCount", .int counts.standby), ("zeroConnectionCount", .int counts.zeroConn),
    ("scanned", .int scanned)] ++
    (if counts.indeterminate > 0 then
      [("indeterminateConnectionCount", .int counts.indeterminate)] else []) ++
    (if counts.skipped > 0 then [("skipped", .int counts.skipped)] else []) ++
    (if truncated then [("truncated", .bool true)] else [])

def want (path type : String) (got : Option Value) : Chain :=
  [.text s!"{path}: want {type}, got {(got.getD .null).goType}"]

def listVpns (stepResults : StepResults) : Except Chain (Object × StepResults) :=
  match stepResults.lookup listVpnsStepID with
  | none => .error [.text s!"step {quote listVpnsStepID} not in results"]
  | some step =>
      match Object.arr? step "data" with
      | none => .error (want "vpns.data" "[]any" (step.lookup "data"))
      | some items =>
          match stepResults.lookup listVpnsClientsID with
          | none => .error [.text s!"step {quote listVpnsClientsID} not in results"]
          | some clientsStep =>
              match Object.obj? clientsStep "byKey" with
              | none =>
                  .error (want "real-clients.byKey" "map[string]any" (clientsStep.lookup "byKey"))
              | some byKey => do
                  let counts ← countRows byKey 0 items ⟨0, 0, 0, 0, 0, 0⟩
                  let clientsStep := Assoc.put "byKey" (.obj (verdicts byKey)) clientsStep
                  return (summarize counts items.length (isTruncated step),
                    Assoc.put listVpnsClientsID clientsStep stepResults)

def listVpnsHandler : String × Handler :=
  ("listVpns", ⟨listVpns, [listVpnsStepID, listVpnsClientsID]⟩)

end BrokerMcp.Composite.Handlers
