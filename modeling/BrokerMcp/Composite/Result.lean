import BrokerMcp.Composite.Definition

/-!
# The result of a tool

`postprocess.go`, `ApplyResultStrategy` and what it scrubs (`executor.go`, `envelope.go`).

* The maps of the step results are named by their step IDs. `collectSteps` copies references, so an
  entry of the output is the ID of a step, and what a caller finds there is what the scrub has left
  of that step.
* A handler reads the step results and may write to them: it returns them as it leaves them.
-/

namespace BrokerMcp.Composite
open Resilience
open Text (quote)

abbrev StepResults := List (String × Object)

def hasSuffix (s ending : String) : Bool := ending.toList.isSuffixOf s.toList

def isURIKey (key : String) : Bool := key = "uri" || hasSuffix key "Uri"

mutual

def scrubURIFields : Object → Object
  | [] => []
  | (key, v) :: fields =>
      if isURIKey key then scrubURIFields fields
      else (key, scrubNested v) :: scrubURIFields fields

def scrubNested : Value → Value
  | .obj nested => .obj (scrubURIFields nested)
  | v => v

end

def scrubEntry (entry : String × Value) : Option (String × Value) :=
  if entry.1 = "links" then none
  else if entry.1 = "meta" then some (entry.1, scrubNested entry.2)
  else some entry

def scrubV2Envelope (m : Object) : Object := m.filterMap scrubEntry

-- One walk over the entries makes the call of `ScrubEnvelope` and the recursion into `byKey`; see
-- `scrubEnvelope_eq`.
mutual

def scrubEnvelope : Object → Object
  | [] => []
  | (key, v) :: fields =>
      if key = "byKey" then (key, scrubByKey v) :: scrubEnvelope fields
      else
        match scrubEntry (key, v) with
        | some entry => entry :: scrubEnvelope fields
        | none => scrubEnvelope fields

def scrubByKey : Value → Value
  | .obj byKey => .obj (scrubRows byKey)
  | v => v

def scrubRows : Object → Object
  | [] => []
  | (key, v) :: rows => (key, scrubRow v) :: scrubRows rows

def scrubRow : Value → Value
  | .obj entry => .obj (scrubEnvelope entry)
  | v => v

end

def scrubBrokerURIs (stepResults : StepResults) : StepResults :=
  stepResults.map fun step => (step.1, scrubEnvelope step.2)

structure Handler where
  fn : StepResults → Except Chain (Object × StepResults)
  requiredSteps : List String

abbrev Registry := List (String × Handler)

def Registry.apply (registry : Registry) (name : String) (stepResults : StepResults) :
    Except Chain (Object × StepResults) :=
  match registry.lookup name with
  | none => .error [.text s!"postprocess: postprocessor {quote name} not registered"]
  | some h => h.fn stepResults

inductive Slot where
  | step (id : String)
  | summary (fields : Object)

def Slot.read (stepResults : StepResults) : Slot → Value
  | .step id => .obj ((stepResults.lookup id).getD [])
  | .summary fields => .obj fields

def collectSteps (stepResults : StepResults) : List (String × Slot) :=
  stepResults.map fun step => (step.1, .step step.1)

/-- The output, and the step results as the postprocessor has left them. -/
def assemble (registry : Registry) (strategy : ResultStrategy) (stepResults : StepResults) :
    Except Chain (List (String × Slot) × StepResults) :=
  if strategy.strategy = "collect" then .ok (collectSteps stepResults, stepResults)
  else if strategy.strategy = "postProcess" then do
    let (summary, stepResults) ← registry.apply strategy.postProcess stepResults
    if strategy.omitRawSteps then .ok ([("summary", .summary summary)], stepResults)
    else .ok (Assoc.put "summary" (.summary summary) (collectSteps stepResults), stepResults)
  else
    .error [.text (s!"result strategy {quote strategy.strategy} is not supported; " ++
      "supported values: collect, postProcess")]

def applyResultStrategy (registry : Registry) (strategy : ResultStrategy)
    (stepResults : StepResults) : Except Chain Object := do
  let (out, stepResults) ← assemble registry strategy stepResults
  let stepResults := scrubBrokerURIs stepResults
  .ok (out.map fun entry => (entry.1, entry.2.read stepResults))

end BrokerMcp.Composite
