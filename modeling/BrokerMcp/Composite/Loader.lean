import BrokerMcp.Composite.BodyChecks

namespace BrokerMcp.Composite
open Text (quote)

def fanOutMaxConcurrency : Int := 32

def validateOptionalArgs (step : Step) : Except String Unit :=
  match step.optionalArgs.find? fun k => (step.args.lookup k).isNone with
  | some k => .error s!"step {step.id}: optionalArgs entry {quote k} is not a key of args"
  | none => .ok ()

structure Seen where
  stepIDs : List String
  stepSelects : List (String × List String)
  resumableStep : String

def Seen.none : Seen := ⟨[], [], ""⟩

def validateFanOut (step : Step) (seen : Seen) : Except String Unit :=
  if step.forEach = "" then
    if step.forEachIf ≠ "" ∨ step.forEachKey ≠ "" ∨ step.concurrency ≠ 0 then
      .error s!"step {step.id}: forEachIf/forEachKey/concurrency require forEach to be set"
    else .ok ()
  else if step.parallel then
    .error (s!"step {step.id}: forEach cannot be combined with parallel (fan-out has its own " ++
      "bounded concurrency)")
  else if step.forEach = step.id then
    .error s!"step {step.id}: forEach cannot reference the step itself"
  else if step.forEach ∉ seen.stepIDs then
    .error (s!"step {step.id}: forEach references step {quote step.forEach} which is not declared " ++
      "before this step")
  else if step.forEachKey = "" then .error s!"step {step.id}: forEach requires forEachKey"
  else
    let parentSelect := (seen.stepSelects.lookup step.forEach).getD []
    if parentSelect ≠ [] ∧ step.forEachKey ∉ parentSelect then
      .error (s!"step {step.id}: forEachKey {quote step.forEachKey} is not in parent step " ++
        s!"{quote step.forEach}'s select — it will be missing on iteration rows")
    else if step.concurrency < 0 ∨ step.concurrency > fanOutMaxConcurrency then
      .error (s!"step {step.id}: concurrency {step.concurrency} out of range " ++
        s!"[0, {fanOutMaxConcurrency}]")
    else .ok ()

def validateStep (params : List ParameterDef) (seen : Seen) (step : Step) : Except String Seen :=
  if step.id = "" then .error "step ID is required"
  else if step.id ∈ seen.stepIDs then .error s!"duplicate step ID: {step.id}"
  else
    let seen := { seen with
      stepIDs := seen.stepIDs ++ [step.id]
      stepSelects := seen.stepSelects ++ [(step.id, step.select)] }
    if step.operation = "" then .error s!"step operation is required for step {step.id}"
    else if step.select ≠ [] ∧ (step.args.lookup "select").isSome then
      .error s!"step {step.id}: cannot set both args.select and select"
    else do
      validateFanOut step seen
      validateOptionalArgs step
      validateResumable step params seen.resumableStep
      validateBodyChecks step
      return { seen with
        resumableStep := if step.resumable then step.id else seen.resumableStep }

def validateActions (tool : CompositeTool) : Except String Unit :=
  match tool.steps.find? fun step =>
      startsWith step.operation "action/" && tool.idempotent.isNone with
  | some step =>
      .error (s!"step {step.id} uses action operation {quote step.operation}, so " ++
        "annotations.idempotent must be declared explicitly (true or false)")
  | none => .ok ()

def validateResult (tool : CompositeTool) (stepIDs : List String) : Except String Unit :=
  let strategy := tool.result.strategy
  if strategy = "" then
    .error "result strategy is required; supported values: collect, postProcess"
  else if strategy = "collect" then
    if tool.result.postProcess ≠ "" then
      .error s!"postProcess must be empty when strategy is {quote strategy}"
    else if tool.result.omitRawSteps then
      .error (s!"omitRawSteps must be false when strategy is {quote strategy} (it has no effect " ++
        "outside postProcess)")
    else .ok ()
  else if strategy = "postProcess" then
    if tool.result.postProcess = "" then
      .error s!"postProcess is required when strategy is {quote strategy}"
    else if "summary" ∈ stepIDs then
      .error "step ID \"summary\" is reserved when strategy is \"postProcess\""
    else
      match tool.steps.find? fun step => (step.args.lookup "select").isSome with
      | some step =>
          .error (s!"step {step.id}: args.select is not allowed when strategy is " ++
            "\"postProcess\"; declare fields under top-level select")
      | none => .ok ()
  else
    .error (s!"result strategy {quote strategy} is not supported; supported values: collect, " ++
      "postProcess")

section Templates

-- The error of `template.Parse` for a name and a text.
variable (parse : String → String → Option String)

def compileArg (arg : String × String) : Except String Unit :=
  match parse arg.1 arg.2 with
  | some err => .error s!"arg {arg.1}: {err}"
  | none => .ok ()

def compileStepTemplates (step : Step) : Except String Unit := do
  step.args.forM (compileArg parse)
  if step.forEachIf ≠ "" then
    match parse "forEachIf" step.forEachIf with
    | some err => .error s!"forEachIf: {err}"
    | none => .ok ()

def validateTool (description : String) (tool : CompositeTool) : Except String Unit :=
  if tool.name = "" then .error "tool name is required"
  else if description = "" then .error "tool description is required"
  else if tool.steps = [] then .error "at least one step is required"
  else do
    let seen ← tool.steps.foldlM (validateStep tool.parameters) Seen.none
    validateActions tool
    validateResult tool seen.stepIDs
    tool.steps.forM fun step =>
      (compileStepTemplates parse step).mapError fun err => s!"step {step.id}: {err}"

end Templates

end BrokerMcp.Composite
