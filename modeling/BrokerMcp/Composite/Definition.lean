import BrokerMcp.Library.Assoc
import BrokerMcp.Library.Text
import BrokerMcp.Sempv2.Client

/-!
# Composite tool definitions

The values a tool works on, the steps of `definition.go` and the checks of `loader.go` on a resumable
step. A Go map is the list of its entries, in the order in which a `range` walks over them.
-/

namespace BrokerMcp.Composite
open Resilience Text

/-- `any`, as far as the decoder of a reply and the executor put values into it. -/
inductive Value where
  | null
  | bool (b : Bool)
  | float (q : Rat)
  | int (n : Int)
  | str (s : String)
  | arr (items : List Value)
  | obj (fields : List (String × Value))

abbrev Object := List (String × Value)

def Value.str? : Value → Option String
  | .str s => some s
  | _ => none

def Value.arr? : Value → Option (List Value)
  | .arr items => some items
  | _ => none

def Value.obj? : Value → Option Object
  | .obj fields => some fields
  | _ => none

def Value.goType : Value → String
  | .null => "<nil>"
  | .bool _ => "bool"
  | .float _ => "float64"
  | .int _ => "int"
  | .str _ => "string"
  | .arr _ => "[]interface \x7b\x7d"
  | .obj _ => "map[string]interface \x7b\x7d"

def Object.str? (m : Object) (key : String) : Option String := (m.lookup key).bind Value.str?

def Object.arr? (m : Object) (key : String) : Option (List Value) := (m.lookup key).bind Value.arr?

def Object.obj? (m : Object) (key : String) : Option Object := (m.lookup key).bind Value.obj?

section Reading

variable {v : Value} {m fields : Object} {key s : String} {items : List Value}

theorem Value.str?_eq_some : v.str? = some s ↔ v = .str s := by
  cases v <;> simp [Value.str?]

theorem Value.arr?_eq_some : v.arr? = some items ↔ v = .arr items := by
  cases v <;> simp [Value.arr?]

theorem Value.obj?_eq_some : v.obj? = some fields ↔ v = .obj fields := by
  cases v <;> simp [Value.obj?]

theorem Object.str?_eq_some : m.str? key = some s ↔ m.lookup key = some (.str s) := by
  simp [Object.str?, Option.bind_eq_some_iff, Value.str?_eq_some]

theorem Object.arr?_eq_some : m.arr? key = some items ↔ m.lookup key = some (.arr items) := by
  simp [Object.arr?, Option.bind_eq_some_iff, Value.arr?_eq_some]

theorem Object.obj?_eq_some : m.obj? key = some fields ↔ m.lookup key = some (.obj fields) := by
  simp [Object.obj?, Option.bind_eq_some_iff, Value.obj?_eq_some]

end Reading

structure ParameterDef where
  name : String
  type : String

structure Step where
  id : String
  operation : String
  args : List (String × String)
  select : List String
  parallel : Bool
  followPages : Bool
  forEach : String
  forEachIf : String
  forEachKey : String
  concurrency : Int
  optionalArgs : List String
  bodyChecks : List String
  resumable : Bool

structure ResultStrategy where
  strategy : String
  postProcess : String
  omitRawSteps : Bool

structure CompositeTool where
  name : String
  parameters : List ParameterDef
  steps : List Step
  result : ResultStrategy
  idempotent : Option Bool

def checkCursorParameter (step : Step) : List ParameterDef → Except String Unit
  | [] => .error s!"step {step.id}: resumable requires a \"cursor\" parameter on the tool"
  | p :: params =>
      if p.name = "cursor" then
        if p.type ≠ "string" then
          .error s!"step {step.id}: resumable requires the \"cursor\" parameter to be type string"
        else .ok ()
      else checkCursorParameter step params

def validateResumable (step : Step) (params : List ParameterDef) (priorResumable : String) :
    Except String Unit :=
  if !step.resumable then .ok ()
  else if !step.followPages then .error s!"step {step.id}: resumable requires followPages"
  else
    let (n, ok) := atoi ((step.args.lookup "count").getD "")
    if !ok || n ≤ 0 then
      .error s!"step {step.id}: resumable requires args.count to be a positive integer literal"
    else if step.forEach ≠ "" then
      .error s!"step {step.id}: resumable cannot be combined with forEach"
    else if priorResumable ≠ "" then
      .error (s!"step {step.id}: resumable is already set on step {priorResumable}; " ++
        "a tool has one cursor parameter, so at most one resumable step")
    else checkCursorParameter step params

structure OperationParameter where
  name : String
  location : String
deriving DecidableEq

/-- `bodyFields` is `none` where the schema of the body could not be introspected. -/
structure Operation extends Sempv2.Operation where
  parameters : List OperationParameter
  bodyFields : Option (List String)

def Operation.hasBody (op : Operation) : Bool := op.parameters.any fun p => p.location = "body"

def Operation.nonBody (op : Operation) (name : String) : Bool :=
  op.parameters.any fun p => p.location ≠ "body" && p.name = name

end BrokerMcp.Composite
