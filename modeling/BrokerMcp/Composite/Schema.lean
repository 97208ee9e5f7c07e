import BrokerMcp.Composite.Definition
import BrokerMcp.Library.JsonSchema

namespace BrokerMcp.Composite
open JsonSchema

def valueView : View Value where
  kind
    | .null => .null
    | .bool _ => .boolean
    | .float q => if q.den = 1 then .integer else .number
    | .int _ => .integer
    | .str _ => .string
    | .arr _ => .array
    | .obj _ => .object
  constant
    | .str s => some (.text s)
    | .bool b => some (.truth b)
    | _ => none
  members
    | .obj fields => fields
    | _ => []
  elements
    | .arr items => items
    | _ => []

/-- `responseFields` are the names and JSON types of the attributes that the embedded specification
declares, where the shape of the response could be resolved. -/
structure SpecOperation where
  operation : Operation
  responseFields : Option (List (String × String))

def typed (type : String) : Schema := { type := some type }

def permissiveStepSchema : Schema := typed "object"

def fieldPropertiesSchema (fields : List (String × String)) (required : List String) : Schema where
  type := some "object"
  properties := fields.map fun field => (field.1, typed field.2)
  required := required

def envelopeSchema (item : Schema) : Schema where
  type := some "object"
  properties := [("data", item), ("meta", typed "object")]
  required := ["data"]

def fanOutSchema (item : Schema) : Schema where
  type := some "object"
  properties := [("byKey", { type := some "object", additional := some (envelopeSchema item) }),
    ("skipped", typed "integer")]
  required := ["byKey"]
  closed := true

def pagesSchema (item : Schema) (resumable : Bool) : Schema where
  type := some "object"
  properties := [("data", { type := some "array", items := some item }),
    ("truncated", typed "boolean"), ("truncatedMessage", typed "string"),
    ("omittedItems", typed "integer")] ++
      if resumable then [("nextCursor", typed "string"), ("resumed", typed "boolean")] else []
  required := ["data", "truncated"]
  closed := true

def buildStepSchema (step : Step) (op : Option SpecOperation) (required : List String) : Schema :=
  match op.bind SpecOperation.responseFields with
  | none => permissiveStepSchema
  | some fields =>
      let item := fieldPropertiesSchema fields required
      if step.forEach ≠ "" then fanOutSchema item
      else if step.followPages then pagesSchema item step.resumable
      else envelopeSchema item

def buildStrictOutputSchema (tool : CompositeTool) (operations : List (String × SpecOperation))
    (requiredFields : List (String × List String)) : Schema where
  type := some "object"
  properties := tool.steps.map (fun step => (step.id, buildStepSchema step
      (operations.lookup step.operation) ((requiredFields.lookup step.id).getD []))) ++
    if tool.result.strategy = "postProcess" then [("summary", typed "object")] else []
  required := tool.steps.map Step.id ++
    if tool.result.strategy = "postProcess" then ["summary"] else []
  closed := true

end BrokerMcp.Composite
