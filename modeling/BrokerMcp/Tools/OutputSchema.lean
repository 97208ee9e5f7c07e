import BrokerMcp.Composite.Bound
import BrokerMcp.Composite.Schema
import BrokerMcp.Tools.Invocation

namespace BrokerMcp.Tools
open Composite JsonSchema
open Dispatch (ToolError RegisteredTool Bounding)

def writeToolIdentifierFields : List (String × List String) :=
  [("create-message-vpn", ["msgVpnName"]),
    ("update-message-vpn", ["msgVpnName"]),
    ("create-queue", ["msgVpnName", "queueName"]),
    ("update-queue", ["msgVpnName", "queueName"]),
    ("create-queue-subscription", ["msgVpnName", "queueName", "subscriptionTopic"]),
    ("create-topic-endpoint", ["msgVpnName", "topicEndpointName"]),
    ("update-topic-endpoint", ["msgVpnName", "topicEndpointName"]),
    ("create-rdp", ["msgVpnName", "restDeliveryPointName"]),
    ("update-rdp", ["msgVpnName", "restDeliveryPointName"]),
    ("create-kafka-receiver", ["msgVpnName", "kafkaReceiverName"]),
    ("update-kafka-receiver", ["msgVpnName", "kafkaReceiverName"]),
    ("create-kafka-receiver-topic-binding", ["msgVpnName", "kafkaReceiverName", "topicName"]),
    ("create-kafka-sender", ["msgVpnName", "kafkaSenderName"]),
    ("update-kafka-sender", ["msgVpnName", "kafkaSenderName"]),
    ("create-kafka-sender-queue-binding", ["msgVpnName", "kafkaSenderName", "queueName"])]

def callsConfigOrActionOperation (tool : CompositeTool) : Bool :=
  tool.steps.any fun step => hasPrefix step.operation "config/" || hasPrefix step.operation "action/"

def hasDesiredStateEligibleStep (tool : CompositeTool)
    (operations : List (String × SpecOperation)) : Bool :=
  tool.steps.any fun step => (operations.lookup step.operation).any fun op =>
    hasPrefix op.operation.id "create" || hasPrefix op.operation.id "delete"

def stepKeyedEnvelopeSchema : Schema where
  type := some "object"
  additional := some (typed "object")

def desiredStateOutcomeSchema : Schema where
  type := some "object"
  properties :=
    [("outcome", { type := some "string", enum := [.text "already_exists", .text "already_absent"] }),
      ("changed", { type := some "boolean", enum := [.truth false] }),
      ("message", typed "string"), ("attributes_verified", typed "boolean")]
  required := ["outcome", "changed", "message"]
  closed := true

def identifierFields (tool : CompositeTool) : List (String × List String) :=
  match writeToolIdentifierFields.lookup tool.name, tool.steps with
  | some fields, step :: _ => [(step.id, fields)]
  | _, _ => []

def outputSchema (tool : CompositeTool) (operations : List (String × SpecOperation)) : Schema :=
  if !callsConfigOrActionOperation tool then stepKeyedEnvelopeSchema
  else
    let strict := buildStrictOutputSchema tool operations (identifierFields tool)
    if hasDesiredStateEligibleStep tool operations then
      { type := some "object", oneOf := [strict, desiredStateOutcomeSchema] }
    else strict

/-- `json.Marshal` of a document, and `Validate` of a compiled schema on a text: its own error, or a
text for each violation. -/
structure Validator where
  marshal : Object → Except ToolError (List UInt8)
  validate : Schema → List UInt8 → Except ToolError (List String)

def formatValidationResult (violations : List String) (errPrefix : String) : Option ToolError :=
  if violations.isEmpty then none
  else some [.link (.text (errPrefix ++ ": " ++ "; ".intercalate violations))]

def validateAgainstCompiledSchema (validator : Validator) (document : Object) (schema : Schema)
    (errPrefix : String) : Except ToolError (List UInt8) :=
  match validator.marshal document with
  | .error err => .error (.link (.text s!"{errPrefix}: marshalling document") :: err)
  | .ok docJSON =>
      match validator.validate schema docJSON with
      | .error err => .error (.link (.text s!"{errPrefix}: schema validation error") :: err)
      | .ok violations =>
          match formatValidationResult violations errPrefix with
          | some err => .error err
          | none => .ok docJSON

/-- `BoundResponse` trims the content that it is given. -/
def CompositeToolHandler.boundResponse (meter : Meter) (tool : CompositeTool) (limit : Nat)
    (content : Object) (size : Nat) : Bounding :=
  let (content, report) := boundToolResponse meter tool content size limit
  if report.truncated then .truncated content
  else if report.unbounded then .unbounded
  else .untouched

def compositeTool (validator : Validator) (meter : Meter) (limit : Nat)
    (operations : List (String × SpecOperation)) (tool : CompositeTool) (rt : RegisteredTool) :
    RegisteredTool :=
  { rt with
    output := fun content => validateAgainstCompiledSchema validator content
      (outputSchema tool operations) "output validation failed"
    bounder := some (CompositeToolHandler.boundResponse meter tool limit) }

end BrokerMcp.Tools
