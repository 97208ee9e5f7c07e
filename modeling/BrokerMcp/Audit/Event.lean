import BrokerMcp.Library.Text
import Mathlib.Data.List.Basic
import Mathlib.Data.String.Basic

/-!
# Audit records

`event.go`. An instant is the number of nanoseconds since the zero time, and its RFC 3339 text is left
as the instant. A missing entry of a map is the empty list of its members. `Applicability.optional`
and the two that depend on the outcome are the ones that `checkPresence` lets pass.
-/

namespace BrokerMcp.Audit
open Text (quote)

/-! ## Vocabularies -/

inductive EventType where
  | operation
  | authSuccess
  | authFailure
  | authzDenied
  | brokerAuthzDenied
  | ownerValidationRejected
  | brokerAuthRetry
  | auditDrop
deriving DecidableEq

def EventType.text : EventType → String
  | .operation => "operation"
  | .authSuccess => "auth_success"
  | .authFailure => "auth_failure"
  | .authzDenied => "authz_denied"
  | .brokerAuthzDenied => "broker_authz_denied"
  | .ownerValidationRejected => "owner_validation_rejected"
  | .brokerAuthRetry => "broker_auth_retry"
  | .auditDrop => "audit_drop"

def EventType.all : List EventType :=
  [.operation, .authSuccess, .authFailure, .authzDenied, .brokerAuthzDenied,
    .ownerValidationRejected, .brokerAuthRetry, .auditDrop]

def EventType.ofText? (text : String) : Option EventType :=
  EventType.all.find? fun t => t.text = text

def outcomeSuccess : String := "success"

def outcomeError : String := "error"

def outcomeCancelled : String := "cancelled"

def errorTypeVocabulary : List String :=
  ["panic", "unknown_tool", "missing_broker", "unknown_broker", "broker_init_error",
    "validation_error", "execution_error", "nil_result", "output_validation_error",
    "marshal_error", "broker_permission_denied", "bad_request"]

def authFailureReasons : List String :=
  ["invalid_token", "expired", "audience_mismatch", "signature_invalid", "missing"]

def authzDeniedReasons : List String := ["missing_claim", "not_permitted"]

def brokerAuthzDeniedReasons : List String := ["permission_denied"]

def ownerValidationRejectedReasons : List String := ["owner_not_found"]

def allOutcomes : List String := [outcomeSuccess, outcomeError, outcomeCancelled]

def retryOutcomes : List String := [outcomeSuccess, outcomeError]

def sortedKeys (keys : List String) : List String := keys.mergeSort fun a b => decide (a ≤ b)

def formatList (items : List String) : String := "[" ++ " ".intercalate items ++ "]"

def eventTypes : List String := sortedKeys (EventType.all.map EventType.text)

/-! ## The field-applicability table -/

inductive Applicability where
  | forbidden
  | optional
  | required
  | onErrorOnly
  | onNonSuccessOnly
deriving DecidableEq

structure Rules where
  outcome : Applicability := .forbidden
  allowedOutcomes : Option (List String) := none
  errorType : Applicability := .forbidden
  reason : Applicability := .forbidden
  reasonVocab : List String := []
  tool : Applicability := .forbidden
  argumentsHash : Applicability := .forbidden
  broker : Applicability := .forbidden
  timing : Applicability := .forbidden
  identity : Applicability := .forbidden
  droppedEventType : Applicability := .forbidden
  requestSent : Applicability := .forbidden

def applicabilityByType : EventType → Rules
  | .operation =>
      { outcome := .required, allowedOutcomes := some allOutcomes, errorType := .onErrorOnly,
        tool := .required, argumentsHash := .required, broker := .required, timing := .required,
        identity := .optional, requestSent := .onNonSuccessOnly }
  | .authSuccess => { identity := .optional }
  | .authFailure =>
      { reason := .required, reasonVocab := authFailureReasons, identity := .optional }
  | .authzDenied =>
      { reason := .required, reasonVocab := authzDeniedReasons, tool := .required,
        identity := .optional }
  | .brokerAuthzDenied =>
      { reason := .required, reasonVocab := brokerAuthzDeniedReasons, tool := .required,
        broker := .required, identity := .optional }
  | .ownerValidationRejected =>
      { reason := .required, reasonVocab := ownerValidationRejectedReasons, tool := .required,
        broker := .required, identity := .optional }
  | .brokerAuthRetry =>
      { outcome := .required, allowedOutcomes := some retryOutcomes, broker := .required,
        timing := .optional, identity := .optional }
  | .auditDrop => { tool := .optional, broker := .optional, droppedEventType := .optional }

/-! ## Records -/

structure Fields where
  type : String
  outcome : String := ""
  errorType : String := ""
  reason : String := ""
  tool : String := ""
  broker : String := ""
  argumentsHash : String := ""
  startedAt : Int := 0
  duration : Int := 0
  panicRecovered : Bool := false
  requestSent : Option Bool := none
  droppedEventType : String := ""
  timestamp : Int := 0

inductive AttrValue where
  | string (s : String)
  | bool (b : Bool)
  | int64 (n : Int)
  | instant (t : Int)
  | group (attrs : List (String × String))
deriving DecidableEq

abbrev Attr := String × AttrValue

structure Event where
  attrs : List Attr
  level : Int
  type : EventType
deriving DecidableEq

structure Principal where
  sub : String
  clientID : String

structure Context where
  correlationID : String
  principal : Option Principal

def levelInfo : Int := 0

def levelWarn : Int := 4

def levelError : Int := 8

def levelByType : EventType → Int
  | .operation | .authSuccess | .brokerAuthRetry => levelInfo
  | .authFailure | .authzDenied | .brokerAuthzDenied | .ownerValidationRejected => levelWarn
  | .auditDrop => levelError

/-! ## Validation -/

def resolveByOutcome (a : Applicability) (outcome : String) : Applicability :=
  match a with
  | .onErrorOnly => if outcome = outcomeError then .required else .forbidden
  | .onNonSuccessOnly => if outcome ≠ outcomeSuccess then .required else .forbidden
  | a => a

def checkPresence (field : String) (present : Bool) (a : Applicability) (type : String) :
    Except String Unit :=
  match a with
  | .required =>
      if present then .ok ()
      else .error ("audit: " ++ field ++ " is required on audit_event_type " ++ quote type)
  | .forbidden =>
      if present then
        .error ("audit: " ++ field ++ " must not be set on audit_event_type " ++ quote type)
      else .ok ()
  | _ => .ok ()

def checkMember (value : String) (vocab : List String) (message : String) : Except String Unit :=
  if value ≠ "" ∧ value ∉ vocab then .error message else .ok ()

def checkOutcome (f : Fields) (r : Rules) : Except String Unit := do
  checkPresence "outcome" (f.outcome ≠ "") r.outcome f.type
  let allowed := r.allowedOutcomes.getD allOutcomes
  checkMember f.outcome allowed
    ("audit: outcome " ++ quote f.outcome ++ " is not valid on audit_event_type " ++ quote f.type ++
      "; must be one of " ++ formatList (sortedKeys allowed))

def checkErrorType (f : Fields) (r : Rules) : Except String Unit := do
  checkPresence "error_type" (f.errorType ≠ "") (resolveByOutcome r.errorType f.outcome) f.type
  checkMember f.errorType errorTypeVocabulary
    ("audit: error_type " ++ quote f.errorType ++ " is outside the closed vocabulary " ++
      formatList (sortedKeys errorTypeVocabulary))

def checkPanicRecovered (f : Fields) : Except String Unit :=
  if f.panicRecovered ∧ (f.outcome ≠ outcomeError ∨ f.errorType ≠ "panic") then
    .error ("audit: panic_recovered requires outcome=" ++ quote outcomeError ++
      " and error_type=\"panic\", got outcome=" ++ quote f.outcome ++ " error_type=" ++
      quote f.errorType)
  else .ok ()

def checkReason (f : Fields) (r : Rules) : Except String Unit := do
  checkPresence "reason" (f.reason ≠ "") r.reason f.type
  checkMember f.reason r.reasonVocab
    ("audit: reason " ++ quote f.reason ++ " is not valid on audit_event_type " ++ quote f.type ++
      "; must be one of " ++ formatList (sortedKeys r.reasonVocab))

def checkDropped (f : Fields) (r : Rules) : Except String Unit := do
  checkPresence "dropped_audit_event_type" (f.droppedEventType ≠ "") r.droppedEventType f.type
  checkMember f.droppedEventType (EventType.all.map EventType.text)
    ("audit: dropped_audit_event_type " ++ quote f.droppedEventType ++
      " is not a known audit_event_type; must be one of " ++ formatList eventTypes)

/-- `formatDuration` is the text of a duration under `%s`. -/
def checkTiming (formatDuration : Int → String) (f : Fields) (r : Rules) : Except String Unit := do
  checkPresence "started_at" (f.startedAt ≠ 0) r.timing f.type
  if f.startedAt = 0 ∧ f.duration ≠ 0 then
    .error ("audit: duration_ms set without started_at on audit_event_type " ++ quote f.type)
  else if f.duration < 0 then
    .error ("audit: duration must not be negative, got " ++ formatDuration f.duration)
  else .ok ()

def validate (formatDuration : Int → String) (f : Fields) (r : Rules) : Except String Unit := do
  checkOutcome f r
  checkErrorType f r
  checkPanicRecovered f
  checkPresence "request_sent" f.requestSent.isSome (resolveByOutcome r.requestSent f.outcome) f.type
  checkReason f r
  checkDropped f r
  checkPresence "tool" (f.tool ≠ "") r.tool f.type
  checkPresence "arguments_hash" (f.argumentsHash ≠ "") r.argumentsHash f.type
  checkPresence "broker" (f.broker ≠ "") r.broker f.type
  checkTiming formatDuration f r

/-! ## The constructor -/

def eventValue : String := "audit"

def auditSchemaVersion : String := "1.4"

def stringAttr (key value : String) : List Attr :=
  if value ≠ "" then [(key, .string value)] else []

def identityAttrs (ctx : Context) (r : Rules) : List Attr :=
  if r.identity = .forbidden then []
  else
    match ctx.principal with
    | none => []
    | some p => ("principal", .group [("sub", p.sub)]) :: stringAttr "agent_client_id" p.clientID

/-- `Duration.Milliseconds` rounds towards zero. -/
def timingAttrs (f : Fields) : List Attr :=
  if f.startedAt ≠ 0 then
    [("started_at_utc", .instant f.startedAt), ("duration_ms", .int64 (f.duration.tdiv 1000000))]
  else []

def eventAttrs (ctx : Context) (now : Int) (f : Fields) (r : Rules) : List Attr :=
  [("event", .string eventValue), ("audit_event_type", .string f.type),
    ("audit_schema_version", .string auditSchemaVersion),
    ("timestamp_utc", .instant (if f.timestamp = 0 then now else f.timestamp))] ++
  stringAttr "correlation_id" ctx.correlationID ++
  identityAttrs ctx r ++
  stringAttr "dropped_audit_event_type" f.droppedEventType ++
  stringAttr "tool" f.tool ++
  stringAttr "broker" f.broker ++
  stringAttr "arguments_hash" f.argumentsHash ++
  stringAttr "outcome" f.outcome ++
  stringAttr "error_type" f.errorType ++
  (if f.panicRecovered then [("panic_recovered", .bool true)] else []) ++
  (f.requestSent.map fun sent => ("request_sent", AttrValue.bool sent)).toList ++
  stringAttr "reason" f.reason ++
  timingAttrs f

def newEvent (formatDuration : Int → String) (ctx : Context) (now : Int) (f : Fields) :
    Except String Event :=
  match EventType.ofText? f.type with
  | none =>
      .error ("audit: unknown audit_event_type " ++ quote f.type ++ "; must be one of " ++
        formatList eventTypes)
  | some type => do
      validate formatDuration f (applicabilityByType type)
      return ⟨eventAttrs ctx now f (applicabilityByType type), levelByType type, type⟩

end BrokerMcp.Audit
