import BrokerMcp.Audit.Emit
import BrokerMcp.Observability.Hash
import BrokerMcp.Tools.OwnerValidation
import BrokerMcp.Tools.TopicValidation

/-!
# An invocation and its signals

`ToolManager.CallTool` with its two deferred functions, `classifyCallOutcome`, `logToolResult`,
`recordToolInvocation` and `endDispatchSpan`, for any handler. An error is the list of what
`errors.Unwrap` makes of it, outermost first. What the call asks of the rest of the server is in a
`ToolManager`, and what happens to it from outside is in a `CallContext`.

A call that panics has no result and no error. The body of the call is a `Body`, the state its deferred
functions find.
-/

namespace BrokerMcp.Tools.Dispatch
open Resilience BrokerMcp.Composite BrokerMcp.Observability
open Audit (Emission)
open Text (quote)

/-! ## Errors -/

inductive ErrorKind where
  | unknown
  | http
  | parse
  | permission
  | limit
  | executeFail
deriving DecidableEq

inductive ToolLink where
  | link (l : Link)
  | sempv1 (kind : ErrorKind)
  | requestBody
  | ownerNotFound
  | ownerCheckFailed
  | htmlEntityTopic
  | unknownBroker
  | outputSchemaInvalid
  | outputMarshalFailed
  | panicError
deriving DecidableEq

abbrev ToolError := List ToolLink

def ToolLink.link? : ToolLink → Option Link
  | .link l => some l
  | _ => none

def ToolError.chain (err : ToolError) : Chain := err.filterMap ToolLink.link?

def ToolError.isContext (err : ToolError) (ended : ContextError) : Bool :=
  ToolLink.link (.foreign (.context ended)) ∈ err

def isAuthzDenial (err : ToolError) : Bool :=
  ToolLink.sempv1 .permission ∈ err ||
    (err.chain.findSome? Link.semp?).any fun e => e.sempCode = 72 && e.statusCode ≠ 401

def isOwnerValidationRejection (err : ToolError) : Bool := ToolLink.ownerNotFound ∈ err

/-! ## Vocabularies -/

inductive ErrorType where
  | panic
  | badRequest
  | unknownTool
  | missingBroker
  | unknownBroker
  | brokerInitError
  | validationError
  | executionError
  | nilResult
  | outputValidationError
  | marshalError
  | brokerPermissionDenied
deriving DecidableEq

def ErrorType.text : ErrorType → String
  | .panic => "panic"
  | .badRequest => "bad_request"
  | .unknownTool => "unknown_tool"
  | .missingBroker => "missing_broker"
  | .unknownBroker => "unknown_broker"
  | .brokerInitError => "broker_init_error"
  | .validationError => "validation_error"
  | .executionError => "execution_error"
  | .nilResult => "nil_result"
  | .outputValidationError => "output_validation_error"
  | .marshalError => "marshal_error"
  | .brokerPermissionDenied => "broker_permission_denied"

def errorTypeText (errorType : Option ErrorType) : String := (errorType.map ErrorType.text).getD ""

inductive CallOutcome where
  | success
  | error
  | cancelled
deriving DecidableEq

/-! ## The server -/

/-- `none` in place of a result is a panic. -/
inductive Handled where
  | returned (content : Option Object) (isError : Bool)
  | failed (err : ToolError)
  | panicked

inductive Bounding where
  | truncated (content : Object)
  | unbounded
  | untouched
  | panicked

structure RegisteredTool where
  noBroker : Bool
  destructive : Bool
  input : Object → Except ToolError Unit
  output : Object → Except ToolError (List UInt8)
  handle : Object → Handled
  bounder : Option (Object → Nat → Bounding)

structure ToolManager where
  lookup : String → Option RegisteredTool
  aliases : List String
  getSEMPv1 : String → Except ToolError Unit
  getSEMPv2 : String → Except ToolError Unit
  brokerConfig : String → Option String
  indent : List UInt8 → Except ToolError (List UInt8)
  responseCap : Nat
  auditLog : Bool
  digest : Digest
  unescapeString : String → String

/-- The end of the call's context, if any, the clock at the start and as the line, the metric and the
record read it in this order, and what the send recorder of the call says. -/
structure CallContext where
  ended : Option ContextError
  start : Int
  logged : Int
  measured : Int
  audited : Int
  budgetExpired : Bool
  writeSent : Bool

def classifyCallOutcome (ctx : CallContext) (toolErr : Option ToolError) : CallOutcome :=
  match toolErr with
  | none => .success
  | some err =>
      if ctx.budgetExpired && err.isContext .deadlineExceeded then .error
      else if ctx.ended.any err.isContext then .cancelled
      else .error

/-! ## The body -/

inductive Reply where
  | content (content : Object) (text : List UInt8) (isError : Bool)
  | localError (err : ToolError)
  | brokerError (err : ToolError)
  | topicError (err : HtmlEntityTopicError)

inductive Counted where
  | brokerAuthzDenied (broker : String)
  | ownerRejected (broker : String)
  | ownerCheckFailed (broker : String)
  | responseTruncated
  | responseUnbounded

structure Body where
  /-- The result is the reply of a call that returns one. An error without one is the protocol's. -/
  result : Option Reply := none
  toolErr : Option ToolError := none
  errorType : Option ErrorType := none
  brokerAlias : String := ""
  desired : Option DesiredStateOutcome := none
  auditArgsHash : String := ""
  emissions : List Emission := []
  counted : List Counted := []

def brokerLabelNone : String := "none"

def brokerLabelUnknown : String := "unknown"

def canonicalBrokerLabel (m : ToolManager) (brokerAlias : String) : String :=
  if brokerAlias = "" then brokerLabelNone else (m.brokerConfig brokerAlias).getD brokerLabelUnknown

inductive Built where
  | built (reply : Reply) (counted : List Counted)
  | refused (err : ToolError)
  | panicked

def boundResult (m : ToolManager) (rt : RegisteredTool) (content : Object) (text : List UInt8) :
    Bounding → Built
  | .truncated trimmed =>
      match rt.output trimmed with
      | .error err => .refused (.outputSchemaInvalid :: err)
      | .ok compact =>
          match m.indent compact with
          | .error err => .refused (.outputSchemaInvalid :: err)
          | .ok indented => .built (.content trimmed indented false) [.responseTruncated]
  | .unbounded => .built (.content content text false) [.responseUnbounded]
  | .untouched => .built (.content content text false) []
  | .panicked => .panicked

def buildValidatedResult (m : ToolManager) (rt : RegisteredTool) (content : Object)
    (isError : Bool) : Built :=
  match rt.output content with
  | .error err => .refused (.outputSchemaInvalid :: err)
  | .ok resultJSON =>
      match m.indent resultJSON with
      | .error err => .refused (.outputMarshalFailed :: err)
      | .ok indented =>
          match rt.bounder with
          | none => .built (.content content indented isError) []
          | some bounder =>
              if !isError && indented.length > m.responseCap then
                boundResult m rt content indented (bounder content indented.length)
              else .built (.content content indented isError) []

def Body.finish (body : Body) : Built → Body
  | .built reply counted =>
      { body with result := some reply, counted := body.counted ++ counted }
  | .refused err =>
      { body with
        result := some (.localError err)
        toolErr := some err
        errorType := some
          (if ToolLink.outputSchemaInvalid ∈ err then .outputValidationError else .marshalError) }
  | .panicked => body

def Body.fail (body : Body) (errorType : ErrorType) (err : ToolError) (reply : Option Reply) : Body :=
  { body with result := reply, toolErr := some err, errorType := some errorType }

def executing (name : String) (err : ToolError) : ToolError :=
  .link (.text s!"executing tool {quote name}") :: err

def nilResult (name : String) : ToolError := [.link (.text s!"tool {quote name} returned nil result")]

def runNoBroker (m : ToolManager) (rt : RegisteredTool) (name : String) (params : Object) : Body :=
  match rt.input params with
  | .error err => Body.fail {} .validationError err (some (.localError err))
  | .ok () =>
      match rt.handle params with
      | .panicked => {}
      | .failed err =>
          let toolErr := executing name err
          Body.fail {} .executionError toolErr (some (.brokerError toolErr))
      | .returned none _ =>
          Body.fail {} .nilResult (nilResult name) (some (.localError (nilResult name)))
      | .returned (some content) isError =>
          Body.finish {} (buildValidatedResult m rt content isError)

def classifyBrokerError (m : ToolManager) (brokerAlias : String) (err : ToolError) :
    ErrorType × ToolError :=
  if ToolLink.unknownBroker ∈ err then
    (.unknownBroker, [.link (.text ("unknown broker " ++ quote brokerAlias ++
      "; available brokers: " ++ ", ".intercalate m.aliases))])
  else (.brokerInitError, .link (.text s!"connecting to broker {quote brokerAlias}") :: err)

def resolutionFailure (m : ToolManager) (brokerAlias : String) (err : ToolError) : Body :=
  let classified := classifyBrokerError m brokerAlias err
  let reply :=
    if classified.1 = .unknownBroker then Reply.localError classified.2
    else Reply.brokerError classified.2
  Body.fail { brokerAlias := brokerAlias } classified.1 classified.2 (some reply)

def recordOwnerValidation (ctx : CallContext) (broker : String) (err : ToolError) : List Counted :=
  if isOwnerValidationRejection err then [.ownerRejected broker]
  else if ToolLink.ownerCheckFailed ∈ err then
    if classifyCallOutcome ctx (some err) = .cancelled then [] else [.ownerCheckFailed broker]
  else []

def ownerValidationRejected (name broker : String) : Emission :=
  .record
    { type := Audit.EventType.ownerValidationRejected.text, reason := "owner_not_found", tool := name,
      broker := broker }
    { droppedEventType := Audit.EventType.ownerValidationRejected.text, tool := name,
      broker := broker }

def brokerAuthzDenied (name broker : String) : Emission :=
  .record
    { type := Audit.EventType.brokerAuthzDenied.text, reason := "permission_denied", tool := name,
      broker := broker }
    { droppedEventType := Audit.EventType.brokerAuthzDenied.text, tool := name, broker := broker }

def desiredContent (outcome : DesiredStateOutcome) (message : String) : Object :=
  match outcome.outcome with
  | .alreadyExists =>
      [("outcome", .str "already_exists"), ("changed", .bool false), ("message", .str message),
        ("attributes_verified", .bool false)]
  | .alreadyAbsent =>
      [("outcome", .str "already_absent"), ("changed", .bool false), ("message", .str message)]

def noteRejection (m : ToolManager) (ctx : CallContext) (name : String) (body : Body)
    (err : ToolError) : Body :=
  { body with
    emissions := body.emissions ++
      if m.auditLog && isOwnerValidationRejection err then
        [ownerValidationRejected name body.brokerAlias]
      else []
    counted := body.counted ++
      recordOwnerValidation ctx (canonicalBrokerLabel m body.brokerAlias) err }

def noteDenial (m : ToolManager) (name : String) (body : Body) : Body :=
  { body with
    emissions := body.emissions ++
      if m.auditLog then [brokerAuthzDenied name body.brokerAlias] else []
    counted := body.counted ++ [.brokerAuthzDenied (canonicalBrokerLabel m body.brokerAlias)] }

def handleFailure (m : ToolManager) (rt : RegisteredTool) (ctx : CallContext) (name : String)
    (desiredMessage : DesiredStateOutcome → String) (body : Body) (err : ToolError) : Body :=
  if isAuthzDenial err then
    Body.fail (noteDenial m name (noteRejection m ctx name body err)) .brokerPermissionDenied
      (executing name err) (some (.brokerError (executing name err)))
  else
    match classifyDesiredStateOutcome err.chain with
    | some outcome =>
        Body.finish { noteRejection m ctx name body err with desired := some outcome }
          (buildValidatedResult m rt (desiredContent outcome (desiredMessage outcome)) false)
    | none =>
        Body.fail (noteRejection m ctx name body err) .executionError (executing name err)
          (some (.brokerError (executing name err)))

def gatedBody (m : ToolManager) (rt : RegisteredTool) (name brokerAlias : String) (params : Object) :
    Body :=
  if rt.destructive && m.auditLog then
    let (hash, dropped) := hashArgsForAudit m.digest name brokerAlias params
    { brokerAlias := brokerAlias
      auditArgsHash := hash
      emissions := (dropped.map fun d => Emission.drop ⟨d.droppedEventType, d.tool, d.broker⟩).toList }
  else { brokerAlias := brokerAlias }

/-- From that gate on, with the parameters the handler gets. -/
def runValidated (m : ToolManager) (rt : RegisteredTool) (ctx : CallContext) (name : String)
    (desiredMessage : DesiredStateOutcome → String) (brokerAlias : String) (params : Object) : Body :=
  match rt.handle params with
  | .panicked => gatedBody m rt name brokerAlias params
  | .failed err =>
      handleFailure m rt ctx name desiredMessage (gatedBody m rt name brokerAlias params) err
  | .returned none _ =>
      Body.fail (gatedBody m rt name brokerAlias params) .nilResult (nilResult name)
        (some (.localError (nilResult name)))
  | .returned (some content) isError =>
      Body.finish (gatedBody m rt name brokerAlias params) (buildValidatedResult m rt content isError)

def missingBroker (m : ToolManager) : ToolError :=
  [.link (.text ("broker parameter is required; available brokers: " ++
    ", ".intercalate m.aliases))]

def runResolved (m : ToolManager) (rt : RegisteredTool) (ctx : CallContext) (name : String)
    (desiredMessage : DesiredStateOutcome → String) (brokerAlias : String) (params : Object) : Body :=
  match rt.input params with
  | .error err =>
      Body.fail { brokerAlias := brokerAlias } .validationError err (some (.localError err))
  | .ok () =>
      match validateHTMLEntityTopic m.unescapeString name params with
      | some entityErr =>
          Body.fail { brokerAlias := brokerAlias } .validationError [.htmlEntityTopic]
            (some (.topicError entityErr))
      | none => runValidated m rt ctx name desiredMessage brokerAlias params

def brokerParam (params : Object) : String := (params.str? "broker").getD ""

def runBroker (m : ToolManager) (rt : RegisteredTool) (ctx : CallContext) (name : String)
    (desiredMessage : DesiredStateOutcome → String) (params : Object) : Body :=
  if brokerParam params = "" then
    Body.fail {} .missingBroker (missingBroker m) (some (.localError (missingBroker m)))
  else
    match m.getSEMPv1 (brokerParam params) with
    | .error err => resolutionFailure m (brokerParam params) err
    | .ok () =>
        match m.getSEMPv2 (brokerParam params) with
        | .error err => resolutionFailure m (brokerParam params) err
        | .ok () =>
            runResolved m rt ctx name desiredMessage
              ((m.brokerConfig (brokerParam params)).getD (brokerParam params)) (stripBroker params)

def runBody (m : ToolManager) (ctx : CallContext) (name : String)
    (desiredMessage : DesiredStateOutcome → String) (params : Object) : Body :=
  match m.lookup name with
  | none => Body.fail {} .unknownTool [.link (.text ("unknown tool " ++ quote name))] none
  | some rt =>
      if rt.noBroker then runNoBroker m rt name params
      else runBroker m rt ctx name desiredMessage params

/-! ## The signals -/

inductive Detail where
  | goType
  | message
  | requestBody
deriving DecidableEq

structure LogLine where
  level : Int
  tool : String
  broker : String
  outcome : CallOutcome
  errorType : String := ""
  desired : Option DesiredStateOutcome := none
  requestSent : Option Bool := none
  duration : Int
  detail : Option Detail := none

def ToolLink.audited : ToolLink → Bool
  | .sempv1 _ => true
  | .link (.semp _) | .link (.retriesExhausted _) | .link (.brokerBusy _ _) | .link (.exchange _) =>
      true
  | _ => false

def detailOf (err : ToolError) : Detail :=
  if ToolLink.requestBody ∈ err then .requestBody
  else if err.any ToolLink.audited then .message
  else .goType

def logToolResult (ctx : CallContext) (tool : String) (body : Body) (outcome : CallOutcome) :
    LogLine :=
  let broker := if body.brokerAlias = "" then brokerLabelNone else body.brokerAlias
  let duration := ctx.logged - ctx.start
  match outcome with
  | .success =>
      { level := Audit.levelInfo, tool := tool, broker := broker, outcome := .success,
        desired := body.desired, duration := duration }
  | .cancelled =>
      { level := Audit.levelInfo, tool := tool, broker := broker, outcome := .cancelled,
        requestSent := some ctx.writeSent, duration := duration }
  | .error =>
      { level := Audit.levelError, tool := tool, broker := broker, outcome := .error,
        errorType := errorTypeText body.errorType, duration := duration,
        detail := body.toolErr.map detailOf }

structure Metric where
  tool : String
  broker : String
  outcome : CallOutcome
  errorType : String
  duration : Int

def recordToolInvocation (m : ToolManager) (ctx : CallContext) (tool : String) (body : Body)
    (outcome : CallOutcome) : Metric :=
  { tool := tool, broker := canonicalBrokerLabel m body.brokerAlias, outcome := outcome
    errorType := if outcome = .error then errorTypeText body.errorType else ""
    duration := ctx.measured - ctx.start }

structure DispatchSpan where
  tool : String
  broker : String
  outcome : CallOutcome
  errorType : String
  statusError : Bool

def endDispatchSpan (m : ToolManager) (tool : String) (body : Body) (outcome : CallOutcome) :
    DispatchSpan :=
  { tool := tool, broker := canonicalBrokerLabel m body.brokerAlias, outcome := outcome
    errorType := if outcome = .error then errorTypeText body.errorType else ""
    statusError := outcome = .error }

def operationFields (ctx : CallContext) (tool broker argsHash : String) (errorType : String)
    (outcome : CallOutcome) : Audit.Fields :=
  let fields : Audit.Fields :=
    { type := Audit.EventType.operation.text, outcome := Audit.outcomeSuccess, tool := tool,
      broker := broker, argumentsHash := argsHash, startedAt := ctx.start,
      duration := ctx.audited - ctx.start,
      requestSent := if outcome = .success then none else some ctx.writeSent }
  match outcome with
  | .success => fields
  | .cancelled => { fields with outcome := Audit.outcomeCancelled }
  | .error =>
      { fields with
        outcome := Audit.outcomeError
        errorType := errorType
        panicRecovered := errorType = "panic" }

def emitOperationAudit (ctx : CallContext) (tool : String) (body : Body) (outcome : CallOutcome) :
    Emission :=
  .record
    (operationFields ctx tool body.brokerAlias body.auditArgsHash (errorTypeText body.errorType)
      outcome)
    { droppedEventType := Audit.EventType.operation.text, tool := tool, broker := body.brokerAlias }

structure Invocation where
  body : Body
  outcome : CallOutcome
  line : LogLine
  metric : Metric
  span : DispatchSpan
  emissions : List Emission

/-- The first deferred function: a call with neither an error nor a result has panicked. -/
def Body.recover (body : Body) : Body :=
  if body.toolErr.isNone && body.result.isNone then
    { body with errorType := some .panic, toolErr := some [.panicError] }
  else body

/-- The rest of the deferred functions, which decide the outcome once. -/
def emitSignals (m : ToolManager) (ctx : CallContext) (name : String) (body : Body) : Invocation :=
  let outcome := classifyCallOutcome ctx body.toolErr
  { body := body
    outcome := outcome
    line := logToolResult ctx name body outcome
    metric := recordToolInvocation m ctx name body outcome
    span := endDispatchSpan m name body outcome
    emissions := body.emissions ++
      if body.auditArgsHash ≠ "" then [emitOperationAudit ctx name body outcome] else [] }

def invoke (m : ToolManager) (ctx : CallContext) (name : String)
    (desiredMessage : DesiredStateOutcome → String) (params : Object) : Invocation :=
  emitSignals m ctx name (runBody m ctx name desiredMessage params).recover

end BrokerMcp.Tools.Dispatch
