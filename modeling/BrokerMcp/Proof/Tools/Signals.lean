import BrokerMcp.Proof.Audit.Accepted
import BrokerMcp.Tools.Invocation
import Mathlib.Tactic

/-!
# The signals of a call agree

Each way out of `CallTool` sets an error together with its type, or neither (`Coherent`), and the
deferred functions add a panic. The log line, the metric, the span and the operation record then say the
same of the call (`signals_agree`). `reaches` is the way to the destructive gate; with it the records of a
call are listed, and the constructor accepts each of them (`records_accepted`).
-/

namespace BrokerMcp.Proof.Tools
open BrokerMcp.Tools BrokerMcp.Tools.Dispatch BrokerMcp.Composite BrokerMcp.Observability
open BrokerMcp.Audit (Emission)

variable {m : ToolManager} {rt : RegisteredTool} {ctx : CallContext} {name : String}
variable {desiredMessage : DesiredStateOutcome → String} {params : Object} {body : Body}

/-! ## Ways out -/

/-- An error has its type and a type its error. A call without a result has no error either, or is one
of an unknown tool. -/
structure Coherent (body : Body) : Prop where
  paired : body.errorType.isSome = body.toolErr.isSome
  unpanicked : body.errorType ≠ some .panic
  unanswered : body.result = none →
    body.toolErr = none ∨ ∃ text, body.toolErr = some [.link (.text text)]

theorem coherent_fail {errorType : ErrorType} {err : ToolError} {reply : Dispatch.Reply}
    (other : errorType ≠ .panic) : Coherent (body.fail errorType err (some reply)) where
  paired := rfl
  unpanicked := by simpa [Body.fail] using other
  unanswered := by simp [Body.fail]

theorem coherent_of_none (unfailed : body.toolErr = none) (untyped : body.errorType = none) :
    Coherent body where
  paired := by rw [unfailed, untyped]; rfl
  unpanicked := by simp [untyped]
  unanswered := fun _ => .inl unfailed

theorem coherent_finish {built : Built} (unfailed : body.toolErr = none)
    (untyped : body.errorType = none) : Coherent (body.finish built) := by
  cases built with
  | built reply counted => exact coherent_of_none unfailed untyped
  | refused err =>
      refine ⟨rfl, ?_, by simp [Body.finish]⟩
      simp only [Body.finish]
      split <;> simp
  | panicked => exact coherent_of_none unfailed untyped

theorem coherent_runNoBroker : Coherent (runNoBroker m rt name params) := by
  unfold runNoBroker
  split
  · exact coherent_fail (by decide)
  · split
    · exact coherent_of_none rfl rfl
    · exact coherent_fail (by decide)
    · exact coherent_fail (by decide)
    · exact coherent_finish rfl rfl

theorem coherent_resolutionFailure {brokerAlias : String} {err : ToolError} :
    Coherent (resolutionFailure m brokerAlias err) := by
  apply coherent_fail
  unfold classifyBrokerError
  split <;> simp

theorem coherent_handleFailure {err : ToolError} (unfailed : body.toolErr = none)
    (untyped : body.errorType = none) :
    Coherent (handleFailure m rt ctx name desiredMessage body err) := by
  unfold handleFailure
  split
  · exact coherent_fail (by decide)
  · split
    · exact coherent_finish unfailed untyped
    · exact coherent_fail (by decide)

theorem gatedBody_unended (m : ToolManager) (rt : RegisteredTool) (name brokerAlias : String)
    (params : Object) :
    (gatedBody m rt name brokerAlias params).toolErr = none ∧
      (gatedBody m rt name brokerAlias params).errorType = none := by
  unfold gatedBody
  split <;> exact ⟨rfl, rfl⟩

theorem coherent_runValidated {brokerAlias : String} :
    Coherent (runValidated m rt ctx name desiredMessage brokerAlias params) := by
  obtain ⟨unfailed, untyped⟩ := gatedBody_unended m rt name brokerAlias params
  unfold runValidated
  split
  · exact coherent_of_none unfailed untyped
  · exact coherent_handleFailure unfailed untyped
  · exact coherent_fail (by decide)
  · exact coherent_finish unfailed untyped

theorem coherent_runBroker : Coherent (runBroker m rt ctx name desiredMessage params) := by
  unfold runBroker
  split
  · exact coherent_fail (by decide)
  · split
    · exact coherent_resolutionFailure
    · split
      · exact coherent_resolutionFailure
      · unfold runResolved
        split
        · exact coherent_fail (by decide)
        · split
          · exact coherent_fail (by decide)
          · exact coherent_runValidated

theorem coherent_runBody (m : ToolManager) (ctx : CallContext) (name : String)
    (desiredMessage : DesiredStateOutcome → String) (params : Object) :
    Coherent (runBody m ctx name desiredMessage params) := by
  unfold runBody
  split
  · exact ⟨rfl, by simp [Body.fail], fun _ => .inr ⟨_, rfl⟩⟩
  · split
    · exact coherent_runNoBroker
    · exact coherent_runBroker

/-! ## The records of the body -/

def Noted (name brokerAlias : String) (e : Emission) : Prop :=
  e = ownerValidationRejected name brokerAlias ∨ e = brokerAuthzDenied name brokerAlias

theorem noteRejection_emissions (m : ToolManager) (ctx : CallContext) (name : String) (body : Body)
    (err : ToolError) :
    ∃ noted, (noteRejection m ctx name body err).emissions = body.emissions ++ noted ∧
      ∀ e ∈ noted, Noted name body.brokerAlias e := by
  refine ⟨_, rfl, ?_⟩
  intro e member
  split at member
  · exact .inl (List.mem_singleton.mp member)
  · cases member

theorem noteDenial_emissions (m : ToolManager) (name : String) (body : Body) :
    ∃ noted, (noteDenial m name body).emissions = body.emissions ++ noted ∧
      ∀ e ∈ noted, Noted name body.brokerAlias e := by
  refine ⟨_, rfl, ?_⟩
  intro e member
  split at member
  · exact .inr (List.mem_singleton.mp member)
  · cases member

@[simp]
theorem finish_emissions (built : Built) : (body.finish built).emissions = body.emissions := by
  cases built <;> rfl

@[simp]
theorem finish_brokerAlias (built : Built) : (body.finish built).brokerAlias = body.brokerAlias := by
  cases built <;> rfl

@[simp]
theorem finish_auditArgsHash (built : Built) :
    (body.finish built).auditArgsHash = body.auditArgsHash := by
  cases built <;> rfl

structure Extends (name : String) (body later : Body) : Prop where
  brokerAlias : later.brokerAlias = body.brokerAlias
  auditArgsHash : later.auditArgsHash = body.auditArgsHash
  emissions : ∃ noted, later.emissions = body.emissions ++ noted ∧
    ∀ e ∈ noted, Noted name body.brokerAlias e

theorem extends_of_same {later : Body} (broker : later.brokerAlias = body.brokerAlias)
    (hash : later.auditArgsHash = body.auditArgsHash)
    (emissions : later.emissions = body.emissions) : Extends name body later :=
  ⟨broker, hash, [], by rw [emissions, List.append_nil], by simp⟩

theorem extends_handleFailure {err : ToolError} :
    Extends name body (handleFailure m rt ctx name desiredMessage body err) := by
  obtain ⟨rejected, first, isRejected⟩ := noteRejection_emissions m ctx name body err
  unfold handleFailure
  split
  · obtain ⟨denied, second, isDenied⟩ :=
      noteDenial_emissions m name (noteRejection m ctx name body err)
    refine ⟨rfl, rfl, rejected ++ denied, ?_, ?_⟩
    · rw [← List.append_assoc, ← first]
      exact second
    · intro e member
      rcases List.mem_append.mp member with early | late
      · exact isRejected e early
      · exact isDenied e late
  · split
    · exact ⟨finish_brokerAlias _, finish_auditArgsHash _, rejected, (finish_emissions _).trans first,
        isRejected⟩
    · exact ⟨rfl, rfl, rejected, first, isRejected⟩

theorem extends_runValidated (m : ToolManager) (rt : RegisteredTool) (ctx : CallContext)
    (name : String) (desiredMessage : DesiredStateOutcome → String) (brokerAlias : String)
    (params : Object) :
    Extends name (gatedBody m rt name brokerAlias params)
      (runValidated m rt ctx name desiredMessage brokerAlias params) := by
  unfold runValidated
  split
  · exact extends_of_same rfl rfl rfl
  · exact extends_handleFailure
  · exact extends_of_same rfl rfl rfl
  · exact extends_of_same (finish_brokerAlias _) (finish_auditArgsHash _) (finish_emissions _)

def Unhashed (m : ToolManager) (rt : RegisteredTool) (params : Object) : Bool :=
  rt.destructive && m.auditLog && (hashArgs m.digest (redactSensitive params)).toOption.isNone

theorem gatedBody_emissions (m : ToolManager) (rt : RegisteredTool) (name brokerAlias : String)
    (params : Object) :
    (gatedBody m rt name brokerAlias params).emissions =
      if Unhashed m rt params then [.drop ⟨Audit.EventType.operation.text, name, brokerAlias⟩]
      else [] := by
  unfold gatedBody Unhashed
  split
  · rename_i audited
    simp only [audited, Bool.true_and]
    unfold hashArgsForAudit
    split
    · rename_i hashed
      simp [hashed, Except.toOption]
    · rename_i failed
      simp [failed, Except.toOption, Audit.EventType.text]
  · rename_i unaudited
    simp [unaudited]

/-! ## The gate -/

def reaches (m : ToolManager) (name : String) (params : Object) :
    Option (RegisteredTool × String × Object) := do
  let rt ← m.lookup name
  if rt.noBroker || brokerParam params = "" then none
  else
    match m.getSEMPv1 (brokerParam params), m.getSEMPv2 (brokerParam params),
        rt.input (stripBroker params),
        validateHTMLEntityTopic m.unescapeString name (stripBroker params) with
    | .ok (), .ok (), .ok (), none =>
        some (rt, (m.brokerConfig (brokerParam params)).getD (brokerParam params),
          stripBroker params)
    | _, _, _, _ => none

theorem finish_empty (built : Built) :
    (Body.finish {} built).emissions = [] ∧ (Body.finish {} built).auditArgsHash = "" := by
  simp

theorem runBody_reaches {brokerAlias : String} {handlerParams : Object}
    (reached : reaches m name params = some (rt, brokerAlias, handlerParams)) :
    runBody m ctx name desiredMessage params =
      runValidated m rt ctx name desiredMessage brokerAlias handlerParams := by
  unfold reaches at reached
  cases found : m.lookup name with
  | none => simp [found] at reached
  | some tool =>
      simp only [found, Option.bind_eq_bind, Option.bind_some] at reached
      split at reached
      · cases reached
      · rename_i gated
        simp only [Bool.or_eq_true, decide_eq_true_eq, not_or] at gated
        split at reached
        · rename_i first second valid topic
          obtain ⟨rfl, rfl, rfl⟩ := by simpa using reached
          simp [runBody, found, gated, runBroker, first, second, runResolved, valid, topic]
        · cases reached

theorem runBody_unreached (ctx : CallContext) (desiredMessage : DesiredStateOutcome → String)
    (unreached : reaches m name params = none) :
    (runBody m ctx name desiredMessage params).emissions = [] ∧
      (runBody m ctx name desiredMessage params).auditArgsHash = "" := by
  unfold runBody
  unfold reaches at unreached
  cases found : m.lookup name with
  | none => exact ⟨rfl, rfl⟩
  | some tool =>
      simp only [found, Option.bind_eq_bind, Option.bind_some] at unreached
      by_cases brokerless : tool.noBroker
      · simp only [brokerless, if_true, runNoBroker]
        split
        · exact ⟨rfl, rfl⟩
        · split
          · exact ⟨rfl, rfl⟩
          · exact ⟨rfl, rfl⟩
          · exact ⟨rfl, rfl⟩
          · exact finish_empty _
      · simp only [brokerless, runBroker]
        by_cases unnamed : brokerParam params = ""
        · simp only [unnamed, if_true]
          exact ⟨rfl, rfl⟩
        · simp only [brokerless, unnamed] at unreached ⊢
          cases first : m.getSEMPv1 (brokerParam params) with
          | error err => exact ⟨rfl, rfl⟩
          | ok _ =>
              cases second : m.getSEMPv2 (brokerParam params) with
              | error err => exact ⟨rfl, rfl⟩
              | ok _ =>
                  simp only [runResolved]
                  cases valid : tool.input (stripBroker params) with
                  | error err => exact ⟨rfl, rfl⟩
                  | ok _ =>
                      cases topic : validateHTMLEntityTopic m.unescapeString name (stripBroker params) with
                      | some err => exact ⟨rfl, rfl⟩
                      | none => simp [first, second, valid, topic] at unreached

/-! ## The end of a call -/

def CallOutcome.text : CallOutcome → String
  | .success => Audit.outcomeSuccess
  | .error => Audit.outcomeError
  | .cancelled => Audit.outcomeCancelled

theorem text_mem (t : ErrorType) : t.text ∈ Audit.errorTypeVocabulary := by
  cases t <;> decide

@[simp]
theorem recover_emissions : body.recover.emissions = body.emissions := by
  unfold Body.recover
  split <;> rfl

@[simp]
theorem recover_brokerAlias : body.recover.brokerAlias = body.brokerAlias := by
  unfold Body.recover
  split <;> rfl

@[simp]
theorem recover_auditArgsHash : body.recover.auditArgsHash = body.auditArgsHash := by
  unfold Body.recover
  split <;> rfl

theorem recover_paired (coherent : Coherent body) :
    body.recover.errorType.isSome = body.recover.toolErr.isSome := by
  unfold Body.recover
  split
  · rfl
  · exact coherent.paired

theorem classify_of_some {err : ToolError} (failed : ∀ ended, err.isContext ended = false) :
    classifyCallOutcome ctx (some err) = .error := by
  have live : ctx.ended.any err.isContext = false := by
    cases ctx.ended <;> simp [failed]
  simp [classifyCallOutcome, live]

theorem classify_unanswered (coherent : Coherent body) (unanswered : body.result = none) :
    classifyCallOutcome ctx body.recover.toolErr = .error := by
  rcases coherent.unanswered unanswered with none | ⟨text, failed⟩
  · have recovered : body.recover.toolErr = some [.panicError] := by
      simp [Body.recover, none, unanswered]
    rw [recovered]
    apply classify_of_some
    intro ended
    simp [ToolError.isContext]
  · have kept : body.recover.toolErr = some [.link (.text text)] := by
      simp [Body.recover, failed]
    rw [kept]
    apply classify_of_some
    intro ended
    simp [ToolError.isContext]

theorem classify_error {toolErr : Option ToolError} (failed : classifyCallOutcome ctx toolErr = .error) :
    toolErr.isSome := by
  cases toolErr with
  | none => cases failed
  | some err => rfl

theorem errorType_mem (coherent : Coherent body)
    (failed : classifyCallOutcome ctx body.recover.toolErr = .error) :
    errorTypeText body.recover.errorType ∈ Audit.errorTypeVocabulary := by
  have typed : body.recover.errorType.isSome := by
    rw [recover_paired coherent]
    exact classify_error failed
  obtain ⟨t, found⟩ := Option.isSome_iff_exists.mp typed
  rw [found]
  exact text_mem t

def Matches (ctx : CallContext) (call : Invocation) (f : Audit.Fields) : Prop :=
  f.outcome = CallOutcome.text call.outcome ∧ f.errorType = call.line.errorType ∧
    (f.panicRecovered = true ↔ call.line.errorType = "panic") ∧
    f.requestSent = (if call.outcome = .success then none else some ctx.writeSent) ∧
    f.tool = call.line.tool ∧ f.broker = call.body.brokerAlias ∧
    (ctx.logged ≤ ctx.audited → call.line.duration ≤ f.duration)

theorem operationFields_matches :
    Matches ctx (emitSignals m ctx name body)
      (operationFields ctx name body.brokerAlias body.auditArgsHash (errorTypeText body.errorType)
        (classifyCallOutcome ctx body.toolErr)) := by
  cases ended : classifyCallOutcome ctx body.toolErr <;>
    simp [Matches, emitSignals, operationFields, logToolResult, CallOutcome.text, ended]

structure Agrees (call : Invocation) : Prop where
  outcome : call.line.outcome = call.outcome ∧ call.metric.outcome = call.outcome ∧
    call.span.outcome = call.outcome
  errorType : call.metric.errorType = call.line.errorType ∧
    call.span.errorType = call.line.errorType
  tool : call.metric.tool = call.line.tool ∧ call.span.tool = call.line.tool
  failed : (call.line.level = Audit.levelError ↔ call.outcome = .error) ∧
    (call.span.statusError = true ↔ call.outcome = .error)
  untyped : call.outcome ≠ .error → call.line.errorType = ""

theorem emitSignals_agrees : Agrees (emitSignals m ctx name body) := by
  cases ended : classifyCallOutcome ctx body.toolErr <;>
    constructor <;>
    simp [emitSignals, logToolResult, recordToolInvocation, endDispatchSpan, ended, Audit.levelInfo,
      Audit.levelError]

theorem emitSignals_errorType (ended : classifyCallOutcome ctx body.toolErr = .error) :
    (emitSignals m ctx name body).line.errorType = errorTypeText body.errorType := by
  simp [emitSignals, logToolResult, ended]

theorem noted_type {brokerAlias : String} {f : Audit.Fields} {dctx : Audit.DropContext}
    (noted : Noted name brokerAlias (.record f dctx)) :
    f.type ≠ Audit.EventType.operation.text := by
  rcases noted with same | same <;>
    · obtain ⟨rfl, -⟩ := Emission.record.inj same
      simp [Audit.EventType.text]

theorem runBody_records {f : Audit.Fields} {dctx : Audit.DropContext}
    (member : .record f dctx ∈ (runBody m ctx name desiredMessage params).emissions) :
    Noted name (runBody m ctx name desiredMessage params).brokerAlias (.record f dctx) := by
  cases reached : reaches m name params with
  | none =>
      rw [(runBody_unreached ctx desiredMessage reached).1] at member
      cases member
  | some found =>
      obtain ⟨rt, brokerAlias, handlerParams⟩ := found
      rw [runBody_reaches reached] at member ⊢
      have extended := extends_runValidated m rt ctx name desiredMessage brokerAlias handlerParams
      obtain ⟨noted, emissions, isNoted⟩ := extended.emissions
      rw [emissions] at member
      rcases List.mem_append.mp member with before | added
      · rw [gatedBody_emissions] at before
        split at before <;> simp at before
      · rw [extended.brokerAlias]
        exact isNoted _ added

/-- The line, the metric, the span and the operation record of a call say the same of its outcome,
its error type and its tool. The type of an error is of the closed vocabulary, there is none without an
error, and a call that panicked has ended in an error. -/
theorem signals_agree (m : ToolManager) (ctx : CallContext) (name : String)
    (desiredMessage : DesiredStateOutcome → String) (params : Object) :
    Agrees (invoke m ctx name desiredMessage params) ∧
      ((invoke m ctx name desiredMessage params).outcome = .error →
        (invoke m ctx name desiredMessage params).line.errorType ∈ Audit.errorTypeVocabulary) ∧
      ((runBody m ctx name desiredMessage params).result = none →
        (invoke m ctx name desiredMessage params).outcome = .error) ∧
      ∀ f dctx, .record f dctx ∈ (invoke m ctx name desiredMessage params).emissions →
        f.type = Audit.EventType.operation.text →
        Matches ctx (invoke m ctx name desiredMessage params) f := by
  have coherent := coherent_runBody m ctx name desiredMessage params
  refine ⟨emitSignals_agrees, ?_, ?_, ?_⟩
  · intro ended
    rw [invoke, emitSignals_errorType ended]
    exact errorType_mem coherent ended
  · intro unanswered
    exact classify_unanswered coherent unanswered
  · intro f dctx member typed
    rcases List.mem_append.mp member with before | last
    · rw [recover_emissions] at before
      exact absurd typed (noted_type (runBody_records before))
    · split at last
      · obtain ⟨rfl, -⟩ := Emission.record.inj (List.mem_singleton.mp last)
        exact operationFields_matches
      · cases last

/-! ## One operation record -/

def isOperation : Emission → Bool
  | .record f _ => f.type = Audit.EventType.operation.text
  | .drop _ => false

def isOperationDrop : Emission → Bool
  | .record _ _ => false
  | .drop dctx => dctx.droppedEventType = Audit.EventType.operation.text

theorem countP_noted {brokerAlias : String} {noted : List Emission}
    (isNoted : ∀ e ∈ noted, Noted name brokerAlias e) :
    noted.countP isOperation = 0 ∧ noted.countP isOperationDrop = 0 := by
  rw [List.countP_eq_zero, List.countP_eq_zero]
  constructor <;>
    · intro e member
      rcases isNoted e member with rfl | rfl <;>
        simp [ownerValidationRejected, brokerAuthzDenied, isOperation, isOperationDrop,
          Audit.EventType.text]

theorem hashArgs_filled {digest : Digest} (digests : ∀ bytes, digest.sum256 bytes ≠ [])
    {args : Object} {hash : String} (hashed : hashArgs digest args = .ok hash) : hash ≠ "" := by
  unfold hashArgs at hashed
  cases marshalled : digest.marshal (inKeyOrder (.obj args)) with
  | error err => simp [marshalled, Except.mapError, bind, Except.bind] at hashed
  | ok raw =>
      cases canonical : digest.transform raw with
      | error err => simp [marshalled, canonical, Except.mapError, bind, Except.bind] at hashed
      | ok bytes =>
          have encoded := Hex.length_encode (digest.sum256 bytes)
          have filled := List.length_pos_iff.mpr (digests bytes)
          intro empty
          have length : hash.length = (Hex.encode (digest.sum256 bytes)).length := by
            simp [marshalled, canonical, Except.mapError, bind, Except.bind, pure, Except.pure]
              at hashed
            rw [← hashed]
            simp
          rw [empty] at length
          simp at length
          omega

theorem gatedBody_hash (m : ToolManager) (rt : RegisteredTool) (name brokerAlias : String)
    (params : Object) :
    (gatedBody m rt name brokerAlias params).auditArgsHash =
      if rt.destructive && m.auditLog then
        (hashArgs m.digest (redactSensitive params)).toOption.getD ""
      else "" := by
  unfold gatedBody
  split
  · cases hashed : hashArgs m.digest (redactSensitive params) <;>
      simp [hashArgsForAudit, hashed, Except.toOption]
  · rfl

@[simp]
theorem operationFields_type (ctx : CallContext) (tool broker hash errorType : String)
    (outcome : CallOutcome) :
    (operationFields ctx tool broker hash errorType outcome).type = Audit.EventType.operation.text := by
  cases outcome <;> rfl

theorem invoke_counts (ctx : CallContext) (desiredMessage : DesiredStateOutcome → String)
    {brokerAlias : String} {handlerParams : Object}
    (digests : ∀ bytes, m.digest.sum256 bytes ≠ [])
    (reached : reaches m name params = some (rt, brokerAlias, handlerParams)) :
    (invoke m ctx name desiredMessage params).emissions.countP isOperation =
        (if rt.destructive && m.auditLog && !Unhashed m rt handlerParams then 1 else 0) ∧
      (invoke m ctx name desiredMessage params).emissions.countP isOperationDrop =
        if Unhashed m rt handlerParams then 1 else 0 := by
  have extended := extends_runValidated m rt ctx name desiredMessage brokerAlias handlerParams
  obtain ⟨noted, emissions, isNoted⟩ := extended.emissions
  obtain ⟨unrecorded, undropped⟩ := countP_noted isNoted
  have hash := extended.auditArgsHash
  rw [gatedBody_hash] at hash
  rw [gatedBody_emissions] at emissions
  simp only [invoke, emitSignals, recover_emissions, recover_auditArgsHash, runBody_reaches reached,
    emissions, hash, List.countP_append, unrecorded, undropped]
  by_cases audited : (rt.destructive && m.auditLog) = true
  · cases hashed : hashArgs m.digest (redactSensitive handlerParams) with
    | ok h =>
        have filled := hashArgs_filled digests hashed
        simp [Unhashed, audited, hashed, Except.toOption, filled, isOperation, isOperationDrop,
          emitOperationAudit]
    | error err =>
        simp [Unhashed, audited, hashed, Except.toOption, isOperation, isOperationDrop]
  · simp [Unhashed, audited]

def audits (m : ToolManager) (name : String) (params : Object) : Bool :=
  (reaches m name params).any fun found => found.1.destructive && m.auditLog

def hashes (m : ToolManager) (params : Object) : Bool :=
  (hashArgs m.digest (redactSensitive (stripBroker params))).toOption.isSome

theorem reaches_params {brokerAlias : String} {handlerParams : Object}
    (reached : reaches m name params = some (rt, brokerAlias, handlerParams)) :
    handlerParams = stripBroker params ∧
      (brokerAlias = brokerParam params ∧ brokerAlias ≠ "" ∨
        m.brokerConfig (brokerParam params) = some brokerAlias) := by
  unfold reaches at reached
  cases found : m.lookup name with
  | none => simp [found] at reached
  | some tool =>
      simp only [found, Option.bind_eq_bind, Option.bind_some] at reached
      split at reached
      · cases reached
      · rename_i gated
        simp only [Bool.or_eq_true, decide_eq_true_eq, not_or] at gated
        split at reached
        · obtain ⟨rfl, rfl, rfl⟩ := by simpa using reached
          refine ⟨rfl, ?_⟩
          cases config : m.brokerConfig (brokerParam params) with
          | none => exact .inl ⟨rfl, gated.2⟩
          | some display => exact .inr rfl
        · cases reached

theorem invoke_emission {e : Emission}
    (emitted : e ∈ (invoke m ctx name desiredMessage params).emissions) :
    ∃ brokerAlias, Noted name brokerAlias e ∨
      e = .drop ⟨Audit.EventType.operation.text, name, brokerAlias⟩ ∨
      ∃ f : Audit.Fields, f.type = Audit.EventType.operation.text ∧
        e = .record f ⟨Audit.EventType.operation.text, name, brokerAlias⟩ := by
  rcases List.mem_append.mp emitted with before | last
  · rw [recover_emissions] at before
    cases reached : reaches m name params with
    | none =>
        rw [(runBody_unreached ctx desiredMessage reached).1] at before
        cases before
    | some found =>
        obtain ⟨rt, brokerAlias, handlerParams⟩ := found
        have extended := extends_runValidated m rt ctx name desiredMessage brokerAlias handlerParams
        obtain ⟨noted, emissions, isNoted⟩ := extended.emissions
        rw [runBody_reaches reached, emissions, gatedBody_emissions] at before
        rcases List.mem_append.mp before with dropped | added
        · split at dropped
          · exact ⟨brokerAlias, .inr (.inl (List.mem_singleton.mp dropped))⟩
          · cases dropped
        · exact ⟨_, .inl (isNoted e added)⟩
  · split at last
    · rw [List.mem_singleton.mp last]
      exact ⟨_, .inr (.inr ⟨_, operationFields_type _ _ _ _ _ _, rfl⟩)⟩
    · cases last

/-- A call that the audit log covers emits one operation record if its arguments can be hashed and one
notice of its loss if not, however it ends. Every other call emits neither. -/
theorem one_operation_record {m : ToolManager} (digests : ∀ bytes, m.digest.sum256 bytes ≠ [])
    (ctx : CallContext) (name : String) (desiredMessage : DesiredStateOutcome → String)
    (params : Object) :
    (invoke m ctx name desiredMessage params).emissions.countP isOperation =
        (if audits m name params && hashes m params then 1 else 0) ∧
      (invoke m ctx name desiredMessage params).emissions.countP isOperationDrop =
        if audits m name params && !hashes m params then 1 else 0 := by
  cases reached : reaches m name params with
  | none =>
      obtain ⟨empty, unhashed⟩ := runBody_unreached ctx desiredMessage reached
      simp [invoke, emitSignals, empty, unhashed, audits, reached]
  | some found =>
      obtain ⟨rt, brokerAlias, handlerParams⟩ := found
      obtain ⟨rfl, -⟩ := reaches_params reached
      obtain ⟨recorded, dropped⟩ := invoke_counts ctx desiredMessage digests reached
      have unhashed : Unhashed m rt (stripBroker params) =
          (rt.destructive && m.auditLog && !hashes m params) := by
        simp [Unhashed, hashes]
      rw [recorded, dropped, unhashed]
      simp only [audits, reached, Option.any_some]
      by_cases audited : (rt.destructive && m.auditLog) = true <;>
        by_cases hashed : hashes m params = true <;> simp [audited, hashed]

def deleteDigest : Digest where
  marshal _ := .ok "\x7b\"queueName\":\"q\"\x7d".toUTF8.toList
  transform := .ok
  sum256 _ :=
    [231, 53, 92, 166, 184, 156, 248, 91, 132, 17, 239, 247, 195, 34, 156, 246, 26, 10, 138, 90, 72, 88,
      179, 232, 2, 162, 143, 82, 189, 160, 114, 90]

def denyingManager : ToolManager where
  lookup name :=
    if name = "delete-queue" then
      some
        { noBroker := false, destructive := true, input := fun _ => .ok (), output := fun _ => .ok []
          handle := fun _ => .failed [.sempv1 .permission], bounder := none }
    else none
  aliases := ["dev"]
  getSEMPv1 := fun _ => .ok ()
  getSEMPv2 := fun _ => .ok ()
  brokerConfig name := if name = "dev" then some "Dev" else none
  indent := .ok
  responseCap := 100
  auditLog := true
  digest := deleteDigest
  unescapeString := id

def deleteParams : Object := [("broker", .str "dev"), ("queueName", .str "q")]

theorem one_operation_record_denied :
    (invoke denyingManager ⟨none, 1, 2, 2, 3, false, true⟩ "delete-queue" (fun _ => "")
        deleteParams).emissions.countP isOperation = 1 := by
  have counted := one_operation_record (m := denyingManager) (fun _ => List.cons_ne_nil _ _)
    ⟨none, 1, 2, 2, 3, false, true⟩ "delete-queue" (fun _ => "") deleteParams
  rw [counted.1]
  rfl

/-! ## Accepted records -/

theorem complete_noted {brokerAlias : String} {f : Audit.Fields} {dctx : Audit.DropContext}
    (named : name ≠ "") (broker : brokerAlias ≠ "") (noted : Noted name brokerAlias (.record f dctx)) :
    ∃ t : Audit.EventType, f.type = t.text ∧ Audit.Complete f t := by
  rcases noted with same | same
  · obtain ⟨rfl, -⟩ := Emission.record.inj same
    refine ⟨.ownerValidationRejected, rfl, ?_⟩
    simp [Audit.Complete, Audit.Unended, Audit.Untimed, Audit.ownerValidationRejectedReasons, named,
      broker]
  · obtain ⟨rfl, -⟩ := Emission.record.inj same
    refine ⟨.brokerAuthzDenied, rfl, ?_⟩
    simp [Audit.Complete, Audit.Unended, Audit.Untimed, Audit.brokerAuthzDeniedReasons, named, broker]

theorem complete_operation (coherent : Coherent body) (named : name ≠ "") (broker : body.brokerAlias ≠ "")
    (hashed : body.auditArgsHash ≠ "") (started : ctx.start ≠ 0) (ordered : ctx.start ≤ ctx.audited) :
    Audit.Complete
      (operationFields ctx name body.recover.brokerAlias body.recover.auditArgsHash
        (errorTypeText body.recover.errorType) (classifyCallOutcome ctx body.recover.toolErr))
      .operation := by
  rw [recover_brokerAlias, recover_auditArgsHash]
  cases ended : classifyCallOutcome ctx body.recover.toolErr with
  | error =>
      have typed := errorType_mem coherent ended
      simp [Audit.Complete, Audit.Ended, Audit.Timed, operationFields, named, broker, hashed, started,
        ordered, typed, Audit.outcomeSuccess, Audit.outcomeError, Audit.outcomeCancelled]
  | success | cancelled =>
      simp [Audit.Complete, Audit.Ended, Audit.Timed, operationFields, named, broker, hashed, started,
        ordered, Audit.outcomeSuccess, Audit.outcomeError, Audit.outcomeCancelled]

theorem runBody_broker (displayed : ∀ a d, m.brokerConfig a = some d → d ≠ "")
    (emits : (runBody m ctx name desiredMessage params).emissions ≠ [] ∨
      (runBody m ctx name desiredMessage params).auditArgsHash ≠ "") :
    (runBody m ctx name desiredMessage params).brokerAlias ≠ "" := by
  cases reached : reaches m name params with
  | none =>
      obtain ⟨empty, unhashed⟩ := runBody_unreached ctx desiredMessage reached
      rcases emits with filled | filled
      · exact absurd empty filled
      · exact absurd unhashed filled
  | some found =>
      obtain ⟨rt, brokerAlias, handlerParams⟩ := found
      have extended := extends_runValidated m rt ctx name desiredMessage brokerAlias handlerParams
      rw [runBody_reaches reached, extended.brokerAlias]
      have kept : (gatedBody m rt name brokerAlias handlerParams).brokerAlias = brokerAlias := by
        unfold gatedBody
        split <;> rfl
      rw [kept]
      rcases (reaches_params reached).2 with ⟨-, filled⟩ | config
      · exact filled
      · exact displayed _ _ config

/-- The constructor accepts every record that a call emits, so that none of its records is dropped
before it is written. -/
theorem records_accepted {m : ToolManager} {name : String} {ctx : CallContext} (named : name ≠ "")
    (displayed : ∀ a d, m.brokerConfig a = some d → d ≠ "") (started : ctx.start ≠ 0)
    (ordered : ctx.start ≤ ctx.audited) (desiredMessage : DesiredStateOutcome → String)
    (params : Object) (formatDuration : Int → String) (auditCtx : Audit.Context) (now : Int)
    (f : Audit.Fields) (dctx : Audit.DropContext)
    (emitted : .record f dctx ∈ (invoke m ctx name desiredMessage params).emissions) :
    ∃ e, Audit.newEvent formatDuration auditCtx now f = .ok e := by
  have complete : ∃ t : Audit.EventType, f.type = t.text ∧ Audit.Complete f t := by
    rcases List.mem_append.mp emitted with before | last
    · rw [recover_emissions] at before
      have broker := runBody_broker displayed (.inl (List.ne_nil_of_mem before))
      exact complete_noted named broker (runBody_records before)
    · split at last
      · rename_i hashed
        rw [recover_auditArgsHash] at hashed
        have broker := runBody_broker displayed (.inr hashed)
        obtain ⟨rfl, -⟩ := Emission.record.inj (List.mem_singleton.mp last)
        exact ⟨.operation, operationFields_type _ _ _ _ _ _,
          complete_operation (coherent_runBody _ _ _ _ _) named broker hashed started ordered⟩
      · cases last
  obtain ⟨t, typed, complete⟩ := complete
  exact ⟨_, Audit.newEvent_ok.mpr ⟨t, typed, complete, rfl⟩⟩

theorem records_accepted_denied :
    ∃ e, Audit.newEvent toString ⟨"", none⟩ 2
      (operationFields ⟨none, 1, 2, 2, 3, false, true⟩ "delete-queue" "Dev"
        "e7355ca6b89cf85b8411eff7c3229cf61a0a8a5a4858b3e802a28f52bda0725a" "broker_permission_denied"
        .error) = .ok e := by
  have displayed : ∀ a d, denyingManager.brokerConfig a = some d → d ≠ "" := by
    intro a d config
    simp only [denyingManager] at config
    split at config
    · rw [← Option.some.inj config]
      decide
    · cases config
  have emitted : Emission.record (operationFields ⟨none, 1, 2, 2, 3, false, true⟩ "delete-queue" "Dev"
        "e7355ca6b89cf85b8411eff7c3229cf61a0a8a5a4858b3e802a28f52bda0725a" "broker_permission_denied"
        .error)
      { droppedEventType := Audit.EventType.operation.text, tool := "delete-queue", broker := "Dev" } ∈
      (invoke denyingManager ⟨none, 1, 2, 2, 3, false, true⟩ "delete-queue" (fun _ => "")
        deleteParams).emissions := .tail _ (.head _)
  exact records_accepted (by decide) displayed (by decide) (by decide) _ _ _ _ _ _ _ emitted

end BrokerMcp.Proof.Tools
